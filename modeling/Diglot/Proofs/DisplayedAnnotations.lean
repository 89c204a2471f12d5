import Diglot.Proofs.UnseenAnnotations

/-!
# Which annotations are displayed

A list of annotations is brought into public form, checked for nullability annotations that the
configuration does not accept, extended by a non-null annotation where Java needs one, freed of
duplicates and then filtered. What comes of these steps is said here in one statement.

* `Annotation.firsts` — the members with which an identifier occurs first, by their positions.
  `distinct_eq_firsts`: these are left when duplicates are dropped.
* `Annotation.distinct_repeat` — a member that occurs again goes unnoticed.
* `Context.AddsNonNull` — when a non-null annotation is added at the end.
* `displayed_exactly` — which lists fail and how, and what is displayed of the others.
-/

namespace Diglot

open Annotation

namespace Annotation

/-! ## The first with each identifier -/

/-- The annotations at the positions before which none has the same identifier, in order. -/
def firsts (annotations : List Annotation) : List Annotation :=
  ((List.finRange annotations.length).filter fun i =>
    ∀ j < i, annotations[j].identifier ≠ annotations[i].identifier).map fun i => annotations[i]

/-- Behind a member its identifier counts as seen, whether or not it was seen before. -/
theorem distinctFrom_cons (a : Annotation) (rest : List Annotation) (seen : List String) :
    distinctFrom seen (a :: rest) =
      (if a.identifier ∈ seen then [] else [a]) ++ distinctFrom (a.identifier :: seen) rest := by
  rw [distinctFrom]
  by_cases known : a.identifier ∈ seen
  · rw [if_pos (List.contains_iff_mem.mpr known), if_pos known, List.nil_append]
    refine (distinctFrom_congr rest fun i => ?_).symm
    rw [List.mem_cons]
    exact or_iff_right_of_imp fun same => same ▸ known
  · rw [if_neg (fun h => known (List.contains_iff_mem.mp h)), if_neg known]
    rfl

/-- What is kept beside those seen before stands at positions with new identifiers. -/
theorem distinctFrom_eq (annotations : List Annotation) (seen : List String) :
    distinctFrom seen annotations =
      ((List.finRange annotations.length).filter fun i =>
        annotations[i].identifier ∉ seen ∧
          ∀ j < i, annotations[j].identifier ≠ annotations[i].identifier).map
            fun i => annotations[i] := by
  induction annotations generalizing seen with
  | nil => rfl
  | cons a rest ih =>
    have later : ∀ i : Fin rest.length,
        ((a :: rest)[i.succ].identifier ∉ seen ∧
            ∀ j < i.succ, (a :: rest)[j].identifier ≠ (a :: rest)[i.succ].identifier) ↔
          (rest[i].identifier ∉ a.identifier :: seen ∧
            ∀ j < i, rest[j].identifier ≠ rest[i].identifier) := by
      intro i
      simp only [Fin.forall_fin_succ, List.mem_cons, not_or]
      simp
      tauto
    have positions : List.finRange (a :: rest).length =
        0 :: (List.finRange rest.length).map Fin.succ := List.finRange_succ
    have behind : ((List.finRange rest.length).filter ((fun i : Fin (a :: rest).length =>
        decide ((a :: rest)[i].identifier ∉ seen ∧
          ∀ j < i, (a :: rest)[j].identifier ≠ (a :: rest)[i].identifier)) ∘ Fin.succ)) =
        (List.finRange rest.length).filter fun i =>
          rest[i].identifier ∉ a.identifier :: seen ∧
            ∀ j < i, rest[j].identifier ≠ rest[i].identifier :=
      List.filter_congr fun i _ => decide_eq_decide.mpr (later i)
    rw [distinctFrom_cons, ih, positions, List.filter_cons, List.filter_map, behind]
    by_cases known : a.identifier ∈ seen
    · simp [known]
    · simp [known]

/-- **Dropping duplicates leaves the first with each identifier.** -/
theorem distinct_eq_firsts (annotations : List Annotation) :
    distinct annotations = firsts annotations := by
  rw [distinct, distinctFrom_eq, firsts]
  simp only [List.not_mem_nil, not_false_eq_true, true_and]

/-! ## Repeated members -/

/-- What has the identifier of one before it is dropped. -/
theorem distinctFrom_repeat {a : Annotation} (before after : List Annotation) (seen : List String)
    (known : a.identifier ∈ seen ∨ ∃ b ∈ before, b.identifier = a.identifier) :
    distinctFrom seen (before ++ a :: after) = distinctFrom seen (before ++ after) := by
  induction before generalizing seen with
  | nil =>
    have known : a.identifier ∈ seen := known.resolve_right nofun
    rw [List.nil_append, List.nil_append, distinctFrom, if_pos (List.contains_iff_mem.mpr known)]
  | cons b rest ih =>
    rw [List.cons_append, List.cons_append, distinctFrom_cons, distinctFrom_cons, ih]
    rcases known with known | ⟨c, mem, same⟩
    · exact Or.inl (List.mem_cons_of_mem _ known)
    · rcases List.mem_cons.mp mem with rfl | mem
      · exact Or.inl (same ▸ List.mem_cons_self ..)
      · exact Or.inr ⟨c, mem, same⟩

/-- **What has the identifier of one before it is dropped** from the whole list. -/
theorem distinct_repeat {a : Annotation} (before after : List Annotation)
    (known : ∃ b ∈ before, b.identifier = a.identifier) :
    distinct (before ++ a :: after) = distinct (before ++ after) :=
  distinctFrom_repeat before after [] (Or.inr known)

/-- A whole list of annotations with identifiers of those before it is dropped. -/
theorem distinct_append (annotations more : List Annotation)
    (known : ∀ a ∈ more, ∃ b ∈ annotations, b.identifier = a.identifier) :
    distinct (annotations ++ more) = distinct annotations := by
  induction more with
  | nil => rw [List.append_nil]
  | cons a rest ih =>
    rw [distinct_repeat annotations rest (known a (List.mem_cons_self ..))]
    exact ih fun b mem => known b (List.mem_cons_of_mem _ mem)

/-- An annotation at the end is kept if none has its identifier. -/
theorem distinct_concat (annotations : List Annotation) (a : Annotation)
    (fresh : ∀ b ∈ annotations, b.identifier ≠ a.identifier) :
    distinct (annotations ++ [a]) = distinct annotations ++ [a] := by
  have kept : ∀ seen : List String, a.identifier ∉ seen →
      distinctFrom seen (annotations ++ [a]) = distinctFrom seen annotations ++ [a] := by
    induction annotations with
    | nil =>
      intro seen unknown
      rw [List.nil_append, distinctFrom_cons, if_neg unknown]
      rfl
    | cons b rest ih =>
      intro seen unknown
      have other := fresh b (List.mem_cons_self ..)
      have unknown : a.identifier ∉ b.identifier :: seen := by
        rw [List.mem_cons, not_or]
        exact ⟨other.symm, unknown⟩
      rw [List.cons_append, distinctFrom_cons, distinctFrom_cons, List.append_assoc,
        ih (fun c mem => fresh c (List.mem_cons_of_mem _ mem)) _ unknown]
  exact kept [] List.not_mem_nil

/-! ## Public forms -/

/-- **The nullability annotations of the platform have public counterparts**, with the same
arguments. -/
theorem publicForm_of_platform {a : Annotation}
    (platform : a.identity.package = "android.annotation")
    (states : a.className = "Nullable" ∨ a.className = "NonNull") :
    a.publicForm = ⟨.ofClass "androidx.annotation" a.className, a.arguments⟩ := by
  rw [publicForm, if_pos (by simp [platform, states])]

/-- **What is no nullability annotation of the platform is its own public form.** -/
theorem publicForm_of_not_platform {a : Annotation}
    (other : ¬ (a.identity.package = "android.annotation" ∧
      (a.className = "Nullable" ∨ a.className = "NonNull"))) :
    a.publicForm = a := by
  rw [publicForm, if_neg (by simpa using other)]

/-- The public form has the class name of the annotation. -/
theorem className_publicForm (a : Annotation) : a.publicForm.className = a.className := by
  rw [publicForm]
  split
  · rfl
  · rfl

/-- The public form states nullability if the annotation does. -/
theorem isNullability_publicForm (a : Annotation) :
    a.publicForm.isNullability = a.isNullability := by
  rw [isNullability, isNullability, className_publicForm]

end Annotation

/-! ## What is refused and what is added -/

namespace Context

/-- Whether an annotation states nullability and the configuration does not accept it. -/
def refuses (context : Context) (a : Annotation) : Bool :=
  a.isNullability && !context.config.isValidNullability a.fullName

/-- **When the public non-null annotation is added** to those that an element of the given
nullability has. -/
structure AddsNonNull (context : Context) (annotations : List Annotation)
    (nullability : Nullability) : Prop where
  /-- the display is in Java -/
  java : context.dialect = .java
  /-- the element has no nullability annotation -/
  unstated : ∀ a ∈ annotations, a.isNullability = false
  /-- it is not null -/
  nonNull : nullability = .kotlinDefault ∨ nullability = .annotatedNonNull
  /-- nothing else has the identifier of the annotation -/
  fresh : ∀ a ∈ annotations, a.identifier ≠ publicNonNull.identifier
  /-- the configuration does not exclude it -/
  notExcluded : context.config.isExcluded .java publicNonNull.fullName = false
  /-- nor does it hide it -/
  notHidden : context.config.isHidden publicNonNull.fullName = false

/-- What is displayed of a list of annotations: of the public forms those with which an identifier
occurs first, unless they are of no interest or state nullability where it is not shown. -/
def listed (context : Context) (annotations : List Annotation) (nullability : Nullability) :
    List Annotation :=
  (firsts (annotations.map publicForm)).filter fun a =>
    !context.isNoise a &&
      !(a.isNullability && (context.dialect = .kotlin || nullability = .unimportant))

variable {context : Context} {annotations : List Annotation} {n : Nullability}

theorem filter_isShown_distinct_eq (annotations : List Annotation) (n : Nullability) :
    (distinct (annotations.map publicForm)).filter (context.isShown n) =
      context.listed annotations n := by
  rw [listed, distinct_eq_firsts]
  refine List.filter_congr fun a _ => ?_
  rw [isShown, Bool.or_comm]

/-- The public non-null annotation is of interest unless the configuration says otherwise. -/
theorem isShown_publicNonNull_iff (java : context.dialect = .java)
    (nonNull : n.javaAnnotation? = some .publicNonNull) :
    context.isShown n .publicNonNull = true ↔
      context.config.isExcluded .java publicNonNull.fullName = false ∧
        context.config.isHidden publicNonNull.fullName = false := by
  have important : n ≠ .unimportant := by
    rintro rfl
    cases nonNull
  have suppression : publicNonNull.isSuppression = false := by decide
  have interop : publicNonNull.isInterop = false := by decide
  have deprecation : publicNonNull.isDeprecation = false := by decide
  simp [isShown, isNoise, java, important, suppression, interop, deprecation]

theorem javaAnnotation?_eq_some_iff :
    n.javaAnnotation? = some .publicNonNull ↔ n = .kotlinDefault ∨ n = .annotatedNonNull := by
  cases n <;> simp [Nullability.javaAnnotation?]

/-- What is injected behind the public forms. -/
def injected (context : Context) (annotations : List Annotation) (n : Nullability) :
    List Annotation :=
  if context.dialect = .java &&
      !(annotations.map publicForm).any isNullability then
    n.javaAnnotation?.toList
  else []

/-- Only the public non-null annotation is injected, in Java, and where nothing states
nullability. -/
theorem injected_eq_or (context : Context) (annotations : List Annotation) (n : Nullability) :
    context.injected annotations n = [] ∨
      (context.injected annotations n = [.publicNonNull] ∧ context.dialect = .java ∧
        (∀ a ∈ annotations, a.isNullability = false) ∧
          (n = .kotlinDefault ∨ n = .annotatedNonNull)) := by
  rw [Context.injected]
  split
  · rename_i unstated
    rw [Bool.and_eq_true, decide_eq_true_eq, Bool.not_eq_true', List.any_eq_false] at unstated
    cases annotation : n.javaAnnotation? with
    | none => exact Or.inl rfl
    | some a =>
      have only : a = .publicNonNull :=
        Nullability.eq_of_mem_javaAnnotation? (Option.mem_toList.mpr annotation)
      subst only
      refine Or.inr ⟨rfl, unstated.1, fun a mem => ?_, javaAnnotation?_eq_some_iff.mp annotation⟩
      have other := unstated.2 _ (List.mem_map_of_mem mem)
      rw [isNullability_publicForm] at other
      exact Bool.eq_false_of_not_eq_true other
  · exact Or.inl rfl

theorem AddsNonNull.filter_distinct (adds : context.AddsNonNull annotations n) :
    (distinct (annotations.map publicForm ++
        context.injected annotations n)).filter (context.isShown n) =
      context.listed annotations n ++ [.publicNonNull] := by
  have nonNull := javaAnnotation?_eq_some_iff.mpr adds.nonNull
  have forms := map_publicForm_of_not_isNullability adds.unstated
  have unstated : annotations.any isNullability = false := by
    simpa using adds.unstated
  have injected : context.injected annotations n = [.publicNonNull] := by
    rw [Context.injected, forms, unstated, nonNull, adds.java]
    rfl
  have shown := (isShown_publicNonNull_iff adds.java nonNull).mpr ⟨adds.notExcluded, adds.notHidden⟩
  rw [← filter_isShown_distinct_eq, injected, forms,
    distinct_concat annotations _ adds.fresh, List.filter_append,
    List.filter_singleton, shown]
  rfl

theorem filter_distinct_of_not_addsNonNull (adds : ¬ context.AddsNonNull annotations n) :
    (distinct (annotations.map publicForm ++
        context.injected annotations n)).filter (context.isShown n) =
      context.listed annotations n := by
  rw [← filter_isShown_distinct_eq]
  rcases context.injected_eq_or annotations n with none | ⟨injected, java, unstated, nonNull⟩
  · rw [none, List.append_nil]
  · have forms := map_publicForm_of_not_isNullability unstated
    rw [injected, forms]
    by_cases fresh : ∀ a ∈ annotations, a.identifier ≠ publicNonNull.identifier
    · -- nothing hides it, so the configuration does
      have hidden : context.isShown n .publicNonNull = false := by
        rw [← Bool.not_eq_true,
          isShown_publicNonNull_iff java (javaAnnotation?_eq_some_iff.mpr nonNull)]
        exact fun free => adds ⟨java, unstated, nonNull, fresh, free.1, free.2⟩
      rw [distinct_concat annotations _ fresh, List.filter_append, List.filter_singleton, hidden]
      exact List.append_nil _
    · have known : ∃ b ∈ annotations, b.identifier = publicNonNull.identifier := by
        simpa using fresh
      rw [distinct_append annotations [.publicNonNull]
        fun a mem => List.mem_singleton.mp mem ▸ known]

/-- The steps in which a list of annotations is displayed, in one equation. -/
theorem shownAnnotations_eq (context : Context) (annotations : List Annotation) (n : Nullability) :
    context.shownAnnotations annotations n =
      match (annotations.map publicForm).find? context.refuses with
      | some a => .error (.invalidNullability a.fullName)
      | none => .ok (((distinct (annotations.map publicForm ++
          context.injected annotations n)).filter (context.isShown n)).map
            context.shownAnnotation) :=
  rfl

/-- **The first annotation that is refused is the failure.** -/
theorem shownAnnotations_eq_error_iff {e : RenderError} :
    context.shownAnnotations annotations n = .error e ↔
      ∃ before a after, annotations.map publicForm = before ++ a :: after ∧
        (∀ b ∈ before, context.refuses b = false) ∧ context.refuses a = true ∧
          e = .invalidNullability a.fullName := by
  rw [shownAnnotations_eq]
  constructor
  · intro failed
    split at failed
    · rename_i a found
      obtain ⟨refused, before, after, split, accepted⟩ := List.find?_eq_some_iff_append.mp found
      refine ⟨before, a, after, split, fun b mem => ?_, refused, (Except.error.inj failed).symm⟩
      simpa using accepted b mem
    · cases failed
  · rintro ⟨before, a, after, split, accepted, refused, rfl⟩
    have found : (annotations.map publicForm).find? context.refuses = some a := by
      refine List.find?_eq_some_iff_append.mpr ⟨refused, before, after, split, fun b mem => ?_⟩
      simpa using accepted b mem
    rw [found]

/-- **Without an annotation that is refused, a list is displayed**, with or without a non-null
annotation at the end. -/
theorem shownAnnotations_eq_ok_iff {shown : List ShownAnnotation} :
    context.shownAnnotations annotations n = .ok shown ↔
      (∀ a ∈ annotations, context.refuses a.publicForm = false) ∧
        (context.AddsNonNull annotations n → shown =
          (context.listed annotations n ++ [publicNonNull]).map
            context.shownAnnotation) ∧
        (¬ context.AddsNonNull annotations n → shown =
          (context.listed annotations n).map context.shownAnnotation) := by
  have accepted : (∀ a ∈ annotations, context.refuses a.publicForm = false) ↔
      (annotations.map publicForm).find? context.refuses = none := by
    simp
  rw [shownAnnotations_eq, accepted]
  by_cases adds : context.AddsNonNull annotations n
  · rw [adds.filter_distinct]
    split
    · rename_i found
      simp [found]
    · rename_i found
      simp [found, adds, eq_comm]
  · rw [filter_distinct_of_not_addsNonNull adds]
    split
    · rename_i found
      simp [found]
    · rename_i found
      simp [found, adds, eq_comm]

/-! ## Repeated annotations -/

/-- What is refused and repeated was refused before. -/
theorem find?_repeat {α : Type} {p : α → Bool} {before : List α} (after : List α) {a : α}
    (mem : a ∈ before) : (before ++ a :: after).find? p = (before ++ after).find? p := by
  rw [List.find?_append, List.find?_append]
  cases found : before.find? p with
  | some b => rfl
  | none =>
    rw [List.find?_cons, Bool.eq_false_of_not_eq_true (List.find?_eq_none.mp found a mem)]

/-- A member that is repeated injects nothing else. -/
theorem injected_repeat {before : List Annotation} (after : List Annotation) {a : Annotation}
    (mem : a ∈ before) :
    context.injected (before ++ a :: after) n = context.injected (before ++ after) n := by
  have same : ((before ++ a :: after).map publicForm).any isNullability =
      ((before ++ after).map publicForm).any isNullability := by
    simp only [List.map_append, List.map_cons, List.any_append, List.any_cons]
    cases stated : a.publicForm.isNullability with
    | false => rw [Bool.false_or]
    | true =>
      have before : (before.map publicForm).any isNullability = true :=
        List.any_eq_true.mpr ⟨_, List.mem_map_of_mem mem, stated⟩
      rw [before, Bool.true_or, Bool.true_or]
  rw [injected, injected, same]

/-- **A member that occurs again changes nothing.** -/
theorem shownAnnotations_repeat {before : List Annotation} (after : List Annotation)
    {a : Annotation} (mem : a ∈ before) :
    context.shownAnnotations (before ++ a :: after) n =
      context.shownAnnotations (before ++ after) n := by
  have known : ∃ b ∈ before.map publicForm,
      b.identifier = a.publicForm.identifier :=
    ⟨_, List.mem_map_of_mem mem, rfl⟩
  rw [shownAnnotations_eq, shownAnnotations_eq, injected_repeat after mem]
  simp only [List.map_append, List.map_cons, List.append_assoc, List.cons_append,
    find?_repeat _ (List.mem_map_of_mem mem), distinct_repeat _ _ known]

/-- A list of members that occur again changes nothing. -/
theorem shownAnnotations_append {more : List Annotation} (known : more ⊆ annotations) :
    context.shownAnnotations (annotations ++ more) n =
      context.shownAnnotations annotations n := by
  induction more with
  | nil => rw [List.append_nil]
  | cons a rest ih =>
    rw [shownAnnotations_repeat rest (known (List.mem_cons_self ..))]
    exact ih fun b mem => known (List.mem_cons_of_mem _ mem)

end Context

/-- **Which annotations are displayed.** The public form of `android.annotation.Nullable` and
`NonNull` is the annotation of this name in `androidx.annotation`, every other annotation is its
own. A list fails exactly if the configuration does not accept
a nullability annotation in it, and the failure names the first such, in its public form. Of every
other list exactly those are displayed, in order, with which an identifier occurs first in public
form, unless they are of no interest, or state nullability and the display is in Kotlin or the
nullability is unimportant; a non-null annotation is added at the end exactly in the cases of
`Context.AddsNonNull`. Repeating members makes no difference. -/
theorem displayed_exactly (context : Context) (annotations : List Annotation) (n : Nullability) :
    (∀ a : Annotation,
      (a.identity.package = "android.annotation" →
        a.className = "Nullable" ∨ a.className = "NonNull" →
          a.publicForm = ⟨.ofClass "androidx.annotation" a.className, a.arguments⟩) ∧
      (¬ (a.identity.package = "android.annotation" ∧
          (a.className = "Nullable" ∨ a.className = "NonNull")) → a.publicForm = a)) ∧
    (∀ e, context.shownAnnotations annotations n = .error e ↔
      ∃ before a after, annotations.map publicForm = before ++ a :: after ∧
        (∀ b ∈ before, context.refuses b = false) ∧ context.refuses a = true ∧
          e = .invalidNullability a.fullName) ∧
    (∀ shown, context.shownAnnotations annotations n = .ok shown ↔
      (∀ a ∈ annotations, context.refuses a.publicForm = false) ∧
        (context.AddsNonNull annotations n → shown =
          (context.listed annotations n ++ [publicNonNull]).map
            context.shownAnnotation) ∧
        (¬ context.AddsNonNull annotations n → shown =
          (context.listed annotations n).map context.shownAnnotation)) ∧
    context.shownAnnotations (annotations ++ annotations) n =
      context.shownAnnotations annotations n ∧
    ∀ before after a, a ∈ before → annotations = before ++ after →
      context.shownAnnotations (before ++ a :: after) n =
        context.shownAnnotations annotations n := by
  refine ⟨fun a => ⟨publicForm_of_platform, publicForm_of_not_platform⟩,
    fun e => Context.shownAnnotations_eq_error_iff, fun shown => Context.shownAnnotations_eq_ok_iff,
    Context.shownAnnotations_append (List.Subset.refl _), ?_⟩
  rintro before after a mem rfl
  exact Context.shownAnnotations_repeat after mem

/-- The annotations of an element that is used on one thread, said twice, among others that are of
no interest to a reader. -/
def onUiThread : List Annotation :=
  [.ofClass "kotlin" "Suppress", .ofClass "kotlin.jvm" "JvmName", .ofClass "kotlin" "Deprecated",
    .ofClass "com.example" "Internal", .ofClass "com.example" "Hidden",
    .ofClass "androidx.annotation" "UiThread", .ofClass "androidx.annotation" "UiThread"]

/-- The annotations of an element that is said to be nullable in two ways. -/
def twiceNullable : List Annotation :=
  [.ofClass "android.annotation" "Nullable", .ofClass "javax.annotation" "Nullable"]

/-- The annotations of an element that is nullable for the platform and in public. -/
def nullableOnPlatform : List Annotation :=
  [.ofClass "android.annotation" "Nullable", .ofClass "androidx.annotation" "UiThread",
    .ofClass "androidx.annotation" "Nullable"]

/-- In Java `onUiThread` becomes two annotations on what is not null, `twiceNullable` fails, and
`nullableOnPlatform` shows the public annotation once, where that of the platform stood. -/
theorem displayed_exactly_onUiThread :
    let context := Context.reference .java
      { excludedInJava := ["com.example.Internal"], hidden := ["com.example.Hidden"] }
    context.AddsNonNull onUiThread .kotlinDefault ∧
      context.shownAnnotations onUiThread .kotlinDefault =
        .ok ([.ofClass "androidx.annotation" "UiThread", .publicNonNull].map
          context.shownAnnotation) ∧
      context.shownAnnotations (onUiThread ++ onUiThread) .kotlinDefault =
        context.shownAnnotations onUiThread .kotlinDefault ∧
      context.shownAnnotations ([.ofClass "kotlin" "Suppress"] ++ .ofClass "kotlin" "Suppress" ::
          onUiThread.tail) .kotlinDefault =
        context.shownAnnotations onUiThread .kotlinDefault ∧
      context.shownAnnotations twiceNullable .kotlinDefault =
        .error (.invalidNullability "javax.annotation.Nullable") ∧
      (ofClass "android.annotation" "Nullable").publicForm =
        .ofClass "androidx.annotation" "Nullable" ∧
      context.shownAnnotations nullableOnPlatform .kotlinNullable =
        .ok ([.ofClass "androidx.annotation" "Nullable",
          .ofClass "androidx.annotation" "UiThread"].map context.shownAnnotation) := by
  intro context
  have adds : context.AddsNonNull onUiThread .kotlinDefault :=
    ⟨rfl, by decide, Or.inl rfl, by decide, by decide, by decide⟩
  have stated : ¬ context.AddsNonNull nullableOnPlatform .kotlinNullable :=
    fun adds => absurd adds.unstated (by decide)
  obtain ⟨mapped, -, displayed, repeated, again⟩ :=
    displayed_exactly context onUiThread .kotlinDefault
  obtain ⟨-, fails, -⟩ := displayed_exactly context twiceNullable .kotlinDefault
  obtain ⟨-, -, onPlatform, -⟩ := displayed_exactly context nullableOnPlatform .kotlinNullable
  refine ⟨adds, (displayed _).mpr ⟨by decide, fun _ => ?_, fun other => absurd adds other⟩,
    repeated, again _ _ _ (List.mem_singleton_self _) rfl, (fails _).mpr ?_,
    (mapped _).1 rfl (Or.inl rfl),
    (onPlatform _).mpr ⟨by decide, fun adds => absurd adds stated, fun _ => ?_⟩⟩
  · decide +kernel
  · exact ⟨[_], _, [], rfl, by decide, by decide, rfl⟩
  · decide +kernel

end Diglot
