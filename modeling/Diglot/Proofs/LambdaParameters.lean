import Diglot.Proofs.DisplayedAnnotations
import Diglot.Proofs.ImposedNullability
import Diglot.Proofs.Placement

/-!
# Parameters of function types

A parameter of a function type is displayed with two lists of annotations, its own and those of
its type, and both come from one list, that of the type use. In Kotlin each annotation of this
list is displayed on one of the two sides.

* `TypeUse.reexposedAt_of_not_isVaried` — what an occurrence has is what is found
  below its wrappers, if there is no variance among them.
* `Context.ordinary_filter` — duplicates are dropped before or after other annotations are left
  out, if no public form is mistaken for another annotation.
* `shown_on_one_side` — what is displayed on each side.

A nullability annotation of the platform can be mistaken in this way, and then what it hides is
displayed on no side (`public_form_hides`).
-/

namespace Diglot

open Annotation

/-! ## Below the wrappers -/

namespace TypeUse

/-- Whether variance is among the wrappers of the type, below `T & Any` or not. -/
def isVaried : TypeUse → Bool
  | nullable inner => inner.isVaried
  | nonNull inner => inner.isVaried
  | aliased _ inner => inner.isVaried
  | projected .. => true
  | _ => false

/-- Without variance, Kotlin finds the annotations that the occurrence has. -/
theorem reexposedAt_of_not_isVaried (sourceSet : String) : ∀ type : TypeUse,
    type.isVaried = false → type.reexposedAt sourceSet = type.annotationsAt sourceSet
  | nullable inner, straight => reexposedAt_of_not_isVaried sourceSet inner straight
  | aliased _ inner, straight => reexposedAt_of_not_isVaried sourceSet inner straight
  | projected .., straight => nomatch straight
  | classRef .., _ | parameter _, _ | primitive _, _ | javaObject _, _ | void, _ | star, _
  | dynamic, _ | unresolved _, _ | nonNull _, _ => rfl

end TypeUse

/-! ## Duplicates -/

namespace Annotation

/-- Lists without duplicates stay. -/
theorem distinctFrom_of_nodup {annotations : List Annotation}
    (nodup : (annotations.map identifier).Nodup) {seen : List String}
    (fresh : ∀ a ∈ annotations, a.identifier ∉ seen) :
    distinctFrom seen annotations = annotations := by
  induction annotations generalizing seen with
  | nil => rfl
  | cons a rest ih =>
    rw [List.map_cons, List.nodup_cons] at nodup
    rw [distinctFrom_cons, if_neg (fresh a (List.mem_cons_self ..)), ih nodup.2]
    · rfl
    · intro b mem
      rw [List.mem_cons, not_or]
      exact ⟨fun same => nodup.1 (same ▸ List.mem_map_of_mem mem),
        fresh b (List.mem_cons_of_mem _ mem)⟩

/-- **Duplicates are dropped once.** -/
theorem distinct_distinct (annotations : List Annotation) :
    distinct (distinct annotations) = distinct annotations :=
  distinctFrom_of_nodup (nodup_distinctFrom annotations []) fun _ _ => List.not_mem_nil

/-- **Identifiers tell the annotations of a list apart**, and those that state nullability cannot
be mistaken for others behind them, even in public form. -/
structure ToldApart (annotations : List Annotation) : Prop where
  /-- two with the same identifier are equal -/
  eq_of_identifier : ∀ a ∈ annotations, ∀ b ∈ annotations, a.identifier = b.identifier → a = b
  /-- nor has another one the identifier of a public form before it -/
  publicForm : annotations.Pairwise fun b a => b.isNullability = true → a.isNullability = false →
    b.publicForm.identifier ≠ a.identifier

variable {annotations : List Annotation}

theorem ToldApart.tail {a : Annotation} {rest : List Annotation} (apart : ToldApart (a :: rest)) :
    ToldApart rest where
  eq_of_identifier b memB c memC :=
    apart.eq_of_identifier b (List.mem_cons_of_mem _ memB) c (List.mem_cons_of_mem _ memC)
  publicForm := apart.publicForm.tail

/-- Members of which each has its own identifier are the first with it. -/
theorem ToldApart.mem_distinct_filter (apart : ToldApart annotations) (p : Annotation → Bool)
    {a : Annotation} (mem : a ∈ annotations) :
    a ∈ distinct (annotations.filter p) ↔ p a = true := by
  constructor
  · exact fun kept => (List.mem_filter.mp (mem_distinct.mp kept).mem).2
  · intro holds
    have memFilter : a ∈ annotations.filter p := List.mem_filter.mpr ⟨mem, holds⟩
    obtain ⟨kept, memKept, same⟩ := exists_mem_distinct memFilter
    have memAll := (List.mem_filter.mp (mem_distinct.mp memKept).mem).1
    exact apart.eq_of_identifier kept memAll a mem same ▸ memKept

end Annotation

namespace Context

variable {context : Context} {annotations : List Annotation}

/-- **Kotlin displays the ordinary annotations** and no others. -/
theorem eq_ordinary_of_kotlin (kotlin : context.dialect = .kotlin) {n : Nullability}
    {shown : List ShownAnnotation} (found : context.shownAnnotations annotations n = .ok shown) :
    shown = context.ordinary annotations := by
  have adds : ¬ context.AddsNonNull annotations n := fun adds => by
    cases kotlin.symm.trans adds.java
  obtain ⟨-, -, listed⟩ := shownAnnotations_eq_ok_iff.mp found
  have same : context.isShown n = context.isOrdinary := funext (isShown_kotlin kotlin n)
  rw [listed adds, ← filter_isShown_distinct_eq, same, ordinary]

/-- What is dropped as a duplicate among public forms of chosen annotations is dropped among all
annotations, if it is ordinary. -/
theorem filter_distinctFrom_map_publicForm (p : Annotation → Bool)
    (apart : ToldApart annotations) (seen seen' : List String)
    (known : ∀ a ∈ annotations, p a = true → a.isNullability = false →
      (a.identifier ∈ seen ↔ a.identifier ∈ seen')) :
    (distinctFrom seen ((annotations.filter p).map publicForm)).filter
        context.isOrdinary =
      (distinctFrom seen' annotations).filter fun a => p a && context.isOrdinary a := by
  induction annotations generalizing seen seen' with
  | nil => rfl
  | cons b rest ih =>
    have knownLater := fun a (mem : a ∈ rest) => known a (List.mem_cons_of_mem _ mem)
    have eq_of_same : ∀ a ∈ rest, a.identifier = b.identifier → a = b := fun a mem =>
      apart.eq_of_identifier a (List.mem_cons_of_mem _ mem) b (List.mem_cons_self ..)
    cases chosen : p b with
    | false =>
      rw [List.filter_cons_of_neg (by simp [chosen]),
        filter_distinctFrom_cons (by simp [chosen])]
      refine ih apart.tail seen (b.identifier :: seen') fun a mem holds other => ?_
      have apartFrom : a.identifier ≠ b.identifier := fun same => by
        rw [eq_of_same a mem same, chosen] at holds
        cases holds
      rw [knownLater a mem holds other, List.mem_cons, or_iff_right apartFrom]
    | true =>
      rw [List.filter_cons_of_pos chosen, List.map_cons]
      cases nullability : b.isNullability with
      | false =>
        have same := known b (List.mem_cons_self ..) chosen nullability
        rw [publicForm_of_not_isNullability nullability, distinctFrom_cons,
          distinctFrom_cons, List.filter_append, List.filter_append,
          ih apart.tail (b.identifier :: seen) (b.identifier :: seen')]
        · by_cases before : b.identifier ∈ seen' <;>
            simp [same, before, List.filter_cons, chosen]
        · intro a mem holds other
          rw [List.mem_cons, List.mem_cons, knownLater a mem holds other]
      | true =>
        -- `b` is ordinary in no form, and what is ordinary behind it has another identifier
        rw [filter_distinctFrom_cons
            (by simp [isOrdinary, isNullability_publicForm, nullability]),
          filter_distinctFrom_cons (by simp [isOrdinary, nullability])]
        refine ih apart.tail _ _ fun a mem holds other => ?_
        have formApart : a.identifier ≠ b.publicForm.identifier :=
          ((List.pairwise_cons.mp apart.publicForm).1 a mem nullability other).symm
        have apartFrom : a.identifier ≠ b.identifier := fun same => by
          rw [eq_of_same a mem same, nullability] at other
          cases other
        rw [List.mem_cons, or_iff_right formApart, List.mem_cons, or_iff_right apartFrom]
        exact knownLater a mem holds other

/-- **Choosing and dropping duplicates can be done in either order.** -/
theorem ordinary_filter (p : Annotation → Bool) (apart : ToldApart annotations) :
    context.ordinary (annotations.filter p) =
      ((firsts annotations).filter fun a => p a && context.isOrdinary a).map
        context.shownAnnotation := by
  rw [ordinary, ← distinct_eq_firsts]
  exact congrArg _ (filter_distinctFrom_map_publicForm p apart [] [] fun _ _ _ _ => Iff.rfl)

/-- Saying everything again is not displayed. -/
theorem ordinary_append_self : context.ordinary (annotations ++ annotations) =
    context.ordinary annotations := by
  rw [ordinary, List.map_append, distinct_append _ _ fun a mem => ⟨a, mem, rfl⟩]
  rfl

/-- What belongs to the declaration is displayed the same without duplicates. -/
theorem ordinary_distinct_onDeclaration (annotations : List Annotation) :
    context.ordinary (distinct (onDeclaration annotations)) =
      context.ordinary (onDeclaration annotations) := by
  have other : ∀ a ∈ onDeclaration annotations, a.isNullability = false :=
    fun a mem => isNullability_of_mem_onDeclaration mem
  have kept : distinct (onDeclaration annotations) ⊆
      onDeclaration annotations := (distinctFrom_sublist [] _).subset
  rw [ordinary, ordinary, map_publicForm_of_not_isNullability other,
    map_publicForm_of_not_isNullability fun a mem => other a (kept mem),
    distinct_distinct]

/-- Of what belongs to the declaration everything is displayed that is of interest. -/
theorem ordinary_onDeclaration (apart : ToldApart annotations) :
    context.ordinary (onDeclaration annotations) =
      ((firsts annotations).filter fun a =>
        !a.isTypeBound && !context.isNoise a).map context.shownAnnotation := by
  rw [onDeclaration, ordinary_filter _ apart]
  refine congrArg _ (List.filter_congr fun a _ => ?_)
  cases bound : a.isTypeBound with
  | true => rfl
  | false =>
    rw [isOrdinary, isNullability_of_not_isTypeBound bound, Bool.not_false, Bool.and_true]

/-- Of what belongs to the type, everything that does not state nullability. -/
theorem ordinary_onType (apart : ToldApart annotations) :
    context.ordinary (onType annotations) =
      ((firsts annotations).filter fun a =>
        a.isTypeBound && !a.isNullability && !context.isNoise a).map context.shownAnnotation := by
  rw [onType, ordinary_filter _ apart]
  refine congrArg _ (List.filter_congr fun a _ => ?_)
  rw [isOrdinary, Bool.and_comm (!context.isNoise a), Bool.and_assoc]

end Context

/-! ## Both sides -/

section

variable {context : Context} {type : TypeUse} {fromJava : Bool} {s : SourceSet}

/-- What is handed to the type and found again there belongs to the type. -/
theorem TypeRequest.annotationsWith_forLambdaParameter (fromJava : Bool)
    (apart : ToldApart (type.annotationsAt s.name)) :
    (forLambdaParameter type fromJava s).annotationsWith (type.annotationsAt s.name) =
      onType (type.annotationsAt s.name) ++
        onType (type.annotationsAt s.name) := by
  have elsewhere : ∀ a ∈ type.annotationsAt s.name,
      (!(forLambdaParameter type fromJava s).shownElsewhere.contains a) = a.isTypeBound := by
    intro a mem
    have shown := apart.mem_distinct_filter (fun a => !a.isTypeBound) mem
    rw [Bool.not_eq_eq_eq_not, Bool.eq_iff_iff, List.contains_iff_mem]
    exact shown
  have handed : (onType (type.annotationsAt s.name)).filter
      (fun a => !(forLambdaParameter type fromJava s).shownElsewhere.contains a) =
        onType (type.annotationsAt s.name) := by
    refine List.filter_eq_self.mpr fun a mem => ?_
    obtain ⟨mem, bound⟩ := List.mem_filter.mp mem
    rw [elsewhere a mem, bound]
  exact (List.filter_append _ _).trans (congrArg₂ _ handed (List.filter_congr elsewhere))

/-- Parameters come to what they come to without a memo. -/
theorem renderLambdaParameter_run {memo : Memo} (exact : memo.Exact) :
    ((renderLambdaParameter context type fromJava s : Program ShownParameter).run memo).1 =
      renderLambdaParameter context type fromJava s := by
  have outcomes := (Account.outcomes context.dialect).renderLambdaParameter type fromJava s
  have follows := (Account.follows context.dialect).renderLambdaParameter type fromJava s
  exact (Program.run_eq follows outcomes exact).1

/-- The type of a parameter is shown as it is requested, and what the parameter displays does not
belong to the type. -/
theorem parts_of_renderLambdaParameter {parameter : ShownParameter}
    (found : (renderLambdaParameter context type fromJava s : Except RenderError _) =
      .ok parameter) :
    typeOf context (TypeRequest.forLambdaParameter type fromJava s) = .ok parameter.type ∧
      ∃ n, context.shownAnnotations
          (distinct (onDeclaration (type.annotationsAt s.name))) n =
        .ok parameter.annotations := by
  obtain ⟨shown, typeFound, found⟩ := bind_eq_ok.mp found
  rw [attempt_eq] at found
  obtain ⟨annotations, annotated, found⟩ := bind_eq_ok.mp found
  cases found
  exact ⟨typeFound, _, annotated⟩

/-- **Each annotation of a parameter is displayed on one side.** The type of a parameter of a
function type has annotations of which none is mistaken for another one, and no variance among its
wrappers. If Kotlin shows the parameter, whatever is remembered, the annotations that belong to a
type are displayed on its type, unless they state nullability, and the others on the parameter;
each once and in order, and only if it is of interest. -/
theorem shown_on_one_side (kotlin : context.dialect = .kotlin) (straight : type.isVaried = false)
    (apart : ToldApart (type.annotationsAt s.name)) {memo : Memo} (exact : memo.Exact)
    {parameter : ShownParameter}
    (found : ((renderLambdaParameter context type fromJava s : Program ShownParameter).run memo).1 =
      .ok parameter) :
    parameter.annotations =
      ((firsts (type.annotationsAt s.name)).filter fun a =>
        !a.isTypeBound && !context.isNoise a).map context.shownAnnotation ∧
    parameter.type.annotations =
      ((firsts (type.annotationsAt s.name)).filter fun a =>
        a.isTypeBound && !a.isNullability && !context.isNoise a).map context.shownAnnotation := by
  rw [renderLambdaParameter_run exact] at found
  obtain ⟨typeFound, _, own⟩ := parts_of_renderLambdaParameter found
  obtain ⟨_, annotated⟩ := annotated_of_kotlin kotlin typeFound
  have below : (TypeRequest.forLambdaParameter type fromJava s).type.reexposedAt s.name =
      type.annotationsAt s.name := type.reexposedAt_of_not_isVaried s.name straight
  constructor
  · calc
      parameter.annotations = context.ordinary (distinct
          (onDeclaration (type.annotationsAt s.name))) :=
        Context.eq_ordinary_of_kotlin kotlin own
      _ = context.ordinary (onDeclaration (type.annotationsAt s.name)) :=
        Context.ordinary_distinct_onDeclaration _
      _ = _ := Context.ordinary_onDeclaration apart
  · calc
      parameter.type.annotations = context.ordinary
          ((TypeRequest.forLambdaParameter type fromJava s).annotationsWith
            ((TypeRequest.forLambdaParameter type fromJava s).type.reexposedAt s.name)) :=
        Context.eq_ordinary_of_kotlin kotlin annotated
      _ = context.ordinary (onType (type.annotationsAt s.name) ++
          onType (type.annotationsAt s.name)) := by
        rw [below, TypeRequest.annotationsWith_forLambdaParameter fromJava apart]
      _ = context.ordinary (onType (type.annotationsAt s.name)) :=
        Context.ordinary_append_self
      _ = _ := Context.ordinary_onType apart

end

/-- The source set of a single platform. -/
def jvmMain : SourceSet := ⟨.jvm, "jvmMain"⟩

/-- A string under an alias, with annotations of all kinds, of which one is repeated. -/
def labelOnThread : TypeUse :=
  .nullable (.aliased (.unresolved "Label") (.classRef
    { identity := .ofClass "kotlin" "String",
      annotations := .insert ∅ "jvmMain"
        [.ofClass "androidx.annotation" "UiThread", .ofClass "androidx.annotation" "StringRes",
          .ofClass "kotlin" "Suppress", .ofClass "android.annotation" "NonNull",
          .ofClass "androidx.annotation" "UiThread"] } []))

/-- As a parameter, `labelOnThread` has its thread beside the name and its resource beside the
type. -/
theorem shown_on_one_side_labelOnThread :
    let context := Context.reference .kotlin {}
    labelOnThread.isVaried = false ∧
      ToldApart (labelOnThread.annotationsAt "jvmMain") ∧ Memo.empty.Exact ∧
      ∃ parameter,
        ((renderLambdaParameter context labelOnThread false jvmMain : Program _).run .empty).1 =
          .ok parameter ∧
        parameter.annotations =
          [.ofClass "androidx.annotation" "UiThread"].map context.shownAnnotation ∧
        parameter.type.annotations =
          [.ofClass "androidx.annotation" "StringRes"].map context.shownAnnotation := by
  intro context
  have apart : ToldApart (labelOnThread.annotationsAt "jvmMain") :=
    ⟨by decide +kernel, by decide +kernel⟩
  obtain ⟨parameter, found⟩ := exists_of_isOk
    (lambdaParameterOf context labelOnThread jvmMain) (by decide +kernel)
  have found : ((renderLambdaParameter context labelOnThread false jvmMain :
      Program ShownParameter).run .empty).1 = .ok parameter :=
    (renderLambdaParameter_run .empty).trans found
  obtain ⟨own, type⟩ := shown_on_one_side rfl rfl apart .empty found
  exact ⟨rfl, apart, .empty, parameter, found, own.trans (by decide +kernel),
    type.trans (by decide +kernel)⟩

/-- A string with a platform annotation, before an annotation that has the identifier of its public
form. -/
def hiddenSince : TypeUse :=
  .classRef
    { identity := .ofClass "kotlin" "String",
      annotations := .insert ∅ "jvmMain"
        [⟨.ofClass "android.annotation" "NonNull", [⟨"since", .literal "Int(v=1"⟩]⟩,
          ⟨.ofClass "androidx.annotation" "NonNull(since=Int", [⟨"v", .literal "1"⟩]⟩] } []

/-- **Other identifiers are not enough.** Duplicates are found among public forms, and a platform
annotation that is not displayed hides an annotation of the type. -/
theorem public_form_hides :
    let context := Context.reference .kotlin {}
    let annotations := hiddenSince.annotationsAt "jvmMain"
    hiddenSince.isVaried = false ∧
      (∀ a ∈ annotations, ∀ b ∈ annotations, a ≠ b → a.identifier ≠ b.identifier) ∧
      ((firsts annotations).filter fun a =>
        a.isTypeBound && !a.isNullability && !context.isNoise a).length = 1 ∧
      ∃ parameter, lambdaParameterOf context hiddenSince jvmMain = .ok parameter ∧
        parameter.annotations = [] ∧ parameter.type.annotations = [] := by
  intro context annotations
  refine ⟨rfl, by decide +kernel, by decide +kernel, ?_⟩
  have shown : (fun parameter : ShownParameter =>
      (parameter.annotations, parameter.type.annotations)) <$>
        lambdaParameterOf context hiddenSince jvmMain = .ok ([], []) := by
    decide +kernel
  obtain ⟨parameter, found, nothing⟩ := map_eq_ok.mp shown
  rw [Prod.mk.injEq] at nothing
  exact ⟨parameter, found, nothing.1, nothing.2⟩

end Diglot
