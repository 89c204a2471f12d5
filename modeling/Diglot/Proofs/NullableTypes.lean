import Diglot.Proofs.Resolution

/-!
# A nullable type is not shown as non-null

Where a wrapper makes a type nullable, nothing that is shown of it says the contrary.

* Java shows no annotation but those that are handed to the type or stand at its core
  (`Context.ShowsOnly`). A non-null annotation is injected only for a nullability that no
  nullable type has (`TypeRequest.Open`).
* Kotlin writes `?` at the end, as the nullability that it resolves is that of the
  wrapper (`or_kotlinNullable`), and every text ends with what is written for the nullability
  (`ShownType.exists_text_eq`).
-/

namespace Diglot

open Annotation

/-! ## Annotations -/

namespace Annotation

/-- To drop duplicates is to leave out members of the list. -/
theorem distinctFrom_sublist (seen : List String) (annotations : List Annotation) :
    (distinctFrom seen annotations).Sublist annotations := by
  induction annotations generalizing seen with
  | nil => exact List.Sublist.refl _
  | cons a rest ih =>
    rw [distinctFrom]
    split
    · exact (ih seen).cons a
    · exact (ih _).cons_cons a

end Annotation

/-- Only the public non-null annotation is ever injected. -/
theorem Nullability.eq_of_mem_javaAnnotation? {n : Nullability} {a : Annotation}
    (mem : a ∈ n.javaAnnotation?.toList) : a = .publicNonNull := by
  cases n <;> simp_all [javaAnnotation?]

/-- **Nothing is injected**: what is shown are the public forms of some of the annotations, in
order. -/
def Context.ShowsOnly (context : Context) (annotations : List Annotation)
    (shown : List ShownAnnotation) : Prop :=
  ∃ sources : List Annotation, sources.Sublist annotations ∧
    shown = sources.map fun a => context.shownAnnotation a.publicForm

namespace Context

variable {context : Context} {annotations : List Annotation} {shown : List ShownAnnotation}

theorem ShowsOnly.mono {others : List Annotation} (h : context.ShowsOnly annotations shown)
    (sub : annotations.Sublist others) : context.ShowsOnly others shown := by
  obtain ⟨sources, of, eq⟩ := h
  exact ⟨sources, of.trans sub, eq⟩

/-- **What is displayed** are the first public forms with their identifiers, and what is injected
behind them. Only the public non-null annotation is, and in Java alone. -/
theorem exists_injected_of_shownAnnotations {decisive : Nullability}
    (found : context.shownAnnotations annotations decisive = .ok shown) :
    ∃ injected : List Annotation, (∀ a ∈ injected, a = .publicNonNull) ∧
      ((context.dialect = .java → decisive.javaAnnotation? = none) → injected = []) ∧
      shown = ((distinct (annotations.map publicForm ++ injected)).filter
        (context.isShown decisive)).map context.shownAnnotation := by
  simp only [shownAnnotations] at found
  split at found
  · cases found
  · cases found
    refine ⟨_, fun a mem => ?_, fun silent => ?_, rfl⟩
    · split at mem
      · exact Nullability.eq_of_mem_javaAnnotation? mem
      · cases mem
    · split
      · rename_i java
        rw [silent (of_decide_eq_true (Bool.and_eq_true_iff.mp java).1), Option.toList_none]
      · rfl

/-- Java injects nothing for a nullability that has no annotation, and Kotlin never does. -/
theorem showsOnly_of_shownAnnotations {decisive : Nullability}
    (silent : context.dialect = .java → decisive.javaAnnotation? = none)
    (found : context.shownAnnotations annotations decisive = .ok shown) :
    context.ShowsOnly annotations shown := by
  obtain ⟨injected, -, nothing, rfl⟩ := exists_injected_of_shownAnnotations found
  rw [nothing silent, List.append_nil]
  have kept : ((distinct (annotations.map publicForm)).filter
      (context.isShown decisive)).Sublist (annotations.map publicForm) :=
    List.filter_sublist.trans (distinctFrom_sublist [] _)
  obtain ⟨sources, sub, eq⟩ := List.sublist_map_iff.mp kept
  refine ⟨sources, sub, ?_⟩
  rw [eq, List.map_map]
  rfl

end Context

/-! ## In Java -/

/-- **Nothing implies that the requested type is not null**: a wrapper makes it nullable, or it
is `void`, or the surroundings impose nullability, or that it does not matter. -/
def TypeRequest.Open (request : TypeRequest) : Prop :=
  request.type.isNullable = true ∨ request.type.core = .void ∨
    ∃ imposed, request.imposed = some imposed ∧ imposed.rank ≤ Nullability.kotlinNullable.rank

namespace Nullability

/-- The first in the order of precedence wins. -/
theorem rank_or_le (n other : Nullability) : (n.or (some other)).rank ≤ other.rank := by
  rw [or]
  split <;> omega

/-- Nothing is injected for types that are nullable, or that have no null at all. -/
theorem javaAnnotation?_eq_none {n : Nullability} (le : n.rank ≤ kotlinNullable.rank) :
    n.javaAnnotation? = none := by
  cases n <;> first | rfl | exact absurd le (by decide)

end Nullability

namespace TypeRequest.Open

variable {request : TypeRequest} {form : TypeUse}

/-- The form that Java writes is as open as the type. -/
theorem toJava (h : request.Open) {position : JavaPosition}
    (written : request.type.toJava position = .ok form) :
    TypeRequest.Open { request with type := form } := by
  rcases h with nullable | void | imposed
  · rcases request.type.core_toJava written with ⟨gone, -⟩ | ⟨wrapped, -⟩
    · exact Or.inr (Or.inl gone)
    · exact Or.inl (wrapped.trans nullable)
  · refine Or.inr (Or.inl ?_)
    rcases request.type.core_toJava written with ⟨gone, -⟩ | ⟨-, position', core⟩
    · exact gone
    · rw [void] at core
      exact (Except.ok.inj core).symm
  · exact Or.inr (Or.inr imposed)

/-- Inside a nullable type nullability is imposed. -/
theorem forNullable (request : TypeRequest) (inner : TypeUse) :
    (request.forNullable inner).Open := by
  refine Or.inr (Or.inr ⟨_, rfl, ?_⟩)
  cases request.imposed with
  | none => exact Nat.le_refl _
  | some imposed =>
    rw [Nullability.or]
    split <;> omega

/-- A form that is not looked through gets no annotation injected. -/
theorem javaAnnotation?_eq_none (h : TypeRequest.Open { request with type := form })
    (leaf : form.isWrapper = false) (dialect : Dialect) :
    (annotatedNullability form (request.nullability dialect form)).javaAnnotation? = none := by
  have silent : (request.nullability dialect form).javaAnnotation? = none := by
    rcases h with nullable | void | ⟨imposed, eq, le⟩
    · rw [TypeUse.isNullable_of_not_isWrapper leaf] at nullable
      cases nullable
    · rw [TypeUse.core_of_not_isWrapper leaf] at void
      cases void
      refine Nullability.javaAnnotation?_eq_none ?_
      cases imposed : request.imposed with
      | none => simp [TypeRequest.nullability, imposed, TypeUse.nullability, TypeUse.canBeNull,
          Nullability.or, Nullability.rank]
      | some n => simp [TypeRequest.nullability, imposed, TypeUse.nullability, TypeUse.canBeNull,
          Nullability.or, Nullability.rank]
    · refine Nullability.javaAnnotation?_eq_none (Nat.le_trans ?_ le)
      rw [TypeRequest.nullability, eq]
      exact Nullability.rank_or_le _ _
  cases form <;> first | exact silent | rfl

end TypeRequest.Open

/-- **Java shows of an open type** only annotations that are handed to it or stand at its core. -/
theorem TypeRequest.Open.showsOnly {context : Context} (java : context.dialect = .java)
    {request : TypeRequest} {shown : ShownType} (h : request.Open)
    (found : typeOf context request = .ok shown) :
    context.ShowsOnly (request.carried ++ request.type.core.annotationsAt request.sourceSet.name)
      shown.annotations := by
  have toJava : ∀ {request : TypeRequest} {form : TypeUse},
      context.writtenForm request = .ok form →
        ∃ position, request.type.toJava position = .ok form := by
    intro request form written
    rw [Context.writtenForm, java] at written
    exact ⟨_, written⟩
  -- what stands at the core of the form stands at the core of the type
  have widen : ∀ {request : TypeRequest} {form : TypeUse} {shown : List ShownAnnotation},
      context.writtenForm request = .ok form →
      context.ShowsOnly (request.carried ++ form.core.annotationsAt request.sourceSet.name)
        shown →
      context.ShowsOnly
        (request.carried ++ request.type.core.annotationsAt request.sourceSet.name) shown := by
    intro request form shown written only
    obtain ⟨position, written⟩ := toJava written
    exact only.mono
      (List.Sublist.append_left (TypeUse.annotationsAt_core_toJava written _) _)
  have face : ∀ {request : TypeRequest} {form : TypeUse} {face : Face},
      face.Shows context request form → request.Open →
      context.ShowsOnly
        (request.carried ++ request.type.core.annotationsAt request.sourceSet.name)
        face.annotations := by
    intro request form face shows h
    obtain ⟨position, written⟩ := toJava shows.written
    obtain ⟨decisive, annotated, eq⟩ := shows.annotations
    have silent : context.dialect = .java → decisive.javaAnnotation? = none := by
      intro java
      rw [eq java, shows.nullability]
      exact (h.toJava written).javaAnnotation?_eq_none shows.leaf _
    have kept : request.annotations.Sublist
        (request.carried ++ request.type.annotationsAt request.sourceSet.name) :=
      List.filter_sublist
    exact (Context.showsOnly_of_shownAnnotations silent annotated).mono
      (kept.trans (List.Sublist.append_left (TypeUse.annotationsAt_sublist_core _ _) _))
  refine typeOf_induct (motive := fun request shown => request.Open →
      context.ShowsOnly
        (request.carried ++ request.type.core.annotationsAt request.sourceSet.name)
        shown.annotations)
    ?_ ?_ ?_ ?_ ?_ ?_ found h
  · intro request inner shown written below h
    exact widen written (below (.forNullable request inner))
  · intro request variance inner shown written below h
    obtain ⟨position, written'⟩ := toJava written
    have openForm := h.toJava written'
    exact widen written (below openForm)
  · intro request named inner shown written below h
    obtain ⟨position, written'⟩ := toJava written
    have openForm := h.toJava written'
    exact widen written (below openForm)
  · intro request form face' link arguments shows _ h
    exact face shows h
  · intro request form face' link mutable arguments shows _ _ h
    exact face shows h
  · intro request form face' parts isSuspend receiver parameters returnType shows _ _ _ _ h
    exact face shows h

/-! ## In Kotlin -/

/-- What is shown has a face of the display. -/
theorem dialect_typeOf {context : Context} {request : TypeRequest} {shown : ShownType}
    (found : typeOf context request = .ok shown) : shown.face.dialect = context.dialect := by
  refine typeOf_induct (motive := fun _ shown => shown.face.dialect = context.dialect)
    ?_ ?_ ?_ ?_ ?_ ?_ found
  · intro request inner shown _ below
    exact below
  · intro request variance inner shown _ below
    exact below
  · intro request named inner shown _ below
    exact below
  · intro request form face link arguments shows _
    exact shows.dialect
  · intro request form face link mutable arguments shows _ _
    exact shows.dialect
  · intro request form face parts isSuspend receiver parameters returnType shows _ _ _ _
    exact shows.dialect

/-- **The text of a Kotlin type ends with what is written for its nullability.** -/
theorem ShownType.exists_text_eq {type : ShownType} (kotlin : type.face.dialect = .kotlin) :
    ∃ before, type.text = before ++ type.nullability.kotlinSuffix := by
  have suffix : ∀ {face : Face}, face.dialect = .kotlin →
      face.suffix = face.nullability.kotlinSuffix := by
    intro face kotlin
    rw [Face.suffix, kotlin]
  cases type with
  | plain face link arguments =>
    rw [ShownType.text]
    exact ⟨_, congrArg _ (suffix kotlin)⟩
  | mapped face link mutable arguments =>
    rw [ShownType.text]
    exact ⟨_, congrArg _ (suffix kotlin)⟩
  | lambda face isSuspend receiver parameters returnType =>
    simp only [ShownType.text, lambdaText]
    split
    · rename_i none
      exact ⟨_, by rw [nullability, ShownType.face, none, String.append_empty]⟩
    · exact ⟨_, (String.append_assoc ..).symm⟩

/-- What is stated of a core that can be null comes after a nullable wrapper in the order of
precedence. -/
theorem TypeUse.rank_nullability {core : TypeUse} (leaf : core.isWrapper = false)
    (mayBeNull : core.canBeNull .kotlin = true) (fromJava : Option Bool)
    (carried : List Annotation) :
    Nullability.kotlinNullable.rank < (core.nullability .kotlin fromJava carried).rank := by
  have stated : Nullability.kotlinNullable.rank <
      (core.statedNullability fromJava carried).rank := by
    rcases statedNullability_eq_or fromJava carried core with eq | eq | eq <;> rw [eq]
    · decide
    · decide
    · unfold Nullability.sourceDefault
      split <;> decide
  unfold nullability
  rw [if_pos mayBeNull]
  cases core with
  | classRef | parameter | javaObject | unresolved | primitive => exact stated
  | nonNull | dynamic | star => simp [Nullability.rank]
  | nullable | projected | aliased => cases leaf
  | void => cases mayBeNull

/-- A wrapper that makes a type nullable prevails over what is stated of the type, unless
something is imposed that prevails over both. -/
theorem Nullability.or_kotlinNullable {own : Nullability} {imposed : Option Nullability}
    (before : kotlinNullable.rank < own.rank) (noMatter : imposed ≠ some unimportant)
    (noNull : imposed ≠ some neverNull) :
    own.or (some (kotlinNullable.or imposed)) = kotlinNullable := by
  have wrapped : kotlinNullable.or imposed = kotlinNullable := by
    cases imposed with
    | none => rfl
    | some imposed => cases imposed <;> first | rfl | contradiction
  rw [wrapped, or, if_pos before]

/-- **Kotlin resolves a nullable type as nullable.** -/
theorem TypeRequest.resolved_of_isNullable {request : TypeRequest}
    (nullable : request.type.isNullable = true) (void : request.type.core ≠ .void)
    (array : ∀ name, request.type.core = .primitive name → Text.hasChar name '[' = true)
    (noMatter : request.imposed ≠ some .unimportant)
    (noNull : request.imposed ≠ some .neverNull) : request.resolved = .kotlinNullable := by
  have mayBeNull : request.type.core.canBeNull .kotlin = true := by
    cases core : request.type.core with
    | void => exact absurd core void
    | primitive name => exact array name core
    | classRef | nullable | nonNull | parameter | projected | aliased | javaObject | unresolved
    | star | dynamic => simp [TypeUse.canBeNull]
  have before := TypeUse.rank_nullability request.type.isWrapper_core mayBeNull
    (some request.fromJava) request.carried
  rw [resolved, if_pos nullable, Nullability.or_kotlinNullable before noMatter noNull]

/-! ## Both -/

/-- **A nullable type is not shown as non-null.** Whenever a request for a type with a nullable
wrapper succeeds,

* Java displays only the public forms of annotations that are handed to the type or stand at
  its core, so nothing is injected;
* Kotlin writes `?` at the end, unless the core is `void` or a Java primitive that is no array,
  or the surroundings impose that there is no null or that it does not matter. -/
theorem nullable_not_shown_nonNull {context : Context} {request : TypeRequest}
    {shown : ShownType} (nullable : request.type.isNullable = true)
    (found : typeOf context request = .ok shown) :
    (context.dialect = .java →
      context.ShowsOnly
        (request.carried ++ request.type.core.annotationsAt request.sourceSet.name)
        shown.annotations) ∧
    (context.dialect = .kotlin → request.type.core ≠ .void →
      (∀ name, request.type.core = .primitive name → Text.hasChar name '[' = true) →
      request.imposed ≠ some .unimportant → request.imposed ≠ some .neverNull →
        ∃ before, shown.text = before ++ "?") := by
  refine ⟨fun java => TypeRequest.Open.showsOnly java (Or.inl nullable) found, ?_⟩
  intro kotlin void array noMatter noNull
  obtain ⟨before, text⟩ := ShownType.exists_text_eq ((dialect_typeOf found).trans kotlin)
  rw [nullability_kotlin kotlin found,
    TypeRequest.resolved_of_isNullable nullable void array noMatter noNull] at text
  exact ⟨before, text⟩

/-- A nullable function type under variance, annotated as not null, in the place of a type that
is not null. -/
def nullableFunction : TypeRequest where
  type := .projected .covariant <| .nullable <| .classRef
    { identity := .ofClass "kotlin" "Function0", form := .functional false false,
      annotations := .insert ∅ "jvmMain" [.ofClass "androidx.annotation" "NonNull"] }
    [.classRef { identity := .ofClass "kotlin" "String" } []]
  fromJava := false
  sourceSet := ⟨.jvm, "jvmMain"⟩
  imposed := some .kotlinDefault

/-- `nullableFunction` is shown as nullable in Kotlin, and with its own annotations in Java. -/
theorem nullable_not_shown_nonNull_nullableFunction :
    nullableFunction.type.isNullable = true ∧
      (∃ inJava, typeOf (.reference .java {}) nullableFunction = .ok inJava ∧
        (Context.reference .java {}).ShowsOnly
          (nullableFunction.carried ++ nullableFunction.type.core.annotationsAt "jvmMain")
          inJava.annotations) ∧
      ∃ inKotlin, typeOf (.reference .kotlin {}) nullableFunction = .ok inKotlin ∧
        ∃ before, inKotlin.text = before ++ "?" := by
  have nullable : nullableFunction.type.isNullable = true := rfl
  obtain ⟨inJava, java⟩ := exists_of_isOk
    (typeOf (.reference .java {}) nullableFunction) (by decide +kernel)
  obtain ⟨inKotlin, kotlin⟩ := exists_of_isOk
    (typeOf (.reference .kotlin {}) nullableFunction) (by decide +kernel)
  refine ⟨nullable, ⟨inJava, java, (nullable_not_shown_nonNull nullable java).1 rfl⟩,
    inKotlin, kotlin, (nullable_not_shown_nonNull nullable kotlin).2 rfl ?_ ?_ ?_ ?_⟩
  · rintro ⟨⟩
  · rintro name ⟨⟩
  · rintro ⟨⟩
  · rintro ⟨⟩

end Diglot
