import Diglot.Proofs.UnseenAnnotations
import Diglot.Proofs.Wrappers

/-!
# Annotations find their place

An annotation of a declaration belongs to the declaration itself or to its type. It is displayed
there, once, and on no other side.

* `Annotation.mem_distinct` — of the annotations with one identifier, the first is kept.
* `TypeRequest.exists_own_of_typeOf` — what is handed to a type passes every wrapper, and meets
  annotations of the type behind it.
* `placed_once` — the declaration displays what belongs to it, and the type what belongs to the
  type, except for nullability. On each side the first with its identifier stands for the others.

The first is chosen before the configuration is asked, and with it the others are gone
(`placement_hides_namesake`).
-/

namespace Diglot

open Annotation

/-! ## The first with its identifier -/

namespace Annotation

/-- Whether the annotation is in the list and none with its identifier stands before it. -/
def IsFirst (a : Annotation) (annotations : List Annotation) : Prop :=
  annotations.find? (fun b => b.identifier = a.identifier) = some a

instance (a : Annotation) (annotations : List Annotation) : Decidable (a.IsFirst annotations) :=
  inferInstanceAs (Decidable (_ = _))

variable {a : Annotation} {annotations : List Annotation}

theorem IsFirst.mem (first : a.IsFirst annotations) : a ∈ annotations :=
  List.mem_of_find?_eq_some first

/-- What is added at the end leaves the first ones where they are. -/
theorem IsFirst.append (first : a.IsFirst annotations) (more : List Annotation) :
    a.IsFirst (annotations ++ more) := by
  rw [IsFirst, List.find?_append, first]
  rfl

/-- Members are the first with identifiers that are not among those seen before. -/
theorem mem_distinctFrom {seen : List String} :
    a ∈ distinctFrom seen annotations ↔ a.identifier ∉ seen ∧ a.IsFirst annotations := by
  induction annotations generalizing seen with
  | nil => simp [distinctFrom, IsFirst]
  | cons b rest ih =>
    rw [distinctFrom, IsFirst, List.find?_cons]
    by_cases same : b.identifier = a.identifier
    · rw [decide_eq_true same, Option.some.injEq, same]
      split
      · rename_i known
        have known := List.contains_iff_mem.mp known
        rw [ih]
        exact ⟨fun h => absurd known h.1, fun h => absurd known h.1⟩
      · rename_i unknown
        rw [List.contains_iff_mem] at unknown
        rw [List.mem_cons, ih]
        refine ⟨?_, fun h => .inl h.2.symm⟩
        rintro (rfl | ⟨other, -⟩)
        · exact ⟨unknown, rfl⟩
        · exact absurd (List.mem_cons_self ..) other
    · rw [decide_eq_false same]
      split
      · exact ih
      · have other : a ≠ b := fun eq => same (eq ▸ rfl)
        rw [List.mem_cons, ih, List.mem_cons, or_iff_right other, not_or]
        exact ⟨fun h => ⟨h.1.2, h.2⟩, fun h => ⟨⟨fun eq => same eq.symm, h.1⟩, h.2⟩⟩

/-- **Of the annotations with one identifier, the first is kept.** -/
theorem mem_distinct : a ∈ distinct annotations ↔ a.IsFirst annotations := by
  rw [distinct, mem_distinctFrom]
  exact and_iff_right List.not_mem_nil

/-- Of each member one with the same identifier is kept. -/
theorem exists_mem_distinct (mem : a ∈ annotations) :
    ∃ kept ∈ distinct annotations, kept.identifier = a.identifier := by
  cases found : annotations.find? fun b => b.identifier = a.identifier with
  | none => simpa using List.find?_eq_none.mp found a mem
  | some kept =>
    have same : kept.identifier = a.identifier := by simpa using List.find?_some found
    exact ⟨kept, mem_distinct.mpr (by rw [IsFirst, same, found]), same⟩

/-- No identifier is kept twice. -/
theorem nodup_distinctFrom (annotations : List Annotation) (seen : List String) :
    ((distinctFrom seen annotations).map identifier).Nodup := by
  induction annotations generalizing seen with
  | nil => exact List.nodup_nil
  | cons b rest ih =>
    rw [distinctFrom]
    split
    · exact ih seen
    · rw [List.map_cons, List.nodup_cons]
      refine ⟨fun mem => ?_, ih _⟩
      obtain ⟨c, memC, same⟩ := List.mem_map.mp mem
      exact (mem_distinctFrom.mp memC).1 (same ▸ List.mem_cons_self ..)

/-- No identifier is kept twice, whether or not members are left out. -/
theorem nodup_filter_distinct (annotations : List Annotation) (p : Annotation → Bool) :
    (((distinct annotations).filter p).map identifier).Nodup :=
  (nodup_distinctFrom annotations []).sublist (List.filter_sublist.map _)

end Annotation

/-! ## What is handed to a type -/

/-- **What is handed to a type passes every wrapper.** The type is displayed with what stands
behind it: annotations that it has at its core, if it finds any there. -/
theorem TypeRequest.exists_own_of_typeOf {context : Context} {request : TypeRequest}
    {shown : ShownType} (found : typeOf context request = .ok shown) :
    ∃ own decisive, own ⊆ request.type.core.annotationsAt request.sourceSet.name ∧
      context.shownAnnotations (request.annotationsWith own) decisive = .ok shown.annotations := by
  -- the core below a wrapper has no more annotations than that of the type
  have widen : ∀ {request : TypeRequest} {form : TypeUse} {shown : ShownType},
      context.writtenForm request = .ok form →
      (∃ own decisive, own ⊆ form.core.annotationsAt request.sourceSet.name ∧
        context.shownAnnotations (request.annotationsWith own) decisive =
          .ok shown.annotations) →
      ∃ own decisive, own ⊆ request.type.core.annotationsAt request.sourceSet.name ∧
        context.shownAnnotations (request.annotationsWith own) decisive =
          .ok shown.annotations := by
    rintro request form shown written ⟨own, decisive, sub, annotated⟩
    have kept := context.annotationsAt_core_writtenForm written request.sourceSet.name
    exact ⟨own, decisive, List.Subset.trans sub kept, annotated⟩
  have face : ∀ {request : TypeRequest} {form : TypeUse} {face : Face},
      face.Shows context request form →
      ∃ own decisive, own ⊆ request.type.core.annotationsAt request.sourceSet.name ∧
        context.shownAnnotations (request.annotationsWith own) decisive =
          .ok face.annotations := by
    intro request form face shows
    obtain ⟨decisive, annotated, -⟩ := shows.annotations
    exact ⟨_, decisive, (request.type.annotationsAt_sublist_core _).subset, annotated⟩
  refine typeOf_induct (motive := fun request shown =>
      ∃ own decisive, own ⊆ request.type.core.annotationsAt request.sourceSet.name ∧
        context.shownAnnotations (request.annotationsWith own) decisive =
          .ok shown.annotations)
    ?_ ?_ ?_ ?_ ?_ ?_ found
  · exact fun written inside => widen written inside
  · exact fun written inside => widen written inside
  · exact fun written inside => widen written inside
  · exact fun shows _ => face shows
  · exact fun shows _ _ => face shows
  · exact fun shows _ _ _ _ => face shows

/-! ## Both sides -/

namespace Context

/-- **What a declaration displays** of the annotations that belong to it. -/
structure DisplaysOwn (context : Context) (given displayed : List Annotation) : Prop where
  /-- they stand in the given order, with nothing injected -/
  order : displayed.Sublist given
  /-- no two have the same identifier -/
  once : (displayed.map identifier).Nodup
  /-- they are those that are of interest to a reader -/
  mem_iff : ∀ a, a ∈ displayed ↔ context.isNoise a = false ∧ a.IsFirst given

/-- **What a type displays** of the annotations that a declaration hands to it, and of those at
its core. -/
structure DisplaysHanded (context : Context) (given core displayed : List Annotation) :
    Prop where
  /-- no two have the same identifier -/
  once : (displayed.map identifier).Nodup
  /-- what is handed to it is there, if it is of interest and does not state nullability -/
  handed : ∀ a ∈ given, context.isNoise a = false → a.isNullability = false →
    a.IsFirst (given.map publicForm) → a ∈ displayed
  /-- nothing is there but the public forms of both, and what is injected -/
  only : ∀ a ∈ displayed, context.isNoise a = false ∧
    (a ∈ (given ++ core).map publicForm ∨ a = .publicNonNull)

variable {context : Context} {shown : List ShownAnnotation}

theorem isNoise_of_isShown {n : Nullability} {a : Annotation}
    (isShown : context.isShown n a = true) : context.isNoise a = false := by
  rw [Context.isShown, Bool.and_eq_true, Bool.not_eq_true'] at isShown
  exact isShown.1

/-- **A declaration displays what belongs to it.** -/
theorem exists_displaysOwn {annotations : List Annotation}
    (found : context.shownAnnotations (onDeclaration annotations) .unimportant =
      .ok shown) :
    ∃ displayed, shown = displayed.map context.shownAnnotation ∧
      context.DisplaysOwn (onDeclaration annotations) displayed := by
  have other : ∀ a ∈ onDeclaration annotations, a.isNullability = false :=
    fun a mem => isNullability_of_mem_onDeclaration mem
  have same := map_publicForm_of_not_isNullability other
  obtain ⟨injected, -, nothing, rfl⟩ := exists_injected_of_shownAnnotations found
  rw [nothing fun _ => rfl, List.append_nil, same]
  refine ⟨_, rfl, ?_, nodup_filter_distinct _ _, fun a => ?_⟩
  · exact List.filter_sublist.trans (distinctFrom_sublist [] _)
  · rw [List.mem_filter, mem_distinct]
    constructor
    · rintro ⟨first, isShown⟩
      exact ⟨isNoise_of_isShown isShown, first⟩
    · rintro ⟨interest, first⟩
      refine ⟨first, isShown_of_isOrdinary ?_ _⟩
      rw [isOrdinary, interest, other a first.mem]
      rfl

/-- **A type displays what is handed to it**, before what stands behind it. -/
theorem exists_displaysHanded {given own core : List Annotation} {n : Nullability}
    (sub : own ⊆ core) (found : context.shownAnnotations (given ++ own) n = .ok shown) :
    ∃ displayed, shown = displayed.map context.shownAnnotation ∧
      context.DisplaysHanded given core displayed := by
  obtain ⟨injected, only, -, rfl⟩ := exists_injected_of_shownAnnotations found
  refine ⟨_, rfl, nodup_filter_distinct _ _, ?_, fun a mem => ?_⟩
  · intro a _ interest other first
    refine List.mem_filter.mpr ⟨mem_distinct.mpr ?_, isShown_of_isOrdinary ?_ _⟩
    · rw [List.map_append, List.append_assoc]
      exact first.append _
    · rw [isOrdinary, interest, other]
      rfl
  · obtain ⟨kept, isShown⟩ := List.mem_filter.mp mem
    refine ⟨isNoise_of_isShown isShown, ?_⟩
    rcases List.mem_append.mp (mem_distinct.mp kept).mem with forms | injection
    · refine .inl (List.map_subset _ ?_ forms)
      exact List.append_subset.mpr
        ⟨List.subset_append_left .., List.subset_append_of_subset_right _ sub⟩
    · exact .inr (only a injection)

end Context

namespace Signature

/-- The annotations on the declaration. -/
def annotations : Signature → List ShownAnnotation
  | function s => s.annotations
  | property s => s.annotations

/-- The type of a property, or the return type of a function. -/
def declaredType : Signature → ShownType
  | function s => s.returnType
  | property s => s.type

end Signature

/-- A signature has the annotations of the declaration, and its type. -/
theorem parts_of_signatureOf {context : Context} {declaration : Declaration} {inSummary : Bool}
    {s : SourceSet} {signature : Signature}
    (found : signatureOf context declaration inSummary s = .ok signature) :
    declarationAnnotations context declaration s = .ok signature.annotations ∧
      ∃ isReturn, declaredTypeOf context declaration declaration.declaredType s isReturn =
        .ok signature.declaredType := by
  obtain ⟨_, _, _, _, _, _, _, _, _, _, detail⟩ := declaration
  cases detail with
  | function detail =>
    obtain ⟨signature, rendered, rfl⟩ := map_eq_ok.mp found
    unfold renderFunction at rendered
    obtain ⟨modifiers, -, rendered⟩ := bind_eq_ok.mp rendered
    obtain ⟨returnType, typeFound, rendered⟩ := bind_eq_ok.mp rendered
    obtain ⟨typeParameters, -, rendered⟩ := bind_eq_ok.mp rendered
    obtain ⟨parameters, -, rendered⟩ := bind_eq_ok.mp rendered
    obtain ⟨receivers, -, rendered⟩ := bind_eq_ok.mp rendered
    obtain ⟨annotations, annotated, rendered⟩ := bind_eq_ok.mp rendered
    rw [attempt_eq] at annotated
    cases rendered
    exact ⟨annotated, true, typeFound⟩
  | property detail =>
    obtain ⟨signature, rendered, rfl⟩ := map_eq_ok.mp found
    unfold renderProperty at rendered
    obtain ⟨modifiers, -, rendered⟩ := bind_eq_ok.mp rendered
    obtain ⟨type, typeFound, rendered⟩ := bind_eq_ok.mp rendered
    obtain ⟨receivers, -, rendered⟩ := bind_eq_ok.mp rendered
    obtain ⟨annotations, annotated, rendered⟩ := bind_eq_ok.mp rendered
    rw [attempt_eq] at annotated
    cases rendered
    exact ⟨annotated, false, typeFound⟩

/-- **Every annotation finds its place, and is displayed there once.** In a source set, the
signature displays those that belong to the declaration, in order, and nothing else. The type
displays those that belong to it, except perhaps for those that state nullability, whatever
wrappers it has and however it is displayed; from the declaration it has no others. Of the
annotations on one side with the same identifier, in the form in which they are displayed, all
but the first are left out. -/
theorem placed_once (context : Context) (declaration : Declaration) (inSummary : Bool)
    (s : SourceSet) (signature : Signature)
    (found : signatureOf context declaration inSummary s = .ok signature) :
    (∃ displayed, signature.annotations = displayed.map context.shownAnnotation ∧
      context.DisplaysOwn (onDeclaration (declaration.annotations.at s.name))
        displayed) ∧
    ∃ displayed, signature.declaredType.annotations = displayed.map context.shownAnnotation ∧
      context.DisplaysHanded (onType (declaration.annotations.at s.name))
        (declaration.declaredType.core.annotationsAt s.name) displayed := by
  obtain ⟨own, isReturn, type⟩ := parts_of_signatureOf found
  refine ⟨context.exists_displaysOwn own, ?_⟩
  rw [declaredTypeOf_eq] at type
  obtain ⟨behind, n, sub, annotated⟩ := TypeRequest.exists_own_of_typeOf type
  -- for declared types nothing is displayed elsewhere
  have all : (declaredRequest context declaration declaration.declaredType s
      isReturn).annotationsWith behind =
      onType (declaration.annotations.at s.name) ++ behind :=
    List.filter_eq_self.mpr fun _ _ => rfl
  rw [all] at annotated
  exact context.exists_displaysHanded sub annotated

/-- The annotation class `Foo` of the package `kotlin.jvm`, which is for the compiler. -/
def compilerFoo : Annotation := .ofClass "kotlin.jvm" "Foo"

/-- The annotation class `Foo` that is nested in a class `jvm` of the package `kotlin`. -/
def nestedFoo : Annotation := .ofClass "kotlin" "jvm.Foo"

/-- A function with `compilerFoo` and `nestedFoo`, and with an annotation that belongs to its
type. -/
def labelText : Declaration where
  identity := ⟨"com.example", some "Label", some "text"⟩
  name := "text"
  sourceSets := [⟨.jvm, "jvmMain"⟩]
  annotations :=
    .insert ∅ "jvmMain" [compilerFoo, nestedFoo, .ofClass "androidx.annotation" "StringRes"]
  detail := .function { returnType := .classRef ⟨.ofClass "kotlin" "Int", none, ∅, .generic⟩ [] }

/-- The type of `labelText` is displayed with the annotation that belongs to it. -/
theorem placed_once_labelText :
    let context := Context.reference .kotlin {}
    ∃ signature, signatureOf context labelText false ⟨.jvm, "jvmMain"⟩ = .ok signature ∧
      ∃ displayed : List Annotation,
        signature.declaredType.annotations = displayed.map context.shownAnnotation ∧
          .ofClass "androidx.annotation" "StringRes" ∈ displayed := by
  intro context
  obtain ⟨signature, found⟩ :=
    exists_of_isOk (signatureOf context labelText false ⟨.jvm, "jvmMain"⟩) (by decide +kernel)
  obtain ⟨-, displayed, shown, placed⟩ := placed_once context labelText false _ signature found
  refine ⟨signature, found, displayed, shown, placed.handed _ ?_ ?_ ?_ ?_⟩
  · decide +kernel
  · decide +kernel
  · decide +kernel
  · decide +kernel

/-- **The first with an identifier may hide one that is of interest.** Nothing is displayed on
`labelText`: the two classes have the same qualified name, and only the annotation for the
compiler is left of the two. -/
theorem placement_hides_namesake :
    let context := Context.reference .kotlin {}
    nestedFoo ∈ labelText.annotations.at "jvmMain" ∧ nestedFoo.isTypeBound = false ∧
      context.isNoise nestedFoo = false ∧
      (signatureOf context labelText false ⟨.jvm, "jvmMain"⟩).map Signature.annotations = .ok [] ∧
      (signatureOf context labelText false ⟨.jvm, "jvmMain"⟩).map Signature.text =
        .ok "fun text(): @StringRes Int" := by
  intro context
  refine ⟨?_, ?_, ?_, ?_, ?_⟩
  · decide +kernel
  · decide +kernel
  · decide +kernel
  · decide +kernel
  · decide +kernel

end Diglot
