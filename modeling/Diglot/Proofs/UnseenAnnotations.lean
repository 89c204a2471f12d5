import Diglot.Proofs.Consolidation
import Diglot.Proofs.Conversion

/-!
# Annotations that are never displayed

An annotation may be placed beside others, handed to a type, passed on below wrappers, asked
about nullability and compared with its neighbors before it is left out of the display. If it
is unseen (`Context.isUnseen`), nothing comes of all that.

* `Inserted.filter_distinct` — among annotations with other identifiers it takes no one's place.
* `Context.shownAnnotations_inserted` — so lists of annotations are displayed as they are
  without it.
* `typeOf_inserted` — types are shown as they are without it, at every depth of wrappers.
* `unseen_inert` — so are signatures, and the variants that are made up of them.

What counts is the identifier of a neighbor in the form in which it is displayed. That of the
public form differs from that of a platform annotation, and an unseen annotation can have the
former (`unseen_displaces`).
-/

namespace Diglot

open Annotation

/-! ## Insertions -/

/-- A list with `new` members inserted at any positions. -/
inductive Inserted {α : Type} (new : α → Prop) : List α → List α → Prop where
  /-- nothing to insert into -/
  | nil : Inserted new [] []
  /-- a member that was there -/
  | keep (a : α) {list longer : List α} (rest : Inserted new list longer) :
    Inserted new (a :: list) (a :: longer)
  /-- a member that is new -/
  | insert {a : α} {list longer : List α} (isNew : new a) (rest : Inserted new list longer) :
    Inserted new list (a :: longer)

namespace Inserted

variable {α : Type} {new : α → Prop} {list longer : List α}

/-- Nothing need be inserted. -/
theorem refl (list : List α) : Inserted new list list := by
  induction list with
  | nil => exact .nil
  | cons a rest ih => exact .keep a ih

theorem append_right (h : Inserted new list longer) (more : List α) :
    Inserted new (list ++ more) (longer ++ more) := by
  induction h with
  | nil => exact refl more
  | keep a _ ih => exact .keep a ih
  | insert isNew _ ih => exact .insert isNew ih

theorem filter (h : Inserted new list longer) (p : α → Bool) :
    Inserted new (list.filter p) (longer.filter p) := by
  induction h with
  | nil => exact .nil
  | keep a _ ih =>
    rw [List.filter_cons, List.filter_cons]
    split
    · exact .keep a ih
    · exact ih
  | insert isNew _ ih =>
    rw [List.filter_cons]
    split
    · exact .insert isNew ih
    · exact ih

theorem map (h : Inserted new list longer) {f : α → α} (fixed : ∀ a, new a → f a = a) :
    Inserted new (list.map f) (longer.map f) := by
  induction h with
  | nil => exact .nil
  | keep a _ ih => exact .keep (f a) ih
  | insert isNew _ ih =>
    rw [List.map_cons, fixed _ isNew]
    exact .insert isNew ih

/-- Whether some member passes a test does not depend on new members that do not pass it. -/
theorem any_eq (h : Inserted new list longer) {p : α → Bool} (none : ∀ a, new a → p a = false) :
    longer.any p = list.any p := by
  induction h with
  | nil => rfl
  | keep a _ ih => rw [List.any_cons, List.any_cons, ih]
  | insert isNew _ ih => rw [List.any_cons, none _ isNew, Bool.false_or, ih]

theorem find?_eq (h : Inserted new list longer) {p : α → Bool} (none : ∀ a, new a → p a = false) :
    longer.find? p = list.find? p := by
  induction h with
  | nil => rfl
  | keep a _ ih => rw [List.find?_cons, List.find?_cons, ih]
  | insert isNew _ ih => rw [List.find?_cons, none _ isNew, ih]

end Inserted

/-! ## Duplicates -/

namespace Annotation

/-- Of the identifiers seen before only the set matters. -/
theorem distinctFrom_congr (annotations : List Annotation) {seen seen' : List String}
    (same : ∀ i, i ∈ seen' ↔ i ∈ seen) :
    distinctFrom seen' annotations = distinctFrom seen annotations := by
  induction annotations generalizing seen seen' with
  | nil => rfl
  | cons a rest ih =>
    have contains : seen'.contains a.identifier = seen.contains a.identifier := by
      rw [Bool.eq_iff_iff, List.contains_iff_mem, List.contains_iff_mem, same]
    rw [distinctFrom, distinctFrom, contains, ih same]
    refine ite_congr rfl (fun _ => rfl) fun _ => congrArg _ (ih fun i => ?_)
    rw [List.mem_cons, List.mem_cons, same]

/-- A member that is left out anyway leaves only its identifier. -/
theorem filter_distinctFrom_cons {p : Annotation → Bool} {a : Annotation} (out : p a = false)
    (seen : List String) (rest : List Annotation) :
    (distinctFrom seen (a :: rest)).filter p =
      (distinctFrom (a.identifier :: seen) rest).filter p := by
  rw [distinctFrom]
  split
  · rename_i known
    refine congrArg _ (distinctFrom_congr rest fun i => ?_)
    rw [List.mem_cons, eq_comm (a := i)]
    refine ⟨Or.inr, ?_⟩
    rintro (rfl | mem)
    · exact List.contains_iff_mem.mp known
    · exact mem
  · rw [List.filter_cons, out]
    rfl

end Annotation

/-- What is inserted and left out anyway leaves the others where they are, if no other that
stays has the same identifier. `seen` and `seen'` are what was met so far. -/
theorem Inserted.filter_distinctFrom {new : Annotation → Prop} {p : Annotation → Bool}
    {list longer : List Annotation} (h : Inserted new list longer)
    (out : ∀ a, new a → p a = false)
    (apart : ∀ a, new a → ∀ b ∈ list, p b = true → a.identifier ≠ b.identifier)
    {seen seen' : List String}
    (same : ∀ b ∈ list, p b = true → (b.identifier ∈ seen' ↔ b.identifier ∈ seen)) :
    (distinctFrom seen' longer).filter p =
      (distinctFrom seen list).filter p := by
  induction h generalizing seen seen' with
  | nil => rfl
  | @keep a list longer _ ih =>
    have apart' := fun a isNew b mem => apart a isNew b (List.mem_cons_of_mem _ mem)
    have same' : ∀ b ∈ list, p b = true →
        (b.identifier ∈ a.identifier :: seen' ↔ b.identifier ∈ a.identifier :: seen) := by
      intro b mem stays
      rw [List.mem_cons, List.mem_cons, same b (List.mem_cons_of_mem _ mem) stays]
    cases stays : p a with
    | false =>
      rw [filter_distinctFrom_cons stays, filter_distinctFrom_cons stays]
      exact ih apart' same'
    | true =>
      have contains : seen'.contains a.identifier = seen.contains a.identifier := by
        rw [Bool.eq_iff_iff, List.contains_iff_mem, List.contains_iff_mem]
        exact same a (List.mem_cons_self ..) stays
      rw [distinctFrom, distinctFrom, contains]
      split
      · exact ih apart' fun b mem => same b (List.mem_cons_of_mem _ mem)
      · rw [List.filter_cons, List.filter_cons, ih apart' same']
  | @insert a list longer isNew _ ih =>
    rw [filter_distinctFrom_cons (out a isNew)]
    refine ih apart fun b mem stays => ?_
    rw [List.mem_cons, same b mem stays]
    exact or_iff_right fun eq => apart a isNew b mem stays eq.symm

/-- **An annotation that is left out takes no one's place** in the list of distinct ones. -/
theorem Inserted.filter_distinct {new : Annotation → Prop} {p : Annotation → Bool}
    {list longer : List Annotation} (h : Inserted new list longer)
    (out : ∀ a, new a → p a = false)
    (apart : ∀ a, new a → ∀ b ∈ list, p b = true → a.identifier ≠ b.identifier) :
    (distinct longer).filter p = (distinct list).filter p :=
  h.filter_distinctFrom out apart fun _ _ _ => Iff.rfl

/-! ## Unseen annotations -/

namespace Context

/-- Whether an annotation is never displayed and states nothing by its name: it suppresses
warnings, speaks to the compiler, or is excluded or hidden by the configuration, and it is
neither a nullability annotation nor marks deprecation. -/
def isUnseen (context : Context) (a : Annotation) : Bool :=
  (a.isSuppression || a.isInterop || context.config.isExcluded context.dialect a.fullName ||
      context.config.isHidden a.fullName) &&
    !a.isNullability && !a.isDeprecation

variable {context : Context} {a : Annotation}

theorem isNullability_of_isUnseen (unseen : context.isUnseen a = true) :
    a.isNullability = false := by
  simp only [isUnseen, Bool.and_eq_true, Bool.not_eq_true'] at unseen
  exact unseen.1.2

theorem isDeprecation_of_isUnseen (unseen : context.isUnseen a = true) :
    a.isDeprecation = false := by
  simp only [isUnseen, Bool.and_eq_true, Bool.not_eq_true'] at unseen
  exact unseen.2

theorem isShown_of_isUnseen (unseen : context.isUnseen a = true) (n : Nullability) :
    context.isShown n a = false := by
  have noise : context.isNoise a = true := by
    simp only [isUnseen, Bool.and_eq_true, Bool.or_eq_true] at unseen
    obtain ⟨⟨((suppression | interop) | excluded) | hidden, -⟩, -⟩ := unseen <;>
      simp [isNoise, *]
  rw [isShown, noise, Bool.not_true, Bool.false_and]

end Context

namespace Annotation

variable {a : Annotation}

/-- Only nullability annotations have a public form of their own. -/
theorem publicForm_of_not_isNullability (other : a.isNullability = false) : a.publicForm = a := by
  refine if_neg fun platform => ?_
  simp only [Bool.and_eq_true, Bool.or_eq_true, decide_eq_true_eq] at platform
  rcases platform.2 with name | name <;>
    simp [isNullability, nullabilityNames, name] at other

/-- Lists without nullability annotations are in public form. -/
theorem map_publicForm_of_not_isNullability {annotations : List Annotation}
    (other : ∀ a ∈ annotations, a.isNullability = false) :
    annotations.map publicForm = annotations := by
  have fixed := List.map_congr_left fun a mem => publicForm_of_not_isNullability (other a mem)
  exact fixed.trans (List.map_id' _)

/-- What belongs to a declaration does not state nullability. -/
theorem isNullability_of_not_isTypeBound (free : a.isTypeBound = false) :
    a.isNullability = false := by
  rw [isTypeBound, Bool.or_assoc, Bool.or_eq_false_iff] at free
  exact free.1

theorem isNullability_of_mem_onDeclaration {annotations : List Annotation}
    (mem : a ∈ onDeclaration annotations) : a.isNullability = false := by
  have free := (List.mem_filter.mp mem).2
  exact isNullability_of_not_isTypeBound (by simpa using free)

theorem marksNullable_of_not_isNullability (other : a.isNullability = false) :
    a.marksNullable = false := by
  simp_all [isNullability, nullabilityNames, marksNullable]

theorem marksNonNull_of_not_isNullability (other : a.isNullability = false) :
    a.marksNonNull = false := by
  simp_all [isNullability, nullabilityNames, marksNonNull]

/-- Where there are arguments, the identifier ends with a parenthesis. -/
theorem getLast?_identifier (identity : Identity) (first : AnnotationArgument)
    (rest : List AnnotationArgument) :
    (mk identity (first :: rest)).identifier.toList.getLast? = some ')' := by
  rw [identifier, String.toList_append, List.getLast?_append]
  rfl

/-- An annotation with the identifier of the public non-null annotation has its name. -/
theorem fullName_of_identifier_eq (same : a.identifier = publicNonNull.identifier) :
    a.fullName = publicNonNull.fullName := by
  have plain : publicNonNull.identifier = publicNonNull.fullName := rfl
  obtain ⟨identity, arguments⟩ := a
  cases arguments with
  | nil => exact same.trans plain
  | cons first rest =>
    have ends := getLast?_identifier identity first rest
    rw [same] at ends
    exact absurd ends (by decide)

end Annotation

namespace Identity

variable {identity : Identity}

/-- A qualified name ends as the name of the class does. -/
theorem getLast?_fullName {name : String} {last : Char} (named : identity.classNames = some name)
    (ends : name.toList.getLast? = some last) :
    identity.fullName.toList.getLast? = some last := by
  rw [fullName, named]
  dsimp only
  split
  · exact ends
  · rw [String.toList_append, List.getLast?_append, ends]
    rfl

/-- A qualified name begins as the package does. -/
theorem head?_fullName {first : Char} (begins : identity.package.toList.head? = some first) :
    identity.fullName.toList.head? = some first := by
  have nonempty : identity.package ≠ "" := by
    intro empty
    rw [empty] at begins
    cases begins
  rw [fullName]
  split
  · exact begins
  · rw [if_neg nonempty, String.toList_append, String.toList_append, List.head?_append,
      List.head?_append, begins]
    rfl

end Identity

/-- The name of a suppression ends with `s` or `t`. -/
theorem Annotation.getLast?_fullName_of_isSuppression {a : Annotation}
    (suppression : a.isSuppression = true) :
    a.fullName.toList.getLast? = some 's' ∨ a.fullName.toList.getLast? = some 't' := by
  rw [isSuppression, List.contains_iff_mem, className, Identity.className] at suppression
  cases named : a.identity.classNames with
  | none =>
    rw [named] at suppression
    exact absurd suppression (by decide)
  | some name =>
    rw [named, Option.getD_some] at suppression
    simp only [suppressionNames, List.mem_cons, List.not_mem_nil, or_false] at suppression
    rcases suppression with rfl | rfl | rfl
    · exact Or.inl (Identity.getLast?_fullName named (by decide))
    · exact Or.inl (Identity.getLast?_fullName named (by decide))
    · exact Or.inr (Identity.getLast?_fullName named (by decide))

namespace Context

variable {context : Context} {a : Annotation}

/-- **What is unseen does not hide the public non-null annotation**: under its name it would be
excluded or hidden, and so would be the public one. -/
theorem isShown_publicNonNull (unseen : context.isUnseen a = true)
    (same : a.identifier = publicNonNull.identifier) (n : Nullability) :
    context.isShown n .publicNonNull = false := by
  have name := fullName_of_identifier_eq same
  simp only [isUnseen, Bool.and_eq_true, Bool.or_eq_true] at unseen
  have noise : context.isNoise .publicNonNull = true := by
    rcases unseen.1.1 with ((suppression | interop) | excluded) | hidden
    · rcases getLast?_fullName_of_isSuppression suppression with ends | ends
      all_goals
        rw [name] at ends
        exact absurd ends (by decide)
    · have begins : a.fullName.toList.head? = some 'k' :=
        Identity.head?_fullName (of_decide_eq_true interop ▸ rfl)
      rw [name] at begins
      exact absurd begins (by decide)
    · rw [name] at excluded
      simp [isNoise, excluded]
    · rw [name] at hidden
      simp [isNoise, hidden]
  rw [isShown, noise, Bool.not_true, Bool.false_and]

/-! ## What is displayed -/

/-- **Lists of annotations are displayed as they are without unseen ones**, if these are not
taken for others. -/
theorem shownAnnotations_inserted {new : Annotation → Prop} {list longer : List Annotation}
    (h : Inserted new list longer) (unseen : ∀ a, new a → context.isUnseen a = true)
    (apart : ∀ a, new a → ∀ b ∈ list, a.identifier ≠ b.publicForm.identifier)
    (n : Nullability) :
    context.shownAnnotations longer n = context.shownAnnotations list n := by
  have other := fun a isNew => isNullability_of_isUnseen (unseen a isNew)
  have forms : Inserted new (list.map publicForm)
      (longer.map publicForm) :=
    h.map fun a isNew => publicForm_of_not_isNullability (other a isNew)
  have refused : ∀ a, new a →
      (a.isNullability && !context.config.isValidNullability a.fullName) = false := by
    intro a isNew
    rw [other a isNew, Bool.false_and]
  unfold shownAnnotations
  dsimp only
  rw [forms.find?_eq refused, forms.any_eq other]
  generalize injection : (if (context.dialect = .java &&
      !(list.map publicForm).any isNullability) = true then
        n.javaAnnotation?.toList else []) = injected
  have injectedOnly : ∀ b ∈ injected, b = .publicNonNull := by
    intro b mem
    subst injection
    split at mem
    · exact Nullability.eq_of_mem_javaAnnotation? mem
    · cases mem
  have same : (distinct (longer.map publicForm ++ injected)).filter
        (context.isShown n) =
      (distinct (list.map publicForm ++ injected)).filter
        (context.isShown n) := by
    refine (forms.append_right injected).filter_distinct
      (fun a isNew => isShown_of_isUnseen (unseen a isNew) n) ?_
    intro a isNew b mem stays identifier
    rcases List.mem_append.mp mem with mem | mem
    · obtain ⟨b', mem', rfl⟩ := List.mem_map.mp mem
      exact apart a isNew b' mem' identifier
    · obtain rfl := injectedOnly b mem
      rw [isShown_publicNonNull (unseen a isNew) identifier] at stays
      cases stays
  rw [same]

end Context

/-! ## Types -/

section

variable {context : Context} {new : Annotation → Prop} {list longer : List Annotation}

/-- Annotations that do not state nullability leave that of a type as it is. -/
theorem TypeUse.nullability_inserted (h : Inserted new list longer)
    (other : ∀ a, new a → a.isNullability = false) (dialect : Dialect) (fromJava : Option Bool)
    (type : TypeUse) :
    type.nullability dialect fromJava longer = type.nullability dialect fromJava list := by
  have nullable := fun a isNew => marksNullable_of_not_isNullability (other a isNew)
  have nonNull := fun a isNew => marksNonNull_of_not_isNullability (other a isNew)
  have stated : type.statedNullability fromJava longer = type.statedNullability fromJava list := by
    have beside := h.append_right type.leadingAnnotations
    rw [statedNullability, statedNullability, Nullability.ofAnnotations?,
      Nullability.ofAnnotations?, beside.any_eq nullable, beside.any_eq nonNull]
  cases type <;> simp only [nullability, stated]

/-- A form is shown by its nullability and its displayed annotations. -/
theorem shownForm_inserted {request : TypeRequest} (h : Inserted new request.carried longer)
    (unseen : ∀ a, new a → context.isUnseen a = true)
    (apart : ∀ a, new a → ∀ b ∈ request.annotations, a.identifier ≠ b.publicForm.identifier)
    (arguments : List ShownType) (form : TypeUse) :
    shownForm context { request with carried := longer } arguments form =
      shownForm context request arguments form := by
  have other := fun a isNew => Context.isNullability_of_isUnseen (unseen a isNew)
  have inserted : Inserted new request.annotations
      { request with carried := longer }.annotations := (h.append_right _).filter _
  have annotations := context.shownAnnotations_inserted inserted unseen apart
  have nullability : { request with carried := longer }.nullability context.dialect form =
      request.nullability context.dialect form := by
    rw [TypeRequest.nullability, TypeUse.nullability_inserted h other]
    rfl
  have stated := TypeUse.nullability_inserted inserted other context.dialect (some false) form
  unfold shownForm renderFormBy renderLambdaBy
  simp only [annotations, nullability, stated]

/-- **Types are shown as they are without unseen annotations** that are handed to them, at every
depth of wrappers. -/
theorem typeOf_inserted (request : TypeRequest) (h : Inserted new request.carried longer)
    (unseen : ∀ a, new a → context.isUnseen a = true)
    (apart : ∀ a, new a →
      ∀ b ∈ request.carried ++ request.type.core.annotationsAt request.sourceSet.name,
        a.identifier ≠ b.publicForm.identifier) :
    typeOf context { request with carried := longer } = typeOf context request := by
  -- what stands at the core stays there, or goes
  induction size : request.type.nodes using Nat.strongRecOn generalizing request with
  | ind size ih =>
    subst size
    rw [typeOf_eq, typeOf_eq context request]
    refine congrArg (Except.bind (shownArguments context request)) (funext fun arguments => ?_)
    change (context.writtenForm request).bind _ = _
    cases written : context.writtenForm request with
    | error e => rfl
    | ok form =>
      have le := context.nodes_writtenForm_le written
      have kept := context.annotationsAt_core_writtenForm written request.sourceSet.name
      have apart' : ∀ a, new a →
          ∀ b ∈ request.carried ++ form.core.annotationsAt request.sourceSet.name,
            a.identifier ≠ b.publicForm.identifier := by
        intro a isNew b mem
        refine apart a isNew b ?_
        rcases List.mem_append.mp mem with mem | mem
        · exact List.mem_append_left _ mem
        · exact List.mem_append_right _ (kept mem)
      change shownBelow context { request with carried := longer } arguments form =
        shownBelow context request arguments form
      by_cases leaf : form.isWrapper = false
      · rw [shownBelow_of_not_isWrapper leaf, shownBelow_of_not_isWrapper leaf]
        refine shownForm_inserted h unseen (fun a isNew b mem => apart a isNew b ?_) arguments form
        rcases List.mem_append.mp (List.mem_filter.mp mem).1 with mem | mem
        · exact List.mem_append_left _ mem
        · exact List.mem_append_right _ ((request.type.annotationsAt_sublist_core _).subset mem)
      · cases form with
        | nullable inner => exact ih _ le (request.forNullable inner) h apart' rfl
        | projected variance inner => exact ih _ le (request.forProjected inner) h apart' rfl
        | aliased named inner =>
          have lt := Nat.lt_of_lt_of_le (TypeUse.nodes_lt_of_inside? rfl) le
          exact ih _ lt (request.forAliased inner) h apart' rfl
        | classRef | parameter | primitive | javaObject | void | star | dynamic | unresolved
        | nonNull => exact absurd rfl leaf

end

/-! ## Values by source set -/

/-- What a source set has is listed under its name, and nothing else is. -/
theorem BySourceSet.get?_eq_some_iff {α : Type} {map : BySourceSet α} {name : String} {value : α} :
    map.get? name = some value ↔ (name, value) ∈ map.entries := by
  obtain ⟨entries, distinct⟩ := map
  change (entries.find? fun entry => entry.1 = name).map Prod.snd = some value ↔
    (name, value) ∈ entries
  induction entries with
  | nil => simp
  | cons entry rest ih =>
    obtain ⟨other, found⟩ := entry
    rw [List.map_cons, List.nodup_cons] at distinct
    rw [List.find?_cons, List.mem_cons]
    by_cases same : other = name
    · subst same
      have once : (other, value) ∉ rest := fun mem =>
        distinct.1 (List.mem_map.mpr ⟨_, mem, rfl⟩)
      simp [once, eq_comm]
    · have differ : (name, value) ≠ (other, found) := fun eq => same (Prod.ext_iff.mp eq).1.symm
      simp only [same, decide_false, differ, false_or]
      exact ih distinct.2

/-- A source set that is not listed has no annotations. -/
theorem SourcedAnnotations.at_eq_nil {annotations : SourcedAnnotations} {name : String}
    (absent : name ∉ annotations.entries.map Prod.fst) : annotations.at name = [] := by
  cases found : annotations.get? name with
  | none => rw [SourcedAnnotations.at, found, Option.getD_none]
  | some list =>
    have memEntry := BySourceSet.get?_eq_some_iff.mp found
    exact absurd (List.mem_map.mpr ⟨_, memEntry, rfl⟩) absent

/-- Some annotation is of a kind if one is in some source set. -/
theorem SourcedAnnotations.any_values_iff {annotations : SourcedAnnotations}
    {p : Annotation → Bool} :
    (annotations.values.any fun list => list.any p) = true ↔
      ∃ name, (annotations.at name).any p = true := by
  rw [List.any_eq_true]
  constructor
  · rintro ⟨list, mem, some⟩
    obtain ⟨⟨name, list'⟩, memEntry, rfl⟩ := List.mem_map.mp mem
    refine ⟨name, ?_⟩
    rw [SourcedAnnotations.at, BySourceSet.get?_eq_some_iff.mpr memEntry]
    exact some
  · rintro ⟨name, some⟩
    cases found : annotations.get? name with
    | none =>
      rw [SourcedAnnotations.at, found] at some
      cases some
    | some list =>
      rw [SourcedAnnotations.at, found] at some
      have memEntry := BySourceSet.get?_eq_some_iff.mp found
      exact ⟨list, List.mem_map.mpr ⟨_, memEntry, rfl⟩, some⟩

/-! ## Declarations -/

namespace Declaration

/-- The type of a property, or the return type of a function. -/
def declaredType (declaration : Declaration) : TypeUse :=
  match declaration.detail with
  | .function detail => detail.returnType
  | .property detail => detail.type

/-- The annotations that an annotation of the declaration meets in a source set: the others of
the declaration, and those at the core of its type. -/
def neighbors (declaration : Declaration) (sourceSet : String) : List Annotation :=
  declaration.annotations.at sourceSet ++ declaration.declaredType.core.annotationsAt sourceSet

end Declaration

/-- An unseen annotation that is not taken for another one of `neighbors`, under the name that
this one has in displays. -/
structure Annotation.Inert (context : Context) (neighbors : List Annotation)
    (a : Annotation) : Prop where
  /-- it is never displayed -/
  unseen : context.isUnseen a = true
  /-- it has an identifier of its own -/
  apart : ∀ b ∈ neighbors, a.identifier ≠ b.publicForm.identifier

section

variable {context : Context} {declaration : Declaration} {annotations : SourcedAnnotations}
  (inserted : ∀ name, Inserted (Inert context (declaration.neighbors name))
    (declaration.annotations.at name) (annotations.at name))

include inserted

/-- The declared type is shown as it is without the inserted annotations. -/
theorem declaredTypeOf_inserted (s : SourceSet) (isReturn : Bool) :
    declaredTypeOf context { declaration with annotations } declaration.declaredType s isReturn =
      declaredTypeOf context declaration declaration.declaredType s isReturn := by
  have handed : Inserted (Inert context (declaration.neighbors s.name))
      (onType (declaration.annotations.at s.name))
      (onType (annotations.at s.name)) := (inserted s.name).filter _
  have implied := TypeUse.nullability_inserted handed
    (fun a inert => Context.isNullability_of_isUnseen inert.unseen) context.dialect
    (some declaration.fromJava) declaration.declaredType
  have type := typeOf_inserted
    (declaredRequest context declaration declaration.declaredType s isReturn) handed
    (fun a inert => inert.unseen) fun a inert b mem => inert.apart b ?_
  · rw [declaredTypeOf_eq, declaredTypeOf_eq, ← type]
    simp only [declaredRequest, implied]
  · rcases List.mem_append.mp mem with mem | mem
    · exact List.mem_append_left _ (List.mem_filter.mp mem).1
    · exact List.mem_append_right _ mem

/-- The declaration itself displays what it displays without the inserted annotations. -/
theorem declarationAnnotations_inserted (s : SourceSet) :
    declarationAnnotations context { declaration with annotations } s =
      declarationAnnotations context declaration s := by
  have remaining : Inserted (Inert context (declaration.neighbors s.name))
      (onDeclaration (declaration.annotations.at s.name))
      (onDeclaration (annotations.at s.name)) := (inserted s.name).filter _
  refine context.shownAnnotations_inserted remaining (fun a inert => inert.unseen)
    (fun a inert b mem => inert.apart b ?_) .unimportant
  exact List.mem_append_left _ (List.mem_filter.mp mem).1

/-- The declaration is deprecated if it is without the inserted annotations. -/
theorem isDeprecated_inserted :
    { declaration with annotations }.isDeprecated = declaration.isDeprecated := by
  have same : ∀ name, (annotations.at name).any isDeprecation =
      (declaration.annotations.at name).any isDeprecation := fun name =>
    (inserted name).any_eq fun a inert => Context.isDeprecation_of_isUnseen inert.unseen
  rw [Bool.eq_iff_iff, Declaration.isDeprecated, Declaration.isDeprecated,
    SourcedAnnotations.any_values_iff, SourcedAnnotations.any_values_iff]
  exact exists_congr fun name => by rw [same]

/-- **Signatures are what they are without unseen annotations.** -/
theorem signatureOf_inserted (inSummary : Bool) (s : SourceSet) :
    signatureOf context { declaration with annotations } inSummary s =
      signatureOf context declaration inSummary s := by
  have type := fun isReturn => declaredTypeOf_inserted inserted s isReturn
  have own := declarationAnnotations_inserted inserted s
  have deprecated := isDeprecated_inserted inserted
  clear inserted
  obtain ⟨_, _, _, _, _, _, _, _, _, _, detail⟩ := declaration
  cases detail with
  | function detail =>
    refine congrArg (Functor.map Signature.function) ?_
    unfold renderFunction
    refine bind_congr fun modifiers => ?_
    refine (congrArg (· >>= _) (type true)).trans ?_
    refine bind_congr fun returnType => ?_
    refine bind_congr fun typeParameters => ?_
    refine bind_congr fun parameters => ?_
    refine bind_congr fun receivers => ?_
    rw [own, deprecated]
    rfl
  | property detail =>
    refine congrArg (Functor.map Signature.property) ?_
    unfold renderProperty
    refine bind_congr fun modifiers => ?_
    refine (congrArg (· >>= _) (type false)).trans ?_
    refine bind_congr fun type => ?_
    refine bind_congr fun receivers => ?_
    rw [own, deprecated]
    rfl

/-- **Variants, and failures, are what they are without unseen annotations.** -/
theorem variantsOf_inserted (inSummary : Bool) :
    variantsOf context { declaration with annotations } inSummary =
      variantsOf context declaration inSummary := by
  have signed : signedIn context { declaration with annotations } inSummary =
      signedIn context declaration inSummary := by
    funext s
    rw [signedIn, signedIn, signatureOf_inserted inserted]
  rw [variantsOf_eq, variantsOf_eq, signed]
  rfl

end

/-! ## Renderings -/

section

variable (context : Context) (declaration : Declaration) (inSummary : Bool)

/-- What a rendering of a declaration may yield: the variants of the declaration, or the failure
of one of its signatures, or the failure that there are none. -/
inductive Declaration.MayYield : Except RenderError Variants → Prop where
  /-- all signatures succeed -/
  | variants {variants : Variants}
    (found : variantsOf context declaration inSummary = .ok variants) : MayYield (.ok variants)
  /-- a signature fails -/
  | failed {s : SourceSet} {e : RenderError} (mem : s ∈ declaration.sourceSets)
    (fails : signatureOf context declaration inSummary s = .error e) : MayYield (.error e)
  /-- there are no source sets -/
  | empty (empty : declaration.sourceSets = []) :
    MayYield (.error (.noSourceSets declaration.identity))

/-- **A rendering yields what it may yield**, whatever the order of steps. -/
theorem Declaration.yields_mayYield :
    declaration.Yields context inSummary (declaration.MayYield context inSummary) := by
  refine ⟨fun session r outcome h yields => ?_, fun session r h stuck => h.exists_yields stuck,
    Session.exists_renders context declaration inSummary⟩
  cases outcome with
  | ok variants => exact .variants ((h.outcome yields variants).mp rfl)
  | error e =>
    obtain ⟨⟨requests, reached⟩, mem, rfl, rfl⟩ := h
    have sound := (reached.sound.of_mem mem).of_rendering
    generalize outcome : (Except.error e : Except RenderError Variants) = result at yields
    cases yields with
    | complete waiting working =>
      -- all signatures succeed, so there are none
      have signed := sound.signed waiting working
      have fails := (variantsOf_eq_of_groups signed sound.groups).trans outcome.symm
      rw [← outcome]
      by_cases empty : r.declaration.sourceSets = []
      · rw [variantsOf_of_sourceSets_eq_nil empty] at fails
        cases fails
        exact .empty empty
      · obtain ⟨variants, found⟩ := exists_variantsOf empty fun s mem => by
          obtain ⟨σ, memPair⟩ := (signed.covers s).mpr mem
          exact ⟨σ, signed.own s σ memPair⟩
        rw [fails] at found
        cases found
    | failed rest memWork =>
      cases outcome
      obtain ⟨-, fails, -⟩ := (sound.threads _ memWork).ended
      rw [Rendering.account_outcome] at fails
      exact .failed (sound.mem_of_working memWork) fails.symm

end

/-- **Annotations that are never displayed never influence a rendering.** Inserted anywhere
among the annotations of a declaration, in any of its source sets, they leave the signatures as
they are, and the variants with the primary one, or the failure of a declaration that is rendered
alone; and what a rendering among others may yield. No identifier must be that of an annotation
beside it, in the form in which this one is displayed. -/
theorem unseen_inert (context : Context) (declaration : Declaration)
    (annotations : SourcedAnnotations) (inSummary : Bool)
    (inserted : ∀ name, Inserted (Inert context (declaration.neighbors name))
      (declaration.annotations.at name) (annotations.at name)) :
    (∀ s, signatureOf context { declaration with annotations } inSummary s =
      signatureOf context declaration inSummary s) ∧
    variantsOf context { declaration with annotations } inSummary =
      variantsOf context declaration inSummary ∧
    (declaration.Yields context inSummary (declaration.MayYield context inSummary) ∧
      { declaration with annotations }.Yields context inSummary
        (declaration.MayYield context inSummary)) := by
  have signatures := signatureOf_inserted inserted inSummary
  have variants := variantsOf_inserted inserted inSummary
  refine ⟨signatures, variants, declaration.yields_mayYield context inSummary, ?_⟩
  obtain ⟨only, returns, ends⟩ :=
    { declaration with annotations }.yields_mayYield context inSummary
  refine ⟨fun session r outcome h yields => ?_, returns, ends⟩
  cases only session r outcome h yields with
  | variants found => exact .variants (variants ▸ found)
  | failed mem fails => exact .failed mem (signatures _ ▸ fails)
  | empty empty => exact .empty empty

/-- What `clockNow` has, among annotations that are never displayed. -/
def busyAnnotations : SourcedAnnotations :=
  .insert
    (.insert ∅ "jvmMain"
      [.ofClass "com.example" "InternalRes", .ofClass "androidx.annotation" "NonNull",
        ⟨.ofClass "kotlin.jvm" "JvmName", [⟨"name", .string "now0"⟩]⟩])
    "jsMain" [.ofClass "kotlin" "Suppress"]

/-- With `busyAnnotations`, of which one belongs to the type and is excluded from displays,
`clockNow` has the variants that it has without. -/
theorem unseen_inert_clockNow :
    let context := Context.reference .java { excludedInJava := ["com.example.InternalRes"] }
    (∀ name, Inserted (Inert context (clockNow.neighbors name))
      (clockNow.annotations.at name) (busyAnnotations.at name)) ∧
    ∃ variants, variantsOf context clockNow false = .ok variants ∧
      variantsOf context { clockNow with annotations := busyAnnotations } false =
        .ok variants := by
  intro context
  have succeed : ∀ s ∈ clockNow.sourceSets, ∃ σ, signatureOf context clockNow false s = .ok σ := by
    have ok : ∀ s ∈ clockNow.sourceSets, (signatureOf context clockNow false s).isOk := by
      decide +kernel
    exact fun s mem => exists_of_isOk _ (ok s mem)
  have inserted : ∀ name, Inserted (Inert context (clockNow.neighbors name))
      (clockNow.annotations.at name) (busyAnnotations.at name) := by
    intro name
    by_cases jvm : name = "jvmMain"
    · subst jvm
      exact .insert ⟨by decide +kernel, by decide +kernel⟩
        (.keep _ (.insert ⟨by decide +kernel, by decide +kernel⟩ .nil))
    by_cases js : name = "jsMain"
    · subst js
      exact .insert ⟨by decide +kernel, by decide +kernel⟩ .nil
    · have own : clockNow.annotations.entries.map Prod.fst = ["jvmMain"] := by decide
      have busy : busyAnnotations.entries.map Prod.fst = ["jvmMain", "jsMain"] := by decide
      rw [SourcedAnnotations.at_eq_nil (by simp [own, jvm]),
        SourcedAnnotations.at_eq_nil (by simp [busy, jvm, js])]
      exact .nil
  have nonempty : clockNow.sourceSets ≠ [] := by decide
  obtain ⟨variants, found⟩ := exists_variantsOf nonempty succeed
  obtain ⟨-, same, -⟩ := unseen_inert context clockNow busyAnnotations false inserted
  exact ⟨inserted, variants, found, same.trans found⟩

/-- A function with a platform annotation that has an argument. -/
def platformClock : Declaration :=
  { clockNow with
    sourceSets := [⟨.jvm, "jvmMain"⟩]
    annotations := .insert ∅ "jvmMain"
      [⟨.ofClass "android.annotation" "NonNull", [⟨"since", .literal "Int(v=1"⟩]⟩] }

/-- What `platformClock` has, behind an annotation that has the identifier of the public form. -/
def displacingAnnotations : SourcedAnnotations :=
  .insert ∅ "jvmMain"
    [⟨.ofClass "androidx.annotation" "NonNull(since=Int", [⟨"v", .literal "1"⟩]⟩,
      ⟨.ofClass "android.annotation" "NonNull", [⟨"since", .literal "Int(v=1"⟩]⟩]

/-- **Other identifiers are not enough.** Duplicates are found among public forms: an annotation
that is excluded from displays takes the place of a platform annotation, and neither is
displayed. -/
theorem unseen_displaces :
    let context := Context.reference .java { excluded := ["androidx.annotation.NonNull(since=Int"] }
    let list := platformClock.annotations.at "jvmMain"
    Inserted (fun a => context.isUnseen a = true ∧ ∀ b ∈ list, a.identifier ≠ b.identifier) list
        (displacingAnnotations.at "jvmMain") ∧
      platformClock.declaredType.annotationsAt "jvmMain" = [] ∧
      (variantsOf context platformClock false).map Variants.text =
        .ok "@NonNull(since = Int(v=1) String now()" ∧
      (variantsOf context { platformClock with annotations := displacingAnnotations } false).map
        Variants.text = .ok "String now()" := by
  intro context list
  refine ⟨.insert ⟨by decide +kernel, by decide +kernel⟩ (.keep _ .nil), rfl, ?_, ?_⟩
  · decide +kernel
  · decide +kernel

end Diglot
