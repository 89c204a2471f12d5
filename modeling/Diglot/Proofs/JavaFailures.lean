import Diglot.Proofs.DynamicTypes
import Diglot.Proofs.JavaAliases

/-!
# Which types have no Java form

The position of a type decides between `void`, a primitive, a box and a class, and how arrays are
named. It does not decide whether there is a Java form: type arguments are rewritten for a boxed
position in any case, and no name fails in one spelling only.

* `alike_toJava_boxed` — a type fails in a position as it does in the boxed one.
* `alike_toJava_qualified` — in boxed positions the spelling of names does not matter: two forms
  can be named as elements of arrays, or neither can (`NamedOrNot`).
* `exists_dynamicArray_of_toJava` — only arrays with the dynamic type in their element fail.
* `fails_by_type` — what this says of the types without a Java form.
-/

namespace Diglot

namespace Alike

variable {α : Type} {R : α → α → Prop} {first second : Except RenderError α}

/-- An outcome is like itself. -/
theorem refl (related : ∀ a, R a a) (outcome : Except RenderError α) : Alike R outcome outcome := by
  cases outcome with
  | error e => exact .fails e
  | ok a => exact .succeeds (related a)

/-- Outcomes that are alike fail in the same way. -/
theorem eq_error_iff (alike : Alike R first second) {e : RenderError} :
    first = .error e ↔ second = .error e := by
  cases alike with
  | fails => exact Iff.rfl
  | succeeds => exact iff_of_false nofun nofun

end Alike

namespace TypeUse

/-! ## Positions that are not boxed -/

/-- A class fails in a position as it does in the boxed one. -/
theorem alike_classToJava_boxed (position : JavaPosition) (head : ClassHead)
    (arguments rewritten : List TypeUse) :
    Alike (fun _ _ => True) (classToJava position head arguments rewritten)
      (classToJava position.boxed head arguments rewritten) := by
  cases array : head.identity.isClass "kotlin" "Array" with
  | true =>
    rw [classToJava_of_isArray array, classToJava_of_isArray array]
    exact .refl (fun _ => trivial) (arrayToJava position.qualified rewritten)
  | false =>
    obtain ⟨form, written⟩ :=
      exists_classToJava_of_not_isArray position arguments rewritten array
    obtain ⟨form', written'⟩ :=
      exists_classToJava_of_not_isArray position.boxed arguments rewritten array
    rw [written, written']
    exact .succeeds trivial

/-- **A type fails in a position as it does in the boxed one**, where nothing is returned and
nothing is a primitive. -/
theorem alike_toJava_boxed : ∀ (type : TypeUse) (position : JavaPosition),
    Alike (fun _ _ => True) (type.toJava position) (type.toJava position.boxed)
  | classRef head arguments, position => by
    have rest : Alike Eq (toJavaList position.boxed arguments)
        (toJavaList position.boxed.boxed arguments) := .refl (fun _ => rfl) _
    rw [toJava, toJava]
    refine rest.bind fun rewritten rewritten' same => ?_
    subst same
    exact alike_classToJava_boxed position head arguments rewritten
  | aliased named inner, position => by
    rw [toJava, toJava]
    exact (alike_toJava_boxed inner position).bind fun _ _ _ => .succeeds trivial
  -- what is inside of any other wrapper is in a boxed position already
  | nullable _, position | projected .., position | nonNull _, position => by
    rw [toJava, toJava]
    exact .refl (fun _ => trivial) _
  | parameter _, _ | primitive _, _ | javaObject _, _ | void, _ | star, _ | dynamic, _
  | unresolved _, _ => .succeeds trivial

/-! ## Spellings of names -/

/-- Whether two forms both have a name as elements of arrays, in whatever spelling, or neither
has. -/
def NamedOrNot (form form' : TypeUse) : Prop :=
  ∀ qualified qualified', Alike (fun _ _ => True) (form.javaElementName qualified)
    (form'.javaElementName qualified')

/-- Two lists of forms have names as elements, in whatever spelling, or neither has, if this holds
of their members. -/
theorem alike_javaElementNames {forms forms' : List TypeUse}
    (named : List.Forall₂ NamedOrNot forms forms') (qualified qualified' : Bool) :
    Alike (fun _ _ => True) (javaElementNames qualified forms)
      (javaElementNames qualified' forms') := by
  induction named with
  | nil => exact .succeeds trivial
  | cons first _ ih =>
    rw [javaElementNames, javaElementNames]
    refine (first qualified qualified').bind fun _ _ _ => ?_
    exact ih.bind fun _ _ _ => .succeeds trivial

/-- References to one class are named, or not, as their arguments are. -/
theorem namedOrNot_classRef (head : ClassHead) {arguments arguments' : List TypeUse}
    (named : List.Forall₂ NamedOrNot arguments arguments') :
    NamedOrNot (classRef head arguments) (classRef head arguments') := by
  intro qualified qualified'
  rw [javaElementName, javaElementName]
  cases head.form with
  | generic => exact .succeeds trivial
  | functional =>
    exact (alike_javaElementNames named qualified qualified').bind fun _ _ _ => .succeeds trivial

mutual

/-- **No name fails in one spelling only.** -/
theorem namedOrNot_self : ∀ type : TypeUse, NamedOrNot type type
  | classRef head arguments => namedOrNot_classRef head (namedOrNot_list arguments)
  | nullable inner => namedOrNot_self inner
  | nonNull inner => namedOrNot_self inner
  | projected _ inner => namedOrNot_self inner
  | aliased _ inner => namedOrNot_self inner
  | parameter _ | primitive _ | javaObject _ | void | star | unresolved _ =>
    fun _ _ => .succeeds trivial
  | dynamic => fun _ _ => .fails _

theorem namedOrNot_list : ∀ types : List TypeUse, List.Forall₂ NamedOrNot types types
  | [] => .nil
  | first :: rest => .cons (namedOrNot_self first) (namedOrNot_list rest)

end

/-- An array of one kind or the other is named, or not, as its element is. -/
theorem alike_arrayToJava {forms forms' : List TypeUse}
    (named : List.Forall₂ NamedOrNot forms forms') (qualified qualified' : Bool) :
    Alike NamedOrNot (arrayToJava qualified forms) (arrayToJava qualified' forms') := by
  cases named with
  | nil => exact .succeeds (namedOrNot_self _)
  | cons first rest =>
    cases rest with
    | nil =>
      rw [arrayToJava, arrayToJava]
      exact (first qualified qualified').bind fun _ _ _ =>
        .succeeds fun _ _ => .succeeds trivial
    | cons => exact .succeeds (namedOrNot_self _)

/-- **A class in two spellings** has forms that are named alike, if its arguments have. -/
theorem alike_classToJava_qualified (position position' : JavaPosition) (head : ClassHead)
    (arguments : List TypeUse) {rewritten rewritten' : List TypeUse}
    (named : List.Forall₂ NamedOrNot rewritten rewritten') :
    Alike NamedOrNot (classToJava position.boxed head arguments rewritten)
      (classToJava position'.boxed head arguments rewritten') := by
  have arrays := alike_arrayToJava named position.qualified position'.qualified
  have renamed : NamedOrNot (renamedToJava head rewritten) (renamedToJava head rewritten') :=
    namedOrNot_classRef _ named
  simp only [classToJava, JavaPosition.boxed, Bool.false_and, Bool.false_eq_true, if_false, if_true]
  split
  · split
    · exact .succeeds (namedOrNot_self _)
    · exact .succeeds (namedOrNot_self _)
    · split
      · exact arrays
      · exact .succeeds renamed
  · exact .succeeds renamed

mutual

/-- **In boxed positions the spelling of names does not matter**: a type fails in both spellings,
or it has forms that are named alike. -/
theorem alike_toJava_qualified : ∀ (type : TypeUse) (position position' : JavaPosition),
    Alike NamedOrNot (type.toJava position.boxed) (type.toJava position'.boxed)
  | classRef head arguments, position, position' => by
    rw [toJava, toJava]
    exact (alike_toJavaList_qualified arguments position position').bind fun _ _ named =>
      alike_classToJava_qualified position position' head arguments named
  | nullable inner, position, position' => by
    cases unit : inner.isUnit with
    | true =>
      rw [toJava, toJava, if_pos unit, if_pos unit]
      exact .succeeds (namedOrNot_self _)
    | false =>
      rw [toJava_nullable unit, toJava_nullable unit]
      refine (alike_toJava_qualified inner position position').map fun form form' named => ?_
      intro qualified qualified'
      rw [javaElementName_nullable, javaElementName_nullable]
      exact named qualified qualified'
  | projected _ inner, position, position' | nonNull inner, position, position'
  | aliased _ inner, position, position' => by
    rw [toJava, toJava]
    exact (alike_toJava_qualified inner position position').bind fun _ _ named => .succeeds named
  | parameter _, _, _ | primitive _, _, _ | javaObject _, _, _ | void, _, _ | star, _, _
  | dynamic, _, _ | unresolved _, _, _ => .succeeds (namedOrNot_self _)

/-- In boxed positions the spelling of names does not matter to lists of types. -/
theorem alike_toJavaList_qualified : ∀ (types : List TypeUse) (position position' : JavaPosition),
    Alike (List.Forall₂ NamedOrNot) (toJavaList position.boxed types)
      (toJavaList position'.boxed types)
  | [], _, _ => .succeeds .nil
  | first :: rest, position, position' => by
    rw [toJavaList, toJavaList]
    refine (alike_toJava_qualified first position position').bind fun form form' named => ?_
    refine (alike_toJavaList_qualified rest position position').bind fun forms forms' others => ?_
    exact .succeeds (.cons named others)

end

/-- **Positions do not decide whether a type fails**, nor how. -/
theorem toJava_eq_error_iff (type : TypeUse) (first second : JavaPosition) {e : RenderError} :
    type.toJava first = .error e ↔ type.toJava second = .error e :=
  calc type.toJava first = .error e
    _ ↔ type.toJava first.boxed = .error e := (alike_toJava_boxed type first).eq_error_iff
    _ ↔ type.toJava second.boxed = .error e :=
      (alike_toJava_qualified type first second).eq_error_iff
    _ ↔ type.toJava second = .error e := (alike_toJava_boxed type second).eq_error_iff.symm

/-! ## The only failure -/

mutual

/-- Only a dynamic type has no name. -/
theorem failsOnly_javaElementName (qualified : Bool) : ∀ type : TypeUse,
    FailsOnly (· = .dynamicArrayElement) (type.javaElementName qualified)
  | classRef head arguments => by
    rw [javaElementName]
    cases head.form with
    | generic => exact .ok _
    | functional => exact .bind (failsOnly_javaElementNames qualified arguments) fun _ _ => .ok _
  | nullable inner => failsOnly_javaElementName qualified inner
  | nonNull inner => failsOnly_javaElementName qualified inner
  | projected _ inner => failsOnly_javaElementName qualified inner
  | aliased _ inner => failsOnly_javaElementName qualified inner
  | parameter _ | primitive _ | javaObject _ | void | star | unresolved _ => .ok _
  | dynamic => by
    rintro e ⟨⟩
    rfl

theorem failsOnly_javaElementNames (qualified : Bool) : ∀ types : List TypeUse,
    FailsOnly (· = .dynamicArrayElement) (javaElementNames qualified types)
  | [] => .ok _
  | first :: rest => by
    rw [javaElementNames]
    refine .bind (failsOnly_javaElementName qualified first) fun _ _ => ?_
    exact .bind (failsOnly_javaElementNames qualified rest) fun _ _ => .ok _

end

/-- A class fails only as an array that cannot be named. -/
theorem failsOnly_classToJava (position : JavaPosition) (head : ClassHead)
    (arguments rewritten : List TypeUse) :
    FailsOnly (· = .dynamicArrayElement) (classToJava position head arguments rewritten) := by
  cases array : head.identity.isClass "kotlin" "Array" with
  | true =>
    rw [classToJava_of_isArray array]
    unfold arrayToJava
    split
    · exact .bind (failsOnly_javaElementName _ _) fun _ _ => .ok _
    · exact .ok _
  | false =>
    obtain ⟨form, written⟩ :=
      exists_classToJava_of_not_isArray position arguments rewritten array
    rw [written]
    exact .ok form

mutual

/-- **There is one way in which a type fails.** -/
theorem failsOnly_toJava : ∀ (type : TypeUse) (position : JavaPosition),
    FailsOnly (· = .dynamicArrayElement) (type.toJava position)
  | classRef head arguments, position => by
    rw [toJava]
    exact .bind (failsOnly_toJavaList arguments position.boxed) fun rewritten _ =>
      failsOnly_classToJava position head arguments rewritten
  | nullable inner, position => by
    rw [toJava]
    split
    · exact .ok _
    · refine .bind (failsOnly_toJava inner position.boxed) fun form _ => ?_
      split <;> exact .ok _
  | projected _ inner, position | nonNull inner, position => by
    rw [toJava]
    exact .bind (failsOnly_toJava inner position.boxed) fun _ _ => .ok _
  | aliased _ inner, position => by
    rw [toJava]
    exact .bind (failsOnly_toJava inner position) fun _ _ => .ok _
  | parameter _, _ | primitive _, _ | javaObject _, _ | void, _ | star, _ | dynamic, _
  | unresolved _, _ => .ok _

theorem failsOnly_toJavaList : ∀ (types : List TypeUse) (position : JavaPosition),
    FailsOnly (· = .dynamicArrayElement) (toJavaList position types)
  | [], _ => .ok _
  | first :: rest, position => by
    rw [toJavaList]
    refine .bind (failsOnly_toJava first position) fun _ _ => ?_
    exact .bind (failsOnly_toJavaList rest position) fun _ _ => .ok _

end

/-! ## Arrays with the dynamic type in their element -/

/-- **A type that fails** has an array in it with the dynamic type in the only type argument. -/
theorem exists_dynamicArray_of_toJava {type : TypeUse} {position : JavaPosition} {e : RenderError}
    (fails : type.toJava position = .error e) :
    ∃ head element, (classRef head [element]).OccursIn type ∧
      head.identity.isClass "kotlin" "Array" = true ∧ dynamic.OccursIn element := by
  cases static : type.everywhere (!·.isDynamicArray) with
  | true =>
    obtain ⟨form, written⟩ := exists_toJava type position static
    rw [written] at fails
    cases fails
  | false =>
    obtain ⟨part, occurs, found⟩ := (everywhere_eq_false_iff type).mp static
    rw [Bool.not_eq_false'] at found
    unfold isDynamicArray at found
    split at found
    · rename_i head element
      rw [Bool.and_eq_true] at found
      exact ⟨head, element, occurs, found.1, (hasDynamic_iff_occursIn element).mp found.2⟩
    · cases found

end TypeUse

/-- **Whether there is a Java form depends only on the type.**

* A type that has none in one position has none in any other.
* The only reason is an array with the dynamic type as its element.
* A type in which the dynamic type does not occur has a form in every position.
* In a type that has none there is an array with a single type argument in which the dynamic type
  occurs. -/
theorem fails_by_type (type : TypeUse) :
    ((∃ position e, type.toJava position = .error e) ↔
      ∀ position, ∃ e, type.toJava position = .error e) ∧
    (∀ position e, type.toJava position = .error e → e = .dynamicArrayElement) ∧
    (¬ TypeUse.dynamic.OccursIn type → ∀ position, ∃ form, type.toJava position = .ok form) ∧
    ∀ position e, type.toJava position = .error e →
      ∃ head element, (TypeUse.classRef head [element]).OccursIn type ∧
        head.identity.isClass "kotlin" "Array" = true ∧ TypeUse.dynamic.OccursIn element := by
  refine ⟨⟨?_, ?_⟩, ?_, ?_, ?_⟩
  · rintro ⟨first, e, fails⟩ second
    exact ⟨e, (type.toJava_eq_error_iff first second).mp fails⟩
  · intro fails
    exact ⟨{}, fails {}⟩
  · intro position e fails
    exact type.failsOnly_toJava position e fails
  · intro static position
    rw [← TypeUse.hasDynamic_iff_occursIn, Bool.not_eq_true] at static
    refine type.exists_toJava position (type.everywhere_not_isDynamicArray ?_)
    exact ((type.hasDynamic_eq_false_iff).mp static).2
  · intro position e fails
    exact TypeUse.exists_dynamicArray_of_toJava fails

/-- An array of functions of a dynamic value, by name. -/
def dynamicHandlers : TypeUse :=
  .classRef { identity := .ofClass "kotlin.collections" "Map" }
    [.classRef { identity := .ofClass "kotlin" "String" } [],
      .classRef { identity := .ofClass "kotlin" "Array" }
        [.nullable <| .classRef
          { identity := .ofClass "kotlin" "Function1", form := .functional false false }
          [.dynamic, .classRef { identity := .ofClass "kotlin" "Unit" } []]]]

/-- `dynamicHandlers` have no Java form, returned or not. -/
theorem fails_by_type_dynamicHandlers :
    (∀ position, ∃ e, dynamicHandlers.toJava position = .error e) ∧
      ∃ head element, (TypeUse.classRef head [element]).OccursIn dynamicHandlers ∧
        head.identity.isClass "kotlin" "Array" = true ∧ TypeUse.dynamic.OccursIn element := by
  have fails : dynamicHandlers.toJava {} = .error .dynamicArrayElement := by decide +kernel
  obtain ⟨all, -, -, array⟩ := fails_by_type dynamicHandlers
  exact ⟨all.mp ⟨{}, _, fails⟩, array {} _ fails⟩

-- the arguments of an ordinary class do not show in the name of an array
example :
    (TypeUse.classRef { identity := .ofClass "kotlin" "Array" }
      [.classRef { identity := .ofClass "kotlin.collections" "List" } [.dynamic]]).toJava {} =
        .ok (.primitive "List[]") := by
  decide +kernel

end Diglot
