import Diglot.Proofs.JavaForms

/-!
# Names of arrays in Java

Java names an array by its element and a pair of brackets for each dimension. An inner array has
become a name by the time the outer one is named, and what is wrapped around it makes no
difference: wrappers do not show in the name of an element (`boxedName_of_inWrappers`).

* `TypeUse.ArrayOf` — arrays of arrays, with wrappers in between.
* `toJava_of_isArray` — one dimension is one pair of brackets.
* `brackets_per_dimension` — so it is for all dimensions.

`Unit` is the one element that a wrapper changes: what may be null is `void` then.
-/

namespace Diglot

namespace TypeUse

/-- A type stands in any number of wrappers. -/
inductive InWrappers (type : TypeUse) : TypeUse → Prop where
  /-- in none -/
  | self : InWrappers type type
  /-- in one more -/
  | wrapped {outer inner : TypeUse} (inside : outer.inside? = some inner)
    (stands : InWrappers type inner) : InWrappers type outer

/-- A type is an array with the given number of dimensions. The element may stand in wrappers, and
so may every array but the outermost. -/
inductive ArrayOf (element : TypeUse) : Nat → TypeUse → Prop where
  /-- an array of elements -/
  | one {head : ClassHead} {inner : TypeUse}
    (array : head.identity.isClass "kotlin" "Array" = true)
    (stands : element.InWrappers inner) : ArrayOf element 1 (classRef head [inner])
  /-- an array of arrays -/
  | more {dimensions : Nat} {head : ClassHead} {row inner : TypeUse}
    (rows : ArrayOf element dimensions row)
    (array : head.identity.isClass "kotlin" "Array" = true)
    (stands : row.InWrappers inner) : ArrayOf element (dimensions + 1) (classRef head [inner])

/-- A pair of brackets for each dimension. -/
def brackets : Nat → String
  | 0 => ""
  | dimensions + 1 => brackets dimensions ++ "[]"

/-- The name that Java has for a type as the element of an array. -/
def boxedName (position : JavaPosition) (type : TypeUse) : Except RenderError String := do
  let form ← type.toJava position.boxed
  form.javaElementName position.qualified

variable {element type : TypeUse} {dimensions : Nat}

/-! ## Wrappers -/

/-- Only `Unit` itself is `Unit`. -/
theorem isUnit_of_inside? {outer inner : TypeUse} (inside : outer.inside? = some inner) :
    outer.isUnit = false := by
  cases outer <;> first | rfl | cases inside

/-- A wrapper does not show in the name of an element, unless it stands around `Unit`. -/
theorem boxedName_of_inside? (position : JavaPosition) {outer inner : TypeUse}
    (inside : outer.inside? = some inner) (noUnit : inner.isUnit = false) :
    outer.boxedName position = inner.boxedName position := by
  have boxed : position.boxed.boxed = position.boxed := rfl
  cases outer with
  | nullable =>
    cases inside
    rw [boxedName, toJava_nullable noUnit, boxedName, boxed]
    cases inner.toJava position.boxed with
    | error e => rfl
    | ok form => exact javaElementName_nullable form position.qualified
  | nonNull | projected | aliased =>
    cases inside
    rw [boxedName, toJava, bind_assoc]
    rfl
  | classRef | parameter | primitive | javaObject | void | star | dynamic | unresolved =>
    cases inside

/-- **Any number of wrappers** leaves the name of an element as it is, unless they stand around
`Unit`. -/
theorem boxedName_of_inWrappers (position : JavaPosition) {outer inner : TypeUse}
    (stands : inner.InWrappers outer) (noUnit : inner.isUnit = false) :
    outer.boxedName position = inner.boxedName position ∧ outer.isUnit = false := by
  induction stands with
  | self => exact ⟨rfl, noUnit⟩
  | wrapped inside _ ih =>
    obtain ⟨named, noUnit⟩ := ih
    exact ⟨(boxedName_of_inside? position inside noUnit).trans named, isUnit_of_inside? inside⟩

/-! ## Dimensions -/

/-- **One dimension**: an array is the name of its element with a pair of brackets. -/
theorem toJava_of_isArray (position : JavaPosition) {head : ClassHead}
    (array : head.identity.isClass "kotlin" "Array" = true) (inner : TypeUse) :
    (classRef head [inner]).toJava position =
      (fun name => primitive (name ++ "[]")) <$> inner.boxedName position := by
  simp only [toJava, toJavaList, classToJava_of_isArray array, arrayToJava, boxedName, bind_assoc,
    pure_bind, map_eq_pure_bind]

/-- As an element, an array has the name of its own element with a pair of brackets. -/
theorem boxedName_of_isArray (position : JavaPosition) {head : ClassHead}
    (array : head.identity.isClass "kotlin" "Array" = true) (inner : TypeUse) :
    (classRef head [inner]).boxedName position =
      (fun name => name ++ "[]") <$> inner.boxedName position := by
  rw [boxedName, toJava_of_isArray position.boxed array, bind_map_left, map_eq_pure_bind]
  rfl

/-- An array is not `Unit`. -/
theorem ArrayOf.isUnit (array : ArrayOf element dimensions type) : type.isUnit = false := by
  cases array with
  | one array | more _ array =>
    simp only [Identity.isClass, Bool.and_eq_true, decide_eq_true_eq] at array
    simp [TypeUse.isUnit, Identity.isClass, array]

/-- **All dimensions**: as an element, an array of arrays has the name of its element with a pair
of brackets for each dimension. -/
theorem ArrayOf.boxedName_eq (position : JavaPosition) (array : ArrayOf element dimensions type)
    (noUnit : element.isUnit = false) :
    type.boxedName position =
      (fun name => name ++ brackets dimensions) <$> element.boxedName position := by
  induction array with
  | one array stands =>
    rw [boxedName_of_isArray position array, (boxedName_of_inWrappers position stands noUnit).1]
    rfl
  | more rows array stands ih =>
    rw [boxedName_of_isArray position array,
      (boxedName_of_inWrappers position stands rows.isUnit).1, ih, Functor.map_map]
    simp only [brackets, String.append_assoc]

/-- **The Java form of an array of arrays** is the name of its element with a pair of brackets for
each dimension, wherever the outermost array stands. -/
theorem ArrayOf.toJava_eq (position : JavaPosition) (array : ArrayOf element dimensions type)
    (noUnit : element.isUnit = false) :
    type.toJava position =
      (fun name => primitive (name ++ brackets dimensions)) <$> element.boxedName position := by
  have named := array.boxedName_eq position noUnit
  have written : type.toJava position = primitive <$> type.boxedName position := by
    cases array with
    | one array | more _ array =>
      rw [toJava_of_isArray position array, boxedName_of_isArray position array, Functor.map_map]
  rw [written, named, Functor.map_map]

end TypeUse

/-- **A pair of brackets for each dimension**, whatever is wrapped in between. If the element has a
Java form that can be named, this is what precedes the brackets; if it has no form, or its form
has no name, then the array has no form for the same reason. -/
theorem brackets_per_dimension {element type : TypeUse} {dimensions : Nat}
    (noUnit : element.isUnit = false) (array : TypeUse.ArrayOf element dimensions type)
    (position : JavaPosition) :
    (∀ form name, element.toJava position.boxed = .ok form →
      form.javaElementName position.qualified = .ok name →
        type.toJava position = .ok (.primitive (name ++ TypeUse.brackets dimensions))) ∧
    (∀ e, element.toJava position.boxed = .error e → type.toJava position = .error e) ∧
    ∀ form e, element.toJava position.boxed = .ok form →
      form.javaElementName position.qualified = .error e → type.toJava position = .error e := by
  have written := array.toJava_eq position noUnit
  rw [TypeUse.boxedName] at written
  refine ⟨fun form name found named => ?_, fun e fails => ?_, fun form e found fails => ?_⟩
  · rw [written, found]
    exact congrArg (Except.map _) named
  · rw [written, fails]
    rfl
  · rw [written, found]
    exact congrArg (Except.map _) fails

/-- An array of arrays of something that may be null, under variance and behind an alias. -/
def rowsOf (element : TypeUse) : TypeUse :=
  .classRef { identity := .ofClass "kotlin" "Array" }
    [.nullable <| .projected .covariant <| .classRef { identity := .ofClass "kotlin" "Array" }
      [.aliased (.classRef { identity := .ofClass "com.example" "Cell" } []) <| .nullable element]]

/-- Two dimensions of integers are `java.lang.Integer[][]` where packages are named. Of dynamic
values there is no array, nor of pairs of such arrays. -/
theorem brackets_per_dimension_rowsOf :
    let int : TypeUse := .classRef { identity := .ofClass "kotlin" "Int" } []
    let pair : TypeUse := .classRef { identity := .ofClass "kotlin" "Pair" }
      [.classRef { identity := .ofClass "kotlin" "Array" } [.dynamic]]
    (∀ element, TypeUse.ArrayOf element 2 (rowsOf element)) ∧
      int.isUnit = false ∧ pair.isUnit = false ∧
      (rowsOf int).toJava ⟨true, false, true⟩ = .ok (.primitive "java.lang.Integer[][]") ∧
      (rowsOf .dynamic).toJava ⟨true, false, true⟩ = .error .dynamicArrayElement ∧
      (rowsOf pair).toJava ⟨true, false, true⟩ = .error .dynamicArrayElement := by
  intro int pair
  have array : ∀ element, TypeUse.ArrayOf element 2 (rowsOf element) := fun element =>
    .more (.one rfl (.wrapped rfl (.wrapped rfl .self))) rfl (.wrapped rfl (.wrapped rfl .self))
  obtain ⟨named, -, -⟩ := brackets_per_dimension rfl (array int) ⟨true, false, true⟩
  obtain ⟨-, -, unnamed⟩ := brackets_per_dimension rfl (array .dynamic) ⟨true, false, true⟩
  obtain ⟨-, fails, -⟩ := brackets_per_dimension rfl (array pair) ⟨true, false, true⟩
  refine ⟨array, rfl, rfl, ?_, unnamed .dynamic _ rfl rfl, fails _ rfl⟩
  exact named (.classRef { identity := .ofClass "java.lang" "Integer" } []) "java.lang.Integer"
    rfl (by decide)

-- `Unit` is named in one way, and in another one if it may be null
example :
    let unit := TypeUse.classRef { identity := .ofClass "kotlin" "Unit" } []
    let arrayOf (element : TypeUse) :=
      TypeUse.classRef { identity := .ofClass "kotlin" "Array" } [element]
    (arrayOf unit).toJava {} = .ok (.primitive "Unit[]") ∧
      (arrayOf (.nullable unit)).toJava {} = .ok (.primitive "void[]") := by
  decide +kernel

end Diglot
