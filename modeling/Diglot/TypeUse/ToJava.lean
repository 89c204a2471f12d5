import Diglot.Identity.Mapped
import Diglot.Outcome
import Diglot.RenderError
import Diglot.TypeUse.Size

/-!
# Type uses as Java writes them

`TypeUse.toJava` replaces Kotlin types by what Java has for them. A Kotlin primitive is
a Java primitive where Java allows one and its box elsewhere; `Unit` is `void` where it
is returned; arrays become names with brackets. The result has no more nodes than the
type that it is made from.
-/

namespace Diglot

/-- Where in a Java signature a type stands. -/
structure JavaPosition where
  /-- it is the type that a function returns -/
  isReturn : Bool := false
  /-- it cannot be a primitive -/
  mustBox : Bool := false
  /-- elements of arrays are named with their packages -/
  qualified : Bool := false
deriving DecidableEq

/-- The position of a type argument or of the inside of a wrapper: never returned, and
never a primitive. -/
def JavaPosition.boxed (position : JavaPosition) : JavaPosition :=
  { isReturn := false, mustBox := true, qualified := position.qualified }

namespace TypeUse

/-- Whether this is the Kotlin type `Unit`. -/
def isUnit : TypeUse → Bool
  | classRef head _ => head.identity.isClass "kotlin" "Unit"
  | _ => false

mutual

/-- Name of a type as the element of a Java array. Wrappers do not show; a function type
lists its arguments. -/
def javaElementName (qualified : Bool) : TypeUse → Except RenderError String
  | parameter head => pure head.name
  | classRef head arguments =>
    let name := if qualified then head.identity.fullName else head.identity.className
    match head.form with
    | .generic => pure name
    | .functional .. => do
      let names ← javaElementNames qualified arguments
      pure (name ++ "(" ++ Text.joined ", " names ++ ")")
  | nullable inner => inner.javaElementName qualified
  | nonNull inner => inner.javaElementName qualified
  | aliased _ inner => inner.javaElementName qualified
  | projected _ inner => inner.javaElementName qualified
  | unresolved name => pure name
  | primitive name => pure name
  | void => pure "void"
  | star => pure "*"
  | javaObject _ => pure (if qualified then "java.lang.Object" else "Object")
  | dynamic => throw .dynamicArrayElement

/-- Names of the arguments of a function type that is an element of an array. -/
def javaElementNames (qualified : Bool) : List TypeUse → Except RenderError (List String)
  | [] => pure []
  | first :: rest => do
    let name ← first.javaElementName qualified
    let names ← javaElementNames qualified rest
    pure (name :: names)

end

/-- An array with the given type arguments. Its element names it; without exactly one
argument it is an array of objects. -/
def arrayToJava (qualified : Bool) : List TypeUse → Except RenderError TypeUse
  | [element] => do
    let name ← element.javaElementName qualified
    pure (primitive (name ++ "[]"))
  | _ => pure (primitive "java.lang.Object[]")

/-- A class reference under the Java name of the class. -/
def renamedToJava (head : ClassHead) (arguments : List TypeUse) : TypeUse :=
  classRef { head with identity := head.identity.toJava } arguments

/-- A class reference as Java writes it: `arguments` as written, `rewritten` as Java
writes them. -/
def classToJava (position : JavaPosition) (head : ClassHead) (arguments rewritten : List TypeUse) :
    Except RenderError TypeUse :=
  if head.identity.package = "kotlin" then
    if position.isReturn && head.identity.className = "Unit" then pure void
    else
      match Primitive.ofKotlinName? head.identity.className,
          Primitive.ofArrayName? head.identity.className with
      | some p, _ =>
        if position.mustBox then
          pure (classRef { head with identity := .ofClass "java.lang" p.boxName } arguments)
        else pure (primitive p.javaName)
      | none, some p => pure (primitive (p.javaName ++ "[]"))
      | none, none =>
        if head.identity.className = "Array" then arrayToJava position.qualified rewritten
        else pure (renamedToJava head rewritten)
  else pure (renamedToJava head rewritten)

mutual

/-- The type as Java writes it in a position. -/
def toJava (position : JavaPosition) : TypeUse → Except RenderError TypeUse
  | classRef head arguments => do
    let rewritten ← toJavaList position.boxed arguments
    classToJava position head arguments rewritten
  | nullable inner =>
    if inner.isUnit then pure void
    else do
      match ← inner.toJava position.boxed with
      | void => pure void
      | form => pure (nullable form)
  | projected variance inner => do
    let form ← inner.toJava position.boxed
    pure (projected variance form)
  | nonNull inner => do
    let form ← inner.toJava position.boxed
    pure (nonNull form)
  | aliased named inner => do
    let form ← inner.toJava position
    pure (aliased named form)
  | other => pure other

/-- The types of a list as Java writes them in a position. -/
def toJavaList (position : JavaPosition) : List TypeUse → Except RenderError (List TypeUse)
  | [] => pure []
  | first :: rest => do
    let form ← first.toJava position
    let forms ← toJavaList position rest
    pure (form :: forms)

end

/-! ## Size -/

/-- An array is named by a single node. -/
theorem nodes_arrayToJava {qualified : Bool} {elements : List TypeUse} {form : TypeUse}
    (h : arrayToJava qualified elements = .ok form) : form.nodes = 1 := by
  unfold arrayToJava at h
  split at h
  · obtain ⟨name, -, h⟩ := bind_eq_ok.mp h
    cases h
    simp [nodes]
  · cases h
    simp [nodes]

/-- A rewritten class reference is no larger than the reference with its arguments as
written, if the rewritten arguments are no larger than those. -/
theorem nodes_classToJava_le {position : JavaPosition} {head : ClassHead}
    {arguments rewritten : List TypeUse} {form : TypeUse}
    (h : classToJava position head arguments rewritten = .ok form)
    (le : nodesList rewritten ≤ nodesList arguments) :
    form.nodes ≤ nodesList arguments + 1 := by
  unfold classToJava at h
  repeat' split at h
  all_goals first
    | (cases h; simp only [nodes, renamedToJava]; omega)
    | (rw [nodes_arrayToJava h]; omega)

mutual

/-- Java forms are no larger than the types that they are made from. -/
theorem nodes_toJava_le : ∀ (type : TypeUse) {position : JavaPosition} {form : TypeUse},
    type.toJava position = .ok form → form.nodes ≤ type.nodes
  | classRef head arguments, position, form, h => by
    rw [toJava] at h
    obtain ⟨rewritten, rest, h⟩ := bind_eq_ok.mp h
    exact nodes_classToJava_le h (nodesList_toJavaList_le arguments rest)
  | nullable inner, position, form, h => by
    rw [toJava] at h
    split at h
    · cases h
      exact nodes_pos _
    · obtain ⟨inside, rest, h⟩ := bind_eq_ok.mp h
      have le := nodes_toJava_le inner rest
      split at h <;> cases h <;> simp only [nodes] <;> omega
  | projected variance inner, position, form, h => by
    rw [toJava] at h
    obtain ⟨inside, rest, h⟩ := bind_eq_ok.mp h
    cases h
    simpa [nodes] using nodes_toJava_le inner rest
  | nonNull inner, position, form, h => by
    rw [toJava] at h
    obtain ⟨inside, rest, h⟩ := bind_eq_ok.mp h
    cases h
    simpa [nodes] using nodes_toJava_le inner rest
  | aliased named inner, position, form, h => by
    rw [toJava] at h
    obtain ⟨inside, rest, h⟩ := bind_eq_ok.mp h
    cases h
    simpa [nodes] using nodes_toJava_le inner rest
  | parameter _, _, _, h | primitive _, _, _, h | javaObject _, _, _, h | void, _, _, h
  | star, _, _, h | dynamic, _, _, h | unresolved _, _, _, h => by
    cases h
    exact Nat.le_refl _

/-- Lists of Java forms are no larger than the lists that they are made from. -/
theorem nodesList_toJavaList_le :
    ∀ (types : List TypeUse) {position : JavaPosition} {forms : List TypeUse},
    toJavaList position types = .ok forms → nodesList forms ≤ nodesList types
  | [], _, _, h => by
    cases h
    exact Nat.le_refl _
  | first :: rest, position, forms, h => by
    rw [toJavaList] at h
    obtain ⟨form, one, h⟩ := bind_eq_ok.mp h
    obtain ⟨others, more, h⟩ := bind_eq_ok.mp h
    cases h
    have le₁ := nodes_toJava_le first one
    have le₂ := nodesList_toJavaList_le rest more
    simp only [nodesList]
    omega

end

end TypeUse

end Diglot
