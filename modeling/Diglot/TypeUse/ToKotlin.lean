import Diglot.Identity.Mapped
import Diglot.TypeUse.Size

/-!
# Type uses as Kotlin writes them

`TypeUse.toKotlin` gives the classes of the Java standard library their Kotlin names,
turns an array of a Java primitive into the Kotlin class of such arrays, and drops
variance. It works through class arguments and stops at every other wrapper. The result
has no more nodes than the type that it is made from.
-/

namespace Diglot.TypeUse

/-- The Kotlin class of an array whose only argument is a Java primitive. -/
def primitiveArray? (head : ClassHead) : List TypeUse → Option Primitive
  | [primitive name] =>
    if head.identity.isClass "kotlin" "Array" then Primitive.ofJavaName? name else none
  | _ => none

/-- An array of primitives under its Kotlin class. -/
def arrayToKotlin (head : ClassHead) (element : Primitive) : TypeUse :=
  classRef { head with identity := .ofClass "kotlin" element.arrayName } []

/-- A class reference under the Kotlin name of the class. -/
def renamedToKotlin (head : ClassHead) (arguments : List TypeUse) : TypeUse :=
  classRef { head with identity := head.identity.toKotlin } arguments

mutual

/-- The type as Kotlin writes it. -/
def toKotlin : TypeUse → TypeUse
  | classRef head arguments =>
    match primitiveArray? head arguments with
    | some element => arrayToKotlin head element
    | none => renamedToKotlin head (toKotlinList arguments)
  | projected _ inner => inner.toKotlin
  | other => other

/-- The types of a list as Kotlin writes them. -/
def toKotlinList : List TypeUse → List TypeUse
  | [] => []
  | first :: rest => first.toKotlin :: toKotlinList rest

end

/-! ## Size -/

mutual

/-- Kotlin forms are no larger than the types that they are made from. -/
theorem nodes_toKotlin_le : ∀ type : TypeUse, type.toKotlin.nodes ≤ type.nodes
  | classRef head arguments => by
    have le := nodesList_toKotlinList_le arguments
    rw [toKotlin]
    split
    · simp [arrayToKotlin, nodes, nodesList]
    · simp only [renamedToKotlin, nodes]
      omega
  | projected variance inner => by
    have le := nodes_toKotlin_le inner
    simp only [toKotlin, nodes]
    omega
  | nullable _ | nonNull _ | aliased .. | parameter _ | primitive _ | javaObject _ | void
  | star | dynamic | unresolved _ => by
    simp [toKotlin]

/-- Lists of Kotlin forms are no larger than the lists that they are made from. -/
theorem nodesList_toKotlinList_le :
    ∀ types : List TypeUse, nodesList (toKotlinList types) ≤ nodesList types
  | [] => Nat.le_refl _
  | first :: rest => by
    have le₁ := nodes_toKotlin_le first
    have le₂ := nodesList_toKotlinList_le rest
    simp only [toKotlinList, nodesList]
    omega

end

end Diglot.TypeUse
