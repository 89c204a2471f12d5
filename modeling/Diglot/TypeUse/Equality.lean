import Diglot.TypeUse.Basic

/-!
# Equality of type uses

Type uses are compared as trees, with the annotations at every node. `TypeUse.same`
runs the comparison, and it decides equality.
-/

namespace Diglot.TypeUse

mutual

/-- Whether two type uses are equal. -/
def same : TypeUse → TypeUse → Bool
  | classRef h as, classRef k bs => h = k && sameList as bs
  | parameter h, parameter k => h = k
  | primitive a, primitive b => a = b
  | javaObject a, javaObject b => a = b
  | void, void => true
  | star, star => true
  | dynamic, dynamic => true
  | unresolved a, unresolved b => a = b
  | nullable a, nullable b => a.same b
  | nonNull a, nonNull b => a.same b
  | projected v a, projected w b => v = w && a.same b
  | aliased x a, aliased y b => x.same y && a.same b
  | _, _ => false

/-- Whether two lists of type uses are equal. -/
def sameList : List TypeUse → List TypeUse → Bool
  | [], [] => true
  | a :: as, b :: bs => a.same b && sameList as bs
  | _, _ => false

end

mutual

/-- `TypeUse.same` decides equality. -/
theorem same_iff : ∀ a b : TypeUse, a.same b = true ↔ a = b
  | classRef h as, b => by cases b <;> simp [same, sameList_iff as]
  | parameter h, b => by cases b <;> simp [same]
  | primitive _, b => by cases b <;> simp [same]
  | javaObject _, b => by cases b <;> simp [same]
  | void, b => by cases b <;> simp [same]
  | star, b => by cases b <;> simp [same]
  | dynamic, b => by cases b <;> simp [same]
  | unresolved _, b => by cases b <;> simp [same]
  | nullable a, b => by cases b <;> simp [same, same_iff a]
  | nonNull a, b => by cases b <;> simp [same, same_iff a]
  | projected v a, b => by cases b <;> simp [same, same_iff a]
  | aliased x a, b => by cases b <;> simp [same, same_iff x, same_iff a]

/-- `TypeUse.sameList` decides equality. -/
theorem sameList_iff : ∀ as bs : List TypeUse, sameList as bs = true ↔ as = bs
  | [], bs => by cases bs <;> simp [sameList]
  | a :: as, bs => by cases bs <;> simp [sameList, same_iff a, sameList_iff as]

end

instance : DecidableEq TypeUse := fun a b =>
  decidable_of_iff (a.same b = true) (same_iff a b)

end Diglot.TypeUse
