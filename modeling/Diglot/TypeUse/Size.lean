import Diglot.TypeUse.Basic

/-!
# The size of a type use

`TypeUse.nodes` counts the nodes of the tree. Everything that works through a type by
looking at its parts ends because the parts have fewer nodes. `TypeUse.induct_inside` is the
induction that goes with it: over what is inside a wrapper and over the type arguments.
-/

namespace Diglot.TypeUse

mutual

/-- The number of nodes of the tree. -/
def nodes : TypeUse → Nat
  | classRef _ arguments => nodesList arguments + 1
  | nullable inner => inner.nodes + 1
  | nonNull inner => inner.nodes + 1
  | projected _ inner => inner.nodes + 1
  | aliased named inner => named.nodes + inner.nodes + 1
  | _ => 1

/-- The number of nodes of all trees in a list. -/
def nodesList : List TypeUse → Nat
  | [] => 0
  | first :: rest => first.nodes + nodesList rest

end

/-- A tree in a list has no more nodes than the list. -/
theorem nodes_le_nodesList {type : TypeUse} {types : List TypeUse} (h : type ∈ types) :
    type.nodes ≤ nodesList types := by
  induction types with
  | nil => cases h
  | cons first rest ih =>
    rcases List.mem_cons.mp h with rfl | h
    · exact Nat.le_add_right _ _
    · exact Nat.le_trans (ih h) (Nat.le_add_left _ _)

/-- Every tree has a root. -/
theorem nodes_pos (type : TypeUse) : 0 < type.nodes := by
  cases type <;> simp [nodes]

/-- Below the `T & Any` wrappers there are no more nodes than with them. -/
theorem nodes_withoutNonNull_le : ∀ type : TypeUse, type.withoutNonNull.nodes ≤ type.nodes
  | nonNull inner => by
    simpa [withoutNonNull, nodes] using Nat.le_succ_of_le (nodes_withoutNonNull_le inner)
  | classRef .. | parameter _ | primitive _ | javaObject _ | void | star | dynamic
  | unresolved _ | nullable _ | projected .. | aliased .. => Nat.le_refl _

/-- The arguments as written are smaller than the type. -/
theorem nodesList_writtenArguments_lt :
    ∀ type : TypeUse, nodesList type.writtenArguments < type.nodes
  | classRef _ arguments => by simp [writtenArguments, nodes]
  | nullable inner => by
    simpa [writtenArguments, nodes] using
      Nat.lt_succ_of_lt (nodesList_writtenArguments_lt inner)
  | nonNull inner => by
    simpa [writtenArguments, nodes] using
      Nat.lt_succ_of_lt (nodesList_writtenArguments_lt inner)
  | projected _ inner => by
    simpa [writtenArguments, nodes] using
      Nat.lt_succ_of_lt (nodesList_writtenArguments_lt inner)
  | aliased named inner => by
    have h := nodesList_writtenArguments_lt inner
    simp only [writtenArguments, nodes]
    omega
  | parameter _ | primitive _ | javaObject _ | void | star | dynamic | unresolved _ => by
    simp [writtenArguments, nodes, nodesList]

/-! ## Induction -/

/-- What is inside a wrapper, `T & Any` included. -/
def inside? : TypeUse → Option TypeUse
  | nullable inner => some inner
  | nonNull inner => some inner
  | projected _ inner => some inner
  | aliased _ inner => some inner
  | _ => none

/-- What is inside has fewer nodes than the wrapper. -/
theorem nodes_lt_of_inside? {type inner : TypeUse} (inside : type.inside? = some inner) :
    inner.nodes < type.nodes := by
  cases type <;> cases inside <;> simp only [nodes] <;> omega

/-- A type argument has fewer nodes than the type. -/
theorem nodes_lt_of_mem_writtenArguments {type argument : TypeUse}
    (mem : argument ∈ type.writtenArguments) : argument.nodes < type.nodes :=
  Nat.lt_of_le_of_lt (nodes_le_nodesList mem) (nodesList_writtenArguments_lt type)

/-- **What all types have**: each has it if its type arguments have it, and what is inside. -/
theorem induct_inside {motive : TypeUse → Prop}
    (step : ∀ type : TypeUse, (∀ argument ∈ type.writtenArguments, motive argument) →
      (∀ inner, type.inside? = some inner → motive inner) → motive type)
    (type : TypeUse) : motive type := by
  induction size : type.nodes using Nat.strongRecOn generalizing type with
  | ind size ih =>
    subst size
    exact step type (fun a mem => ih _ (nodes_lt_of_mem_writtenArguments mem) a rfl)
      fun inner inside => ih _ (nodes_lt_of_inside? inside) inner rfl

/-- What passes to the inside of wrappers and to the arguments of classes passes to all type
arguments. -/
theorem of_mem_writtenArguments {P : TypeUse → Prop}
    (below : ∀ type inner : TypeUse, type.inside? = some inner → P type → P inner)
    (classRef : ∀ head arguments, P (.classRef head arguments) → ∀ a ∈ arguments, P a) :
    ∀ type : TypeUse, P type → ∀ a ∈ type.writtenArguments, P a
  | .classRef head arguments, holds => classRef head arguments holds
  | .nullable inner, holds => of_mem_writtenArguments below classRef inner (below _ _ rfl holds)
  | .nonNull inner, holds => of_mem_writtenArguments below classRef inner (below _ _ rfl holds)
  | .projected _ inner, holds =>
    of_mem_writtenArguments below classRef inner (below _ _ rfl holds)
  | .aliased _ inner, holds => of_mem_writtenArguments below classRef inner (below _ _ rfl holds)
  | .parameter _, _ | .primitive _, _ | .javaObject _, _ | .void, _ | .star, _ | .dynamic, _
  | .unresolved _, _ => fun _ mem => by cases mem

end Diglot.TypeUse
