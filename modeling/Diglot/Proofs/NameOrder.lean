import Diglot.Declaration
import Diglot.Json.Value
import Mathlib.Data.List.Basic
import Mathlib.Tactic.MkIffOfInductiveProp

/-!
# Modules whose maps are in the order of names

Values by source set are kept in the order in which they were written. A map that is ordered by
names keeps the same entries in another order. What this makes of a whole module is said here.

* `BySourceSet.inNameOrder` — the entries of a map in the order of their names
  (`perm_entries_inNameOrder`, `isInNameOrder_inNameOrder`).
* `TypeUse.inNameOrder`, …, `Module.inNameOrder` — the same for every map in a type or a module.
* `Module.inNameOrder_eq_iff` — a module stays as it is exactly if every map in it lists its names
  in order.
-/

namespace Diglot

variable {α : Type}

/-! ## Sorted entries -/

/-- Insertion of a new name adds the entry. -/
theorem perm_insertByName {name : String} (value : α) :
    ∀ {entries : List (String × α)}, name ∉ entries.map Prod.fst →
      (insertByName name value entries).Perm ((name, value) :: entries)
  | [], _ => List.Perm.refl _
  | (other, old) :: rest, absent => by
    rw [List.map_cons, List.mem_cons, not_or] at absent
    rw [insertByName]
    split
    case h_1 => exact List.Perm.refl _
    case h_2 same => exact absurd (Std.LawfulEqCmp.eq_of_compare same) absent.1
    case h_3 => exact ((perm_insertByName value absent.2).cons _).trans (List.Perm.swap ..)

theorem perm_foldl_insertByName (entries sorted : List (String × α))
    (distinct : ((entries ++ sorted).map Prod.fst).Nodup) :
    (entries.foldl (fun sorted entry => insertByName entry.1 entry.2 sorted) sorted).Perm
      (entries ++ sorted) := by
  induction entries generalizing sorted with
  | nil => exact List.Perm.refl _
  | cons entry rest ih =>
    rw [List.cons_append, List.map_cons, List.nodup_cons] at distinct
    -- the entry goes in front of those that are sorted already
    have absent : entry.1 ∉ sorted.map Prod.fst := fun mem =>
      distinct.1 (by rw [List.map_append]; exact List.mem_append_right _ mem)
    have placed := perm_insertByName entry.2 absent
    have moved : (rest ++ insertByName entry.1 entry.2 sorted).Perm (entry :: rest ++ sorted) :=
      (placed.append_left rest).trans List.perm_middle
    refine (ih _ ?_).trans moved
    exact (moved.map Prod.fst).nodup_iff.mpr (List.nodup_cons.mpr distinct)

/-- **Sorting keeps the entries**, where no name comes twice. -/
theorem perm_sortByName {entries : List (String × α)} (distinct : (entries.map Prod.fst).Nodup) :
    (sortByName entries).Perm entries := by
  have perm := perm_foldl_insertByName entries [] (by rwa [List.append_nil])
  rwa [List.append_nil] at perm

/-- The order of names determines the order of entries. -/
theorem AreByName.eq_of_perm {entries more : List (String × α)} (ordered : AreByName entries)
    (ordered' : AreByName more) (perm : entries.Perm more) : entries = more :=
  perm.eq_of_pairwise
    (fun a b _ _ before after => absurd (Std.OrientedCmp.gt_of_lt before) (by rw [after]; decide))
    ordered ordered'

/-- Sorting does nothing to entries that are in order. -/
theorem sortByName_eq_self_iff {entries : List (String × α)} :
    sortByName entries = entries ↔ AreByName entries := by
  constructor
  · intro same
    rw [← same]
    exact areByName_sortByName entries
  · exact fun ordered =>
      (areByName_sortByName entries).eq_of_perm ordered (perm_sortByName ordered.nodup)

/-! ## Maps -/

namespace BySourceSet

/-- The map with its entries in the order of their names. -/
def inNameOrder (map : BySourceSet α) : BySourceSet α :=
  ⟨sortByName map.entries, (areByName_sortByName map.entries).nodup⟩

/-- Whether the entries of a map are in the order of their names. -/
def IsInNameOrder (map : BySourceSet α) : Prop := AreByName map.entries

/-- **A map that is put in order keeps its entries.** -/
theorem perm_entries_inNameOrder (map : BySourceSet α) :
    map.inNameOrder.entries.Perm map.entries :=
  perm_sortByName map.distinct

/-- **A map that is put in order is in order.** -/
theorem isInNameOrder_inNameOrder (map : BySourceSet α) : map.inNameOrder.IsInNameOrder :=
  areByName_sortByName map.entries

@[simp]
theorem inNameOrder_eq_iff {map : BySourceSet α} : map.inNameOrder = map ↔ map.IsInNameOrder := by
  rw [IsInNameOrder, ← sortByName_eq_self_iff]
  exact ⟨congrArg BySourceSet.entries, fun same => ext same⟩

end BySourceSet

/-! ## Types -/

/-- What comes before the type arguments, with its map in the order of names. -/
def ClassHead.inNameOrder (head : ClassHead) : ClassHead :=
  { head with annotations := head.annotations.inNameOrder }

/-- A reference to a type parameter with its map in the order of names. -/
def ParameterHead.inNameOrder (head : ParameterHead) : ParameterHead :=
  { head with annotations := head.annotations.inNameOrder }

namespace TypeUse

mutual

/-- A type with every map in it in the order of names. -/
def inNameOrder : TypeUse → TypeUse
  | classRef head arguments => classRef head.inNameOrder (listInNameOrder arguments)
  | parameter head => parameter head.inNameOrder
  | primitive name => primitive name
  | javaObject annotations => javaObject annotations.inNameOrder
  | void => void
  | star => star
  | dynamic => dynamic
  | unresolved name => unresolved name
  | nullable inner => nullable inner.inNameOrder
  | nonNull inner => nonNull inner.inNameOrder
  | projected variance inner => projected variance inner.inNameOrder
  | aliased named inner => aliased named.inNameOrder inner.inNameOrder

/-- `inNameOrder` on every type of a list. -/
def listInNameOrder : List TypeUse → List TypeUse
  | [] => []
  | first :: rest => first.inNameOrder :: listInNameOrder rest

end

mutual

/-- Whether every map in a type is in the order of names. -/
def IsInNameOrder : TypeUse → Prop
  | classRef head arguments => head.annotations.IsInNameOrder ∧ AreInNameOrder arguments
  | parameter head => head.annotations.IsInNameOrder
  | javaObject annotations => annotations.IsInNameOrder
  | nullable inner => inner.IsInNameOrder
  | nonNull inner => inner.IsInNameOrder
  | projected _ inner => inner.IsInNameOrder
  | aliased named inner => named.IsInNameOrder ∧ inner.IsInNameOrder
  | primitive _ | void | star | dynamic | unresolved _ => True

/-- Whether every map in the types of a list is in the order of names. -/
def AreInNameOrder : List TypeUse → Prop
  | [] => True
  | first :: rest => first.IsInNameOrder ∧ AreInNameOrder rest

end

mutual

/-- **A type stays as it is exactly if the maps in it are in order.** -/
theorem inNameOrder_eq_iff : ∀ type : TypeUse, type.inNameOrder = type ↔ type.IsInNameOrder
  | classRef ⟨_, _, _, _⟩ arguments => by
    simp [inNameOrder, IsInNameOrder, ClassHead.inNameOrder, listInNameOrder_eq_iff arguments]
  | parameter ⟨_, _, _, _⟩ => by simp [inNameOrder, IsInNameOrder, ParameterHead.inNameOrder]
  | javaObject _ => by simp [inNameOrder, IsInNameOrder]
  | nullable inner | nonNull inner | projected _ inner => by
    simp [inNameOrder, IsInNameOrder, inNameOrder_eq_iff inner]
  | aliased named inner => by
    simp [inNameOrder, IsInNameOrder, inNameOrder_eq_iff named, inNameOrder_eq_iff inner]
  | primitive _ | void | star | dynamic | unresolved _ => by simp [inNameOrder, IsInNameOrder]

theorem listInNameOrder_eq_iff : ∀ types : List TypeUse,
    listInNameOrder types = types ↔ AreInNameOrder types
  | [] => by simp [listInNameOrder, AreInNameOrder]
  | first :: rest => by
    simp [listInNameOrder, AreInNameOrder, inNameOrder_eq_iff first, listInNameOrder_eq_iff rest]

end

end TypeUse

/-! ## Declarations -/

/-- A parameter with every map in it in the order of names. -/
def Parameter.inNameOrder (parameter : Parameter) : Parameter :=
  { parameter with
    type := parameter.type.inNameOrder
    annotations := parameter.annotations.inNameOrder
    default := parameter.default.inNameOrder }

/-- Whether every map in a parameter is in the order of names. -/
@[mk_iff]
structure Parameter.IsInNameOrder (parameter : Parameter) : Prop where
  type : parameter.type.IsInNameOrder
  annotations : parameter.annotations.IsInNameOrder
  default : parameter.default.IsInNameOrder

/-- A type parameter with every map in it in the order of names. -/
def TypeParameter.inNameOrder (parameter : TypeParameter) : TypeParameter :=
  { parameter with
    bounds := TypeUse.listInNameOrder parameter.bounds
    annotations := parameter.annotations.inNameOrder }

/-- Whether every map in a type parameter is in the order of names. -/
@[mk_iff]
structure TypeParameter.IsInNameOrder (parameter : TypeParameter) : Prop where
  bounds : TypeUse.AreInNameOrder parameter.bounds
  annotations : parameter.annotations.IsInNameOrder

/-- A function with every map in it in the order of names. -/
def FunctionDetail.inNameOrder (detail : FunctionDetail) : FunctionDetail :=
  { detail with
    receiver := detail.receiver.map Parameter.inNameOrder
    typeParameters := detail.typeParameters.map TypeParameter.inNameOrder
    parameters := detail.parameters.map Parameter.inNameOrder
    returnType := detail.returnType.inNameOrder }

/-- Whether every map in a function is in the order of names. -/
@[mk_iff]
structure FunctionDetail.IsInNameOrder (detail : FunctionDetail) : Prop where
  receiver : ∀ parameter ∈ detail.receiver, parameter.IsInNameOrder
  typeParameters : ∀ parameter ∈ detail.typeParameters, parameter.IsInNameOrder
  parameters : ∀ parameter ∈ detail.parameters, parameter.IsInNameOrder
  returnType : detail.returnType.IsInNameOrder

/-- A property with every map in it in the order of names. -/
def PropertyDetail.inNameOrder (detail : PropertyDetail) : PropertyDetail :=
  { detail with
    receiver := detail.receiver.map Parameter.inNameOrder
    type := detail.type.inNameOrder }

/-- Whether every map in a property is in the order of names. -/
@[mk_iff]
structure PropertyDetail.IsInNameOrder (detail : PropertyDetail) : Prop where
  receiver : ∀ parameter ∈ detail.receiver, parameter.IsInNameOrder
  type : detail.type.IsInNameOrder

namespace DeclarationDetail

/-- A function or a property with every map in it in the order of names. -/
def inNameOrder : DeclarationDetail → DeclarationDetail
  | function detail => function detail.inNameOrder
  | property detail => property detail.inNameOrder

/-- Whether every map in a function or a property is in the order of names. -/
def IsInNameOrder : DeclarationDetail → Prop
  | function detail => detail.IsInNameOrder
  | property detail => detail.IsInNameOrder

end DeclarationDetail

/-- A declaration with every map in it in the order of names. -/
def Declaration.inNameOrder (declaration : Declaration) : Declaration :=
  { declaration with
    annotations := declaration.annotations.inNameOrder
    modifiers := declaration.modifiers.inNameOrder
    detail := declaration.detail.inNameOrder }

/-- Whether every map in a declaration is in the order of names. -/
@[mk_iff]
structure Declaration.IsInNameOrder (declaration : Declaration) : Prop where
  annotations : declaration.annotations.IsInNameOrder
  modifiers : declaration.modifiers.IsInNameOrder
  detail : declaration.detail.IsInNameOrder

/-- A module with every map in it in the order of names. -/
def Module.inNameOrder (module : Module) : Module :=
  { module with declarations := module.declarations.map Declaration.inNameOrder }

/-- Whether every map in a module is in the order of names. -/
def Module.IsInNameOrder (module : Module) : Prop :=
  ∀ declaration ∈ module.declarations, declaration.IsInNameOrder

/-! ## What stays as it is -/

/-- A list stays as it is if its members do. -/
theorem map_eq_self_iff {f : α → α} {list : List α} : list.map f = list ↔ ∀ a ∈ list, f a = a := by
  induction list with
  | nil => simp
  | cons a rest ih => simp [ih]

/-- A value that may be missing stays as it is if it does where it is there. -/
theorem option_map_eq_self_iff {f : α → α} {value? : Option α} :
    value?.map f = value? ↔ ∀ a ∈ value?, f a = a := by
  cases value? <;> simp

namespace Parameter

theorem inNameOrder_eq_iff (parameter : Parameter) :
    parameter.inNameOrder = parameter ↔ parameter.IsInNameOrder := by
  obtain ⟨_, type, _, _, _⟩ := parameter
  simp [inNameOrder, isInNameOrder_iff, type.inNameOrder_eq_iff]

end Parameter

namespace TypeParameter

theorem inNameOrder_eq_iff (parameter : TypeParameter) :
    parameter.inNameOrder = parameter ↔ parameter.IsInNameOrder := by
  obtain ⟨_, bounds, _⟩ := parameter
  simp [inNameOrder, isInNameOrder_iff, TypeUse.listInNameOrder_eq_iff bounds]

end TypeParameter

namespace DeclarationDetail

theorem inNameOrder_eq_iff (detail : DeclarationDetail) :
    detail.inNameOrder = detail ↔ detail.IsInNameOrder := by
  cases detail with
  | function detail =>
    obtain ⟨_, _, _, returnType, _⟩ := detail
    simp [inNameOrder, IsInNameOrder, FunctionDetail.inNameOrder, FunctionDetail.isInNameOrder_iff,
      map_eq_self_iff, option_map_eq_self_iff, Parameter.inNameOrder_eq_iff,
      TypeParameter.inNameOrder_eq_iff, returnType.inNameOrder_eq_iff]
  | property detail =>
    obtain ⟨_, type, _, _, _⟩ := detail
    simp [inNameOrder, IsInNameOrder, PropertyDetail.inNameOrder, PropertyDetail.isInNameOrder_iff,
      option_map_eq_self_iff, Parameter.inNameOrder_eq_iff, type.inNameOrder_eq_iff]

end DeclarationDetail

namespace Declaration

theorem inNameOrder_eq_iff (declaration : Declaration) :
    declaration.inNameOrder = declaration ↔ declaration.IsInNameOrder := by
  obtain ⟨_, _, _, _, _, _, _, _, _, _, detail⟩ := declaration
  simp [inNameOrder, isInNameOrder_iff, detail.inNameOrder_eq_iff]

end Declaration

/-- **A module stays as it is exactly if every map in it lists its names in order.** -/
theorem Module.inNameOrder_eq_iff (module : Module) :
    module.inNameOrder = module ↔ module.IsInNameOrder := by
  obtain ⟨_, declarations⟩ := module
  simp [inNameOrder, IsInNameOrder, map_eq_self_iff, Declaration.inNameOrder_eq_iff]

end Diglot
