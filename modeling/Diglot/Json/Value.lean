import Diglot.BySourceSet
import Diglot.Json.Basic

/-!
# JSON values

A document can be kept as a value instead of a text. The objects of a value are maps that are
ordered by the names of their fields, so the order in which the fields were written is lost.

* `sortByName` puts entries in the order of their names, one after the other; an entry whose name
  is there already replaces the one before it.
* `Json.sorted` does so in every object of a document.
* `JsonValue` is a document together with the proof that all of its objects are in order.
-/

namespace Diglot

/-! ## Entries in the order of their names -/

/-- Put an entry in its place among entries in the order of their names. -/
def insertByName {α : Type} (name : String) (value : α) : List (String × α) → List (String × α)
  | [] => [(name, value)]
  | (other, old) :: rest =>
    match Ord.compare name other with
    | .lt => (name, value) :: (other, old) :: rest
    | .eq => (name, value) :: rest
    | .gt => (other, old) :: insertByName name value rest

/-- Entries in the order of their names. -/
def sortByName {α : Type} (entries : List (String × α)) : List (String × α) :=
  entries.foldl (fun sorted entry => insertByName entry.1 entry.2 sorted) []

/-- Whether entries are in the strict order of their names. -/
def AreByName {α : Type} (entries : List (String × α)) : Prop :=
  entries.Pairwise fun a b => Ord.compare a.1 b.1 = .lt

instance {α : Type} (entries : List (String × α)) : Decidable (AreByName entries) :=
  inferInstanceAs (Decidable (entries.Pairwise _))

variable {α : Type}

/-- Insertion brings in one entry. -/
theorem mem_of_mem_insertByName {name : String} {value : α} {entry : String × α} :
    ∀ {entries : List (String × α)}, entry ∈ insertByName name value entries →
      entry = (name, value) ∨ entry ∈ entries
  | [], mem => Or.inl (List.mem_singleton.mp mem)
  | (other, old) :: rest, mem => by
    rw [insertByName] at mem
    split at mem
    · exact List.mem_cons.mp mem
    · exact (List.mem_cons.mp mem).imp_right (List.mem_cons_of_mem _)
    · rcases List.mem_cons.mp mem with rfl | mem
      · exact Or.inr (List.mem_cons_self ..)
      · exact (mem_of_mem_insertByName mem).imp_right (List.mem_cons_of_mem _)

/-- **Insertion keeps the order of names.** -/
theorem AreByName.insertByName {name : String} {value : α} :
    ∀ {entries : List (String × α)}, AreByName entries →
      AreByName (insertByName name value entries)
  | [], _ => List.pairwise_singleton ..
  | (other, old) :: rest, ordered => by
    obtain ⟨first, behind⟩ := List.pairwise_cons.mp ordered
    rw [Diglot.insertByName]
    split
    case h_1 before =>
      refine List.pairwise_cons.mpr ⟨fun entry mem => ?_, ordered⟩
      rcases List.mem_cons.mp mem with rfl | mem
      · exact before
      · exact Std.TransCmp.lt_trans before (first entry mem)
    case h_2 same =>
      obtain rfl : name = other := Std.LawfulEqCmp.eq_of_compare same
      exact List.pairwise_cons.mpr ⟨first, behind⟩
    case h_3 after =>
      refine List.pairwise_cons.mpr ⟨fun entry mem => ?_, AreByName.insertByName behind⟩
      rcases mem_of_mem_insertByName mem with rfl | mem
      · exact Std.OrientedCmp.lt_of_gt after
      · exact first entry mem

theorem areByName_foldl (entries : List (String × α)) {sorted : List (String × α)}
    (ordered : AreByName sorted) :
    AreByName (entries.foldl (fun sorted entry => insertByName entry.1 entry.2 sorted) sorted) := by
  induction entries generalizing sorted with
  | nil => exact ordered
  | cons entry rest ih => exact ih ordered.insertByName

/-- **What is sorted is in order.** -/
theorem areByName_sortByName (entries : List (String × α)) : AreByName (sortByName entries) :=
  areByName_foldl entries List.Pairwise.nil

/-- No name comes twice in entries that are in order. -/
theorem AreByName.nodup {entries : List (String × α)} (ordered : AreByName entries) :
    (entries.map Prod.fst).Nodup := by
  refine List.pairwise_map.mpr (ordered.imp fun before same => ?_)
  have same := before.symm.trans (Std.LawfulEqCmp.compare_eq_iff_eq.mpr same)
  cases same

theorem mem_foldl_insertByName {entry : String × α} (entries : List (String × α))
    {sorted : List (String × α)}
    (mem : entry ∈ entries.foldl (fun sorted entry => insertByName entry.1 entry.2 sorted) sorted) :
    entry ∈ entries ∨ entry ∈ sorted := by
  induction entries generalizing sorted with
  | nil => exact Or.inr mem
  | cons first rest ih =>
    rcases ih mem with mem | mem
    · exact Or.inl (List.mem_cons_of_mem _ mem)
    · rcases mem_of_mem_insertByName mem with rfl | mem
      · exact Or.inl (List.mem_cons_self ..)
      · exact Or.inr mem

/-- Sorting adds no entries. -/
theorem mem_of_mem_sortByName {entry : String × α} {entries : List (String × α)}
    (mem : entry ∈ sortByName entries) : entry ∈ entries :=
  (mem_foldl_insertByName entries mem).resolve_right List.not_mem_nil

/-! ## Documents -/

namespace Json

mutual

/-- The document with the fields of every object in the order of their names. -/
def sorted : Json → Json
  | array elements => array (sortedElements elements)
  | object fields => object (sortByName (sortedFields fields))
  | unnamed value => unnamed value.sorted
  | null => null
  | bool value => bool value
  | number value => number value
  | string text => string text
  | truncated => truncated
  | unreadable => unreadable

/-- `sorted` on every element. -/
def sortedElements : List Json → List Json
  | [] => []
  | first :: rest => first.sorted :: sortedElements rest

/-- `sorted` on the value of every field. -/
def sortedFields : List (String × Json) → List (String × Json)
  | [] => []
  | (name, value) :: rest => (name, value.sorted) :: sortedFields rest

end

mutual

/-- Whether the fields of every object are in the order of their names. -/
def isSorted : Json → Bool
  | array elements => areSorted elements
  | object fields => decide (AreByName fields) && fieldsAreSorted fields
  | unnamed value => value.isSorted
  | null | bool _ | number _ | string _ | truncated | unreadable => true

/-- Whether the objects in all elements are in order. -/
def areSorted : List Json → Bool
  | [] => true
  | first :: rest => first.isSorted && areSorted rest

/-- Whether the objects in all fields are in order. -/
def fieldsAreSorted : List (String × Json) → Bool
  | [] => true
  | (_, value) :: rest => value.isSorted && fieldsAreSorted rest

end

theorem fieldsAreSorted_iff {fields : List (String × Json)} :
    fieldsAreSorted fields = true ↔ ∀ field ∈ fields, field.2.isSorted = true := by
  induction fields with
  | nil => simp [fieldsAreSorted]
  | cons first rest ih => simp [fieldsAreSorted, ih]

theorem fieldsAreReadable_iff {fields : List (String × Json)} :
    fieldsAreReadable fields = true ↔ ∀ field ∈ fields, field.2.isReadable = true := by
  induction fields with
  | nil => simp [fieldsAreReadable]
  | cons first rest ih => simp [fieldsAreReadable, ih]

mutual

/-- **A sorted document is in order.** -/
theorem isSorted_sorted : ∀ document : Json, document.sorted.isSorted = true
  | array elements => areSorted_sortedElements elements
  | object fields => by
    have inside := fieldsAreSorted_iff.mp (fieldsAreSorted_sortedFields fields)
    have ordered : fieldsAreSorted (sortByName (sortedFields fields)) = true :=
      fieldsAreSorted_iff.mpr fun field mem => inside field (mem_of_mem_sortByName mem)
    simp [sorted, isSorted, areByName_sortByName, ordered]
  | unnamed value => isSorted_sorted value
  | null | bool _ | number _ | string _ | truncated | unreadable => rfl

theorem areSorted_sortedElements : ∀ elements : List Json,
    areSorted (sortedElements elements) = true
  | [] => rfl
  | first :: rest => by
    rw [sortedElements, areSorted, isSorted_sorted first, areSorted_sortedElements rest]
    rfl

theorem fieldsAreSorted_sortedFields : ∀ fields : List (String × Json),
    fieldsAreSorted (sortedFields fields) = true
  | [] => rfl
  | (name, value) :: rest => by
    rw [sortedFields, fieldsAreSorted, isSorted_sorted value, fieldsAreSorted_sortedFields rest]
    rfl

end

mutual

/-- Everything in a sorted document has a value if everything in the document has one. -/
theorem isReadable_sorted : ∀ {document : Json}, document.isReadable = true →
    document.sorted.isReadable = true
  | array _, readable => areReadable_sortedElements readable
  | object _, readable => by
    have inside := fieldsAreReadable_iff.mp (fieldsAreReadable_sortedFields readable)
    exact fieldsAreReadable_iff.mpr fun field mem => inside field (mem_of_mem_sortByName mem)
  | null, _ | bool _, _ | number _, _ | string _, _ => rfl

theorem areReadable_sortedElements : ∀ {elements : List Json}, areReadable elements = true →
    areReadable (sortedElements elements) = true
  | [], _ => rfl
  | first :: rest, readable => by
    rw [areReadable, Bool.and_eq_true] at readable
    rw [sortedElements, areReadable, isReadable_sorted readable.1,
      areReadable_sortedElements readable.2]
    rfl

theorem fieldsAreReadable_sortedFields : ∀ {fields : List (String × Json)},
    fieldsAreReadable fields = true → fieldsAreReadable (sortedFields fields) = true
  | [], _ => rfl
  | (_, value) :: rest, readable => by
    rw [fieldsAreReadable, Bool.and_eq_true] at readable
    rw [sortedFields, fieldsAreReadable, isReadable_sorted readable.1,
      fieldsAreReadable_sortedFields readable.2]
    rfl

end

end Json

/-- **A JSON value**: a document in which everything has a value and every object is a map that is
ordered by the names of its fields. -/
structure JsonValue where
  /-- the value as a document -/
  document : Json
  /-- everything in it has a value -/
  readable : document.isReadable = true
  /-- the fields of every object are in the order of their names -/
  sorted : document.isSorted = true

/-- The value that a document stands for. -/
def Json.toValue (document : Json) (readable : document.isReadable = true) : JsonValue :=
  ⟨document.sorted, isReadable_sorted readable, isSorted_sorted document⟩

end Diglot
