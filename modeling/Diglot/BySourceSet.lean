/-!
# Values by source set

`BySourceSet α` maps names of source sets to values and keeps the order in which the
names were first written. The order has a meaning: the first entry is the one that
counts where no source set is given, and two maps are equal only if they list equal
entries in the same order. A name never occurs twice.
-/

namespace Diglot

/-- Replace the value of `name` where it stands, or add the entry at the end. -/
def insertEntry {α : Type} (name : String) (value : α) :
    List (String × α) → List (String × α)
  | [] => [(name, value)]
  | (other, old) :: rest =>
    if other = name then (other, value) :: rest
    else (other, old) :: insertEntry name value rest

/-- An entry keeps its place when its value is replaced; a new name comes last. -/
theorem map_fst_insertEntry {α : Type} (name : String) (value : α)
    (entries : List (String × α)) :
    (insertEntry name value entries).map Prod.fst =
      if name ∈ entries.map Prod.fst then entries.map Prod.fst
      else entries.map Prod.fst ++ [name] := by
  induction entries with
  | nil => simp [insertEntry]
  | cons entry rest ih =>
    obtain ⟨other, old⟩ := entry
    by_cases h : other = name
    · simp [insertEntry, h]
    · have h' : ¬ name = other := fun e => h e.symm
      simp only [insertEntry, h, h', if_false, List.map_cons, ih, List.mem_cons, false_or]
      split <;> simp

/-- Inserting keeps the names distinct. -/
theorem nodup_insertEntry {α : Type} (name : String) (value : α)
    {entries : List (String × α)} (h : (entries.map Prod.fst).Nodup) :
    ((insertEntry name value entries).map Prod.fst).Nodup := by
  rw [map_fst_insertEntry]
  split
  · exact h
  · rename_i absent
    exact List.nodup_append.mpr
      ⟨h, by simp, fun a ha b hb e => absent (by simp_all)⟩

/-- Values by source set name, in the order of first insertion. -/
structure BySourceSet (α : Type) where
  /-- names and values, in order -/
  entries : List (String × α)
  /-- no name occurs twice -/
  distinct : (entries.map Prod.fst).Nodup

namespace BySourceSet

variable {α : Type}

/-- No source set has a value. -/
def empty : BySourceSet α := ⟨[], by simp⟩

instance : EmptyCollection (BySourceSet α) := ⟨empty⟩

instance : Inhabited (BySourceSet α) := ⟨empty⟩

/-- Maps are determined by their entries. -/
theorem ext {a b : BySourceSet α} (h : a.entries = b.entries) : a = b := by
  cases a
  cases b
  cases h
  rfl

instance [DecidableEq α] : DecidableEq (BySourceSet α) := fun a b =>
  decidable_of_iff (a.entries = b.entries) ⟨ext, fun h => h ▸ rfl⟩

/-- Set the value of `name`, which keeps its place if it has one. -/
def insert (map : BySourceSet α) (name : String) (value : α) : BySourceSet α :=
  ⟨insertEntry name value map.entries, nodup_insertEntry name value map.distinct⟩

/-- The value of a source set, by its name. -/
def get? (map : BySourceSet α) (name : String) : Option α :=
  (map.entries.find? fun entry => entry.1 = name).map Prod.snd

/-- The value that was inserted first. -/
def first? (map : BySourceSet α) : Option α :=
  map.entries.head?.map Prod.snd

/-- The values, in order. -/
def values (map : BySourceSet α) : List α :=
  map.entries.map Prod.snd

/-- Whether no source set has a value. -/
def isEmpty (map : BySourceSet α) : Bool :=
  map.entries.isEmpty

end BySourceSet

end Diglot
