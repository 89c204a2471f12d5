import Diglot.SourceSet

/-!
# The order of source sets

Source sets are compared by platform and then by name, lists of them entry by entry. Both
are linear orders in which only equal things compare as equal. A list without repetitions
in increasing order is therefore determined by its members.
-/

namespace Diglot

/-- Platforms differ in their rank. -/
theorem Platform.rank_injective : Function.Injective Platform.rank := by
  intro a b h
  cases a <;> cases b <;> first | rfl | cases h

namespace SourceSet

/-- The comparison as a combination of those of the fields. -/
theorem compare_eq_compareLex :
    SourceSet.compare =
      compareLex (compareOn fun s => s.platform.rank) (compareOn SourceSet.name) :=
  rfl

instance : Std.TransCmp SourceSet.compare := by
  rw [compare_eq_compareLex]
  infer_instance

instance : Std.LawfulEqCmp SourceSet.compare where
  eq_of_compare {a b} h := by
    rw [compare_eq_compareLex, compareLex_eq_eq] at h
    obtain ⟨ranks, names⟩ := h
    have platform : a.platform = b.platform :=
      Platform.rank_injective (Std.LawfulEqCmp.eq_of_compare ranks)
    have name : a.name = b.name := Std.LawfulEqCmp.eq_of_compare names
    cases a
    cases b
    cases platform
    cases name
    rfl

/-- Lists are compared entry by entry. -/
theorem compareLists_eq_compareLex : compareLists = List.compareLex SourceSet.compare := by
  funext as bs
  induction as generalizing bs with
  | nil => cases bs <;> rfl
  | cons a as ih =>
    cases bs with
    | nil => rfl
    | cons b bs => rw [compareLists, List.compareLex_cons_cons, ih]

instance : Std.TransCmp compareLists := by
  rw [compareLists_eq_compareLex]
  infer_instance

instance : Std.LawfulEqCmp compareLists := by
  rw [compareLists_eq_compareLex]
  infer_instance

/-! ## Increasing lists -/

/-- Every source set of the list comes before those after it; none is repeated. -/
def Increasing (list : List SourceSet) : Prop :=
  list.Pairwise fun a b => SourceSet.compare a b = .lt

/-- Sorted insertion adds one member. -/
theorem mem_insertSorted {s new : SourceSet} {list : List SourceSet} :
    s ∈ insertSorted new list ↔ s = new ∨ s ∈ list := by
  induction list with
  | nil => simp [insertSorted]
  | cons old rest ih =>
    rw [insertSorted]
    split
    · simp
    · rename_i same
      obtain rfl : new = old := Std.LawfulEqCmp.eq_of_compare same
      simp
    · rw [List.mem_cons, ih, List.mem_cons]
      exact or_left_comm

/-- Sorted insertion keeps lists increasing. -/
theorem Increasing.insertSorted {list : List SourceSet} (h : Increasing list)
    (new : SourceSet) : Increasing (insertSorted new list) := by
  induction list with
  | nil => exact List.pairwise_singleton _ _
  | cons old rest ih =>
    obtain ⟨first, others⟩ := List.pairwise_cons.mp h
    rw [SourceSet.insertSorted]
    split
    · rename_i before
      refine List.pairwise_cons.mpr ⟨fun s mem => ?_, h⟩
      rcases List.mem_cons.mp mem with rfl | mem
      · exact before
      · exact Std.TransCmp.lt_trans before (first s mem)
    · exact h
    · rename_i after
      refine List.pairwise_cons.mpr ⟨fun s mem => ?_, ih others⟩
      rcases mem_insertSorted.mp mem with rfl | mem
      · exact Std.OrientedCmp.lt_of_gt after
      · exact first s mem

/-- No source set comes before itself, nor after what comes after it. -/
theorem compare_lt_asymm {a b : SourceSet} (h : SourceSet.compare a b = .lt) :
    SourceSet.compare b a ≠ .lt := by
  have swap : SourceSet.compare b a = (SourceSet.compare a b).swap := Std.OrientedCmp.eq_swap
  rw [swap, h]
  decide

/-- Increasing lists have no repetitions. -/
theorem Increasing.nodup {list : List SourceSet} (h : Increasing list) : list.Nodup := by
  refine h.imp ?_
  rintro a b lt rfl
  exact compare_lt_asymm lt lt

/-- Increasing lists with the same members are equal. -/
theorem Increasing.ext {as bs : List SourceSet} (ha : Increasing as) (hb : Increasing bs)
    (same : ∀ s, s ∈ as ↔ s ∈ bs) : as = bs := by
  have perm : as.Perm bs := (List.perm_ext_iff_of_nodup ha.nodup hb.nodup).mpr same
  exact perm.eq_of_pairwise (fun a b _ _ h h' => absurd h' (compare_lt_asymm h)) ha hb

/-- The first source set of an increasing list comes before all others. -/
theorem Increasing.head_lt {first s : SourceSet} {rest : List SourceSet}
    (h : Increasing (first :: rest)) (mem : s ∈ first :: rest) (other : s ≠ first) :
    SourceSet.compare first s = .lt := by
  rcases List.mem_cons.mp mem with rfl | mem
  · exact absurd rfl other
  · exact (List.pairwise_cons.mp h).1 s mem

/-- Of two lists that begin with different source sets, the smaller one begins with the
smaller. -/
theorem compare_lt_of_compareLists {a b : SourceSet} {as bs : List SourceSet}
    (h : compareLists (a :: as) (b :: bs) = .lt) (other : a ≠ b) :
    SourceSet.compare a b = .lt := by
  rw [compareLists] at h
  cases order : SourceSet.compare a b with
  | lt => rfl
  | eq => exact absurd (Std.LawfulEqCmp.eq_of_compare order) other
  | gt =>
    rw [order] at h
    cases h

end SourceSet

end Diglot
