import Diglot.Proofs.Order
import Diglot.Variants
import Mathlib.Data.List.Induction
import Mathlib.Data.List.Nodup

/-!
# Grouping source sets

The variants of a declaration come about by entering its source sets with their signatures,
one after the other. `Groups pairs variants` says which variants the pairs entered so far
make up. It does not speak of an order, neither of the pairs nor of the variants, and yet it
determines the variants up to their order; so nothing depends on the order in which
signatures are found, or on the order in which a map lists its entries.

Where no source set has two signatures, no two variants have the same source sets, and
sorting the variants removes the last choice (`Variant.Groups.sorted_eq`).
-/

namespace Diglot.Variant

/-- The variants are those that the pairs make up. -/
structure Groups (pairs : List (SourceSet × Signature)) (variants : List Variant) : Prop where
  /-- no two variants have the same signature -/
  distinct : (variants.map Variant.signature).Nodup
  /-- every pair belongs to some variant -/
  complete : ∀ pair ∈ pairs, pair.2 ∈ variants.map Variant.signature
  /-- a variant has the source sets that were entered with its signature -/
  members : ∀ variant ∈ variants, ∀ s, s ∈ variant.sourceSets ↔ (s, variant.signature) ∈ pairs
  /-- there is such a source set -/
  nonempty : ∀ variant ∈ variants, variant.sourceSets ≠ []
  /-- source sets are listed in their order -/
  increasing : ∀ variant ∈ variants, SourceSet.Increasing variant.sourceSets

/-! ## Entering a source set -/

/-- A new signature comes last; otherwise the signatures stay as they are. -/
theorem signatures_enter (s : SourceSet) (signature : Signature) (variants : List Variant) :
    (enter s signature variants).map Variant.signature =
      if signature ∈ variants.map Variant.signature then variants.map Variant.signature
      else variants.map Variant.signature ++ [signature] := by
  induction variants with
  | nil => simp [enter]
  | cons first rest ih =>
    by_cases same : first.signature = signature
    · simp [enter, same]
    · have other : ¬ signature = first.signature := fun e => same e.symm
      simp only [enter, same, other, if_false, List.map_cons, ih, List.mem_cons, false_or]
      split <;> simp

/-- After a source set is entered, a variant is either an old one with another signature, or
it has the given signature and one source set more than before. -/
theorem mem_enter {s : SourceSet} {signature : Signature} {variants : List Variant}
    {variant : Variant} (distinct : (variants.map Variant.signature).Nodup)
    (mem : variant ∈ enter s signature variants) :
    (variant ∈ variants ∧ variant.signature ≠ signature) ∨
      ∃ old : List SourceSet, variant = ⟨signature, s.insertSorted old⟩ ∧
        (⟨signature, old⟩ ∈ variants ∨ old = [] ∧ signature ∉ variants.map Variant.signature) := by
  induction variants with
  | nil =>
    refine .inr ⟨[], ?_, .inr ⟨rfl, by simp⟩⟩
    simpa [enter, SourceSet.insertSorted] using mem
  | cons first rest ih =>
    obtain ⟨fresh, distinct⟩ := List.nodup_cons.mp distinct
    by_cases same : first.signature = signature
    · subst same
      rw [enter, if_pos rfl] at mem
      rcases List.mem_cons.mp mem with rfl | mem
      · exact .inr ⟨first.sourceSets, rfl, .inl (List.mem_cons_self ..)⟩
      · refine .inl ⟨List.mem_cons_of_mem _ mem, fun e => fresh ?_⟩
        exact e ▸ List.mem_map_of_mem mem
    · rw [enter, if_neg same] at mem
      rcases List.mem_cons.mp mem with rfl | mem
      · exact .inl ⟨List.mem_cons_self .., same⟩
      · rcases ih distinct mem with ⟨mem, ne⟩ | ⟨old, rfl, mem | ⟨none, absent⟩⟩
        · exact .inl ⟨List.mem_cons_of_mem _ mem, ne⟩
        · exact .inr ⟨old, rfl, .inl (List.mem_cons_of_mem _ mem)⟩
        · refine .inr ⟨old, rfl, .inr ⟨none, ?_⟩⟩
          rw [List.map_cons, List.mem_cons]
          exact fun h => h.elim (fun e => same e.symm) absent

namespace Groups

variable {pairs : List (SourceSet × Signature)} {variants : List Variant}

/-- Nothing is entered yet. -/
theorem empty : Groups [] [] where
  distinct := List.nodup_nil
  complete _ mem := absurd mem (List.not_mem_nil)
  members _ mem := absurd mem (List.not_mem_nil)
  nonempty _ mem := absurd mem (List.not_mem_nil)
  increasing _ mem := absurd mem (List.not_mem_nil)

/-- **One step**: entering a source set accounts for one pair more. -/
theorem enter (h : Groups pairs variants) (s : SourceSet) (signature : Signature) :
    Groups ((s, signature) :: pairs) (enter s signature variants) where
  distinct := by
    rw [signatures_enter]
    split
    · exact h.distinct
    · rename_i absent
      refine List.nodup_append.mpr ⟨h.distinct, List.nodup_singleton _, ?_⟩
      rintro a mem b memb rfl
      exact absent (List.mem_singleton.mp memb ▸ mem)
  complete pair mem := by
    have all : ∀ other, other = signature ∨ other ∈ variants.map Variant.signature →
        other ∈ (Variant.enter s signature variants).map Variant.signature := by
      intro other h
      rw [signatures_enter]
      split
      · rename_i present
        exact h.elim (fun e => e ▸ present) id
      · rw [List.mem_append, List.mem_singleton]
        exact h.symm
    rcases List.mem_cons.mp mem with rfl | mem
    · exact all _ (.inl rfl)
    · exact all _ (.inr (h.complete pair mem))
  members variant mem t := by
    rcases mem_enter h.distinct mem with ⟨mem, ne⟩ | ⟨old, rfl, before⟩
    -- another signature: the new pair says nothing about this variant
    · rw [h.members variant mem t, List.mem_cons, Prod.mk.injEq]
      exact (or_iff_right fun e => ne e.2).symm
    · have members : t ∈ old ↔ (t, signature) ∈ pairs := by
        rcases before with mem | ⟨rfl, absent⟩
        · exact h.members _ mem t
        · exact iff_of_false List.not_mem_nil fun mem => absent (h.complete _ mem)
      rw [SourceSet.mem_insertSorted, members, List.mem_cons, Prod.mk.injEq]
      exact or_congr_left (and_iff_left rfl).symm
  nonempty variant mem := by
    rcases mem_enter h.distinct mem with ⟨mem, -⟩ | ⟨old, rfl, -⟩
    · exact h.nonempty variant mem
    · exact List.ne_nil_of_mem (SourceSet.mem_insertSorted.mpr (.inl rfl))
  increasing variant mem := by
    rcases mem_enter h.distinct mem with ⟨mem, -⟩ | ⟨old, rfl, before⟩
    · exact h.increasing variant mem
    · refine SourceSet.Increasing.insertSorted ?_ s
      rcases before with mem | ⟨rfl, -⟩
      · exact h.increasing _ mem
      · exact List.Pairwise.nil

/-- Only the members of the list of pairs matter. -/
theorem of_mem_iff {pairs' : List (SourceSet × Signature)} (h : Groups pairs variants)
    (same : ∀ pair, pair ∈ pairs ↔ pair ∈ pairs') : Groups pairs' variants where
  distinct := h.distinct
  complete pair mem := h.complete pair ((same pair).mpr mem)
  members variant mem s := (h.members variant mem s).trans (same _)
  nonempty := h.nonempty
  increasing := h.increasing

/-- The order in which the variants are listed does not matter. -/
theorem perm {variants' : List Variant} (h : Groups pairs variants)
    (perm : variants.Perm variants') : Groups pairs variants' where
  distinct := (perm.map _).nodup_iff.mp h.distinct
  complete pair mem := (perm.map _).mem_iff.mp (h.complete pair mem)
  members variant mem := h.members variant (perm.mem_iff.mpr mem)
  nonempty variant mem := h.nonempty variant (perm.mem_iff.mpr mem)
  increasing variant mem := h.increasing variant (perm.mem_iff.mpr mem)

/-- **All steps**: grouping pairs one after the other yields the variants that they make
up. -/
theorem group (pairs : List (SourceSet × Signature)) : Groups pairs (group pairs) := by
  -- induction from the end, because the last pair is entered last
  induction pairs using List.reverseRecOn with
  | nil => exact empty
  | append_singleton pairs pair ih =>
    rw [Variant.group, List.foldl_append]
    refine (ih.enter pair.1 pair.2).of_mem_iff fun other => ?_
    rw [List.mem_append, List.mem_cons, List.mem_singleton]
    exact or_comm

/-- Every variant is determined by its signature. -/
theorem eq_of_signature {variants' : List Variant} (h : Groups pairs variants)
    (h' : Groups pairs variants') {v w : Variant} (hv : v ∈ variants) (hw : w ∈ variants')
    (eq : v.signature = w.signature) : v = w := by
  have sourceSets : v.sourceSets = w.sourceSets := by
    refine (h.increasing v hv).ext (h'.increasing w hw) fun s => ?_
    rw [h.members v hv, h'.members w hw, eq]
  cases v
  cases w
  cases eq
  cases sourceSets
  rfl

/-- Every variant of one list is in the other. -/
theorem subset {variants' : List Variant} (h : Groups pairs variants)
    (h' : Groups pairs variants') {v : Variant} (hv : v ∈ variants) : v ∈ variants' := by
  obtain ⟨s, mem⟩ := List.exists_mem_of_ne_nil _ (h.nonempty v hv)
  obtain ⟨w, hw, eq⟩ := List.mem_map.mp (h'.complete _ ((h.members v hv s).mp mem))
  exact h.eq_of_signature h' hv hw eq.symm ▸ hw

/-- **The pairs determine the variants**, up to their order. -/
theorem unique {variants' : List Variant} (h : Groups pairs variants)
    (h' : Groups pairs variants') : variants.Perm variants' := by
  -- without repetitions, the same members are the same list up to its order
  have nodup : ∀ {list : List Variant}, Groups pairs list → list.Nodup := fun h =>
    List.Nodup.of_map _ h.distinct
  refine (List.perm_ext_iff_of_nodup (nodup h) (nodup h')).mpr fun v => ?_
  exact ⟨fun mem => h.subset h' mem, fun mem => h'.subset h mem⟩

end Groups

end Diglot.Variant
