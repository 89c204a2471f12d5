import Diglot.Proofs.Grouping

/-!
# Variants as a partition of the source sets

If no source set has two signatures, the variants made up by pairs of source sets and
signatures divide the source sets among them. Sorted by their source sets, they stand in
strictly increasing order, and there is only one such list, whatever order the pairs were
entered in and however the variants were listed before.

`IsPartition` collects what holds of the variants of a declaration; `Variants.ofGroups?`
yields such variants for every list but the empty one.
-/

namespace Diglot

namespace Variant

/-- No source set has two signatures. -/
def Functional (pairs : List (SourceSet × Signature)) : Prop :=
  ∀ s σ τ, (s, σ) ∈ pairs → (s, τ) ∈ pairs → σ = τ

namespace Groups

variable {pairs : List (SourceSet × Signature)} {variants : List Variant}

/-- Two variants with a common source set are the same. -/
theorem eq_of_shared (h : Groups pairs variants) (functional : Functional pairs)
    {v w : Variant} (hv : v ∈ variants) (hw : w ∈ variants) {s : SourceSet}
    (sv : s ∈ v.sourceSets) (sw : s ∈ w.sourceSets) : v = w := by
  have eq : v.signature = w.signature :=
    functional s _ _ ((h.members v hv s).mp sv) ((h.members w hw s).mp sw)
  exact h.eq_of_signature h hv hw eq

/-- Two variants with the same source sets are the same. -/
theorem eq_of_sourceSets (h : Groups pairs variants) (functional : Functional pairs)
    {v w : Variant} (hv : v ∈ variants) (hw : w ∈ variants)
    (eq : v.sourceSets = w.sourceSets) : v = w := by
  obtain ⟨s, mem⟩ := List.exists_mem_of_ne_nil _ (h.nonempty v hv)
  exact h.eq_of_shared functional hv hw mem (eq ▸ mem)

end Groups

/-! ## Sorting -/

/-- Sorting keeps the variants. -/
theorem sorted_perm (variants : List Variant) : (sorted variants).Perm variants :=
  List.mergeSort_perm _ _

/-- Sorting leaves nothing only of nothing. -/
theorem sorted_eq_nil_iff {variants : List Variant} : sorted variants = [] ↔ variants = [] := by
  have length := (sorted_perm variants).length_eq
  rw [← List.length_eq_zero_iff, length, List.length_eq_zero_iff]

/-- Sorted variants stand in the order of their source sets. -/
theorem pairwise_sorted (variants : List Variant) :
    (sorted variants).Pairwise fun v w =>
      (SourceSet.compareLists v.sourceSets w.sourceSets).isLE = true := by
  refine List.pairwise_mergeSort (fun u v w huv hvw => ?_) (fun v w => ?_) variants
  · exact Std.TransCmp.isLE_trans huv hvw
  · have swap : SourceSet.compareLists w.sourceSets v.sourceSets =
        (SourceSet.compareLists v.sourceSets w.sourceSets).swap := Std.OrientedCmp.eq_swap
    rw [swap]
    cases SourceSet.compareLists v.sourceSets w.sourceSets <;> rfl

namespace Groups

variable {pairs : List (SourceSet × Signature)} {variants : List Variant}

/-- Grouped variants stand in strictly increasing order when they are sorted. -/
theorem pairwise_lt (h : Groups pairs variants) (functional : Functional pairs) :
    (sorted variants).Pairwise fun v w =>
      SourceSet.compareLists v.sourceSets w.sourceSets = .lt := by
  have sorted := h.perm (sorted_perm variants).symm
  have nodup : (Variant.sorted variants).Nodup := List.Nodup.of_map _ sorted.distinct
  refine ((pairwise_sorted variants).and nodup).imp_of_mem ?_
  rintro v w hv hw ⟨le, ne⟩
  cases order : SourceSet.compareLists v.sourceSets w.sourceSets with
  | lt => rfl
  | eq =>
    exact absurd (sorted.eq_of_sourceSets functional hv hw (Std.LawfulEqCmp.eq_of_compare order)) ne
  | gt =>
    rw [order] at le
    cases le

/-- **Sorting is canonical**: the same pairs lead to the same list. -/
theorem sorted_eq {variants' : List Variant} (h : Groups pairs variants)
    (h' : Groups pairs variants') (functional : Functional pairs) :
    sorted variants = sorted variants' := by
  have perm : (sorted variants).Perm (sorted variants') :=
    (sorted_perm variants).trans ((h.unique h').trans (sorted_perm variants').symm)
  -- two strictly increasing lists that are permutations of each other are equal
  refine perm.eq_of_pairwise (fun v w _ _ lt gt => ?_) (h.pairwise_lt functional)
    (h'.pairwise_lt functional)
  have swap : SourceSet.compareLists w.sourceSets v.sourceSets =
      (SourceSet.compareLists v.sourceSets w.sourceSets).swap := Std.OrientedCmp.eq_swap
  rw [lt, gt] at swap
  cases swap

end Groups

end Variant

/-! ## Partitions -/

/-- The variants divide source sets among them by the signatures that `sign` gives
them, and both the variants and their source sets are listed in order. -/
structure IsPartition (sourceSets : List SourceSet)
    (sign : SourceSet → Except RenderError Signature) (all : List Variant) : Prop where
  /-- every variant has a source set -/
  nonempty : ∀ v ∈ all, v.sourceSets ≠ []
  /-- no source set is in two variants -/
  disjoint : all.Pairwise fun v w => ∀ s ∈ v.sourceSets, s ∉ w.sourceSets
  /-- the source sets of the variants are the given ones -/
  covers : ∀ s, (∃ v ∈ all, s ∈ v.sourceSets) ↔ s ∈ sourceSets
  /-- the signatures differ -/
  distinct : all.Pairwise fun v w => v.signature ≠ w.signature
  /-- a source set is in the variant with its own signature -/
  own : ∀ v ∈ all, ∀ s ∈ v.sourceSets, sign s = .ok v.signature
  /-- the source sets of a variant are in increasing order -/
  increasing : ∀ v ∈ all, SourceSet.Increasing v.sourceSets
  /-- the variants are in increasing order -/
  ordered : all.Pairwise fun v w => SourceSet.compareLists v.sourceSets w.sourceSets = .lt

/-- The pairs list every source set with the signature that `sign` gives it. -/
structure Signed (sourceSets : List SourceSet) (sign : SourceSet → Except RenderError Signature)
    (pairs : List (SourceSet × Signature)) : Prop where
  /-- all source sets are listed, and no others -/
  covers : ∀ s, (∃ σ, (s, σ) ∈ pairs) ↔ s ∈ sourceSets
  /-- with their signatures -/
  own : ∀ s σ, (s, σ) ∈ pairs → sign s = .ok σ

namespace Signed

variable {sourceSets : List SourceSet} {sign : SourceSet → Except RenderError Signature}
  {pairs : List (SourceSet × Signature)}

/-- A source set has one signature. -/
theorem functional (h : Signed sourceSets sign pairs) : Variant.Functional pairs := by
  intro s σ τ hσ hτ
  have eq := (h.own s σ hσ).symm.trans (h.own s τ hτ)
  injection eq

/-- All lists of signed source sets have the same members. -/
theorem mem_iff {pairs' : List (SourceSet × Signature)} (h : Signed sourceSets sign pairs)
    (h' : Signed sourceSets sign pairs') (pair : SourceSet × Signature) :
    pair ∈ pairs ↔ pair ∈ pairs' := by
  -- the source set is listed in both, and its signature is what `sign` gives it
  have sub : ∀ {list list' : List (SourceSet × Signature)}, Signed sourceSets sign list →
      Signed sourceSets sign list' → pair ∈ list → pair ∈ list' := by
    intro list list' h h' mem
    obtain ⟨s, σ⟩ := pair
    obtain ⟨τ, mem'⟩ := (h'.covers s).mpr ((h.covers s).mp ⟨σ, mem⟩)
    obtain rfl : σ = τ := by
      have eq := (h.own s σ mem).symm.trans (h'.own s τ mem')
      injection eq
    exact mem'
  exact ⟨sub h h', sub h' h⟩

/-- **The variants of signed source sets are a partition.** -/
theorem isPartition (h : Signed sourceSets sign pairs) {variants : List Variant}
    (groups : Variant.Groups pairs variants) :
    IsPartition sourceSets sign (Variant.sorted variants) := by
  have sorted := groups.perm (Variant.sorted_perm variants).symm
  have distinct := List.pairwise_map.mp sorted.distinct
  refine ⟨sorted.nonempty, ?_, fun s => ?_, distinct, ?_, sorted.increasing,
    groups.pairwise_lt h.functional⟩
  · refine distinct.imp_of_mem fun {v w} hv hw ne s sv sw => ?_
    exact ne (congrArg _ (sorted.eq_of_shared h.functional hv hw sv sw))
  · rw [← h.covers]
    constructor
    · rintro ⟨v, hv, mem⟩
      exact ⟨v.signature, (sorted.members v hv s).mp mem⟩
    · rintro ⟨σ, mem⟩
      obtain ⟨v, hv, rfl⟩ := List.mem_map.mp (sorted.complete _ mem)
      exact ⟨v, hv, (sorted.members v hv s).mpr mem⟩
  · exact fun v hv s mem => h.own s _ ((sorted.members v hv s).mp mem)

end Signed

/-! ## The primary variant -/

namespace Variants

/-- The position of the primary variant is that of some variant. -/
theorem primaryOf_lt {all : List Variant} (nonempty : all ≠ []) (common : Option SourceSet) :
    primaryOf common all < all.length := by
  have zero : 0 < all.length := List.length_pos_iff.mpr nonempty
  cases common with
  | none => exact zero
  | some c =>
    rw [primaryOf, Option.bind_some]
    cases found : all.findIdx? fun variant => variant.sourceSets.contains c with
    | none => exact zero
    | some i => exact (List.findIdx?_eq_some_iff_getElem.mp found).1

/-- Variants in any order are listed in their order, with the primary one marked. -/
theorem ofGroups?_eq_some_iff {common : Option SourceSet} {groups : List Variant}
    {variants : Variants} :
    ofGroups? common groups = some variants ↔
      groups ≠ [] ∧ variants.all = Variant.sorted groups ∧
        variants.primaryIndex.val = primaryOf common (Variant.sorted groups) := by
  rw [ofGroups?]
  constructor
  · intro h
    split at h
    · rename_i lt
      cases h
      refine ⟨fun e => ?_, rfl, rfl⟩
      rw [Variant.sorted_eq_nil_iff.mpr e] at lt
      exact absurd lt (Nat.not_lt_zero _)
    · cases h
  · rintro ⟨nonempty, all, index⟩
    have lt := primaryOf_lt (mt Variant.sorted_eq_nil_iff.mp nonempty) common
    rw [dif_pos lt]
    obtain ⟨list, i⟩ := variants
    cases all
    exact congrArg some (congrArg _ (Fin.ext index.symm))

/-- There is a primary variant unless there are no variants. -/
theorem exists_ofGroups? (common : Option SourceSet) {groups : List Variant}
    (nonempty : groups ≠ []) : ∃ variants, ofGroups? common groups = some variants := by
  have lt := primaryOf_lt (mt Variant.sorted_eq_nil_iff.mp nonempty) common
  exact ⟨⟨Variant.sorted groups, _, lt⟩, ofGroups?_eq_some_iff.mpr ⟨nonempty, rfl, rfl⟩⟩

/-- If there are no variants, there is no primary one. -/
theorem ofGroups?_nil (common : Option SourceSet) : ofGroups? common [] = none := by
  cases found : ofGroups? common [] with
  | none => rfl
  | some variants => exact absurd rfl (ofGroups?_eq_some_iff.mp found).1

/-- The primary variant of a partition has the common source set. -/
theorem mem_of_primaryOf {sourceSets : List SourceSet}
    {sign : SourceSet → Except RenderError Signature} {all : List Variant}
    (partition : IsPartition sourceSets sign all) {c : SourceSet} (mem : c ∈ sourceSets)
    (lt : primaryOf (some c) all < all.length) : c ∈ all[primaryOf (some c) all].sourceSets := by
  obtain ⟨v, hv, memV⟩ := (partition.covers c).mpr mem
  cases found : all.findIdx? fun variant => variant.sourceSets.contains c with
  | none =>
    have absent := List.findIdx?_eq_none_iff.mp found v hv
    rw [List.contains_iff_mem.mpr memV] at absent
    cases absent
  | some i =>
    obtain ⟨_, here, -⟩ := List.findIdx?_eq_some_iff_getElem.mp found
    have position : primaryOf (some c) all = i := by
      rw [primaryOf, Option.bind_some, found, Option.getD_some]
    simp only [position]
    exact List.contains_iff_mem.mp here

/-- The first variant of a partition has the first of all source sets. -/
theorem exists_first {sourceSets : List SourceSet}
    {sign : SourceSet → Except RenderError Signature} {v : Variant} {rest : List Variant}
    (partition : IsPartition sourceSets sign (v :: rest)) :
    ∃ first ∈ v.sourceSets, first ∈ sourceSets ∧
      ∀ s ∈ sourceSets, s ≠ first → SourceSet.compare first s = .lt := by
  obtain ⟨after, -⟩ := List.pairwise_cons.mp partition.ordered
  obtain ⟨apart, -⟩ := List.pairwise_cons.mp partition.disjoint
  cases own : v.sourceSets with
  | nil => exact absurd own (partition.nonempty v (List.mem_cons_self ..))
  | cons first others =>
    have mem : first ∈ v.sourceSets := own ▸ List.mem_cons_self ..
    refine ⟨first, List.mem_cons_self .., ?_, fun s memS other => ?_⟩
    · exact (partition.covers first).mp ⟨v, List.mem_cons_self .., mem⟩
    have increasing : ∀ w ∈ v :: rest, SourceSet.Increasing w.sourceSets := partition.increasing
    obtain ⟨w, hw, memW⟩ := (partition.covers s).mpr memS
    rcases List.mem_cons.mp hw with rfl | hw
    · have sorted := increasing w (List.mem_cons_self ..)
      rw [own] at sorted memW
      exact sorted.head_lt memW other
    · have sorted := increasing w (List.mem_cons_of_mem _ hw)
      have before := after w hw
      have absent := apart w hw first mem
      -- `w` begins with a source set after `first`, and `s` does not come before that
      cases begins : w.sourceSets with
      | nil =>
        rw [begins] at memW
        cases memW
      | cons head tail =>
        rw [own, begins] at before
        rw [begins] at sorted memW absent
        have different : first ≠ head := fun e => absent (e ▸ List.mem_cons_self ..)
        have lt := SourceSet.compare_lt_of_compareLists before different
        by_cases same : s = head
        · exact same ▸ lt
        · exact Std.TransCmp.lt_trans lt (sorted.head_lt memW same)

end Variants

end Diglot
