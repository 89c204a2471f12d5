import Diglot.Proofs.SourceSetNames
import Diglot.Proofs.Texts

/-!
# The order in which source sets are listed

Listing the source sets of a declaration in another order changes nothing about the variants
that they are grouped into. The primary variant is that of the common source set, and where
several source sets may be the common one, it is the first of them that is listed.

* `Declaration.mayBeCommon`, `Declaration.commonSourceSet?_eq` — one search in place of three.
* `Declaration.exists_perm_commonSourceSet?` — each that may be the common one is so in some
  order.
* `all_perm`, `variants_perm` — what does not depend on the order.
* `Declaration.listing_order` — when the primary variant does. Several source sets may have the
  name of the `expect` declaration, but then they have the same signature; it is among those that
  merely have a name for common code that the order decides.
-/

namespace Diglot

/-! ## The common source set -/

/-- Whether a source set has a name for common code. -/
def SourceSet.hasCommonName (s : SourceSet) : Bool :=
  Text.sameIgnoringCase s.name "common" || Text.sameIgnoringCase s.name "commonMain"

namespace Declaration

/-- Whether a source set has the `expect` declaration, by its name. -/
def isExpectedIn (declaration : Declaration) (s : SourceSet) : Bool :=
  declaration.expectIn = some s.name

/-- Whether the common source set is known by more than a name for common code: there is one with
the `expect` declaration, or exactly one for the common platform. -/
def isCommonDecided (declaration : Declaration) : Bool :=
  declaration.sourceSets.any declaration.isExpectedIn ||
    declaration.sourceSets.countP (·.platform = .common) = 1

/-- Whether a source set may be marked as the common one; of several, the first that is listed
is. -/
def mayBeCommon (declaration : Declaration) (s : SourceSet) : Bool :=
  if declaration.sourceSets.any declaration.isExpectedIn then declaration.isExpectedIn s
  else if declaration.sourceSets.countP (·.platform = .common) = 1 then s.platform = .common
  else s.hasCommonName

/-- The source set with the `expect` declaration, if it is listed. -/
theorem find?_isExpectedIn (declaration : Declaration) :
    (declaration.expectIn.bind fun name => declaration.sourceSets.find? (·.name = name)) =
      declaration.sourceSets.find? declaration.isExpectedIn := by
  cases expected : declaration.expectIn with
  | none =>
    refine (List.find?_eq_none.mpr fun s _ => ?_).symm
    simp [isExpectedIn, expected]
  | some name =>
    rw [Option.bind_some]
    congr 1
    funext s
    simp [isExpectedIn, expected, eq_comm]

/-- **The common source set** is the first that may be it. -/
theorem commonSourceSet?_eq (declaration : Declaration) :
    declaration.commonSourceSet? = declaration.sourceSets.find? declaration.mayBeCommon := by
  rw [commonSourceSet?, find?_isExpectedIn]
  by_cases expected : declaration.sourceSets.any declaration.isExpectedIn = true
  · have first : (declaration.sourceSets.find? declaration.isExpectedIn).isSome = true :=
      List.find?_isSome.mpr (List.any_eq_true.mp expected)
    obtain ⟨s, found⟩ := Option.isSome_iff_exists.mp first
    have same : declaration.mayBeCommon = declaration.isExpectedIn := by
      funext t
      rw [mayBeCommon, if_pos expected]
    rw [same, found, Option.some_or]
  have none : declaration.sourceSets.find? declaration.isExpectedIn = none := by
    rw [List.find?_eq_none]
    exact fun s mem marked => expected (List.any_eq_true.mpr ⟨s, mem, marked⟩)
  rw [none, Option.none_or]
  by_cases single : declaration.sourceSets.countP (·.platform = .common) = 1
  · have same : declaration.mayBeCommon = fun s => decide (s.platform = .common) := by
      funext t
      rw [mayBeCommon, if_neg expected, if_pos single]
    rw [List.countP_eq_length_filter] at single
    obtain ⟨only, shared⟩ := List.length_eq_one_iff.mp single
    have first : declaration.sourceSets.find? (fun s => decide (s.platform = .common)) =
        some only := by
      rw [← List.head?_filter, shared, List.head?_cons]
    rw [same, first, shared]
    rfl
  · have same : declaration.mayBeCommon = SourceSet.hasCommonName := by
      funext t
      rw [mayBeCommon, if_neg expected, if_neg single]
    rw [same]
    split
    · rename_i only shared
      rw [List.countP_eq_length_filter, shared] at single
      exact absurd rfl single
    · rfl

/-! ### In another order -/

section

variable {declaration : Declaration} {list : List SourceSet}

/-- Which source sets may be the common one does not depend on the order. -/
theorem mayBeCommon_perm (perm : declaration.sourceSets.Perm list) :
    { declaration with sourceSets := list }.mayBeCommon = declaration.mayBeCommon := by
  have any : list.any declaration.isExpectedIn =
      declaration.sourceSets.any declaration.isExpectedIn := perm.symm.any_eq
  have count := perm.countP_eq fun s : SourceSet => decide (s.platform = .common)
  funext s
  simp only [mayBeCommon]
  change (if list.any declaration.isExpectedIn then _ else _) = _
  rw [any, ← count]
  rfl

/-- Each of those that may be the common one is so in some order. -/
theorem exists_perm_commonSourceSet? {c : SourceSet} (mem : c ∈ declaration.sourceSets)
    (common : declaration.mayBeCommon c = true) :
    ∃ list, declaration.sourceSets.Perm list ∧
      { declaration with sourceSets := list }.commonSourceSet? = some c := by
  have perm := List.perm_cons_erase mem
  refine ⟨_, perm, ?_⟩
  rw [commonSourceSet?_eq, mayBeCommon_perm perm]
  exact List.find?_cons_of_pos common

end

end Declaration

/-! ## Variants -/

/-- Predicates that agree on a list have the same first position in it. -/
theorem findIdx?_congr {α : Type} {list : List α} {p q : α → Bool} (same : ∀ a ∈ list, p a = q a) :
    list.findIdx? p = list.findIdx? q := by
  induction list with
  | nil => rfl
  | cons first rest ih =>
    rw [List.findIdx?_cons, List.findIdx?_cons, same first (List.mem_cons_self ..),
      ih fun a mem => same a (List.mem_cons_of_mem _ mem)]

/-- Variants are determined by the list and by the position of the primary one. -/
theorem Variants.eq_of_all {variants variants' : Variants} (all : variants.all = variants'.all)
    (index : variants.primaryIndex.val = variants'.primaryIndex.val) : variants = variants' := by
  obtain ⟨list, i⟩ := variants
  obtain ⟨list', i'⟩ := variants'
  obtain rfl : list = list' := all
  exact congrArg _ (Fin.ext index)

namespace IsPartition

variable {sourceSets : List SourceSet} {sign : SourceSet → Except RenderError Signature}
  {all : List Variant}

/-- A source set is in a variant exactly if it has its signature. -/
theorem mem_iff (h : IsPartition sourceSets sign all) {v : Variant} (hv : v ∈ all)
    {s : SourceSet} (mem : s ∈ sourceSets) : s ∈ v.sourceSets ↔ sign s = .ok v.signature := by
  refine ⟨h.own v hv s, fun signed => ?_⟩
  obtain ⟨w, hw, memW, eq⟩ := h.exists_variant mem signed
  exact h.eq_of_signature hw hv eq ▸ memW

/-- Source sets with the same signature mark the same variant as the primary one. -/
theorem primaryOf_eq (h : IsPartition sourceSets sign all) {s t : SourceSet}
    (hs : s ∈ sourceSets) (ht : t ∈ sourceSets) (same : sign s = sign t) :
    Variants.primaryOf (some s) all = Variants.primaryOf (some t) all := by
  have contains : ∀ v ∈ all, v.sourceSets.contains s = v.sourceSets.contains t := by
    intro v hv
    rw [Bool.eq_iff_iff, List.contains_iff_mem, List.contains_iff_mem, h.mem_iff hv hs,
      h.mem_iff hv ht, same]
  unfold Variants.primaryOf
  rw [Option.bind_some, Option.bind_some, findIdx?_congr contains]

end IsPartition

section

variable {context : Context} {declaration : Declaration} {inSummary : Bool}
  {list : List SourceSet}

/-- **Grouping does not depend on the order** in which source sets are listed. -/
theorem all_perm (perm : declaration.sourceSets.Perm list) {variants variants' : Variants}
    (found : variantsOf context declaration inSummary = .ok variants)
    (found' : variantsOf context { declaration with sourceSets := list } inSummary =
      .ok variants') : variants.all = variants'.all := by
  obtain ⟨pairs, signed, grouped⟩ := exists_signed_of_variantsOf found
  obtain ⟨pairs', ⟨covers, own⟩, grouped'⟩ := exists_signed_of_variantsOf found'
  have signed' : Signed declaration.sourceSets (signatureOf context declaration inSummary) pairs' :=
    ⟨fun s => (covers s).trans perm.mem_iff.symm, own⟩
  have groups := Variant.Groups.group pairs
  have groups' := (Variant.Groups.group pairs').of_mem_iff (signed'.mem_iff signed)
  obtain ⟨-, all, -⟩ := Variants.ofGroups?_eq_some_iff.mp grouped
  obtain ⟨-, all', -⟩ := Variants.ofGroups?_eq_some_iff.mp grouped'
  rw [all, all']
  exact groups.sorted_eq groups' signed.functional

/-- The variants, and which of them is the primary one, do not depend on the order in which source
sets are listed, if all source sets that may be the common one have the same signature. -/
theorem variants_perm (perm : declaration.sourceSets.Perm list) {variants variants' : Variants}
    (found : variantsOf context declaration inSummary = .ok variants)
    (found' : variantsOf context { declaration with sourceSets := list } inSummary =
      .ok variants')
    (agree : ∀ s ∈ declaration.sourceSets, ∀ t ∈ declaration.sourceSets,
      declaration.mayBeCommon s = true → declaration.mayBeCommon t = true →
        signatureOf context declaration inSummary s =
          signatureOf context declaration inSummary t) : variants = variants' := by
  have all := all_perm perm found found'
  obtain ⟨position, -⟩ := Declaration.mem_primary_of_variantsOf found
  obtain ⟨position', -⟩ := Declaration.mem_primary_of_variantsOf found'
  have partition := isPartition_of_variantsOf found
  refine Variants.eq_of_all all ?_
  rw [position, position', ← all, Declaration.commonSourceSet?_eq, Declaration.commonSourceSet?_eq,
    Declaration.mayBeCommon_perm perm]
  change Variants.primaryOf (declaration.sourceSets.find? _) _ =
    Variants.primaryOf (list.find? _) _
  have none : declaration.sourceSets.find? declaration.mayBeCommon = none ↔
      list.find? declaration.mayBeCommon = none := by
    simp only [List.find?_eq_none, perm.mem_iff]
  cases first : declaration.sourceSets.find? declaration.mayBeCommon with
  | none => rw [none.mp first]
  | some s =>
    cases first' : list.find? declaration.mayBeCommon with
    | none =>
      rw [none.mpr first'] at first
      cases first
    | some t =>
      have hs := List.mem_of_find?_eq_some first
      have ht := perm.mem_iff.mpr (List.mem_of_find?_eq_some first')
      exact partition.primaryOf_eq hs ht
        (agree s hs t ht (List.find?_some first) (List.find?_some first'))

/-- With source sets listed in another order, a declaration has variants if it has some. -/
theorem exists_variantsOf_perm_iff (perm : declaration.sourceSets.Perm list) :
    (∃ variants, variantsOf context declaration inSummary = .ok variants) ↔
      ∃ variants, variantsOf context { declaration with sourceSets := list } inSummary =
        .ok variants := by
  rw [exists_variantsOf_iff, exists_variantsOf_iff]
  refine and_congr ?_ (forall_congr' fun s => ?_)
  · rw [ne_eq, ne_eq, ← List.length_eq_zero_iff, ← List.length_eq_zero_iff, perm.length_eq]
  · rw [perm.mem_iff]
    rfl

namespace Declaration

/-- Source sets that may be the common one have the same signature if they are told by their
names or by their platforms. -/
theorem signatureOf_of_isCommonDecided (context : Context) (inSummary : Bool)
    (decided : declaration.isCommonDecided = true) :
    ∀ s ∈ declaration.sourceSets, ∀ t ∈ declaration.sourceSets,
      declaration.mayBeCommon s = true → declaration.mayBeCommon t = true →
        signatureOf context declaration inSummary s =
          signatureOf context declaration inSummary t := by
  intro s hs t ht common common'
  unfold mayBeCommon at common common'
  split at common
  · rename_i expected
    rw [if_pos expected] at common'
    have named := (of_decide_eq_true common).symm.trans (of_decide_eq_true common')
    exact signatureOf_sourceSet context (Option.some.inj named) declaration inSummary
  · rename_i unexpected
    rw [if_neg unexpected] at common'
    split at common
    · rename_i single
      rw [if_pos single] at common'
      rw [List.countP_eq_length_filter] at single
      obtain ⟨only, shared⟩ := List.length_eq_one_iff.mp single
      have only_of_common : ∀ u ∈ declaration.sourceSets, u.platform = .common → u = only := by
        intro u mem platform
        have memShared : u ∈ declaration.sourceSets.filter (·.platform = .common) :=
          List.mem_filter.mpr ⟨mem, decide_eq_true platform⟩
        rwa [shared, List.mem_singleton] at memShared
      rw [only_of_common s hs (of_decide_eq_true common),
        only_of_common t ht (of_decide_eq_true common')]
    · rename_i several
      simp [isCommonDecided, several, unexpected] at decided

/-- Renderings of a declaration match renderings in which its source sets are listed in another
order. -/
def InAnyOrder (context : Context) (declaration : Declaration) (inSummary : Bool)
    (R : Variants → Variants → Prop) : Prop :=
  ∀ list, declaration.sourceSets.Perm list →
    ∀ (session session' : Session) (r r' : Rendering) outcome outcome',
      session.Renders context declaration inSummary r →
      session'.Renders context { declaration with sourceSets := list } inSummary r' →
      r.Yields outcome → r'.Yields outcome' → Matching R outcome outcome'

/-- Renderings match in any order if the variants of the declaration are related in any order. -/
theorem InAnyOrder.of_variantsOf {R : Variants → Variants → Prop}
    (related : ∀ list, declaration.sourceSets.Perm list → ∀ variants variants',
      variantsOf context declaration inSummary = .ok variants →
      variantsOf context { declaration with sourceSets := list } inSummary = .ok variants' →
        R variants variants') : declaration.InAnyOrder context inSummary R := by
  intro list perm session session' r r' outcome outcome' h h' yields yields'
  refine h.matching h' yields yields' ?_
  exact .of_iff (exists_variantsOf_perm_iff perm) (related list perm)

/-- If a source set may be the common one, it has the primary variant in any order. -/
theorem InAnyOrder.mem_primary (same : declaration.InAnyOrder context inSummary Eq)
    {variants : Variants} (found : variantsOf context declaration inSummary = .ok variants)
    {c : SourceSet} (mem : c ∈ declaration.sourceSets) (common : declaration.mayBeCommon c = true) :
    c ∈ variants.primary.sourceSets := by
  -- in some order it is listed first
  obtain ⟨list, perm, marked⟩ := exists_perm_commonSourceSet? mem common
  obtain ⟨variants', found'⟩ := (exists_variantsOf_perm_iff perm).mp ⟨variants, found⟩
  obtain ⟨session, r, h, yields⟩ := exists_yields_of_variantsOf found
  obtain ⟨session', r', h', yields'⟩ := exists_yields_of_variantsOf found'
  obtain rfl := (same list perm session session' r r' _ _ h h' yields yields').related
  obtain ⟨-, primary, -⟩ := mem_primary_of_variantsOf found'
  exact primary c marked

/-- **The order in which source sets are listed** decides nothing about grouping. It decides about
the primary variant exactly if source sets that may be the common one have different signatures;
this cannot be where there is one with the `expect` declaration, or exactly one for the common
platform. -/
theorem listing_order (context : Context) (declaration : Declaration) (inSummary : Bool) :
    declaration.InAnyOrder context inSummary (fun variants variants' =>
      variants.all = variants'.all) ∧
    (declaration.isCommonDecided = true → declaration.InAnyOrder context inSummary Eq) ∧
    ∀ variants, variantsOf context declaration inSummary = .ok variants →
      (declaration.InAnyOrder context inSummary Eq ↔
        ∀ s ∈ declaration.sourceSets, ∀ t ∈ declaration.sourceSets,
          declaration.mayBeCommon s = true → declaration.mayBeCommon t = true →
            signatureOf context declaration inSummary s =
              signatureOf context declaration inSummary t) := by
  refine ⟨.of_variantsOf fun list perm variants variants' => all_perm perm, fun decided => ?_,
    fun variants found => ⟨fun same s hs t ht common common' => ?_, fun agree => ?_⟩⟩
  · have agree := signatureOf_of_isCommonDecided context inSummary decided
    exact .of_variantsOf fun list perm variants variants' found found' =>
      variants_perm perm found found' agree
  · have partition := isPartition_of_variantsOf found
    have own := partition.own variants.primary (List.getElem_mem _)
    rw [own s (same.mem_primary found hs common), own t (same.mem_primary found ht common')]
  · exact .of_variantsOf fun list perm variants variants' found found' =>
      variants_perm perm found found' agree

/-- A function in two source sets with names for common code, neither of which is for the common
platform. -/
def clockActual : Declaration where
  identity := ⟨"com.example", some "Clock", some "now"⟩
  name := "now"
  sourceSets := [⟨.js, "commonMain"⟩, ⟨.jvm, "common"⟩]
  container := .package
  modifiers := .insert ∅ "commonMain" [.actual]
  detail := .function
    { returnType := .classRef ⟨.ofClass "kotlin" "Long", none, ∅, .generic⟩ [] }

/-- The source sets of `clockActual` differ, and the one that is listed first has the primary
variant; with an `expect` declaration in one of them the order does not matter. -/
theorem listing_order_clockActual :
    let context := Context.reference .kotlin {}
    ∃ variants, variantsOf context clockActual false = .ok variants ∧
      clockActual.InAnyOrder context false (fun variants variants' =>
        variants.all = variants'.all) ∧
      ¬ clockActual.InAnyOrder context false Eq ∧
      { clockActual with expectIn := some "common" }.InAnyOrder context false Eq := by
  intro context
  have ok : ∀ s ∈ clockActual.sourceSets, (signatureOf context clockActual false s).isOk := by
    decide +kernel
  obtain ⟨variants, found⟩ :=
    exists_variantsOf (by decide) fun s mem => exists_of_isOk _ (ok s mem)
  obtain ⟨grouped, -, same⟩ := listing_order context clockActual false
  obtain ⟨-, decided, -⟩ :=
    listing_order context { clockActual with expectIn := some "common" } false
  refine ⟨variants, found, grouped, fun order => ?_, decided (by decide +kernel)⟩
  have agree := (same variants found).mp order ⟨.js, "commonMain"⟩ (by decide)
    ⟨.jvm, "common"⟩ (by decide) (by decide +kernel) (by decide +kernel)
  have differ : (match signatureOf context clockActual false ⟨.js, "commonMain"⟩,
      signatureOf context clockActual false ⟨.jvm, "common"⟩ with
    | .ok σ, .ok τ => decide (σ ≠ τ)
    | _, _ => false) = true := by decide +kernel
  obtain ⟨τ, signed⟩ := exists_of_isOk _ (ok ⟨.jvm, "common"⟩ (by decide))
  rw [agree, signed] at differ
  exact of_decide_eq_true differ rfl

end Declaration

end

end Diglot
