import Diglot.Proofs.Transparency

/-!
# Consolidating the source sets of a declaration

The variants of a declaration partition its source sets: there is one such list of variants,
and every rendering yields it, whichever source set is finished first and whatever else goes
on in the session. If there are no source sets, or if some signature fails, every rendering
yields a failure.

The primary variant is the one of the common source set, and if there is none it is the one of
the first source set. The source set that may stand for all of them is chosen separately, but
it is the common one where there is one.
-/

namespace Diglot

/-- In some session that begins with an empty memo, `r` is a rendering of the declaration. -/
structure Session.Renders (context : Context) (declaration : Declaration) (inSummary : Bool)
    (session : Session) (r : Rendering) : Prop where
  /-- the session has come about by steps -/
  reached : ∃ requests, Session.Reaches context (.start requests) session
  /-- the rendering is one of its calls -/
  mem : .rendering r ∈ session.calls
  /-- the declaration that is rendered -/
  declaration : r.declaration = declaration
  /-- without default values and visibility -/
  inSummary : r.inSummary = inSummary

section

variable {context : Context} {declaration : Declaration} {inSummary : Bool}

/-- A rendering in a session yields the variants of the declaration, or else some failure. -/
theorem Session.Renders.outcome {session : Session} {r : Rendering}
    (h : session.Renders context declaration inSummary r) {outcome : Except RenderError Variants}
    (yields : r.Yields outcome) (variants : Variants) :
    outcome = .ok variants ↔ variantsOf context declaration inSummary = .ok variants := by
  obtain ⟨⟨requests, reached⟩, mem, rfl, rfl⟩ := h
  exact (reached.sound.of_mem mem).of_rendering.outcome yields variants

/-- When there are no more steps, a rendering yields something. -/
theorem Session.Renders.exists_yields {session : Session} {r : Rendering}
    (h : session.Renders context declaration inSummary r)
    (stuck : session.Stuck context) : ∃ outcome, r.Yields outcome := by
  obtain ⟨-, result, outcome, yields, -⟩ := Session.over_of_stuck stuck _ h.mem
  exact ⟨outcome, yields⟩

/-- Every declaration is rendered in some session until there are no more steps. -/
theorem Session.exists_renders (context : Context) (declaration : Declaration)
    (inSummary : Bool) : ∃ (session : Session) (r : Rendering),
      session.Renders context declaration inSummary r ∧ session.Stuck context := by
  have start := Session.Sound.start context [.rendering declaration inSummary]
  obtain ⟨session, reached, stuck⟩ := start.exists_stuck
  have calls := reached.sound.isTransparent.calls
  obtain ⟨call, only, request⟩ := List.map_eq_singleton_iff.mp calls
  have mem : call ∈ session.calls := only ▸ List.mem_singleton.mpr rfl
  cases call with
  | conversion type thread => cases request
  | rendering r =>
    obtain ⟨same, summary⟩ := Request.rendering.inj request
    exact ⟨session, r, ⟨⟨_, reached⟩, mem, same, summary⟩, stuck⟩

/-- If a declaration has variants, some rendering yields them. -/
theorem exists_yields_of_variantsOf {variants : Variants}
    (found : variantsOf context declaration inSummary = .ok variants) :
    ∃ (session : Session) (r : Rendering), session.Renders context declaration inSummary r ∧
      r.Yields (.ok variants) := by
  obtain ⟨session, r, h, stuck⟩ := Session.exists_renders context declaration inSummary
  obtain ⟨outcome, yields⟩ := h.exists_yields stuck
  obtain rfl := (h.outcome yields variants).mpr found
  exact ⟨session, r, h, yields⟩

/-! ## Two renderings -/

/-- Two outcomes are both failures, not necessarily for the same reason, or they are results that
are related. -/
inductive Matching {α : Type} (R : α → α → Prop) :
    Except RenderError α → Except RenderError α → Prop where
  /-- both fail -/
  | fail (e e' : RenderError) : Matching R (.error e) (.error e')
  /-- both succeed -/
  | succeed {a b : α} (related : R a b) : Matching R (.ok a) (.ok b)

namespace Matching

variable {α : Type} {R : α → α → Prop}

/-- Results that match are related. -/
theorem related {a b : α} (h : Matching R (.ok a) (.ok b)) : R a b := by
  cases h with
  | succeed related => exact related

/-- Outcomes match if one succeeds exactly if the other does, and results are related. -/
theorem of_iff {first second : Except RenderError α}
    (together : (∃ a, first = .ok a) ↔ ∃ b, second = .ok b)
    (related : ∀ a b, first = .ok a → second = .ok b → R a b) : Matching R first second := by
  cases first with
  | ok a =>
    obtain ⟨b, rfl⟩ := together.mp ⟨a, rfl⟩
    exact .succeed (related a b rfl rfl)
  | error e =>
    cases second with
    | error e' => exact .fail e e'
    | ok b =>
      obtain ⟨a, found⟩ := together.mpr ⟨b, rfl⟩
      cases found

end Matching

/-- **Renderings match if their declarations do**, each rendered alone: it does not matter in
which sessions they are made. -/
theorem Session.Renders.matching {context context' : Context}
    {declaration declaration' : Declaration} {inSummary inSummary' : Bool}
    {session session' : Session} {r r' : Rendering}
    (h : session.Renders context declaration inSummary r)
    (h' : session'.Renders context' declaration' inSummary' r')
    {outcome outcome' : Except RenderError Variants} (yields : r.Yields outcome)
    (yields' : r'.Yields outcome') {R : Variants → Variants → Prop}
    (alone : Matching R (variantsOf context declaration inSummary)
      (variantsOf context' declaration' inSummary')) : Matching R outcome outcome' := by
  have same := h.outcome yields
  have same' := h'.outcome yields'
  generalize variantsOf context declaration inSummary = expected at alone same
  generalize variantsOf context' declaration' inSummary' = expected' at alone same'
  refine .of_iff ?_ fun variants variants' found found' => ?_
  · simp only [same, same']
    cases alone <;> simp
  · obtain rfl := (same variants).mp found
    obtain rfl := (same' variants').mp found'
    exact alone.related

/-! ## Partitions -/

/-- What renderings of a declaration yield is always as expected: they yield nothing else,
and something when there are no more steps, to which they do come. -/
structure Declaration.Yields (context : Context) (declaration : Declaration) (inSummary : Bool)
    (expected : Except RenderError Variants → Prop) : Prop where
  /-- they yield nothing else -/
  only : ∀ (session : Session) (r : Rendering) outcome,
    session.Renders context declaration inSummary r → r.Yields outcome → expected outcome
  /-- they yield something in the end -/
  returns : ∀ (session : Session) (r : Rendering),
    session.Renders context declaration inSummary r → session.Stuck context →
      ∃ outcome, r.Yields outcome
  /-- there is an end -/
  ends : ∃ (session : Session) (r : Rendering),
    session.Renders context declaration inSummary r ∧ session.Stuck context

/-- **Consolidation is exact.** If a declaration has source sets, and a signature in each
of them, all renderings yield the same variants, which partition the source sets; otherwise all
renderings yield failures. -/
theorem Declaration.consolidates (context : Context) (declaration : Declaration)
    (inSummary : Bool) :
    (declaration.sourceSets ≠ [] →
      (∀ s ∈ declaration.sourceSets, ∃ σ,
        signatureOf context declaration inSummary s = .ok σ) →
      ∃ variants : Variants,
        IsPartition declaration.sourceSets (signatureOf context declaration inSummary)
            variants.all ∧
          declaration.Yields context inSummary fun outcome => outcome = .ok variants) ∧
    (declaration.sourceSets = [] ∨
        (∃ s ∈ declaration.sourceSets, ∃ e,
          signatureOf context declaration inSummary s = .error e) →
      declaration.Yields context inSummary fun outcome => ∃ e, outcome = .error e) := by
  have returns : ∀ (session : Session) (r : Rendering),
      session.Renders context declaration inSummary r → session.Stuck context →
        ∃ outcome, r.Yields outcome :=
    fun session r h stuck => h.exists_yields stuck
  have ends := Session.exists_renders context declaration inSummary
  constructor
  · intro nonempty succeed
    obtain ⟨variants, found⟩ := exists_variantsOf nonempty succeed
    refine ⟨variants, isPartition_of_variantsOf found, ⟨?_, returns, ends⟩⟩
    exact fun session r outcome h yields => (h.outcome yields variants).mpr found
  · intro fails
    refine ⟨fun session r outcome h yields => ?_, returns, ends⟩
    cases outcome with
    | error e => exact ⟨e, rfl⟩
    | ok variants =>
      obtain ⟨nonempty, succeed⟩ := signed_of_variantsOf ((h.outcome yields variants).mp rfl)
      rcases fails with empty | ⟨s, mem, e, error⟩
      · exact absurd empty nonempty
      · obtain ⟨σ, ok⟩ := succeed s mem
        rw [error] at ok
        cases ok

/-- All renderings of `clockNow` yield the same variants. -/
theorem consolidates_clockNow :
    let context := Context.reference .kotlin {}
    ∃ variants : Variants,
      IsPartition clockNow.sourceSets (signatureOf context clockNow false) variants.all ∧
        clockNow.Yields context false fun outcome => outcome = .ok variants :=
  (clockNow.consolidates (Context.reference .kotlin {}) false).1 (by decide) clockNow_succeeds

/-! ## The primary variant -/

namespace Declaration

/-- A common source set is one of the declaration. -/
theorem mem_of_commonSourceSet? {c : SourceSet} (h : declaration.commonSourceSet? = some c) :
    c ∈ declaration.sourceSets := by
  rw [commonSourceSet?] at h
  rcases Option.or_eq_some_iff.mp h with expected | ⟨-, h⟩
  · obtain ⟨name, -, found⟩ := Option.bind_eq_some_iff.mp expected
    exact List.mem_of_find?_eq_some found
  rcases Option.or_eq_some_iff.mp h with shared | ⟨-, named⟩
  · split at shared
    · rename_i only common
      cases shared
      have mem : c ∈ declaration.sourceSets.filter (·.platform = .common) :=
        common ▸ List.mem_singleton.mpr rfl
      exact List.mem_of_mem_filter mem
    · cases shared
  · exact List.mem_of_find?_eq_some named

/-- A source set that stands for all is the common one, if there is one. -/
theorem mainSourceSet?_of_commonSourceSet? {c : SourceSet}
    (h : declaration.commonSourceSet? = some c) : declaration.mainSourceSet? = some c := by
  have mem := mem_of_commonSourceSet? h
  rw [mainSourceSet?]
  split
  · rename_i only eq
    rw [eq] at mem
    rw [List.mem_singleton.mp mem]
  · rw [h, Option.some_or]

/-- The source set that stands for all is one of the declaration. -/
theorem mem_of_mainSourceSet? {main : SourceSet} (h : declaration.mainSourceSet? = some main) :
    main ∈ declaration.sourceSets := by
  rw [mainSourceSet?] at h
  split at h
  · rename_i only eq
    cases h
    exact eq ▸ List.mem_singleton.mpr rfl
  rcases Option.or_eq_some_iff.mp h with common | ⟨-, h⟩
  · exact mem_of_commonSourceSet? common
  rcases Option.or_eq_some_iff.mp h with fallback | ⟨-, head⟩
  · obtain ⟨name, -, found⟩ := List.exists_of_findSome?_eq_some fallback
    exact List.mem_of_find?_eq_some found
  · exact List.mem_of_head? head

/-- No source set stands for all only if the declaration is in no source set. -/
theorem mainSourceSet?_eq_none_iff :
    declaration.mainSourceSet? = none ↔ declaration.sourceSets = [] := by
  constructor
  · intro none
    rw [mainSourceSet?] at none
    split at none
    · cases none
    obtain ⟨-, rest⟩ := Option.or_eq_none_iff.mp none
    obtain ⟨-, head⟩ := Option.or_eq_none_iff.mp rest
    exact List.head?_eq_none_iff.mp head
  · intro empty
    cases main : declaration.mainSourceSet? with
    | none => rfl
    | some s =>
      have mem := mem_of_mainSourceSet? main
      rw [empty] at mem
      cases mem

/-- **The primary variant** has the common source set, and if there is none it has the first
one. -/
theorem mem_primary_of_variantsOf {variants : Variants}
    (found : variantsOf context declaration inSummary = .ok variants) :
    variants.primaryIndex.val = Variants.primaryOf declaration.commonSourceSet? variants.all ∧
      (∀ c, declaration.commonSourceSet? = some c → c ∈ variants.primary.sourceSets) ∧
        (declaration.commonSourceSet? = none → ∃ first ∈ variants.primary.sourceSets,
          first ∈ declaration.sourceSets ∧
            ∀ s ∈ declaration.sourceSets, s ≠ first → SourceSet.compare first s = .lt) := by
  have partition := isPartition_of_variantsOf found
  obtain ⟨pairs, -, grouped⟩ := exists_signed_of_variantsOf found
  obtain ⟨-, sorted, position⟩ := Variants.ofGroups?_eq_some_iff.mp grouped
  rw [← sorted] at position
  refine ⟨position, ?_⟩
  obtain ⟨all, index, lt⟩ := variants
  change index = Variants.primaryOf declaration.commonSourceSet? all at position
  subst position
  constructor
  · intro c common
    simp only [common] at lt ⊢
    exact Variants.mem_of_primaryOf partition (mem_of_commonSourceSet? common) lt
  · intro none
    cases all with
    | nil => exact absurd lt (Nat.not_lt_zero _)
    | cons v rest =>
      have primary : (Variants.mk (v :: rest) ⟨_, lt⟩).primary = v := by
        simp [Variants.primary, Variants.primaryOf, none]
      rw [primary]
      exact Variants.exists_first partition

/-- **The primary variant is well chosen**, in whatever order the source sets are rendered.
The source set that stands for all of them is the common one where there is one, and there is
always some, unless the declaration is in no source set. -/
theorem primary_chosen (context : Context) (declaration : Declaration) (inSummary : Bool) :
    (∀ (session : Session) (r : Rendering) (variants : Variants),
      session.Renders context declaration inSummary r → r.Yields (.ok variants) →
        (variants.primaryIndex.val =
            Variants.primaryOf declaration.commonSourceSet? variants.all ∧
          Variants.primaryOf declaration.commonSourceSet? variants.all < variants.all.length) ∧
        (∀ c, declaration.commonSourceSet? = some c →
          c ∈ variants.primary.sourceSets ∧ declaration.mainSourceSet? = some c) ∧
        (declaration.commonSourceSet? = none → ∃ first ∈ variants.primary.sourceSets,
          first ∈ declaration.sourceSets ∧
            ∀ s ∈ declaration.sourceSets, s ≠ first → SourceSet.compare first s = .lt)) ∧
    (declaration.sourceSets ≠ [] →
      ∃ main ∈ declaration.sourceSets, declaration.mainSourceSet? = some main) ∧
    (declaration.mainSourceSet? = none ↔ declaration.sourceSets = []) := by
  refine ⟨fun session r variants h yields => ?_, fun nonempty => ?_, mainSourceSet?_eq_none_iff⟩
  · have found := (h.outcome yields variants).mp rfl
    obtain ⟨position, common, first⟩ := mem_primary_of_variantsOf found
    refine ⟨⟨position, position ▸ variants.primaryIndex.isLt⟩, fun c eq => ?_, first⟩
    exact ⟨common c eq, mainSourceSet?_of_commonSourceSet? eq⟩
  · cases main : declaration.mainSourceSet? with
    | none => exact absurd (mainSourceSet?_eq_none_iff.mp main) nonempty
    | some s => exact ⟨s, mem_of_mainSourceSet? main, rfl⟩

/-- Without a common source set, `clockNow` has the first one in its primary variant. -/
theorem primary_chosen_clockNow :
    let context := Context.reference .kotlin {}
    ∃ (session : Session) (r : Rendering) (variants : Variants),
      session.Renders context clockNow false r ∧ r.Yields (.ok variants) ∧
        ∃ first ∈ variants.primary.sourceSets, first ∈ clockNow.sourceSets ∧
          ∀ s ∈ clockNow.sourceSets, s ≠ first → SourceSet.compare first s = .lt := by
  intro context
  obtain ⟨variants, found⟩ := exists_variantsOf (by decide) clockNow_succeeds
  obtain ⟨session, r, h, yields⟩ := exists_yields_of_variantsOf found
  have chosen := (primary_chosen context clockNow false).1 session r variants h yields
  exact ⟨session, r, variants, h, yields, chosen.2.2 (by decide)⟩

end Declaration

end

end Diglot
