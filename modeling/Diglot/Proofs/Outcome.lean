import Diglot.Proofs.Interleaving
import Diglot.Proofs.Partition

/-!
# What renderings come to

`signatureOf` and `variantsOf` render without a memo: they convert on the spot. This module
compares everything else with them.

* A declaration with all its source sets entered has the variants of `variantsOf`, in
  whatever order they were entered (`Rendering.Sound.outcome`); one with a failure among its
  signatures has none there either.
* A program that runs alone, from any exact memo, comes to the same (`Program.run_sound`), and
  so do the calls of a `Renderer`.
-/

namespace Diglot

/-- The signature of a declaration in a source set, without a memo. -/
def signatureOf (context : Context) (declaration : Declaration) (inSummary : Bool)
    (s : SourceSet) : Except RenderError Signature :=
  renderSignature context declaration s inSummary

/-- The variants of a declaration, without a memo. -/
def variantsOf (context : Context) (declaration : Declaration) (inSummary : Bool) :
    Except RenderError Variants :=
  renderVariants context declaration inSummary

/-! ## Lists of outcomes -/

section

variable {α β : Type} {f : α → Except RenderError β}

/-- Lists come to the same if their members do. -/
theorem mapM'_congr {list : List α} {g : α → Except RenderError β}
    (same : ∀ a ∈ list, f a = g a) : list.mapM' f = list.mapM' g := by
  induction list with
  | nil => rfl
  | cons first rest ih =>
    rw [List.mapM'_cons, List.mapM'_cons, same first (List.mem_cons_self ..),
      ih fun a mem => same a (List.mem_cons_of_mem _ mem)]

/-- Results may be changed one by one or all together. -/
theorem mapM'_map {γ : Type} (g : β → γ) (list : List α) :
    (list.mapM' fun a => g <$> f a) = List.map g <$> list.mapM' f := by
  induction list with
  | nil => rfl
  | cons first rest ih => simp [List.mapM'_cons, ih]

/-- A list succeeds if every member does, with what its members come to. -/
theorem mapM'_eq_ok_iff {list : List α} {results : List β} :
    list.mapM' f = .ok results ↔ list.map f = results.map Except.ok := by
  induction list generalizing results with
  | nil => cases results <;> simp [List.mapM'_nil, Pure.pure, Except.pure]
  | cons a rest ih =>
    rw [List.mapM'_cons, List.map_cons]
    cases first : f a with
    | error e => cases results <;> simp [Bind.bind, Except.bind]
    | ok b =>
      cases others : rest.mapM' f with
      | error e =>
        -- no list of results would do for the others
        have none : ∀ bs : List β, ¬ rest.map f = bs.map Except.ok := fun bs h => by
          rw [ih.mpr h] at others
          cases others
        cases results <;> simp [Bind.bind, Except.bind, none]
      | ok bs =>
        have all := ih.mp others
        cases results with
        | nil => simp [Bind.bind, Except.bind, Pure.pure, Except.pure]
        | cons b' bs' =>
          have inj : bs.map (Except.ok (ε := RenderError)) = bs'.map Except.ok ↔ bs = bs' :=
            List.map_inj_right fun _ _ h => Except.ok.inj h
          simp [Bind.bind, Except.bind, Pure.pure, Except.pure, all, inj]

/-- What fails, fails as one of the members does. -/
theorem exists_of_mapM'_eq_error {list : List α} {e : RenderError}
    (fails : list.mapM' f = .error e) : ∃ a ∈ list, f a = .error e := by
  induction list with
  | nil => cases fails
  | cons a rest ih =>
    rw [List.mapM'_cons] at fails
    cases first : f a with
    | error e' =>
      rw [first] at fails
      cases fails
      exact ⟨a, List.mem_cons_self .., first⟩
    | ok b =>
      cases others : rest.mapM' f with
      | error e' =>
        rw [first, others] at fails
        cases fails
        obtain ⟨a', mem, fails⟩ := ih others
        exact ⟨a', List.mem_cons_of_mem _ mem, fails⟩
      | ok bs =>
        rw [first, others] at fails
        cases fails

/-- If all succeeds, members of the list and members of the results belong together. -/
theorem mem_of_mapM'_eq_ok {list : List α} {results : List β}
    (all : list.mapM' f = .ok results) :
    (∀ a ∈ list, ∃ b ∈ results, f a = .ok b) ∧ ∀ b ∈ results, ∃ a ∈ list, f a = .ok b := by
  have same := mapM'_eq_ok_iff.mp all
  constructor
  · intro a mem
    have mem' : f a ∈ results.map Except.ok := same ▸ List.mem_map_of_mem mem
    obtain ⟨b, memB, eq⟩ := List.mem_map.mp mem'
    exact ⟨b, memB, eq.symm⟩
  · intro b mem
    have mem' : .ok b ∈ list.map f := same ▸ List.mem_map_of_mem mem
    exact List.mem_map.mp mem'

/-- A list fails if one of its members does. -/
theorem exists_mapM'_eq_error {list : List α} {a : α} (mem : a ∈ list) {e : RenderError}
    (fails : f a = .error e) : ∃ e', list.mapM' f = .error e' := by
  cases all : list.mapM' f with
  | error e' => exact ⟨e', rfl⟩
  | ok results =>
    obtain ⟨b, -, ok⟩ := (mem_of_mapM'_eq_ok all).1 a mem
    rw [fails] at ok
    cases ok

end

/-! ## Declarations -/

section

variable {context : Context} {declaration : Declaration} {inSummary : Bool}

/-- A source set with its signature, without a memo. -/
def signedIn (context : Context) (declaration : Declaration) (inSummary : Bool)
    (s : SourceSet) : Except RenderError (SourceSet × Signature) :=
  (signatureOf context declaration inSummary s).map (Prod.mk s)

/-- The source set stays with its signature. -/
theorem signedIn_eq_ok_iff {s s' : SourceSet} {σ : Signature} :
    signedIn context declaration inSummary s = .ok (s', σ) ↔
      s = s' ∧ signatureOf context declaration inSummary s = .ok σ := by
  rw [signedIn]
  cases signatureOf context declaration inSummary s with
  | error e => simp [Except.map]
  | ok τ => simp [Except.map]

/-- The source sets are rendered, and what comes of it is grouped. -/
theorem variantsOf_eq : variantsOf context declaration inSummary =
    (declaration.sourceSets.mapM' (signedIn context declaration inSummary)).bind fun pairs =>
      match Variants.ofPairs? declaration.commonSourceSet? pairs with
      | some variants => .ok variants
      | none => .error (.noSourceSets declaration.identity) := by
  have signed : (fun s => do
      let signature ← renderSignature context declaration s inSummary
      pure (s, signature)) = signedIn context declaration inSummary := by
    funext s
    rw [bind_pure_comp]
    rfl
  rw [variantsOf, renderVariants, signed]
  rfl

/-- If all source sets are rendered, each of them is listed with its signature. -/
theorem signed_of_mapM' {sourceSets : List SourceSet} {pairs : List (SourceSet × Signature)}
    (all : sourceSets.mapM' (signedIn context declaration inSummary) = .ok pairs) :
    Signed sourceSets (signatureOf context declaration inSummary) pairs := by
  obtain ⟨there, back⟩ := mem_of_mapM'_eq_ok all
  refine ⟨fun s => ⟨?_, fun mem => ?_⟩, fun s σ mem => ?_⟩
  · rintro ⟨σ, mem⟩
    obtain ⟨s', memS, ok⟩ := back _ mem
    obtain ⟨rfl, -⟩ := signedIn_eq_ok_iff.mp ok
    exact memS
  · obtain ⟨⟨s', σ⟩, memPair, ok⟩ := there s mem
    obtain ⟨rfl, -⟩ := signedIn_eq_ok_iff.mp ok
    exact ⟨σ, memPair⟩
  · obtain ⟨s', -, ok⟩ := back _ mem
    obtain ⟨rfl, found⟩ := signedIn_eq_ok_iff.mp ok
    exact found

/-- **Any order will do**: whoever lists the source sets with their signatures, and makes up
variants of them, has the variants of the declaration. -/
theorem variantsOf_eq_of_groups {pairs : List (SourceSet × Signature)} {variants : List Variant}
    (signed : Signed declaration.sourceSets (signatureOf context declaration inSummary) pairs)
    (groups : Variant.Groups pairs variants) :
    variantsOf context declaration inSummary =
      match Variants.ofGroups? declaration.commonSourceSet? variants with
      | some variants => .ok variants
      | none => .error (.noSourceSets declaration.identity) := by
  rw [variantsOf_eq]
  cases all : declaration.sourceSets.mapM' (signedIn context declaration inSummary) with
  | error e =>
    -- every source set is listed with a signature
    obtain ⟨s, mem, fails⟩ := exists_of_mapM'_eq_error all
    obtain ⟨σ, memPair⟩ := (signed.covers s).mpr mem
    rw [signedIn, signed.own s σ memPair] at fails
    cases fails
  | ok pairs' =>
    have signed' := signed_of_mapM' all
    -- both lists have the same members, so both lead to the same variants up to their order
    have groups' := (Variant.Groups.group pairs').of_mem_iff (signed'.mem_iff signed)
    have same : Variant.sorted (Variant.group pairs') = Variant.sorted variants :=
      groups'.sorted_eq groups signed.functional
    rw [Except.bind, Variants.ofPairs?, Variants.ofGroups?, Variants.ofGroups?, same]

/-- A declaration has no variants if one of its signatures fails. -/
theorem exists_variantsOf_eq_error {s : SourceSet} {e : RenderError}
    (mem : s ∈ declaration.sourceSets)
    (fails : signatureOf context declaration inSummary s = .error e) :
    ∃ e', variantsOf context declaration inSummary = .error e' := by
  have fails' : signedIn context declaration inSummary s = .error e := by
    rw [signedIn, fails]
    rfl
  obtain ⟨e', all⟩ := exists_mapM'_eq_error mem fails'
  refine ⟨e', ?_⟩
  rw [variantsOf_eq, all]
  rfl

/-- Variants are made of signed source sets. -/
theorem exists_signed_of_variantsOf {variants : Variants}
    (found : variantsOf context declaration inSummary = .ok variants) :
    ∃ pairs, Signed declaration.sourceSets (signatureOf context declaration inSummary) pairs ∧
      Variants.ofPairs? declaration.commonSourceSet? pairs = some variants := by
  rw [variantsOf_eq] at found
  cases all : declaration.sourceSets.mapM' (signedIn context declaration inSummary) with
  | error e =>
    rw [all] at found
    cases found
  | ok pairs =>
    rw [all, Except.bind] at found
    cases grouped : Variants.ofPairs? declaration.commonSourceSet? pairs with
    | none =>
      rw [grouped] at found
      cases found
    | some variants' =>
      rw [grouped] at found
      cases found
      exact ⟨pairs, signed_of_mapM' all, grouped⟩

/-- **The variants of a declaration partition its source sets.** -/
theorem isPartition_of_variantsOf {variants : Variants}
    (found : variantsOf context declaration inSummary = .ok variants) :
    IsPartition declaration.sourceSets (signatureOf context declaration inSummary)
      variants.all := by
  obtain ⟨pairs, signed, grouped⟩ := exists_signed_of_variantsOf found
  obtain ⟨-, all, -⟩ := Variants.ofGroups?_eq_some_iff.mp grouped
  rw [all]
  exact signed.isPartition (.group pairs)

/-- There are variants if there are source sets and all signatures succeed. -/
theorem exists_variantsOf (nonempty : declaration.sourceSets ≠ [])
    (succeed : ∀ s ∈ declaration.sourceSets, ∃ σ,
      signatureOf context declaration inSummary s = .ok σ) :
    ∃ variants, variantsOf context declaration inSummary = .ok variants := by
  rw [variantsOf_eq]
  cases all : declaration.sourceSets.mapM' (signedIn context declaration inSummary) with
  | error e =>
    obtain ⟨s, mem, fails⟩ := exists_of_mapM'_eq_error all
    obtain ⟨σ, ok⟩ := succeed s mem
    rw [signedIn, ok] at fails
    cases fails
  | ok pairs =>
    -- some source set is listed, so some variant has its signature
    obtain ⟨s, mem⟩ := List.exists_mem_of_ne_nil _ nonempty
    obtain ⟨σ, memPair⟩ := ((signed_of_mapM' all).covers s).mpr mem
    obtain ⟨v, memV, -⟩ := List.mem_map.mp ((Variant.Groups.group pairs).complete _ memPair)
    obtain ⟨variants, grouped⟩ :=
      Variants.exists_ofGroups? declaration.commonSourceSet? (List.ne_nil_of_mem memV)
    refine ⟨variants, ?_⟩
    rw [Except.bind, Variants.ofPairs?, grouped]

/-- A declaration without source sets has no variants. -/
theorem variantsOf_of_sourceSets_eq_nil (empty : declaration.sourceSets = []) :
    variantsOf context declaration inSummary =
      .error (.noSourceSets declaration.identity) := by
  have none : Variants.ofPairs? declaration.commonSourceSet? [] = none :=
    Variants.ofGroups?_nil _
  rw [variantsOf_eq, empty, List.mapM'_nil]
  change Except.bind (.ok []) _ = _
  rw [Except.bind, none]

/-- Everything that is rendered has source sets, and all of them have signatures. -/
theorem signed_of_variantsOf {variants : Variants}
    (found : variantsOf context declaration inSummary = .ok variants) :
    declaration.sourceSets ≠ [] ∧ ∀ s ∈ declaration.sourceSets, ∃ σ,
      signatureOf context declaration inSummary s = .ok σ := by
  constructor
  · intro empty
    rw [variantsOf_of_sourceSets_eq_nil empty] at found
    cases found
  · intro s mem
    cases ends : signatureOf context declaration inSummary s with
    | ok σ => exact ⟨σ, rfl⟩
    | error e =>
      obtain ⟨e', fails⟩ := exists_variantsOf_eq_error mem ends
      rw [fails] at found
      cases found

/-- There are variants exactly if there are source sets and all signatures succeed. -/
theorem exists_variantsOf_iff :
    (∃ variants, variantsOf context declaration inSummary = .ok variants) ↔
      declaration.sourceSets ≠ [] ∧ ∀ s ∈ declaration.sourceSets, ∃ σ,
        signatureOf context declaration inSummary s = .ok σ :=
  ⟨fun ⟨_, found⟩ => signed_of_variantsOf found,
    fun ⟨nonempty, succeed⟩ => exists_variantsOf nonempty succeed⟩

end

/-! ### A declaration in two source sets -/

/-- A function in two source sets, with an annotation in one of them. -/
def clockNow : Declaration where
  identity := ⟨"com.example", some "Clock", some "now"⟩
  name := "now"
  sourceSets := [⟨.jvm, "jvmMain"⟩, ⟨.js, "jsMain"⟩]
  annotations := .insert ∅ "jvmMain" [⟨.ofClass "androidx.annotation" "NonNull", []⟩]
  detail := .function
    { returnType := .classRef ⟨.ofClass "kotlin" "String", none, ∅, .generic⟩ [] }

/-- `clockNow` has a signature in each of its source sets. -/
theorem clockNow_succeeds : ∀ s ∈ clockNow.sourceSets,
    ∃ σ, signatureOf (Context.reference .kotlin {}) clockNow false s = .ok σ := by
  intro s mem
  have ok : ∀ s ∈ clockNow.sourceSets,
      (signatureOf (Context.reference .kotlin {}) clockNow false s).isOk := by
    decide +kernel
  exact exists_of_isOk _ (ok s mem)

/-! ## Renderings in sessions -/

namespace Rendering

/-- What an account tells is what comes without a memo. -/
theorem account_outcome (context : Context) (r : Rendering) (s : SourceSet) :
    (r.account context s).outcome = signatureOf context r.declaration r.inSummary s :=
  (Account.outcomes context.dialect).renderSignature r.declaration s r.inSummary

/-- Once every source set is entered, each is entered with its signature. -/
theorem Sound.signed {context : Context} {memo : Memo} {r : Rendering}
    (h : r.Sound context memo) (waiting : r.waiting = []) (working : r.working = []) :
    Signed r.declaration.sourceSets (signatureOf context r.declaration r.inSummary)
      r.entered := by
  have all := h.all
  rw [begun, waiting, working] at all
  refine ⟨fun s => ?_, fun s σ mem => ?_⟩
  · rw [← all.mem_iff]
    simp
  · rw [← account_outcome]
    exact (h.entered _ mem).1

/-- What is at work was in the list of source sets. -/
theorem Sound.mem_of_working {context : Context} {memo : Memo} {r : Rendering}
    (h : r.Sound context memo) {work : SourceSet × Thread Signature} (mem : work ∈ r.working) :
    work.1 ∈ r.declaration.sourceSets := by
  rw [← h.all.mem_iff, begun]
  exact List.mem_append_right _ (List.mem_append_left _ (List.mem_map_of_mem mem))

/-- **A declaration comes to what it comes to without a memo**: to its variants, or else to
some failure. Which of several failures it is depends on the order of steps. -/
theorem Sound.outcome {context : Context} {memo : Memo} {r : Rendering}
    {outcome : Except RenderError Variants} (h : r.Sound context memo) (yields : r.Yields outcome)
    (variants : Variants) :
    outcome = .ok variants ↔ variantsOf context r.declaration r.inSummary = .ok variants := by
  cases yields with
  | complete waiting working =>
    have same := variantsOf_eq_of_groups (h.signed waiting working) h.groups
    exact iff_of_eq (congrArg (fun outcome => outcome = .ok variants) same.symm)
  | failed rest mem =>
    -- the failure is that of some signature, which fails without a memo as well
    have sound := h.threads _ mem
    obtain ⟨-, fails, -⟩ := sound.ended
    rw [account_outcome] at fails
    obtain ⟨e', eq⟩ := exists_variantsOf_eq_error (h.mem_of_working mem) fails.symm
    rw [eq]
    exact iff_of_false (by rintro ⟨⟩) (by rintro ⟨⟩)

end Rendering

/-! ## Programs that run alone -/

namespace Program

variable {α β : Type}

/-- **A program that runs alone**, from any exact memo, comes to the outcome of its account. -/
theorem run_sound {account : Account α} (program : Program α) {memo : Memo}
    {stack : List TypeUse} (exact : memo.Exact)
    (h : (⟨stack, program⟩ : Thread α).Sound memo account) :
    (program.run memo).1 = account.outcome ∧ (program.run memo).2.Exact := by
  induction program generalizing memo stack with
  | finished outcome => exact ⟨h.ended.2.1, exact⟩
  | lookup key next ih =>
    rw [run]
    cases found : memo.find? key with
    | none =>
      have step : Thread.Step memo ⟨stack, .lookup key next⟩ [] memo _ := .miss found
      obtain ⟨advance, sound⟩ := step.sound exact h
      exact ih none advance.exact sound
    | some form =>
      have step : Thread.Step memo ⟨stack, .lookup key next⟩ _ memo _ := .hit found
      obtain ⟨advance, sound⟩ := step.sound exact h
      exact ih (some form) advance.exact sound
  | enter key form next ih =>
    have step : Thread.Step memo ⟨stack, .enter key form next⟩ _ _ _ := .enter
    obtain ⟨advance, sound⟩ := step.sound exact h
    exact ih _ advance.exact sound

/-- **What follows an account** comes to what converting on the spot comes to, whatever is
remembered. -/
theorem run_eq {dialect : Dialect} {program : Program α} {account : Account α}
    {outcome : Except RenderError α} (follows : (Account.follows dialect).Rel program account)
    (outcomes : (Account.outcomes dialect).Rel account outcome) {memo : Memo}
    (exact : memo.Exact) : (program.run memo).1 = outcome ∧ (program.run memo).2.Exact := by
  obtain ⟨ran, exact'⟩ := run_sound _ exact (follows {key | key ∈ memo.keys})
  exact ⟨ran.trans outcomes, exact'⟩

/-- One program after another. -/
theorem run_bind (program : Program α) (next : α → Program β) (memo : Memo) :
    (program >>= next).run memo =
      match program.run memo with
      | (.ok value, memo') => (next value).run memo'
      | (.error e, memo') => (.error e, memo') := by
  induction program generalizing memo with
  | finished outcome => cases outcome <;> rfl
  | lookup key rest ih => exact ih _ _
  | enter key form rest ih => exact ih _ _

/-- A failure may be replaced at the end as well. -/
theorem run_mapError (change : RenderError → RenderError) (program : Program α) (memo : Memo) :
    (program.mapError change).run memo =
      ((program.run memo).1.mapError change, (program.run memo).2) := by
  induction program generalizing memo with
  | finished outcome => cases outcome <;> rfl
  | lookup key rest ih => exact ih _ _
  | enter key form rest ih => exact ih _ _

end Program

/-- Variants come to what they come to without a memo. -/
theorem renderVariants_run (context : Context) (declaration : Declaration) (inSummary : Bool)
    {memo : Memo} (exact : memo.Exact) :
    ((renderVariants context declaration inSummary : Program Variants).run memo).1 =
        variantsOf context declaration inSummary ∧
      ((renderVariants context declaration inSummary : Program Variants).run memo).2.Exact := by
  have outcomes := (Account.outcomes context.dialect).renderVariants declaration inSummary
  have follows := (Account.follows context.dialect).renderVariants declaration inSummary
  exact Program.run_eq follows outcomes exact

namespace Renderer

variable (renderer : Renderer)

/-- The call of a run for one declaration comes to what it comes to without a memo. -/
theorem renderIn_run (context : Context) (declaration : Declaration) {memo : Memo}
    (exact : memo.Exact) :
    ((renderer.renderIn context declaration).run memo).1 =
        declaration.rendered (variantsOf context declaration renderer.inSummary) ∧
      ((renderer.renderIn context declaration).run memo).2.Exact := by
  obtain ⟨outcome, exact'⟩ := renderVariants_run context declaration renderer.inSummary exact
  rw [renderIn, Program.run_mapError, Program.run_bind, ← outcome]
  let program : Program Variants := renderVariants context declaration renderer.inSummary
  cases ran : program.run memo with
  | mk result memo' =>
    rw [ran] at exact'
    cases result with
    | ok variants => exact ⟨rfl, exact'⟩
    | error e => exact ⟨rfl, exact'⟩

/-- **A declaration alone** comes to what it comes to without a memo. -/
theorem renderDeclaration_eq (declaration : Declaration) :
    renderer.renderDeclaration declaration =
      declaration.rendered (variantsOf renderer.context declaration renderer.inSummary) :=
  (renderer.renderIn_run renderer.context declaration .empty).1

/-- Declarations one after the other, from any exact memo. -/
theorem mapM'_renderIn_run (context : Context) (declarations : List Declaration) {memo : Memo}
    (exact : memo.Exact) :
    ((declarations.mapM' (renderer.renderIn context)).run memo).1 =
      declarations.mapM' fun declaration =>
        declaration.rendered (variantsOf context declaration renderer.inSummary) := by
  induction declarations generalizing memo with
  | nil => rfl
  | cons first rest ih =>
    -- the first run leaves an exact memo to the others
    obtain ⟨outcome, exact'⟩ := renderer.renderIn_run context first exact
    rw [List.mapM'_cons, List.mapM'_cons, Program.run_bind, ← outcome]
    cases ran : (renderer.renderIn context first).run memo with
    | mk result memo' =>
      rw [ran] at exact'
      cases result with
      | error e => rfl
      | ok rendered =>
        have others := ih exact'
        dsimp only
        rw [Program.run_bind, ← others]
        cases (rest.mapM' (renderer.renderIn context)).run memo' with
        | mk results memo'' => cases results <;> rfl

/-- **A module in one run** comes to what its declarations come to, each alone. -/
theorem renderModule_eq (module : Module) :
    renderer.renderModule module = module.declarations.mapM' renderer.renderDeclaration := by
  have each : renderer.renderDeclaration = fun declaration =>
      declaration.rendered (variantsOf renderer.context declaration renderer.inSummary) :=
    funext renderer.renderDeclaration_eq
  rw [each]
  exact renderer.mapM'_renderIn_run renderer.context module.declarations .empty

end Renderer

end Diglot
