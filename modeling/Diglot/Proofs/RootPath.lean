import Diglot.Proofs.MovedLinks

/-!
# The root path

The root path is where all links begin, and nothing else depends on it. Every root path is
compared with none at all: there the targets of links are the same but for their beginning.
Grouping compares signatures with their targets, but no two targets become one when they are put
below a root path, so that the groups are the same.

* `Link.reference_eq` — how a link depends on the root path.
* `variantsOf_retarget` — variants of which the targets are moved, if no two targets become one.
* `root_path_moves_targets` — modules below two root paths.
-/

namespace Diglot

/-! ## Links below a root path -/

namespace Link

/-- A target below a root path. What leads nowhere still does. -/
def below (root url : String) : String :=
  if url = "" then "" else Text.trimEnd root '/' ++ url

/-- Different targets remain different below a root path. -/
theorem below_injective (root : String) : Function.Injective (below root) := by
  intro url url' same
  by_cases none : url = "" <;> by_cases none' : url' = "" <;>
    simp_all [below, String.append_right_inj]

/-- A page has the root path in front of it. -/
theorem below_pageUrl (root : String) (dialect : Dialect) (package page suffix : String) :
    below root (pageUrl "" dialect package page ++ suffix) =
      pageUrl root dialect package page ++ suffix := by
  have noRoot : Text.trimEnd "" '/' = "" := by decide
  simp [below, pageUrl, noRoot, String.append_assoc]

/-- **A link below a root path** is the link below none with its target moved. -/
theorem reference_eq (root : String) (dialect : Dialect) (identity : Identity) :
    reference root dialect identity =
      (reference "" dialect identity).retarget (below root) := by
  have page := fun package page => below_pageUrl root dialect package page ""
  simp only [String.append_empty] at page
  simp only [reference]
  generalize (if identity.package = "" then "[JVM root]" else identity.package) = package
  by_cases undocumented : undocumented.any
      (Text.startsWith (package ++ "." ++ identity.className)) = true
  · rw [if_pos undocumented, if_pos undocumented, retarget_unlinked rfl]
  · rw [if_neg undocumented, if_neg undocumented]
    cases identity.callable with
    | some member => simp only [retarget, String.append_assoc, below_pageUrl]
    | none => simp only [retarget, page]

end Link

/-- **The context of a root path** is the one of no root path, with the targets moved. -/
theorem Context.reference_eq (dialect : Dialect) (config : Config) :
    reference dialect config =
      (reference dialect { config with rootPath := "" }).retarget (Link.below config.rootPath)
        config.rootPath := by
  rw [Context.retarget, Context.mk.injEq]
  exact ⟨rfl, rfl, funext fun identity => Link.reference_eq config.rootPath dialect identity⟩

section

variable {move : String → String} {root : String} {context : Context}

/-! ## Variants -/

/-- The variant with the targets of its signature moved. -/
def Variant.retarget (move : String → String) (variant : Variant) : Variant :=
  { variant with signature := variant.signature.retarget move }

/-- The variants with their targets moved, the same one being the primary one. -/
def Variants.retarget (move : String → String) (variants : Variants) : Variants where
  all := variants.all.map (Variant.retarget move)
  primaryIndex := variants.primaryIndex.cast (List.length_map _).symm

section

variable (injective : Function.Injective move)

include injective

/-- **A source set enters the same variant**, if no two targets become one. -/
theorem Variant.enter_retarget (sourceSet : SourceSet) (σ : Signature) (variants : List Variant) :
    enter sourceSet (σ.retarget move) (variants.map (retarget move)) =
      (enter sourceSet σ variants).map (retarget move) := by
  induction variants with
  | nil => rfl
  | cons first rest ih =>
    have same : (first.retarget move).signature = σ.retarget move ↔ first.signature = σ :=
      (Signature.retarget_injective injective).eq_iff
    rw [List.map_cons, enter, enter, ih]
    simp only [same]
    split <;> rfl

/-- **Signatures with their targets moved make up the same variants.** -/
theorem Variant.group_retarget (pairs : List (SourceSet × Signature)) :
    group (pairs.map fun pair => (pair.1, pair.2.retarget move)) =
      (group pairs).map (retarget move) := by
  induction pairs using List.reverseRecOn with
  | nil => rfl
  | append_singleton pairs pair ih =>
    simp only [group, List.map_append, List.foldl_append, List.map_cons, List.map_nil,
      List.foldl_cons, List.foldl_nil] at ih ⊢
    rw [ih, enter_retarget injective]

omit injective in
/-- Variants with their targets moved stand in the same order. -/
theorem Variant.sorted_retarget (variants : List Variant) :
    sorted (variants.map (retarget move)) = (sorted variants).map (retarget move) := by
  rw [sorted, sorted]
  refine Eq.symm (List.map_mergeSort ?_)
  exact fun _ _ _ _ => rfl

omit injective in
/-- The primary one is at the same position. -/
theorem Variants.primaryOf_retarget (common : Option SourceSet) (all : List Variant) :
    primaryOf common (all.map (Variant.retarget move)) = primaryOf common all := by
  cases common with
  | none => rfl
  | some sourceSet =>
    simp only [primaryOf, Option.bind_some, List.findIdx?_map]
    rfl

omit injective in
theorem Variants.ofGroups?_retarget (common : Option SourceSet) (groups : List Variant) :
    ofGroups? common (groups.map (Variant.retarget move)) =
      (ofGroups? common groups).map (retarget move) := by
  cases found : ofGroups? common groups with
  | none =>
    have empty : groups = [] := by
      by_contra nonempty
      obtain ⟨variants, some⟩ := exists_ofGroups? common nonempty
      rw [found] at some
      cases some
    rw [empty, List.map_nil, ofGroups?_nil]
    rfl
  | some variants =>
    obtain ⟨nonempty, all, index⟩ := ofGroups?_eq_some_iff.mp found
    refine ofGroups?_eq_some_iff.mpr ⟨mt List.map_eq_nil_iff.mp nonempty, ?_, ?_⟩
    · rw [Variant.sorted_retarget, ← all]
      rfl
    · rw [Variant.sorted_retarget, primaryOf_retarget, ← index]
      rfl

theorem Variants.ofPairs?_retarget (common : Option SourceSet)
    (pairs : List (SourceSet × Signature)) :
    ofPairs? common (pairs.map fun pair => (pair.1, pair.2.retarget move)) =
      (ofPairs? common pairs).map (retarget move) := by
  rw [ofPairs?, ofPairs?, Variant.group_retarget injective, ofGroups?_retarget]

/-- **The variants are those of the other context with their targets moved**, if no two targets
become one. -/
theorem variantsOf_retarget (stays : move "" = "") (declaration : Declaration)
    (inSummary : Bool) :
    variantsOf (context.retarget move root) declaration inSummary =
      Variants.retarget move <$> variantsOf context declaration inSummary := by
  have signed : signedIn (context.retarget move root) declaration inSummary =
      fun s => (fun pair : SourceSet × Signature => (pair.1, pair.2.retarget move)) <$>
        signedIn context declaration inSummary s := by
    funext s
    rw [signedIn, signedIn, signatureOf_retarget root context stays]
    cases signatureOf context declaration inSummary s <;> rfl
  rw [variantsOf_eq, variantsOf_eq, signed, mapM'_map]
  cases declaration.sourceSets.mapM' (signedIn context declaration inSummary) with
  | error e => rfl
  | ok pairs =>
    dsimp only [Functor.map, Except.map, Except.bind]
    rw [Variants.ofPairs?_retarget injective]
    cases Variants.ofPairs? declaration.commonSourceSet? pairs <;> rfl

end

end

/-! ## Two root paths -/

/-- **Variants that are the same but for the targets of links.** -/
structure Variants.SameButTargets (variants variants' : Variants) : Prop where
  /-- they have the same text -/
  text : variants.text = variants'.text
  /-- there are as many groups -/
  groups : variants.all.length = variants'.all.length
  /-- these have the same source sets -/
  sourceSets : variants.all.map Variant.sourceSets = variants'.all.map Variant.sourceSets
  /-- the same group is shown first -/
  primary : variants.primaryIndex.val = variants'.primaryIndex.val
  /-- without targets, they have the same signatures -/
  signatures : variants.all.map (fun v => v.signature.retarget nowhere) =
    variants'.all.map fun v => v.signature.retarget nowhere

/-- **Declarations that are rendered alike** but for the targets of links. -/
structure RenderedDeclaration.SameButTargets (rendered rendered' : RenderedDeclaration) :
    Prop where
  /-- the name is the same -/
  name : rendered.name = rendered'.name
  /-- so is the identity -/
  identity : rendered.identity = rendered'.identity
  /-- the variants differ in targets only -/
  variants : rendered.variants.SameButTargets rendered'.variants

namespace Variants

variable {move move' : String → String}

theorem text_retarget (variants : Variants) : (variants.retarget move).text = variants.text := by
  have primary : (variants.retarget move).primary = variants.primary.retarget move := by
    simp [primary, retarget]
  have text : ∀ v : Variant, (v.retarget move).signature.text = v.signature.text :=
    fun v => v.signature.text_retarget move
  have uniform : (variants.retarget move).isUniform = variants.isUniform := by
    simp [isUniform, retarget]
  have all : (variants.retarget move).all = variants.all.map (Variant.retarget move) := rfl
  have sourceSets : ∀ v : Variant, (v.retarget move).sourceSets = v.sourceSets := fun _ => rfl
  simp only [Variants.text, primary, text, uniform, all, List.map_map, Function.comp_def,
    sourceSets]

/-- Moving targets in two ways makes no other difference. -/
theorem SameButTargets.of_retarget (variants : Variants) :
    (variants.retarget move).SameButTargets (variants.retarget move') where
  text := by rw [text_retarget, text_retarget]
  groups := by simp [retarget]
  sourceSets := by simp [retarget, Function.comp_def, Variant.retarget]
  primary := rfl
  signatures := by
    simp only [retarget, List.map_map, Function.comp_def, Variant.retarget,
      Signature.retarget_retarget]
    rfl

end Variants

/-- The rendered declaration with its targets moved. -/
def RenderedDeclaration.retarget (move : String → String) (rendered : RenderedDeclaration) :
    RenderedDeclaration :=
  { rendered with variants := rendered.variants.retarget move }

theorem RenderedDeclaration.SameButTargets.of_retarget {move move' : String → String}
    (rendered : RenderedDeclaration) :
    (rendered.retarget move).SameButTargets (rendered.retarget move') :=
  ⟨rfl, rfl, .of_retarget rendered.variants⟩

/-- What is made of one result in two ways matches if the two ways do. -/
theorem Matching.of_map {α β : Type} {R : β → β → Prop} {f g : α → β}
    (outcome : Except RenderError α) (related : ∀ a, R (f a) (g a)) :
    Matching R (f <$> outcome) (g <$> outcome) := by
  cases outcome with
  | error e => exact .fail e e
  | ok a => exact .succeed (related a)

namespace Renderer

/-- The renderer with another root path. -/
def withRootPath (root : String) (renderer : Renderer) : Renderer :=
  { renderer with config := { renderer.config with rootPath := root } }

variable (renderer : Renderer)

/-- **Variants below a root path** are those below none with their targets moved. -/
theorem variantsOf_withRootPath (root : String) (declaration : Declaration) :
    variantsOf (renderer.withRootPath root).context declaration renderer.inSummary =
      Variants.retarget (Link.below root) <$>
        variantsOf (renderer.withRootPath "").context declaration renderer.inSummary := by
  have moved : (renderer.withRootPath root).context =
      (renderer.withRootPath "").context.retarget (Link.below root) root :=
    Context.reference_eq renderer.config.dialect { renderer.config with rootPath := root }
  rw [moved]
  exact variantsOf_retarget (Link.below_injective root) rfl declaration renderer.inSummary

/-- **Declarations and modules below a root path** are those below none with their targets moved.
Failures are the same. -/
theorem renderModule_withRootPath (root : String) (module : Module) :
    (renderer.withRootPath root).renderModule module =
      List.map (RenderedDeclaration.retarget (Link.below root)) <$>
        (renderer.withRootPath "").renderModule module := by
  rw [renderModule_eq, renderModule_eq, ← mapM'_map]
  refine mapM'_congr fun declaration _ => ?_
  rw [renderDeclaration_eq, renderDeclaration_eq]
  change declaration.rendered (variantsOf _ _ renderer.inSummary) = _ <$>
    declaration.rendered (variantsOf _ _ renderer.inSummary)
  rw [variantsOf_withRootPath]
  cases variantsOf (renderer.withRootPath "").context declaration renderer.inSummary <;> rfl

end Renderer

/-- **The root path moves the targets of links, and changes nothing else.** Below two root paths
a module is rendered alike, or fails for the same reason. So it is where declarations are rendered
at the same time. -/
theorem root_path_moves_targets (renderer : Renderer) (root root' : String) :
    (∀ module : Module,
      Matching (List.Forall₂ RenderedDeclaration.SameButTargets)
          ((renderer.withRootPath root).renderModule module)
          ((renderer.withRootPath root').renderModule module) ∧
        ∀ e, (renderer.withRootPath root).renderModule module = .error e ↔
          (renderer.withRootPath root').renderModule module = .error e) ∧
    ∀ (declaration : Declaration) (session session' : Session) (r r' : Rendering)
        (outcome outcome' : Except RenderError Variants),
      session.Renders (renderer.withRootPath root).context declaration renderer.inSummary r →
      session'.Renders (renderer.withRootPath root').context declaration renderer.inSummary r' →
      r.Yields outcome → r'.Yields outcome' →
        Matching Variants.SameButTargets outcome outcome' := by
  constructor
  · intro module
    rw [renderer.renderModule_withRootPath root, renderer.renderModule_withRootPath root']
    refine ⟨.of_map _ fun list => ?_, fun e => ?_⟩
    · rw [List.forall₂_map_left_iff, List.forall₂_map_right_iff, List.forall₂_same]
      exact fun rendered _ => .of_retarget rendered
    · rw [map_eq_error, map_eq_error]
  · intro declaration session session' r r' outcome outcome' h h' yields yields'
    refine h.matching h' yields yields' ?_
    rw [renderer.variantsOf_withRootPath root, renderer.variantsOf_withRootPath root']
    exact .of_map _ fun variants => .of_retarget variants

/-- `clockNow` has a signature in each of its source sets, below either of these root paths. -/
theorem clockNow_succeeds_below : ∀ root ∈ ["docs/", "reference"], ∀ s ∈ clockNow.sourceSets,
    ∃ σ, signatureOf (({} : Renderer).withRootPath root).context clockNow false s = .ok σ := by
  intro root listed s mem
  have ok : ∀ root ∈ ["docs/", "reference"], ∀ s ∈ clockNow.sourceSets,
      (signatureOf (({} : Renderer).withRootPath root).context clockNow false s).isOk := by
    decide +kernel
  exact exists_of_isOk _ (ok root listed s mem)

/-- Below another root path `clockNow` has another page, and its variants are the same. -/
theorem root_path_moves_targets_clockNow :
    let docs := ({} : Renderer).withRootPath "docs/"
    let reference := ({} : Renderer).withRootPath "reference"
    ∃ (session session' : Session) (r r' : Rendering) (variants variants' : Variants),
      session.Renders docs.context clockNow false r ∧ r.Yields (.ok variants) ∧
        session'.Renders reference.context clockNow false r' ∧ r'.Yields (.ok variants') ∧
          variants.SameButTargets variants' ∧
          docs.context.declarationName clockNow =
            ⟨"now", "docs/kotlin/com/example/Clock.html#now"⟩ ∧
          reference.context.declarationName clockNow =
            ⟨"now", "reference/kotlin/com/example/Clock.html#now"⟩ := by
  intro docs reference
  have succeeds := clockNow_succeeds_below "docs/" (by decide)
  have succeeds' := clockNow_succeeds_below "reference" (by decide)
  obtain ⟨variants, found⟩ := exists_variantsOf (by decide) succeeds
  obtain ⟨variants', found'⟩ := exists_variantsOf (by decide) succeeds'
  obtain ⟨session, r, h, yields⟩ := exists_yields_of_variantsOf found
  obtain ⟨session', r', h', yields'⟩ := exists_yields_of_variantsOf found'
  have matching := (root_path_moves_targets {} "docs/" "reference").2 clockNow session session' r r'
    _ _ h h' yields yields'
  -- the pages are computed without the abbreviations
  have page : (({} : Renderer).withRootPath "docs/").context.declarationName clockNow =
      ⟨"now", "docs/kotlin/com/example/Clock.html#now"⟩ := by decide +kernel
  have page' : (({} : Renderer).withRootPath "reference").context.declarationName clockNow =
      ⟨"now", "reference/kotlin/com/example/Clock.html#now"⟩ := by decide +kernel
  exact ⟨session, session', r, r', variants, variants', h, yields, h', yields', matching.related,
    page, page'⟩

end Diglot
