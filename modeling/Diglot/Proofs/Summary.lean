import Diglot.Proofs.Showing
import Diglot.Proofs.Texts

/-!
# Summaries

A summary leaves out default values and visibility. It is not rendered in a way of its own: its
signatures are those of the detailed display with these parts erased.

* `Modifier.displayed_inSummary` — erasing visibility commutes with putting modifiers in order.
* `signatureOf_inSummary` — a signature of a summary is the erased signature in detail, and fails
  as that does.
* `IsPartition.exists_coarser` — signatures that are changed alike are grouped more coarsely.
* `Variants.Summarizes` — what this says of the variants, and of the primary one.
-/

namespace Diglot

/-! ## Modifiers -/

namespace Modifier

/-- The modifiers that a summary displays, of those that are displayed in detail. -/
def summarized (modifiers : List Modifier) : List Modifier :=
  remove protectedAccess (remove publicAccess modifiers)

/-- A modifier may be removed before or after the others are put in order. -/
theorem ordered_remove (modifier : Modifier) (modifiers : List Modifier) :
    ordered (remove modifier modifiers) = remove modifier (ordered modifiers) := by
  have unlisted : (remove modifier modifiers).filter (fun m => !displayOrder.contains m) =
      remove modifier (modifiers.filter fun m => !displayOrder.contains m) := by
    rw [remove, remove, List.filter_filter, List.filter_filter]
    exact List.filter_congr fun m _ => Bool.and_comm _ _
  have listed : displayOrder.filter (fun m => (remove modifier modifiers).contains m) =
      remove modifier (displayOrder.filter fun m => modifiers.contains m) := by
    rw [remove, remove, List.filter_filter]
    refine List.filter_congr fun m _ => ?_
    rw [Bool.eq_iff_iff, List.contains_iff_mem, List.mem_filter, Bool.and_eq_true,
      List.contains_iff_mem, and_comm]
  rw [ordered, unlisted, listed]
  exact (List.filter_append _ _).symm

/-- **Modifiers of a summary** are those that are displayed in detail, apart from visibility. -/
theorem displayed_inSummary (context : ModifierContext) (reported : List Modifier) :
    displayed { context with inSummary := true } reported =
      summarized <$> displayed { context with inSummary := false } reported := by
  have order : ∀ modifiers, ordered (summarized modifiers) = summarized (ordered modifiers) :=
    fun modifiers => (ordered_remove _ _).trans (congrArg _ (ordered_remove _ _))
  obtain ⟨dialect, _⟩ := context
  cases dialect with
  | java =>
    simp only [displayed, map_bind]
    exact bind_congr fun modifiers => congrArg Except.ok (order modifiers)
  | kotlin =>
    exact congrArg Except.ok (order _)

end Modifier

/-! ## Signatures -/

/-- The parameter without its default value. -/
def ShownParameter.summarized (parameter : ShownParameter) : ShownParameter :=
  { parameter with default := none }

/-- A function without default values and without visibility. -/
def FunctionSignature.summarized (s : FunctionSignature) : FunctionSignature :=
  { s with
    modifiers := Modifier.summarized s.modifiers
    receiver := s.receiver.map ShownParameter.summarized
    parameters := s.parameters.map ShownParameter.summarized }

/-- A property without the default value of its receiver and without visibility. -/
def PropertySignature.summarized (s : PropertySignature) : PropertySignature :=
  { s with
    modifiers := Modifier.summarized s.modifiers
    receiver := s.receiver.map ShownParameter.summarized }

/-- The signature without default values and without visibility. -/
def Signature.summarized : Signature → Signature
  | .function s => .function s.summarized
  | .property s => .property s.summarized

section

variable (context : Context) (declaration : Declaration) (sourceSet : SourceSet)

/-- A parameter is summarized without its default value, which Java never shows. -/
theorem parameterOf_inSummary (parameter : Parameter) (fromJava : Bool) :
    parameterOf context parameter true fromJava sourceSet =
      ShownParameter.summarized <$> parameterOf context parameter false fromJava sourceSet := by
  simp only [parameterOf, renderParameter, map_bind]
  refine bind_congr fun modifiers => ?_
  cases context.dialect with
  | java => simp only [map_bind]; rfl
  | kotlin => simp only [map_bind]; rfl

/-- Each of several parameters is summarized. -/
theorem parametersOf_inSummary (parameters : List Parameter) (fromJava : Bool) :
    (parameters.mapM' fun p => parameterOf context p true fromJava sourceSet) =
      List.map ShownParameter.summarized <$>
        parameters.mapM' fun p => parameterOf context p false fromJava sourceSet := by
  simp only [parameterOf_inSummary, mapM'_map]

/-- The modifiers of a declaration are summarized without visibility. -/
theorem shownModifiers_inSummary (element : ElementKind) :
    shownModifiers context declaration element sourceSet true =
      Modifier.summarized <$> shownModifiers context declaration element sourceSet false :=
  Modifier.displayed_inSummary (context.declarationModifiers declaration element false)
    (declaration.modifiersAt sourceSet.name)

/-- A function is summarized by its parts. -/
theorem renderFunction_inSummary (detail : FunctionDetail) :
    (renderFunction context declaration detail sourceSet true : Except RenderError _) =
      FunctionSignature.summarized <$>
        renderFunction context declaration detail sourceSet false := by
  have parameters := parametersOf_inSummary context sourceSet
  unfold parameterOf at parameters
  simp only [renderFunction, attempt_eq, shownModifiers_inSummary, parameters, map_bind,
    bind_map_left]
  refine bind_congr fun modifiers => ?_
  refine bind_congr fun returnType => ?_
  refine bind_congr fun typeParameters => ?_
  refine bind_congr fun parameters => ?_
  refine bind_congr fun receivers => ?_
  refine bind_congr fun annotations => ?_
  refine congrArg Except.ok ?_
  cases context.dialect with
  | java => simp [FunctionSignature.summarized]
  | kotlin => simp [FunctionSignature.summarized]

/-- The receiver of a property is summarized where it is shown. -/
theorem renderPropertyReceiver_inSummary (receiver : Option Parameter) (fromJava : Bool) :
    (renderPropertyReceiver context receiver true fromJava sourceSet : Except RenderError _) =
      List.map ShownParameter.summarized <$>
        renderPropertyReceiver context receiver false fromJava sourceSet := by
  unfold renderPropertyReceiver
  cases context.dialect with
  | java => rfl
  | kotlin => exact parametersOf_inSummary context sourceSet receiver.toList fromJava

/-- A property is summarized by its parts. -/
theorem renderProperty_inSummary (detail : PropertyDetail) :
    (renderProperty context declaration detail sourceSet true : Except RenderError _) =
      PropertySignature.summarized <$>
        renderProperty context declaration detail sourceSet false := by
  simp only [renderProperty, attempt_eq, shownModifiers_inSummary,
    renderPropertyReceiver_inSummary, map_bind, bind_map_left]
  refine bind_congr fun modifiers => ?_
  refine bind_congr fun type => ?_
  refine bind_congr fun receivers => ?_
  refine bind_congr fun annotations => ?_
  exact congrArg Except.ok (by simp [PropertySignature.summarized])

/-- **A signature of a summary** is the signature in detail without default values and visibility;
it fails if that does, and for the same reason. -/
theorem signatureOf_inSummary :
    signatureOf context declaration true sourceSet =
      (signatureOf context declaration false sourceSet).map Signature.summarized := by
  change _ = Signature.summarized <$> _
  unfold signatureOf renderSignature
  split
  · rw [renderFunction_inSummary, Functor.map_map, Functor.map_map]
    rfl
  · rw [renderProperty_inSummary, Functor.map_map, Functor.map_map]
    rfl

end

/-! ## Variants -/

namespace IsPartition

variable {sourceSets : List SourceSet} {sign : SourceSet → Except RenderError Signature}
  {all : List Variant}

/-- Variants with a common source set are the same. -/
theorem eq_of_shared (h : IsPartition sourceSets sign all) {v w : Variant} (hv : v ∈ all)
    (hw : w ∈ all) {s : SourceSet} (sv : s ∈ v.sourceSets) (sw : s ∈ w.sourceSets) : v = w := by
  have eq := (h.own v hv s sv).symm.trans (h.own w hw s sw)
  exact h.eq_of_signature hv hw (Except.ok.inj eq)

/-- If signatures are changed alike, a variant lies within the one that has its signature
changed. -/
theorem exists_coarser {change : Signature → Signature} {coarser : List Variant}
    (h : IsPartition sourceSets sign all)
    (h' : IsPartition sourceSets (fun s => (sign s).map change) coarser) {v : Variant}
    (hv : v ∈ all) :
    ∃ w ∈ coarser, w.signature = change v.signature ∧ v.sourceSets ⊆ w.sourceSets := by
  have covered : ∀ s ∈ v.sourceSets,
      ∃ w ∈ coarser, s ∈ w.sourceSets ∧ w.signature = change v.signature := by
    intro s mem
    refine h'.exists_variant ((h.covers s).mp ⟨v, hv, mem⟩) ?_
    rw [h.own v hv s mem]
    rfl
  obtain ⟨s, mem⟩ := List.exists_mem_of_ne_nil _ (h.nonempty v hv)
  obtain ⟨w, hw, -, signed⟩ := covered s mem
  refine ⟨w, hw, signed, fun t memT => ?_⟩
  -- the variant with `t` has the same signature
  obtain ⟨w', hw', memW', signed'⟩ := covered t memT
  exact h'.eq_of_signature hw' hw (signed'.trans signed.symm) ▸ memW'

end IsPartition

/-- **How the variants of a summary are related to the variants in detail.** -/
structure Variants.Summarizes (summary detail : Variants) : Prop where
  /-- the source sets of a variant in detail are in one variant of the summary, which has its
  signature without the parts that are left out -/
  within : ∀ v ∈ detail.all, ∃ w ∈ summary.all,
    w.signature = v.signature.summarized ∧ v.sourceSets ⊆ w.sourceSets
  /-- and they are in no other -/
  apart : ∀ v ∈ detail.all, ∀ w ∈ summary.all, w.signature ≠ v.signature.summarized →
    ∀ s ∈ v.sourceSets, s ∉ w.sourceSets
  /-- the primary variant lies in the primary one -/
  primary : detail.primary.sourceSets ⊆ summary.primary.sourceSets

section

variable {context : Context} {declaration : Declaration}

/-- The primary variants of two displays of a declaration have a source set in common. -/
theorem exists_mem_primary {inSummary inSummary' : Bool} {variants variants' : Variants}
    (found : variantsOf context declaration inSummary = .ok variants)
    (found' : variantsOf context declaration inSummary' = .ok variants') :
    ∃ s ∈ variants.primary.sourceSets, s ∈ variants'.primary.sourceSets := by
  obtain ⟨-, common, first⟩ := Declaration.mem_primary_of_variantsOf found
  obtain ⟨-, common', first'⟩ := Declaration.mem_primary_of_variantsOf found'
  cases marked : declaration.commonSourceSet? with
  | some c => exact ⟨c, common c marked, common' c marked⟩
  | none =>
    obtain ⟨s, mem, known, least⟩ := first marked
    obtain ⟨s', mem', known', least'⟩ := first' marked
    by_cases same : s = s'
    · exact ⟨s, mem, same ▸ mem'⟩
    · -- each of the two would come before the other
      have lt := least s' known' (Ne.symm same)
      have gt := least' s known same
      have swap : SourceSet.compare s' s = (SourceSet.compare s s').swap := Std.OrientedCmp.eq_swap
      rw [lt, gt] at swap
      cases swap

/-- **The variants of a summary** are those in detail, grouped more coarsely. -/
theorem Variants.Summarizes.of_variantsOf {detail summary : Variants}
    (found : variantsOf context declaration false = .ok detail)
    (found' : variantsOf context declaration true = .ok summary) : summary.Summarizes detail := by
  have fine := isPartition_of_variantsOf found
  have coarse := isPartition_of_variantsOf found'
  have signatures := funext (signatureOf_inSummary context declaration)
  rw [signatures] at coarse
  have within := fun v hv => fine.exists_coarser coarse (v := v) hv
  refine ⟨within, ?_, ?_⟩
  · intro v hv w hw ne s sv sw
    obtain ⟨w', hw', eq, sub⟩ := within v hv
    exact ne (coarse.eq_of_shared hw' hw (sub sv) sw ▸ eq)
  · obtain ⟨s, sv, sw⟩ := exists_mem_primary found found'
    obtain ⟨w, hw, -, sub⟩ := within detail.primary (List.getElem_mem _)
    obtain rfl : w = summary.primary :=
      coarse.eq_of_shared hw (List.getElem_mem _) (sub sv) sw
    exact sub

/-- **A summary succeeds if the detailed display does**, with variants that are related. -/
theorem variantsOf_inSummary (context : Context) (declaration : Declaration) :
    Matching (fun detail summary => summary.Summarizes detail)
      (variantsOf context declaration false) (variantsOf context declaration true) := by
  refine .of_iff ?_ fun detail summary found found' => .of_variantsOf found found'
  rw [exists_variantsOf_iff, exists_variantsOf_iff]
  refine and_congr_right fun _ => forall₂_congr fun s _ => ?_
  rw [signatureOf_inSummary]
  cases signatureOf context declaration false s <;> simp [Except.map]

end

/-- **A summary is the detailed display with parts erased.** Its signatures are those in detail
without default values and visibility, and fail as those do. Whether a declaration is rendered
alone or among others, its summary succeeds if the detailed display does, and then the variants in
detail lie each within one variant of the summary, the primary one within the primary one. -/
theorem Declaration.summarizes (context : Context) (declaration : Declaration) :
    (∀ s, signatureOf context declaration true s =
      (signatureOf context declaration false s).map Signature.summarized) ∧
    Matching (fun detail summary => summary.Summarizes detail)
      (variantsOf context declaration false) (variantsOf context declaration true) ∧
    ∀ (session session' : Session) (r r' : Rendering) outcome outcome',
      session.Renders context declaration false r →
      session'.Renders context declaration true r' →
      r.Yields outcome → r'.Yields outcome' →
        Matching (fun detail summary => summary.Summarizes detail) outcome outcome' := by
  have alone := variantsOf_inSummary context declaration
  refine ⟨signatureOf_inSummary context declaration, alone, ?_⟩
  intro session session' r r' outcome outcome' h h' yields yields'
  exact h.matching h' yields yields' alone

/-- A function that is protected in one of its source sets; its parameter has a default value in
the other. -/
def clockSet : Declaration where
  identity := ⟨"com.example", some "Clock", some "set"⟩
  name := "set"
  sourceSets := [⟨.common, "commonMain"⟩, ⟨.js, "jsMain"⟩]
  modifiers := .insert ∅ "jsMain" [.protectedAccess]
  detail := .function
    { parameters :=
        [{ name := some "time", default := .insert ∅ "commonMain" "0"
           type := .classRef ⟨.ofClass "kotlin" "Long", none, ∅, .generic⟩ [] }]
      returnType := .classRef ⟨.ofClass "kotlin" "Unit", none, ∅, .generic⟩ [] }

/-- `clockSet` has signatures in both of its source sets, and they differ only in detail. -/
theorem clockSet_signatures :
    let context := Context.reference .kotlin {}
    (∀ inSummary, ∀ s ∈ clockSet.sourceSets, ∃ σ,
      signatureOf context clockSet inSummary s = .ok σ) ∧
    ∃ σ τ, signatureOf context clockSet false ⟨.common, "commonMain"⟩ = .ok σ ∧
      signatureOf context clockSet false ⟨.js, "jsMain"⟩ = .ok τ ∧
        σ ≠ τ ∧ σ.summarized = τ.summarized := by
  intro context
  have ok : ∀ inSummary, ∀ s ∈ clockSet.sourceSets,
      (signatureOf context clockSet inSummary s).isOk := by
    decide +kernel
  refine ⟨fun inSummary s mem => exists_of_isOk _ (ok inSummary s mem), ?_⟩
  obtain ⟨σ, common⟩ := exists_of_isOk _ (ok false ⟨.common, "commonMain"⟩ (by decide))
  obtain ⟨τ, js⟩ := exists_of_isOk _ (ok false ⟨.js, "jsMain"⟩ (by decide))
  have differ : (match signatureOf context clockSet false ⟨.common, "commonMain"⟩,
      signatureOf context clockSet false ⟨.js, "jsMain"⟩ with
    | .ok σ, .ok τ => decide (σ ≠ τ ∧ σ.summarized = τ.summarized)
    | _, _ => false) = true := by decide +kernel
  rw [common, js] at differ
  exact ⟨σ, τ, common, js, of_decide_eq_true differ⟩

/-- Both source sets of `clockSet` are in one variant of the summary; in detail they are in
variants of their own. -/
theorem summarizes_clockSet :
    let context := Context.reference .kotlin {}
    ∃ (session session' : Session) (r r' : Rendering) (detail summary : Variants),
      session.Renders context clockSet false r ∧ r.Yields (.ok detail) ∧
        session'.Renders context clockSet true r' ∧ r'.Yields (.ok summary) ∧
          summary.Summarizes detail ∧
          ∃ v ∈ detail.all, ∃ v' ∈ detail.all, v ≠ v' ∧
            ∃ w ∈ summary.all, v.sourceSets ⊆ w.sourceSets ∧ v'.sourceSets ⊆ w.sourceSets := by
  intro context
  obtain ⟨succeed, σ, τ, common, js, differ, same⟩ := clockSet_signatures
  obtain ⟨detail, found⟩ := exists_variantsOf (by decide) (succeed false)
  obtain ⟨summary, found'⟩ := exists_variantsOf (by decide) (succeed true)
  obtain ⟨session, r, h, yields⟩ := exists_yields_of_variantsOf found
  obtain ⟨session', r', h', yields'⟩ := exists_yields_of_variantsOf found'
  have related :=
    ((clockSet.summarizes context).2.2 session session' r r' _ _ h h' yields yields').related
  refine ⟨session, session', r, r', detail, summary, h, yields, h', yields', related, ?_⟩
  have partition := isPartition_of_variantsOf found
  obtain ⟨v, hv, -, rfl⟩ := partition.exists_variant (by decide) common
  obtain ⟨v', hv', -, rfl⟩ := partition.exists_variant (by decide) js
  obtain ⟨w, hw, signed, sub⟩ := related.within v hv
  obtain ⟨w', hw', signed', sub'⟩ := related.within v' hv'
  obtain rfl : w = w' :=
    (isPartition_of_variantsOf found').eq_of_signature hw hw' (by rw [signed, signed', same])
  exact ⟨v, hv, v', hv', fun eq => differ (congrArg _ eq), w, hw, sub, sub'⟩

end Diglot
