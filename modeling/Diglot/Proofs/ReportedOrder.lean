import Diglot.Proofs.JavaAliases
import Diglot.Proofs.ShownConstants

/-!
# The order in which modifiers are reported

Compilers may report the same modifiers in another order, or report some of them twice. Displays
put the modifiers that are listed in an order of their own, and leave the others in the order in
which they come. So reports of the same modifiers can differ on a display, but in nothing else than
the order of these.

* `ModifierContext.SameReport` — reports that a display does not tell apart.
* `Modifier.alike_displayed` — displays of the same modifiers, and when they are equal.
* `signatureOf_sameReport`, `variantsOf_sameReport` — declarations that differ in such reports only.
* `report_order` — what that means for the groups of source sets.
* `report_order_matters` — two unlisted modifiers are enough to keep source sets apart.
-/

namespace Diglot

/-- **Reports of the same modifiers** in which those that a display leaves in their order come in
the same order, wherever each of them comes first. -/
structure ModifierContext.SameReport (context : ModifierContext)
    (reported reported' : List Modifier) : Prop where
  /-- the same modifiers are reported -/
  mem_iff : ∀ m, m ∈ reported ↔ m ∈ reported'
  /-- displayed modifiers that are not listed are first reported in the same order -/
  order : ∀ a b, context.Shows reported a → context.Shows reported b →
    a.orderIndex? = none → b.orderIndex? = none →
      (reported.idxOf a < reported.idxOf b ↔ reported'.idxOf a < reported'.idxOf b)

namespace Modifier

/-- **Displays of the same modifiers**, for reports that may differ in their order. -/
structure SameModifiers (context : ModifierContext)
    (reported reported' shown shown' : List Modifier) : Prop where
  /-- the modifiers are the same -/
  perm : shown'.Perm shown
  /-- those that are listed in the order of display stand in the same order -/
  listed : (shown'.filter fun m => m.orderIndex?.isSome) =
    shown.filter fun m => m.orderIndex?.isSome
  /-- the displays are the same exactly if the others are first reported in the same order -/
  eq_iff : shown' = shown ↔ context.SameReport reported reported'

variable {context : ModifierContext} {reported reported' shown shown' : List Modifier}

/-- Modifiers stand in the same order if unlisted ones are reported in the same order. -/
theorem precedes_congr {a b : Modifier} (same : a.orderIndex? = none → b.orderIndex? = none →
    (reported.idxOf a < reported.idxOf b ↔ reported'.idxOf a < reported'.idxOf b)) :
    Precedes reported a b ↔ Precedes reported' a b := by
  unfold Precedes
  split
  · rename_i first second
    exact same first second
  all_goals exact Iff.rfl

/-- A list that stands in the order of two reports has its unlisted modifiers in the same order in
both. -/
theorem idxOf_lt_iff_of_pairwise (order : shown.Pairwise (Precedes reported))
    (order' : shown.Pairwise (Precedes reported')) {a b : Modifier} (memA : a ∈ shown)
    (memB : b ∈ shown) (unlisted : a.orderIndex? = none) (unlisted' : b.orderIndex? = none) :
    reported.idxOf a < reported.idxOf b ↔ reported'.idxOf a < reported'.idxOf b := by
  have both := order.and order'
  have same : Precedes reported a b ↔ Precedes reported' a b := by
    refine List.Pairwise.forall_of_forall_of_flip
      (R := fun a b => Precedes reported a b ↔ Precedes reported' a b) ?_ ?_ ?_ memA memB
    · exact fun m _ => iff_of_false (fun h => h.asymm h) fun h => h.asymm h
    · exact both.imp fun h => iff_of_true h.1 h.2
    · exact both.imp fun h => iff_of_false h.1.asymm h.2.asymm
  simpa only [Precedes, unlisted, unlisted'] using same

/-- Displays of the same modifiers that succeed have the same modifiers. -/
theorem sameModifiers_of_displayed (same : ∀ m, m ∈ reported ↔ m ∈ reported')
    (found : displayed context reported = .ok shown)
    (found' : displayed context reported' = .ok shown') :
    SameModifiers context reported reported' shown shown' := by
  have order := pairwise_displayed found
  have order' := pairwise_displayed found'
  have members : ∀ m, m ∈ shown' ↔ m ∈ shown := fun m => by
    rw [mem_displayed found, mem_displayed found', ModifierContext.shows_congr same]
  refine ⟨?_, ?_, ?_, fun report => ?_⟩
  · exact (List.perm_ext_iff_of_nodup (nodup_of_pairwise order')
      (nodup_of_pairwise order)).mpr members
  · -- the order of listed modifiers is that of every report
    refine eq_of_pairwise ?_ (order.filter _) fun m => ?_
    · refine (order'.filter _).imp_of_mem fun memA _ before => ?_
      have listed := (List.mem_filter.mp memA).2
      refine (precedes_congr fun unlisted _ => ?_).mpr before
      rw [unlisted] at listed
      cases listed
    · rw [List.mem_filter, List.mem_filter, members]
  · rintro rfl
    refine ⟨same, fun a b showsA showsB => ?_⟩
    exact idxOf_lt_iff_of_pairwise order order' ((mem_displayed found).mpr showsA)
      ((mem_displayed found).mpr showsB)
  · refine eq_of_pairwise (order'.imp_of_mem fun memA memB => (precedes_congr ?_).mpr) order members
    exact report.order _ _ ((mem_displayed found).mp ((members _).mp memA))
      ((mem_displayed found).mp ((members _).mp memB))

/-- **Displays of the same modifiers** have the same modifiers, or fail for the same reason. -/
theorem alike_displayed (context : ModifierContext) (same : ∀ m, m ∈ reported ↔ m ∈ reported') :
    Alike (SameModifiers context reported reported') (displayed context reported)
      (displayed context reported') := by
  have fails : ∀ e, displayed context reported = .error e ↔
      displayed context reported' = .error e := fun e => by
    rw [displayed_eq_error_iff, displayed_eq_error_iff, same]
  cases found : displayed context reported with
  | error e =>
    rw [(fails e).mp found]
    exact .fails e
  | ok shown =>
    cases found' : displayed context reported' with
    | error e =>
      rw [(fails e).mpr found'] at found
      cases found
    | ok shown' => exact .succeeds (sameModifiers_of_displayed same found found')

/-- Displays do not tell apart two reports that are the same in the sense of `SameReport`. -/
theorem displayed_eq_of_sameReport (report : context.SameReport reported reported') :
    displayed context reported' = displayed context reported := by
  have alike := alike_displayed context report.mem_iff
  generalize displayed context reported = outcome at alike
  generalize displayed context reported' = outcome' at alike
  cases alike with
  | fails e => rfl
  | succeeds related => exact congrArg Except.ok (related.eq_iff.mpr report)

end Modifier

/-! ## Declarations -/

section

variable {context : Context} {declaration : Declaration} {inSummary : Bool}
  {modifiers : BySourceSet (List Modifier)}

/-- **Signatures do not tell apart two reports** that are the same in the sense of `SameReport`. -/
theorem signatureOf_sameReport {s : SourceSet}
    (report : (context.declarationModifiers declaration declaration.element inSummary).SameReport
      (declaration.modifiersAt s.name) ({ declaration with modifiers }.modifiersAt s.name)) :
    signatureOf context { declaration with modifiers } inSummary s =
      signatureOf context declaration inSummary s := by
  have display : shownModifiers context { declaration with modifiers } declaration.element s
      inSummary = shownModifiers context declaration declaration.element s inSummary :=
    Modifier.displayed_eq_of_sameReport report
  have constant : ∀ detail, { declaration with modifiers }.isConstant detail s.name =
      declaration.isConstant detail s.name := fun detail => by
    rw [Bool.eq_iff_iff, Declaration.isConstant_iff, Declaration.isConstant_iff,
      ← report.mem_iff, ← report.mem_iff, ← report.mem_iff]
  clear report
  obtain ⟨_, _, _, _, _, _, _, _, _, _, detail⟩ := declaration
  cases detail with
  | function detail =>
    refine congrArg (Functor.map Signature.function) ?_
    unfold renderFunction
    exact congrArg (fun shown => attempt shown >>= _) display
  | property detail =>
    refine congrArg (Functor.map Signature.property) ?_
    unfold renderProperty
    rw [constant]
    exact congrArg (fun shown => attempt shown >>= _) display

/-- Declarations with the same reports have the same groups of source sets, or fail in the same
way. -/
theorem variantsOf_sameReport
    (report : ∀ s ∈ declaration.sourceSets,
      (context.declarationModifiers declaration declaration.element inSummary).SameReport
        (declaration.modifiersAt s.name) ({ declaration with modifiers }.modifiersAt s.name)) :
    variantsOf context { declaration with modifiers } inSummary =
      variantsOf context declaration inSummary := by
  have signed : declaration.sourceSets.mapM'
        (signedIn context { declaration with modifiers } inSummary) =
      declaration.sourceSets.mapM' (signedIn context declaration inSummary) :=
    mapM'_congr fun s mem => by rw [signedIn, signedIn, signatureOf_sameReport (report s mem)]
  rw [variantsOf_eq, variantsOf_eq, signed]
  rfl

end

/-- **The order in which modifiers are reported** matters only for those that displays leave in
their order. Of reports with the same modifiers either both displays fail, or both have the same
modifiers, the listed ones in the same order; they are equal exactly if the others are first
reported in the same order. Reports that do not differ in more than that leave the groups of source
sets as they are. In the groups, two source sets that report the same modifiers have signatures with
modifiers that are related in this way. -/
theorem report_order (context : Context) (declaration : Declaration) (inSummary : Bool) :
    (∀ (display : ModifierContext) (reported reported' : List Modifier),
      (∀ m, m ∈ reported ↔ m ∈ reported') →
        Alike (Modifier.SameModifiers display reported reported')
          (Modifier.displayed display reported) (Modifier.displayed display reported')) ∧
    (∀ modifiers : BySourceSet (List Modifier),
      (∀ s ∈ declaration.sourceSets,
        (context.declarationModifiers declaration declaration.element inSummary).SameReport
          (declaration.modifiersAt s.name) ({ declaration with modifiers }.modifiersAt s.name)) →
        variantsOf context { declaration with modifiers } inSummary =
          variantsOf context declaration inSummary) ∧
    ∀ variants, variantsOf context declaration inSummary = .ok variants →
      ∀ v ∈ variants.all, ∀ w ∈ variants.all, ∀ s ∈ v.sourceSets, ∀ t ∈ w.sourceSets,
        (∀ m, m ∈ declaration.modifiersAt s.name ↔ m ∈ declaration.modifiersAt t.name) →
          Modifier.SameModifiers
            (context.declarationModifiers declaration declaration.element inSummary)
            (declaration.modifiersAt s.name) (declaration.modifiersAt t.name)
            v.signature.modifiers w.signature.modifiers := by
  refine ⟨fun display reported reported' => Modifier.alike_displayed display,
    fun modifiers => variantsOf_sameReport, ?_⟩
  intro variants found v memV w memW s memS t memT same
  have own := (isPartition_of_variantsOf found).own
  exact Modifier.sameModifiers_of_displayed same (modifiers_of_signatureOf (own v memV s memS))
    (modifiers_of_signatureOf (own w memW t memT))

/-- A field of Java in two source sets, each of which reports its modifiers. -/
def countField (inAndroid inJvm : List Modifier) : Declaration where
  identity := ⟨"com.example", some "Counter", some "count"⟩
  name := "count"
  sourceSets := [⟨.jvm, "androidMain"⟩, ⟨.jvm, "jvmMain"⟩]
  fromJava := true
  modifiers := (BySourceSet.insert ∅ "androidMain" inAndroid).insert "jvmMain" inJvm
  detail := .property { type := .primitive "int" }

/-- Of the modifiers of `countField` one is left in its order, so its two reports are not told
apart. -/
theorem report_order_countField :
    let context := Context.reference .kotlin {}
    let reported : List Modifier := [.volatile, .publicAccess, .abstractMember]
    let reported' : List Modifier := [.abstractMember, .volatile, .publicAccess, .abstractMember]
    let field := countField reported reported'
    let display := context.declarationModifiers field .property false
    display.SameReport reported reported' ∧
      variantsOf context (countField reported' reported) false = variantsOf context field false ∧
      ∃ variants, variantsOf context field false = .ok variants ∧
        ∀ v ∈ variants.all, ∀ w ∈ variants.all, ⟨.jvm, "androidMain"⟩ ∈ v.sourceSets →
          ⟨.jvm, "jvmMain"⟩ ∈ w.sourceSets → v.signature.modifiers = w.signature.modifiers := by
  intro context reported reported' field display
  obtain ⟨alike, unchanged, groups⟩ := report_order context field false
  have same : ∀ m, m ∈ reported ↔ m ∈ reported' := by
    intro m
    simp only [reported, reported', List.mem_cons, List.not_mem_nil, or_false]
    tauto
  have shown : Modifier.displayed display reported = .ok [.volatile, .abstractMember] := by decide
  have shown' : Modifier.displayed display reported' = .ok [.volatile, .abstractMember] := by decide
  have report : display.SameReport reported reported' := by
    have related := alike display reported reported' same
    rw [shown, shown'] at related
    cases related with
    | succeeds related => exact related.eq_iff.mp rfl
  have report' : display.SameReport reported' reported := by
    have related := alike display reported' reported fun m => (same m).symm
    rw [shown, shown'] at related
    cases related with
    | succeeds related => exact related.eq_iff.mp rfl
  have succeeds : (fun variants => variants.all.length) <$> variantsOf context field false =
      .ok 1 := by decide +kernel
  obtain ⟨variants, found, -⟩ := map_eq_ok.mp succeeds
  refine ⟨report, unchanged (countField reported' reported).modifiers ?_, variants, found, ?_⟩
  · intro s mem
    rcases List.mem_pair.mp mem with rfl | rfl
    · exact report
    · exact report'
  · intro v memV w memW inV inW
    exact ((groups variants found v memV w memW _ inV _ inW same).eq_iff.mpr report).symm

/-- **Reports of the same modifiers in another order** may be displayed differently, and keep source
sets apart that are in one group if both report them in the same order. -/
theorem report_order_matters :
    let context := Context.reference .kotlin {}
    let reported : List Modifier := [.transient, .volatile]
    let reported' : List Modifier := [.volatile, .transient]
    let field := countField reported reported'
    let display := context.declarationModifiers field .property false
    (∀ m, m ∈ reported ↔ m ∈ reported') ∧
      Modifier.displayed display reported = .ok reported ∧
      Modifier.displayed display reported' = .ok reported' ∧ reported ≠ reported' ∧
      (∃ variants, variantsOf context field false = .ok variants ∧
        ∀ v ∈ variants.all, ⟨.jvm, "androidMain"⟩ ∈ v.sourceSets →
          ⟨.jvm, "jvmMain"⟩ ∉ v.sourceSets) ∧
      (fun variants => variants.all.map Variant.sourceSets) <$>
        variantsOf context (countField reported reported) false =
          .ok [[⟨.jvm, "androidMain"⟩, ⟨.jvm, "jvmMain"⟩]] := by
  intro context reported reported' field display
  have inAndroid : Signature.modifiers <$>
      signatureOf context field false ⟨.jvm, "androidMain"⟩ = .ok reported := by decide +kernel
  have inJvm : Signature.modifiers <$>
      signatureOf context field false ⟨.jvm, "jvmMain"⟩ = .ok reported' := by decide +kernel
  have differ : reported ≠ reported' := by decide
  have succeed : ∀ s ∈ field.sourceSets, ∃ σ, signatureOf context field false s = .ok σ := by
    intro s mem
    rcases List.mem_pair.mp mem with rfl | rfl
    · exact (map_eq_ok.mp inAndroid).imp fun _ found => found.1
    · exact (map_eq_ok.mp inJvm).imp fun _ found => found.1
  obtain ⟨variants, found⟩ := exists_variantsOf (by decide) succeed
  refine ⟨fun m => ?_, by decide, by decide, differ, ⟨variants, found, fun v mem memA memJ => ?_⟩,
    by decide +kernel⟩
  · simp only [reported, reported', List.mem_cons, List.not_mem_nil, or_false]
    exact or_comm
  · -- in one group both would have its signature
    have own := (isPartition_of_variantsOf found).own v mem
    rw [own _ memA] at inAndroid
    rw [own _ memJ] at inJvm
    exact differ ((Except.ok.inj inAndroid).symm.trans (Except.ok.inj inJvm))

end Diglot
