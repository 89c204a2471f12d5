import Diglot.Proofs.DisplayedModifiers
import Diglot.Proofs.Outcome

/-!
# Constants are marked as constants

Whether the value of a property is shown is decided by the modifiers that are reported, and by
whether there is a getter. Whether the property is marked as a constant is decided by the rules for
displaying modifiers. The two decisions are made apart; this module compares them.

* `modifiers_of_signatureOf` and `constant_of_signatureOf` — what signatures take from the
  two decisions.
* `Declaration.marked_in_kotlin`, `Declaration.marked_in_java` — the marks, by what is reported.
* `constants_marked` — values are shown beside marks, and where a mark has no value.
-/

namespace Diglot

/-! ## Parts of signatures -/

/-- The displayed modifiers. -/
def Signature.modifiers : Signature → List Modifier
  | function s => s.modifiers
  | property s => s.modifiers

/-- The value that is shown, if there is one. -/
def Signature.constant : Signature → Option String
  | function _ => none
  | property s => s.constant

/-- The kind of element that is declared. -/
def Declaration.element (declaration : Declaration) : ElementKind :=
  match declaration.detail with
  | .function detail => detail.element
  | .property _ => .property

section

variable {context : Context} {declaration : Declaration} {inSummary : Bool} {s : SourceSet}

/-- A signature has the modifiers of the declaration in its source set. -/
theorem modifiers_of_signatureOf {signature : Signature}
    (found : signatureOf context declaration inSummary s = .ok signature) :
    shownModifiers context declaration declaration.element s inSummary =
      .ok signature.modifiers := by
  unfold signatureOf renderSignature at found
  cases isDetail : declaration.detail with
  | function detail =>
    rw [isDetail] at found
    rw [Declaration.element, isDetail]
    obtain ⟨shown, rendered, rfl⟩ := map_eq_ok.mp found
    unfold renderFunction at rendered
    obtain ⟨modifiers, displayed, rendered⟩ := bind_eq_ok.mp rendered
    obtain ⟨returnType, -, rendered⟩ := bind_eq_ok.mp rendered
    obtain ⟨typeParameters, -, rendered⟩ := bind_eq_ok.mp rendered
    obtain ⟨parameters, -, rendered⟩ := bind_eq_ok.mp rendered
    obtain ⟨receivers, -, rendered⟩ := bind_eq_ok.mp rendered
    obtain ⟨annotations, -, rendered⟩ := bind_eq_ok.mp rendered
    rw [attempt_eq] at displayed
    cases rendered
    exact displayed
  | property detail =>
    rw [isDetail] at found
    rw [Declaration.element, isDetail]
    obtain ⟨shown, rendered, rfl⟩ := map_eq_ok.mp found
    unfold renderProperty at rendered
    obtain ⟨modifiers, displayed, rendered⟩ := bind_eq_ok.mp rendered
    obtain ⟨type, -, rendered⟩ := bind_eq_ok.mp rendered
    obtain ⟨receivers, -, rendered⟩ := bind_eq_ok.mp rendered
    obtain ⟨annotations, -, rendered⟩ := bind_eq_ok.mp rendered
    rw [attempt_eq] at displayed
    cases rendered
    exact displayed

/-- The signature of a property shows its value if it is a constant. -/
theorem constant_of_signatureOf {detail : PropertyDetail}
    (isProperty : declaration.detail = .property detail) {signature : Signature}
    (found : signatureOf context declaration inSummary s = .ok signature) :
    signature.constant =
      if declaration.isConstant detail s.name then detail.constant else none := by
  unfold signatureOf renderSignature at found
  rw [isProperty] at found
  obtain ⟨shown, rendered, rfl⟩ := map_eq_ok.mp found
  unfold renderProperty at rendered
  obtain ⟨modifiers, -, rendered⟩ := bind_eq_ok.mp rendered
  obtain ⟨type, -, rendered⟩ := bind_eq_ok.mp rendered
  obtain ⟨receivers, -, rendered⟩ := bind_eq_ok.mp rendered
  obtain ⟨annotations, -, rendered⟩ := bind_eq_ok.mp rendered
  cases rendered
  rfl

end

/-! ## The two decisions -/

namespace Declaration

open Modifier

variable {declaration : Declaration}

/-- Values are shown of what is reported as a constant, and of static final fields of Java without
a getter. -/
theorem isConstant_iff {detail : PropertyDetail} {sourceSet : String} :
    declaration.isConstant detail sourceSet = true ↔
      const ∈ declaration.modifiersAt sourceSet ∨
        (declaration.fromJava ∧ static ∈ declaration.modifiersAt sourceSet ∧
          final ∈ declaration.modifiersAt sourceSet ∧ detail.hasGetter = false) := by
  simp [isConstant, and_assoc]

section

variable {context : Context} {inSummary : Bool} {s : SourceSet} {shown : List Modifier}
  (displayed : shownModifiers context declaration .property s inSummary = .ok shown)

include displayed

/-- Kotlin marks what is reported as a constant, and static final fields of Java. -/
theorem marked_in_kotlin (kotlin : context.dialect = .kotlin) : const ∈ shown ↔
    const ∈ declaration.modifiersAt s.name ∨
      (declaration.fromJava ∧ static ∈ declaration.modifiersAt s.name ∧
        final ∈ declaration.modifiersAt s.name) := by
  rw [mem_displayed displayed, ModifierContext.shows_of_kotlin kotlin]
  grind [ModifierContext.InKotlin, ModifierContext.IsConstantField, ModifierContext.isProperty,
    Context.declarationModifiers]

/-- Java marks what is reported as a constant, or static and final. -/
theorem marked_in_java (java : context.dialect = .java)
    (reported : const ∈ declaration.modifiersAt s.name ∨
      (static ∈ declaration.modifiersAt s.name ∧ final ∈ declaration.modifiersAt s.name)) :
    static ∈ shown ∧ final ∈ shown := by
  rw [mem_displayed displayed, mem_displayed displayed, ModifierContext.shows_of_java java,
    ModifierContext.shows_of_java java]
  grind [ModifierContext.InJava, Context.declarationModifiers]

end

end Declaration

/-- **Constants are marked as constants.** A value that the signature of a property shows stands
beside `const` in Kotlin, and beside `static` and `final` in Java. In Kotlin a property that is
marked as a constant shows the value that it has, unless it is a static final field of Java that is
read through a getter. -/
theorem constants_marked (context : Context) (declaration : Declaration) (inSummary : Bool)
    (s : SourceSet) {detail : PropertyDetail} (isProperty : declaration.detail = .property detail)
    {signature : Signature}
    (found : signatureOf context declaration inSummary s = .ok signature) :
    (∀ value, signature.constant = some value → detail.constant = some value ∧
      (context.dialect = .kotlin → .const ∈ signature.modifiers) ∧
      (context.dialect = .java → .static ∈ signature.modifiers ∧ .final ∈ signature.modifiers)) ∧
    (context.dialect = .kotlin → .const ∈ signature.modifiers →
      ∀ value, detail.constant = some value → signature.constant ≠ some value →
        declaration.fromJava = true ∧ detail.hasGetter = true ∧
          .const ∉ declaration.modifiersAt s.name) := by
  have constant := constant_of_signatureOf isProperty found
  have displayed := modifiers_of_signatureOf found
  rw [Declaration.element, isProperty] at displayed
  refine ⟨fun value shows => ?_, fun kotlin marked value known hidden => ?_⟩
  · rw [constant] at shows
    split at shows
    · rename_i isConstant
      have reported := Declaration.isConstant_iff.mp isConstant
      refine ⟨shows, fun kotlin => ?_, fun java => ?_⟩
      · exact (Declaration.marked_in_kotlin displayed kotlin).mpr
          (reported.imp_right fun h => ⟨h.1, h.2.1, h.2.2.1⟩)
      · exact Declaration.marked_in_java displayed java
          (reported.imp_right fun h => ⟨h.2.1, h.2.2.1⟩)
    · cases shows
  · have varies : ¬ declaration.isConstant detail s.name = true := by
      intro isConstant
      rw [if_pos isConstant] at constant
      exact hidden (constant.trans known)
    rw [Declaration.isConstant_iff, not_or] at varies
    obtain ⟨unreported, noField⟩ := varies
    rcases (Declaration.marked_in_kotlin displayed kotlin).mp marked with reported | field
    · exact absurd reported unreported
    · obtain ⟨fromJava, isStatic, isFinal⟩ := field
      refine ⟨fromJava, ?_, unreported⟩
      by_contra direct
      exact noField ⟨fromJava, isStatic, isFinal, Bool.eq_false_iff.mpr direct⟩

/-- A static final field of Java, with a getter or without. -/
def maxSize (hasGetter : Bool) : Declaration where
  identity := ⟨"com.example", some "Buffer", some "MAX_SIZE"⟩
  name := "MAX_SIZE"
  sourceSets := [⟨.jvm, "jvmMain"⟩]
  fromJava := true
  modifiers := .insert ∅ "jvmMain" [.publicAccess, .static, .final]
  detail := .property { type := .primitive "int", constant := some "64", hasGetter }

/-- Without a getter the field shows its value, beside the marks of each language. With a getter it
is marked in Kotlin and shows no value. -/
theorem constants_marked_maxSize :
    let s : SourceSet := ⟨.jvm, "jvmMain"⟩
    let kotlin := Context.reference .kotlin {}
    let java := Context.reference .java {}
    ∃ inKotlin inJava behindGetter,
      signatureOf kotlin (maxSize false) false s = .ok inKotlin ∧
      signatureOf java (maxSize false) false s = .ok inJava ∧
      signatureOf kotlin (maxSize true) false s = .ok behindGetter ∧
      (inKotlin.constant = some "64" ∧ .const ∈ inKotlin.modifiers) ∧
      (inJava.constant = some "64" ∧ .static ∈ inJava.modifiers ∧ .final ∈ inJava.modifiers) ∧
      (behindGetter.constant = none ∧ .const ∈ behindGetter.modifiers ∧
        .const ∉ (maxSize true).modifiersAt s.name) := by
  intro s kotlin java
  have value : Signature.constant <$> signatureOf kotlin (maxSize false) false s =
      .ok (some "64") := by decide +kernel
  have value' : Signature.constant <$> signatureOf java (maxSize false) false s =
      .ok (some "64") := by decide +kernel
  have noValue : (fun signature => (signature.constant, signature.modifiers)) <$>
      signatureOf kotlin (maxSize true) false s = .ok (none, [.const]) := by decide +kernel
  obtain ⟨inKotlin, found, value⟩ := map_eq_ok.mp value
  obtain ⟨inJava, found', value'⟩ := map_eq_ok.mp value'
  obtain ⟨behindGetter, found'', noValue⟩ := map_eq_ok.mp noValue
  obtain ⟨noValue, marks⟩ := Prod.mk.inj noValue
  have mark : Modifier.const ∈ behindGetter.modifiers := marks ▸ List.mem_singleton.mpr rfl
  have inKotlinMarked := (constants_marked kotlin (maxSize false) false s rfl found).1 "64" value
  have inJavaMarked := (constants_marked java (maxSize false) false s rfl found').1 "64" value'
  have unreported := (constants_marked kotlin (maxSize true) false s rfl found'').2 rfl mark "64"
    rfl (by rw [noValue]; exact nofun)
  exact ⟨inKotlin, inJava, behindGetter, found, found', found'', ⟨value, inKotlinMarked.2.1 rfl⟩,
    ⟨value', inJavaMarked.2.2 rfl⟩, noValue, mark, unreported.2.2⟩

end Diglot
