import Diglot.Proofs.Consolidation

/-!
# Variants with the same text

Source sets are in one variant if their signatures are equal, and a signature has more to it
than its text. What the text does not depend on is left out by `Signature.visible`: where links
lead, whether the declaration is deprecated, which of several reasons made a type not null, and
the parts of a receiver, of a constructor and of Java parameters that are not written
(`Signature.text_visible`).

Two variants of a declaration therefore have the same text if their signatures differ in
such things only. An annotation that Kotlin does not show is enough, as it leaves its trace in
the nullability.
-/

namespace Diglot

/-! ## What is visible -/

/-- The name of a link. -/
def Link.visible (link : Link) : Link := .unlinked link.name

/-- One nullability for all that Kotlin writes in the same way. -/
def Nullability.visible : Nullability → Nullability
  | kotlinNullable | annotatedNullable => kotlinNullable
  | unannotated => unannotated
  | kotlinDefault | annotatedNonNull | neverNull | unimportant => kotlinDefault

@[simp]
theorem Nullability.kotlinSuffix_visible (n : Nullability) :
    n.visible.kotlinSuffix = n.kotlinSuffix := by
  cases n <;> rfl

mutual

/-- What is visible of an argument. -/
def ShownArgument.visible : ShownArgument → ShownArgument
  | .value name value => .value name value
  | .array name elements => .array name (ShownArgument.visibleList elements)
  | .nested name inner => .nested name inner.visible

/-- What is visible of a list of arguments. -/
def ShownArgument.visibleList : List ShownArgument → List ShownArgument
  | [] => []
  | argument :: rest => argument.visible :: ShownArgument.visibleList rest

/-- What is visible of an annotation. -/
def ShownAnnotation.visible : ShownAnnotation → ShownAnnotation
  | ⟨link, arguments⟩ => ⟨link.visible, ShownArgument.visibleList arguments⟩

end

mutual

@[simp]
theorem ShownArgument.text_visible : ∀ argument : ShownArgument,
    argument.visible.text = argument.text
  | .value name value => by rw [ShownArgument.visible]
  | .array name elements => by
    simp only [ShownArgument.visible, ShownArgument.text, ShownArgument.textList_visible elements]
  | .nested name inner => by
    simp only [ShownArgument.visible, ShownArgument.text, ShownAnnotation.text_visible inner]

@[simp]
theorem ShownArgument.textList_visible : ∀ arguments : List ShownArgument,
    ShownArgument.textList (ShownArgument.visibleList arguments) =
      ShownArgument.textList arguments
  | [] => rfl
  | [argument] => by
    simp only [ShownArgument.visibleList, ShownArgument.textList,
      ShownArgument.text_visible argument]
  | first :: second :: rest => by
    have others := ShownArgument.textList_visible (second :: rest)
    simp only [ShownArgument.visibleList] at others
    simp only [ShownArgument.visibleList, ShownArgument.textList,
      ShownArgument.text_visible first, others]

@[simp]
theorem ShownAnnotation.text_visible : ∀ annotation : ShownAnnotation,
    annotation.visible.text = annotation.text
  | ⟨link, []⟩ => rfl
  | ⟨link, first :: rest⟩ => by
    have all := ShownArgument.textList_visible (first :: rest)
    simp only [ShownArgument.visibleList] at all
    simp only [ShownArgument.visibleList, ShownAnnotation.visible, ShownAnnotation.text, all,
      Link.visible, Link.unlinked]

end

@[simp]
theorem ShownAnnotation.lead_visible (annotations : List ShownAnnotation) :
    lead (annotations.map ShownAnnotation.visible) = lead annotations := by
  induction annotations with
  | nil => rfl
  | cons annotation rest ih => rw [List.map_cons, lead, lead, ih, text_visible]

/-! ### Types -/

/-- What is visible of a face: Java writes nothing for the nullability. -/
def Face.visible (face : Face) : Face where
  nullability :=
    match face.dialect with
    | .java => .unimportant
    | .kotlin => face.nullability.visible
  dialect := face.dialect
  annotations := face.annotations.map ShownAnnotation.visible

@[simp]
theorem Face.suffix_visible (face : Face) : face.visible.suffix = face.suffix := by
  obtain ⟨nullability, dialect, annotations⟩ := face
  cases dialect with
  | java => rfl
  | kotlin => exact nullability.kotlinSuffix_visible

@[simp]
theorem Face.lead_visible (face : Face) :
    ShownAnnotation.lead face.visible.annotations = ShownAnnotation.lead face.annotations :=
  ShownAnnotation.lead_visible face.annotations

/-- What is visible of the face of a function type, which is always written as in Kotlin. -/
def Face.visibleLambda (face : Face) : Face where
  nullability := face.nullability.visible
  dialect := face.dialect
  annotations := face.annotations.map ShownAnnotation.visible

@[simp]
theorem lambdaText_visible (face : Face) (isSuspend : Bool) (receiver : String)
    (parameters : List String) (returnType : String) :
    lambdaText face.visibleLambda isSuspend receiver parameters returnType =
      lambdaText face isSuspend receiver parameters returnType := by
  simp only [lambdaText, Face.visibleLambda, Nullability.kotlinSuffix_visible,
    ShownAnnotation.lead_visible]

/-- What is visible of the modifiers of a parameter: Java only asks for `vararg`. -/
def visibleModifiers (dialect : Dialect) (modifiers : List Modifier) : List Modifier :=
  match dialect with
  | .java => if modifiers.contains .vararg then [.vararg] else []
  | .kotlin => modifiers

mutual

/-- What is visible of a type. -/
def ShownType.visible : ShownType → ShownType
  | .plain face link arguments =>
    .plain face.visible link.visible (ShownType.visibleList arguments)
  | .mapped face link mutable arguments =>
    .mapped face.visible link.visible mutable.visible (ShownType.visibleList arguments)
  | .lambda face isSuspend receiver parameters returnType =>
    .lambda face.visibleLambda isSuspend (ShownType.visibleReceiver receiver)
      (ShownParameter.visibleList parameters) returnType.visible

/-- What is visible of a list of types. -/
def ShownType.visibleList : List ShownType → List ShownType
  | [] => []
  | type :: rest => type.visible :: ShownType.visibleList rest

/-- What is visible of a receiver. -/
def ShownType.visibleReceiver : Option ShownType → Option ShownType
  | none => none
  | some receiver => some receiver.visible

/-- What is visible of a list of parameters. -/
def ShownParameter.visibleList : List ShownParameter → List ShownParameter
  | [] => []
  | parameter :: rest => parameter.visible :: ShownParameter.visibleList rest

/-- What is visible of a parameter. -/
def ShownParameter.visible : ShownParameter → ShownParameter
  | ⟨name, type, default, modifiers, annotations, dialect⟩ =>
    ⟨name, type.visible, default, visibleModifiers dialect modifiers,
      annotations.map ShownAnnotation.visible, dialect⟩

end

/-- Around a type, a parameter is written in the same way. -/
theorem ShownParameter.textWith_visible (parameter : ShownParameter) (text : String) :
    parameter.visible.textWith text = parameter.textWith text := by
  obtain ⟨name, type, default, modifiers, annotations, dialect⟩ := parameter
  rw [ShownParameter.visible]
  cases dialect with
  | java =>
    by_cases vararg : modifiers.contains .vararg
    · simp only [textWith, visibleModifiers, vararg, ShownAnnotation.lead_visible, if_true]
      rfl
    · simp only [textWith, visibleModifiers, vararg, ShownAnnotation.lead_visible]
      rfl
  | kotlin => simp only [textWith, visibleModifiers, ShownAnnotation.lead_visible]

mutual

@[simp]
theorem ShownType.text_visible : ∀ type : ShownType, type.visible.text = type.text
  | .plain face link arguments => by
    simp only [ShownType.visible, ShownType.text, Face.lead_visible, Face.suffix_visible,
      ShownType.texts_visible arguments, Link.visible, Link.unlinked]
  | .mapped face link mutable arguments => by
    simp only [ShownType.visible, ShownType.text, Face.lead_visible, Face.suffix_visible,
      ShownType.texts_visible arguments, Link.visible, Link.unlinked]
  | .lambda face isSuspend receiver parameters returnType => by
    simp only [ShownType.visible, ShownType.text, lambdaText_visible,
      ShownType.receiverText_visible receiver, ShownParameter.texts_visible parameters,
      ShownType.text_visible returnType]

@[simp]
theorem ShownType.texts_visible : ∀ types : List ShownType,
    ShownType.texts (ShownType.visibleList types) = ShownType.texts types
  | [] => rfl
  | type :: rest => by
    simp only [ShownType.visibleList, ShownType.texts, ShownType.text_visible type,
      ShownType.texts_visible rest]

@[simp]
theorem ShownType.receiverText_visible : ∀ receiver : Option ShownType,
    ShownType.receiverText (ShownType.visibleReceiver receiver) = ShownType.receiverText receiver
  | none => rfl
  | some receiver => by
    simp only [ShownType.visibleReceiver, ShownType.receiverText, ShownType.text_visible receiver]

@[simp]
theorem ShownParameter.texts_visible : ∀ parameters : List ShownParameter,
    ShownParameter.texts (ShownParameter.visibleList parameters) =
      ShownParameter.texts parameters
  | [] => rfl
  | parameter :: rest => by
    simp only [ShownParameter.visibleList, ShownParameter.texts,
      ShownParameter.text_visible parameter, ShownParameter.texts_visible rest]

@[simp]
theorem ShownParameter.text_visible : ∀ parameter : ShownParameter,
    parameter.visible.text = parameter.text
  | ⟨name, type, default, modifiers, annotations, dialect⟩ => by
    have around := ShownParameter.textWith_visible
      ⟨name, type, default, modifiers, annotations, dialect⟩ type.text
    simp only [ShownParameter.visible] at around
    simp only [ShownParameter.visible, ShownParameter.text, ShownType.text_visible type, around]

end

theorem ShownType.visibleList_eq_map (types : List ShownType) :
    visibleList types = types.map visible := by
  induction types with
  | nil => rfl
  | cons type rest ih => rw [visibleList, ih, List.map_cons]

/-! ### Signatures -/

namespace ShownTypeParameter

/-- What is visible of a type parameter. -/
def visible (parameter : ShownTypeParameter) : ShownTypeParameter where
  name := parameter.name
  bounds := parameter.bounds.map ShownType.visible
  dialect := parameter.dialect

@[simp]
theorem text_visible (parameter : ShownTypeParameter) :
    parameter.visible.text = parameter.text := by
  obtain ⟨name, bounds, dialect⟩ := parameter
  have texts : ShownType.texts (bounds.map ShownType.visible) = ShownType.texts bounds := by
    rw [← ShownType.visibleList_eq_map, ShownType.texts_visible]
  cases bounds with
  | nil => rfl
  | cons bound rest =>
    rw [List.map_cons] at texts
    cases dialect with
    | java => simp only [visible, text, List.map_cons, texts]
    | kotlin => simp only [visible, text, List.map_cons, ShownType.text_visible]

@[simp]
theorem lead_visible (parameters : List ShownTypeParameter) :
    lead (parameters.map visible) = lead parameters := by
  simp [lead, Function.comp_def]

@[simp]
theorem whereClause_visible (parameters : List ShownTypeParameter) :
    whereClause (parameters.map visible) = whereClause parameters := by
  have further : ∀ parameter : ShownTypeParameter,
      (parameter.visible.furtherBounds.map fun bound =>
          parameter.visible.name ++ " : " ++ bound.text) =
        parameter.furtherBounds.map fun bound => parameter.name ++ " : " ++ bound.text := by
    rintro ⟨name, bounds, dialect⟩
    cases dialect with
    | java => rfl
    | kotlin => simp [visible, furtherBounds, ← List.map_drop, Function.comp_def]
  simp only [whereClause, List.flatMap_map, further]

end ShownTypeParameter

/-- What is visible of the receiver of a Kotlin extension: its type. -/
def visibleReceiver (receiver : Option ShownParameter) : Option ShownParameter :=
  receiver.map fun parameter =>
    { name := "", type := parameter.type.visible, default := none, modifiers := [],
      annotations := [], dialect := parameter.dialect }

@[simp]
theorem receiverLead_visible (receiver : Option ShownParameter) :
    receiverLead (visibleReceiver receiver) = receiverLead receiver := by
  cases receiver with
  | none => rfl
  | some parameter => simp only [visibleReceiver, Option.map_some, receiverLead,
      ShownType.text_visible]

/-- A type that is not written. -/
def ShownType.unwritten (dialect : Dialect) : ShownType :=
  .plain ⟨.unimportant, dialect, []⟩ (.unlinked "") []

/-- What is visible of a function. In Java there is no receiver beside the parameters, a
constructor has no return type, and a Kotlin constructor has neither name nor type parameters. -/
def FunctionSignature.visible (s : FunctionSignature) : FunctionSignature where
  dialect := s.dialect
  name := if s.dialect = .kotlin ∧ s.isConstructor then .unlinked "" else s.name.visible
  modifiers := s.modifiers
  annotations := s.annotations.map ShownAnnotation.visible
  typeParameters :=
    if s.dialect = .kotlin ∧ s.isConstructor then []
    else s.typeParameters.map ShownTypeParameter.visible
  receiver := if s.dialect = .java ∨ s.isConstructor then none else visibleReceiver s.receiver
  parameters := ShownParameter.visibleList s.parameters
  returnType := if s.isConstructor then .unwritten s.dialect else s.returnType.visible
  isConstructor := s.isConstructor
  isDeprecated := false

theorem FunctionSignature.text_visible (s : FunctionSignature) : s.visible.text = s.text := by
  obtain ⟨dialect, name, modifiers, annotations, typeParameters, receiver, parameters, returnType,
    isConstructor, isDeprecated⟩ := s
  cases dialect <;> cases isConstructor <;>
    simp [FunctionSignature.visible, FunctionSignature.text, Link.visible, Link.unlinked]

/-- What is visible of a property. -/
def PropertySignature.visible (s : PropertySignature) : PropertySignature where
  dialect := s.dialect
  name := s.name.visible
  modifiers := s.modifiers
  annotations := s.annotations.map ShownAnnotation.visible
  receiver := if s.dialect = .java then none else visibleReceiver s.receiver
  type := s.type.visible
  isMutable := s.dialect = .kotlin && s.isMutable
  constant := s.constant
  isDeprecated := false

theorem PropertySignature.text_visible (s : PropertySignature) : s.visible.text = s.text := by
  obtain ⟨dialect, name, modifiers, annotations, receiver, type, isMutable, constant,
    isDeprecated⟩ := s
  cases dialect <;>
    simp [PropertySignature.visible, PropertySignature.text, Link.visible, Link.unlinked]

namespace Signature

/-- What is visible of a signature. -/
def visible : Signature → Signature
  | function s => .function s.visible
  | property s => .property s.visible

/-- **A text shows what is visible**, and nothing else. -/
theorem text_visible (σ : Signature) : σ.visible.text = σ.text := by
  cases σ with
  | function s => exact s.text_visible
  | property s => exact s.text_visible

/-- Signatures that differ in nothing visible have the same text. -/
theorem text_eq_of_visible_eq {σ τ : Signature} (same : σ.visible = τ.visible) :
    σ.text = τ.text := by
  rw [← σ.text_visible, same, τ.text_visible]

end Signature

/-! ## Variants with the same text -/

namespace IsPartition

variable {sourceSets : List SourceSet} {sign : SourceSet → Except RenderError Signature}
  {all : List Variant}

/-- The variant of a source set has its signature. -/
theorem exists_variant (h : IsPartition sourceSets sign all) {s : SourceSet} {σ : Signature}
    (mem : s ∈ sourceSets) (signed : sign s = .ok σ) :
    ∃ v ∈ all, s ∈ v.sourceSets ∧ v.signature = σ := by
  obtain ⟨v, hv, memV⟩ := (h.covers s).mpr mem
  refine ⟨v, hv, memV, ?_⟩
  have own := h.own v hv s memV
  rw [signed] at own
  exact (Except.ok.inj own).symm

/-- A variant has the signature of some source set. -/
theorem exists_sourceSet (h : IsPartition sourceSets sign all) {v : Variant} (hv : v ∈ all) :
    ∃ s ∈ sourceSets, sign s = .ok v.signature := by
  obtain ⟨s, mem⟩ := List.exists_mem_of_ne_nil _ (h.nonempty v hv)
  exact ⟨s, (h.covers s).mp ⟨v, hv, mem⟩, h.own v hv s mem⟩

/-- Variants with the same signature are the same. -/
theorem eq_of_signature (h : IsPartition sourceSets sign all) {v w : Variant} (hv : v ∈ all)
    (hw : w ∈ all) (same : v.signature = w.signature) : v = w := by
  have injective := List.pairwise_map.mpr h.distinct
  exact List.inj_on_of_nodup_map injective hv hw same

/-- **The texts of the variants differ** exactly if source sets with the same text have the
same signature. -/
theorem texts_injective_iff (h : IsPartition sourceSets sign all) :
    (∀ v ∈ all, ∀ w ∈ all, v.signature.text = w.signature.text → v = w) ↔
      ∀ s ∈ sourceSets, ∀ t ∈ sourceSets, ∀ σ τ, sign s = .ok σ → sign t = .ok τ →
        σ.text = τ.text → σ = τ := by
  constructor
  · intro injective s hs t ht σ τ signedS signedT text
    obtain ⟨v, hv, -, rfl⟩ := h.exists_variant hs signedS
    obtain ⟨w, hw, -, rfl⟩ := h.exists_variant ht signedT
    rw [injective v hv w hw text]
  · intro determined v hv w hw text
    obtain ⟨s, hs, signedS⟩ := h.exists_sourceSet hv
    obtain ⟨t, ht, signedT⟩ := h.exists_sourceSet hw
    exact h.eq_of_signature hv hw (determined s hs t ht _ _ signedS signedT text)

end IsPartition

/-- **Variants are told apart by more than their texts.** No two variants that a rendering
yields have the same text exactly if no two source sets have different signatures with the same
text. Source sets with signatures that differ in nothing visible are in different variants all
the same, and these have the same text. -/
theorem Declaration.texts_differ_iff (context : Context) (declaration : Declaration)
    (inSummary : Bool) (session : Session) (r : Rendering) (variants : Variants)
    (h : session.Renders context declaration inSummary r) (yields : r.Yields (.ok variants)) :
    ((∀ v ∈ variants.all, ∀ w ∈ variants.all, v.signature.text = w.signature.text → v = w) ↔
      ∀ s ∈ declaration.sourceSets, ∀ t ∈ declaration.sourceSets, ∀ σ τ,
        signatureOf context declaration inSummary s = .ok σ →
        signatureOf context declaration inSummary t = .ok τ → σ.text = τ.text → σ = τ) ∧
    (∀ s ∈ declaration.sourceSets, ∀ t ∈ declaration.sourceSets, ∀ σ τ,
      signatureOf context declaration inSummary s = .ok σ →
      signatureOf context declaration inSummary t = .ok τ → σ ≠ τ → σ.visible = τ.visible →
      ∃ v ∈ variants.all, ∃ w ∈ variants.all, s ∈ v.sourceSets ∧ t ∈ w.sourceSets ∧ v ≠ w ∧
        v.signature.text = w.signature.text) := by
  have partition := isPartition_of_variantsOf ((h.outcome yields variants).mp rfl)
  refine ⟨partition.texts_injective_iff, ?_⟩
  intro s hs t ht σ τ signedS signedT differ same
  obtain ⟨v, hv, memV, rfl⟩ := partition.exists_variant hs signedS
  obtain ⟨w, hw, memW, rfl⟩ := partition.exists_variant ht signedT
  refine ⟨v, hv, w, hw, memV, memW, ?_, Signature.text_eq_of_visible_eq same⟩
  rintro rfl
  exact differ rfl

/-- The annotation of `clockNow` in one source set is not shown in Kotlin, and still the source
sets are kept apart, in variants with the same text. -/
theorem texts_same_clockNow :
    let context := Context.reference .kotlin {}
    ∃ (session : Session) (r : Rendering) (variants : Variants),
      session.Renders context clockNow false r ∧ r.Yields (.ok variants) ∧
        ∃ v ∈ variants.all, ∃ w ∈ variants.all, v ≠ w ∧ v.signature.text = w.signature.text := by
  intro context
  obtain ⟨variants, found⟩ := exists_variantsOf (by decide) clockNow_succeeds
  obtain ⟨session, r, h, yields⟩ := exists_yields_of_variantsOf found
  have jvm : ⟨.jvm, "jvmMain"⟩ ∈ clockNow.sourceSets := by decide
  have js : ⟨.js, "jsMain"⟩ ∈ clockNow.sourceSets := by decide
  obtain ⟨σ, signedJvm⟩ := clockNow_succeeds _ jvm
  obtain ⟨τ, signedJs⟩ := clockNow_succeeds _ js
  have differ : (match signatureOf context clockNow false ⟨.jvm, "jvmMain"⟩,
      signatureOf context clockNow false ⟨.js, "jsMain"⟩ with
    | .ok σ, .ok τ => decide (σ ≠ τ ∧ σ.visible = τ.visible)
    | _, _ => false) = true := by decide +kernel
  rw [signedJvm, signedJs] at differ
  obtain ⟨differ, same⟩ := of_decide_eq_true differ
  obtain ⟨v, hv, w, hw, -, -, ne, text⟩ :=
    (Declaration.texts_differ_iff context clockNow false session r variants h yields).2
      _ jvm _ js σ τ signedJvm signedJs differ same
  exact ⟨session, r, variants, h, yields, v, hv, w, hw, ne, text⟩

end Diglot
