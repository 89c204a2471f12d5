import Diglot.Proofs.FormatDeclarations
import Diglot.Proofs.ValueTypes

/-!
# What decoding gives back of a module

The text of a document keeps the fields of its objects in their order, a JSON value does not. So a
module is read back from its text as it was, and from its value with its maps in the order of
names.

* `DeclarationDetail.ofFields_sorted` — functions and properties are decoded from fields in the
  order of their names.
* `Declaration.foldFields_eq` — the fields that all declarations have are decoded as if the others
  did not stand among them.
* `Json.ReadsBack` — what a format gives back of its texts and of its values.
* `decoding_undoes_encoding` — this for modules and for everything in them.
-/

namespace Diglot

open Json

/-! ## Parameters -/

theorem Parameter.returns (held : Bool) : Returns toJson (ofJson held) inNameOrder where
  decodes parameter := by
    obtain ⟨name, type, annotations, default, modifiers⟩ := parameter
    cases name <;>
      simp (disch := decide) [toJson, ofJson, optionalField, addField, sortByName, sortedFields,
        inNameOrder, (TypeUse.returns held).decodes, (SourcedAnnotations.returns held).decodes,
        (returns_string.map faithful_string).decodes, (Modifier.returns_list held).decodes]

theorem TypeParameter.returns (held : Bool) : Returns toJson (ofJson held) inNameOrder where
  decodes parameter := by
    simp (disch := decide) [toJson, ofJson, addField, sortByName, sortedFields, inNameOrder,
      (TypeUse.returns_list held).decodes, (SourcedAnnotations.returns held).decodes]

/-! ## Functions and properties -/

/-- A receiver that is written is not null in the value either. -/
@[simp]
theorem asOption_sorted_parameter {α : Type} (decode : Json → Decoded α) (parameter : Parameter) :
    parameter.toJson.sorted.asOption decode = some <$> decode parameter.toJson.sorted :=
  rfl

/-- A function comes back from its fields in the order of their names. -/
theorem FunctionDetail.ofFields_sorted (detail : FunctionDetail) (kind : String) :
    ofFields (sortByName (sortedFields ((tagField, .string kind) :: detail.toFields))) =
      .ok detail.inNameOrder := by
  have typeParameters := (TypeParameter.returns true).list.decodes detail.typeParameters
  have parameters := (Parameter.returns true).list.decodes detail.parameters
  obtain ⟨receiver, _, _, returnType, isConstructor⟩ := detail
  cases receiver <;>
    simp (disch := decide) [ofFields, toFields, receiverField, addField, tagField, sortByName,
      sortedFields, typeParameters, parameters, inNameOrder, (Parameter.returns true).decodes,
      (TypeUse.returns true).decodes]

/-- A property comes back from its fields in the order of their names. -/
theorem PropertyDetail.ofFields_sorted (detail : PropertyDetail) (kind : String) :
    ofFields (sortByName (sortedFields ((tagField, .string kind) :: detail.toFields))) =
      .ok detail.inNameOrder := by
  obtain ⟨receiver, type, isMutable, constant, hasGetter⟩ := detail
  cases receiver <;> cases constant <;>
    simp (disch := decide) [ofFields, toFields, receiverField, optionalField, addField, tagField,
      sortByName, sortedFields, inNameOrder, (Parameter.returns true).decodes,
      (TypeUse.returns true).decodes]

/-- **The kind is found, and the others are decoded for it** in the order of their names. -/
theorem DeclarationDetail.ofFields_sorted (detail : DeclarationDetail) :
    ofFields (sortByName (sortedFields detail.toFields)) = .ok detail.inNameOrder := by
  cases detail with
  | function detail =>
    have distinct : (tagField :: detail.toFields.map Prod.fst).Nodup := by
      cases receiver : detail.receiver <;>
        simp [FunctionDetail.toFields, receiver, receiverField, tagField]
    have kind : variant names "function" = .ok false := rfl
    rw [toFields, ofFields, findTag_sorted true kind detail.fieldsArePlain_toFields distinct,
      ok_bind, if_neg Bool.false_ne_true, detail.ofFields_sorted]
    rfl
  | property detail =>
    have distinct : (tagField :: detail.toFields.map Prod.fst).Nodup := by
      cases receiver : detail.receiver <;> cases constant : detail.constant <;>
        simp [PropertyDetail.toFields, receiver, receiverField, constant, optionalField, tagField]
    have kind : variant names "property" = .ok true := rfl
    rw [toFields, ofFields, findTag_sorted true kind detail.fieldsArePlain_toFields distinct,
      ok_bind, if_pos rfl, detail.ofFields_sorted]
    rfl

/-! ## Declarations -/

namespace Declaration

/-- Hold back more fields, which came before those that are held back already. -/
def Parts.holding (parts : Parts) (more : List (String × Json)) : Parts :=
  { parts with others := more ++ parts.others }

/-- A common field is decoded whatever is held back. -/
theorem addField_holding {field : String} (common : field ∈ commonFields) (value : Json)
    (parts : Parts) (more : List (String × Json)) :
    addField (parts.holding more) field value =
      (fun parts => Parts.holding parts more) <$> addField parts field value := by
  unfold addField
  split
  case h_11 => simp_all [commonFields]
  all_goals
    rw [map_bind]
    rfl

/-- Common fields are decoded whatever is held back. -/
theorem foldFields_holding {fields : List (String × Json)}
    (common : ∀ field ∈ fields, field.1 ∈ commonFields) (parts : Parts)
    (more : List (String × Json)) :
    foldFields addField (parts.holding more) (.object fields) =
      (fun parts => Parts.holding parts more) <$> foldFields addField parts (.object fields) := by
  induction fields generalizing parts with
  | nil => rfl
  | cons field rest ih =>
    rw [List.forall_mem_cons] at common
    rw [foldFields_cons, foldFields_cons, addField_holding common.1, map_bind, bind_map_left]
    exact bind_congr fun parts => ih common.2 parts

/-- **The common fields are decoded by themselves**, and the others are held back in their order. -/
theorem foldFields_eq {fields : List (String × Json)} (plain : fieldsArePlain fields = true)
    (parts : Parts) :
    foldFields addField parts (.object fields) =
      (fun parts => Parts.holding parts
          (fields.filter fun field => field.1 ∉ commonFields).reverse) <$>
        foldFields addField parts
          (.object (fields.filter fun field => field.1 ∈ commonFields)) := by
  induction fields generalizing parts with
  | nil => rfl
  | cons field rest ih =>
    obtain ⟨plainFirst, plainRest⟩ := Bool.and_eq_true_iff.mp plain
    by_cases common : field.1 ∈ commonFields
    · rw [foldFields_cons, List.filter_cons_of_neg (by simpa using common),
        List.filter_cons_of_pos (by simpa using common), foldFields_cons, map_bind]
      exact bind_congr fun parts => ih plainRest parts
    · have first : addField parts field.1 field.2 = .ok (parts.holding [field]) :=
        addField_of_not_mem common plainFirst parts
      have inside : ∀ field ∈ rest.filter fun field => field.1 ∈ commonFields,
          field.1 ∈ commonFields := by simp
      rw [foldFields_cons, first, ok_bind, ih plainRest,
        List.filter_cons_of_pos (by simpa using common),
        List.filter_cons_of_neg (by simpa using common), foldFields_holding inside]
      simp [Parts.holding]

/-- The common fields of a declaration, as they are written. -/
def toCommonFields (declaration : Declaration) : List (String × Json) :=
  [("dri", declaration.identity.toJson),
      ("name", .string declaration.name),
      ("source_sets", .array (declaration.sourceSets.map SourceSet.toJson))] ++
    optionalField "expect_present_in" declaration.expectIn ++
    [("from_java", .bool declaration.fromJava),
      ("container", .string declaration.container.label),
      ("inject_static", .bool declaration.injectStatic),
      ("annotations", declaration.annotations.toJson),
      ("modifiers", declaration.modifiers.toJson Modifier.listToJson)] ++
    optionalField "location" declaration.location

/-- The common fields are written first. -/
theorem toJson_eq_object (declaration : Declaration) :
    declaration.toJson =
      .object (declaration.toCommonFields ++ declaration.detail.toFields) :=
  rfl

theorem mem_commonFields_of_mem (declaration : Declaration) :
    ∀ field ∈ declaration.toCommonFields, field.1 ∈ commonFields := by
  cases expectIn : declaration.expectIn <;> cases location : declaration.location <;>
    simp [toCommonFields, expectIn, location, optionalField, commonFields]

/-- What the common fields are decoded to, in the order of their names. -/
theorem foldFields_toCommonFields (declaration : Declaration) :
    foldFields addField {} (.object (sortByName (sortedFields declaration.toCommonFields))) =
      .ok
        { identity := declaration.identity
          name := declaration.name
          sourceSets := declaration.sourceSets
          expectIn := declaration.expectIn.map some
          fromJava := declaration.fromJava
          container := declaration.container
          injectStatic := declaration.injectStatic
          annotations := some declaration.annotations.inNameOrder
          modifiers := declaration.modifiers.inNameOrder
          location := declaration.location.map some } := by
  have sourceSets := SourceSet.returns.list.decodes declaration.sourceSets
  have written := Modifier.faithful_list false
  have modifiers := ((Modifier.returns_list false).map written).decodes declaration.modifiers
  cases expectIn : declaration.expectIn <;> cases location : declaration.location <;>
    simp (disch := decide) [toCommonFields, expectIn, location, optionalField, addField, sortByName,
      sortedFields, Identity.returns.decodes, sourceSets, (ContainerKind.faithful false).decodes,
      (SourcedAnnotations.returns false).decodes, modifiers]

theorem returns : Returns toJson ofJson inNameOrder where
  decodes declaration := by
    have plain := isPlain_sorted (faithful.plain declaration)
    have common := declaration.mem_commonFields_of_mem
    have others := toFields_not_common declaration.detail
    have commonPart : (declaration.toCommonFields ++ declaration.detail.toFields).filter
        (fun field => field.1 ∈ commonFields) = declaration.toCommonFields := by
      rw [List.filter_append, List.filter_eq_self.mpr (by simpa using common),
        List.filter_eq_nil_iff.mpr (by simpa using others), List.append_nil]
    have otherPart : (declaration.toCommonFields ++ declaration.detail.toFields).filter
        (fun field => field.1 ∉ commonFields) = declaration.detail.toFields := by
      rw [List.filter_append, List.filter_eq_nil_iff.mpr (by simpa using common),
        List.filter_eq_self.mpr (by simpa using others), List.nil_append]
    rw [toJson_eq_object, sorted_object] at plain ⊢
    rw [ofJson, foldFields_eq plain, filter_sortByName fun name => decide (name ∈ commonFields),
      filter_sortByName fun name => decide (name ∉ commonFields),
      filter_sortedFields fun name => decide (name ∈ commonFields),
      filter_sortedFields fun name => decide (name ∉ commonFields), commonPart, otherPart,
      foldFields_toCommonFields]
    obtain ⟨_, _, _, expectIn, _, _, _, _, _, location, detail⟩ := declaration
    cases expectIn <;> cases location <;>
      simp [Parts.holding, detail.ofFields_sorted, inNameOrder]

end Declaration

/-! ## Modules -/

namespace Module

theorem returns : Returns toJson ofJson inNameOrder where
  decodes module := by
    have declarations := Declaration.returns.list.decodes module.declarations
    simp (disch := decide) [toJson, ofJson, addField, sortByName, sortedFields, declarations,
      inNameOrder]

/-- The JSON value of a module. -/
def toValue (module : Module) : JsonValue :=
  module.toJson.toValue (isReadable_of_isPlain (faithful.plain module))

/-- A module from a JSON value. -/
def ofValue (value : JsonValue) : Decoded Module :=
  ofJson value.document

/-- **What comes back of the value of a module.** -/
theorem ofValue_toValue (module : Module) : ofValue module.toValue = .ok module.inNameOrder :=
  returns.decodes module

end Module

/-! ## Texts and values -/

/-- **What a format gives back**: all of what was written in a text, and of a JSON value what was
encoded, in another order. -/
structure Json.ReadsBack {α : Type} (encode : α → Json) (decode : Json → Decoded α)
    (order : α → α) : Prop where
  /-- what is not nested too deep is read back from a text on one line -/
  compact : ∀ value, (encode value).depth ≤ maxDepth →
    decodeText decode (encode value).compact = .ok value
  /-- what is not nested too deep is read back from a text on many lines -/
  pretty : ∀ value, (encode value).depth ≤ maxDepth →
    decodeText decode (encode value).pretty = .ok value
  /-- the fields of every object of a JSON value come in the order of their names -/
  returns : Returns encode decode order

/-- A faithful format is read back from its texts. -/
theorem Json.Faithful.readsBack {α : Type} {encode : α → Json} {decode : Json → Decoded α}
    {order : α → α} (faithful : Faithful encode decode) (returns : Returns encode decode order) :
    ReadsBack encode decode order where
  compact value shallow :=
    (decodeText_compact (faithful.plain value) shallow decode).trans (faithful.decodes value)
  pretty value shallow :=
    (decodeText_pretty (faithful.plain value) shallow decode).trans (faithful.decodes value)
  returns := returns

/-- **What decoding gives back of what was encoded.** A module is read back from its text, on one
line or on many, if arrays and objects are nested at most 127 deep, which is as deep as the reader
goes. Its JSON value has every object in the order of names, so from there it comes back with the
entries of every map in the order of their names, and with nothing else changed. It comes back as
it was exactly if every map in it lists its names in order. The same holds of everything in a
module. The map that comes back has the same entries as the map that was encoded. -/
theorem decoding_undoes_encoding :
    (∀ module : Module,
      (module.toJson.depth ≤ 127 → Module.ofText module.toJson.compact = .ok module ∧
        Module.ofText module.toJson.pretty = .ok module) ∧
      Module.ofValue module.toValue = .ok module.inNameOrder ∧
      (Module.ofValue module.toValue = .ok module ↔ module.IsInNameOrder)) ∧
    ReadsBack Declaration.toJson Declaration.ofJson Declaration.inNameOrder ∧
    ReadsBack TypeUse.toJson (TypeUse.ofJson false) TypeUse.inNameOrder ∧
    ReadsBack Parameter.toJson (Parameter.ofJson false) Parameter.inNameOrder ∧
    ReadsBack Annotation.toJson (Diglot.Annotation.ofJson false) id ∧
    ReadsBack SourcedAnnotations.toJson (SourcedAnnotations.ofJson false)
      BySourceSet.inNameOrder ∧
    ReadsBack (BySourceSet.toJson .string) (asMap asString) BySourceSet.inNameOrder ∧
    ReadsBack (BySourceSet.toJson Modifier.listToJson) (asMap (Modifier.listOfJson false))
      BySourceSet.inNameOrder ∧
    ∀ {α : Type} (map : BySourceSet α),
      map.inNameOrder.entries.Perm map.entries ∧ map.inNameOrder.IsInNameOrder := by
  have annotation := Annotation.faithful false
  have modifiers := Modifier.faithful_list false
  refine ⟨fun module => ⟨fun shallow => ?_, module.ofValue_toValue, ?_⟩,
    Declaration.faithful.readsBack Declaration.returns,
    (TypeUse.faithful false).readsBack (TypeUse.returns false),
    (Parameter.faithful false).readsBack (Parameter.returns false),
    annotation.readsBack (Diglot.Annotation.returns false),
    (SourcedAnnotations.faithful false).readsBack (SourcedAnnotations.returns false),
    faithful_string.map.readsBack (returns_string.map faithful_string),
    modifiers.map.readsBack ((Modifier.returns_list false).map modifiers),
    fun map => ⟨map.perm_entries_inNameOrder, map.isInNameOrder_inNameOrder⟩⟩
  · have readsBack := Module.faithful.readsBack Module.returns
    exact ⟨readsBack.compact module shallow, readsBack.pretty module shallow⟩
  · rw [module.ofValue_toValue, ← module.inNameOrder_eq_iff]
    exact ⟨Except.ok.inj, congrArg Except.ok⟩

/-- A module of a property and of a function with a function type under wrappers. -/
def timerModule : Module where
  name := "timer"
  declarations :=
    [{ identity := ⟨"com.example", some "Timer", some "label"⟩
       name := "label"
       sourceSets := [⟨.jvm, "jvmMain"⟩, ⟨.common, "commonMain"⟩]
       modifiers := .insert (.insert ∅ "jvmMain" [.final]) "commonMain" [.final, .const]
       detail := .property
         { type := .nullable (.parameter ⟨⟨"com.example", some "Timer", none⟩, "T", none, ∅⟩)
           constant := some "\"tick\"\n" } },
      { identity := ⟨"com.example", some "Timer", some "every"⟩
        name := "every"
        sourceSets := [⟨.jvm, "jvmMain"⟩]
        detail := .function
          { returnType := .void
            parameters :=
              [{ name := some "action"
                 type := .nullable (.projected .covariant
                   (.classRef ⟨.ofClass "kotlin" "Function0", none,
                     .insert ∅ "jvmMain" [⟨.ofClass "com.example" "Slow", [⟨"by", .array
                       [.nested (.ofClass "com.example" "Clock"), .string "a/b"]⟩]⟩],
                     .functional false true⟩ [.star])) }] } }]

/-- The modifiers of `label` in `timerModule` come back with those of `commonMain` first. -/
theorem timerModule_reordered : Module.ofValue timerModule.toValue ≠ .ok timerModule := by
  rw [Module.ofValue_toValue]
  intro same
  have names := congrArg (fun module : Module => module.declarations.map fun declaration =>
    declaration.modifiers.entries.map Prod.fst) (Except.ok.inj same)
  exact absurd names (by decide)

/-- `timerModule` is read back from its text, and not as it is from its value. -/
theorem decoding_undoes_encoding_timerModule :
    timerModule.toJson.depth ≤ 127 ∧
      Module.ofText timerModule.toJson.compact = .ok timerModule ∧
      Module.ofValue timerModule.toValue = .ok timerModule.inNameOrder := by
  have shallow : timerModule.toJson.depth ≤ 127 := by decide +kernel
  obtain ⟨text, value, -⟩ := decoding_undoes_encoding.1 timerModule
  exact ⟨shallow, (text shallow).1, value⟩

end Diglot
