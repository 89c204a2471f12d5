import Diglot.Proofs.FormatTypes
import Diglot.Proofs.JsonText

/-!
# Modules are decoded as they were encoded

* `Parameter.faithful`, `TypeParameter.faithful` — the parts of declarations, in objects that
  are held back and in others.
* `DeclarationDetail.ofFields_toFields` — the fields of functions and properties stand beside
  those that all declarations have. They are held back, and come back in their order
  (`Declaration.foldFields_others`).
* `Declaration.faithful`, `Module.faithful` — declarations and modules are faithful.
-/

namespace Diglot

open Json

/-! ## Parameters -/

theorem Parameter.faithful (held : Bool) : Faithful toJson (ofJson held) where
  decodes parameter := by
    obtain ⟨name, type, annotations, default, modifiers⟩ := parameter
    cases name <;>
      simp [toJson, ofJson, optionalField, addField, (TypeUse.faithful held).decodes,
        (SourcedAnnotations.faithful held).decodes, faithful_string.map.decodes,
        (Modifier.faithful_list held).decodes]
  plain parameter := by
    simp [toJson, isPlain, fieldsArePlain, fieldsArePlain_append, fieldsArePlain_optionalField,
      (TypeUse.faithful held).plain, (SourcedAnnotations.faithful held).plain,
      faithful_string.map.plain, (Modifier.faithful_list held).plain]

theorem TypeParameter.faithful (held : Bool) : Faithful toJson (ofJson held) where
  decodes parameter := by
    simp [toJson, ofJson, addField, (TypeUse.faithful_list held).decodes,
      (SourcedAnnotations.faithful held).decodes]
  plain parameter := by
    simp [toJson, isPlain, fieldsArePlain, TypeUse.arePlain_listToJson,
      (SourcedAnnotations.faithful held).plain]

/-! ## Functions and properties -/

/-- A receiver that is written is not null. -/
@[simp]
theorem asOption_parameter {α : Type} (decode : Json → Decoded α) (parameter : Parameter) :
    parameter.toJson.asOption decode = some <$> decode parameter.toJson :=
  rfl

theorem fieldsArePlain_receiverField (receiver : Option Parameter) :
    fieldsArePlain (receiverField receiver) = true := by
  cases receiver with
  | none => rfl
  | some parameter =>
    simp [receiverField, fieldsArePlain, (Parameter.faithful true).plain]

namespace FunctionDetail

/-- The fields that mean something. -/
def fieldNames : List String :=
  ["receiver", "type_parameters", "parameters", "return_type", "is_constructor"]

theorem mem_fieldNames (detail : FunctionDetail) : ∀ field ∈ detail.toFields,
    field.1 ∈ fieldNames := by
  cases receiver : detail.receiver <;> simp [toFields, receiver, receiverField, fieldNames]

theorem fieldsArePlain_toFields (detail : FunctionDetail) :
    fieldsArePlain detail.toFields = true := by
  have typeParameters : arePlain (detail.typeParameters.map TypeParameter.toJson) = true :=
    (TypeParameter.faithful true).list.plain detail.typeParameters
  have parameters : arePlain (detail.parameters.map Parameter.toJson) = true :=
    (Parameter.faithful true).list.plain detail.parameters
  simp [toFields, fieldsArePlain, fieldsArePlain_append, fieldsArePlain_receiverField,
    typeParameters, parameters, (TypeUse.faithful true).plain, isPlain]

/-- A function is decoded from its fields, behind the one that tells the kind. -/
theorem ofFields_toFields (detail : FunctionDetail) (kind : String) :
    ofFields ((tagField, .string kind) :: detail.toFields) = .ok detail := by
  have typeParameters := (TypeParameter.faithful true).list.decodes detail.typeParameters
  have parameters := (Parameter.faithful true).list.decodes detail.parameters
  obtain ⟨receiver, _, _, returnType, isConstructor⟩ := detail
  cases receiver <;>
    simp [ofFields, toFields, receiverField, addField, tagField, typeParameters, parameters,
      (Parameter.faithful true).decodes, (TypeUse.faithful true).decodes]

end FunctionDetail

namespace PropertyDetail

/-- The fields that mean something. -/
def fieldNames : List String :=
  ["receiver", "type", "is_mutable", "constant_value", "has_getter"]

theorem mem_fieldNames (detail : PropertyDetail) : ∀ field ∈ detail.toFields,
    field.1 ∈ fieldNames := by
  cases receiver : detail.receiver <;> cases constant : detail.constant <;>
    simp [toFields, receiver, receiverField, constant, optionalField, fieldNames]

theorem fieldsArePlain_toFields (detail : PropertyDetail) :
    fieldsArePlain detail.toFields = true := by
  simp [toFields, fieldsArePlain, fieldsArePlain_append, fieldsArePlain_receiverField,
    fieldsArePlain_optionalField, (TypeUse.faithful true).plain, isPlain]

/-- A property is decoded from its fields, behind the one that tells the kind. -/
theorem ofFields_toFields (detail : PropertyDetail) (kind : String) :
    ofFields ((tagField, .string kind) :: detail.toFields) = .ok detail := by
  obtain ⟨receiver, type, isMutable, constant, hasGetter⟩ := detail
  cases receiver <;> cases constant <;>
    simp [ofFields, toFields, receiverField, optionalField, addField, tagField,
      (Parameter.faithful true).decodes, (TypeUse.faithful true).decodes]

end PropertyDetail

namespace DeclarationDetail

theorem fieldsArePlain_toFields (detail : DeclarationDetail) :
    fieldsArePlain detail.toFields = true := by
  cases detail with
  | function detail => exact detail.fieldsArePlain_toFields
  | property detail => exact detail.fieldsArePlain_toFields

/-- The fields of functions and properties, without the one that tells the kind. -/
def fieldNames : List String := FunctionDetail.fieldNames ++ PropertyDetail.fieldNames

theorem ne_tagField_of_mem : ∀ {name : String}, name ∈ fieldNames → name ≠ tagField := by
  decide

/-- **The kind is found, and the other fields are decoded for it.** -/
theorem ofFields_toFields (detail : DeclarationDetail) : ofFields detail.toFields = .ok detail := by
  cases detail with
  | function detail =>
    -- the kind comes first here too, in an object that was held back
    have found := findTag_of_plain true names false detail.fieldsArePlain_toFields
      fun field mem => ne_tagField_of_mem (List.mem_append_left _ (detail.mem_fieldNames field mem))
    have kind : asTag true names (.string "function") = .ok false := rfl
    rw [toFields, ofFields, findTag, if_pos rfl, kind, once_none_ok, ok_bind, found, ok_bind,
      if_neg Bool.false_ne_true, detail.ofFields_toFields]
    rfl
  | property detail =>
    have found := findTag_of_plain true names true detail.fieldsArePlain_toFields
      fun field mem =>
        ne_tagField_of_mem (List.mem_append_right _ (detail.mem_fieldNames field mem))
    have kind : asTag true names (.string "property") = .ok true := rfl
    rw [toFields, ofFields, findTag, if_pos rfl, kind, once_none_ok, ok_bind, found, ok_bind,
      if_pos rfl, detail.ofFields_toFields]
    rfl

end DeclarationDetail

/-! ## Declarations -/

namespace Declaration

/-- The fields that all declarations have. -/
def commonFields : List String :=
  ["dri", "name", "source_sets", "expect_present_in", "from_java", "container", "inject_static",
    "annotations", "modifiers", "location"]

/-- Fields that are not common are held back. -/
theorem addField_of_not_mem {field : String} (other : field ∉ commonFields) {value : Json}
    (plain : value.isPlain = true) (parts : Parts) :
    addField parts field value = .ok { parts with others := (field, value) :: parts.others } := by
  unfold addField
  split
  case h_11 => rw [hold_of_isPlain plain, ok_bind, pure_eq_ok]
  all_goals exact absurd (by decide) other

/-- **Fields that are held back come back in their order**, reversed twice. -/
theorem foldFields_others : ∀ {fields : List (String × Json)}, fieldsArePlain fields = true →
    (∀ field ∈ fields, field.1 ∉ commonFields) → ∀ parts : Parts,
      foldFields addField parts (.object fields) =
        .ok { parts with others := fields.reverse ++ parts.others }
  | [], _, _, _ => rfl
  | (field, value) :: rest, plain, others, parts => by
    obtain ⟨plainFirst, plainRest⟩ := Bool.and_eq_true_iff.mp plain
    rw [List.forall_mem_cons] at others
    rw [foldFields_cons, addField_of_not_mem others.1 plainFirst, ok_bind,
      foldFields_others plainRest others.2, List.reverse_cons, List.append_assoc]
    rfl

theorem not_mem_commonFields : ∀ {name : String}, name ∈ tagField :: DeclarationDetail.fieldNames →
    name ∉ commonFields := by
  decide

/-- Functions and properties have none of the common fields. -/
theorem toFields_not_common (detail : DeclarationDetail) :
    ∀ field ∈ detail.toFields, field.1 ∉ commonFields := by
  intro field mem
  refine not_mem_commonFields ?_
  cases detail with
  | function detail =>
    rcases List.mem_cons.mp mem with rfl | mem
    · exact List.mem_cons_self ..
    · exact List.mem_cons_of_mem _ (List.mem_append_left _ (detail.mem_fieldNames field mem))
  | property detail =>
    rcases List.mem_cons.mp mem with rfl | mem
    · exact List.mem_cons_self ..
    · exact List.mem_cons_of_mem _ (List.mem_append_right _ (detail.mem_fieldNames field mem))

/-- **Declarations are decoded as they were encoded.** -/
theorem faithful : Faithful toJson ofJson where
  decodes declaration := by
    have sourceSets := SourceSet.faithful.list.decodes declaration.sourceSets
    have others := foldFields_others declaration.detail.fieldsArePlain_toFields
      (toFields_not_common declaration.detail)
    obtain ⟨identity, name, _, expectIn, fromJava, container, injectStatic, annotations, modifiers,
      location, detail⟩ := declaration
    cases expectIn <;> cases location <;>
      simp [toJson, ofJson, optionalField, addField, Identity.faithful.decodes, sourceSets,
        (ContainerKind.faithful false).decodes, (SourcedAnnotations.faithful false).decodes,
        (Modifier.faithful_list false).map.decodes, others, detail.ofFields_toFields]
  plain declaration := by
    have sourceSets : arePlain (declaration.sourceSets.map SourceSet.toJson) = true :=
      SourceSet.faithful.list.plain declaration.sourceSets
    simp [toJson, isPlain, fieldsArePlain, fieldsArePlain_append, fieldsArePlain_optionalField,
      Identity.faithful.plain, sourceSets, (SourcedAnnotations.faithful false).plain,
      (Modifier.faithful_list false).map.plain, declaration.detail.fieldsArePlain_toFields]

end Declaration

/-! ## Modules -/

theorem Module.faithful : Faithful toJson ofJson where
  decodes module := by
    have declarations := Declaration.faithful.list.decodes module.declarations
    simp [toJson, ofJson, addField, declarations]
  plain module := by
    have declarations : arePlain (module.declarations.map Declaration.toJson) = true :=
      Declaration.faithful.list.plain module.declarations
    simp [toJson, isPlain, fieldsArePlain, declarations]

end Diglot
