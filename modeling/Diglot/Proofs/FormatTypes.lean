import Diglot.Proofs.FormatValues

/-!
# Types are decoded as they were encoded

A type use is written with its shape first. The shape is found before the other fields are looked
at, which requires that these are plain (`TypeUse.ofJson_object`). What is inside of a type use is
held back with it, so the induction is on types for objects that are held back and for others.

* `TypeUse.isPlain_toJson` — nothing but plain documents is written.
* `TypeUse.ofJson_toJson` — each shape is built again from its fields.
-/

namespace Diglot

open Json

/-! ## The shape -/

/-- Behind the tag the other fields are held back. -/
theorem Json.findTag_of_plain {α : Type} (held : Bool) (names : List (String × α)) (found : α) :
    ∀ {fields : List (String × Json)}, fieldsArePlain fields = true →
      (∀ field ∈ fields, field.1 ≠ tagField) → findTag held names (some found) fields = .ok found
  | [], _, _ => rfl
  | (name, value) :: rest, plain, others => by
    obtain ⟨plainFirst, plainRest⟩ := Bool.and_eq_true_iff.mp plain
    rw [List.forall_mem_cons] at others
    have behind := findTag_of_plain held names found plainRest others.2
    rw [findTag, if_neg others.1]
    cases held with
    | false =>
      rw [Bool.not_false, if_pos rfl, hold_of_isPlain plainFirst]
      exact behind
    | true => exact behind

/-- Every shape has its name. -/
theorem TypeShape.variant_tag (shape : TypeShape) :
    variant TypeShape.names shape.tag = .ok shape := by
  cases shape <;> rfl

/-- The field with the shape is not one of the others. -/
theorem TypeShape.not_mem_fields (shape : TypeShape) : shape.fields.contains tagField = false := by
  cases shape <;> decide

/-- A field that means nothing for a shape is passed over. -/
theorem TypeUse.partsOfFields_skip (held : Bool) {shape : TypeShape} {field : String}
    (other : shape.fields.contains field = false) (parts : TypeParts) (value : Json)
    (rest : List (String × Json)) :
    TypeUse.partsOfFields held shape parts ((field, value) :: rest) =
      value.skip >>= fun _ => TypeUse.partsOfFields held shape parts rest := by
  conv =>
    lhs
    unfold partsOfFields
  rw [other]
  rfl

/-- **The shape comes first**, and the other fields are decoded for it. -/
theorem TypeUse.ofJson_object (held : Bool) (shape : TypeShape) {fields : List (String × Json)}
    (plain : (shape.object fields).isPlain = true)
    (others : ∀ field ∈ fields, field.1 ≠ tagField) :
    TypeUse.ofJson held (shape.object fields) =
      TypeUse.partsOfFields true shape {} fields >>= fun parts => parts.build shape := by
  have plainFields : fieldsArePlain fields = true := plain
  have found := findTag_of_plain held TypeShape.names shape plainFields others
  rw [TypeShape.object, ofJson, findTag, if_pos rfl, asTag, shape.variant_tag, once_none_ok,
    ok_bind, found, ok_bind, partsOfFields_skip true shape.not_mem_fields]
  rfl

/-! ## Heads -/

theorem ClassForm.faithful (held : Bool) : Faithful toJson (ofJson held) where
  decodes form := by cases held <;> cases form <;> rfl
  plain form := by cases form <;> rfl

/-- A field that may be left out holds a text. -/
theorem fieldsArePlain_optionalField (name : String) (value : Option String) :
    fieldsArePlain (optionalField name value) = true := by
  cases value <;> rfl

theorem fieldsArePlain_append (fields more : List (String × Json)) :
    fieldsArePlain (fields ++ more) = (fieldsArePlain fields && fieldsArePlain more) := by
  induction fields with
  | nil => rfl
  | cons first rest ih => rw [List.cons_append, fieldsArePlain, fieldsArePlain, ih, Bool.and_assoc]

mutual

/-- What is written for a type is plain. -/
theorem TypeUse.isPlain_toJson : ∀ type : TypeUse, type.toJson.isPlain = true
  | .classRef head arguments => by
    have inside := TypeUse.arePlain_listToJson arguments
    simp [TypeUse.toJson, TypeShape.object, ClassHead.toFields, isPlain, fieldsArePlain, inside,
      fieldsArePlain_append, fieldsArePlain_optionalField, Identity.faithful.plain,
      (SourcedAnnotations.faithful false).plain, (ClassForm.faithful false).plain]
  | .parameter head => by
    simp [TypeUse.toJson, TypeShape.object, ParameterHead.toFields, isPlain, fieldsArePlain,
      fieldsArePlain_append, fieldsArePlain_optionalField, Identity.faithful.plain,
      (SourcedAnnotations.faithful false).plain]
  | .javaObject annotations => by
    simp [TypeUse.toJson, TypeShape.object, isPlain, fieldsArePlain,
      (SourcedAnnotations.faithful false).plain]
  | .primitive _ | .void | .star | .dynamic | .unresolved _ => rfl
  | .nullable inner | .nonNull inner | .projected _ inner => by
    simp [TypeUse.toJson, TypeShape.object, isPlain, fieldsArePlain, inner.isPlain_toJson]
  | .aliased named inner => by
    simp [TypeUse.toJson, TypeShape.object, isPlain, fieldsArePlain, named.isPlain_toJson,
      inner.isPlain_toJson]

theorem TypeUse.arePlain_listToJson : ∀ types : List TypeUse,
    arePlain (TypeUse.listToJson types) = true
  | [] => rfl
  | first :: rest => by
    simp [TypeUse.listToJson, arePlain, first.isPlain_toJson, TypeUse.arePlain_listToJson rest]

end

/-- What is written for a type is plain, so it is decoded for the shape that comes first. -/
theorem TypeUse.ofJson_of_written (held : Bool) {type : TypeUse} {shape : TypeShape}
    {fields : List (String × Json)} (written : type.toJson = shape.object fields)
    (others : ∀ field ∈ fields, field.1 ≠ tagField) :
    TypeUse.ofJson held type.toJson =
      TypeUse.partsOfFields true shape {} fields >>= fun parts => parts.build shape := by
  have plain := type.isPlain_toJson
  rw [written] at plain ⊢
  exact TypeUse.ofJson_object held shape plain others

mutual

/-- **Types are decoded as they were encoded**, in objects that are held back and in others. -/
theorem TypeUse.ofJson_toJson : ∀ (type : TypeUse) (held : Bool),
    TypeUse.ofJson held type.toJson = .ok type
  | .classRef ⟨identity, shownName, annotations, form⟩ arguments, held => by
    -- whatever is inside of a type is held back with it
    have inside := TypeUse.ofElements_listToJson arguments true
    rw [TypeUse.ofJson_of_written held (by rw [TypeUse.toJson])]
    · cases shownName <;>
        simp [ClassHead.toFields, optionalField, TypeUse.partsOfFields, TypeShape.fields,
          Identity.faithful.decodes, TypeUse.listOfJson, inside, TypeParts.build,
          (SourcedAnnotations.faithful true).decodes, (ClassForm.faithful true).decodes,
          TypeParts.buildClass]
    · cases shownName <;> simp [ClassHead.toFields, optionalField, tagField]
  | .parameter ⟨owner, name, shownName, annotations⟩, held => by
    rw [TypeUse.ofJson_of_written held (by rw [TypeUse.toJson])]
    · cases shownName <;>
        simp [ParameterHead.toFields, optionalField, TypeUse.partsOfFields, TypeShape.fields,
          Identity.faithful.decodes, (SourcedAnnotations.faithful true).decodes,
          TypeParts.build]
    · cases shownName <;> simp [ParameterHead.toFields, optionalField, tagField]
  | .javaObject annotations, held => by
    rw [TypeUse.ofJson_of_written held (by rw [TypeUse.toJson]) (by simp [tagField])]
    simp [TypeUse.partsOfFields, TypeShape.fields, (SourcedAnnotations.faithful true).decodes,
      TypeParts.build]
  | .primitive _, held | .unresolved _, held | .void, held | .star, held | .dynamic, held => by
    cases held <;> rfl
  | .nullable inner, held | .nonNull inner, held => by
    rw [TypeUse.ofJson_of_written held (by rw [TypeUse.toJson]) (by simp [tagField])]
    simp [TypeUse.partsOfFields, TypeShape.fields, inner.ofJson_toJson true, TypeParts.build]
  | .projected variance inner, held => by
    rw [TypeUse.ofJson_of_written held (by rw [TypeUse.toJson]) (by simp [tagField])]
    simp [TypeUse.partsOfFields, TypeShape.fields, (Variance.faithful true).decodes,
      inner.ofJson_toJson true, TypeParts.build]
  | .aliased named inner, held => by
    rw [TypeUse.ofJson_of_written held (by rw [TypeUse.toJson]) (by simp [tagField])]
    simp [TypeUse.partsOfFields, TypeShape.fields, named.ofJson_toJson true,
      inner.ofJson_toJson true, TypeParts.build]

/-- Lists of types are decoded as they were encoded. -/
theorem TypeUse.ofElements_listToJson : ∀ (types : List TypeUse) (held : Bool),
    TypeUse.ofElements held (TypeUse.listToJson types) = .ok types
  | [], _ => rfl
  | first :: rest, held => by
    rw [TypeUse.listToJson, TypeUse.ofElements, first.ofJson_toJson held, ok_bind,
      TypeUse.ofElements_listToJson rest held]
    rfl

end

theorem TypeUse.faithful (held : Bool) : Faithful TypeUse.toJson (TypeUse.ofJson held) where
  decodes type := type.ofJson_toJson held
  plain type := type.isPlain_toJson

theorem TypeUse.faithful_list (held : Bool) :
    Faithful (fun types => .array (TypeUse.listToJson types)) (TypeUse.listOfJson held) where
  decodes types := TypeUse.ofElements_listToJson types held
  plain types := TypeUse.arePlain_listToJson types

end Diglot
