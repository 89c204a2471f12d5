import Diglot.Proofs.FormatTypes
import Diglot.Proofs.ValueDocuments

/-!
# Types come back from JSON values

In the value of a type use the shape stands among the other fields, in the order of their names.

* `Json.findTag_of_mem` — the shape is found wherever it stands.
* `TypeUse.ofJson_sorted` — each shape is built again from its fields, and the maps in it come
  back in the order of their names.
-/

namespace Diglot

open Json

/-! ## The shape -/

/-- **The tag is found wherever it stands**, in an object in which no name comes twice. -/
theorem Json.findTag_of_mem {α : Type} (held : Bool) {names : List (String × α)} {tag : String}
    {value : α} (listed : variant names tag = .ok value) :
    ∀ {fields : List (String × Json)}, fieldsArePlain fields = true →
      (fields.map Prod.fst).Nodup → (tagField, string tag) ∈ fields →
        findTag held names none fields = .ok value
  | (name, content) :: rest, plain, distinct, mem => by
    obtain ⟨plainFirst, plainRest⟩ := Bool.and_eq_true_iff.mp plain
    obtain ⟨new, distinct⟩ := List.nodup_cons.mp distinct
    by_cases first : name = tagField
    · subst first
      have others : ∀ field ∈ rest, field.1 ≠ tagField := fun field mem same =>
        new (List.mem_map.mpr ⟨field, mem, same⟩)
      rcases List.mem_cons.mp mem with same | mem
      · obtain rfl : content = string tag := (Prod.mk.inj same).2.symm
        rw [findTag, if_pos rfl, asTag, listed, once_none_ok, ok_bind]
        exact findTag_of_plain held names value plainRest others
      · exact absurd rfl (others _ mem)
    · have mem : (tagField, string tag) ∈ rest := (List.mem_cons.mp mem).resolve_left
        fun same => first (Prod.mk.inj same).1.symm
      have behind := findTag_of_mem held listed plainRest distinct mem
      rw [findTag, if_neg first]
      cases held with
      | false =>
        rw [Bool.not_false, if_pos rfl, hold_of_isPlain plainFirst]
        exact behind
      | true => exact behind

/-- The tag is found among fields that are sorted. -/
theorem Json.findTag_sorted {α : Type} (held : Bool) {names : List (String × α)} {tag : String}
    {value : α} (listed : variant names tag = .ok value) {fields : List (String × Json)}
    (plain : fieldsArePlain fields = true) (distinct : (tagField :: fields.map Prod.fst).Nodup) :
    findTag held names none (sortByName (sortedFields ((tagField, string tag) :: fields))) =
      .ok value := by
  have plain : (object ((tagField, string tag) :: fields)).sorted.isPlain = true :=
    isPlain_sorted plain
  have perm : (sortByName (sortedFields ((tagField, string tag) :: fields))).Perm
      (sortedFields ((tagField, string tag) :: fields)) := by
    refine perm_sortByName ?_
    rw [map_fst_sortedFields]
    exact distinct
  exact findTag_of_mem held listed plain (areByName_sortByName _).nodup
    (perm.mem_iff.mpr (List.mem_cons_self ..))

/-- **The shape is found**, and the other fields are decoded for it in the order of their names. -/
theorem TypeUse.ofJson_sorted_of_written (held : Bool) {type : TypeUse} {shape : TypeShape}
    {fields : List (String × Json)} (written : type.toJson = shape.object fields)
    (distinct : (tagField :: fields.map Prod.fst).Nodup) :
    TypeUse.ofJson held type.toJson.sorted =
      TypeUse.partsOfFields true shape {}
        (sortByName (sortedFields ((tagField, .string shape.tag) :: fields))) >>=
          fun parts => parts.build shape := by
  have plain : fieldsArePlain fields = true := by
    have plain := type.isPlain_toJson
    rwa [written] at plain
  rw [written, TypeShape.object, sorted_object, ofJson,
    findTag_sorted held shape.variant_tag plain distinct, ok_bind]

/-! ## Types -/

theorem ClassForm.returns (held : Bool) : Returns toJson (ofJson held) id where
  decodes form := by
    have functional : variant names "functional" = .ok true := rfl
    cases form with
    | generic => rfl
    | functional isExtension isSuspend =>
      simp (disch := decide) [toJson, ofJson, sortByName, sortedFields, functional, ofContent,
        FunctionalParts.addField]

mutual

/-- **Types come back with their maps in the order of names**, in objects that are held back and in
others. -/
theorem TypeUse.ofJson_sorted : ∀ (type : TypeUse) (held : Bool),
    TypeUse.ofJson held type.toJson.sorted = .ok type.inNameOrder
  | .classRef ⟨identity, shownName, annotations, form⟩ arguments, held => by
    -- whatever is inside of a type is held back with it
    have inside := TypeUse.ofElements_sorted arguments true
    rw [TypeUse.ofJson_sorted_of_written held (by rw [TypeUse.toJson])]
    · cases shownName <;>
        simp (disch := decide) [sortByName, sortedFields, ClassHead.toFields, optionalField,
          tagField, TypeUse.partsOfFields, TypeShape.fields, Identity.returns.decodes,
          TypeUse.listOfJson, Json.sorted, inside, TypeParts.build,
          (SourcedAnnotations.returns true).decodes, (ClassForm.returns true).decodes,
          TypeParts.buildClass, TypeUse.inNameOrder, ClassHead.inNameOrder]
    · cases shownName <;> simp [ClassHead.toFields, optionalField, tagField]
  | .parameter ⟨owner, name, shownName, annotations⟩, held => by
    rw [TypeUse.ofJson_sorted_of_written held (by rw [TypeUse.toJson])]
    · cases shownName <;>
        simp (disch := decide) [sortByName, sortedFields, ParameterHead.toFields, optionalField,
          tagField, TypeUse.partsOfFields, TypeShape.fields, Identity.returns.decodes,
          (SourcedAnnotations.returns true).decodes, TypeParts.build, TypeUse.inNameOrder,
          ParameterHead.inNameOrder]
    · cases shownName <;> simp [ParameterHead.toFields, optionalField, tagField]
  | .javaObject annotations, held => by
    rw [TypeUse.ofJson_sorted_of_written held (by rw [TypeUse.toJson]) (by simp [tagField])]
    simp (disch := decide) [sortByName, sortedFields, tagField, TypeUse.partsOfFields,
      TypeShape.fields, (SourcedAnnotations.returns true).decodes, TypeParts.build,
      TypeUse.inNameOrder]
  | .primitive _, held | .unresolved _, held => by
    rw [TypeUse.ofJson_sorted_of_written held (by rw [TypeUse.toJson]) (by simp [tagField])]
    simp (disch := decide) [sortByName, sortedFields, tagField, TypeUse.partsOfFields,
      TypeShape.fields, TypeParts.build, TypeUse.inNameOrder]
  | .void, held | .star, held | .dynamic, held => by cases held <;> rfl
  | .nullable inner, held | .nonNull inner, held => by
    rw [TypeUse.ofJson_sorted_of_written held (by rw [TypeUse.toJson]) (by simp [tagField])]
    simp (disch := decide) [sortByName, sortedFields, tagField, TypeUse.partsOfFields,
      TypeShape.fields, inner.ofJson_sorted true, TypeParts.build, TypeUse.inNameOrder]
  | .projected variance inner, held => by
    rw [TypeUse.ofJson_sorted_of_written held (by rw [TypeUse.toJson]) (by simp [tagField])]
    simp (disch := decide) [sortByName, sortedFields, tagField, TypeUse.partsOfFields,
      TypeShape.fields, (Variance.faithful true).decodes, inner.ofJson_sorted true, TypeParts.build,
      TypeUse.inNameOrder]
  | .aliased named inner, held => by
    rw [TypeUse.ofJson_sorted_of_written held (by rw [TypeUse.toJson]) (by simp [tagField])]
    simp (disch := decide) [sortByName, sortedFields, tagField, TypeUse.partsOfFields,
      TypeShape.fields, named.ofJson_sorted true, inner.ofJson_sorted true, TypeParts.build,
      TypeUse.inNameOrder]

/-- Lists of types come back with the maps of their members in the order of names. -/
theorem TypeUse.ofElements_sorted : ∀ (types : List TypeUse) (held : Bool),
    TypeUse.ofElements held (sortedElements (TypeUse.listToJson types)) =
      .ok (TypeUse.listInNameOrder types)
  | [], _ => rfl
  | first :: rest, held => by
    rw [TypeUse.listToJson, sortedElements, TypeUse.ofElements, first.ofJson_sorted held, ok_bind,
      TypeUse.ofElements_sorted rest held]
    rfl

end

theorem TypeUse.returns (held : Bool) :
    Returns TypeUse.toJson (TypeUse.ofJson held) TypeUse.inNameOrder where
  decodes type := type.ofJson_sorted held

theorem TypeUse.returns_list (held : Bool) :
    Returns (fun types => .array (TypeUse.listToJson types)) (TypeUse.listOfJson held)
      TypeUse.listInNameOrder where
  decodes types := TypeUse.ofElements_sorted types held

end Diglot
