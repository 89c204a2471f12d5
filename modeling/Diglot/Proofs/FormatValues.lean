import Diglot.Format.Annotation
import Diglot.Format.Declaration
import Diglot.Proofs.PlainDocuments

/-!
# Names, maps and annotations are decoded as they were encoded

* `Json.Faithful` — a format loses nothing: decoding undoes encoding, and what is written is
  plain. Lists and values by source set are faithful if their members are.
* Identities, source sets, and the names of modifiers, containers and variances are faithful.
* So are annotations, whose arguments may hold annotations again (`Annotation.faithful`).
-/

namespace Diglot

namespace Json

/-- **A format that loses nothing.** -/
structure Faithful {α : Type} (encode : α → Json) (decode : Json → Decoded α) : Prop where
  /-- decoding undoes encoding -/
  decodes : ∀ value, decode (encode value) = .ok value
  /-- what is written has no numbers and no faults -/
  plain : ∀ value, (encode value).isPlain = true

/-! ## Steps of decoding -/

section

variable {α β σ : Type}

@[simp]
theorem ok_bind (value : α) (f : α → Decoded β) :
    ((Except.ok value : Decoded α) >>= f) = f value :=
  rfl

@[simp]
theorem pure_eq_ok (value : α) : (pure value : Decoded α) = .ok value :=
  rfl

@[simp]
theorem required_some (name : String) (value : α) : required name (some value) = .ok value :=
  rfl

@[simp]
theorem once_none_ok (name : String) (value : α) :
    once name none (.ok value) = .ok (some value) :=
  rfl

@[simp]
theorem skip_string (text : String) : (string text).skip = .ok () :=
  rfl

@[simp]
theorem asString_string (text : String) : (string text).asString = .ok text :=
  rfl

@[simp]
theorem asBool_bool (value : Bool) : (bool value).asBool = .ok value :=
  rfl

@[simp]
theorem asOption_string (text : String) : (string text).asOption asString = .ok (some text) :=
  rfl

@[simp]
theorem foldFields_nil (step : σ → String → Json → Decoded σ) (start : σ) :
    foldFields step start (object []) = .ok start :=
  rfl

@[simp]
theorem foldFields_cons (step : σ → String → Json → Decoded σ) (start : σ) (name : String)
    (value : Json) (rest : List (String × Json)) :
    foldFields step start (object ((name, value) :: rest)) =
      step start name value >>= fun state => foldFields step state (object rest) :=
  rfl

end

/-! ## Lists and maps -/

variable {α : Type} {encode : α → Json} {decode : Json → Decoded α}

/-- The members of a list are decoded one by one. -/
theorem Faithful.mapM' (faithful : Faithful encode decode) (list : List α) :
    (list.map encode).mapM' decode = .ok list := by
  induction list with
  | nil => rfl
  | cons a rest ih =>
    rw [List.map_cons, List.mapM'_cons, faithful.decodes, ok_bind, ih]
    rfl

/-- A list is faithful if its members are. -/
theorem Faithful.list (faithful : Faithful encode decode) :
    Faithful (fun list => array (list.map encode)) (asList decode) where
  decodes list := faithful.mapM' list
  plain list := by
    rw [isPlain, arePlain_iff]
    intro element mem
    obtain ⟨a, -, rfl⟩ := List.mem_map.mp mem
    exact faithful.plain a

end Json

/-- A new name comes last. -/
theorem insertEntry_of_not_mem {α : Type} {name : String} {value : α} :
    ∀ {entries : List (String × α)}, name ∉ entries.map Prod.fst →
      insertEntry name value entries = entries ++ [(name, value)]
  | [], _ => rfl
  | (other, old) :: rest, absent => by
    rw [List.map_cons, List.mem_cons, not_or] at absent
    rw [insertEntry, if_neg (Ne.symm absent.1), insertEntry_of_not_mem absent.2]
    rfl

namespace Json

variable {α : Type} {encode : α → Json} {decode : Json → Decoded α}

/-- Entries with new names are added in their order. -/
theorem Faithful.foldlM_insert (faithful : Faithful encode decode) :
    ∀ (entries : List (String × α)) (map : BySourceSet α),
      ((map.entries ++ entries).map Prod.fst).Nodup →
      ∃ map' : BySourceSet α, map'.entries = map.entries ++ entries ∧
        (entries.map fun entry => (entry.1, encode entry.2)).foldlM
          (fun (map : BySourceSet α) field => do
            let value ← decode field.2
            pure (map.insert field.1 value)) map = (.ok map' : Decoded _)
  | [], map, _ => ⟨map, (List.append_nil _).symm, rfl⟩
  | (name, value) :: rest, map, distinct => by
    have absent : name ∉ map.entries.map Prod.fst := by
      rw [List.map_append, List.map_cons, List.nodup_append] at distinct
      exact fun mem => distinct.2.2 name mem name (List.mem_cons_self ..) rfl
    -- the invariant: what is in the map already stays in front of what is still to come
    have entries : (map.insert name value).entries = map.entries ++ [(name, value)] :=
      insertEntry_of_not_mem absent
    obtain ⟨map', eq, folded⟩ := faithful.foldlM_insert rest (map.insert name value) (by
      rw [entries, List.append_assoc]
      exact distinct)
    refine ⟨map', ?_, ?_⟩
    · rw [eq, entries, List.append_assoc]
      rfl
    · rw [List.map_cons, List.foldlM_cons, faithful.decodes]
      exact folded

/-- **Values by source set are faithful if the values are**, and keep their order. -/
theorem Faithful.map (faithful : Faithful encode decode) :
    Faithful (BySourceSet.toJson encode) (asMap decode) where
  decodes map := by
    obtain ⟨map', eq, folded⟩ := faithful.foldlM_insert map.entries ∅ map.distinct
    have same : map' = map := BySourceSet.ext eq
    exact folded.trans (congrArg Except.ok same)
  plain map := by
    rw [BySourceSet.toJson, isPlain, fieldsArePlain_iff]
    intro field mem
    obtain ⟨entry, -, rfl⟩ := List.mem_map.mp mem
    exact faithful.plain entry.2

/-! ## Names -/

theorem faithful_string : Faithful string asString where
  decodes _ := rfl
  plain _ := rfl

/-- Names are faithful if the table has each of them. -/
theorem faithful_asName {names : List (String × α)} {label : α → String}
    (listed : ∀ value, names.lookup (label value) = some value) (held : Bool) :
    Faithful (fun value => string (label value)) (asName held names) where
  decodes value := by rw [asName, variant, listed]; rfl
  plain _ := rfl

end Json

open Json

theorem Platform.faithful (held : Bool) :
    Faithful (fun platform => string (Platform.label platform)) (asName held names) :=
  faithful_asName (fun platform => by cases platform <;> rfl) held

theorem ContainerKind.faithful (held : Bool) :
    Faithful (fun kind => string (ContainerKind.label kind)) (asName held names) :=
  faithful_asName (fun kind => by cases kind <;> rfl) held

theorem Variance.faithful (held : Bool) :
    Faithful (fun variance => string (Variance.label variance)) (asName held names) :=
  faithful_asName (fun variance => by cases variance <;> rfl) held

theorem Modifier.faithful (held : Bool) :
    Faithful (fun modifier => string (Modifier.keyword modifier)) (asName held names) :=
  faithful_asName (fun modifier => by cases modifier <;> rfl) held

/-- Modifiers are listed by their keywords. -/
theorem Modifier.faithful_list (held : Bool) : Faithful listToJson (listOfJson held) := by
  have each := (Modifier.faithful held).list
  have same : listToJson = fun modifiers => array (modifiers.map fun modifier =>
      string (keyword modifier)) := by
    funext modifiers
    rw [listToJson, ofStrings, List.map_map]
    rfl
  rw [same]
  exact each

theorem Identity.faithful : Faithful toJson ofJson where
  decodes identity := by
    obtain ⟨package, classNames, callable⟩ := identity
    cases classNames <;> cases callable <;> rfl
  plain identity := by
    obtain ⟨package, classNames, callable⟩ := identity
    cases classNames <;> cases callable <;> rfl

theorem SourceSet.faithful : Faithful toJson ofJson where
  decodes sourceSet := by
    have platform := (Platform.faithful false).decodes sourceSet.platform
    simp [toJson, ofJson, addField, platform]
  plain _ := rfl

/-! ## Annotations -/

/-- Where the kind comes first, the content is decoded at once. -/
theorem AnnotationValue.ofJson_of_kind (held : Bool) {name : String} {kind : ValueKind}
    (listed : variant ValueKind.names name = .ok kind) (content : Json) :
    AnnotationValue.ofJson held (.object [(tagField, .string name), (contentField, content)]) =
      AnnotationValue.ofContent held kind content := by
  have other : contentField ≠ tagField := by decide
  rw [ofJson, ofFields, if_pos rfl, asName, listed, once_none_ok, ok_bind, ofFields,
    if_neg other, if_pos rfl]
  cases AnnotationValue.ofContent held kind content <;> rfl

/-- The fields of an annotation are decoded if its arguments are. -/
theorem Annotation.partsOfFields_toJson {held : Bool} {arguments : List AnnotationArgument}
    (inside : AnnotationArgument.ofElements held (AnnotationArgument.listToJson arguments) =
      .ok arguments) (identity : Identity) :
    Annotation.partsOfFields held {}
        [("dri", identity.toJson), ("params", .array (AnnotationArgument.listToJson arguments))] =
      .ok ⟨some identity, some arguments⟩ := by
  simp [partsOfFields, Identity.faithful.decodes, AnnotationArgument.listOfJson, inside]

mutual

/-- A value of an annotation argument is decoded as it was encoded. -/
theorem AnnotationValue.ofJson_toJson (held : Bool) : ∀ value : AnnotationValue,
    AnnotationValue.ofJson held value.toJson = .ok value
  | .string _ | .literal _ | .enumConstant _ | .classLiteral _ => rfl
  | .array elements => by
    have inside := AnnotationValue.listOfJson_listToJson held elements
    have listed : variant ValueKind.names "array" = .ok .array := rfl
    refine (AnnotationValue.ofJson_of_kind held listed _).trans ?_
    rw [AnnotationValue.ofContent, inside]
    rfl
  | .nested ⟨identity, arguments⟩ => by
    have inside := AnnotationArgument.ofElements_listToJson held arguments
    have listed : variant ValueKind.names "annotation" = .ok .nested := rfl
    refine (AnnotationValue.ofJson_of_kind held listed _).trans ?_
    unfold Annotation.toJson
    rw [AnnotationValue.ofContent, Annotation.partsOfFields_toJson inside identity]
    rfl

theorem AnnotationValue.listOfJson_listToJson (held : Bool) : ∀ values : List AnnotationValue,
    AnnotationValue.listOfJson held (AnnotationValue.listToJson values) = .ok values
  | [] => rfl
  | first :: rest => by
    rw [AnnotationValue.listToJson, AnnotationValue.listOfJson,
      AnnotationValue.ofJson_toJson held first, ok_bind,
      AnnotationValue.listOfJson_listToJson held rest]
    rfl

theorem AnnotationArgument.ofElements_listToJson (held : Bool) :
    ∀ arguments : List AnnotationArgument,
      AnnotationArgument.ofElements held (AnnotationArgument.listToJson arguments) = .ok arguments
  | [] => rfl
  | ⟨name, value⟩ :: rest => by
    have first := AnnotationValue.ofJson_toJson held value
    have others := AnnotationArgument.ofElements_listToJson held rest
    simp [AnnotationArgument.listToJson, AnnotationArgument.ofElements,
      AnnotationArgument.ofJson, AnnotationArgument.partsOfFields, first, ArgumentParts.build,
      others]

end

mutual

/-- What is written for a value of an annotation argument is plain. -/
theorem AnnotationValue.isPlain_toJson : ∀ value : AnnotationValue,
    value.toJson.isPlain = true
  | .string _ | .literal _ | .enumConstant _ | .classLiteral _ => rfl
  | .array elements => by
    simp [AnnotationValue.toJson, isPlain, fieldsArePlain,
      AnnotationValue.arePlain_listToJson elements]
  | .nested inner => by
    simp [AnnotationValue.toJson, isPlain, fieldsArePlain, inner.isPlain_toJson]

theorem AnnotationValue.arePlain_listToJson : ∀ values : List AnnotationValue,
    arePlain (AnnotationValue.listToJson values) = true
  | [] => rfl
  | first :: rest => by
    simp [AnnotationValue.listToJson, arePlain, first.isPlain_toJson,
      AnnotationValue.arePlain_listToJson rest]

theorem AnnotationArgument.arePlain_listToJson : ∀ arguments : List AnnotationArgument,
    arePlain (AnnotationArgument.listToJson arguments) = true
  | [] => rfl
  | ⟨name, value⟩ :: rest => by
    simp [AnnotationArgument.listToJson, arePlain, isPlain, fieldsArePlain, value.isPlain_toJson,
      AnnotationArgument.arePlain_listToJson rest]

/-- What is written for an annotation is plain. -/
theorem Annotation.isPlain_toJson : ∀ a : Annotation, a.toJson.isPlain = true
  | ⟨identity, arguments⟩ => by
    simp [isPlain, fieldsArePlain, Annotation.toJson, Identity.faithful.plain,
      AnnotationArgument.arePlain_listToJson arguments]

end

/-- **Annotations are decoded as they were encoded.** -/
theorem Annotation.faithful (held : Bool) : Faithful toJson (ofJson held) where
  decodes a := by
    obtain ⟨identity, arguments⟩ := a
    have inside := AnnotationArgument.ofElements_listToJson held arguments
    rw [toJson, ofJson, partsOfFields_toJson inside identity]
    rfl
  plain a := a.isPlain_toJson

/-- **Annotations by source set are decoded as they were encoded**, in their order. -/
theorem SourcedAnnotations.faithful (held : Bool) :
    Faithful SourcedAnnotations.toJson (SourcedAnnotations.ofJson held) := by
  have each := Annotation.faithful held
  exact each.list.map

end Diglot
