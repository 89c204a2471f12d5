import Diglot.Proofs.FormatValues
import Diglot.Proofs.NameOrder

/-!
# What is decoded from JSON values

The objects of a JSON value have their fields in the order of names, so a decoder meets them in
another order than they were written in.

* `filter_sortByName` — entries can be selected by their names before or after they are sorted.
* `Json.Returns` — what a format gives back of a JSON value; `Json.Returns.list` and
  `Json.Returns.map` build it for lists and for values by source set.
* `Annotation.returns`, `SourcedAnnotations.returns` — annotations come back as they were, and by
  source set in the order of names.
-/

namespace Diglot

variable {α β : Type}

/-! ## Sorted documents -/

@[simp]
theorem insertByName_nil (name : String) (value : α) :
    insertByName name value [] = [(name, value)] :=
  rfl

/-- A name in front of the first of the others comes first. -/
@[simp]
theorem insertByName_of_lt {name other : String} (before : Ord.compare name other = .lt)
    (value old : α) (rest : List (String × α)) :
    insertByName name value ((other, old) :: rest) = (name, value) :: (other, old) :: rest := by
  rw [insertByName, before]

/-- A name behind the first of the others has its place among the rest. -/
@[simp]
theorem insertByName_of_gt {name other : String} (after : Ord.compare name other = .gt)
    (value old : α) (rest : List (String × α)) :
    insertByName name value ((other, old) :: rest) =
      (other, old) :: insertByName name value rest := by
  rw [insertByName, after]

/-- Insertion does not look at values. -/
theorem insertByName_map (f : α → β) (name : String) (value : α) (entries : List (String × α)) :
    insertByName name (f value) (entries.map fun entry => (entry.1, f entry.2)) =
      (insertByName name value entries).map fun entry => (entry.1, f entry.2) := by
  induction entries with
  | nil => rfl
  | cons entry rest ih =>
    rw [List.map_cons, insertByName, insertByName, ih]
    cases Ord.compare name entry.1 <;> rfl

/-- Sorting does not look at values. -/
theorem sortByName_map (f : α → β) (entries : List (String × α)) :
    sortByName (entries.map fun entry => (entry.1, f entry.2)) =
      (sortByName entries).map fun entry => (entry.1, f entry.2) := by
  have each : ∀ (entries sorted : List (String × α)),
      (entries.map fun entry => (entry.1, f entry.2)).foldl
          (fun sorted entry => insertByName entry.1 entry.2 sorted)
          (sorted.map fun entry => (entry.1, f entry.2)) =
        (entries.foldl (fun sorted entry => insertByName entry.1 entry.2 sorted) sorted).map
          fun entry => (entry.1, f entry.2) := by
    intro entries
    induction entries with
    | nil => exact fun _ => rfl
    | cons entry rest ih =>
      intro sorted
      simp only [List.map_cons, List.foldl_cons, insertByName_map, ih]
  exact each entries []

/-- In front of all others stands a name that is before each of them. -/
theorem insertByName_of_forall_lt {name : String} (value : α) {entries : List (String × α)}
    (before : ∀ entry ∈ entries, Ord.compare name entry.1 = .lt) :
    insertByName name value entries = (name, value) :: entries := by
  cases entries with
  | nil => rfl
  | cons entry rest => exact insertByName_of_lt (before entry (List.mem_cons_self ..)) ..

/-- A selection by names is inserted into where the whole list is. -/
theorem filter_insertByName (p : String → Bool) (name : String) (value : α)
    {entries : List (String × α)} (ordered : AreByName entries) :
    (insertByName name value entries).filter (fun entry => p entry.1) =
      if p name then insertByName name value (entries.filter fun entry => p entry.1)
      else entries.filter fun entry => p entry.1 := by
  induction entries with
  | nil => cases h : p name <;> simp [h]
  | cons entry rest ih =>
    obtain ⟨other, old⟩ := entry
    obtain ⟨first, behind⟩ := List.pairwise_cons.mp ordered
    rw [insertByName]
    split
    case h_1 before =>
      have kept : ∀ entry ∈ ((other, old) :: rest).filter (fun entry => p entry.1),
          Ord.compare name entry.1 = .lt := by
        intro entry mem
        rcases List.mem_cons.mp (List.mem_filter.mp mem).1 with rfl | mem
        · exact before
        · exact Std.TransCmp.lt_trans before (first entry mem)
      rw [insertByName_of_forall_lt value kept, List.filter_cons]
    case h_2 same =>
      obtain rfl : name = other := Std.LawfulEqCmp.eq_of_compare same
      cases h : p name <;> simp [h, insertByName, Std.ReflCmp.compare_self]
    case h_3 after =>
      have ih := ih behind
      cases h : p other <;> cases h' : p name <;> simp [h, h', ih, insertByName_of_gt after]

/-- **Sorting and selecting by names can be done in either order.** -/
theorem filter_sortByName (p : String → Bool) (entries : List (String × α)) :
    (sortByName entries).filter (fun entry => p entry.1) =
      sortByName (entries.filter fun entry => p entry.1) := by
  have each : ∀ (entries sorted : List (String × α)), AreByName sorted →
      (entries.foldl (fun sorted entry => insertByName entry.1 entry.2 sorted) sorted).filter
          (fun entry => p entry.1) =
        (entries.filter fun entry => p entry.1).foldl
          (fun sorted entry => insertByName entry.1 entry.2 sorted)
          (sorted.filter fun entry => p entry.1) := by
    intro entries
    induction entries with
    | nil => exact fun _ _ => rfl
    | cons entry rest ih =>
      intro sorted ordered
      rw [List.foldl_cons, ih _ ordered.insertByName, filter_insertByName p _ _ ordered,
        List.filter_cons]
      cases h : p entry.1 <;> rfl
  exact each entries [] List.Pairwise.nil

namespace Json

@[simp]
theorem sorted_string (text : String) : (string text).sorted = string text :=
  rfl

@[simp]
theorem sorted_bool (value : Bool) : (bool value).sorted = bool value :=
  rfl

@[simp]
theorem sorted_object (fields : List (String × Json)) :
    (object fields).sorted = object (sortByName (sortedFields fields)) :=
  rfl

theorem sortedElements_map (encode : α → Json) (list : List α) :
    sortedElements (list.map encode) = list.map fun a => (encode a).sorted := by
  induction list with
  | nil => rfl
  | cons a rest ih => rw [List.map_cons, sortedElements, ih, List.map_cons]

theorem sortedFields_map (encode : α → Json) (entries : List (String × α)) :
    sortedFields (entries.map fun entry => (entry.1, encode entry.2)) =
      entries.map fun entry => (entry.1, (encode entry.2).sorted) := by
  induction entries with
  | nil => rfl
  | cons entry rest ih => rw [List.map_cons, sortedFields, ih, List.map_cons]

/-- Fields keep their names. -/
theorem map_fst_sortedFields (fields : List (String × Json)) :
    (sortedFields fields).map Prod.fst = fields.map Prod.fst := by
  induction fields with
  | nil => rfl
  | cons field rest ih => rw [sortedFields, List.map_cons, List.map_cons, ih]

/-- Fields are selected by their names before or after what is in them is sorted. -/
theorem filter_sortedFields (p : String → Bool) (fields : List (String × Json)) :
    (sortedFields fields).filter (fun field => p field.1) =
      sortedFields (fields.filter fun field => p field.1) := by
  induction fields with
  | nil => rfl
  | cons field rest ih =>
    rw [sortedFields, List.filter_cons, List.filter_cons, ih]
    cases p field.1 <;> rfl

mutual

/-- A sorted document is plain if the document is. -/
theorem isPlain_sorted : ∀ {document : Json}, document.isPlain = true →
    document.sorted.isPlain = true
  | array _, plain => arePlain_sortedElements plain
  | object _, plain => by
    have inside := fieldsArePlain_iff.mp (fieldsArePlain_sortedFields plain)
    exact fieldsArePlain_iff.mpr fun field mem => inside field (mem_of_mem_sortByName mem)
  | null, _ | bool _, _ | string _, _ => rfl

theorem arePlain_sortedElements : ∀ {elements : List Json}, arePlain elements = true →
    arePlain (sortedElements elements) = true
  | [], _ => rfl
  | first :: rest, plain => by
    rw [arePlain, Bool.and_eq_true] at plain
    rw [sortedElements, arePlain, isPlain_sorted plain.1, arePlain_sortedElements plain.2]
    rfl

theorem fieldsArePlain_sortedFields : ∀ {fields : List (String × Json)},
    fieldsArePlain fields = true → fieldsArePlain (sortedFields fields) = true
  | [], _ => rfl
  | (_, value) :: rest, plain => by
    rw [fieldsArePlain, Bool.and_eq_true] at plain
    rw [sortedFields, fieldsArePlain, isPlain_sorted plain.1, fieldsArePlain_sortedFields plain.2]
    rfl

end

/-! ## What comes back -/

/-- **What a format gives back of a JSON value**: the fields of every object come in the order of
their names. -/
structure Returns (encode : α → Json) (decode : Json → Decoded α) (order : α → α) : Prop where
  /-- decoding the value gives what was encoded, in another order -/
  decodes : ∀ value, decode (encode value).sorted = .ok (order value)

variable {encode : α → Json} {decode : Json → Decoded α} {order : α → α}

/-- The members of a list are decoded one by one. -/
theorem Returns.mapM' (returns : Returns encode decode order) (list : List α) :
    (list.map fun a => (encode a).sorted).mapM' decode = .ok (list.map order) := by
  induction list with
  | nil => rfl
  | cons a rest ih =>
    rw [List.map_cons, List.mapM'_cons, returns.decodes, ok_bind, ih]
    rfl

/-- A list comes back with what comes back of its members. -/
theorem Returns.list (returns : Returns encode decode order) :
    Returns (fun list => array (list.map encode)) (asList decode) (List.map order) where
  decodes list := by
    rw [sorted, sortedElements_map]
    exact returns.mapM' list

/-- **Values by source set come back in the order of their names.** -/
theorem Returns.map (returns : Returns encode decode id) (faithful : Faithful encode decode) :
    Returns (BySourceSet.toJson encode) (asMap decode) BySourceSet.inNameOrder where
  decodes map := by
    have written : (map.toJson encode).sorted =
        map.inNameOrder.toJson fun a => (encode a).sorted := by
      rw [BySourceSet.toJson, sorted, sortedFields_map, sortByName_map fun a => (encode a).sorted]
      rfl
    have each : Faithful (fun a => (encode a).sorted) decode :=
      ⟨returns.decodes, fun a => isPlain_sorted (faithful.plain a)⟩
    rw [written]
    exact each.map.decodes map.inNameOrder

theorem returns_string : Returns string asString id where
  decodes _ := rfl

end Json

open Json

theorem Identity.returns : Returns toJson ofJson id where
  decodes identity := by
    obtain ⟨package, classNames, callable⟩ := identity
    cases classNames <;> cases callable <;>
      simp (disch := decide) [toJson, ofJson, optionalField, addField, sortByName, sortedFields]

theorem SourceSet.returns : Returns toJson ofJson id where
  decodes sourceSet := by
    have platform := (Platform.faithful false).decodes sourceSet.platform
    simp (disch := decide) [toJson, ofJson, addField, sortByName, sortedFields, platform]

theorem Modifier.returns_list (held : Bool) : Returns listToJson (listOfJson held) id where
  decodes modifiers := by
    have same : (listToJson modifiers).sorted = listToJson modifiers := by
      rw [listToJson, ofStrings, sorted, sortedElements_map]
      rfl
    rw [same]
    exact (Modifier.faithful_list held).decodes modifiers

/-! ## Annotations -/

/-- The fields of an annotation are in the order of their names as they are written. -/
theorem Annotation.sorted_toJson (identity : Identity) (arguments : List AnnotationArgument) :
    (toJson ⟨identity, arguments⟩).sorted =
      .object [("dri", identity.toJson.sorted),
        ("params", .array (sortedElements (AnnotationArgument.listToJson arguments)))] := by
  simp (disch := decide) [toJson, sorted, sortByName, sortedFields]

/-- The sorted fields of an annotation are decoded if its sorted arguments are. -/
theorem Annotation.partsOfFields_sorted {held : Bool} {arguments : List AnnotationArgument}
    (inside : AnnotationArgument.ofElements held
      (sortedElements (AnnotationArgument.listToJson arguments)) = .ok arguments)
    (identity : Identity) :
    partsOfFields held {} [("dri", identity.toJson.sorted),
        ("params", .array (sortedElements (AnnotationArgument.listToJson arguments)))] =
      .ok ⟨some identity, some arguments⟩ := by
  simp [partsOfFields, Identity.returns.decodes, AnnotationArgument.listOfJson, inside]

/-- The kind of an annotation value comes before its content, in name order too. -/
theorem Json.sorted_kind (kind : String) (content : Json) :
    (Json.object [(tagField, .string kind), (contentField, content)]).sorted =
      .object [(tagField, .string kind), (contentField, content.sorted)] := by
  simp (disch := decide) [tagField, contentField, sortByName, sortedFields]

mutual

theorem AnnotationValue.ofJson_sorted (held : Bool) : ∀ value : AnnotationValue,
    AnnotationValue.ofJson held value.toJson.sorted = .ok value
  | .string _ | .literal _ | .enumConstant _ | .classLiteral _ =>
    (congrArg _ (sorted_kind _ _)).trans rfl
  | .array elements => by
    have inside := AnnotationValue.listOfJson_sorted held elements
    have listed : variant ValueKind.names "array" = .ok .array := rfl
    rw [AnnotationValue.toJson]
    refine (congrArg _ (sorted_kind _ _)).trans ?_
    refine (AnnotationValue.ofJson_of_kind held listed _).trans ?_
    rw [sorted, AnnotationValue.ofContent, inside]
    rfl
  | .nested ⟨identity, arguments⟩ => by
    have inside := AnnotationArgument.ofElements_sorted held arguments
    have fields := Annotation.sorted_toJson identity arguments
    have listed : variant ValueKind.names "annotation" = .ok .nested := rfl
    rw [AnnotationValue.toJson]
    refine (congrArg _ (sorted_kind _ _)).trans ?_
    refine (AnnotationValue.ofJson_of_kind held listed _).trans ?_
    rw [fields, AnnotationValue.ofContent, Annotation.partsOfFields_sorted inside identity]
    rfl

theorem AnnotationValue.listOfJson_sorted (held : Bool) : ∀ values : List AnnotationValue,
    AnnotationValue.listOfJson held (sortedElements (AnnotationValue.listToJson values)) =
      .ok values
  | [] => rfl
  | first :: rest => by
    rw [AnnotationValue.listToJson, sortedElements, AnnotationValue.listOfJson,
      AnnotationValue.ofJson_sorted held first, ok_bind,
      AnnotationValue.listOfJson_sorted held rest]
    rfl

theorem AnnotationArgument.ofElements_sorted (held : Bool) :
    ∀ arguments : List AnnotationArgument,
      AnnotationArgument.ofElements held
        (sortedElements (AnnotationArgument.listToJson arguments)) = .ok arguments
  | [] => rfl
  | ⟨name, value⟩ :: rest => by
    have first := AnnotationValue.ofJson_sorted held value
    have others := AnnotationArgument.ofElements_sorted held rest
    simp (disch := decide) [AnnotationArgument.listToJson, sortedElements, sortByName, sortedFields,
      AnnotationArgument.ofElements, AnnotationArgument.ofJson, AnnotationArgument.partsOfFields,
      first, ArgumentParts.build, others]

end

/-- **Annotations come back as they were.** There is no map in them. -/
theorem Annotation.returns (held : Bool) : Returns toJson (ofJson held) id where
  decodes a := by
    obtain ⟨identity, arguments⟩ := a
    have inside := AnnotationArgument.ofElements_sorted held arguments
    rw [sorted_toJson, ofJson, partsOfFields_sorted inside identity]
    rfl

/-- **Annotations by source set come back in the order of names.** -/
theorem SourcedAnnotations.returns (held : Bool) :
    Returns SourcedAnnotations.toJson (SourcedAnnotations.ofJson held) BySourceSet.inNameOrder := by
  have returns := Annotation.returns held
  have faithful := Annotation.faithful held
  have list := returns.list
  rw [List.map_id_fun] at list
  exact list.map faithful.list

end Diglot
