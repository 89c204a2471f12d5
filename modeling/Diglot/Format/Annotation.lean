import Diglot.Annotation.Basic
import Diglot.Format.Basic
import Diglot.TypeUse.Basic

/-!
# The format of annotations

An argument value is an object with its kind and its content, in either order. If the
content comes first it is held back until the kind is known.
-/

namespace Diglot

/-! ## Encoding -/

mutual

/-- An argument value as an object of its kind and its content. -/
def AnnotationValue.toJson : AnnotationValue → Json
  | .string text => .object [("kind", .string "string"), ("value", .string text)]
  | .literal text => .object [("kind", .string "literal"), ("value", .string text)]
  | .enumConstant text => .object [("kind", .string "enum"), ("value", .string text)]
  | .classLiteral text => .object [("kind", .string "class"), ("value", .string text)]
  | .array elements =>
    .object [("kind", .string "array"), ("value", .array (AnnotationValue.listToJson elements))]
  | .nested inner => .object [("kind", .string "annotation"), ("value", inner.toJson)]

/-- A list of argument values. -/
def AnnotationValue.listToJson : List AnnotationValue → List Json
  | [] => []
  | first :: rest => first.toJson :: AnnotationValue.listToJson rest

/-- A list of arguments. -/
def AnnotationArgument.listToJson : List AnnotationArgument → List Json
  | [] => []
  | ⟨name, value⟩ :: rest =>
    .object [("name", .string name), ("value", value.toJson)] ::
      AnnotationArgument.listToJson rest

/-- An annotation as an object. -/
def Annotation.toJson : Annotation → Json
  | ⟨identity, arguments⟩ =>
    .object [("dri", identity.toJson), ("params", .array (AnnotationArgument.listToJson arguments))]

end

/-- Annotations by source set. -/
def SourcedAnnotations.toJson (annotations : SourcedAnnotations) : Json :=
  BySourceSet.toJson (fun list => .array (list.map Annotation.toJson)) annotations

/-! ## Decoding -/

/-- The kinds of argument values. -/
inductive ValueKind where
  | string
  | literal
  | enumConstant
  | classLiteral
  | array
  | nested

/-- The kinds of argument values with their names. -/
def ValueKind.names : List (String × ValueKind) :=
  [("string", string), ("literal", literal), ("enum", enumConstant), ("class", classLiteral),
    ("array", array), ("annotation", nested)]

/-- Name of the field with the content of an argument value. -/
def contentField : String := "value"

/-- Look for the kind behind the content, and give it with the fields that follow it. -/
def seekKind (held : Bool) : List (String × Json) → Decoded (ValueKind × List (String × Json))
  | [] => throw (.missingField Json.tagField)
  | (name, value) :: rest =>
    if name = Json.tagField then do
      let kind ← value.asName held ValueKind.names
      pure (kind, rest)
    else if name = contentField then throw (.duplicateField name)
    else do
      value.skip
      seekKind held rest

/-- Pass over the fields behind kind and content, which must not come again. -/
def skipRest : List (String × Json) → Decoded Unit
  | [] => pure ()
  | (name, value) :: rest =>
    if name = Json.tagField || name = contentField then throw (.duplicateField name)
    else do
      value.skip
      skipRest rest

/-- The fields of an annotation as far as they are decoded. -/
structure AnnotationParts where
  identity : Option Identity := none
  arguments : Option (List AnnotationArgument) := none

/-- The fields of an argument as far as they are decoded. -/
structure ArgumentParts where
  name : Option String := none
  value : Option AnnotationValue := none

/-- An annotation of its fields. -/
def AnnotationParts.build (parts : AnnotationParts) : Decoded Annotation := do
  let identity ← required "dri" parts.identity
  pure ⟨identity, parts.arguments.getD []⟩

/-- An argument of its fields. -/
def ArgumentParts.build (parts : ArgumentParts) : Decoded AnnotationArgument := do
  let name ← required "name" parts.name
  let value ← required "value" parts.value
  pure ⟨name, value⟩

mutual

/-- An argument value from an object. -/
def AnnotationValue.ofJson (held : Bool) : Json → Decoded AnnotationValue
  | .object fields => AnnotationValue.ofFields held none fields
  | _ => throw .malformed

/-- An argument value from the fields of an object, of which the kind may be known
already. -/
def AnnotationValue.ofFields (held : Bool) (kind : Option ValueKind) :
    List (String × Json) → Decoded AnnotationValue
  | [] =>
    match kind with
    | none => throw (.missingField Json.tagField)
    | some _ => throw (.missingField contentField)
  | (name, value) :: rest =>
    if name = Json.tagField then do
      let kind ← once name kind (value.asName held ValueKind.names)
      AnnotationValue.ofFields held kind rest
    else if name = contentField then
      match kind with
      | some kind => do
        let content ← AnnotationValue.ofContent held kind value
        skipRest rest
        pure content
      | none => do
        if !held then value.hold
        let (kind, others) ← seekKind held rest
        let content ← AnnotationValue.ofContent true kind value
        skipRest others
        pure content
    else do
      value.skip
      AnnotationValue.ofFields held kind rest

/-- An argument value from its content. -/
def AnnotationValue.ofContent (held : Bool) (kind : ValueKind) : Json → Decoded AnnotationValue
  | .string text =>
    match kind with
    | .string => pure (.string text)
    | .literal => pure (.literal text)
    | .enumConstant => pure (.enumConstant text)
    | .classLiteral => pure (.classLiteral text)
    | _ => throw .malformed
  | .array elements =>
    match kind with
    | .array => .array <$> AnnotationValue.listOfJson held elements
    | _ => throw .malformed
  | .object fields =>
    match kind with
    | .nested => do
      let parts ← Annotation.partsOfFields held {} fields
      .nested <$> parts.build
    | _ => throw .malformed
  | _ => throw .malformed

/-- A list of argument values. -/
def AnnotationValue.listOfJson (held : Bool) : List Json → Decoded (List AnnotationValue)
  | [] => pure []
  | first :: rest => do
    let value ← AnnotationValue.ofJson held first
    let values ← AnnotationValue.listOfJson held rest
    pure (value :: values)

/-- The parts of an annotation from the fields of an object. -/
def Annotation.partsOfFields (held : Bool) (parts : AnnotationParts) :
    List (String × Json) → Decoded AnnotationParts
  | [] => pure parts
  | (name, value) :: rest =>
    match name with
    | "dri" => do
      let identity ← once name parts.identity (Identity.ofJson value)
      Annotation.partsOfFields held { parts with identity } rest
    | "params" => do
      let arguments ← once name parts.arguments (AnnotationArgument.listOfJson held value)
      Annotation.partsOfFields held { parts with arguments } rest
    | _ => do
      value.skip
      Annotation.partsOfFields held parts rest

/-- Arguments from an array. -/
def AnnotationArgument.listOfJson (held : Bool) : Json → Decoded (List AnnotationArgument)
  | .array elements => AnnotationArgument.ofElements held elements
  | _ => throw .malformed

/-- Arguments from the elements of an array. -/
def AnnotationArgument.ofElements (held : Bool) : List Json → Decoded (List AnnotationArgument)
  | [] => pure []
  | first :: rest => do
    let argument ← AnnotationArgument.ofJson held first
    let arguments ← AnnotationArgument.ofElements held rest
    pure (argument :: arguments)

/-- An argument from an object. -/
def AnnotationArgument.ofJson (held : Bool) : Json → Decoded AnnotationArgument
  | .object fields => do
    let parts ← AnnotationArgument.partsOfFields held {} fields
    parts.build
  | _ => throw .malformed

/-- The parts of an argument from the fields of an object. -/
def AnnotationArgument.partsOfFields (held : Bool) (parts : ArgumentParts) :
    List (String × Json) → Decoded ArgumentParts
  | [] => pure parts
  | (field, content) :: rest =>
    match field with
    | "name" => do
      let name ← once field parts.name content.asString
      AnnotationArgument.partsOfFields held { parts with name } rest
    | "value" => do
      let value ← once field parts.value (AnnotationValue.ofJson held content)
      AnnotationArgument.partsOfFields held { parts with value } rest
    | _ => do
      content.skip
      AnnotationArgument.partsOfFields held parts rest

end

/-- An annotation from an object. -/
def Annotation.ofJson (held : Bool) : Json → Decoded Annotation
  | .object fields => do
    let parts ← Annotation.partsOfFields held {} fields
    parts.build
  | _ => throw .malformed

/-- Annotations by source set from an object. -/
def SourcedAnnotations.ofJson (held : Bool) (document : Json) : Decoded SourcedAnnotations :=
  document.asMap <| Json.asList <| Annotation.ofJson held

end Diglot
