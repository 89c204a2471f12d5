import Diglot.Format.Basic
import Diglot.Renderer

/-!
# The format of signatures

How signatures, and everything that they are made of, are written as documents. They are
only written and never read. An absent value is null here.
-/

namespace Diglot

/-- A text or null. -/
def nullableText : Option String → Json
  | some text => .string text
  | none => .null

/-- A link as an object. -/
def Link.toJson (link : Link) : Json :=
  .object [("name", .string link.name), ("url", .string link.url)]

mutual

/-- An argument of an annotation as an object with its kind. -/
def ShownArgument.toJson : ShownArgument → Json
  | .value name value =>
    .object [("kind", .string "value"), ("name", .string name), ("value", .string value)]
  | .array name elements =>
    .object
      [("kind", .string "array"), ("name", .string name),
        ("values", .array (ShownArgument.listToJson elements))]
  | .nested name inner =>
    .object
      [("kind", .string "annotation"), ("name", .string name), ("annotation", inner.toJson)]

/-- A list of arguments. -/
def ShownArgument.listToJson : List ShownArgument → List Json
  | [] => []
  | first :: rest => first.toJson :: ShownArgument.listToJson rest

/-- An annotation as an object. -/
def ShownAnnotation.toJson : ShownAnnotation → Json
  | ⟨link, arguments⟩ =>
    .object
      [("link", link.toJson), ("parameters", .array (ShownArgument.listToJson arguments))]

end

/-- A list of annotations. -/
def ShownAnnotation.listToJson (annotations : List ShownAnnotation) : Json :=
  .array (annotations.map toJson)

/-- The fields of a type that is a name with arguments. -/
def Face.toFields (face : Face) (link : Link) (arguments : List Json) :
    List (String × Json) :=
  [("link", link.toJson), ("nullability", .string face.nullability.label),
    ("language", face.dialect.toJson), ("generics", .array arguments),
    ("annotations", ShownAnnotation.listToJson face.annotations)]

mutual

/-- A type as an object with its kind. -/
def ShownType.toJson : ShownType → Json
  | .plain face link arguments =>
    .object
      (("kind", .string "plain") :: face.toFields link (ShownType.listToJson arguments))
  | .mapped face link mutable arguments =>
    .object
      [("kind", .string "mapped"),
        ("base", .object (face.toFields link (ShownType.listToJson arguments))),
        ("alternative_prefix", mutable.toJson)]
  | .lambda face isSuspend receiver parameters returnType =>
    .object
      [("kind", .string "lambda"),
        ("return_type", returnType.toJson),
        ("nullability", .string face.nullability.label),
        ("language", face.dialect.toJson),
        ("modifiers", .ofStrings (if isSuspend then ["suspend"] else [])),
        ("parameters", .array (ShownParameter.listToJson parameters)),
        ("receiver", ShownType.optionToJson receiver),
        ("annotations", ShownAnnotation.listToJson face.annotations)]

/-- A list of types. -/
def ShownType.listToJson : List ShownType → List Json
  | [] => []
  | first :: rest => first.toJson :: ShownType.listToJson rest

/-- A receiver or null. -/
def ShownType.optionToJson : Option ShownType → Json
  | none => .null
  | some receiver => receiver.toJson

/-- A list of parameters. -/
def ShownParameter.listToJson : List ShownParameter → List Json
  | [] => []
  | first :: rest => first.toJson :: ShownParameter.listToJson rest

/-- A parameter as an object. -/
def ShownParameter.toJson : ShownParameter → Json
  | ⟨name, type, default, modifiers, annotations, dialect⟩ =>
    .object
      [("name", .string name), ("type", type.toJson), ("default_value", nullableText default),
        ("modifiers", Modifier.listToJson modifiers),
        ("annotations", ShownAnnotation.listToJson annotations),
        ("language", dialect.toJson)]

end

/-- A type parameter as an object. -/
def ShownTypeParameter.toJson (parameter : ShownTypeParameter) : Json :=
  .object
    [("name", .string parameter.name),
      ("bounds", .array (ShownType.listToJson parameter.bounds)),
      ("language", parameter.dialect.toJson)]

/-- A receiver or null. -/
def shownReceiver : Option ShownParameter → Json
  | none => .null
  | some receiver => receiver.toJson

/-- The fields of the signature of a function. -/
def FunctionSignature.toFields (s : FunctionSignature) : List (String × Json) :=
  [("language", s.dialect.toJson), ("name", s.name.toJson),
    ("modifiers", Modifier.listToJson s.modifiers),
    ("annotations", ShownAnnotation.listToJson s.annotations),
    ("type_parameters", .array (s.typeParameters.map ShownTypeParameter.toJson)),
    ("receiver", shownReceiver s.receiver),
    ("parameters", .array (ShownParameter.listToJson s.parameters)),
    ("return_type", s.returnType.toJson),
    ("is_constructor", .bool s.isConstructor),
    ("is_deprecated", .bool s.isDeprecated)]

/-- The fields of the signature of a property. -/
def PropertySignature.toFields (s : PropertySignature) : List (String × Json) :=
  [("language", s.dialect.toJson), ("name", s.name.toJson),
    ("modifiers", Modifier.listToJson s.modifiers),
    ("annotations", ShownAnnotation.listToJson s.annotations),
    ("receiver", shownReceiver s.receiver),
    ("type", s.type.toJson),
    ("is_mutable", .bool s.isMutable),
    ("constant_value", nullableText s.constant),
    ("is_deprecated", .bool s.isDeprecated)]

/-- A signature as an object with its kind. -/
def Signature.toJson : Signature → Json
  | .function s => .object (("kind", .string "function") :: s.toFields)
  | .property s => .object (("kind", .string "property") :: s.toFields)

/-- A variant as an object. -/
def Variant.toJson (variant : Variant) : Json :=
  .object
    [("signature", variant.signature.toJson),
      ("source_sets", .array (variant.sourceSets.map SourceSet.toJson))]

/-- All variants of a declaration as an object. -/
def Variants.toJson (variants : Variants) : Json :=
  .object
    [("primary", .number (some variants.primaryIndex.val)),
      ("groups", .array (variants.all.map Variant.toJson))]

/-- A rendered declaration as an object. -/
def RenderedDeclaration.toJson (rendered : RenderedDeclaration) : Json :=
  .object
    [("name", .string rendered.name), ("dri", rendered.identity.toJson),
      ("signatures", rendered.variants.toJson)]

end Diglot
