import Diglot.Format.Annotation

/-!
# The format of type uses

A type use is an object whose field `kind` tells its shape. The field may stand anywhere
in the object, so the object is held back until it is found. Which other fields mean
something depends on the shape.
-/

namespace Diglot

namespace TypeShape

/-- Name of the shape in the format. -/
def tag : TypeShape → String
  | classRef => "type_constructor"
  | parameter => "type_parameter"
  | primitive => "primitive"
  | javaObject => "java_object"
  | void => "void"
  | star => "star"
  | dynamic => "dynamic"
  | unresolved => "unresolved_bound"
  | nullable => "nullable"
  | nonNull => "definitely_non_null"
  | projected => "variance"
  | aliased => "type_aliased"

/-- The shapes with their names. -/
def names : List (String × TypeShape) := all.map fun s => (s.tag, s)

/-- The fields that mean something, besides the one that tells the shape. -/
def fields : TypeShape → List String
  | classRef => ["dri", "projections", "presentable_name", "annotations", "constructor"]
  | parameter => ["dri", "name", "presentable_name", "annotations"]
  | primitive => ["name"]
  | javaObject => ["annotations"]
  | void => []
  | star => []
  | dynamic => []
  | unresolved => ["name"]
  | nullable => ["inner"]
  | nonNull => ["inner"]
  | projected => ["variance", "inner"]
  | aliased => ["alias", "inner"]

end TypeShape

/-- The variances with their names. -/
def Variance.names : List (String × Variance) := all.map fun v => (v.label, v)

/-! ## Encoding -/

/-- The form of a class reference: a name, or an object with the facts about a function
type. -/
def ClassForm.toJson : ClassForm → Json
  | generic => .string "generic"
  | functional isExtension isSuspend =>
    .object
      [("functional",
        .object [("is_extension", .bool isExtension), ("is_suspendable", .bool isSuspend)])]

/-- The fields of a class reference. -/
def ClassHead.toFields (head : ClassHead) (arguments : List Json) : List (String × Json) :=
  ("dri", head.identity.toJson) :: ("projections", .array arguments) ::
    optionalField "presentable_name" head.shownName ++
    [("annotations", head.annotations.toJson), ("constructor", head.form.toJson)]

/-- The fields of a reference to a type parameter. -/
def ParameterHead.toFields (head : ParameterHead) : List (String × Json) :=
  ("dri", head.owner.toJson) :: ("name", .string head.name) ::
    optionalField "presentable_name" head.shownName ++
    [("annotations", head.annotations.toJson)]

/-- An object of the given shape. -/
def TypeShape.object (shape : TypeShape) (fields : List (String × Json)) : Json :=
  .object ((Json.tagField, .string shape.tag) :: fields)

mutual

/-- A type use as an object. -/
def TypeUse.toJson : TypeUse → Json
  | .classRef head arguments =>
    TypeShape.classRef.object (head.toFields (TypeUse.listToJson arguments))
  | .parameter head => TypeShape.parameter.object head.toFields
  | .primitive name => TypeShape.primitive.object [("name", .string name)]
  | .javaObject annotations => TypeShape.javaObject.object [("annotations", annotations.toJson)]
  | .void => TypeShape.void.object []
  | .star => TypeShape.star.object []
  | .dynamic => TypeShape.dynamic.object []
  | .unresolved name => TypeShape.unresolved.object [("name", .string name)]
  | .nullable inner => TypeShape.nullable.object [("inner", inner.toJson)]
  | .nonNull inner => TypeShape.nonNull.object [("inner", inner.toJson)]
  | .projected variance inner =>
    TypeShape.projected.object [("variance", .string variance.label), ("inner", inner.toJson)]
  | .aliased named inner =>
    TypeShape.aliased.object [("alias", named.toJson), ("inner", inner.toJson)]

/-- A list of type uses. -/
def TypeUse.listToJson : List TypeUse → List Json
  | [] => []
  | first :: rest => first.toJson :: TypeUse.listToJson rest

end

/-! ## Decoding -/

/-- The facts about a function type as far as they are decoded. -/
structure FunctionalParts where
  isExtension : Option Bool := none
  isSuspend : Option Bool := none

/-- Decode one fact about a function type. -/
def FunctionalParts.addField (parts : FunctionalParts) (name : String) (value : Json) :
    Decoded FunctionalParts :=
  match name with
  | "is_extension" => do
    pure { parts with isExtension := ← once name parts.isExtension value.asBool }
  | "is_suspendable" => do
    pure { parts with isSuspend := ← once name parts.isSuspend value.asBool }
  | _ => do
    value.skip
    pure parts

/-- The forms of class references by name; of function types the facts are still to come. -/
def ClassForm.names : List (String × Bool) := [("generic", false), ("functional", true)]

/-- The form of a class reference from its name and content. -/
def ClassForm.ofContent (held isFunctional : Bool) (content : Json) : Decoded ClassForm :=
  if isFunctional then do
    let parts ← content.foldFields FunctionalParts.addField {}
    pure (.functional (parts.isExtension.getD false) (parts.isSuspend.getD false))
  else if content.isEmptyContent held then pure .generic
  else throw .malformed

/-- The form of a class reference. -/
def ClassForm.ofJson (held : Bool) : Json → Decoded ClassForm
  | .string name => do
    if ← Json.variant names name then throw .malformed else pure .generic
  | .object ((_, .unnamed _) :: _) => throw .malformed
  | .object ((name, content) :: others) => do
    if held && !others.isEmpty then throw .malformed
    let isFunctional ← Json.variant names name
    let form ← ofContent held isFunctional content
    if others.isEmpty then pure form else throw .malformed
  | _ => throw .malformed

/-- The fields of a type use as far as they are decoded. -/
structure TypeParts where
  identity : Option Identity := none
  arguments : Option (List TypeUse) := none
  name : Option String := none
  shownName : Option (Option String) := none
  annotations : Option SourcedAnnotations := none
  form : Option ClassForm := none
  variance : Option Variance := none
  named : Option TypeUse := none
  inner : Option TypeUse := none

namespace TypeParts

/-- A class reference of its fields: what comes before the type arguments, and these. -/
def buildClass (parts : TypeParts) : Decoded (ClassHead × List TypeUse) := do
  let identity ← required "dri" parts.identity
  pure
    ({ identity
       shownName := parts.shownName.getD none
       annotations := parts.annotations.getD ∅
       form := parts.form.getD .generic },
      parts.arguments.getD [])

/-- A type use of its fields. -/
def build (parts : TypeParts) : TypeShape → Decoded TypeUse
  | .classRef => do
    let (head, arguments) ← parts.buildClass
    pure (.classRef head arguments)
  | .parameter => do
    let owner ← required "dri" parts.identity
    let name ← required "name" parts.name
    pure
      (.parameter
        { owner, name
          shownName := parts.shownName.getD none
          annotations := parts.annotations.getD ∅ })
  | .primitive => do
    let name ← required "name" parts.name
    pure (.primitive name)
  | .javaObject => pure (.javaObject (parts.annotations.getD ∅))
  | .void => pure .void
  | .star => pure .star
  | .dynamic => pure .dynamic
  | .unresolved => do
    let name ← required "name" parts.name
    pure (.unresolved name)
  | .nullable => do
    let inner ← required "inner" parts.inner
    pure (.nullable inner)
  | .nonNull => do
    let inner ← required "inner" parts.inner
    pure (.nonNull inner)
  | .projected => do
    let variance ← required "variance" parts.variance
    let inner ← required "inner" parts.inner
    pure (.projected variance inner)
  | .aliased => do
    let named ← required "alias" parts.named
    let inner ← required "inner" parts.inner
    pure (.aliased named inner)

end TypeParts

mutual

/-- A type use from an object. -/
def TypeUse.ofJson (held : Bool) : Json → Decoded TypeUse
  | .object fields => do
    let shape ← Json.findTag held TypeShape.names none fields
    let parts ← TypeUse.partsOfFields true shape {} fields
    parts.build shape
  | _ => throw .malformed

/-- The parts of a type use from the fields of an object. -/
def TypeUse.partsOfFields (held : Bool) (shape : TypeShape) (parts : TypeParts) :
    List (String × Json) → Decoded TypeParts
  | [] => pure parts
  | (field, value) :: rest =>
    if shape.fields.contains field then
      match field with
      | "dri" => do
        let identity ← once field parts.identity (Identity.ofJson value)
        TypeUse.partsOfFields held shape { parts with identity } rest
      | "projections" => do
        let arguments ← once field parts.arguments (TypeUse.listOfJson held value)
        TypeUse.partsOfFields held shape { parts with arguments } rest
      | "name" => do
        let name ← once field parts.name value.asString
        TypeUse.partsOfFields held shape { parts with name } rest
      | "presentable_name" => do
        let shownName ← once field parts.shownName (value.asOption Json.asString)
        TypeUse.partsOfFields held shape { parts with shownName } rest
      | "annotations" => do
        let annotations ← once field parts.annotations (SourcedAnnotations.ofJson held value)
        TypeUse.partsOfFields held shape { parts with annotations } rest
      | "constructor" => do
        let form ← once field parts.form (ClassForm.ofJson held value)
        TypeUse.partsOfFields held shape { parts with form } rest
      | "variance" => do
        let variance ← once field parts.variance (value.asName held Variance.names)
        TypeUse.partsOfFields held shape { parts with variance } rest
      | "alias" => do
        let named ← once field parts.named (TypeUse.ofJson held value)
        TypeUse.partsOfFields held shape { parts with named } rest
      | _ => do
        let inner ← once field parts.inner (TypeUse.ofJson held value)
        TypeUse.partsOfFields held shape { parts with inner } rest
    else do
      value.skip
      TypeUse.partsOfFields held shape parts rest

/-- Type uses from an array. -/
def TypeUse.listOfJson (held : Bool) : Json → Decoded (List TypeUse)
  | .array elements => TypeUse.ofElements held elements
  | _ => throw .malformed

/-- Type uses from the elements of an array. -/
def TypeUse.ofElements (held : Bool) : List Json → Decoded (List TypeUse)
  | [] => pure []
  | first :: rest => do
    let type ← TypeUse.ofJson held first
    let types ← TypeUse.ofElements held rest
    pure (type :: types)

end

/-- A class reference alone, which needs no field that tells its shape. -/
def TypeUse.classOfJson : Json → Decoded (ClassHead × List TypeUse)
  | .object fields => do
    let parts ← TypeUse.partsOfFields false .classRef {} fields
    parts.buildClass
  | _ => throw .malformed

end Diglot
