import Diglot.Declaration
import Diglot.Format.TypeUse

/-!
# The format of declarations and modules

A declaration is one object with the fields that all declarations have, a field `kind`,
and the fields of functions or of properties. Whatever is not a field of all
declarations is held back, and looked at when the object is complete.
-/

namespace Diglot

/-! ## Parameters -/

namespace Parameter

/-- A parameter as an object. -/
def toJson (parameter : Parameter) : Json :=
  .object
    (optionalField "name" parameter.name ++
      [("type", parameter.type.toJson),
        ("annotations", parameter.annotations.toJson),
        ("default_value", parameter.default.toJson .string),
        ("modifiers", Modifier.listToJson parameter.modifiers)])

/-- The fields of a parameter as far as they are decoded. -/
structure Parts where
  name : Option (Option String) := none
  type : Option TypeUse := none
  annotations : Option SourcedAnnotations := none
  default : Option (BySourceSet String) := none
  modifiers : Option (List Modifier) := none

/-- Decode one field. -/
def addField (held : Bool) (parts : Parts) (field : String) (value : Json) : Decoded Parts :=
  match field with
  | "name" => do
    pure { parts with name := ← once field parts.name (value.asOption Json.asString) }
  | "type" => do
    pure { parts with type := ← once field parts.type (TypeUse.ofJson held value) }
  | "annotations" => do
    pure { parts with
      annotations := ← once field parts.annotations (SourcedAnnotations.ofJson held value) }
  | "default_value" => do
    pure { parts with default := ← once field parts.default (value.asMap Json.asString) }
  | "modifiers" => do
    pure { parts with
      modifiers := ← once field parts.modifiers (Modifier.listOfJson held value) }
  | _ => do
    value.skip
    pure parts

/-- A parameter from an object. -/
def ofJson (held : Bool) (document : Json) : Decoded Parameter := do
  let parts ← document.foldFields (addField held) {}
  let type ← required "type" parts.type
  pure
    { name := parts.name.getD none
      type
      annotations := parts.annotations.getD ∅
      default := parts.default.getD ∅
      modifiers := parts.modifiers.getD [] }

end Parameter

/-- A field with a receiver, which is left out if there is none. -/
def receiverField : Option Parameter → List (String × Json)
  | some receiver => [("receiver", receiver.toJson)]
  | none => []

namespace TypeParameter

/-- A type parameter as an object. -/
def toJson (parameter : TypeParameter) : Json :=
  .object
    [("name", .string parameter.name),
      ("bounds", .array (TypeUse.listToJson parameter.bounds)),
      ("annotations", parameter.annotations.toJson)]

/-- The fields of a type parameter as far as they are decoded. -/
structure Parts where
  name : Option String := none
  bounds : Option (List TypeUse) := none
  annotations : Option SourcedAnnotations := none

/-- Decode one field. -/
def addField (held : Bool) (parts : Parts) (field : String) (value : Json) : Decoded Parts :=
  match field with
  | "name" => do
    pure { parts with name := ← once field parts.name value.asString }
  | "bounds" => do
    pure { parts with bounds := ← once field parts.bounds (TypeUse.listOfJson held value) }
  | "annotations" => do
    pure { parts with
      annotations := ← once field parts.annotations (SourcedAnnotations.ofJson held value) }
  | _ => do
    value.skip
    pure parts

/-- A type parameter from an object. -/
def ofJson (held : Bool) (document : Json) : Decoded TypeParameter := do
  let parts ← document.foldFields (addField held) {}
  let name ← required "name" parts.name
  pure ⟨name, parts.bounds.getD [], parts.annotations.getD ∅⟩

end TypeParameter

/-! ## Functions and properties -/

namespace FunctionDetail

/-- The fields of a function. -/
def toFields (detail : FunctionDetail) : List (String × Json) :=
  receiverField detail.receiver ++
    [("type_parameters", .array (detail.typeParameters.map TypeParameter.toJson)),
      ("parameters", .array (detail.parameters.map Parameter.toJson)),
      ("return_type", detail.returnType.toJson),
      ("is_constructor", .bool detail.isConstructor)]

/-- The fields of a function as far as they are decoded. -/
structure Parts where
  receiver : Option (Option Parameter) := none
  typeParameters : Option (List TypeParameter) := none
  parameters : Option (List Parameter) := none
  returnType : Option TypeUse := none
  isConstructor : Option Bool := none

/-- Decode one field. -/
def addField (parts : Parts) (field : String) (value : Json) : Decoded Parts :=
  match field with
  | "receiver" => do
    pure { parts with
      receiver := ← once field parts.receiver (value.asOption (Parameter.ofJson true)) }
  | "type_parameters" => do
    pure { parts with
      typeParameters :=
        ← once field parts.typeParameters (value.asList (TypeParameter.ofJson true)) }
  | "parameters" => do
    pure { parts with
      parameters := ← once field parts.parameters (value.asList (Parameter.ofJson true)) }
  | "return_type" => do
    pure { parts with returnType := ← once field parts.returnType (TypeUse.ofJson true value) }
  | "is_constructor" => do
    pure { parts with isConstructor := ← once field parts.isConstructor value.asBool }
  | _ => do
    value.skip
    pure parts

/-- A function from its fields. -/
def ofFields (fields : List (String × Json)) : Decoded FunctionDetail := do
  let parts ← (Json.object fields).foldFields addField {}
  let returnType ← required "return_type" parts.returnType
  pure
    { receiver := parts.receiver.getD none
      typeParameters := parts.typeParameters.getD []
      parameters := parts.parameters.getD []
      returnType
      isConstructor := parts.isConstructor.getD false }

end FunctionDetail

namespace PropertyDetail

/-- The fields of a property. -/
def toFields (detail : PropertyDetail) : List (String × Json) :=
  receiverField detail.receiver ++
    ("type", detail.type.toJson) :: ("is_mutable", .bool detail.isMutable) ::
      optionalField "constant_value" detail.constant ++
      [("has_getter", .bool detail.hasGetter)]

/-- The fields of a property as far as they are decoded. -/
structure Parts where
  receiver : Option (Option Parameter) := none
  type : Option TypeUse := none
  isMutable : Option Bool := none
  constant : Option (Option String) := none
  hasGetter : Option Bool := none

/-- Decode one field. -/
def addField (parts : Parts) (field : String) (value : Json) : Decoded Parts :=
  match field with
  | "receiver" => do
    pure { parts with
      receiver := ← once field parts.receiver (value.asOption (Parameter.ofJson true)) }
  | "type" => do
    pure { parts with type := ← once field parts.type (TypeUse.ofJson true value) }
  | "is_mutable" => do
    pure { parts with isMutable := ← once field parts.isMutable value.asBool }
  | "constant_value" => do
    pure { parts with
      constant := ← once field parts.constant (value.asOption Json.asString) }
  | "has_getter" => do
    pure { parts with hasGetter := ← once field parts.hasGetter value.asBool }
  | _ => do
    value.skip
    pure parts

/-- A property from its fields. -/
def ofFields (fields : List (String × Json)) : Decoded PropertyDetail := do
  let parts ← (Json.object fields).foldFields addField {}
  let type ← required "type" parts.type
  pure
    { receiver := parts.receiver.getD none
      type
      isMutable := parts.isMutable.getD false
      constant := parts.constant.getD none
      hasGetter := parts.hasGetter.getD false }

end PropertyDetail

/-- The kinds of declarations with their names: whether they are properties. -/
def DeclarationDetail.names : List (String × Bool) := [("function", false), ("property", true)]

namespace DeclarationDetail

/-- The fields of a function or a property with its kind. -/
def toFields : DeclarationDetail → List (String × Json)
  | function detail => (Json.tagField, .string "function") :: detail.toFields
  | property detail => (Json.tagField, .string "property") :: detail.toFields

/-- A function or a property from the fields that were held back. -/
def ofFields (fields : List (String × Json)) : Decoded DeclarationDetail := do
  if ← Json.findTag true names none fields then property <$> PropertyDetail.ofFields fields
  else function <$> FunctionDetail.ofFields fields

end DeclarationDetail

/-! ## Declarations -/

namespace Declaration

/-- A declaration as an object. -/
def toJson (declaration : Declaration) : Json :=
  .object
    ([("dri", declaration.identity.toJson),
        ("name", .string declaration.name),
        ("source_sets", .array (declaration.sourceSets.map SourceSet.toJson))] ++
      optionalField "expect_present_in" declaration.expectIn ++
      [("from_java", .bool declaration.fromJava),
        ("container", .string declaration.container.label),
        ("inject_static", .bool declaration.injectStatic),
        ("annotations", declaration.annotations.toJson),
        ("modifiers", declaration.modifiers.toJson Modifier.listToJson)] ++
      optionalField "location" declaration.location ++
      declaration.detail.toFields)

/-- The fields of a declaration as far as they are decoded; `others` are held back. -/
structure Parts where
  identity : Option Identity := none
  name : Option String := none
  sourceSets : Option (List SourceSet) := none
  expectIn : Option (Option String) := none
  fromJava : Option Bool := none
  container : Option ContainerKind := none
  injectStatic : Option Bool := none
  annotations : Option SourcedAnnotations := none
  modifiers : Option (BySourceSet (List Modifier)) := none
  location : Option (Option String) := none
  /-- in reverse order -/
  others : List (String × Json) := []

/-- Decode one field. -/
def addField (parts : Parts) (field : String) (value : Json) : Decoded Parts :=
  match field with
  | "dri" => do
    pure { parts with identity := ← once field parts.identity (Identity.ofJson value) }
  | "name" => do
    pure { parts with name := ← once field parts.name value.asString }
  | "source_sets" => do
    pure { parts with
      sourceSets := ← once field parts.sourceSets (value.asList SourceSet.ofJson) }
  | "expect_present_in" => do
    pure { parts with
      expectIn := ← once field parts.expectIn (value.asOption Json.asString) }
  | "from_java" => do
    pure { parts with fromJava := ← once field parts.fromJava value.asBool }
  | "container" => do
    pure { parts with
      container := ← once field parts.container (value.asName false ContainerKind.names) }
  | "inject_static" => do
    pure { parts with injectStatic := ← once field parts.injectStatic value.asBool }
  | "annotations" => do
    pure { parts with
      annotations := ← once field parts.annotations (SourcedAnnotations.ofJson false value) }
  | "modifiers" => do
    pure { parts with
      modifiers := ← once field parts.modifiers (value.asMap (Modifier.listOfJson false)) }
  | "location" => do
    pure { parts with
      location := ← once field parts.location (value.asOption Json.asString) }
  | _ => do
    value.hold
    pure { parts with others := (field, value) :: parts.others }

/-- A declaration from an object. -/
def ofJson (document : Json) : Decoded Declaration := do
  let parts ← document.foldFields addField {}
  let identity ← required "dri" parts.identity
  let name ← required "name" parts.name
  let sourceSets ← required "source_sets" parts.sourceSets
  let detail ← DeclarationDetail.ofFields parts.others.reverse
  pure
    { identity, name, sourceSets
      expectIn := parts.expectIn.getD none
      fromJava := parts.fromJava.getD false
      container := parts.container.getD .classType
      injectStatic := parts.injectStatic.getD false
      annotations := parts.annotations.getD ∅
      modifiers := parts.modifiers.getD ∅
      location := parts.location.getD none
      detail }

end Declaration

/-! ## Modules -/

namespace Module

/-- A module as an object. -/
def toJson (module : Module) : Json :=
  .object
    [("name", .string module.name),
      ("declarations", .array (module.declarations.map Declaration.toJson))]

/-- The fields of a module as far as they are decoded. -/
structure Parts where
  name : Option String := none
  declarations : Option (List Declaration) := none

/-- Decode one field. -/
def addField (parts : Parts) (field : String) (value : Json) : Decoded Parts :=
  match field with
  | "name" => do
    pure { parts with name := ← once field parts.name value.asString }
  | "declarations" => do
    pure { parts with
      declarations := ← once field parts.declarations (value.asList Declaration.ofJson) }
  | _ => do
    value.skip
    pure parts

/-- A module from an object. -/
def ofJson (document : Json) : Decoded Module := do
  let parts ← document.foldFields addField {}
  let name ← required "name" parts.name
  pure ⟨name, parts.declarations.getD []⟩

/-- A module from a text. -/
def ofText (text : String) : Decoded Module :=
  Json.decodeText ofJson text

end Module

end Diglot
