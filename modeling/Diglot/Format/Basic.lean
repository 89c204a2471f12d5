import Diglot.Identity
import Diglot.Json.Decode
import Diglot.Modifier.Basic
import Diglot.SourceSet

/-!
# The format of names and small values

How identities, source sets, modifiers and values by source set stand in a document.
Each has an encoding `toJson` and a decoding `ofJson`. Optional fields are left out if
there is no value; all others are always written.
-/

namespace Diglot

/-- A field that is left out if there is no value. -/
def optionalField (name : String) : Option String → List (String × Json)
  | some value => [(name, .string value)]
  | none => []

/-- A list of texts. -/
def Json.ofStrings (texts : List String) : Json :=
  .array (texts.map .string)

namespace Dialect

/-- The dialects with their names. -/
def names : List (String × Dialect) := all.map fun d => (d.label, d)

/-- A dialect as its name. -/
def toJson (dialect : Dialect) : Json := .string dialect.label

/-- A dialect from its name. -/
def ofJson (document : Json) : Decoded Dialect := document.asName false names

end Dialect

namespace Identity

/-- An identity as an object. -/
def toJson (identity : Identity) : Json :=
  .object (("package", .string identity.package) ::
    optionalField "class_names" identity.classNames ++
    optionalField "callable" identity.callable)

/-- The fields of an identity as far as they are decoded. -/
structure Parts where
  package : Option String := none
  classNames : Option (Option String) := none
  callable : Option (Option String) := none

/-- Decode one field. -/
def addField (parts : Parts) (name : String) (value : Json) : Decoded Parts :=
  match name with
  | "package" => do
    pure { parts with package := ← once name parts.package value.asString }
  | "class_names" => do
    pure { parts with
      classNames := ← once name parts.classNames (value.asOption Json.asString) }
  | "callable" => do
    pure { parts with callable := ← once name parts.callable (value.asOption Json.asString) }
  | _ => do
    value.skip
    pure parts

/-- An identity from an object. -/
def ofJson (document : Json) : Decoded Identity := do
  let parts ← document.foldFields addField {}
  let package ← required "package" parts.package
  pure ⟨package, parts.classNames.getD none, parts.callable.getD none⟩

end Identity

namespace Platform

/-- The platforms with their names. -/
def names : List (String × Platform) := all.map fun p => (p.label, p)

end Platform

namespace SourceSet

/-- A source set as an object. -/
def toJson (sourceSet : SourceSet) : Json :=
  .object [("platform", .string sourceSet.platform.label), ("name", .string sourceSet.name)]

/-- The fields of a source set as far as they are decoded. -/
structure Parts where
  platform : Option Platform := none
  name : Option String := none

/-- Decode one field. -/
def addField (parts : Parts) (name : String) (value : Json) : Decoded Parts :=
  match name with
  | "platform" => do
    pure { parts with platform := ← once name parts.platform (value.asName false Platform.names) }
  | "name" => do
    pure { parts with name := ← once name parts.name value.asString }
  | _ => do
    value.skip
    pure parts

/-- A source set from an object. -/
def ofJson (document : Json) : Decoded SourceSet := do
  let parts ← document.foldFields addField {}
  let name ← required "name" parts.name
  pure ⟨parts.platform.getD .jvm, name⟩

end SourceSet

namespace Modifier

/-- The modifiers with their keywords. -/
def names : List (String × Modifier) := all.map fun m => (m.keyword, m)

/-- Modifiers as their keywords. -/
def listToJson (modifiers : List Modifier) : Json :=
  Json.ofStrings (modifiers.map keyword)

/-- Modifiers from their keywords. -/
def listOfJson (held : Bool) (document : Json) : Decoded (List Modifier) :=
  document.asList (Json.asName held names)

end Modifier

namespace ContainerKind

/-- The kinds of containers with their names. -/
def names : List (String × ContainerKind) := all.map fun k => (k.label, k)

end ContainerKind

/-- Values by source set as an object, in their order. -/
def BySourceSet.toJson {α : Type} (encode : α → Json) (map : BySourceSet α) : Json :=
  .object (map.entries.map fun entry => (entry.1, encode entry.2))

end Diglot
