import Diglot.Config
import Diglot.Format.Basic

/-!
# The format of the configuration

The configuration is an object in which every field may be missing.
-/

namespace Diglot.Config

/-- A configuration as an object. -/
def toJson (config : Config) : Json :=
  .object
    [("displayLanguage", config.dialect.toJson),
      ("docRootPath", .string config.rootPath),
      ("annotationsNotToDisplay", .ofStrings config.excluded),
      ("annotationsNotToDisplayJava", .ofStrings config.excludedInJava),
      ("annotationsNotToDisplayKotlin", .ofStrings config.excludedInKotlin),
      ("hiddenAnnotations", .ofStrings config.hidden),
      ("validNullabilityAnnotations", .ofStrings config.validNullability),
      ("qualifiedArrayNames", .bool config.qualifiedArrays)]

/-- The fields of a configuration as far as they are decoded. -/
structure Parts where
  dialect : Option Dialect := none
  rootPath : Option String := none
  excluded : Option (List String) := none
  excludedInJava : Option (List String) := none
  excludedInKotlin : Option (List String) := none
  hidden : Option (List String) := none
  validNullability : Option (List String) := none
  qualifiedArrays : Option Bool := none

/-- Decode one field. -/
def addField (parts : Parts) (field : String) (value : Json) : Decoded Parts :=
  match field with
  | "displayLanguage" => do
    pure { parts with dialect := ← once field parts.dialect (Dialect.ofJson value) }
  | "docRootPath" => do
    pure { parts with rootPath := ← once field parts.rootPath value.asString }
  | "annotationsNotToDisplay" => do
    pure { parts with
      excluded := ← once field parts.excluded (value.asList Json.asString) }
  | "annotationsNotToDisplayJava" => do
    pure { parts with
      excludedInJava := ← once field parts.excludedInJava (value.asList Json.asString) }
  | "annotationsNotToDisplayKotlin" => do
    pure { parts with
      excludedInKotlin := ← once field parts.excludedInKotlin (value.asList Json.asString) }
  | "hiddenAnnotations" => do
    pure { parts with hidden := ← once field parts.hidden (value.asList Json.asString) }
  | "validNullabilityAnnotations" => do
    pure { parts with
      validNullability := ← once field parts.validNullability (value.asList Json.asString) }
  | "qualifiedArrayNames" => do
    pure { parts with qualifiedArrays := ← once field parts.qualifiedArrays value.asBool }
  | _ => do
    value.skip
    pure parts

/-- A configuration from an object. -/
def ofJson (document : Json) : Decoded Config := do
  let parts ← document.foldFields addField {}
  pure
    { dialect := parts.dialect.getD .kotlin
      rootPath := parts.rootPath.getD "reference"
      excluded := parts.excluded.getD []
      excludedInJava := parts.excludedInJava.getD []
      excludedInKotlin := parts.excludedInKotlin.getD []
      hidden := parts.hidden.getD []
      validNullability := parts.validNullability.getD acceptedNullability
      qualifiedArrays := parts.qualifiedArrays.getD false }

/-- A configuration from a text. -/
def ofText (text : String) : Decoded Config :=
  Json.decodeText ofJson text

end Diglot.Config
