import Diglot.BySourceSet
import Diglot.Json.Reader

/-!
# Decoding documents

A value is decoded from a document from front to back, and the first fault ends the
decoding. There are two ways to meet an object. Usually its fields are taken one by one,
and fields with unknown names are passed over as long as they are well formed. But an
object that must be searched for the field that tells its kind is held back first, which
requires that everything in it is readable; what is inside such an object is decoded with
`held := true`. Held documents allow two more ways to name a variant.
-/

namespace Diglot

/-- Why a document does not stand for a value. -/
inductive DecodeError where
  /-- a field that must be there is missing -/
  | missingField (name : String)
  /-- a name that must be one of several is none of them -/
  | unknownVariant (name : String)
  /-- a field is there twice -/
  | duplicateField (name : String)
  /-- anything else: a wrong kind of value, or no JSON -/
  | malformed
deriving DecidableEq

/-- The text of an error, of which the place in the document is not part. -/
def DecodeError.message? : DecodeError → Option String
  | missingField name => some ("missing field `" ++ name ++ "`")
  | unknownVariant name => some ("unknown variant `" ++ name ++ "`")
  | duplicateField name => some ("duplicate field `" ++ name ++ "`")
  | malformed => none

/-- The outcome of decoding. -/
abbrev Decoded (α : Type) := Except DecodeError α

/-- The value of a field that must be there. -/
def required {α : Type} (name : String) : Option α → Decoded α
  | some value => pure value
  | none => throw (.missingField name)

/-- Fill the slot of a field that may be there once. -/
def once {α : Type} (name : String) (slot : Option α) (value : Decoded α) :
    Decoded (Option α) :=
  match slot with
  | some _ => throw (.duplicateField name)
  | none => some <$> value

namespace Json

variable {α : Type}

/-- Pass over a field whose name means nothing. -/
def skip : Json → Decoded Unit
  | unnamed _ => throw .malformed
  | value => if value.isIntact then pure () else throw .malformed

/-- Hold a document back. -/
def hold (document : Json) : Decoded Unit :=
  if document.isReadable then pure () else throw .malformed

/-- A text. -/
def asString : Json → Decoded String
  | string text => pure text
  | _ => throw .malformed

/-- A truth value. -/
def asBool : Json → Decoded Bool
  | bool value => pure value
  | _ => throw .malformed

/-- Null, or a value. -/
def asOption (decode : Json → Decoded α) : Json → Decoded (Option α)
  | null => pure none
  | value => some <$> decode value

/-- A list of values. -/
def asList (decode : Json → Decoded α) : Json → Decoded (List α)
  | array elements => elements.mapM' decode
  | _ => throw .malformed

/-- Values by source set. A name that comes again replaces its value. -/
def asMap (decode : Json → Decoded α) : Json → Decoded (BySourceSet α)
  | object fields =>
    fields.foldlM (fun map field => do
      let value ← decode field.2
      pure (map.insert field.1 value)) ∅
  | _ => throw .malformed

/-- Work through the fields of an object, in order. -/
def foldFields {σ : Type} (step : σ → String → Json → Decoded σ) (start : σ) :
    Json → Decoded σ
  | object fields => fields.foldlM (fun state field => step state field.1 field.2) start
  | _ => throw .malformed

/-- The variant of a name. -/
def variant (names : List (String × α)) (name : String) : Decoded α :=
  match names.lookup name with
  | some value => pure value
  | none => throw (.unknownVariant name)

/-- Whether a document stands for the absence of content. -/
def isEmptyContent (held : Bool) : Json → Bool
  | null => true
  | object [] => held
  | _ => false

/-- One of several names, alone or as the only field of an object without content. -/
def asName (held : Bool) (names : List (String × α)) : Json → Decoded α
  | string name => variant names name
  | object ((_, unnamed _) :: _) => throw .malformed
  | object [(name, content)] => do
    let value ← variant names name
    if isEmptyContent held content then pure value else throw .malformed
  | object ((name, _) :: _) =>
    if held then throw .malformed
    else do
      let _ ← variant names name
      throw .malformed
  | _ => throw .malformed

/-- One of several names that tells the kind of an object; in a held document it may be
given by its position. -/
def asTag (held : Bool) (names : List (String × α)) : Json → Decoded α
  | string name => variant names name
  | number (some index) =>
    match held, names[index]? with
    | true, some (_, value) => pure value
    | _, _ => throw .malformed
  | _ => throw .malformed

/-- The name of the field that tells the kind of an object. -/
def tagField : String := "kind"

/-- Find the tag among fields that are held back. Inside of a held document they are
readable already. -/
def findTag (held : Bool) (names : List (String × α)) :
    Option α → List (String × Json) → Decoded α
  | found, [] => required tagField found
  | found, (name, value) :: rest =>
    if name = tagField then do
      let found ← once tagField found (value.asTag held names)
      findTag held names found rest
    else do
      if !held then value.hold
      findTag held names found rest

/-- Decode a whole text. What follows the document is looked at last. -/
def decodeText (decode : Json → Decoded α) (text : String) : Decoded α := do
  let (document, isWhole) := read text
  let value ← decode (document.within maxDepth)
  if isWhole then pure value else throw .malformed

end Json

end Diglot
