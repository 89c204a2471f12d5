/-!
# JSON documents

A `Json` is a document with its objects in the order of the text. Reading never fails as
a whole: where a text stops being JSON the document ends in `truncated`, and what is
well formed but stands for no value is `unreadable`. So whoever works through a document
from front to back meets the first fault of the text where it stands.

The documents of this library hold no numbers that matter; of a number only a natural
one is kept.
-/

namespace Diglot

/-- A document, or as much of one as a text holds. -/
inductive Json where
  | null
  | bool (value : Bool)
  /-- a number, with its value if it is written as a natural number of 64 bits -/
  | number (value : Option Nat)
  | string (text : String)
  | array (elements : List Json)
  | object (fields : List (String × Json))
  /-- the text is not JSON from here on -/
  | truncated
  /-- well formed, but no value -/
  | unreadable
  /-- the value of a field that has no readable name -/
  | unnamed (value : Json)

namespace Json

mutual

/-- Whether the text of the document is JSON to its end. -/
def isIntact : Json → Bool
  | array elements => areIntact elements
  | object fields => fieldsAreIntact fields
  | truncated => false
  | unnamed value => value.isIntact
  | null | bool _ | number _ | string _ | unreadable => true

/-- Whether all elements are intact. -/
def areIntact : List Json → Bool
  | [] => true
  | first :: rest => first.isIntact && areIntact rest

/-- Whether all fields are intact. -/
def fieldsAreIntact : List (String × Json) → Bool
  | [] => true
  | (_, value) :: rest => value.isIntact && fieldsAreIntact rest

end

mutual

/-- Whether everything in the document has a value. -/
def isReadable : Json → Bool
  | array elements => areReadable elements
  | object fields => fieldsAreReadable fields
  | truncated | unreadable | unnamed _ => false
  | null | bool _ | number _ | string _ => true

/-- Whether all elements are readable. -/
def areReadable : List Json → Bool
  | [] => true
  | first :: rest => first.isReadable && areReadable rest

/-- Whether all fields are readable. -/
def fieldsAreReadable : List (String × Json) → Bool
  | [] => true
  | (_, value) :: rest => value.isReadable && fieldsAreReadable rest

end

/-- What remains of an array or object that is nested too deep. -/
def tooDeep (document : Json) : Json :=
  if document.isIntact then unreadable else truncated

mutual

/-- The document with everything that is nested deeper than `depth` arrays and objects
made unreadable. -/
def within : Nat → Json → Json
  | 0, array elements => (array elements).tooDeep
  | depth + 1, array elements => array (elementsWithin depth elements)
  | 0, object fields => (object fields).tooDeep
  | depth + 1, object fields => object (fieldsWithin depth fields)
  | depth, unnamed value => unnamed (value.within depth)
  | _, null => null
  | _, bool value => bool value
  | _, number value => number value
  | _, string text => string text
  | _, truncated => truncated
  | _, unreadable => unreadable

/-- `within` on every element. -/
def elementsWithin (depth : Nat) : List Json → List Json
  | [] => []
  | first :: rest => first.within depth :: elementsWithin depth rest

/-- `within` on every field. -/
def fieldsWithin (depth : Nat) : List (String × Json) → List (String × Json)
  | [] => []
  | (name, value) :: rest => (name, value.within depth) :: fieldsWithin depth rest

end

/-- How deep arrays and objects may be nested. -/
def maxDepth : Nat := 127

/-- The field of a name, if the document is an object with one. -/
def field? (document : Json) (name : String) : Option Json :=
  match document with
  | object fields => (fields.find? fun field => field.1 = name).map Prod.snd
  | _ => none

end Json

end Diglot
