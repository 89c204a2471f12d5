import Diglot.Json.Number

/-!
# Reading JSON

`Json.read` turns a text into a document. It follows the grammar of JSON strictly: no
trailing commas, no leading zeros, no control characters in strings. Every step of the
recursion consumes at least one character, so the length of the text bounds its depth.
-/

namespace Diglot.Json

/-- Whether a character may stand between the parts of a document. -/
def isBlank (c : Char) : Bool :=
  c = ' ' || c = '\n' || c = '\t' || c = '\r'

/-- The characters from the first one on that is not blank. -/
def skipBlank (cs : List Char) : List Char :=
  cs.dropWhile isBlank

/-! ## Strings -/

/-- The value of a hexadecimal digit. -/
def hexDigit? (c : Char) : Option Nat :=
  if c.isDigit then some (c.toNat - '0'.toNat)
  else if 'a' ≤ c && c ≤ 'f' then some (c.toNat - 'a'.toNat + 10)
  else if 'A' ≤ c && c ≤ 'F' then some (c.toNat - 'A'.toNat + 10)
  else none

/-- The value of four hexadecimal digits. -/
def hexQuad? (a b c d : Char) : Option Nat := do
  let a ← hexDigit? a
  let b ← hexDigit? b
  let c ← hexDigit? c
  let d ← hexDigit? d
  pure (((a * 16 + b) * 16 + c) * 16 + d)

/-- The character that a letter stands for after a backslash. -/
def escaped? : Char → Option Char
  | '"' => some '"'
  | '\\' => some '\\'
  | '/' => some '/'
  | 'b' => some '\x08'
  | 'f' => some '\x0c'
  | 'n' => some '\n'
  | 'r' => some '\r'
  | 't' => some '\t'
  | _ => none

/-- The codes of a string up to its closing quote, after those in `done`, which are in
reverse, with the text behind the quote. An escape with four digits gives the code as
it is written. -/
def scanString (done : List Nat) : List Char → Option (List Nat × List Char)
  | [] => none
  | '"' :: rest => some (done.reverse, rest)
  | '\\' :: 'u' :: a :: b :: c :: d :: rest =>
    match hexQuad? a b c d with
    | some code => scanString (code :: done) rest
    | none => none
  | '\\' :: c :: rest =>
    match escaped? c with
    | some plain => scanString (plain.toNat :: done) rest
    | none => none
  | c :: rest => if c.toNat < 0x20 || c = '\\' then none else scanString (c.toNat :: done) rest

/-- The text with the given codes. Two halves of a pair make one character; a half alone
stands for nothing. -/
def joinCodes : List Nat → Option (List Char)
  | [] => some []
  | [code] => if 0xd800 ≤ code && code < 0xe000 then none else some [Char.ofNat code]
  | code :: next :: rest =>
    if 0xd800 ≤ code && code < 0xdc00 && 0xdc00 ≤ next && next < 0xe000 then
      (joinCodes rest).map
        (Char.ofNat (0x10000 + (code - 0xd800) * 0x400 + (next - 0xdc00)) :: ·)
    else if 0xd800 ≤ code && code < 0xe000 then none
    else (joinCodes (next :: rest)).map (Char.ofNat code :: ·)

/-! ## Documents -/

/-- A field with the given name, if the name is readable. -/
def namedField (codes : List Nat) (value : Json) : String × Json :=
  match joinCodes codes with
  | some name => (String.ofList name, value)
  | none => ("", unnamed value)

mutual

/-- The document at the front of a text, and what follows it. There is nothing to follow
a document that is truncated. -/
def readValue : Nat → List Char → Json × Option (List Char)
  | 0, _ => (truncated, none)
  | fuel + 1, cs =>
    match skipBlank cs with
    | '\x7b' :: rest =>
      match skipBlank rest with
      | '\x7d' :: rest => (object [], some rest)
      | rest =>
        let (fields, rest) := readFields fuel rest
        (object fields, rest)
    | '[' :: rest =>
      match skipBlank rest with
      | ']' :: rest => (array [], some rest)
      | rest =>
        let (elements, rest) := readElements fuel rest
        (array elements, rest)
    | '"' :: rest =>
      match scanString [] rest with
      | none => (truncated, none)
      | some (codes, rest) =>
        match joinCodes codes with
        | some text => (string (String.ofList text), some rest)
        | none => (unreadable, some rest)
    | 't' :: 'r' :: 'u' :: 'e' :: rest => (bool true, some rest)
    | 'f' :: 'a' :: 'l' :: 's' :: 'e' :: rest => (bool false, some rest)
    | 'n' :: 'u' :: 'l' :: 'l' :: rest => (null, some rest)
    | rest =>
      match scanNumber rest with
      | some (decimal, rest) => (decimal.toJson, some rest)
      | none => (truncated, none)

/-- The elements of an array, of which there is at least one, up to its end. -/
def readElements : Nat → List Char → List Json × Option (List Char)
  | 0, _ => ([truncated], none)
  | fuel + 1, cs =>
    match readValue fuel cs with
    | (value, none) => ([value], none)
    | (value, some rest) =>
      match skipBlank rest with
      | ',' :: rest =>
        let (values, rest) := readElements fuel rest
        (value :: values, rest)
      | ']' :: rest => ([value], some rest)
      | _ => ([value, truncated], none)

/-- The fields of an object, of which there is at least one, up to its end. -/
def readFields : Nat → List Char → List (String × Json) × Option (List Char)
  | 0, _ => ([("", unnamed truncated)], none)
  | fuel + 1, cs =>
    match skipBlank cs with
    | '"' :: rest =>
      match scanString [] rest with
      | none => ([("", unnamed truncated)], none)
      | some (codes, rest) =>
        match skipBlank rest with
        | ':' :: rest =>
          match readValue fuel rest with
          | (value, none) => ([namedField codes value], none)
          | (value, some rest) =>
            match skipBlank rest with
            | ',' :: rest =>
              let (fields, rest) := readFields fuel rest
              (namedField codes value :: fields, rest)
            | '\x7d' :: rest => ([namedField codes value], some rest)
            | _ => ([namedField codes value, ("", unnamed truncated)], none)
        | _ => ([namedField codes truncated], none)
    | _ => ([("", unnamed truncated)], none)

end

/-- The document at the front of a text, and whether nothing but blanks follows it. -/
def read (text : String) : Json × Bool :=
  let cs := text.toList
  match readValue (cs.length + 1) cs with
  | (document, some rest) => (document, (skipBlank rest).isEmpty)
  | (document, none) => (document, false)

end Diglot.Json
