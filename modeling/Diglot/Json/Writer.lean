import Diglot.Json.Basic
import Diglot.Text

/-!
# Writing JSON

`Json.compact` writes a document without blanks, `Json.pretty` with every element and
field on a line of its own. In strings only quotes, backslashes and control characters
are escaped.
-/

namespace Diglot.Json

/-- The digits of numbers in base sixteen. -/
def hexDigit (value : Nat) : Char :=
  if value < 10 then Char.ofNat ('0'.toNat + value) else Char.ofNat ('a'.toNat + (value - 10))

/-- A character as it stands in a string. -/
def escape (c : Char) : List Char :=
  match c with
  | '"' => ['\\', '"']
  | '\\' => ['\\', '\\']
  | '\n' => ['\\', 'n']
  | '\r' => ['\\', 'r']
  | '\t' => ['\\', 't']
  | c =>
    if c.toNat = 0x08 then ['\\', 'b']
    else if c.toNat = 0x0c then ['\\', 'f']
    else if c.toNat < 0x20 then
      ['\\', 'u', '0', '0', hexDigit (c.toNat / 16), hexDigit (c.toNat % 16)]
    else [c]

/-- A text as a string with its quotes. -/
def quoted (text : String) : String :=
  "\"" ++ String.ofList (text.toList.flatMap escape) ++ "\""

mutual

/-- The document without blanks. Whatever has no value is written as null. -/
def compact : Json → String
  | null => "null"
  | bool true => "true"
  | bool false => "false"
  | number (some value) => toString value
  | number none => "null"
  | string text => quoted text
  | array elements => "[" ++ compactElements elements ++ "]"
  | object fields => "\x7b" ++ compactFields fields ++ "\x7d"
  | truncated => "null"
  | unreadable => "null"
  | unnamed value => value.compact

/-- Elements with commas between them. -/
def compactElements : List Json → String
  | [] => ""
  | [last] => last.compact
  | first :: rest => first.compact ++ "," ++ compactElements rest

/-- Fields with commas between them. -/
def compactFields : List (String × Json) → String
  | [] => ""
  | [(name, value)] => quoted name ++ ":" ++ value.compact
  | (name, value) :: rest =>
    quoted name ++ ":" ++ value.compact ++ "," ++ compactFields rest

end

/-- The start of a line at a depth of indentation. -/
def newLine (depth : Nat) : String :=
  "\n" ++ String.ofList (List.replicate (2 * depth) ' ')

mutual

/-- The document over several lines, inside of `depth` arrays and objects. -/
def prettyAt (depth : Nat) : Json → String
  | array [] => "[]"
  | array (first :: rest) =>
    "[" ++ prettyElements (depth + 1) (first :: rest) ++ newLine depth ++ "]"
  | object [] => "\x7b\x7d"
  | object (first :: rest) =>
    "\x7b" ++ prettyFields (depth + 1) (first :: rest) ++ newLine depth ++ "\x7d"
  | other => other.compact

/-- Elements on their lines. -/
def prettyElements (depth : Nat) : List Json → String
  | [] => ""
  | [last] => newLine depth ++ last.prettyAt depth
  | first :: rest => newLine depth ++ first.prettyAt depth ++ "," ++ prettyElements depth rest

/-- Fields on their lines. -/
def prettyFields (depth : Nat) : List (String × Json) → String
  | [] => ""
  | [(name, value)] => newLine depth ++ quoted name ++ ": " ++ value.prettyAt depth
  | (name, value) :: rest =>
    newLine depth ++ quoted name ++ ": " ++ value.prettyAt depth ++ "," ++
      prettyFields depth rest

end

/-- The document over several lines. -/
def pretty (document : Json) : String :=
  document.prettyAt 0

end Diglot.Json
