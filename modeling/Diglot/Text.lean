/-!
# Small operations on text

Joining, and the tests and cuts on names that the rendering rules use. All of them
are defined through the characters of the text, so that facts about them are facts
about lists.
-/

namespace Diglot.Text

/-- The texts one after the other, with `separator` between neighbours. -/
def joined (separator : String) : List String → String
  | [] => ""
  | [text] => text
  | text :: rest => text ++ separator ++ joined separator rest

/-- Whether `text` begins with `start`. -/
def startsWith (text start : String) : Bool :=
  start.toList.isPrefixOf text.toList

/-- Whether `text` ends with `final`. -/
def endsWith (text final : String) : Bool :=
  final.toList.isSuffixOf text.toList

/-- Whether `c` occurs in `text`. -/
def hasChar (text : String) (c : Char) : Bool :=
  text.toList.contains c

/-- `text` with every `old` replaced by `new`. -/
def replaceChar (text : String) (old new : Char) : String :=
  String.ofList (text.toList.map fun c => if c = old then new else c)

/-- `text` without the run of `c` at its end. -/
def trimEnd (text : String) (c : Char) : String :=
  String.ofList (text.toList.reverse.dropWhile (· = c)).reverse

/-- The parts of `text` before and after its last `c`, if there is one. -/
def splitAtLast? (text : String) (c : Char) : Option (String × String) :=
  match text.toList.reverse.span (· ≠ c) with
  | (_, []) => none
  | (after, _ :: before) => some (String.ofList before.reverse, String.ofList after.reverse)

/-- Whether two texts are equal when the capitals `A` to `Z` count as small letters. -/
def sameIgnoringCase (a b : String) : Bool :=
  a.toList.map Char.toLower = b.toList.map Char.toLower

end Diglot.Text
