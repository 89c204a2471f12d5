import Diglot.Link

/-!
# Displayed annotations

An annotation as a reader sees it: a link to its class, and its arguments with the
values already written out. `ShownAnnotation.text` puts it on one line.
-/

namespace Diglot

mutual

/-- A displayed argument of an annotation. Elements of arrays have the empty name. -/
inductive ShownArgument where
  /-- a single value, with quotes if it is a string -/
  | value (name value : String)
  /-- an array -/
  | array (name : String) (elements : List ShownArgument)
  /-- a nested annotation -/
  | nested (name : String) (inner : ShownAnnotation)

/-- A displayed annotation. -/
structure ShownAnnotation where
  /-- the annotation class -/
  link : Link
  /-- arguments, in source order -/
  arguments : List ShownArgument

end

/-! ## Equality -/

mutual

/-- Whether two displayed arguments are equal. -/
def ShownArgument.same : ShownArgument → ShownArgument → Bool
  | .value n a, .value m b => n = m && a = b
  | .array n as, .array m bs => n = m && ShownArgument.sameList as bs
  | .nested n a, .nested m b => n = m && a.same b
  | _, _ => false

/-- Whether two lists of displayed arguments are equal. -/
def ShownArgument.sameList : List ShownArgument → List ShownArgument → Bool
  | [], [] => true
  | a :: as, b :: bs => a.same b && ShownArgument.sameList as bs
  | _, _ => false

/-- Whether two displayed annotations are equal. -/
def ShownAnnotation.same : ShownAnnotation → ShownAnnotation → Bool
  | ⟨l, as⟩, ⟨k, bs⟩ => l = k && ShownArgument.sameList as bs

end

mutual

/-- `ShownArgument.same` decides equality. -/
theorem ShownArgument.same_iff : ∀ a b : ShownArgument, a.same b = true ↔ a = b
  | .value _ _, b => by cases b <;> simp [ShownArgument.same]
  | .array _ as, b => by cases b <;> simp [ShownArgument.same, ShownArgument.sameList_iff as]
  | .nested _ a, b => by
    cases b <;> simp [ShownArgument.same, ShownAnnotation.same_iff a]

/-- `ShownArgument.sameList` decides equality. -/
theorem ShownArgument.sameList_iff :
    ∀ as bs : List ShownArgument, ShownArgument.sameList as bs = true ↔ as = bs
  | [], bs => by cases bs <;> simp [ShownArgument.sameList]
  | a :: as, bs => by
    cases bs <;>
      simp [ShownArgument.sameList, ShownArgument.same_iff a, ShownArgument.sameList_iff as]

/-- `ShownAnnotation.same` decides equality. -/
theorem ShownAnnotation.same_iff : ∀ a b : ShownAnnotation, a.same b = true ↔ a = b
  | ⟨l, as⟩, ⟨k, bs⟩ => by simp [ShownArgument.sameList_iff as, ShownAnnotation.same]

end

instance : DecidableEq ShownArgument := fun a b =>
  decidable_of_iff (a.same b = true) (ShownArgument.same_iff a b)

instance : DecidableEq ShownAnnotation := fun a b =>
  decidable_of_iff (a.same b = true) (a.same_iff b)

/-! ## Text -/

/-- The beginning of an argument with a name. -/
def ShownArgument.label (name : String) : String :=
  if name = "" then "" else name ++ " = "

mutual

/-- An argument: its name, unless that is empty, and its value. -/
def ShownArgument.text : ShownArgument → String
  | .value name value => ShownArgument.label name ++ value
  | .array name elements =>
    ShownArgument.label name ++ "\x7b" ++ ShownArgument.textList elements ++ "\x7d"
  | .nested name inner => ShownArgument.label name ++ inner.text

/-- Arguments divided by commas. -/
def ShownArgument.textList : List ShownArgument → String
  | [] => ""
  | [argument] => argument.text
  | argument :: rest => argument.text ++ ", " ++ ShownArgument.textList rest

/-- The name of the class after `@`, with the arguments in parentheses if there are any. -/
def ShownAnnotation.text : ShownAnnotation → String
  | ⟨link, []⟩ => "@" ++ link.name
  | ⟨link, first :: rest⟩ =>
    "@" ++ link.name ++ "(" ++ ShownArgument.textList (first :: rest) ++ ")"

end

/-- Annotations in front of what they annotate: each is followed by a space. -/
def ShownAnnotation.lead : List ShownAnnotation → String
  | [] => ""
  | annotation :: rest => annotation.text ++ " " ++ ShownAnnotation.lead rest

end Diglot
