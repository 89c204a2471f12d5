import Diglot.Identity

/-!
# Annotations

An annotation names a class and gives it arguments; the value of an argument may be an
array or another annotation. `Annotation.identifier` writes an annotation in one line,
and this line is what decides whether two annotations count as duplicates.
-/

namespace Diglot

mutual

/-- The value of an annotation argument. -/
inductive AnnotationValue where
  /-- a string literal, kept without its quotes -/
  | string (text : String)
  /-- any other literal, as written -/
  | literal (text : String)
  /-- a reference to an enum constant -/
  | enumConstant (text : String)
  /-- a class literal -/
  | classLiteral (text : String)
  /-- an array of values -/
  | array (elements : List AnnotationValue)
  /-- a nested annotation -/
  | nested (inner : Annotation)

/-- A named argument of an annotation. -/
structure AnnotationArgument where
  /-- name of the parameter -/
  name : String
  /-- value given to it -/
  value : AnnotationValue

/-- An annotation applied to a declaration or to an occurrence of a type. -/
structure Annotation where
  /-- the annotation class -/
  identity : Identity
  /-- arguments, in source order -/
  arguments : List AnnotationArgument

end

/-! ## Equality -/

mutual

/-- Whether two argument values are equal. -/
def AnnotationValue.same : AnnotationValue → AnnotationValue → Bool
  | .string a, .string b => a = b
  | .literal a, .literal b => a = b
  | .enumConstant a, .enumConstant b => a = b
  | .classLiteral a, .classLiteral b => a = b
  | .array as, .array bs => AnnotationValue.sameList as bs
  | .nested a, .nested b => a.same b
  | _, _ => false

/-- Whether two lists of argument values are equal. -/
def AnnotationValue.sameList : List AnnotationValue → List AnnotationValue → Bool
  | [], [] => true
  | a :: as, b :: bs => a.same b && AnnotationValue.sameList as bs
  | _, _ => false

/-- Whether two lists of arguments are equal. -/
def AnnotationArgument.sameList : List AnnotationArgument → List AnnotationArgument → Bool
  | [], [] => true
  | ⟨n, a⟩ :: as, ⟨m, b⟩ :: bs => n = m && a.same b && AnnotationArgument.sameList as bs
  | _, _ => false

/-- Whether two annotations are equal. -/
def Annotation.same : Annotation → Annotation → Bool
  | ⟨i, as⟩, ⟨j, bs⟩ => i = j && AnnotationArgument.sameList as bs

end

mutual

/-- `AnnotationValue.same` decides equality. -/
theorem AnnotationValue.same_iff : ∀ a b : AnnotationValue, a.same b = true ↔ a = b
  | .string _, b => by cases b <;> simp [AnnotationValue.same]
  | .literal _, b => by cases b <;> simp [AnnotationValue.same]
  | .enumConstant _, b => by cases b <;> simp [AnnotationValue.same]
  | .classLiteral _, b => by cases b <;> simp [AnnotationValue.same]
  | .array as, b => by
    cases b <;> simp [AnnotationValue.same, AnnotationValue.sameList_iff as]
  | .nested a, b => by
    cases b <;> simp [AnnotationValue.same, Annotation.same_iff a]

/-- `AnnotationValue.sameList` decides equality. -/
theorem AnnotationValue.sameList_iff :
    ∀ as bs : List AnnotationValue, AnnotationValue.sameList as bs = true ↔ as = bs
  | [], bs => by cases bs <;> simp [AnnotationValue.sameList]
  | a :: as, bs => by
    cases bs <;>
      simp [AnnotationValue.sameList, AnnotationValue.same_iff a, AnnotationValue.sameList_iff as]

/-- `AnnotationArgument.sameList` decides equality. -/
theorem AnnotationArgument.sameList_iff :
    ∀ as bs : List AnnotationArgument, AnnotationArgument.sameList as bs = true ↔ as = bs
  | [], bs => by cases bs <;> simp [AnnotationArgument.sameList]
  | ⟨n, a⟩ :: as, bs => by
    cases bs with
    | nil => simp [AnnotationArgument.sameList]
    | cons b bs =>
      obtain ⟨m, b⟩ := b
      simp [AnnotationArgument.sameList, AnnotationValue.same_iff a,
        AnnotationArgument.sameList_iff as, and_assoc]

/-- `Annotation.same` decides equality. -/
theorem Annotation.same_iff : ∀ a b : Annotation, a.same b = true ↔ a = b
  | ⟨i, as⟩, ⟨j, bs⟩ => by
    simp [AnnotationArgument.sameList_iff as, Annotation.same]

end

instance : DecidableEq AnnotationValue := fun a b =>
  decidable_of_iff (a.same b = true) (AnnotationValue.same_iff a b)

instance : DecidableEq Annotation := fun a b =>
  decidable_of_iff (a.same b = true) (a.same_iff b)

/-! ## Text -/

mutual

/-- A value as written: quotes around a string, braces around an array, and `@` in front
of a nested annotation. -/
def AnnotationValue.text : AnnotationValue → String
  | .string s => "\"" ++ s ++ "\""
  | .literal s => s
  | .enumConstant s => s
  | .classLiteral s => s
  | .array elements => "\x7b" ++ AnnotationValue.textList elements ++ "\x7d"
  | .nested inner => "@" ++ inner.identifier

/-- Values divided by commas. -/
def AnnotationValue.textList : List AnnotationValue → String
  | [] => ""
  | [value] => value.text
  | value :: rest => value.text ++ ", " ++ AnnotationValue.textList rest

/-- Arguments in the form `name=value`, divided by commas. -/
def AnnotationArgument.textList : List AnnotationArgument → String
  | [] => ""
  | [⟨name, value⟩] => name ++ "=" ++ value.text
  | ⟨name, value⟩ :: rest =>
    name ++ "=" ++ value.text ++ ", " ++ AnnotationArgument.textList rest

/-- The qualified name of an annotation, followed by its arguments if there are any. -/
def Annotation.identifier : Annotation → String
  | ⟨identity, []⟩ => identity.fullName
  | ⟨identity, first :: rest⟩ =>
    identity.fullName ++ "(" ++ AnnotationArgument.textList (first :: rest) ++ ")"

end

end Diglot
