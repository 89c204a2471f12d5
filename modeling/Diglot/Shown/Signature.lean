import Diglot.Shown.Type

/-!
# Signatures

The signature of a function or a property as it is displayed, with everything that a
page shows of it. Two source sets show the same if their signatures are equal.
-/

namespace Diglot

/-- A displayed type parameter. -/
structure ShownTypeParameter where
  /-- its name -/
  name : String
  /-- upper bounds -/
  bounds : List ShownType
  /-- the language of the display -/
  dialect : Dialect
deriving DecidableEq

/-- The signature of a function or a constructor. -/
structure FunctionSignature where
  /-- the language of the display -/
  dialect : Dialect
  /-- name and page -/
  name : Link
  /-- displayed modifiers -/
  modifiers : List Modifier
  /-- annotations on the declaration -/
  annotations : List ShownAnnotation
  /-- declared type parameters -/
  typeParameters : List ShownTypeParameter
  /-- receiver; in Java it is the first parameter -/
  receiver : Option ShownParameter
  /-- parameters -/
  parameters : List ShownParameter
  /-- type of the result -/
  returnType : ShownType
  /-- whether it is a constructor -/
  isConstructor : Bool
  /-- whether it is deprecated -/
  isDeprecated : Bool
deriving DecidableEq

/-- The signature of a property or a field. -/
structure PropertySignature where
  /-- the language of the display -/
  dialect : Dialect
  /-- name and page -/
  name : Link
  /-- displayed modifiers -/
  modifiers : List Modifier
  /-- annotations on the declaration -/
  annotations : List ShownAnnotation
  /-- receiver -/
  receiver : Option ShownParameter
  /-- type -/
  type : ShownType
  /-- `var` and not `val` -/
  isMutable : Bool
  /-- value, shown for constants only -/
  constant : Option String
  /-- whether it is deprecated -/
  isDeprecated : Bool
deriving DecidableEq

/-- The signature of a declaration. -/
inductive Signature where
  | function (signature : FunctionSignature)
  | property (signature : PropertySignature)
deriving DecidableEq

namespace ShownTypeParameter

/-- The bounds after the first, which Kotlin lists at the end of the signature. -/
def furtherBounds (parameter : ShownTypeParameter) : List ShownType :=
  match parameter.dialect with
  | .kotlin => parameter.bounds.drop 1
  | .java => []

/-- The name with its bounds: all of them in Java, the first in Kotlin. -/
def text (parameter : ShownTypeParameter) : String :=
  parameter.name ++
    match parameter.dialect, parameter.bounds with
    | _, [] => ""
    | .java, bounds => " extends " ++ Text.joined " & " (ShownType.texts bounds)
    | .kotlin, bound :: _ => " : " ++ bound.text

/-- Type parameters in angle brackets, followed by a space, if there are any. -/
def lead (parameters : List ShownTypeParameter) : String :=
  if parameters.isEmpty then ""
  else "<" ++ Text.joined ", " (parameters.map text) ++ "> "

/-- The clause for all further bounds, if there are any. -/
def whereClause (parameters : List ShownTypeParameter) : String :=
  let clauses := parameters.flatMap fun parameter =>
    parameter.furtherBounds.map fun bound => parameter.name ++ " : " ++ bound.text
  if clauses.isEmpty then "" else " where " ++ Text.joined ", " clauses

end ShownTypeParameter

/-- The receiver of a Kotlin extension in front of the name: only its type is shown. -/
def receiverLead : Option ShownParameter → String
  | none => ""
  | some receiver => receiver.type.text ++ "."

/-- A function on one line. -/
def FunctionSignature.text (s : FunctionSignature) : String :=
  let parameters := "(" ++ Text.joined ", " (ShownParameter.texts s.parameters) ++ ")"
  ShownAnnotation.lead s.annotations ++ Modifier.lead s.modifiers ++
    match s.dialect with
    | .java =>
      ShownTypeParameter.lead s.typeParameters ++
        (if s.isConstructor then "" else s.returnType.text ++ " ") ++ s.name.name ++ parameters
    | .kotlin =>
      if s.isConstructor then "constructor" ++ parameters
      else
        "fun " ++ ShownTypeParameter.lead s.typeParameters ++ receiverLead s.receiver ++
          s.name.name ++ parameters ++ ": " ++ s.returnType.text ++
          ShownTypeParameter.whereClause s.typeParameters

/-- A property on one line. -/
def PropertySignature.text (s : PropertySignature) : String :=
  ShownAnnotation.lead s.annotations ++ Modifier.lead s.modifiers ++
    (match s.dialect with
      | .java => s.type.text ++ " " ++ s.name.name
      | .kotlin =>
        (if s.isMutable then "var " else "val ") ++ receiverLead s.receiver ++ s.name.name ++
          ": " ++ s.type.text) ++
    (match s.constant with
      | some value => " = " ++ value
      | none => "")

namespace Signature

/-- The declared name. -/
def name : Signature → String
  | function s => s.name.name
  | property s => s.name.name

/-- A signature on one line. -/
def text : Signature → String
  | function s => s.text
  | property s => s.text

end Signature

end Diglot
