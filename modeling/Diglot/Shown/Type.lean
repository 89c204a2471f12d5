import Diglot.Modifier.Basic
import Diglot.Nullability
import Diglot.Shown.Annotation

/-!
# Displayed types

A type as a reader sees it is one of three things: a linked name with type arguments, a
Kotlin function type taken apart, or a Java collection, which Kotlin shows as `(Mutable)`
in front of the read-only name. What the three have in common is their `Face`.
-/

namespace Diglot

/-- What every displayed type has. -/
structure Face where
  /-- nullability of the occurrence -/
  nullability : Nullability
  /-- the language of the display -/
  dialect : Dialect
  /-- annotations on the type -/
  annotations : List ShownAnnotation
deriving DecidableEq

mutual

/-- A displayed type. -/
inductive ShownType where
  /-- a name with type arguments -/
  | plain (face : Face) (link : Link) (arguments : List ShownType)
  /-- a Java collection in Kotlin; `mutable` links to the mutable counterpart -/
  | mapped (face : Face) (link mutable : Link) (arguments : List ShownType)
  /-- a Kotlin function type -/
  | lambda (face : Face) (isSuspend : Bool) (receiver : Option ShownType)
      (parameters : List ShownParameter) (returnType : ShownType)

/-- A displayed parameter of a function or of a function type. -/
structure ShownParameter where
  /-- name, empty for many parameters of function types -/
  name : String
  /-- type -/
  type : ShownType
  /-- default value, as written -/
  default : Option String
  /-- displayed modifiers -/
  modifiers : List Modifier
  /-- annotations on the parameter -/
  annotations : List ShownAnnotation
  /-- the language of the display -/
  dialect : Dialect

end

namespace ShownType

/-- What the type has in common with all others. -/
def face : ShownType → Face
  | plain face .. => face
  | mapped face .. => face
  | lambda face .. => face

/-- Nullability of the occurrence. -/
def nullability (type : ShownType) : Nullability := type.face.nullability

/-- Annotations on the type. -/
def annotations (type : ShownType) : List ShownAnnotation := type.face.annotations

/-- Type arguments; a function type has none. -/
def arguments : ShownType → List ShownType
  | plain _ _ arguments => arguments
  | mapped _ _ _ arguments => arguments
  | lambda .. => []

/-- The link of a type; of a function type that of its return type. -/
def link : ShownType → Link
  | plain _ link _ => link
  | mapped _ link _ _ => link
  | lambda _ _ _ _ returnType => returnType.link

/-- The displayed name. -/
def name (type : ShownType) : String := type.link.name

/-! ## Equality -/

mutual

/-- Whether two displayed types are equal. -/
def same : ShownType → ShownType → Bool
  | plain f l as, plain g k bs => f = g && l = k && sameList as bs
  | mapped f l m as, mapped g k n bs => f = g && l = k && m = n && sameList as bs
  | lambda f s r ps t, lambda g z q qs u =>
    f = g && s = z && sameOption r q && sameParameters ps qs && t.same u
  | _, _ => false

/-- Whether two lists of displayed types are equal. -/
def sameList : List ShownType → List ShownType → Bool
  | [], [] => true
  | a :: as, b :: bs => a.same b && sameList as bs
  | _, _ => false

/-- Whether two receivers, or their absence, are equal. -/
def sameOption : Option ShownType → Option ShownType → Bool
  | none, none => true
  | some a, some b => a.same b
  | _, _ => false

/-- Whether two lists of displayed parameters are equal. -/
def sameParameters : List ShownParameter → List ShownParameter → Bool
  | [], [] => true
  | p :: ps, q :: qs => sameParameter p q && sameParameters ps qs
  | _, _ => false

/-- Whether two displayed parameters are equal. -/
def sameParameter : ShownParameter → ShownParameter → Bool
  | ⟨n, t, d, ms, as, l⟩, ⟨m, u, e, ns, bs, k⟩ =>
    n = m && t.same u && d = e && ms = ns && as = bs && l = k

end

mutual

/-- `ShownType.same` decides equality. -/
theorem same_iff : ∀ a b : ShownType, a.same b = true ↔ a = b
  | plain _ _ as, b => by cases b <;> simp [same, sameList_iff as, and_assoc]
  | mapped _ _ _ as, b => by cases b <;> simp [same, sameList_iff as, and_assoc]
  | lambda _ _ r ps t, b => by
    cases b <;>
      simp [same, sameOption_iff r, sameParameters_iff ps, same_iff t, and_assoc]

/-- `ShownType.sameList` decides equality. -/
theorem sameList_iff : ∀ as bs : List ShownType, sameList as bs = true ↔ as = bs
  | [], bs => by cases bs <;> simp [sameList]
  | a :: as, bs => by cases bs <;> simp [sameList, same_iff a, sameList_iff as]

/-- `ShownType.sameOption` decides equality. -/
theorem sameOption_iff : ∀ a b : Option ShownType, sameOption a b = true ↔ a = b
  | none, b => by cases b <;> simp [sameOption]
  | some a, b => by cases b <;> simp [sameOption, same_iff a]

/-- `ShownType.sameParameters` decides equality. -/
theorem sameParameters_iff :
    ∀ ps qs : List ShownParameter, sameParameters ps qs = true ↔ ps = qs
  | [], qs => by cases qs <;> simp [sameParameters]
  | p :: ps, qs => by
    cases qs <;> simp [sameParameters, sameParameter_iff p, sameParameters_iff ps]

/-- `ShownType.sameParameter` decides equality. -/
theorem sameParameter_iff : ∀ p q : ShownParameter, sameParameter p q = true ↔ p = q
  | ⟨n, t, d, ms, as, l⟩, ⟨m, u, e, ns, bs, k⟩ => by
    simp [sameParameter, same_iff t, and_assoc]

end

end ShownType

instance : DecidableEq ShownType := fun a b =>
  decidable_of_iff (a.same b = true) (ShownType.same_iff a b)

instance : DecidableEq ShownParameter := fun p q =>
  decidable_of_iff (ShownType.sameParameter p q = true) (ShownType.sameParameter_iff p q)

/-! ## Text -/

/-- What is written after the type for its nullability: Java writes nothing there. -/
def Face.suffix (face : Face) : String :=
  match face.dialect with
  | .kotlin => face.nullability.kotlinSuffix
  | .java => ""

/-- Texts in angle brackets, or nothing if there are none. -/
def bracketed (texts : List String) : String :=
  if texts.isEmpty then "" else "<" ++ Text.joined ", " texts ++ ">"

/-- Modifiers in front of what they modify. -/
def Modifier.lead (modifiers : List Modifier) : String :=
  if modifiers.isEmpty then "" else Text.joined " " (modifiers.map keyword) ++ " "

/-- A parameter whose type is written as `type`. -/
def ShownParameter.textWith (parameter : ShownParameter) (type : String) : String :=
  ShownAnnotation.lead parameter.annotations ++
    (match parameter.dialect with
      | .java =>
        if parameter.modifiers.contains .vararg then type ++ "... " ++ parameter.name
        else if parameter.name = "" then type
        else type ++ " " ++ parameter.name
      | .kotlin =>
        Modifier.lead parameter.modifiers ++
          (if parameter.name = "" then type else parameter.name ++ ": " ++ type)) ++
    (match parameter.default with
      | some value => " = " ++ value
      | none => "")

/-- A function type whose parts are written as given. Parentheses enclose it only where
something follows it for its nullability. -/
def lambdaText (face : Face) (isSuspend : Bool) (receiver : String) (parameters : List String)
    (returnType : String) : String :=
  let suffix := face.nullability.kotlinSuffix
  let arrow :=
    (if isSuspend then "suspend " else "") ++ receiver ++ "(" ++
      Text.joined ", " parameters ++ ") -> " ++ returnType
  ShownAnnotation.lead face.annotations ++
    (if suffix = "" then arrow else "(" ++ arrow ++ ")" ++ suffix)

mutual

/-- A type on one line. -/
def ShownType.text : ShownType → String
  | .plain face link arguments =>
    ShownAnnotation.lead face.annotations ++ link.name ++
      bracketed (ShownType.texts arguments) ++ face.suffix
  | .mapped face link mutable arguments =>
    ShownAnnotation.lead face.annotations ++ "(" ++ mutable.name ++ ")" ++ link.name ++
      bracketed (ShownType.texts arguments) ++ face.suffix
  | .lambda face isSuspend receiver parameters returnType =>
    lambdaText face isSuspend (ShownType.receiverText receiver)
      (ShownParameter.texts parameters) returnType.text

/-- The texts of a list of types. -/
def ShownType.texts : List ShownType → List String
  | [] => []
  | type :: rest => type.text :: ShownType.texts rest

/-- A receiver with the dot that follows it. -/
def ShownType.receiverText : Option ShownType → String
  | none => ""
  | some receiver => receiver.text ++ "."

/-- The texts of a list of parameters. -/
def ShownParameter.texts : List ShownParameter → List String
  | [] => []
  | parameter :: rest => parameter.text :: ShownParameter.texts rest

/-- A parameter on one line: in Java after its type, in Kotlin before it. -/
def ShownParameter.text : ShownParameter → String
  | ⟨name, type, default, modifiers, annotations, dialect⟩ =>
    ShownParameter.textWith ⟨name, type, default, modifiers, annotations, dialect⟩ type.text

end

end Diglot
