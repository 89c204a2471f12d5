import Diglot.Annotation.Basic
import Diglot.Text

/-!
# What an annotation is for

Some annotations state nullability, some belong to a type rather than to the
declaration around it, and some are noise that no reader should see. All of these
roles are decided by the name of the annotation class alone. The module also removes
duplicates: of annotations with the same identifier the first stays.
-/

namespace Diglot

/-- Simple names of the annotations that state nullability. -/
def nullabilityNames : List String := ["NonNull", "Nullable", "NotNull"]

/-- Simple names of annotations that describe a type. -/
def typeAnnotationNames : List String := ["Dimension", "Px", "Size"]

/-- Final words of the names of annotations that describe a type, as in `StringRes`. -/
def typeAnnotationWords : List String := ["Res", "Range", "Long", "Int", "Float", "Context"]

/-- Simple names of annotations that suppress warnings. -/
def suppressionNames : List String := ["Suppress", "SuppressWarnings", "SuppressLint"]

/-- Qualified names of the annotations that mark a declaration as deprecated. -/
def deprecationNames : List String := ["kotlin.Deprecated", "java.lang.Deprecated"]

/-- Package of the annotations that speak to the compiler, such as `JvmName`. -/
def interopPackage : String := "kotlin.jvm"

/-- Qualified name of the public annotation for values that may be null. -/
def publicNullableName : String := "androidx.annotation.Nullable"

/-- The final word of a name. It starts at the letter that is the last capital of the
name, and of several occurrences of that letter at the first: `StringRes` ends in
`Res`, but all of `RangeRes` is one word. A name without capitals is one word. -/
def finalWord (name : String) : String :=
  match name.toList.reverse.find? Char.isUpper with
  | none => name
  | some capital => String.ofList (name.toList.dropWhile (· ≠ capital))

namespace Annotation

/-- The annotation `package.name` without arguments. -/
def ofClass (package name : String) : Annotation :=
  ⟨.ofClass package name, []⟩

/-- The annotation with a qualified name: what follows the last dot is the class. -/
def ofQualified (name : String) : Annotation :=
  match Text.splitAtLast? name '.' with
  | some (package, simple) => ofClass package simple
  | none => ofClass "" name

/-- The public annotation for values that are never null. -/
def publicNonNull : Annotation := ofClass "androidx.annotation" "NonNull"

/-- Simple name of the annotation class. -/
def className (a : Annotation) : String := a.identity.className

/-- Qualified name of the annotation class. -/
def fullName (a : Annotation) : String := a.identity.fullName

/-- Whether the annotation states nullability, in whatever package it is. -/
def isNullability (a : Annotation) : Bool :=
  nullabilityNames.contains a.className

/-- Whether the annotation says that null is a possible value. -/
def marksNullable (a : Annotation) : Bool :=
  a.className = "Nullable"

/-- Whether the annotation says that null is not a possible value. -/
def marksNonNull (a : Annotation) : Bool :=
  a.className = "NonNull" || a.className = "NotNull"

/-- Whether the annotation belongs to the type of a declaration and not to the
declaration. -/
def isTypeBound (a : Annotation) : Bool :=
  a.isNullability || typeAnnotationNames.contains a.className ||
    typeAnnotationWords.contains (finalWord a.className)

/-- Whether the annotation suppresses warnings. -/
def isSuppression (a : Annotation) : Bool :=
  suppressionNames.contains a.className

/-- Whether the annotation marks its target as deprecated. -/
def isDeprecation (a : Annotation) : Bool :=
  deprecationNames.contains a.fullName

/-- Whether the annotation speaks to the compiler only. -/
def isInterop (a : Annotation) : Bool :=
  a.identity.package = interopPackage

/-- The public counterpart of the nullability annotations that the platform keeps for
itself; every other annotation is its own. -/
def publicForm (a : Annotation) : Annotation :=
  if a.identity.package = "android.annotation" &&
      (a.className = "Nullable" || a.className = "NonNull") then
    ⟨.ofClass "androidx.annotation" a.className, a.arguments⟩
  else a

/-- The annotations whose identifier is not among `seen` and not that of an earlier one
in the list. -/
def distinctFrom (seen : List String) : List Annotation → List Annotation
  | [] => []
  | a :: rest =>
    if seen.contains a.identifier then distinctFrom seen rest
    else a :: distinctFrom (a.identifier :: seen) rest

/-- The first annotation with each identifier, in order. -/
def distinct (annotations : List Annotation) : List Annotation :=
  distinctFrom [] annotations

/-- The annotations that belong to the type, in order. -/
def onType (annotations : List Annotation) : List Annotation :=
  annotations.filter isTypeBound

/-- The annotations that belong to the declaration, in order. -/
def onDeclaration (annotations : List Annotation) : List Annotation :=
  annotations.filter fun a => !a.isTypeBound

end Annotation

end Diglot
