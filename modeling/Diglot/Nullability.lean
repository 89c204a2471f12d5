import Diglot.Dialect
import Diglot.Primitive
import Diglot.TypeUse.Basic

/-!
# Nullability

What a reader of a signature should assume about null. It is not what the source said:
Kotlin types are made to look like Java and the other way round. Several statements
about one type are merged by precedence, and a type without any statement has the
default of its source language.
-/

namespace Diglot

/-- What is known about the nullability of an occurrence of a type. -/
inductive Nullability where
  /-- a type with `?` in Kotlin sources -/
  | kotlinNullable
  /-- a plain Kotlin type, which is not null -/
  | kotlinDefault
  /-- annotated as not null -/
  | annotatedNonNull
  /-- annotated as nullable -/
  | annotatedNullable
  /-- a type that has no null at all, such as `void` -/
  | neverNull
  /-- a type of Java sources without an annotation, which may be null -/
  | unannotated
  /-- not to be shown -/
  | unimportant
deriving DecidableEq

namespace Nullability

/-- The order in which statements about one type are merged: earlier ones win. -/
def byPrecedence : List Nullability :=
  [unimportant, neverNull, kotlinNullable, annotatedNullable, annotatedNonNull,
    kotlinDefault, unannotated]

/-- Name of the nullability in answers and documents. -/
def label : Nullability → String
  | kotlinNullable => "KOTLIN_NULLABLE"
  | kotlinDefault => "KOTLIN_DEFAULT"
  | annotatedNonNull => "JAVA_ANNOTATED_NOT_NULL"
  | annotatedNullable => "JAVA_ANNOTATED_NULLABLE"
  | neverNull => "JAVA_NEVER_NULL"
  | unannotated => "JAVA_NOT_ANNOTATED"
  | unimportant => "DONT_CARE"

/-- Position in the order of precedence. -/
def rank : Nullability → Nat
  | unimportant => 0
  | neverNull => 1
  | kotlinNullable => 2
  | annotatedNullable => 3
  | annotatedNonNull => 4
  | kotlinDefault => 5
  | unannotated => 6

/-- The rank is the position in the list of precedence. -/
theorem idxOf_byPrecedence (n : Nullability) : byPrecedence.idxOf n = n.rank := by
  cases n <;> decide

/-- Every nullability has its place in the list of precedence. -/
theorem mem_byPrecedence (n : Nullability) : n ∈ byPrecedence := by
  cases n <;> decide

/-- Merge two statements: the one that comes first in the order of precedence. -/
def or (first : Nullability) : Option Nullability → Nullability
  | none => first
  | some second => if second.rank < first.rank then second else first

/-- Whether a reader must expect null. -/
def isNullable : Nullability → Bool
  | kotlinNullable | annotatedNullable | unannotated | unimportant => true
  | kotlinDefault | annotatedNonNull | neverNull => false

/-- What Kotlin writes after the type. -/
def kotlinSuffix : Nullability → String
  | kotlinNullable | annotatedNullable => "?"
  | unannotated => "!"
  | kotlinDefault | annotatedNonNull | neverNull | unimportant => ""

/-- The annotation that Java shows for the type if it has none of its own. Nullable types
get none. -/
def javaAnnotation? : Nullability → Option Annotation
  | kotlinDefault | annotatedNonNull => some .publicNonNull
  | _ => none

/-- Nullability of a type without annotations. `fromJava` tells the source language, if
it is known. -/
def sourceDefault (fromJava : Option Bool) : Nullability :=
  if fromJava = some false then kotlinDefault else unannotated

/-- What annotations say about nullability, if anything. Null is possible as soon as one
of them says so. -/
def ofAnnotations? (annotations : List Annotation) : Option Nullability :=
  if annotations.any Annotation.marksNullable then some annotatedNullable
  else if annotations.any Annotation.marksNonNull then some annotatedNonNull
  else none

end Nullability

namespace TypeUse

/-- Whether the type can be null at all when it is displayed in `dialect`. In Java the
Kotlin primitives, `Nothing` and `Unit` become primitives or `void`; of the Java
primitives only arrays can be null. -/
def canBeNull (dialect : Dialect) : TypeUse → Bool
  | classRef head _ =>
    let name := head.identity.className
    !(head.identity.package = "kotlin" && dialect = .java &&
      ((Primitive.ofKotlinName? name).isSome || name = "Nothing" || name = "Unit"))
  | void => false
  | primitive name => Text.hasChar name '['
  | _ => true

/-- The nullability of a type that can be null and is not a wrapper: what its annotations
and `carried` ones say, or else the default. -/
def statedNullability (fromJava : Option Bool) (carried : List Annotation) (type : TypeUse) :
    Nullability :=
  (Nullability.ofAnnotations? (carried ++ type.leadingAnnotations)).getD
    (.sourceDefault fromJava)

/-- What is stated of a type is one of the annotated nullabilities, or the default of the source
language. -/
theorem statedNullability_eq_or (fromJava : Option Bool) (carried : List Annotation)
    (type : TypeUse) :
    type.statedNullability fromJava carried = .annotatedNullable ∨
      type.statedNullability fromJava carried = .annotatedNonNull ∨
        type.statedNullability fromJava carried = .sourceDefault fromJava := by
  unfold statedNullability Nullability.ofAnnotations?
  split
  · exact Or.inl rfl
  · split
    · exact Or.inr (Or.inl rfl)
    · exact Or.inr (Or.inr rfl)

/-- The nullability of an occurrence of a type. `carried` are annotations that the
enclosing declaration hands to the type; below variance and aliases they do not
count. -/
def nullability (dialect : Dialect) (fromJava : Option Bool) (carried : List Annotation)
    (type : TypeUse) : Nullability :=
  if type.canBeNull dialect then
    match type with
    | nullable _ => .kotlinNullable
    | nonNull _ | dynamic | star => .kotlinDefault
    | projected _ inner => inner.nullability dialect fromJava []
    | aliased _ inner => inner.nullability dialect fromJava []
    | void => .neverNull
    | classRef .. | parameter _ | javaObject _ | unresolved _ | primitive _ =>
      type.statedNullability fromJava carried
  else .unimportant

end TypeUse

end Diglot
