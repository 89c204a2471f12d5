import Diglot.Annotation.Role
import Diglot.BySourceSet

/-!
# Uses of types

A `TypeUse` is one occurrence of a type in a declaration, as either language writes it:
a class with arguments, a type parameter, a Java primitive, and so on, under wrappers
for nullability, variance and aliases. It is a finite tree.
-/

namespace Diglot

/-- The annotations of one element, by source set. -/
abbrev SourcedAnnotations := BySourceSet (List Annotation)

/-- The annotations of one source set; none if it has no entry. -/
def SourcedAnnotations.at (annotations : SourcedAnnotations) (sourceSet : String) :
    List Annotation :=
  (annotations.get? sourceSet).getD []

/-- The annotations of the first source set, which hold where no source set is given. -/
def SourcedAnnotations.leading (annotations : SourcedAnnotations) : List Annotation :=
  annotations.first?.getD []

/-- How a type argument is projected. -/
inductive Variance where
  /-- `out T` or `? extends T` -/
  | covariant
  /-- `in T` or `? super T` -/
  | contravariant
  /-- exactly `T` -/
  | invariant
deriving DecidableEq

namespace Variance

/-- The variances in the order of the model format. -/
def all : List Variance := [covariant, contravariant, invariant]

/-- Name in the model format. -/
def label : Variance → String
  | covariant => "covariant"
  | contravariant => "contravariant"
  | invariant => "invariant"

end Variance

/-- Whether a class reference is an ordinary class or a function type. -/
inductive ClassForm where
  /-- an ordinary class -/
  | generic
  /-- a function type; of an extension the first argument is the receiver -/
  | functional (isExtension isSuspend : Bool)
deriving DecidableEq

/-- A reference to a class, apart from its type arguments. -/
structure ClassHead where
  /-- the class -/
  identity : Identity
  /-- name shown in place of the class name -/
  shownName : Option String := none
  /-- annotations on this occurrence -/
  annotations : SourcedAnnotations := ∅
  /-- ordinary class or function type -/
  form : ClassForm := .generic
deriving DecidableEq

/-- A reference to a declared type parameter. -/
structure ParameterHead where
  /-- the declaration that owns the parameter -/
  owner : Identity
  /-- name of the parameter -/
  name : String
  /-- name shown in its place -/
  shownName : Option String := none
  /-- annotations on this occurrence -/
  annotations : SourcedAnnotations := ∅
deriving DecidableEq

/-- One occurrence of a type. -/
inductive TypeUse where
  /-- a class with its type arguments -/
  | classRef (head : ClassHead) (arguments : List TypeUse)
  /-- a type parameter -/
  | parameter (head : ParameterHead)
  /-- a Java primitive or array of primitives, by its Java spelling -/
  | primitive (name : String)
  /-- `java.lang.Object` as Java sources see it -/
  | javaObject (annotations : SourcedAnnotations)
  /-- Java `void` -/
  | void
  /-- an argument that may be anything -/
  | star
  /-- the dynamic type of Kotlin for JavaScript -/
  | dynamic
  /-- a bound of which only the name is known -/
  | unresolved (name : String)
  /-- a type that also has the value null -/
  | nullable (inner : TypeUse)
  /-- a type without the value null, `T & Any` -/
  | nonNull (inner : TypeUse)
  /-- a projected argument -/
  | projected (variance : Variance) (inner : TypeUse)
  /-- the use of an alias, with the type that it stands for -/
  | aliased (named inner : TypeUse)

/-- The kinds of type uses, without what they hold. -/
inductive TypeShape where
  | classRef
  | parameter
  | primitive
  | javaObject
  | void
  | star
  | dynamic
  | unresolved
  | nullable
  | nonNull
  | projected
  | aliased
deriving DecidableEq

namespace TypeShape

/-- The shapes in the order of the model format. -/
def all : List TypeShape :=
  [classRef, parameter, primitive, javaObject, void, star, dynamic, unresolved, nullable,
    nonNull, projected, aliased]

/-- Name of the shape in error messages. -/
def label : TypeShape → String
  | classRef => "TypeConstructor"
  | parameter => "TypeParameter"
  | primitive => "Primitive"
  | javaObject => "JavaObject"
  | void => "Void"
  | star => "Star"
  | dynamic => "Dynamic"
  | unresolved => "UnresolvedBound"
  | nullable => "Nullable"
  | nonNull => "DefinitelyNonNull"
  | projected => "Variance"
  | aliased => "TypeAliased"

end TypeShape

namespace TypeUse

/-- The kind of a type use. -/
def shape : TypeUse → TypeShape
  | classRef .. => .classRef
  | parameter _ => .parameter
  | primitive _ => .primitive
  | javaObject _ => .javaObject
  | void => .void
  | star => .star
  | dynamic => .dynamic
  | unresolved _ => .unresolved
  | nullable _ => .nullable
  | nonNull _ => .nonNull
  | projected .. => .projected
  | aliased .. => .aliased

/-- Attach annotations for a source set to a type use that can carry some; others stay
as they are. -/
def annotated (sourceSet : String) (annotations : List Annotation) : TypeUse → TypeUse
  | classRef head arguments =>
    classRef { head with annotations := head.annotations.insert sourceSet annotations } arguments
  | parameter head =>
    parameter { head with annotations := head.annotations.insert sourceSet annotations }
  | javaObject own => javaObject (own.insert sourceSet annotations)
  | other => other

/-- The type below all outer `T & Any` wrappers. -/
def withoutNonNull : TypeUse → TypeUse
  | nonNull inner => inner.withoutNonNull
  | other => other

/-- The type arguments as written, looked up through all wrappers. -/
def writtenArguments : TypeUse → List TypeUse
  | classRef _ arguments => arguments
  | nullable inner => inner.writtenArguments
  | nonNull inner => inner.writtenArguments
  | projected _ inner => inner.writtenArguments
  | aliased _ inner => inner.writtenArguments
  | _ => []

/-- The annotations of this occurrence in a source set. Nullable and aliased types have
those of the type inside; so has `T & Any`, except for the public nullable annotation. -/
def annotationsAt (sourceSet : String) : TypeUse → List Annotation
  | classRef head _ => head.annotations.at sourceSet
  | parameter head => head.annotations.at sourceSet
  | javaObject own => own.at sourceSet
  | nullable inner => inner.annotationsAt sourceSet
  | aliased _ inner => inner.annotationsAt sourceSet
  | nonNull inner =>
    (inner.annotationsAt sourceSet).filter fun a => a.fullName ≠ publicNullableName
  | _ => []

/-- The annotations of this very occurrence that hold in every source set. -/
def leadingAnnotations : TypeUse → List Annotation
  | classRef head _ => head.annotations.leading
  | parameter head => head.annotations.leading
  | javaObject own => own.leading
  | _ => []

end TypeUse

end Diglot
