import Diglot.Identity
import Diglot.Primitive

/-!
# Classes that both standard libraries have

The standard libraries of Kotlin and Java have many classes that are the same class
under two names. `Identity.toJava` and `Identity.toKotlin` replace one name by the
other; an identity that is in neither table stays as it is, and a member keeps its
name. Some Kotlin classes have a Java name that leads back to a different Kotlin class:
the mutable collections, which Java does not tell from the read-only ones, and
`Nothing`.
-/

namespace Diglot

/-- A class under its Kotlin and its Java name, each with its package. -/
structure MappedClass where
  /-- package and class path in Kotlin -/
  kotlin : String × String
  /-- package and class path in Java -/
  java : String × String

/-- A Kotlin collection interface with its mutable counterpart. In Java it is one
interface with the name of the read-only one. -/
structure MappedCollection where
  /-- class path of the read-only interface -/
  name : String
  /-- class path of the mutable interface -/
  mutableName : String
  /-- Java package of the interface -/
  javaPackage : String

/-- Package of the Kotlin collections. -/
def collectionsPackage : String := "kotlin.collections"

/-- The collection interfaces that both languages have. -/
def mappedCollections : List MappedCollection :=
  [⟨"Iterator", "MutableIterator", "java.util"⟩,
    ⟨"Iterable", "MutableIterable", "java.lang"⟩,
    ⟨"Collection", "MutableCollection", "java.util"⟩,
    ⟨"Set", "MutableSet", "java.util"⟩,
    ⟨"List", "MutableList", "java.util"⟩,
    ⟨"ListIterator", "MutableListIterator", "java.util"⟩,
    ⟨"Map", "MutableMap", "java.util"⟩,
    ⟨"Map.Entry", "MutableMap.MutableEntry", "java.util"⟩]

/-- Classes of package `kotlin` that have the same name in `java.lang`. -/
def sharedNames : List String :=
  ["String", "CharSequence", "Throwable", "Cloneable", "Number", "Comparable", "Enum",
    "Deprecated"]

/-- The function types that exist on the Java virtual machine. -/
def functionNames : List String :=
  ["Function0", "Function1", "Function2", "Function3", "Function4", "Function5",
    "Function6", "Function7", "Function8", "Function9", "Function10", "Function11",
    "Function12", "Function13", "Function14", "Function15", "Function16", "Function17",
    "Function18", "Function19", "Function20", "Function21", "Function22"]

/-- The classes of which each of the two names leads to the other. -/
def mappedBothWays : List MappedClass :=
  ⟨("kotlin", "Any"), ("java.lang", "Object")⟩ ::
  ⟨("kotlin", "Annotation"), ("java.lang.annotation", "Annotation")⟩ ::
  sharedNames.map (fun name => ⟨("kotlin", name), ("java.lang", name)⟩) ++
  mappedCollections.map (fun c => ⟨(collectionsPackage, c.name), (c.javaPackage, c.name)⟩) ++
  Primitive.all.map (fun p => ⟨("kotlin", p.kotlinName), ("java.lang", p.boxName)⟩) ++
  functionNames.map (fun name => ⟨("kotlin", name), ("kotlin.jvm.functions", name)⟩)

/-- The Kotlin classes that have a Java name which does not lead back to them. -/
def mappedToJavaOnly : List MappedClass :=
  ⟨("kotlin", "Nothing"), ("java.lang", "Void")⟩ ::
  mappedCollections.map
    (fun c => ⟨(collectionsPackage, c.mutableName), (c.javaPackage, c.name)⟩)

namespace Identity

/-- The identity with another package and class path, and the same member. -/
def renamed (identity : Identity) (name : String × String) : Identity :=
  { identity with package := name.1, classNames := some name.2 }

/-- The Java name of a Kotlin standard library class, or the identity itself. -/
def toJava (identity : Identity) : Identity :=
  match identity.classNames with
  | none => identity
  | some name =>
    match (mappedBothWays ++ mappedToJavaOnly).find?
        fun m => m.kotlin = (identity.package, name) with
    | some m => identity.renamed m.java
    | none => identity

/-- The Kotlin name of a Java standard library class, or the identity itself. -/
def toKotlin (identity : Identity) : Identity :=
  match identity.classNames with
  | none => identity
  | some name =>
    match mappedBothWays.find? fun m => m.java = (identity.package, name) with
    | some m => identity.renamed m.kotlin
    | none => identity

/-- The mutable counterpart of a read-only Kotlin collection that Java sees as one with
it; none for any other identity. -/
def mutableCounterpart? (identity : Identity) : Option Identity :=
  if identity.package = collectionsPackage then
    match identity.classNames with
    | none => none
    | some name =>
      (mappedCollections.find? (·.name = name)).map
        fun c => ofClass collectionsPackage c.mutableName
  else none

end Identity

end Diglot
