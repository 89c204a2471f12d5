import Diglot.Dialect

/-!
# Modifiers

The keywords that a declaration may carry in either language, with the order in which
they are displayed, and what the rules for displaying them look at.
-/

namespace Diglot

/-- A modifier of a declaration or of a parameter. -/
inductive Modifier where
  | publicAccess
  | protectedAccess
  | privateAccess
  | internalAccess
  | expect
  | actual
  | static
  /-- a static member of a Java class, displayed in Kotlin -/
  | javaStatic
  | final
  | openMember
  | abstractMember
  | sealed
  | const
  | external
  | override
  | lateinit
  | tailrec
  | vararg
  | suspend
  | inner
  | enumClass
  | annotationClass
  | funInterface
  | companion
  | inlined
  | infixCall
  | operator
  | dataClass
  | noinline
  | crossinline
  | reified
  | valueClass
  /-- a Java interface method with a body -/
  | defaultMethod
  | transient
  | volatile
  | synchronized
  | native
  | strictfp
deriving DecidableEq

namespace Modifier

/-- All modifiers. -/
def all : List Modifier :=
  [publicAccess, protectedAccess, privateAccess, internalAccess, expect, actual, static,
    javaStatic, final, openMember, abstractMember, sealed, const, external, override,
    lateinit, tailrec, vararg, suspend, inner, enumClass, annotationClass, funInterface,
    companion, inlined, infixCall, operator, dataClass, noinline, crossinline, reified,
    valueClass, defaultMethod, transient, volatile, synchronized, native, strictfp]

/-- The keyword of a modifier. -/
def keyword : Modifier → String
  | publicAccess => "public"
  | protectedAccess => "protected"
  | privateAccess => "private"
  | internalAccess => "internal"
  | expect => "expect"
  | actual => "actual"
  | static => "static"
  | javaStatic => "java-static"
  | final => "final"
  | openMember => "open"
  | abstractMember => "abstract"
  | sealed => "sealed"
  | const => "const"
  | external => "external"
  | override => "override"
  | lateinit => "lateinit"
  | tailrec => "tailrec"
  | vararg => "vararg"
  | suspend => "suspend"
  | inner => "inner"
  | enumClass => "enum"
  | annotationClass => "annotation"
  | funInterface => "fun"
  | companion => "companion"
  | inlined => "inline"
  | infixCall => "infix"
  | operator => "operator"
  | dataClass => "data"
  | noinline => "noinline"
  | crossinline => "crossinline"
  | reified => "reified"
  | valueClass => "value"
  | defaultMethod => "default"
  | transient => "transient"
  | volatile => "volatile"
  | synchronized => "synchronized"
  | native => "native"
  | strictfp => "strictfp"

/-- The order in which modifiers are displayed: visibility, multiplatform, scope,
extension by subclasses, other, kinds of types, and the rest. Modifiers that are not
listed come before all others. -/
def displayOrder : List Modifier :=
  [publicAccess, protectedAccess, privateAccess, internalAccess, expect, actual, static,
    javaStatic, final, openMember, abstractMember, sealed, const, external, override,
    lateinit, tailrec, vararg, suspend, inner, enumClass, annotationClass, funInterface,
    companion, inlined, infixCall, operator, dataClass, noinline, crossinline]

/-- Position of a modifier in the order of display, if it is listed there. -/
def orderIndex? (modifier : Modifier) : Option Nat :=
  displayOrder.findIdx? (· = modifier)

/-- The modifiers that Java does not have. -/
def kotlinOnly : List Modifier :=
  [suspend, inlined, noinline, crossinline, reified, operator, override, openMember, const,
    infixCall, dataClass]

end Modifier

/-- The kind of element that encloses a declaration. -/
inductive ContainerKind where
  /-- the top level of a package -/
  | package
  /-- an ordinary class -/
  | classType
  /-- an interface -/
  | interface
  /-- a Kotlin object -/
  | object
  /-- a companion object -/
  | companion
  /-- an enum class -/
  | enumType
  /-- an annotation class -/
  | annotationType
deriving DecidableEq

namespace ContainerKind

/-- The kinds in the order of the model format. -/
def all : List ContainerKind :=
  [package, classType, interface, object, companion, enumType, annotationType]

/-- Name in the model format. -/
def label : ContainerKind → String
  | package => "package"
  | classType => "class"
  | interface => "interface"
  | object => "object"
  | companion => "companion"
  | enumType => "enum"
  | annotationType => "annotation"

end ContainerKind

/-- The kind of element whose modifiers are displayed. -/
inductive ElementKind where
  | function
  | constructor
  | property
  | parameter
deriving DecidableEq

namespace ElementKind

/-- All kinds of elements. -/
def all : List ElementKind := [function, constructor, property, parameter]

/-- Name of the kind in error messages. -/
def label : ElementKind → String
  | function => "function"
  | constructor => "constructor"
  | property => "property"
  | parameter => "parameter"

end ElementKind

/-- What the display of modifiers depends on besides the modifiers. -/
structure ModifierContext where
  /-- the language of the display -/
  dialect : Dialect
  /-- kind of the element -/
  element : ElementKind
  /-- kind of the enclosing element, where it is known -/
  container : Option ContainerKind
  /-- the element comes from Java sources -/
  fromJava : Bool := false
  /-- the display is a summary -/
  inSummary : Bool := false
  /-- the element is made static by an annotation -/
  injectStatic : Bool := false
  /-- the element is a constructor -/
  isConstructor : Bool := false
  /-- the element is a member of a companion object -/
  ofCompanion : Bool := false

namespace ModifierContext

/-- Whether the element is a member of an interface. -/
def inInterface (context : ModifierContext) : Bool :=
  context.container = some .interface

/-- Whether the element is a member of a companion object. -/
def inCompanion (context : ModifierContext) : Bool :=
  context.ofCompanion || context.container = some .companion

/-- Whether the element stands at the top level of a package. -/
def inPackage (context : ModifierContext) : Bool :=
  context.container = some .package

/-- Whether the element is a property or a field. -/
def isProperty (context : ModifierContext) : Bool :=
  context.element = .property

end ModifierContext

end Diglot
