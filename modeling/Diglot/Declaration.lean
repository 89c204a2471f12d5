import Diglot.Modifier.Basic
import Diglot.SourceSet
import Diglot.TypeUse.Equality

/-!
# Declarations

A module lists the functions and properties that are documented. What can differ from
one source set to the next (annotations, modifiers, default values) is kept by source
set; types and names are shared by all of them.
-/

namespace Diglot

/-- A parameter of a function, or the receiver of an extension. -/
structure Parameter where
  /-- declared name; receivers have none -/
  name : Option String := none
  /-- declared type -/
  type : TypeUse
  /-- annotations on the parameter -/
  annotations : SourcedAnnotations := ∅
  /-- default value, as written -/
  default : BySourceSet String := ∅
  /-- modifiers such as `vararg` -/
  modifiers : List Modifier := []
deriving DecidableEq

/-- A declared type parameter. -/
structure TypeParameter where
  /-- its name -/
  name : String
  /-- upper bounds -/
  bounds : List TypeUse := []
  /-- annotations on the declaration of the parameter -/
  annotations : SourcedAnnotations := ∅
deriving DecidableEq

/-- What a function or a constructor has besides the properties of every declaration. -/
structure FunctionDetail where
  /-- receiver of an extension -/
  receiver : Option Parameter := none
  /-- declared type parameters -/
  typeParameters : List TypeParameter := []
  /-- parameters -/
  parameters : List Parameter := []
  /-- type of the result -/
  returnType : TypeUse
  /-- whether it is a constructor -/
  isConstructor : Bool := false
deriving DecidableEq

/-- What a property or a field has besides the properties of every declaration. -/
structure PropertyDetail where
  /-- receiver of an extension -/
  receiver : Option Parameter := none
  /-- declared type -/
  type : TypeUse
  /-- `var` and not `val` -/
  isMutable : Bool := false
  /-- constant value, if it is known -/
  constant : Option String := none
  /-- whether it is read through a getter -/
  hasGetter : Bool := false
deriving DecidableEq

/-- The part in which functions and properties differ. -/
inductive DeclarationDetail where
  | function (detail : FunctionDetail)
  | property (detail : PropertyDetail)
deriving DecidableEq

/-- A documented function or property. -/
structure Declaration where
  /-- its identity -/
  identity : Identity
  /-- simple name -/
  name : String
  /-- the source sets that have the declaration -/
  sourceSets : List SourceSet
  /-- name of the source set with the `expect` declaration -/
  expectIn : Option String := none
  /-- it comes from Java sources -/
  fromJava : Bool := false
  /-- kind of the enclosing element -/
  container : ContainerKind := .classType
  /-- it is made static by an annotation -/
  injectStatic : Bool := false
  /-- annotations, by source set -/
  annotations : SourcedAnnotations := ∅
  /-- reported modifiers, by source set -/
  modifiers : BySourceSet (List Modifier) := ∅
  /-- place in the sources, for error messages -/
  location : Option String := none
  /-- function or property -/
  detail : DeclarationDetail
deriving DecidableEq

namespace Declaration

/-- The modifiers reported in a source set. -/
def modifiersAt (declaration : Declaration) (sourceSet : String) : List Modifier :=
  (declaration.modifiers.get? sourceSet).getD []

/-- Whether the declaration is deprecated in some source set. -/
def isDeprecated (declaration : Declaration) : Bool :=
  declaration.annotations.values.any fun annotations => annotations.any Annotation.isDeprecation

/-- Whether the property of a declaration is a constant whose value is shown. Static
final fields of Java count, unless they are read through a getter. -/
def isConstant (declaration : Declaration) (property : PropertyDetail) (sourceSet : String) :
    Bool :=
  let modifiers := declaration.modifiersAt sourceSet
  modifiers.contains .const ||
    (declaration.fromJava && modifiers.contains .static && modifiers.contains .final &&
      !property.hasGetter)

/-- The source set marked as the common one: that of the `expect` declaration, or the
only one for the common platform, or the first with a name for common code. -/
def commonSourceSet? (declaration : Declaration) : Option SourceSet :=
  let expected :=
    declaration.expectIn.bind fun name => declaration.sourceSets.find? (·.name = name)
  let shared :=
    match declaration.sourceSets.filter (·.platform = .common) with
    | [only] => some only
    | _ => none
  let named :=
    declaration.sourceSets.find? fun sourceSet =>
      Text.sameIgnoringCase sourceSet.name "common" ||
        Text.sameIgnoringCase sourceSet.name "commonMain"
  expected.or (shared.or named)

/-- Names of source sets that may stand for all of them, in order of preference, where
none is marked as common. -/
def fallbackNames : List String := ["jvmMain", "androidMain", "desktopMain"]

/-- The source set in which a declaration is seen if only one can be shown. There is one
unless the declaration is in no source set. -/
def mainSourceSet? (declaration : Declaration) : Option SourceSet :=
  match declaration.sourceSets with
  | [only] => some only
  | sourceSets =>
    let fallback :=
      fallbackNames.findSome? fun name => sourceSets.find? (·.name = name)
    declaration.commonSourceSet?.or (fallback.or sourceSets.head?)

end Declaration

/-- A module, the unit that is rendered at once. -/
structure Module where
  /-- its name -/
  name : String
  /-- what is declared in it -/
  declarations : List Declaration := []
deriving DecidableEq

end Diglot
