import Diglot.Declaration
import Diglot.Modifier.Display
import Diglot.Render.Type
import Diglot.Shown.Signature

/-!
# Rendering declarations

`renderSignature` builds the signature that a declaration has in one source set. The
annotations of a declaration are divided: those that belong to types are handed to its
type, the others are displayed on the declaration; the same holds for parameters.
-/

namespace Diglot

/-- Name of a receiver that Java displays as a parameter. -/
def receiverName : String := "receiver"

/-- What the display of the modifiers of a parameter depends on. -/
def Context.parameterModifiers (context : Context) (fromJava : Bool) : ModifierContext :=
  { dialect := context.dialect, element := .parameter, container := none, fromJava }

/-- What the display of the modifiers of a declaration depends on. -/
def Context.declarationModifiers (context : Context) (declaration : Declaration)
    (element : ElementKind) (inSummary : Bool) : ModifierContext :=
  { dialect := context.dialect, element, container := some declaration.container,
    fromJava := declaration.fromJava, inSummary, injectStatic := declaration.injectStatic,
    isConstructor := element = .constructor,
    ofCompanion := declaration.container = .companion }

/-- The displayed name of a declaration, with the link of its identity. -/
def Context.declarationName (context : Context) (declaration : Declaration) : Link :=
  ⟨declaration.name, (context.link declaration.identity).url⟩

/-- Whether a detail is a constructor or a function. -/
def FunctionDetail.element (detail : FunctionDetail) : ElementKind :=
  if detail.isConstructor then .constructor else .function

/-- The displayed default value of a parameter: summaries have none. -/
def Parameter.shownDefault (parameter : Parameter) (inSummary : Bool) (sourceSet : SourceSet) :
    Option String :=
  if inSummary then none else parameter.default.get? sourceSet.name

section

variable {m : Type → Type} [Monad m] [Converting m]

/-- The name that Kotlin displays for a parameter of the given Kotlin type. A function
type may lend its own name to a parameter without one. -/
def parameterName (name : String) (type : TypeUse) : m String := do
  if name = "" then
    if ← attempt type.isFunctionType then
      match type with
      | .classRef head _ => pure (head.shownName.getD "")
      | _ => pure ""
    else pure ""
  else pure name

/-- Show a parameter or a receiver. -/
def renderParameter (context : Context) (parameter : Parameter) (inSummary fromJava : Bool)
    (sourceSet : SourceSet) : m ShownParameter := do
  let own := parameter.annotations.at sourceSet.name
  let carried := Annotation.onType own
  let remaining := Annotation.onDeclaration own
  let modifiers ←
    attempt (Modifier.displayed (context.parameterModifiers fromJava) parameter.modifiers)
  match context.dialect with
  | .java => do
    let implied :=
      parameter.type.nullability .java (some fromJava) parameter.annotations.leading
    let type ← renderType context
      { type := parameter.type, fromJava, sourceSet, carried, imposed := some implied }
    let annotations ← attempt (context.shownAnnotations remaining .unimportant)
    pure ⟨parameter.name.getD receiverName, type, none, modifiers, annotations, .java⟩
  | .kotlin => do
    let converted ← Converting.toKotlin (m := m) parameter.type
    let name ← parameterName (parameter.name.getD "") converted.val
    let type ← renderType context { type := converted.val, fromJava, sourceSet, carried }
    let annotations ← attempt (context.shownAnnotations remaining .unimportant)
    pure ⟨name, type, parameter.shownDefault inSummary sourceSet, modifiers, annotations, .kotlin⟩

/-- Show a declared type parameter. Java does not show the nullability of bounds. -/
def renderTypeParameter (context : Context) (parameter : TypeParameter) (fromJava : Bool)
    (sourceSet : SourceSet) : m ShownTypeParameter := do
  let bounds ← parameter.bounds.mapM' fun bound =>
    let implied :=
      match context.dialect with
      | .java => .unimportant
      | .kotlin => bound.nullability .kotlin (some fromJava) parameter.annotations.leading
    renderType context { type := bound, fromJava, sourceSet, imposed := some implied }
  pure ⟨parameter.name, bounds, context.dialect⟩

/-- Show the type of a property or the return type of a function. -/
def renderDeclaredType (context : Context) (declaration : Declaration) (type : TypeUse)
    (sourceSet : SourceSet) (isReturn : Bool) : m ShownType :=
  let carried := Annotation.onType (declaration.annotations.at sourceSet.name)
  let fromJava := declaration.fromJava
  let implied := type.nullability context.dialect (some fromJava) carried
  renderType context { type, fromJava, sourceSet, carried, isReturn, imposed := some implied }

/-- The modifiers that a declaration displays in a source set. -/
def shownModifiers (context : Context) (declaration : Declaration) (element : ElementKind)
    (sourceSet : SourceSet) (inSummary : Bool) : Except RenderError (List Modifier) :=
  Modifier.displayed (context.declarationModifiers declaration element inSummary)
    (declaration.modifiersAt sourceSet.name)

/-- The annotations that a declaration displays itself in a source set. -/
def declarationAnnotations (context : Context) (declaration : Declaration)
    (sourceSet : SourceSet) : Except RenderError (List ShownAnnotation) :=
  let own := declaration.annotations.at sourceSet.name
  let remaining := Annotation.onDeclaration own
  context.shownAnnotations remaining .unimportant

/-- The signature of a function in a source set. -/
def renderFunction (context : Context) (declaration : Declaration) (detail : FunctionDetail)
    (sourceSet : SourceSet) (inSummary : Bool) : m FunctionSignature := do
  let fromJava := declaration.fromJava
  let modifiers ←
    attempt (shownModifiers context declaration detail.element sourceSet inSummary)
  let returnType ← renderDeclaredType context declaration detail.returnType sourceSet true
  let typeParameters ← detail.typeParameters.mapM' fun parameter =>
    renderTypeParameter context parameter fromJava sourceSet
  let parameters ← detail.parameters.mapM' fun parameter =>
    renderParameter context parameter inSummary fromJava sourceSet
  let receivers ← detail.receiver.toList.mapM' fun parameter =>
    renderParameter context parameter inSummary fromJava sourceSet
  let annotations ← attempt (declarationAnnotations context declaration sourceSet)
  pure
    { dialect := context.dialect
      name := context.declarationName declaration
      modifiers, annotations, typeParameters
      receiver :=
        match context.dialect with
        | .java => none
        | .kotlin => receivers.head?
      parameters :=
        match context.dialect with
        | .java => receivers ++ parameters
        | .kotlin => parameters
      returnType
      isConstructor := detail.isConstructor
      isDeprecated := declaration.isDeprecated }

/-- Show the receiver of a property, if it has one and the language shows it: Java does not. -/
def renderPropertyReceiver (context : Context) (receiver : Option Parameter)
    (inSummary fromJava : Bool) (sourceSet : SourceSet) : m (List ShownParameter) :=
  match context.dialect with
  | .java => pure []
  | .kotlin =>
    receiver.toList.mapM' fun parameter =>
      renderParameter context parameter inSummary fromJava sourceSet

/-- The signature of a property in a source set. -/
def renderProperty (context : Context) (declaration : Declaration) (detail : PropertyDetail)
    (sourceSet : SourceSet) (inSummary : Bool) : m PropertySignature := do
  let modifiers ← attempt (shownModifiers context declaration .property sourceSet inSummary)
  let type ← renderDeclaredType context declaration detail.type sourceSet false
  let receivers ←
    renderPropertyReceiver context detail.receiver inSummary declaration.fromJava sourceSet
  let annotations ← attempt (declarationAnnotations context declaration sourceSet)
  pure
    { dialect := context.dialect
      name := context.declarationName declaration
      modifiers, annotations
      receiver := receivers.head?
      type
      isMutable := detail.isMutable
      constant :=
        if declaration.isConstant detail sourceSet.name then detail.constant else none
      isDeprecated := declaration.isDeprecated }

/-- The signature of a declaration in a source set. -/
def renderSignature (context : Context) (declaration : Declaration) (sourceSet : SourceSet)
    (inSummary : Bool) : m Signature :=
  match declaration.detail with
  | .function detail =>
    Signature.function <$> renderFunction context declaration detail sourceSet inSummary
  | .property detail =>
    Signature.property <$> renderProperty context declaration detail sourceSet inSummary

end

end Diglot
