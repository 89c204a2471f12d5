import Diglot.Config
import Diglot.Nullability
import Diglot.RenderError
import Diglot.Shown.Type
import Diglot.Text.Uppercase

/-!
# What rendering depends on

A `Context` fixes the language of the display, the configuration and the links. This
module also renders what depends on nothing else: annotations, and the name and link of
a type that is not a wrapper.
-/

namespace Diglot

/-- What a rendering run depends on. -/
structure Context where
  /-- the language of the display -/
  dialect : Dialect
  /-- options -/
  config : Config
  /-- links of identities -/
  link : Identity → Link

namespace Context

/-- The context for a configuration, with links to the reference pages. -/
def reference (dialect : Dialect) (config : Config) : Context :=
  { dialect, config, link := Link.reference config.rootPath dialect }

mutual

/-- An argument value as it is displayed, under the name of its parameter. -/
def shownArgument (context : Context) (name : String) : AnnotationValue → ShownArgument
  | .array elements => .array name (context.shownElements elements)
  | .nested inner => .nested name (context.shownAnnotation inner)
  | .string text => .value name (AnnotationValue.string text).text
  | .literal text => .value name (AnnotationValue.literal text).text
  | .enumConstant text => .value name (AnnotationValue.enumConstant text).text
  | .classLiteral text => .value name (AnnotationValue.classLiteral text).text

/-- The elements of an array as they are displayed, without names. -/
def shownElements (context : Context) : List AnnotationValue → List ShownArgument
  | [] => []
  | value :: rest => context.shownArgument "" value :: context.shownElements rest

/-- Arguments as they are displayed. -/
def shownArguments (context : Context) : List AnnotationArgument → List ShownArgument
  | [] => []
  | ⟨name, value⟩ :: rest => context.shownArgument name value :: context.shownArguments rest

/-- An annotation as it is displayed. -/
def shownAnnotation (context : Context) : Annotation → ShownAnnotation
  | ⟨identity, arguments⟩ => ⟨context.link identity, context.shownArguments arguments⟩

end

/-- Whether an annotation is of no interest to a reader, whatever the nullability: it
suppresses warnings, speaks to the compiler, marks deprecation, or is excluded or hidden
by the configuration. -/
def isNoise (context : Context) (a : Annotation) : Bool :=
  a.isSuppression || a.isInterop || a.isDeprecation ||
    context.config.isExcluded context.dialect a.fullName || context.config.isHidden a.fullName

/-- Whether an annotation is displayed on an element of the given nullability. Kotlin has
its own way to show nullability. -/
def isShown (context : Context) (nullability : Nullability) (a : Annotation) : Bool :=
  !context.isNoise a &&
    !(a.isNullability && (nullability = .unimportant || context.dialect = .kotlin))

/-- The annotations displayed on an element of the given nullability. In Java an element
that is not null is annotated as such, unless it has a nullability annotation. One that
the configuration does not accept is an error, displayed or not. -/
def shownAnnotations (context : Context) (annotations : List Annotation)
    (nullability : Nullability) : Except RenderError (List ShownAnnotation) :=
  let forms := annotations.map Annotation.publicForm
  match forms.find? fun a =>
      a.isNullability && !context.config.isValidNullability a.fullName with
  | some a => throw (.invalidNullability a.fullName)
  | none =>
    let injected :=
      if context.dialect = .java && !forms.any Annotation.isNullability then
        nullability.javaAnnotation?.toList
      else []
    let listed := Annotation.distinct (forms ++ injected)
    pure ((listed.filter (context.isShown nullability)).map context.shownAnnotation)

/-- The name and link of a type. What stands below a nullable wrapper has `?` after the
name of a type parameter; otherwise `suffix` stands there. Dynamic types, aliases and
projections have no link of their own. -/
def typeLink (context : Context) (suffix : String) : TypeUse → Except RenderError Link
  | .classRef head _ => pure (context.link head.identity)
  | .parameter head => pure (.unlinked (head.shownName.getD head.name ++ suffix))
  | .star =>
    pure (.unlinked (match context.dialect with
      | .java => "?"
      | .kotlin => "*"))
  | .void =>
    pure (match context.dialect with
      | .java => .unlinked "void"
      | .kotlin => context.link (.ofClass "kotlin" "Unit"))
  | .javaObject _ =>
    pure (match context.dialect with
      | .java => context.link (.ofClass "java.lang" "Object")
      | .kotlin => context.link (.ofClass "kotlin" "Any"))
  | .primitive name =>
    pure (match context.dialect with
      | .java => .unlinked name
      | .kotlin => context.link (.ofClass "kotlin" (Text.capitalized name)))
  | .unresolved name => pure (.unlinked name)
  | .nullable inner => context.typeLink "?" inner
  | .nonNull inner => context.typeLink "" inner
  | .dynamic => throw (.unsupported .link .dynamic)
  | .aliased .. => throw (.unsupported .link .aliased)
  | .projected .. => throw (.unsupported .link .projected)

end Context

end Diglot
