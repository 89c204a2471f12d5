import Diglot.Modifier.Basic
import Diglot.TypeUse.Basic

/-!
# Why a declaration cannot be rendered

Every failure of the renderer is a `RenderError`, and `RenderError.message` words it.
-/

namespace Diglot

/-- The steps at which a type use can turn out to be of the wrong kind. -/
inductive Stage where
  /-- naming and linking the type -/
  | link
  /-- telling whether the type is a suspending function type -/
  | suspension
  /-- taking a function type apart -/
  | lambda
deriving DecidableEq

/-- Name of a step in error messages. -/
def Stage.label : Stage → String
  | .link => "to_link"
  | .suspension => "is_suspend"
  | .lambda => "lambda"

/-- A reason why a declaration, or a part of one, cannot be rendered. -/
inductive RenderError where
  /-- a type use of a kind that a step has no rule for -/
  | unsupported (stage : Stage) (shape : TypeShape)
  /-- the dynamic type as the element of a Java array -/
  | dynamicArrayElement
  /-- a nullability annotation that the configuration does not accept -/
  | invalidNullability (name : String)
  /-- the modifier `const` on something that is not a property -/
  | constOutsideProperty (element : ElementKind)
  /-- a declaration that is in no source set -/
  | noSourceSets (identity : Identity)
  /-- a failure within a declaration -/
  | inDeclaration (name : String) (identity : Identity) (location : Option String)
      (cause : RenderError)
deriving DecidableEq

/-- The text of an error. -/
def RenderError.message : RenderError → String
  | .unsupported stage shape =>
    "Unsupported projection in " ++ stage.label ++ ": " ++ shape.label
  | .dynamicArrayElement => "Cannot name a dynamic type as a Java array element"
  | .invalidNullability name =>
    "Nullability annotation " ++ name ++ " is not one of the configured valid annotations"
  | .constOutsideProperty element => "'const' on " ++ element.label ++ "?"
  | .noSourceSets identity => "No source sets for " ++ identity.text
  | .inDeclaration name identity location cause =>
    "Failed to render " ++ name ++ " (" ++ identity.text ++ ")" ++
      (match location with
        | some place => " at " ++ place
        | none => "") ++
      ": " ++ cause.message

end Diglot
