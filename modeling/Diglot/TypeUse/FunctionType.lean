import Diglot.RenderError
import Diglot.TypeUse.Basic

/-!
# Function types

Kotlin displays function types in a form of their own. Which types are function types
is decided by the class, below all `T & Any` wrappers: the functional form marks
suspending ones, and otherwise the name of the class does. The question has no answer
for the dynamic type.
-/

namespace Diglot.TypeUse

/-- Whether the type is a suspending function type. -/
def isSuspending (type : TypeUse) : Except RenderError Bool :=
  match type.withoutNonNull with
  | dynamic => throw (.unsupported .suspension .dynamic)
  | classRef head _ =>
    match head.form with
    | .functional _ true => pure true
    | _ =>
      pure (head.identity.package = "kotlin.coroutines" &&
        Text.startsWith head.identity.className "SuspendFunction")
  | _ => pure false

/-- Whether the type is a function type, suspending or not. -/
def isFunctionType (type : TypeUse) : Except RenderError Bool := do
  if ← type.isSuspending then pure true
  else
    match type.withoutNonNull with
    | classRef head _ =>
      pure (head.identity.package = "kotlin" &&
        Text.startsWith head.identity.className "Function")
    | _ => pure false

end Diglot.TypeUse
