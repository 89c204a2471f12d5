import Diglot.Modifier.Basic
import Diglot.RenderError

/-!
# Which modifiers are displayed

Compilers report more modifiers than a reader expects: `abstract` on members of
interfaces, `final` on nearly everything. `Modifier.displayed` keeps and adds what a
reader of each language would find in sources, without repetitions and in the order of
display. It fails only in Java, for `const` on something that is not a property.
-/

namespace Diglot.Modifier

/-- The modifier at the end of the list, unless it is there already. -/
def add (modifier : Modifier) (modifiers : List Modifier) : List Modifier :=
  if modifiers.contains modifier then modifiers else modifiers ++ [modifier]

/-- The list without the modifier. -/
def remove (modifier : Modifier) (modifiers : List Modifier) : List Modifier :=
  modifiers.filter (· ≠ modifier)

/-- `change` applied if `condition` holds. -/
def changeIf (condition : Bool) (change : List Modifier → List Modifier)
    (modifiers : List Modifier) : List Modifier :=
  if condition then change modifiers else modifiers

/-- Each modifier once, at its first place. -/
def distinct (modifiers : List Modifier) : List Modifier :=
  modifiers.foldl (fun known modifier => add modifier known) []

/-- Display order: unlisted modifiers as they come, then the listed ones. -/
def ordered (modifiers : List Modifier) : List Modifier :=
  modifiers.filter (fun m => !displayOrder.contains m) ++
    displayOrder.filter fun m => modifiers.contains m

/-- The modifiers of a Java display. Constants are static and final; so are members of
companions and packages static. Members of interfaces are public without saying so, and
those with a body are marked. Constructors are never final. -/
def javaForm (context : ModifierContext) (modifiers : List Modifier) :
    Except RenderError (List Modifier) :=
  let isConst := modifiers.contains const
  if isConst && !context.isProperty then throw (.constOutsideProperty context.element)
  else
    let modifiers := changeIf isConst (fun ms => add final (add static ms)) modifiers
    let modifiers := changeIf context.injectStatic (add static) modifiers
    let modifiers := changeIf context.inInterface (remove publicAccess) modifiers
    let modifiers := changeIf (context.inCompanion || context.inPackage) (add static) modifiers
    let modifiers :=
      changeIf (!modifiers.contains abstractMember && context.inInterface) (add defaultMethod)
        modifiers
    let modifiers :=
      changeIf (context.isConstructor || context.element = .constructor) (remove final) modifiers
    pure (modifiers.filter fun m => !kotlinOnly.contains m)

/-- The modifiers of a Kotlin display. Static final fields of Java classes are constants;
other statics of Java are marked. What is public, or final without overriding, or
abstract in an interface goes without saying. -/
def kotlinForm (context : ModifierContext) (modifiers : List Modifier) : List Modifier :=
  let isField := modifiers.contains static && modifiers.contains final &&
    context.isProperty && context.fromJava
  let modifiers :=
    changeIf isField (fun ms => add const (remove final (remove static ms))) modifiers
  let modifiers := remove publicAccess modifiers
  let modifiers := changeIf (!modifiers.contains override) (remove final) modifiers
  let modifiers := changeIf context.inInterface (remove abstractMember) modifiers
  let isStatic := modifiers.contains static
  let modifiers := remove static modifiers
  let modifiers := changeIf (isStatic && context.fromJava) (add javaStatic) modifiers
  remove override modifiers

/-- The modifiers to display, of those that were reported. -/
def displayed (context : ModifierContext) (reported : List Modifier) :
    Except RenderError (List Modifier) := do
  let modifiers ←
    match context.dialect with
    | .java => javaForm context (distinct reported)
    | .kotlin => pure (kotlinForm context (distinct reported))
  let modifiers :=
    changeIf context.inSummary (fun ms => remove protectedAccess (remove publicAccess ms))
      modifiers
  pure (ordered modifiers)

/-- Modifiers divided by spaces. -/
def textList (modifiers : List Modifier) : String :=
  Text.joined " " (modifiers.map keyword)

end Diglot.Modifier
