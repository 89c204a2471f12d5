import Diglot.Variants

/-!
# Rendering modules

A `Renderer` has a configuration and renders declarations, alone or all those of a
module. A run over a module shares one memo of conversions between its declarations.
-/

namespace Diglot

/-- A declaration with all its signatures. -/
structure RenderedDeclaration where
  /-- simple name -/
  name : String
  /-- identity -/
  identity : Identity
  /-- signatures by source sets -/
  variants : Variants

/-- The text of a rendered declaration. -/
def RenderedDeclaration.text (rendered : RenderedDeclaration) : String :=
  rendered.variants.text

/-- Renders declarations with one configuration. -/
structure Renderer where
  /-- options -/
  config : Config := {}
  /-- leave out default values and visibility -/
  inSummary : Bool := false

/-- Fails with the same cause, named as a failure of the declaration. -/
def RenderError.within (declaration : Declaration) (cause : RenderError) : RenderError :=
  .inDeclaration declaration.name declaration.identity declaration.location cause

/-- The program with its failure, if it comes to one, replaced. -/
def Program.mapError {α : Type} (change : RenderError → RenderError) :
    Program α → Program α
  | .finished (.ok value) => .finished (.ok value)
  | .finished (.error e) => .finished (.error (change e))
  | .lookup key next => .lookup key fun found => (next found).mapError change
  | .enter key form next => .enter key form fun kept => (next kept).mapError change

namespace Renderer

/-- The context of a run, with links to the reference pages. -/
def context (renderer : Renderer) : Context :=
  Context.reference renderer.config.dialect renderer.config

/-- Render one declaration as part of a run. A failure names the declaration. -/
def renderIn (renderer : Renderer) (context : Context) (declaration : Declaration) :
    Program RenderedDeclaration :=
  Program.mapError (RenderError.within declaration) do
    let variants ← renderVariants context declaration renderer.inSummary
    pure ⟨declaration.name, declaration.identity, variants⟩

/-- Render one declaration in a run of its own. -/
def renderDeclaration (renderer : Renderer) (declaration : Declaration) :
    Except RenderError RenderedDeclaration :=
  ((renderer.renderIn renderer.context declaration).run .empty).1

/-- Render the declarations of a module in one run, in their order. The first failure
ends the run. -/
def renderModule (renderer : Renderer) (module : Module) :
    Except RenderError (List RenderedDeclaration) :=
  ((module.declarations.mapM' (renderer.renderIn renderer.context)).run .empty).1

/-- The text of a module: the texts of its declarations, each on a line of its own. -/
def text (rendered : List RenderedDeclaration) : String :=
  Text.joined "\n" (rendered.map RenderedDeclaration.text)

end Renderer

end Diglot
