import Diglot.Files
import Diglot.Format.Signature
import Diglot.Json.Writer

/-!
# The command line

The arguments name one module file to render, with options in any place. An option that
takes a value has it in the next argument, or behind `=`. No option may be given twice,
and after `--` no argument is an option. What the options leave open comes from the
configuration file; the language may also come from the environment, which is between the
two.
-/

namespace Diglot.CommandLine

/-- How rendered declarations are written. -/
inductive OutputFormat where
  /-- one text for each declaration -/
  | text
  /-- a document with all that is known of the signatures -/
  | json

/-- The arguments as they are given. -/
structure Arguments where
  /-- path of the module file -/
  input : Option String := none
  /-- value of `--language` -/
  language : Option String := none
  /-- value of `--format` -/
  format : Option String := none
  /-- value of `--config` -/
  config : Option String := none
  /-- value of `--root-path` -/
  rootPath : Option String := none
  /-- whether `--summary` is given -/
  summary : Bool := false
  /-- whether `--qualified-arrays` is given -/
  qualifiedArrays : Bool := false

namespace Arguments

/-- Fill a slot that may be filled once. -/
def fill (slot : Option String) (value : String) : Option (Option String) :=
  if slot.isSome then none else some (some value)

/-- Give an option its value. -/
def setOption (arguments : Arguments) (name value : String) : Option Arguments :=
  match name with
  | "--language" => do pure { arguments with language := ← fill arguments.language value }
  | "--format" => do pure { arguments with format := ← fill arguments.format value }
  | "--config" => do pure { arguments with config := ← fill arguments.config value }
  | "--root-path" => do pure { arguments with rootPath := ← fill arguments.rootPath value }
  | _ => none

/-- Give an option that has no value. -/
def setFlag (arguments : Arguments) (name : String) : Option Arguments :=
  match name with
  | "--summary" => if arguments.summary then none else some { arguments with summary := true }
  | "--qualified-arrays" =>
    if arguments.qualifiedArrays then none else some { arguments with qualifiedArrays := true }
  | _ => none

/-- Give the path of the module file. -/
def setInput (arguments : Arguments) (path : String) : Option Arguments := do
  pure { arguments with input := ← fill arguments.input path }

/-- Whether an argument looks like an option. A hyphen alone does not. -/
def isOption (argument : String) : Bool :=
  Text.startsWith argument "-" && argument ≠ "-"

/-- The name of an option and the value behind `=`, if there is one. -/
def splitOption (argument : String) : String × Option String :=
  match argument.toList.span (· ≠ '=') with
  | (_, []) => (argument, none)
  | (name, _ :: value) => (String.ofList name, some (String.ofList value))

/-- Collect the arguments; none if they are not used as they should be. -/
def collect (arguments : Arguments) : List String → Option Arguments
  | [] => some arguments
  | argument :: rest =>
    if argument = "--" then rest.foldlM setInput arguments
    else if isOption argument then
      match splitOption argument with
      | (name, some value) => do
        let arguments ← arguments.setOption name value
        collect arguments rest
      | (name, none) =>
        match arguments.setFlag name, rest with
        | some arguments, rest => collect arguments rest
        | none, value :: rest =>
          if isOption value then none
          else do
            let arguments ← arguments.setOption name value
            collect arguments rest
        | none, [] => none
    else do
      let arguments ← arguments.setInput argument
      collect arguments rest

end Arguments

/-- What a call asks for. -/
structure Request where
  /-- path of the module file -/
  input : String
  /-- the language, if it is given -/
  dialect : Option Dialect
  /-- how the result is written -/
  format : OutputFormat
  /-- path of the configuration file -/
  config : Option String
  /-- what link paths start with, if it is given -/
  rootPath : Option String
  /-- render summaries -/
  summary : Bool
  /-- name elements of arrays with their packages -/
  qualifiedArrays : Bool

/-- The formats with their names. -/
def OutputFormat.names : List (String × OutputFormat) := [("text", text), ("json", json)]

/-- The request that arguments make, with the language that the environment gives; none if
they are not used as they should be. -/
def Request.ofArguments? (environment : Option String) (arguments : List String) :
    Option Request := do
  let given ← Arguments.collect {} arguments
  let input ← given.input
  let dialect ←
    match given.language.or environment with
    | some name => (Dialect.names.lookup name).map some
    | none => some none
  let format ← OutputFormat.names.lookup (given.format.getD "text")
  pure
    { input, dialect, format
      config := given.config
      rootPath := given.rootPath
      summary := given.summary
      qualifiedArrays := given.qualifiedArrays }

/-- The renderer that a request asks for. -/
def Request.renderer (request : Request) (files : FileSystem) : Except Failure Renderer := do
  let config ←
    match request.config with
    | some path => Config.load files path
    | none => pure {}
  pure
    { config :=
        { config with
          dialect := request.dialect.getD config.dialect
          rootPath := request.rootPath.getD config.rootPath
          qualifiedArrays := request.qualifiedArrays || config.qualifiedArrays }
      inSummary := request.summary }

/-- What a request is answered with. -/
def Request.answer (request : Request) (files : FileSystem) : Except Failure String := do
  let renderer ← request.renderer files
  let rendered ← renderer.renderFile files request.input
  match request.format with
  | .text => pure (Renderer.text rendered)
  | .json => pure (Json.array (rendered.map RenderedDeclaration.toJson)).pretty

/-- How a call ends. -/
inductive Outcome where
  /-- the arguments are not used as they should be -/
  | misuse
  /-- the request fails -/
  | failed (failure : Failure)
  /-- the text is printed, on lines of its own -/
  | printed (text : String)

/-- The exit code of a call. -/
def Outcome.exitCode : Outcome → Nat
  | misuse => 2
  | failed _ => 1
  | printed _ => 0

/-- Run the command line. -/
def run (files : FileSystem) (environment : Option String) (arguments : List String) :
    Outcome :=
  match Request.ofArguments? environment arguments with
  | none => .misuse
  | some request =>
    match request.answer files with
    | .error failure => .failed failure
    | .ok text => .printed text

end Diglot.CommandLine
