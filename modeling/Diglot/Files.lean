import Diglot.Format.Config
import Diglot.Format.Declaration
import Diglot.Renderer

/-!
# Working on files

Modules and configurations are read from files. A file system is any function that
answers a path with a text or with the reason why there is none.
-/

namespace Diglot

/-- A reason why a file cannot be read. -/
inductive FileError where
  /-- there is no such file -/
  | notFound
  /-- a part of the path is not a directory -/
  | notDirectory
  /-- the path leads to a directory -/
  | isDirectory
  /-- a name is too long -/
  | nameTooLong
  /-- reading is not permitted -/
  | notPermitted
  /-- the contents are not a text -/
  | notText
  /-- any other reason, in the words of the system -/
  | other (reason : String)
deriving DecidableEq

/-- The text of a reason, with the number that the system gives to it. -/
def FileError.message : FileError → String
  | notFound => "No such file or directory (os error 2)"
  | notDirectory => "Not a directory (os error 20)"
  | isDirectory => "Is a directory (os error 21)"
  | nameTooLong => "File name too long (os error 36)"
  | notPermitted => "Permission denied (os error 13)"
  | notText => "stream did not contain valid UTF-8"
  | other reason => reason

/-- The answer of a file system to a path. -/
abbrev FileSystem := String → Except FileError String

/-- A reason why a module file cannot be rendered. -/
inductive Failure where
  /-- a file cannot be read -/
  | file (error : FileError)
  /-- the contents of a file do not stand for a value -/
  | document (error : DecodeError)
  /-- a declaration cannot be rendered -/
  | render (error : RenderError)

/-- The text of a failure. -/
def Failure.message : Failure → String
  | file error => "Failed to read file: " ++ error.message
  | document error =>
    "Failed to parse JSON: " ++ error.message?.getD "not a document of the expected form"
  | render error => error.message

/-- The value that is decoded from the text of a file. -/
def readDecoded {α : Type} (files : FileSystem) (decode : String → Decoded α) (path : String) :
    Except Failure α := do
  let text ← (files path).mapError .file
  (decode text).mapError .document

/-- The configuration in a file. -/
def Config.load (files : FileSystem) (path : String) : Except Failure Config :=
  readDecoded files ofText path

/-- The module in a file. -/
def Module.load (files : FileSystem) (path : String) : Except Failure Module :=
  readDecoded files ofText path

/-- The rendered declarations of the module in a file. -/
def Renderer.renderFile (renderer : Renderer) (files : FileSystem) (path : String) :
    Except Failure (List RenderedDeclaration) := do
  let module ← Module.load files path
  (renderer.renderModule module).mapError .render

end Diglot
