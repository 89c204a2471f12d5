import Diglot.CommandLine

/-!
# The program

Reads the files that a call needs, runs the command line, and prints how it ends.
-/

namespace Diglot

/-- Why the system could not read a file. -/
def FileError.ofSystem : IO.Error → FileError
  | .noFileOrDirectory .. => .notFound
  | .inappropriateType _ code _ => if code = 21 then .isDirectory else .notDirectory
  | .permissionDenied .. => .notPermitted
  | error => .other (toString error)

/-- The answer of the system to a path. -/
def systemFile (path : String) : IO (Except FileError String) := do
  try
    let bytes ← IO.FS.readBinFile path
    match String.fromUTF8? bytes with
    | some text => return .ok text
    | none => return .error .notText
  catch error => return .error (.ofSystem error)

/-- How the arguments are used. -/
def usage : String :=
  "usage: diglot [--language java|kotlin] [--format text|json] [--config FILE] " ++
    "[--root-path PATH] [--summary] [--qualified-arrays] INPUT"

end Diglot

open Diglot

/-- Reads every file that the arguments may name, and runs the command line on them. -/
def main (arguments : List String) : IO UInt32 := do
  let environment ← IO.getEnv "DUALSIG_LANGUAGE"
  let files ←
    match CommandLine.Request.ofArguments? environment arguments with
    | some request =>
      (request.input :: request.config.toList).mapM fun path => do
        return (path, ← systemFile path)
    | none => pure []
  let outcome :=
    CommandLine.run (fun path => (files.lookup path).getD (.error .notFound)) environment
      arguments
  match outcome with
  | .printed text => IO.println text
  | .failed failure => IO.eprintln failure.message
  | .misuse => IO.eprintln usage
  return UInt32.ofNat outcome.exitCode
