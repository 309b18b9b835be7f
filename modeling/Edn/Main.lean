import Edn.CommandLine

/-!
The program: it opens the file, runs the command and prints its report.
-/

namespace Edn

/-- A failure that the system reports. -/
def IoError.ofSystem : IO.Error → IoError
  | .noFileOrDirectory .. => .noSuchFile
  | error => ⟨.other, toString error⟩

/-- What comes of an action, its failures included. -/
def attempt {α : Type} (action : IO α) : IO (Except IoError α) :=
  tryCatch (.ok <$> action) fun error => pure (.error (.ofSystem error))

/-- What opening the file at a path brings. Failures of reading come after opening has gone well. -/
def openFile (path : String) : IO (Except IoError (List Delivery)) := do
  match ← attempt (IO.FS.Handle.mk path .read) with
  | .error error => return .error error
  | .ok handle =>
    match ← attempt handle.readBinToEnd with
    | .error error => return .ok [.failure error]
    | .ok content => return .ok [.bytes content.toList]

/-- How the program is called. -/
def usage : String :=
  "usage: edn [-a|--all] [--print] [-d|--describe] [--edn] PATH"

end Edn

open Edn in
/-- Runs the command on the arguments. -/
def main (arguments : List String) : IO UInt32 := do
  match Options.parse arguments with
  | .run options =>
    match options.run .wraps (← openFile options.path) with
    | .exited code out err =>
      IO.print out
      IO.eprint err
      return code.toUInt32
    | .aborted out =>
      IO.print out
      return 134
  | .about =>
    IO.println usage
    return 0
  | .misuse =>
    IO.eprintln usage
    return 2
