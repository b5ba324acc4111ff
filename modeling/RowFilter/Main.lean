import RowFilter.Command.Program

/-!
# The command line

Reads the standard input and the configuration file where the arguments ask for them, and prints
what `RowFilter.Program.answer` says.
-/

set_option autoImplicit false

namespace RowFilter.Main

open Arguments (Request)

/-- The text of a system error. -/
def fileError : IO.Error → String
  | .noFileOrDirectory _ _ _ => "No such file or directory (os error 2)"
  | .permissionDenied _ _ _ => "Permission denied (os error 13)"
  | .inappropriateType _ _ _ => "Is a directory (os error 21)"
  | e => toString e

/-- The content of a file, or why it cannot be read. -/
def readFile (path : String) : IO (Except String String) := do
  try
    return .ok (← IO.FS.readFile path)
  catch e => return .error (fileError e)

/-- What a request needs from the standard input. -/
def standardInput (r : Request) : IO String :=
  match r with
  | .compile { residual := none, .. } => do (← IO.getStdin).readToEnd
  | _ => return ""

/-- What a request needs from the file system. -/
def configFile (r : Request) : IO (Except String String) :=
  match r with
  | .compile { config := some path, .. } => readFile path
  | _ => return .ok ""

end RowFilter.Main

open RowFilter in
/-- Runs the program. -/
def main (arguments : List String) : IO UInt32 := do
  let request := Arguments.parse arguments
  let stdin ← Main.standardInput request
  let file ← Main.configFile request
  let outcome := Program.answer request stdin fun _ => file
  IO.print outcome.stdout
  IO.eprint outcome.stderr
  return outcome.exit.toUInt32
