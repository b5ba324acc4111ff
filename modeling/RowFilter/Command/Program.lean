import RowFilter.Command.Arguments

/-!
# The program

The program as a function: from its arguments, its standard input and the files it can read to what
it prints and how it exits.  It exits with zero on success, with one on an error of the command, and
with two if its arguments make no sense.
-/

set_option autoImplicit false

namespace RowFilter.Program

open Arguments (CompileArguments Request)

/-- What a run of the program leaves behind. -/
structure Outcome where
  /-- The exit code. -/
  exit : Nat
  /-- What is printed. -/
  stdout : String := ""
  /-- What is printed as an error. -/
  stderr : String := ""
deriving Repr, DecidableEq

/-- How the program is used. -/
def usage : String :=
  "Compile partially evaluated Rego policies into SQL WHERE predicates\n\n" ++
  "Usage: regosql [OPTIONS] compile [OPTIONS] [RESIDUAL]\n\n" ++
  "Arguments:\n" ++
  "  [RESIDUAL]             Residual queries (reads from stdin if not provided)\n\n" ++
  "Options:\n" ++
  "  -c, --config <CONFIG>  JSON configuration file (built-in columns if not provided)\n" ++
  "  -f, --format <FORMAT>  Residual encoding: auto, json, text\n" ++
  "      --syntax-only      Only validate the residual, don't compile\n" ++
  "  -v, --verbose          Log compilation steps\n" ++
  "  -h, --help             Print help\n"

/-- The version of the program. -/
def version : String := "regosql 0.1.0\n"

/-- The answer to `compile`, given the standard input and a way to read files. -/
def compile (a : CompileArguments) (stdin : String) (readFile : String → Except String String) :
    Except CommandError Command.Answer := do
  let config ← match a.config with
    | none => .ok none
    | some path =>
      match readFile path with
      | .ok text => .ok (some text)
      | .error e => .error (.file e)
  Command.execute {
    residual := some (a.residual.getD stdin)
    format := a.format.getD .auto
    config
    syntaxOnly := a.syntaxOnly }

/-- What the answer to `compile` leaves behind. -/
def outcome : Except CommandError Command.Answer → Outcome
  | .ok .syntaxValid => { exit := 0, stdout := "Syntax is valid\n" }
  | .ok (.sql text) => { exit := 0, stdout := text ++ "\n" }
  | .error e => { exit := 1, stderr := e.chain ++ "\n" }

/-- What a request leaves behind. -/
def answer (r : Request) (stdin : String) (readFile : String → Except String String) : Outcome :=
  match r with
  | .compile a => outcome (compile a stdin readFile)
  | .help => { exit := 0, stdout := usage }
  | .version => { exit := 0, stdout := version }
  | .mistake => { exit := 2, stderr := usage }

/-- **A run of the program.** -/
def run (arguments : List String) (stdin : String) (readFile : String → Except String String) :
    Outcome :=
  answer (Arguments.parse arguments) stdin readFile

end RowFilter.Program
