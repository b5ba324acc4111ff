import RowFilter.Compile.Basic
import RowFilter.Config.Reader
import RowFilter.Residual.Decoder
import RowFilter.Residual.Parser

/-!
# The compile command

The command reads a residual in one of its two forms, reads a configuration if there is one, and
compiles.  The form can be left to be detected: a text that starts with an opening brace or bracket
is tried as JSON first, and read as text if it is no JSON at all.  If it is neither, the error is
that of the JSON form.

* `Command.readResidual` — the residual in a given form.
* `Command.execute` — what the command answers.
* `CommandError.chain` — an error with its causes.
-/

set_option autoImplicit false

namespace RowFilter

/-! ## Errors -/

/-- Why the command fails. -/
inductive CommandError where
  /-- The residual is no text form. -/
  | parse (error : ParseError)
  /-- The residual is no JSON form. -/
  | decode (error : DecodeError)
  /-- The residual cannot be compiled. -/
  | compile (error : CompileError)
  /-- The configuration cannot be used. -/
  | config (error : ConfigError)
  /-- A file cannot be read. -/
  | file (error : String)
  /-- There is no residual. -/
  | noInput
deriving Repr, DecidableEq

namespace CommandError

/-- The wording of an error, without its causes. -/
def message : CommandError → String
  | parse e => "Parse error: " ++ e.message
  | decode e => "Invalid residual: " ++ e.message
  | compile e => "Compile error: " ++ e.message
  | config e => "Config error: " ++ e.message
  | file e => "IO error: " ++ e
  | noInput => "No input provided. Pass RESIDUAL or pipe it to stdin."

/-- The wordings of the causes of an error, from the outside to the inside. -/
def causes : CommandError → List String
  | compile e => e.causes.map CompileError.message
  | _ => []

/-- An error with its causes, each on a line of its own. -/
def chain (e : CommandError) : String :=
  Text.joined "\n  caused by: " (e.message :: e.causes)

end CommandError

namespace Command

/-! ## Reading residuals -/

/-- The form of a residual. -/
inductive Format where
  /-- To be detected. -/
  | auto
  /-- JSON. -/
  | json
  /-- Text. -/
  | text
deriving Repr, DecidableEq

/-- Whether the first character that is not blank opens a brace or a bracket. -/
def looksLikeJson (input : String) : Bool :=
  match input.toList.dropWhile Text.isBlank with
  | '\x7b' :: _ => true
  | '[' :: _ => true
  | _ => false

/-- Reads a residual as text. -/
def readText (input : String) : Except CommandError Residual :=
  match Residual.parse input with
  | .ok r => .ok r
  | .error e => .error (.parse e)

/-- Reads a residual as JSON. -/
def readJson (input : String) : Except CommandError Residual :=
  match Residual.decode input with
  | .ok r => .ok r
  | .error e => .error (.decode e)

/-- Reads a residual as JSON, or as text if it is no JSON. -/
def readEither (input : String) : Except CommandError Residual :=
  match Residual.decode input with
  | .ok r => .ok r
  | .error .json =>
    match Residual.parse input with
    | .ok r => .ok r
    | .error _ => .error (.decode .json)
  | .error e => .error (.decode e)

/-- **The residual of an input in the given form.** -/
def readResidual (input : String) : Format → Except CommandError Residual
  | .json => readJson input
  | .text => readText input
  | .auto => if looksLikeJson input then readEither input else readText input

/-! ## Executing the command -/

/-- What the command is asked to do. -/
structure Options where
  /-- The residual. -/
  residual : Option String := none
  /-- Its form. -/
  format : Format := .auto
  /-- The configuration, as a JSON document. -/
  config : Option String := none
  /-- Whether only the residual is to be checked. -/
  syntaxOnly : Bool := false
deriving Repr, DecidableEq

/-- What the command answers. -/
inductive Answer where
  /-- The residual can be read. -/
  | syntaxValid
  /-- The SQL text. -/
  | sql (text : String)
deriving Repr, DecidableEq

/-- The settings of a configuration document, or the built-in ones. -/
def settings : Option String → Except CommandError Compile.Settings
  | none => .ok { resolvers := some Presets.all }
  | some document =>
    match Config.parse document with
    | .error e => .error (.config e)
    | .ok config =>
      match config.settings with
      | .error e => .error (.config e)
      | .ok s => .ok s

/-- **The answer of the command.**  The configuration is only looked at once the residual has been
read, and not at all if only the residual is to be checked. -/
def execute (o : Options) : Except CommandError Answer := do
  let input ← match o.residual with
    | none => .error .noInput
    | some input => .ok input
  let residual ← readResidual input o.format
  if o.syntaxOnly then .ok .syntaxValid
  else
    let s ← settings o.config
    match Compile.sql s residual with
    | .ok text => .ok (.sql text)
    | .error e => .error (.compile e)

end Command

end RowFilter
