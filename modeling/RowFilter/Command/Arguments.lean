import RowFilter.Command.Basic

/-!
# The arguments of the command line

The command line has one subcommand, `compile`, with an argument for the residual and a few options.
An option can be given by its long name or its letter; its value is the next argument, or follows
the long name behind an equals sign, or follows the letter directly.  Letters of options without a
value can be written together.  After `--` every argument is a value.  An option that is not known,
or that is given twice, is a mistake.

* `Arguments.parse` — what the arguments ask for.
-/

set_option autoImplicit false

namespace RowFilter.Arguments

open Command (Format)

/-- The arguments of the `compile` subcommand. -/
structure CompileArguments where
  /-- The residual; it is read from the standard input if it is missing. -/
  residual : Option String := none
  /-- The configuration file. -/
  config : Option String := none
  /-- The form of the residual. -/
  format : Option Format := none
  /-- Whether only the residual is to be checked. -/
  syntaxOnly : Bool := false
  /-- Whether steps are to be logged. -/
  verbose : Bool := false
deriving Repr, DecidableEq

/-- What the arguments ask for. -/
inductive Request where
  /-- To compile. -/
  | compile (arguments : CompileArguments)
  /-- To print how the program is used. -/
  | help
  /-- To print the version of the program. -/
  | version
  /-- Nothing that makes sense. -/
  | mistake
deriving Repr, DecidableEq

/-! ## Options -/

/-- An option that takes a value. -/
inductive Setting where
  /-- The configuration file. -/
  | config
  /-- The form of the residual. -/
  | format
deriving Repr, DecidableEq

/-- An option that takes none. -/
inductive Switch where
  /-- Check only. -/
  | syntaxOnly
  /-- Log steps. -/
  | verbose
deriving Repr, DecidableEq

/-- What an option of `compile` is. -/
inductive CompileOption where
  /-- One with a value. -/
  | setting (s : Setting)
  /-- One without. -/
  | switch (s : Switch)
  /-- The request for help. -/
  | help
deriving Repr, DecidableEq

/-- The option of a long name. -/
def CompileOption.ofName? : String → Option CompileOption
  | "config" => some (setting .config)
  | "format" => some (setting .format)
  | "syntax-only" => some (switch .syntaxOnly)
  | "verbose" => some (switch .verbose)
  | "help" => some help
  | _ => none

/-- The option of a letter. -/
def CompileOption.ofLetter? : Char → Option CompileOption
  | 'c' => some (setting .config)
  | 'f' => some (setting .format)
  | 'v' => some (switch .verbose)
  | 'h' => some help
  | _ => none

/-- The form of the given name. -/
def formatOfName? : String → Option Format
  | "auto" => some .auto
  | "json" => some .json
  | "text" => some .text
  | _ => none

namespace CompileArguments

/-- Gives an option its value, unless it has one or the value makes no sense. -/
def assign (a : CompileArguments) (s : Setting) (value : String) : Option CompileArguments :=
  match s with
  | .config =>
    if a.config.isSome || value.isEmpty then none else some { a with config := some value }
  | .format =>
    if a.format.isSome then none
    else (formatOfName? value).map fun f => { a with format := some f }

/-- Turns an option on, unless it is on. -/
def turnOn (a : CompileArguments) (s : Switch) : Option CompileArguments :=
  match s with
  | .syntaxOnly => if a.syntaxOnly then none else some { a with syntaxOnly := true }
  | .verbose => if a.verbose then none else some { a with verbose := true }

/-- Takes a value that belongs to no option. -/
def addValue (a : CompileArguments) (value : String) : Option CompileArguments :=
  if a.residual.isSome then none else some { a with residual := some value }

end CompileArguments

/-! ## One argument -/

/-- How an argument is to be read. -/
inductive Word where
  /-- The end of the options. -/
  | endOfOptions
  /-- A long option, with its value if there is one. -/
  | long (name : String) (value : Option String)
  /-- Letters of options. -/
  | letters (cs : List Char)
  /-- A value. -/
  | value (text : String)
deriving Repr, DecidableEq

/-- How an argument is to be read. -/
def Word.of (argument : String) : Word :=
  match argument.toList with
  | ['-', '-'] => .endOfOptions
  | '-' :: '-' :: cs =>
    match cs.dropWhile (· != '=') with
    | [] => .long (String.ofList cs) none
    | _ :: ds => .long (String.ofList (cs.takeWhile (· != '='))) (some (String.ofList ds))
  | '-' :: c :: cs => .letters (c :: cs)
  | _ => .value argument

/-- What the letters of options lead to. -/
inductive LettersResult where
  /-- They have been taken, and the option may wait for a value. -/
  | taken (a : CompileArguments) (waiting : Option Setting)
  /-- Help is asked for. -/
  | help
  /-- They make no sense. -/
  | mistake

/-- Reads the letters of options. -/
def readLetters (a : CompileArguments) : List Char → LettersResult
  | [] => .taken a none
  | c :: cs =>
    match CompileOption.ofLetter? c with
    | none => .mistake
    | some .help => .help
    | some (.switch s) =>
      match a.turnOn s with
      | none => .mistake
      | some a' => readLetters a' cs
    | some (.setting s) =>
      match cs with
      | [] => .taken a (some s)
      | cs =>
        let value := match cs with
          | '=' :: ds => ds
          | ds => ds
        match a.assign s (String.ofList value) with
        | none => .mistake
        | some a' => .taken a' none

/-! ## All arguments -/

/-- Reads arguments behind the end of the options. -/
def readValues (a : CompileArguments) : List String → Request
  | [] => .compile a
  | v :: vs =>
    match a.addValue v with
    | none => .mistake
    | some a' => readValues a' vs

/-- Reads the arguments of `compile`; `waiting` is the option that the next argument is the value
of. -/
def readCompile (a : CompileArguments) (waiting : Option Setting) : List String → Request
  | [] => if waiting.isSome then .mistake else .compile a
  | argument :: rest =>
    match Word.of argument, waiting with
    | .value v, some s =>
      match a.assign s v with
      | none => .mistake
      | some a' => readCompile a' none rest
    | _, some _ => .mistake
    | .value v, none =>
      match a.addValue v with
      | none => .mistake
      | some a' => readCompile a' none rest
    | .endOfOptions, none => readValues a rest
    | .long name value, none =>
      match CompileOption.ofName? name, value with
      | some (.setting s), none => readCompile a (some s) rest
      | some (.setting s), some v =>
        match a.assign s v with
        | none => .mistake
        | some a' => readCompile a' none rest
      | some (.switch s), none =>
        match a.turnOn s with
        | none => .mistake
        | some a' => readCompile a' none rest
      | some .help, none => .help
      | _, _ => .mistake
    | .letters cs, none =>
      match readLetters a cs with
      | .taken a' next => readCompile a' next rest
      | .help => .help
      | .mistake => .mistake

/-- What letters before the subcommand lead to: whether steps are to be logged, or a request that
ends the reading. -/
def readTopLetters (verbose : Bool) : List Char → Except Request Bool
  | [] => .ok verbose
  | 'v' :: cs => if verbose then .error .mistake else readTopLetters true cs
  | 'h' :: _ => .error .help
  | 'V' :: _ => .error .version
  | _ :: _ => .error .mistake

/-- The request for help, which may name the subcommand. -/
def readHelp : List String → Request
  | [] => .help
  | ["compile"] => .help
  | ["help"] => .help
  | _ => .mistake

/-- Reads arguments up to and behind the subcommand. -/
def readTop (verbose : Bool) : List String → Request
  | [] => .mistake
  | argument :: rest =>
    match Word.of argument with
    | .value "compile" =>
      match readCompile {} none rest with
      | .compile a => .compile { a with verbose := a.verbose || verbose }
      | other => other
    | .value "help" => readHelp rest
    | .long "verbose" none => if verbose then .mistake else readTop true rest
    | .long "help" none => .help
    | .long "version" none => .version
    | .letters cs =>
      match readTopLetters verbose cs with
      | .ok v => readTop v rest
      | .error r => r
    | _ => .mistake

/-- **What the arguments of the command line ask for.** -/
def parse (arguments : List String) : Request :=
  readTop false arguments

end RowFilter.Arguments
