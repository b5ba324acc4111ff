import RowFilter.Residual.Query
import RowFilter.Token.Scanner

/-!
# Reading residuals from text

A residual is written with one query per line and semicolons between the expressions of a query.
Inside brackets a newline means nothing.

```text
"bob" = input.post.author; input.post.deleted
internal.member_2(input.post.can, ["edit", "*"])
```

The parser is a recursive descent over the answers of a scanner.  It is a value of type `Parser`
that every call transforms, also a failed one: a parser can be used again after an error, and then
goes on where the error left it, with the brackets still open that were open there.

A call recurses at most twice for each token it consumes, so its depth is bounded by the tokens
ahead.  The functions of the grammar take such a bound as *fuel* and answer `exhausted` when it is
used up.  `Parser.fuel` is large enough for that never to happen.

* `Parser.term`, `Parser.expression`, `Parser.query`, `Parser.residual` — the calls.
* `Residual.parse` — the residual that a text spells.
-/

set_option autoImplicit false

namespace RowFilter

/-! ## Errors -/

/-- What can be wrong with the tokens of a text. -/
inductive ParseFault where
  /-- Another token has to stand here. -/
  | expected (wanted found : Token)
  /-- No term starts with this token. -/
  | unexpected (found : Token)
  /-- This token cannot name a field. -/
  | fieldName (found : Token)
deriving Repr, DecidableEq

/-- The wording of a fault. -/
def ParseFault.message : ParseFault → String
  | expected wanted found => "Expected " ++ wanted.describe ++ ", got " ++ found.describe
  | unexpected found => "Unexpected " ++ found.describe
  | fieldName found => "Expected field name after '.', got " ++ found.describe

/-- Why a text is no residual. -/
inductive ParseError where
  /-- Its characters form no tokens. -/
  | scan (error : ScanError)
  /-- Its tokens form no residual. -/
  | grammar (fault : ParseFault) (position : Position)
deriving Repr, DecidableEq

namespace ParseError

/-- Where the error is. -/
def position : ParseError → Position
  | scan e => e.position
  | grammar _ p => p

/-- The wording of an error, with its position. -/
def message : ParseError → String
  | scan e => e.message
  | grammar fault p => fault.message ++ " at " ++ p.text

end ParseError

/-! ## The parser and its steps -/

/-- The state of a parser. -/
structure Parser where
  /-- The answers of the scanner that have not been read. -/
  ahead : TokenStream
  /-- The token that is looked at. -/
  current : Token
  /-- Where the last token that was read starts. -/
  position : Position
  /-- How many brackets are open. -/
  depth : Nat := 0
deriving Repr

namespace Parser

/-- How a step of the grammar ends. -/
inductive Outcome (α : Type) where
  /-- It has read a value. -/
  | done (value : α) (next : Parser)
  /-- It has met an error. -/
  | failed (error : ParseError) (next : Parser)
  /-- It has used up its fuel. -/
  | exhausted

/-- A step of the grammar. -/
abbrev Step (α : Type) := Parser → Outcome α

instance : Monad Step where
  pure a := fun p => .done a p
  bind step f := fun p =>
    match step p with
    | .done a p' => f a p'
    | .failed e p' => .failed e p'
    | .exhausted => .exhausted

/-- Whether the current token is `t`. -/
def looksAt (t : Token) : Step Bool :=
  fun p => .done (decide (p.current = t)) p

/-- The current token. -/
def peek : Step Token :=
  fun p => .done p.current p

/-- Takes the current token away and leaves the end of the input in its place. -/
def take : Step Token :=
  fun p => .done p.current { p with current := .endOfInput }

/-- Stops with a fault at the current position. -/
def stop {α : Type} (fault : ParseFault) : Step α :=
  fun p => .failed (.grammar fault p.position) p

/-- Reads on through the given answers of the scanner.  Inside brackets newlines are passed over. -/
def advanceThrough (p : Parser) : List Lexeme → Outcome Unit
  | [] =>
    match p.ahead.last.token with
    | .ok t =>
      .done () { p with ahead.first := [], current := t, position := p.ahead.last.start }
    | .error e => .failed (.scan e) { p with ahead.first := [] }
  | l :: ls =>
    match l.token with
    | .ok t =>
      let p' : Parser := { p with ahead.first := ls, current := t, position := l.start }
      if 0 < p.depth ∧ t = .newline then advanceThrough p' ls else .done () p'
    | .error e => .failed (.scan e) { p with ahead.first := ls }

/-- Moves on to the next token. -/
def advance : Step Unit :=
  fun p => advanceThrough p p.ahead.first

/-- Moves past the given token, which has to be the current one. -/
def expect (t : Token) : Step Unit := do
  if ← looksAt t then advance else stop (.expected t (← peek))

/-- Moves past an opening bracket. -/
def enter : Step Unit := do
  (fun p => .done () { p with depth := p.depth + 1 } : Step Unit)
  advance

/-- Moves past a closing bracket, which has to be the current token. -/
def leave (closing : Token) : Step Unit := do
  if ← looksAt closing then
    (fun p => .done () { p with depth := p.depth - 1 } : Step Unit)
    advance
  else stop (.expected closing (← peek))

/-! ## The grammar -/

/-- What a variable followed by segments, and perhaps by arguments, denotes.  The call `set()` is
the empty set. -/
def reference (head : String) (segments : List Term) : Option (List Term) → Term
  | none => if segments.isEmpty then .var head else .ref (.var head :: segments)
  | some arguments =>
    if arguments.isEmpty && segments.isEmpty && head == "set" then .set []
    else .call (.ref (.var head :: segments) :: arguments)

/-- The name of a field after a dot; keywords are names there. -/
def fieldName : Step String := do
  match ← peek with
  | .identifier name => pure name
  | .boolean true => pure "true"
  | .boolean false => pure "false"
  | .null => pure "null"
  | .not => pure "not"
  | t => stop (.fieldName t)

mutual

/-- A term. -/
def termWith : Nat → Step Term
  | 0 => fun _ => .exhausted
  | fuel + 1 => do
    match ← take with
    | .number text => do advance; pure (.number text)
    | .string value => do advance; pure (.string value)
    | .boolean value => do advance; pure (.boolean value)
    | .null => do advance; pure .null
    | .identifier name => do
      advance
      let (segments, arguments) ← suffixWith fuel
      pure (reference name segments arguments)
    | .openBracket => do
      enter
      let elements ← elementsWith fuel .closeBracket
      pure (.array elements)
    | .openBrace => do
      enter
      let elements ← elementsWith fuel .closeBrace
      pure (.set elements)
    | .openParen => do
      enter
      let t ← termWith fuel
      leave .closeParen
      pure t
    | t => stop (.unexpected t)

/-- Terms with commas between them, up to and including the closing bracket. -/
def elementsWith : Nat → Token → Step (List Term)
  | 0, _ => fun _ => .exhausted
  | fuel + 1, closing => do
    if ← looksAt closing then
      leave closing
      pure []
    else
      let t ← termWith fuel
      unless ← looksAt closing do
        expect .comma
      let ts ← elementsWith fuel closing
      pure (t :: ts)

/-- What follows the head of a reference: segments, and the arguments of a call. -/
def suffixWith : Nat → Step (List Term × Option (List Term))
  | 0 => fun _ => .exhausted
  | fuel + 1 => do
    match ← peek with
    | .dot => do
      advance
      let name ← fieldName
      advance
      let (segments, arguments) ← suffixWith fuel
      pure (.string name :: segments, arguments)
    | .openBracket => do
      enter
      let key ← termWith fuel
      leave .closeBracket
      let (segments, arguments) ← suffixWith fuel
      pure (key :: segments, arguments)
    | .openParen => do
      enter
      let arguments ← elementsWith fuel .closeParen
      pure ([], some arguments)
    | _ => pure ([], none)

end

/-- The operator that a comparison sign stands for. -/
def comparison : Token → Option String
  | .equals => some "eq"
  | .doubleEquals => some "equal"
  | .notEquals => some "neq"
  | _ => none

/-- An expression: a term, or two terms with a comparison sign between them, perhaps negated. -/
def expressionWith (fuel : Nat) : Step Expression := do
  let negated ← looksAt .not
  if negated then advance
  let left ← termWith fuel
  match comparison (← peek) with
  | some operator => do
    advance
    let right ← termWith fuel
    pure { Expression.ofCall operator [left, right] with negated }
  | none =>
    match left with
    | .call terms => pure { condition := .call terms, negated }
    | t => pure { condition := .term t, negated }

/-- The expressions after the first one of a query, each behind its semicolon. -/
def moreExpressionsWith : Nat → Step (List Expression)
  | 0 => fun _ => .exhausted
  | fuel + 1 => do
    if ← looksAt .semicolon then
      advance
      if (← looksAt .newline) || (← looksAt .endOfInput) then pure []
      else
        let e ← expressionWith fuel
        let es ← moreExpressionsWith fuel
        pure (e :: es)
    else pure []

/-- A query: expressions with semicolons between them, and perhaps one at the end. -/
def queryWith (fuel : Nat) : Step Query := do
  let e ← expressionWith fuel
  let es ← moreExpressionsWith fuel
  pure (e :: es)

/-- Passes over empty lines. -/
def skipNewlines : Nat → Step Unit
  | 0 => fun _ => .exhausted
  | fuel + 1 => do
    if ← looksAt .newline then
      advance
      skipNewlines fuel

/-- Queries on lines of their own, up to the end of the input. -/
def queriesWith : Nat → Step Residual
  | 0 => fun _ => .exhausted
  | fuel + 1 => do
    if ← looksAt .endOfInput then pure []
    else
      let q ← queryWith fuel
      unless ← looksAt .endOfInput do
        expect .newline
      skipNewlines fuel
      let qs ← queriesWith fuel
      pure (q :: qs)

/-- A residual: its queries, and any number of empty lines. -/
def residualWith (fuel : Nat) : Step Residual := do
  skipNewlines fuel
  queriesWith fuel

/-! ## Calls of a parser -/

/-- Twice the number of tokens that can still be read, and some to spare. -/
def fuel (p : Parser) : Nat :=
  2 * p.ahead.first.length + 8

/-- Runs a step with fuel enough to finish. -/
def run {α : Type} (step : Nat → Step α) (p : Parser) : Except ParseError α × Parser :=
  match step p.fuel p with
  | .done a p' => (.ok a, p')
  | .failed e p' => (.error e, p')
  | .exhausted => (.error (.grammar (.unexpected p.current) p.position), p)

/-- Reads a term. -/
def term (p : Parser) : Except ParseError Term × Parser := p.run termWith

/-- Reads an expression. -/
def expression (p : Parser) : Except ParseError Expression × Parser := p.run expressionWith

/-- Reads a query. -/
def query (p : Parser) : Except ParseError Query × Parser := p.run queryWith

/-- Reads queries up to the end of the input. -/
def residual (p : Parser) : Except ParseError Residual × Parser := p.run residualWith

/-- The parser at the first token of a text, if the text starts with one. -/
def ofText (text : String) : Except ParseError Parser :=
  let stream := TokenStream.ofText text
  let (l, ahead) : Lexeme × TokenStream :=
    match stream.first with
    | [] => (stream.last, stream)
    | l :: ls => (l, { stream with first := ls })
  match l.token with
  | .ok t => .ok { ahead, current := t, position := l.start }
  | .error e => .error (.scan e)

end Parser

/-- **The residual that a text spells.** -/
def Residual.parse (text : String) : Except ParseError Residual := do
  let p ← Parser.ofText text
  p.residual.1

end RowFilter
