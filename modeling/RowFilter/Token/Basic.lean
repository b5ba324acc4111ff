import RowFilter.Text.Basic

/-!
# Tokens and their positions

The words of the text form of residuals.  A newline is a token, since it ends a query.

Positions in a text are lines and columns, counted from one, columns by characters.
-/

set_option autoImplicit false

namespace RowFilter

/-! ## Positions -/

/-- A place in a text. -/
structure Position where
  /-- The line, from one. -/
  line : Nat := 1
  /-- The column, from one. -/
  column : Nat := 1
deriving Repr, DecidableEq, Inhabited

namespace Position

/-- The position `n` characters further on the same line. -/
def right (p : Position) (n : Nat) : Position :=
  { p with column := p.column + n }

/-- The start of the next line. -/
def nextLine (p : Position) : Position :=
  { line := p.line + 1, column := 1 }

/-- How messages name the position. -/
def text (p : Position) : String :=
  "line " ++ toString p.line ++ ", column " ++ toString p.column

end Position

/-! ## Tokens -/

/-- A word of the text form of residuals. -/
inductive Token where
  /-- A number, by its text. -/
  | number (text : String)
  /-- A string, its escapes resolved. -/
  | string (value : String)
  /-- `true` or `false`. -/
  | boolean (value : Bool)
  /-- `null`. -/
  | null
  /-- The name of a variable, a field or an operator. -/
  | identifier (name : String)
  /-- `not`. -/
  | not
  /-- `=`. -/
  | equals
  /-- `==`. -/
  | doubleEquals
  /-- `!=`. -/
  | notEquals
  /-- `.`. -/
  | dot
  /-- `,`. -/
  | comma
  /-- `;`. -/
  | semicolon
  /-- The end of a line. -/
  | newline
  /-- `(`. -/
  | openParen
  /-- `)`. -/
  | closeParen
  /-- `[`. -/
  | openBracket
  /-- `]`. -/
  | closeBracket
  /-- An opening brace. -/
  | openBrace
  /-- A closing brace. -/
  | closeBrace
  /-- The end of the text. -/
  | endOfInput
deriving Repr, DecidableEq, Inhabited

namespace Token

/-- How messages name the token. -/
def describe : Token → String
  | number text => "number " ++ text
  | string value => "string " ++ Text.shown value
  | boolean true => "true"
  | boolean false => "false"
  | null => "null"
  | identifier name => "identifier `" ++ name ++ "`"
  | not => "`not`"
  | equals => "`=`"
  | doubleEquals => "`==`"
  | notEquals => "`!=`"
  | dot => "`.`"
  | comma => "`,`"
  | semicolon => "`;`"
  | newline => "end of line"
  | openParen => "`(`"
  | closeParen => "`)`"
  | openBracket => "`[`"
  | closeBracket => "`]`"
  | openBrace => "`\x7b`"
  | closeBrace => "`\x7d`"
  | endOfInput => "end of input"

/-- The token that a word stands for: a keyword, or else an identifier. -/
def ofWord (word : String) : Token :=
  if word = "true" then boolean true
  else if word = "false" then boolean false
  else if word = "null" then null
  else if word = "not" then not
  else identifier word

end Token

end RowFilter
