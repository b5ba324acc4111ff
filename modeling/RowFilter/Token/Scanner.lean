import RowFilter.Text.Basic
import RowFilter.Token.Basic

/-!
# Scanning

`Scanner.next` reads the token at the front of a text, after skipping blanks and comments.  A
scanner can be used again after an error: it goes on behind the last character that the failed call
consumed, which for some errors is no character at all.

* `Scanner.next` — one token or error, where it starts, and the scanner behind it.
* `ScanError` — what can be wrong, and where.
* `TokenStream.ofText` — everything that a scanner will ever answer: a finite list of answers, and
  the one it gives for ever after.
-/

set_option autoImplicit false

namespace RowFilter

/-! ## Errors -/

/-- What can be wrong with the characters of a text. -/
inductive ScanFault where
  /-- An exclamation mark without its equals sign. -/
  | loneBang
  /-- A character that starts no token. -/
  | unexpected (c : Char)
  /-- A string that reaches the end of its line. -/
  | missingQuote
  /-- A string that ends right after a backslash. -/
  | danglingBackslash
  /-- A backslash before a character that has no escape. -/
  | badEscape (c : Char)
  /-- A code point of less than four digits. -/
  | shortCodePoint
  /-- Four digits that are the code point of no character. -/
  | badCodePoint (digits : String)
deriving Repr, DecidableEq

/-- The wording of a fault. -/
def ScanFault.message : ScanFault → String
  | loneBang => "Unexpected '!' (did you mean '!='?)"
  | unexpected c => "Unexpected character '" ++ c.toString ++ "'"
  | missingQuote => "Unterminated string: missing closing quote"
  | danglingBackslash => "Unterminated string: unexpected EOF after backslash"
  | badEscape c => "Invalid escape sequence: \\" ++ c.toString
  | shortCodePoint => "Invalid unicode escape: expected 4 hex digits"
  | badCodePoint digits => "Invalid unicode escape: \\u" ++ digits

/-- A fault and its position. -/
structure ScanError where
  /-- What is wrong. -/
  fault : ScanFault
  /-- Where it is. -/
  position : Position
deriving Repr, DecidableEq

/-- The wording of an error, with its position. -/
def ScanError.message (e : ScanError) : String :=
  e.fault.message ++ " at " ++ e.position.text

/-! ## The scanner -/

/-- The rest of a text, and the position where it starts. -/
structure Scanner where
  /-- The characters not yet consumed. -/
  rest : List Char
  /-- The position of the first of them. -/
  here : Position := {}
deriving Repr, DecidableEq

/-- The answer of one call: a token or an error, and where it starts. -/
structure Lexeme where
  /-- The position of the first character after blanks and comments. -/
  start : Position
  /-- What stands there. -/
  token : Except ScanError Token
deriving Repr

namespace Scanner

/-- The scanner at the beginning of a text. -/
def ofText (text : String) : Scanner :=
  { rest := text.toList }

/-- Skips blanks and comments up to the end of the line. -/
def skipFrom (here : Position) (inComment : Bool) : List Char → Scanner
  | [] => { rest := [], here }
  | c :: cs =>
    if c = '\n' then { rest := c :: cs, here }
    else if inComment || c == '#' then skipFrom (here.right 1) true cs
    else if Text.isBlank c then skipFrom (here.right 1) false cs
    else { rest := c :: cs, here }

/-- The scanner behind blanks and comments. -/
def skip (s : Scanner) : Scanner :=
  skipFrom s.here false s.rest

/-! ### Strings -/

/-- A hexadecimal digit. -/
def isHexDigit (c : Char) : Bool :=
  c.isDigit || (decide ('a' ≤ c) && decide (c ≤ 'f')) || (decide ('A' ≤ c) && decide (c ≤ 'F'))

/-- The value of a hexadecimal digit. -/
def hexValue (c : Char) : Nat :=
  if c.isDigit then c.toNat - '0'.toNat
  else if 'a' ≤ c then c.toNat - 'a'.toNat + 10
  else c.toNat - 'A'.toNat + 10

/-- The character that a backslash before `c` stands for. -/
def escaped : Char → Option Char
  | 'n' => some '\n'
  | 't' => some '\t'
  | 'r' => some '\r'
  | '"' => some '"'
  | '\\' => some '\\'
  | '/' => some '/'
  | _ => none

/-- The character with the given code point; surrogates are no characters. -/
def charOfCode (n : Nat) : Option Char :=
  if n.isValidChar then some (Char.ofNat n) else none

/-- Reads a string whose opening quote, at `start`, has been consumed.  `read` holds the characters
of the string so far, the last one first. -/
def stringFrom (start here : Position) (read : List Char) :
    List Char → Except ScanError String × Scanner
  | [] => (.error ⟨.missingQuote, start⟩, ⟨[], here⟩)
  | '"' :: cs => (.ok (String.ofList read.reverse), ⟨cs, here.right 1⟩)
  | '\n' :: cs => (.error ⟨.missingQuote, start⟩, ⟨'\n' :: cs, here⟩)
  | '\\' :: cs =>
    match cs with
    | [] => (.error ⟨.danglingBackslash, here.right 1⟩, ⟨[], here.right 1⟩)
    | 'u' :: ds =>
      let count := ((ds.take 4).takeWhile isHexDigit).length
      let short := (.error ⟨.shortCodePoint, here.right (2 + count)⟩,
        ⟨ds.drop count, here.right (2 + count)⟩)
      match ds with
      | d₁ :: d₂ :: d₃ :: d₄ :: es =>
        if count < 4 then short
        else
          let code := ((hexValue d₁ * 16 + hexValue d₂) * 16 + hexValue d₃) * 16 + hexValue d₄
          match charOfCode code with
          | some c => stringFrom start (here.right 6) (c :: read) es
          | none =>
            let digits := String.ofList [d₁, d₂, d₃, d₄]
            (.error ⟨.badCodePoint digits, here.right 6⟩, ⟨es, here.right 6⟩)
      | _ => short
    | e :: ds =>
      match escaped e with
      | some c => stringFrom start (here.right 2) (c :: read) ds
      | none => (.error ⟨.badEscape e, here.right 1⟩, ⟨e :: ds, here.right 1⟩)
  | c :: cs => stringFrom start (here.right 1) (c :: read) cs

/-! ### Numbers and words -/

/-- The fraction at the front of a text: a point, if a digit follows it, and its digits. -/
def fraction : List Char → List Char
  | '.' :: cs =>
    if (cs.takeWhile Char.isDigit).isEmpty then [] else '.' :: cs.takeWhile Char.isDigit
  | _ => []

/-- The exponent at the front of a text: its mark and sign, if a digit follows them, and its
digits. -/
def exponent : List Char → List Char
  | [] => []
  | e :: cs =>
    if e = 'e' ∨ e = 'E' then
      let sign := match cs with
        | '+' :: _ => ['+']
        | '-' :: _ => ['-']
        | _ => []
      let digits := (cs.drop sign.length).takeWhile Char.isDigit
      if digits.isEmpty then [] else e :: (sign ++ digits)
    else []

/-- The number at the front of a text, sign, fraction and exponent included. -/
def number (cs : List Char) : List Char :=
  let sign := match cs with
    | '-' :: _ => ['-']
    | _ => []
  let whole := sign ++ (cs.drop sign.length).takeWhile Char.isDigit
  let part := fraction (cs.drop whole.length)
  let power := exponent (cs.drop (whole.length + part.length))
  whole ++ part ++ power

/-- Whether a digit stands at the front. -/
def startsWithDigit : List Char → Bool
  | c :: _ => c.isDigit
  | [] => false

/-! ### One token -/

/-- The scanner `n` characters further; none of them is a newline. -/
def drop (s : Scanner) (n : Nat) : Scanner :=
  { rest := s.rest.drop n, here := s.here.right n }

/-- The token of a single character. -/
def single : Char → Option Token
  | '.' => some .dot
  | ',' => some .comma
  | ';' => some .semicolon
  | '(' => some .openParen
  | ')' => some .closeParen
  | '[' => some .openBracket
  | ']' => some .closeBracket
  | '\x7b' => some .openBrace
  | '\x7d' => some .closeBrace
  | _ => none

/-- Reads the token at the very front. -/
def token (s : Scanner) : Except ScanError Token × Scanner :=
  match s.rest with
  | [] => (.ok .endOfInput, s)
  | '\n' :: cs => (.ok .newline, ⟨cs, s.here.nextLine⟩)
  | '=' :: '=' :: _ => (.ok .doubleEquals, s.drop 2)
  | '=' :: _ => (.ok .equals, s.drop 1)
  | '!' :: '=' :: _ => (.ok .notEquals, s.drop 2)
  | '!' :: _ => (.error ⟨.loneBang, s.here⟩, s)
  | '"' :: cs =>
    match stringFrom s.here (s.here.right 1) [] cs with
    | (.ok value, next) => (.ok (.string value), next)
    | (.error e, next) => (.error e, next)
  | c :: cs =>
    match single c with
    | some t => (.ok t, s.drop 1)
    | none =>
      if c.isDigit || (c == '-' && startsWithDigit cs) then
        let text := number s.rest
        (.ok (.number (String.ofList text)), s.drop text.length)
      else if isIdentifierStart c then
        let word := c :: cs.takeWhile isIdentifierRest
        (.ok (Token.ofWord (String.ofList word)), s.drop word.length)
      else (.error ⟨.unexpected c, s.here⟩, s)

/-- **One call of the scanner**: what stands behind the blanks and comments at the front. -/
def next (s : Scanner) : Lexeme × Scanner :=
  let s := s.skip
  let (token, rest) := s.token
  ({ start := s.here, token }, rest)

end Scanner

/-! ## All answers of a scanner -/

/-- The answers of a scanner, called again and again: first those of a finite list, then the last
one for ever. -/
structure TokenStream where
  /-- The answers that consume something. -/
  first : List Lexeme
  /-- The answer of every further call: the end of the text, or an error that consumes nothing. -/
  last : Lexeme
deriving Repr

/-- Whether an answer is the end of the text. -/
def Lexeme.isEnd (l : Lexeme) : Bool :=
  match l.token with
  | .ok .endOfInput => true
  | _ => false

/-- The answers of a scanner, up to the first that ends the text or consumes nothing.  A call that
consumes something moves the position, so it is the position that tells.  `bound` is a bound on the
number of calls that consume something. -/
def TokenStream.ofScanner (bound : Nat) (s : Scanner) : TokenStream :=
  let (l, s') := s.next
  match bound with
  | 0 => { first := [], last := l }
  | bound + 1 =>
    if l.isEnd || s'.here == s.here then { first := [], last := l }
    else
      let stream := ofScanner bound s'
      { stream with first := l :: stream.first }

/-- All answers of the scanner at the beginning of a text. -/
def TokenStream.ofText (text : String) : TokenStream :=
  ofScanner text.toList.length (Scanner.ofText text)

end RowFilter
