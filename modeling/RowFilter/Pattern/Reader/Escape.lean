import RowFilter.Pattern.Basic
import RowFilter.Pattern.Property
import RowFilter.Pattern.Reader.Flags
import RowFilter.Token.Scanner

/-!
# Escapes

A backslash gives a letter a meaning, or takes it away from a sign: code points, classes,
properties, boundaries.  Every function takes the characters that are left and returns those behind
what it has read.

* `Escape.read` — what the characters behind a backslash stand for.
-/

set_option autoImplicit false

namespace RowFilter.Pattern.Escape

open Text (CharSet)

/-- What a single character or an escape stands for. -/
inductive Primitive where
  /-- A character. -/
  | literal (c : Char)
  /-- A set of characters. -/
  | chars (s : CharSet)
  /-- An assertion. -/
  | assert (a : Assertion)

/-- Characters with a meaning of their own, which a backslash takes away. -/
def isMeta (c : Char) : Bool :=
  ['\\', '.', '+', '*', '?', '(', ')', '|', '[', ']', '\x7b', '\x7d', '^', '$', '#', '&', '-',
    '~'].contains c

/-- Whether a backslash before the character leaves it as it is. -/
def isEscapable (c : Char) : Bool :=
  isMeta c || (decide (c.toNat < 0x80) && !c.isAlphanum && c != '<' && c != '>')

/-! ## Code points -/

/-- The value of a row of hexadecimal digits. -/
def hexValue (cs : List Char) : Nat :=
  cs.foldl (fun n c => n * 16 + Scanner.hexValue c) 0

/-- The character with the code point that hexadecimal digits spell. -/
def codeChar (digits : List Char) : Option Char :=
  if !digits.isEmpty && digits.all Scanner.isHexDigit then Scanner.charOfCode (hexValue digits)
  else none

/-- What stands before the closing brace, without what is ignored; `fuel` bounds its length. -/
def bracedWith (f : Flags) : Nat → List Char → Option (List Char × List Char)
  | 0, _ => none
  | fuel + 1, cs =>
    match f.skip cs with
    | [] => none
    | '\x7d' :: rest => some ([], rest)
    | c :: rest => (bracedWith f fuel rest).map fun (inside, rest) => (c :: inside, rest)

/-- What stands before the closing brace, without what is ignored. -/
def braced (f : Flags) (cs : List Char) : Option (List Char × List Char) :=
  bracedWith f (cs.length + 1) cs

/-- The next `n` characters, without those that are ignored. -/
def takeNext (f : Flags) : Nat → List Char → Option (List Char × List Char)
  | 0, cs => some ([], cs)
  | n + 1, cs =>
    match f.skip cs with
    | [] => none
    | c :: rest => (takeNext f n rest).map fun (taken, rest) => (c :: taken, rest)

/-- A code point behind the letter that announces it: digits between braces, or as many digits as
the letter asks for.  Two digits alone spell a byte, which outside of ASCII is no character unless
sets range over all characters. -/
def codePoint (f : Flags) (letter : Char) (cs : List Char) : Option (Char × List Char) :=
  match f.skip cs with
  | '\x7b' :: cs => do
    let (digits, rest) ← braced f cs
    some (← codeChar digits, rest)
  | cs => do
    let (digits, rest) ← takeNext f (if letter == 'x' then 2 else if letter == 'u' then 4 else 8) cs
    let c ← codeChar digits
    if letter == 'x' && !f.unicode && decide (0x80 ≤ c.toNat) then none else some (c, rest)

/-! ## Classes and properties -/

/-- Cuts a list at the first place where another one occurs. -/
def cutAt (mark : List Char) : List Char → Option (List Char × List Char)
  | [] => none
  | c :: cs =>
    if mark.isPrefixOf (c :: cs) then some ([], (c :: cs).drop mark.length)
    else (cutAt mark cs).map fun (before, after) => (c :: before, after)

/-- The set that the text between the braces of a property names, and whether its complement is
meant.  The sign between a property and a value says that the value is another one, or that it is
this one. -/
def namedSet (name : List Char) : Option (CharSet × Bool) :=
  match cutAt ['!', '='] name with
  | some (key, value) => (Property.valueSet? key value).map (·, true)
  | none =>
    match cutAt [':'] name <|> cutAt ['='] name with
    | some (key, value) => (Property.valueSet? key value).map (·, false)
    | none => (Property.set? name).map (·, false)

/-- A property: one letter, or a name between braces. -/
def property (f : Flags) (negated : Bool) (cs : List Char) : Option (CharSet × List Char) :=
  if !f.unicode then none
  else do
    let (s, opposite, rest) ← match f.skip cs with
      | [] => none
      | '\x7b' :: cs => do
        let (name, rest) ← braced f cs
        let (s, opposite) ← namedSet name
        some (s, opposite, rest)
      | c :: rest => if c == '\\' then none else do some (← Property.set? [c], false, rest)
    some (← f.complement (negated != opposite) (f.close s), rest)

/-- One of the three classes that have a letter of their own. -/
def letterClass (f : Flags) (c : Char) : Option CharSet :=
  let (whole, ascii) : CharSet × Option CharSet :=
    match c.toLower with
    | 'd' => (CharSet.ofTables [Text.Number.decimal], Property.asciiClass? "digit")
    | 's' => (CharSet.blank, Property.asciiClass? "space")
    | _ => (CharSet.word, Property.asciiClass? "word")
  (if f.unicode then some whole else ascii).bind (f.complement c.isUpper)

/-! ## Boundaries -/

/-- A character of the name of a boundary. -/
def isNameChar (c : Char) : Bool :=
  c.isAlpha || c == '-'

/-- A boundary of words, which may be named between braces. -/
def wordBoundary (f : Flags) (cs : List Char) : Option (Assertion × List Char) :=
  let ascii := !f.unicode
  match cs with
  | '\x7b' :: inside =>
    match f.skip inside with
    | [] => none
    | c :: _ =>
      if !isNameChar c then some (.wordBoundary ascii, cs)
      else do
        let (name, rest) ← braced f inside
        match String.ofList name with
        | "start" => some (.wordStart ascii, rest)
        | "end" => some (.wordEnd ascii, rest)
        | "start-half" => some (.noWordBefore ascii, rest)
        | "end-half" => some (.noWordAfter ascii, rest)
        | _ => none
  | cs => some (.wordBoundary ascii, cs)

/-- **What the characters behind a backslash stand for.** -/
def read (f : Flags) : List Char → Option (Primitive × List Char)
  | [] => none
  | c :: cs =>
    let ascii := !f.unicode
    if c == 'x' || c == 'u' || c == 'U' then
      (codePoint f c cs).map fun (d, rest) => (.literal d, rest)
    else if c == 'p' || c == 'P' then
      (property f (c == 'P') cs).map fun (s, rest) => (.chars s, rest)
    else if ['d', 's', 'w', 'D', 'S', 'W'].contains c then
      (letterClass f c).map fun s => (.chars s, cs)
    else if isEscapable c then some (.literal c, cs)
    else
      match c with
      | 'a' => some (.literal '\x07', cs)
      | 'f' => some (.literal '\x0c', cs)
      | 't' => some (.literal '\t', cs)
      | 'n' => some (.literal '\n', cs)
      | 'r' => some (.literal '\r', cs)
      | 'v' => some (.literal '\x0b', cs)
      | 'A' => some (.assert .textStart, cs)
      | 'z' => some (.assert .textEnd, cs)
      | 'b' => (wordBoundary f cs).map fun (a, rest) => (.assert a, rest)
      | 'B' => some (.assert (.noWordBoundary ascii), cs)
      | '<' => some (.assert (.wordStart ascii), cs)
      | '>' => some (.assert (.wordEnd ascii), cs)
      | _ => none

end RowFilter.Pattern.Escape
