import RowFilter.Json.Basic
import RowFilter.Token.Scanner

/-!
# Reading JSON documents

A strict reader: one value, with nothing but spaces, tabs and line breaks around it and between its
tokens.  Arrays and objects may be nested up to `Json.maxDepth`.  A number keeps its text, except
that its exponent is written with a small `e` and with a sign.

Every round of the reader consumes a character, so the length of the document bounds its recursion;
this bound is the first argument of `Json.valueWith`.

An object may stand for a number: its only member has the name `Json.numberMark` and is the text of
the number.  Where a document is read as a value, such objects are the numbers they stand for; a
reader that knows all names that may occur takes the mark for one that may not.

* `Json.parse` — the value of a document as it is written, or `none` if the text is no document.
* `Json.read` — the value of a document, with the numbers that are marked.
-/

set_option autoImplicit false

namespace RowFilter.Json

/-- How deep arrays and objects may be nested. -/
def maxDepth : Nat := 127

/-- A character that may stand between tokens. -/
def isSpace (c : Char) : Bool :=
  c == ' ' || c == '\t' || c == '\n' || c == '\r'

/-- The text without the spaces at its front. -/
def skipSpace (cs : List Char) : List Char :=
  cs.dropWhile isSpace

/-! ## Strings -/

/-- The number that four hexadecimal digits spell. -/
def codeUnit (d₁ d₂ d₃ d₄ : Char) : Option Nat :=
  if [d₁, d₂, d₃, d₄].all Scanner.isHexDigit then
    some (((Scanner.hexValue d₁ * 16 + Scanner.hexValue d₂) * 16 + Scanner.hexValue d₃) * 16 +
      Scanner.hexValue d₄)
  else none

/-- The character that a backslash before `c` stands for. -/
def escaped : Char → Option Char
  | '"' => some '"'
  | '\\' => some '\\'
  | '/' => some '/'
  | 'b' => some '\x08'
  | 'f' => some '\x0c'
  | 'n' => some '\n'
  | 'r' => some '\r'
  | 't' => some '\t'
  | _ => none

/-- The first half of a pair of surrogates. -/
def isHighSurrogate (n : Nat) : Bool :=
  decide (0xd800 ≤ n) && decide (n < 0xdc00)

/-- The second half of a pair of surrogates. -/
def isLowSurrogate (n : Nat) : Bool :=
  decide (0xdc00 ≤ n) && decide (n < 0xe000)

/-- Reads a string behind its opening quote.  `read` holds its characters so far, the last one
first.  A surrogate is only accepted as half of a pair. -/
def stringFrom (read : List Char) : List Char → Option (String × List Char)
  | [] => none
  | '"' :: cs => some (String.ofList read.reverse, cs)
  | '\\' :: cs =>
    match cs with
    | 'u' :: d₁ :: d₂ :: d₃ :: d₄ :: es =>
      match codeUnit d₁ d₂ d₃ d₄ with
      | none => none
      | some n =>
        if isHighSurrogate n then
          match es with
          | '\\' :: 'u' :: e₁ :: e₂ :: e₃ :: e₄ :: fs =>
            match codeUnit e₁ e₂ e₃ e₄ with
            | none => none
            | some m =>
              if isLowSurrogate m then
                stringFrom (Char.ofNat (0x10000 + (n - 0xd800) * 0x400 + (m - 0xdc00)) :: read) fs
              else none
          | _ => none
        else if isLowSurrogate n then none
        else stringFrom (Char.ofNat n :: read) es
    | e :: ds =>
      match escaped e with
      | some c => stringFrom (c :: read) ds
      | none => none
    | [] => none
  | c :: cs => if c.toNat < 0x20 then none else stringFrom (c :: read) cs

/-! ## Numbers -/

/-- The digits at the front of a text, at least one. -/
def digits (cs : List Char) : Option (List Char × List Char) :=
  let ds := cs.takeWhile Char.isDigit
  if ds.isEmpty then none else some (ds, cs.dropWhile Char.isDigit)

/-- The integer part at the front of a text: a zero, or digits that start with another one. -/
def whole : List Char → Option (List Char × List Char)
  | '0' :: cs => if Scanner.startsWithDigit cs then none else some (['0'], cs)
  | cs => digits cs

/-- The fraction at the front of a text, if a point announces one. -/
def fraction : List Char → Option (List Char × List Char)
  | '.' :: cs => (digits cs).map fun (ds, rest) => ('.' :: ds, rest)
  | cs => some ([], cs)

/-- The exponent at the front of a text, if its mark announces one, with mark and sign written
out. -/
def exponent : List Char → Option (List Char × List Char)
  | [] => some ([], [])
  | e :: cs =>
    if e = 'e' ∨ e = 'E' then
      match cs with
      | '-' :: ds => (digits ds).map fun (ds, rest) => ('e' :: '-' :: ds, rest)
      | '+' :: ds => (digits ds).map fun (ds, rest) => ('e' :: '+' :: ds, rest)
      | ds => (digits ds).map fun (ds, rest) => ('e' :: '+' :: ds, rest)
    else some ([], e :: cs)

/-- The number at the front of a text. -/
def readNumber (cs : List Char) : Option (String × List Char) := do
  let (sign, cs) := match cs with
    | '-' :: ds => (['-'], ds)
    | ds => ([], ds)
  let (integer, cs) ← whole cs
  let (part, cs) ← fraction cs
  let (power, cs) ← exponent cs
  some (String.ofList (sign ++ integer ++ part ++ power), cs)

/-! ## Values -/

mutual

/-- The value at the front of a text, with `depth` levels of nesting left. -/
def valueWith : Nat → Nat → List Char → Option (Json × List Char)
  | 0, _, _ => none
  | fuel + 1, depth, cs =>
    match skipSpace cs with
    | 'n' :: 'u' :: 'l' :: 'l' :: rest => some (null, rest)
    | 't' :: 'r' :: 'u' :: 'e' :: rest => some (boolean true, rest)
    | 'f' :: 'a' :: 'l' :: 's' :: 'e' :: rest => some (boolean false, rest)
    | '"' :: rest => (stringFrom [] rest).map fun (s, rest) => (string s, rest)
    | '[' :: rest =>
      match depth with
      | 0 => none
      | depth + 1 =>
        match skipSpace rest with
        | ']' :: rest => some (array [], rest)
        | rest => (itemsWith fuel depth rest).map fun (items, rest) => (array items, rest)
    | '\x7b' :: rest =>
      match depth with
      | 0 => none
      | depth + 1 =>
        match skipSpace rest with
        | '\x7d' :: rest => some (object [], rest)
        | rest => (membersWith fuel depth rest).map fun (members, rest) => (object members, rest)
    | rest => (readNumber rest).map fun (text, rest) => (number text, rest)

/-- The items of an array from the next one on, and the closing bracket. -/
def itemsWith : Nat → Nat → List Char → Option (List Json × List Char)
  | 0, _, _ => none
  | fuel + 1, depth, cs =>
    match valueWith fuel depth cs with
    | none => none
    | some (item, rest) =>
      match skipSpace rest with
      | ',' :: rest => (itemsWith fuel depth rest).map fun (items, rest) => (item :: items, rest)
      | ']' :: rest => some ([item], rest)
      | _ => none

/-- The members of an object from the next one on, and the closing brace. -/
def membersWith : Nat → Nat → List Char → Option (List (String × Json) × List Char)
  | 0, _, _ => none
  | fuel + 1, depth, cs =>
    match skipSpace cs with
    | '"' :: rest =>
      match stringFrom [] rest with
      | none => none
      | some (key, rest) =>
        match skipSpace rest with
        | ':' :: rest =>
          match valueWith fuel depth rest with
          | none => none
          | some (value, rest) =>
            match skipSpace rest with
            | ',' :: rest =>
              (membersWith fuel depth rest).map fun (members, rest) =>
                ((key, value) :: members, rest)
            | '\x7d' :: rest => some ([(key, value)], rest)
            | _ => none
        | _ => none
    | _ => none

end

/-- **The value of a document as it is written**, if the text is one. -/
def parse (text : String) : Option Json :=
  let cs := text.toList
  match valueWith (2 * cs.length + 2) maxDepth cs with
  | some (value, rest) => if (skipSpace rest).isEmpty then some value else none
  | none => none

/-! ## Marked numbers -/

/-- The name of the member that makes an object a number. -/
def numberMark : String := "$serde_json::private::Number"

/-- Whether the first member marks a number. -/
def marksNumber : List (String × Json) → Bool
  | [] => false
  | (name, _) :: _ => name == numberMark

/-- The number that a marked object stands for. -/
def markedNumber : List (String × Json) → Option Json
  | [(_, string text)] =>
    match readNumber text.toList with
    | some (number', []) => some (number number')
    | _ => none
  | _ => none

mutual

/-- The value with every marked object replaced by its number.  There is none if an object is marked
and stands for no number. -/
def unmarked : Json → Option Json
  | array items => (unmarkedItems items).map array
  | object members =>
    if marksNumber members then markedNumber members else (unmarkedMembers members).map object
  | value => some value

/-- The items of an array, in the same way. -/
def unmarkedItems : List Json → Option (List Json)
  | [] => some []
  | item :: items => do
    let item ← unmarked item
    let items ← unmarkedItems items
    some (item :: items)

/-- The members of an object, in the same way. -/
def unmarkedMembers : List (String × Json) → Option (List (String × Json))
  | [] => some []
  | (name, value) :: members => do
    let value ← unmarked value
    let members ← unmarkedMembers members
    some ((name, value) :: members)

end

/-- **The value of a document**, if the text is one and every marked number is a number. -/
def read (text : String) : Option Json :=
  (parse text).bind unmarked

end RowFilter.Json
