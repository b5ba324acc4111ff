import RowFilter.Text.Character

/-!
# Texts

How texts are put together and taken apart: joined with a separator, split at a character, written
between quotes, and shown in a message.  Names are texts as well, so `isIdentifier` is found here.

* `Text.joined`, `Text.split` — several texts in one.
* `Text.quoted` — a text as a residual prints it.
* `Text.shown` — a text as a message shows it.
* `isIdentifier` — the texts that name variables, fields and operators.
-/

set_option autoImplicit false

namespace RowFilter

namespace Text

/-! ## Joining

Lists of terms, paths and SQL operands are printed with a separator between their parts.  `joined`
is written by recursion on the list, so that what it prints can be followed part by part. -/

/-- The texts one after the other, with `separator` between each two. -/
def joined (separator : String) : List String → String
  | [] => ""
  | [s] => s
  | s :: rest => s ++ separator ++ joined separator rest

@[simp] theorem joined_nil (separator : String) : joined separator [] = "" := rfl

@[simp] theorem joined_singleton (separator s : String) : joined separator [s] = s := rfl

@[simp] theorem joined_cons_cons (separator s t : String) (rest : List String) :
    joined separator (s :: t :: rest) = s ++ separator ++ joined separator (t :: rest) := rfl

/-! ## Splitting

Dotted names are cut at every dot, so that a text with `n` dots has `n + 1` pieces, some of which
may be empty. -/

/-- The pieces between the occurrences of `separator`. -/
def pieces (separator : Char) : List Char → List (List Char)
  | [] => [[]]
  | c :: cs =>
    if c = separator then [] :: pieces separator cs
    else
      match pieces separator cs with
      | [] => [[c]]
      | p :: ps => (c :: p) :: ps

/-- The pieces of the text between the occurrences of `separator`. -/
def split (separator : Char) (s : String) : List String :=
  (pieces separator s.toList).map String.ofList

/-! ## Quoting

A string inside a residual is printed between double quotes.  The quote and the backslash are
written after a backslash, the common control characters by their letter, and the other control
characters below the space by four hexadecimal digits; every other character stands for itself. -/

/-- The hexadecimal digits of `n` in lower case, without leading zeros. -/
def hexDigits (n : Nat) : List Char :=
  Nat.toDigits 16 n

/-- The hexadecimal digits of `n`, filled up with zeros to `width` digits. -/
def paddedHex (width n : Nat) : List Char :=
  List.replicate (width - (hexDigits n).length) '0' ++ hexDigits n

namespace Quoted

/-- One character as it is written between the quotes. -/
def encodeChar (c : Char) : List Char :=
  if c = '"' then ['\\', '"']
  else if c = '\\' then ['\\', '\\']
  else if c = '\n' then ['\\', 'n']
  else if c = '\r' then ['\\', 'r']
  else if c = '\t' then ['\\', 't']
  else if c = '\x08' then ['\\', 'b']
  else if c = '\x0c' then ['\\', 'f']
  else if c.toNat < 0x20 then '\\' :: 'u' :: paddedHex 4 c.toNat
  else [c]

/-- The characters of a text as they are written between the quotes. -/
def encode (cs : List Char) : List Char :=
  cs.flatMap encodeChar

end Quoted

/-- The text between double quotes. -/
def quoted (s : String) : String :=
  String.ofList ('"' :: Quoted.encode s.toList ++ ['"'])

/-! ## Showing

A message shows a string between double quotes in a form that can be read on any terminal: besides
the quote, the backslash and the usual control characters, everything that has no glyph of its own
or that would combine with the character before it is written as its code point. -/

namespace Shown

/-- One character as a message shows it. -/
def encodeChar (c : Char) : List Char :=
  if c = '"' then ['\\', '"']
  else if c = '\\' then ['\\', '\\']
  else if c = '\n' then ['\\', 'n']
  else if c = '\r' then ['\\', 'r']
  else if c = '\t' then ['\\', 't']
  else if c = '\x00' then ['\\', '0']
  else if isExtending c || !isPrintable c then
    '\\' :: 'u' :: '\x7b' :: hexDigits c.toNat ++ ['\x7d']
  else [c]

end Shown

/-- The text between double quotes, as a message shows it. -/
def shown (s : String) : String :=
  String.ofList ('"' :: s.toList.flatMap Shown.encodeChar ++ ['"'])

end Text

/-! ## Identifiers

The names of variables, fields and operators: a letter of any script or an underscore, followed by
letters, numerals and underscores.  Four words look like names and are none. -/

/-- A character that can start an identifier. -/
def isIdentifierStart (c : Char) : Bool :=
  Text.isAlphabetic c || c == '_'

/-- A character that can continue an identifier. -/
def isIdentifierRest (c : Char) : Bool :=
  Text.isAlphanumeric c || c == '_'

/-- The words that are no identifiers. -/
def keywords : List String := ["true", "false", "null", "not"]

/-- Whether the text is an identifier, and so may stand after a dot. -/
def isIdentifier (s : String) : Bool :=
  match s.toList with
  | [] => false
  | c :: cs => isIdentifierStart c && cs.all isIdentifierRest && !keywords.contains s

end RowFilter
