import RowFilter.Text.Category.Letter
import RowFilter.Text.Category.Mark
import RowFilter.Text.Category.Sign
import RowFilter.Text.Table.Marking

/-!
# Classes of characters

The classes that scanning and printing depend on: letters and digits of any script, white space, and
the characters that are written as an escape when a text is shown.  They follow version 17.0 of
Unicode.  ASCII characters are decided by comparison, so that a closed text of ASCII characters
never reaches a table; the tables agree with these comparisons.

* `isAlphabetic`, `isNumeric`, `isAlphanumeric` — the characters of identifiers.
* `isBlank` — white space.
* `isPrintable`, `isExtending` — what `Text.shown` leaves unescaped.
* `isWordChar` — what the word boundaries of a pattern look at.
-/

set_option autoImplicit false

namespace RowFilter.Text

/-! ## Characters of Unicode 17.0

The tables of `Text.Category` describe version 16.0 of Unicode, which patterns follow.  Version 17.0
adds the characters below and takes none away. -/

namespace Recent

/-- Letters, and marks that count as alphabetic. -/
def alphabetic : CodeTable where
  spans := [
    (0x88f, 0x88f), (0xc5c, 0xc5c), (0xcdc, 0xcdc), (0xa7ce, 0xa7cf), (0xa7d2, 0xa7d2),
    (0xa7d4, 0xa7d4), (0xa7f1, 0xa7f1), (0x10940, 0x10959), (0x10ec5, 0x10ec7), (0x10efa, 0x10efb),
    (0x11b60, 0x11b67), (0x11db0, 0x11ddb), (0x16ea0, 0x16eb8), (0x16ebb, 0x16ed3),
    (0x16ff2, 0x16ff6), (0x187f8, 0x187ff), (0x18d09, 0x18d1e), (0x18d80, 0x18df2),
    (0x1e6c0, 0x1e6de), (0x1e6e0, 0x1e6f5), (0x1e6fe, 0x1e6ff), (0x2b73a, 0x2b73f),
    (0x2cea2, 0x2cead), (0x323b0, 0x33479)]

/-- Numerals. -/
def numeric : CodeTable where
  spans := [
    (0x11de0, 0x11de9), (0x16ff4, 0x16ff6)]

/-- Marks that extend the character before them. -/
def extending : CodeTable where
  spans := [
    (0x1acf, 0x1add), (0x1ae0, 0x1aeb), (0x10efa, 0x10efb), (0x11b60, 0x11b60), (0x11b62, 0x11b64),
    (0x11b66, 0x11b66), (0x1e6e3, 0x1e6e3), (0x1e6e6, 0x1e6e6), (0x1e6ee, 0x1e6ef),
    (0x1e6f5, 0x1e6f5)]

/-- Other characters with a glyph. -/
def visible : CodeTable where
  spans := [
    (0x20c1, 0x20c1), (0x2b96, 0x2b96), (0xfbc3, 0xfbd2), (0xfd90, 0xfd91), (0xfdc8, 0xfdce),
    (0x10ed0, 0x10ed8), (0x1ccfa, 0x1ccfc), (0x1ceba, 0x1ced0), (0x1cee0, 0x1cef0),
    (0x1f6d8, 0x1f6d8), (0x1f777, 0x1f77a), (0x1f8d0, 0x1f8d8), (0x1fa54, 0x1fa57),
    (0x1fa8a, 0x1fa8a), (0x1fa8e, 0x1fa8e), (0x1fac8, 0x1fac8), (0x1facd, 0x1facd),
    (0x1faea, 0x1faea), (0x1faef, 0x1faef), (0x1fbfa, 0x1fbfa)]

end Recent

/-! ## Letters and digits -/

/-- A character that is alphabetic in some script: a letter, a letter-like numeral, or one of
the marks that spell vowels. -/
def isAlphabetic (c : Char) : Bool :=
  if c.toNat < 0x80 then c.isAlpha
  else
    Letter.lowercase.containsChar c || Letter.uppercase.containsChar c ||
    Letter.other.containsChar c || Letter.modifier.containsChar c ||
    Letter.titlecase.containsChar c || Number.letter.containsChar c ||
    Marking.alphabetic.containsChar c || Recent.alphabetic.containsChar c

/-- A numeral of any script, fractions and superscripts included. -/
def isNumeric (c : Char) : Bool :=
  if c.toNat < 0x80 then c.isDigit
  else
    Number.decimal.containsChar c || Number.letter.containsChar c ||
    Number.other.containsChar c || Recent.numeric.containsChar c

/-- A letter or a numeral of any script. -/
def isAlphanumeric (c : Char) : Bool :=
  isAlphabetic c || isNumeric c

/-! ## White space -/

/-- White space: the five control characters from the tabulator to the carriage return, the next
line control, the line and paragraph separators and every kind of space. -/
def isBlank (c : Char) : Bool :=
  let n := c.toNat
  (decide (0x09 ≤ n) && decide (n ≤ 0x0d)) || n == 0x20 || n == 0x85 || n == 0xa0 ||
    n == 0x1680 || (decide (0x2000 ≤ n) && decide (n ≤ 0x200a)) || n == 0x2028 || n == 0x2029 ||
    n == 0x202f || n == 0x205f || n == 0x3000

/-! ## Characters that can be shown as they are -/

/-- A mark of any kind, up to version 16.0 of Unicode. -/
def isMark (c : Char) : Bool :=
  Mark.nonspacing.containsChar c || Mark.spacing.containsChar c || Mark.enclosing.containsChar c

/-- A mark that extends the character before it, such as a combining accent. -/
def isExtending (c : Char) : Bool :=
  if c.toNat < 0x80 then false
  else
    Mark.nonspacing.containsChar c || Mark.enclosing.containsChar c ||
    (Mark.spacing.containsChar c && Marking.extending.containsChar c) ||
    Recent.extending.containsChar c

/-- One of the four letters that fill the place of a missing part of a syllable, and have no
glyph. -/
def isFiller (c : Char) : Bool :=
  let n := c.toNat
  n == 0x115f || n == 0x1160 || n == 0x3164 || n == 0xffa0

/-- A character with a glyph: assigned, and neither a control, format or private-use character nor
a filler nor a separator other than the plain space. -/
def isPrintable (c : Char) : Bool :=
  if c.toNat < 0x80 then decide (0x20 ≤ c.toNat) && decide (c.toNat < 0x7f)
  else
    !isFiller c &&
    (isAlphabetic c || isNumeric c || isMark c ||
    Punctuation.connector.containsChar c || Punctuation.dash.containsChar c ||
    Punctuation.opening.containsChar c || Punctuation.closing.containsChar c ||
    Punctuation.initial.containsChar c || Punctuation.final.containsChar c ||
    Punctuation.other.containsChar c ||
    Symbol.math.containsChar c || Symbol.currency.containsChar c ||
    Symbol.modifier.containsChar c || Symbol.other.containsChar c ||
    Recent.visible.containsChar c)

/-! ## Word characters -/

/-- A character of a word in version 16.0 of Unicode: alphabetic, a mark, a decimal digit, a
connector or a joiner. -/
def isWordChar (c : Char) : Bool :=
  if c.toNat < 0x80 then c.isAlphanum || c == '_'
  else
    Letter.lowercase.containsChar c || Letter.uppercase.containsChar c ||
    Letter.other.containsChar c || Letter.modifier.containsChar c ||
    Letter.titlecase.containsChar c || Number.letter.containsChar c ||
    Number.decimal.containsChar c || Marking.alphabetic.containsChar c || isMark c ||
    Punctuation.connector.containsChar c || Marking.joiner.containsChar c

end RowFilter.Text
