import RowFilter.Text.CharSet
import RowFilter.Text.Category.Letter
import RowFilter.Text.Category.Mark
import RowFilter.Text.Category.Sign

/-!
# General categories

Every code point has one general category, and the categories form seven groups.  Patterns name
both, by a long name or by an abbreviation.

* `CharSet.category?` — the characters of the category or group of the given name.
-/

set_option autoImplicit false

namespace RowFilter.Text.CharSet

/-- All letters. -/
def letters : CharSet :=
  ofTables [Letter.uppercase, Letter.lowercase, Letter.titlecase, Letter.modifier, Letter.other]

/-- All marks. -/
def marks : CharSet :=
  ofTables [Mark.nonspacing, Mark.spacing, Mark.enclosing]

/-- All numerals. -/
def numerals : CharSet :=
  ofTables [Number.decimal, Number.letter, Number.other]

/-- All punctuation. -/
def punctuation : CharSet :=
  ofTables [Punctuation.connector, Punctuation.dash, Punctuation.opening, Punctuation.closing,
    Punctuation.initial, Punctuation.final, Punctuation.other]

/-- All symbols. -/
def symbols : CharSet :=
  ofTables [Symbol.math, Symbol.currency, Symbol.modifier, Symbol.other]

/-- All separators. -/
def separators : CharSet :=
  ofTables [Separator.space, Separator.line, Separator.paragraph]

/-- The code points that have a category, but no glyph and no place in a line. -/
def glyphless : CharSet :=
  ofTables [Other.control, Other.format, Other.surrogate, Other.privateUse]

/-- The code points without a category. -/
def unassigned : CharSet :=
  compl (unions [letters, marks, numerals, punctuation, symbols, separators, glyphless])

/-- **The characters of the category of the given name**, which is in lower case and has no signs
that part words.  The category of the surrogates has no characters, and cannot be named. -/
def category? (name : String) : Option CharSet :=
  match name with
  | "any" => some all
  | "ascii" => some ascii
  | "assigned" => some (compl unassigned)
  | "l" | "letter" => some letters
  | "lc" | "casedletter" => some (ofTables [Letter.uppercase, Letter.lowercase, Letter.titlecase])
  | "lu" | "uppercaseletter" => some (ofTables [Letter.uppercase])
  | "ll" | "lowercaseletter" => some (ofTables [Letter.lowercase])
  | "lt" | "titlecaseletter" => some (ofTables [Letter.titlecase])
  | "lm" | "modifierletter" => some (ofTables [Letter.modifier])
  | "lo" | "otherletter" => some (ofTables [Letter.other])
  | "m" | "mark" | "combiningmark" => some marks
  | "mn" | "nonspacingmark" => some (ofTables [Mark.nonspacing])
  | "mc" | "spacingmark" => some (ofTables [Mark.spacing])
  | "me" | "enclosingmark" => some (ofTables [Mark.enclosing])
  | "n" | "number" => some numerals
  | "nd" | "decimalnumber" | "digit" => some (ofTables [Number.decimal])
  | "nl" | "letternumber" => some (ofTables [Number.letter])
  | "no" | "othernumber" => some (ofTables [Number.other])
  | "p" | "punctuation" | "punct" => some punctuation
  | "pc" | "connectorpunctuation" => some (ofTables [Punctuation.connector])
  | "pd" | "dashpunctuation" => some (ofTables [Punctuation.dash])
  | "ps" | "openpunctuation" => some (ofTables [Punctuation.opening])
  | "pe" | "closepunctuation" => some (ofTables [Punctuation.closing])
  | "pi" | "initialpunctuation" => some (ofTables [Punctuation.initial])
  | "pf" | "finalpunctuation" => some (ofTables [Punctuation.final])
  | "po" | "otherpunctuation" => some (ofTables [Punctuation.other])
  | "s" | "symbol" => some symbols
  | "sm" | "mathsymbol" => some (ofTables [Symbol.math])
  | "sc" | "currencysymbol" => some (ofTables [Symbol.currency])
  | "sk" | "modifiersymbol" => some (ofTables [Symbol.modifier])
  | "so" | "othersymbol" => some (ofTables [Symbol.other])
  | "z" | "separator" => some separators
  | "zs" | "spaceseparator" => some (ofTables [Separator.space])
  | "zl" | "lineseparator" => some (ofTables [Separator.line])
  | "zp" | "paragraphseparator" => some (ofTables [Separator.paragraph])
  | "c" | "other" => some (union glyphless unassigned)
  | "cc" | "control" | "cntrl" => some (ofTables [Other.control])
  | "cf" | "format" => some (ofTables [Other.format])
  | "co" | "privateuse" => some (ofTables [Other.privateUse])
  | "cn" | "unassigned" => some unassigned
  | _ => none

end RowFilter.Text.CharSet
