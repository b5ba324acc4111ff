import RowFilter.Text.Property.Binary

/-!
# Properties of division

Rules divide a text into characters as a reader sees them, into words, or into sentences.  Each kind
of division sorts the characters into classes.

* `CharSet.graphemeBreak?`, `CharSet.wordBreak?`, `CharSet.sentenceBreak?` — the class of the given
  name.
-/

set_option autoImplicit false

namespace RowFilter.Text.CharSet

/-- The syllables of Hangul from the `first`-th on, out of every block of 28, as spans of
`count`. -/
def syllables (first count : Nat) : CharSet :=
  ⟨(List.range 399).map fun i => (0xac00 + 28 * i + first, 0xac00 + 28 * i + first + (count - 1))⟩

/-- Control characters, line breaks, and what else never joins its neighbours. -/
def separating : CharSet :=
  diff (unions [ofTables [Separator.line, Separator.paragraph, Other.control, Other.format],
      inter unassigned ignorable])
    (unions [one '\r', one '\n', ofTables [Marking.joiner, Marking.prepended, Marking.extending]])

/-- **The class of the given name** for the division into characters as a reader sees them. -/
def graphemeBreak? (name : String) : Option CharSet :=
  match name with
  | "cr" => some (one '\r')
  | "lf" => some (one '\n')
  | "control" | "cn" => some separating
  | "extend" | "ex" => some (union extending (ofTables [Emoji.modifier]))
  | "l" => some (ofTables [Break.jamoInitial])
  | "v" => some (ofTables [Break.jamoVowel])
  | "t" => some (ofTables [Break.jamoFinal])
  | "lv" => some (syllables 0 1)
  | "lvt" => some (syllables 1 27)
  | "prepend" | "pp" => some (ofTables [Marking.prepended, Break.prepending])
  | "regionalindicator" | "ri" => some (ofTables [Emoji.regional])
  | "spacingmark" | "sm" =>
    some (union (diff (ofTables [Mark.spacing]) (ofTables [Marking.extending, Break.unattached]))
      (ofSpans [(0xe33, 0xe33), (0xeb3, 0xeb3)]))
  | "zwj" => some (one '\u200d')
  | _ => none

/-- Marks, and what else belongs to the character before it. -/
def attached : CharSet :=
  union extending (ofTables [Mark.spacing])

/-- What is ignored between the letters of a word. -/
def wordExtending : CharSet :=
  diff (union attached (ofTables [Emoji.modifier])) (one '\u200d')

/-- The letters of words in scripts that part words by spaces. -/
def wordLetter : CharSet :=
  union (ofTables [Break.wordSign])
    (diff alphabetic (unions [ideographic, wordExtending,
      ofTables [Break.katakana, Break.hebrewLetter, Break.unspaced]]))

/-- Digits, and what else numbers consist of. -/
def numberPart : CharSet :=
  ofTables [Number.decimal, Break.numberSign]

/-- **The class of the given name** for the division into words. -/
def wordBreak? (name : String) : Option CharSet :=
  match name with
  | "aletter" | "le" => some wordLetter
  | "cr" => some (one '\r')
  | "lf" => some (one '\n')
  | "doublequote" | "dq" => some (one '"')
  | "singlequote" | "sq" => some (one '\x27')
  | "extend" => some wordExtending
  | "extendnumlet" | "ex" => some (ofTables [Break.connector])
  | "format" | "fo" =>
    some (diff (ofTables [Other.format])
      (unions [one '\u200b', wordExtending, ofTables [Marking.joiner, Marking.prepended]]))
  | "hebrewletter" | "hl" => some (ofTables [Break.hebrewLetter])
  | "katakana" | "ka" => some (ofTables [Break.katakana])
  | "midletter" | "ml" => some (ofTables [Break.midLetter])
  | "midnum" | "mn" => some (ofTables [Break.midNumber])
  | "midnumlet" | "mb" => some (ofTables [Break.midNumberLetter])
  | "newline" | "nl" => some (ofTables [Break.newline])
  | "numeric" | "nu" => some numberPart
  | "regionalindicator" | "ri" => some (ofTables [Emoji.regional])
  | "wsegspace" => some (ofTables [Break.wordSpace])
  | "zwj" => some (one '\u200d')
  | _ => none

/-- What is ignored between the characters of a sentence. -/
def sentenceExtending : CharSet :=
  union attached (one '\u200d')

/-- Lower-case letters, which do not start a sentence. -/
def sentenceLower : CharSet :=
  diff lowercase (union extending (ofTables [Break.caseless]))

/-- Upper-case letters, which can start a sentence. -/
def sentenceUpper : CharSet :=
  diff (union uppercase (ofTables [Letter.titlecase])) (ofTables [Break.caseless])

/-- **The class of the given name** for the division into sentences. -/
def sentenceBreak? (name : String) : Option CharSet :=
  match name with
  | "aterm" | "at" => some (ofTables [Break.fullStop])
  | "close" | "cl" =>
    some (ofTables [Punctuation.opening, Punctuation.closing, Punctuation.initial,
      Punctuation.final, Break.closing])
  | "cr" => some (one '\r')
  | "lf" => some (one '\n')
  | "extend" | "ex" => some sentenceExtending
  | "format" | "fo" =>
    some (union (one '\u070f')
      (diff (ofTables [Other.format])
        (union extending (ofTables [Marking.joiner, Marking.prepended]))))
  | "lower" | "lo" => some sentenceLower
  | "upper" | "up" => some sentenceUpper
  | "numeric" | "nu" => some (union numberPart (one '\u066c'))
  | "oletter" | "le" =>
    some (diff (union alphabetic (one '\u05f3'))
      (unions [sentenceLower, sentenceUpper, sentenceExtending]))
  | "scontinue" | "sc" => some (ofTables [Break.continuing])
  | "sep" | "se" => some (ofSpans [(0x85, 0x85), (0x2028, 0x2029)])
  | "sp" => some (ofTables [Break.space])
  | "sterm" | "st" => some (diff (ofTables [Sign.sentenceEnd]) (ofTables [Break.fullStop]))
  | _ => none

end RowFilter.Text.CharSet
