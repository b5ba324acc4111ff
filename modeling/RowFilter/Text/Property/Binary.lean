import RowFilter.Text.Property.Category
import RowFilter.Text.Table.Break
import RowFilter.Text.Table.Casing
import RowFilter.Text.Table.Emoji
import RowFilter.Text.Table.Ideograph
import RowFilter.Text.Table.Marking
import RowFilter.Text.Table.Naming
import RowFilter.Text.Table.Sign

/-!
# Properties that a character has or has not

Most of these properties are put together from the general categories and a table of exceptions; the
others are tables.

* `CharSet.binary?` — the characters with the property of the given name.
-/

set_option autoImplicit false

namespace RowFilter.Text.CharSet

/-! ## Letters and words -/

/-- Lower-case characters. -/
def lowercase : CharSet :=
  ofTables [Letter.lowercase, Casing.lowercase]

/-- Upper-case characters. -/
def uppercase : CharSet :=
  ofTables [Letter.uppercase, Casing.uppercase]

/-- Characters with case. -/
def cased : CharSet :=
  unions [lowercase, uppercase, ofTables [Letter.titlecase]]

/-- Alphabetic characters: letters, letter-like numerals, and the marks that spell vowels. -/
def alphabetic : CharSet :=
  unions [letters, ofTables [Number.letter, Marking.alphabetic]]

/-- The characters of words: alphabetic characters, marks, decimal digits, connectors and
joiners. -/
def word : CharSet :=
  unions [alphabetic, marks, ofTables [Number.decimal, Punctuation.connector, Marking.joiner]]

/-- Ideographs. -/
def ideographic : CharSet :=
  ofTables [Ideograph.unified, Ideograph.further]

/-- White space. -/
def blank : CharSet :=
  union separators (ofSpans [(0x09, 0x0d), (0x85, 0x85)])

/-! ## Marks -/

/-- Characters that extend the one before them. -/
def extending : CharSet :=
  ofTables [Mark.nonspacing, Mark.enclosing, Marking.extending]

/-- Characters that can be extended. -/
def base : CharSet :=
  diff (compl (unions [glyphless, unassigned])) (union extending (ofTables [Separator.line,
    Separator.paragraph]))

/-- Characters without a glyph that a reader does not miss. -/
def ignorable : CharSet :=
  diff (ofTables [Marking.ignorable, Marking.variation, Other.format])
    (union (ofTables [Marking.prepended]) (ofSpans [(0xfff9, 0xfffb), (0x13430, 0x13440)]))

/-- Characters that are skipped when looking for the case of a word. -/
def caseIgnorable : CharSet :=
  union (ofTables [Mark.nonspacing, Mark.enclosing, Other.format, Letter.modifier, Symbol.modifier,
    Break.midLetter, Break.midNumberLetter]) (one '\x27')

/-! ## Identifiers -/

/-- Characters kept for notations. -/
def reserved : CharSet :=
  ofTables [Naming.reserved, Naming.reservedBlank]

/-- Characters with which an identifier can start. -/
def identifierStart : CharSet :=
  diff (union letters (ofTables [Number.letter, Naming.start])) reserved

/-- Characters of which an identifier can consist. -/
def identifierPart : CharSet :=
  diff (unions [identifierStart, ofTables [Mark.nonspacing, Mark.spacing, Number.decimal,
    Punctuation.connector, Naming.further]]) reserved

/-! ## Changes of case -/

/-- Characters that full case folding changes. -/
def folding : CharSet :=
  diff (ofSpans (points (foldPairs.map Prod.fst) ++ tableSpans Casing.foldingApart))
    (ofTables [Casing.foldingKept])

/-- Characters that lowering the case changes. -/
def lowering : CharSet :=
  diff (ofSpans (points (foldPairs.map Prod.fst) ++ tableSpans Casing.loweringApart))
    (ofTables [Casing.loweringKept])

/-- Characters that raising the case changes. -/
def raising : CharSet :=
  union
    (diff (ofSpans (points (foldPairs.flatMap fun (n, r) => [n, r]))) lowering)
    (ofTables [Casing.raisingApart])

/-- Characters that putting them into title case changes. -/
def titling : CharSet :=
  diff (union raising (ofTables [Casing.titlingApart])) (ofTables [Casing.titlingKept])

/-! ## Names -/

/-- The properties of letters, words and case. -/
def letterProperty? (name : String) : Option CharSet :=
  match name with
  | "alphabetic" | "alpha" => some alphabetic
  | "lowercase" | "lower" => some lowercase
  | "uppercase" | "upper" => some uppercase
  | "cased" => some cased
  | "caseignorable" | "ci" => some caseIgnorable
  | "changeswhencasefolded" | "cwcf" => some folding
  | "changeswhencasemapped" | "cwcm" => some (unions [lowering, raising, titling])
  | "changeswhenlowercased" | "cwl" => some lowering
  | "changeswhentitlecased" | "cwt" => some titling
  | "changeswhenuppercased" | "cwu" => some raising
  | "softdotted" | "sd" => some (ofTables [Casing.softDotted])
  | "otheralphabetic" | "oalpha" => some (ofTables [Marking.alphabetic])
  | "otherlowercase" | "olower" => some (ofTables [Casing.lowercase])
  | "otheruppercase" | "oupper" => some (ofTables [Casing.uppercase])
  | "ideographic" | "ideo" => some ideographic
  | "unifiedideograph" | "uideo" => some (ofTables [Ideograph.unified])
  | "radical" => some (ofTables [Ideograph.radical])
  | "idsbinaryoperator" | "idsb" => some (ofTables [Ideograph.binaryDescription])
  | "idstrinaryoperator" | "idst" => some (ofTables [Ideograph.ternaryDescription])
  | "idsunaryoperator" | "idsu" => some (ofTables [Ideograph.unaryDescription])
  | _ => none

/-- The properties of marks and of characters without a glyph. -/
def markProperty? (name : String) : Option CharSet :=
  match name with
  | "graphemebase" | "grbase" => some base
  | "graphemeextend" | "grext" => some extending
  | "graphemelink" | "grlink" => some (ofTables [Marking.link])
  | "othergraphemeextend" | "ogrext" => some (ofTables [Marking.extending])
  | "diacritic" | "dia" => some (ofTables [Marking.diacritic])
  | "extender" | "ext" => some (ofTables [Marking.extender])
  | "modifiercombiningmark" | "mcm" => some (ofTables [Marking.modifierCombining])
  | "prependedconcatenationmark" | "pcm" => some (ofTables [Marking.prepended])
  | "variationselector" | "vs" => some (ofTables [Marking.variation])
  | "joincontrol" | "joinc" => some (ofTables [Marking.joiner])
  | "logicalorderexception" | "loe" => some (ofTables [Marking.logicalOrder])
  | "defaultignorablecodepoint" | "di" => some ignorable
  | "otherdefaultignorablecodepoint" | "odi" => some (ofTables [Marking.ignorable])
  | "deprecated" | "dep" => some (ofTables [Marking.deprecated])
  | "noncharactercodepoint" | "nchar" => some (ofTables [Naming.noncharacter])
  | _ => none

/-- The properties of identifiers, numbers and notations. -/
def namingProperty? (name : String) : Option CharSet :=
  match name with
  | "asciihexdigit" | "ahex" => some (inter ascii (ofTables [Naming.hexDigit]))
  | "hexdigit" | "hex" => some (ofTables [Naming.hexDigit])
  | "idstart" | "ids" => some identifierStart
  | "idcontinue" | "idc" => some identifierPart
  | "xidstart" | "xids" => some (diff identifierStart (ofTables [Naming.startUnstable]))
  | "xidcontinue" | "xidc" => some (diff identifierPart (ofTables [Naming.furtherUnstable]))
  | "otheridstart" | "oids" => some (ofTables [Naming.start])
  | "otheridcontinue" | "oidc" => some (ofTables [Naming.further])
  | "idcompatmathstart" => some (ofTables [Naming.mathStart])
  | "idcompatmathcontinue" => some (ofTables [Naming.mathStart, Naming.mathFurther])
  | "patternsyntax" | "patsyn" => some (ofTables [Naming.reserved])
  | "patternwhitespace" | "patws" => some (ofTables [Naming.reservedBlank])
  | _ => none

/-- The properties of signs, white space and emoji. -/
def signProperty? (name : String) : Option CharSet :=
  match name with
  | "whitespace" | "wspace" | "space" => some blank
  | "dash" => some (ofTables [Sign.dash])
  | "hyphen" => some (ofTables [Sign.hyphen])
  | "quotationmark" | "qmark" => some (ofTables [Sign.quotation])
  | "terminalpunctuation" | "term" => some (ofTables [Sign.terminal])
  | "sentenceterminal" | "sterm" => some (ofTables [Sign.sentenceEnd])
  | "math" => some (ofTables [Symbol.math, Sign.math])
  | "othermath" | "omath" => some (ofTables [Sign.math])
  | "bidimirrored" | "bidim" => some (ofTables [Sign.mirrored])
  | "bidicontrol" | "bidic" => some (ofTables [Sign.direction])
  | "emoji" => some (ofTables [Emoji.emoji])
  | "emojicomponent" | "ecomp" => some (ofTables [Emoji.component])
  | "emojimodifier" | "emod" => some (ofTables [Emoji.modifier])
  | "emojimodifierbase" | "ebase" => some (ofTables [Emoji.modifierBase])
  | "emojipresentation" | "epres" => some (ofTables [Emoji.presentation])
  | "extendedpictographic" | "extpict" => some (ofTables [Emoji.pictographic])
  | "regionalindicator" | "ri" => some (ofTables [Emoji.regional])
  | _ => none

/-- **The characters with the property of the given name**, which is in lower case and has no signs
that part words. -/
def binary? (name : String) : Option CharSet :=
  letterProperty? name <|> markProperty? name <|> namingProperty? name <|> signProperty? name

end RowFilter.Text.CharSet
