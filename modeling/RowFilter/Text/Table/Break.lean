import RowFilter.Text.CharSet

/-!
# Where texts can be divided

Code points that matter where a text is divided into characters as a reader sees them, into words,
or into sentences.
-/

set_option autoImplicit false
set_option maxRecDepth 4000

namespace RowFilter.Text.Break

/-- Initial consonants of Hangul syllables. -/
def jamoInitial : CodeTable where
  spans := [
    (0x1100, 0x115f), (0xa960, 0xa97c)]

/-- Vowels of Hangul syllables, and what behaves like them. -/
def jamoVowel : CodeTable where
  spans := [
    (0x1160, 0x11a7), (0xd7b0, 0xd7c6), (0x16d63, 0x16d63), (0x16d67, 0x16d6a)]

/-- Final consonants of Hangul syllables. -/
def jamoFinal : CodeTable where
  spans := [
    (0x11a8, 0x11ff), (0xd7cb, 0xd7fb)]

/-- Signs that the character behind them belongs to, besides those that span digits. -/
def prepending : CodeTable where
  spans := [
    (0xd4e, 0xd4e), (0x111c2, 0x111c3), (0x113d1, 0x113d1), (0x1193f, 0x1193f), (0x11941, 0x11941),
    (0x11a3a, 0x11a3a), (0x11a84, 0x11a89), (0x11d46, 0x11d46), (0x11f02, 0x11f02)]

/-- Spacing marks that do not attach to the character before them. -/
def unattached : CodeTable where
  spans := [
    (0x102b, 0x102c), (0x1038, 0x1038), (0x1062, 0x1064), (0x1067, 0x106d), (0x1083, 0x1083),
    (0x1087, 0x108c), (0x108f, 0x108f), (0x109a, 0x109c), (0x1a61, 0x1a61), (0x1a63, 0x1a64),
    (0xaa7b, 0xaa7b), (0xaa7d, 0xaa7d), (0x11720, 0x11721)]

/-- Letters of Hebrew. -/
def hebrewLetter : CodeTable where
  spans := [
    (0x5d0, 0x5ea), (0x5ef, 0x5f2), (0xfb1d, 0xfb1d), (0xfb1f, 0xfb28), (0xfb2a, 0xfb36),
    (0xfb38, 0xfb3c), (0xfb3e, 0xfb3e), (0xfb40, 0xfb41), (0xfb43, 0xfb44), (0xfb46, 0xfb4f)]

/-- Katakana. -/
def katakana : CodeTable where
  spans := [
    (0x3031, 0x3035), (0x309b, 0x309c), (0x30a0, 0x30fa), (0x30fc, 0x30ff), (0x31f0, 0x31ff),
    (0x32d0, 0x32fe), (0x3300, 0x3357), (0xff66, 0xff9d), (0x1aff0, 0x1aff3), (0x1aff5, 0x1affb),
    (0x1affd, 0x1affe), (0x1b000, 0x1b000), (0x1b120, 0x1b122), (0x1b155, 0x1b155),
    (0x1b164, 0x1b167)]

/-- Letters of scripts that do not part words by spaces. -/
def unspaced : CodeTable where
  spans := [
    (0xe01, 0xe30), (0xe32, 0xe33), (0xe40, 0xe46), (0xe81, 0xe82), (0xe84, 0xe84), (0xe86, 0xe8a),
    (0xe8c, 0xea3), (0xea5, 0xea5), (0xea7, 0xeb0), (0xeb2, 0xeb3), (0xebd, 0xebd), (0xec0, 0xec4),
    (0xec6, 0xec6), (0xedc, 0xedf), (0x1000, 0x102a), (0x103f, 0x103f), (0x1050, 0x1055),
    (0x105a, 0x105d), (0x1061, 0x1061), (0x1065, 0x1066), (0x106e, 0x1070), (0x1075, 0x1081),
    (0x108e, 0x108e), (0x1780, 0x17b3), (0x17d7, 0x17d7), (0x17dc, 0x17dc), (0x1950, 0x196d),
    (0x1970, 0x1974), (0x1980, 0x19ab), (0x19b0, 0x19c9), (0x1a20, 0x1a54), (0x1aa7, 0x1aa7),
    (0x3041, 0x3096), (0x309d, 0x309f), (0xa9e0, 0xa9e4), (0xa9e6, 0xa9ef), (0xa9fa, 0xa9fe),
    (0xaa60, 0xaa76), (0xaa7a, 0xaa7a), (0xaa7e, 0xaaaf), (0xaab1, 0xaab1), (0xaab5, 0xaab6),
    (0xaab9, 0xaabd), (0xaac0, 0xaac0), (0xaac2, 0xaac2), (0xaadb, 0xaadd), (0x11700, 0x1171a),
    (0x11740, 0x11746), (0x1b001, 0x1b11f), (0x1b132, 0x1b132), (0x1b150, 0x1b152)]

/-- Signs that count as letters of a word. -/
def wordSign : CodeTable where
  spans := [
    (0x2c2, 0x2c5), (0x2d2, 0x2d7), (0x2de, 0x2df), (0x2e5, 0x2eb), (0x2ed, 0x2ed), (0x2ef, 0x2ff),
    (0x55a, 0x55c), (0x55e, 0x55e), (0x58a, 0x58a), (0x5f3, 0x5f3), (0x70f, 0x70f),
    (0xa708, 0xa716), (0xa720, 0xa721), (0xa789, 0xa78a), (0xab5b, 0xab5b)]

/-- Signs between the letters of a word. -/
def midLetter : CodeTable where
  spans := [
    (0x3a, 0x3a), (0xb7, 0xb7), (0x387, 0x387), (0x55f, 0x55f), (0x5f4, 0x5f4), (0x2027, 0x2027),
    (0xfe13, 0xfe13), (0xfe55, 0xfe55), (0xff1a, 0xff1a)]

/-- Signs between the digits of a number. -/
def midNumber : CodeTable where
  spans := [
    (0x2c, 0x2c), (0x3b, 0x3b), (0x37e, 0x37e), (0x589, 0x589), (0x60c, 0x60d), (0x66c, 0x66c),
    (0x7f8, 0x7f8), (0x2044, 0x2044), (0xfe50, 0xfe50), (0xfe54, 0xfe54), (0xff0c, 0xff0c),
    (0xff1b, 0xff1b)]

/-- Signs between letters or digits. -/
def midNumberLetter : CodeTable where
  spans := [
    (0x2e, 0x2e), (0x2018, 0x2019), (0x2024, 0x2024), (0xfe52, 0xfe52), (0xff07, 0xff07),
    (0xff0e, 0xff0e)]

/-- Signs that count as digits of a number. -/
def numberSign : CodeTable where
  spans := [
    (0x600, 0x605), (0x66b, 0x66b), (0x6dd, 0x6dd), (0x890, 0x891), (0x8e2, 0x8e2),
    (0x19da, 0x19da), (0x110bd, 0x110bd), (0x110cd, 0x110cd)]

/-- Signs that connect words and numbers. -/
def connector : CodeTable where
  spans := [
    (0x5f, 0x5f), (0x202f, 0x202f), (0x203f, 0x2040), (0x2054, 0x2054), (0xfe33, 0xfe34),
    (0xfe4d, 0xfe4f), (0xff3f, 0xff3f)]

/-- Line breaks besides the line feed and the carriage return. -/
def newline : CodeTable where
  spans := [
    (0xb, 0xc), (0x85, 0x85), (0x2028, 0x2029)]

/-- Spaces between words. -/
def wordSpace : CodeTable where
  spans := [
    (0x20, 0x20), (0x1680, 0x1680), (0x2000, 0x2006), (0x2008, 0x200a), (0x205f, 0x205f),
    (0x3000, 0x3000)]

/-- Signs that may end a sentence, or an abbreviation. -/
def fullStop : CodeTable where
  spans := [
    (0x2e, 0x2e), (0x2024, 0x2024), (0xfe52, 0xfe52), (0xff0e, 0xff0e)]

/-- Signs behind which a sentence goes on. -/
def continuing : CodeTable where
  spans := [
    (0x2c, 0x2d), (0x3a, 0x3b), (0x37e, 0x37e), (0x55d, 0x55d), (0x60c, 0x60d), (0x7f8, 0x7f8),
    (0x1802, 0x1802), (0x1808, 0x1808), (0x2013, 0x2014), (0x3001, 0x3001), (0xfe10, 0xfe11),
    (0xfe13, 0xfe14), (0xfe31, 0xfe32), (0xfe50, 0xfe51), (0xfe54, 0xfe55), (0xfe58, 0xfe58),
    (0xfe63, 0xfe63), (0xff0c, 0xff0d), (0xff1a, 0xff1b), (0xff64, 0xff64)]

/-- Quotation marks, besides those that are brackets by category. -/
def closing : CodeTable where
  spans := [
    (0x22, 0x22), (0x27, 0x27), (0x275b, 0x2760), (0x2e00, 0x2e01), (0x2e06, 0x2e08),
    (0x2e0b, 0x2e0b), (0x1f676, 0x1f678)]

/-- Spaces within a line. -/
def space : CodeTable where
  spans := [
    (0x9, 0x9), (0xb, 0xc), (0x20, 0x20), (0xa0, 0xa0), (0x1680, 0x1680), (0x2000, 0x200a),
    (0x202f, 0x202f), (0x205f, 0x205f), (0x3000, 0x3000)]

/-- Letters of Georgian, whose case does not mark the start of a sentence. -/
def caseless : CodeTable where
  spans := [
    (0x10d0, 0x10fa), (0x10fd, 0x10ff), (0x1c90, 0x1cba), (0x1cbd, 0x1cbf)]

end RowFilter.Text.Break
