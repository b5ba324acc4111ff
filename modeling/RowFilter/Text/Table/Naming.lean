import RowFilter.Text.CharSet

/-!
# Characters of identifiers and of notations

Exceptions to the rule that identifiers consist of letters, marks and digits, and the characters
that are kept for notations.
-/

set_option autoImplicit false
set_option maxRecDepth 4000

namespace RowFilter.Text.Naming

/-- Characters besides the letters with which an identifier can start. -/
def start : CodeTable where
  spans := [
    (0x1885, 0x1886), (0x2118, 0x2118), (0x212e, 0x212e), (0x309b, 0x309c)]

/-- Characters besides letters, marks and digits that can go on an identifier. -/
def further : CodeTable where
  spans := [
    (0xb7, 0xb7), (0x387, 0x387), (0x1369, 0x1371), (0x19da, 0x19da), (0x200c, 0x200d),
    (0x30fb, 0x30fb), (0xff65, 0xff65)]

/-- Characters whose normal form cannot start an identifier. -/
def startUnstable : CodeTable where
  spans := [
    (0x37a, 0x37a), (0xe33, 0xe33), (0xeb3, 0xeb3), (0x309b, 0x309c), (0xfc5e, 0xfc63),
    (0xfdfa, 0xfdfb), (0xff9e, 0xff9f)]
  alternating := [
    (0xfe70, 0xfe7e)]

/-- Characters whose normal form cannot go on an identifier. -/
def furtherUnstable : CodeTable where
  spans := [
    (0x37a, 0x37a), (0x309b, 0x309c), (0xfc5e, 0xfc63), (0xfdfa, 0xfdfb)]
  alternating := [
    (0xfe70, 0xfe7e)]

/-- Characters kept for notations. -/
def reserved : CodeTable where
  spans := [
    (0x21, 0x2f), (0x3a, 0x40), (0x5b, 0x5e), (0x60, 0x60), (0x7b, 0x7e), (0xa1, 0xa7),
    (0xa9, 0xa9), (0xab, 0xac), (0xae, 0xae), (0xb0, 0xb1), (0xb6, 0xb6), (0xbb, 0xbb),
    (0xbf, 0xbf), (0xd7, 0xd7), (0xf7, 0xf7), (0x2010, 0x2027), (0x2030, 0x203e), (0x2041, 0x2053),
    (0x2055, 0x205e), (0x2190, 0x245f), (0x2500, 0x2775), (0x2794, 0x2bff), (0x2e00, 0x2e7f),
    (0x3001, 0x3003), (0x3008, 0x3020), (0x3030, 0x3030), (0xfd3e, 0xfd3f), (0xfe45, 0xfe46)]

/-- White space of notations. -/
def reservedBlank : CodeTable where
  spans := [
    (0x9, 0xd), (0x20, 0x20), (0x85, 0x85), (0x200e, 0x200f), (0x2028, 0x2029)]

/-- Mathematical characters with which an identifier can start, where these are allowed. -/
def mathStart : CodeTable where
  spans := [
    (0x2202, 0x2202), (0x2207, 0x2207), (0x221e, 0x221e), (0x1d6c1, 0x1d6c1), (0x1d6db, 0x1d6db),
    (0x1d6fb, 0x1d6fb), (0x1d715, 0x1d715), (0x1d735, 0x1d735), (0x1d74f, 0x1d74f),
    (0x1d76f, 0x1d76f), (0x1d789, 0x1d789), (0x1d7a9, 0x1d7a9), (0x1d7c3, 0x1d7c3)]

/-- Sub- and superscripts that can go on an identifier, where these are allowed. -/
def mathFurther : CodeTable where
  spans := [
    (0xb2, 0xb3), (0xb9, 0xb9), (0x2070, 0x2070), (0x2074, 0x207e), (0x2080, 0x208e)]

/-- Hexadecimal digits, the wide ones included. -/
def hexDigit : CodeTable where
  spans := [
    (0x30, 0x39), (0x41, 0x46), (0x61, 0x66), (0xff10, 0xff19), (0xff21, 0xff26), (0xff41, 0xff46)]

/-- Code points that are no characters. -/
def noncharacter : CodeTable where
  spans := [
    (0xfdd0, 0xfdef), (0xfffe, 0xffff), (0x1fffe, 0x1ffff), (0x2fffe, 0x2ffff), (0x3fffe, 0x3ffff),
    (0x4fffe, 0x4ffff), (0x5fffe, 0x5ffff), (0x6fffe, 0x6ffff), (0x7fffe, 0x7ffff),
    (0x8fffe, 0x8ffff), (0x9fffe, 0x9ffff), (0xafffe, 0xaffff), (0xbfffe, 0xbffff),
    (0xcfffe, 0xcffff), (0xdfffe, 0xdffff), (0xefffe, 0xeffff), (0xffffe, 0xfffff),
    (0x10fffe, 0x10ffff)]

end RowFilter.Text.Naming
