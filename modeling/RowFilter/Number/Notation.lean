/-!
# The notation of numbers

A number inside a residual is kept as the text it was written with.  `isValid` says which texts
are numbers at all: an optional minus, an integer part without a redundant leading zero, an
optional fraction and an optional exponent.
-/

set_option autoImplicit false

namespace RowFilter.Number

/-- The value of a decimal digit. -/
def digitValue (c : Char) : Nat :=
  c.toNat - '0'.toNat

/-- The value of a row of decimal digits. -/
def digitsValue (cs : List Char) : Nat :=
  cs.foldl (fun n c => n * 10 + digitValue c) 0

/-- The text starts with a digit and holds nothing but digits. -/
def isDigits (cs : List Char) : Bool :=
  !cs.isEmpty && cs.all Char.isDigit

/-- An optional sign and at least one digit. -/
def isExponent : List Char → Bool
  | '+' :: cs => isDigits cs
  | '-' :: cs => isDigits cs
  | cs => isDigits cs

/-- What may follow the fraction: nothing, or an exponent after its mark. -/
def isExponentPart : List Char → Bool
  | [] => true
  | c :: cs => (c == 'e' || c == 'E') && isExponent cs

/-- What may follow the integer part: a fraction of at least one digit, and an exponent. -/
def isFractionPart : List Char → Bool
  | '.' :: cs => !(cs.takeWhile Char.isDigit).isEmpty && isExponentPart (cs.dropWhile Char.isDigit)
  | cs => isExponentPart cs

/-- A number without its sign: the integer part is a single zero or starts with another digit. -/
def isUnsigned : List Char → Bool
  | '0' :: cs => isFractionPart cs
  | c :: cs => c.isDigit && isFractionPart (cs.dropWhile Char.isDigit)
  | [] => false

/-- Whether the characters are a number. -/
def isNumber : List Char → Bool
  | '-' :: cs => isUnsigned cs
  | cs => isUnsigned cs

/-- Whether the text is a number. -/
def isValid (text : String) : Bool :=
  isNumber text.toList

end RowFilter.Number
