import RowFilter.Number.Notation

/-!
# Numbers rounded to double precision

The first criterion by which number texts are ordered is the binary floating point number of 64
bits nearest to them.  Only the order of these numbers matters, so a number is represented by its
*place*: the finite numbers and the two infinities are counted outwards from zero, which has place
`0`, and the place of a negative number is negative.  The place of a positive number is its bit
pattern read as an integer, since bit patterns grow with the numbers they stand for.

* `Binary64.roundQuotient` — the place of the number nearest to a quotient, a half going to the
  even neighbour.
* `Binary64.place` — the place of `mantissa * 10 ^ exponent`; too large is infinite, too small
  is zero.
* `Binary64.read` — the place of the number that a text denotes, if it denotes one.  This notation
  is wider than `Number.isValid`: a plus sign, a missing integer part or fraction and the names of
  the infinities are accepted.
-/

set_option autoImplicit false

namespace RowFilter.Number.Binary64

/-! ## Rounding -/

/-- The integer nearest to `n / d`, a half going to the even neighbour. -/
def roundDiv (n d : Nat) : Nat :=
  let q := n / d
  let twice := 2 * (n % d)
  if twice < d then q
  else if d < twice then q + 1
  else if q % 2 = 0 then q else q + 1

/-- The place of the infinities. -/
def infinite : Nat :=
  0x7ff * Nat.pow 2 52

/-- The quotient `n / (d * 2 ^ shift)` as a numerator and a denominator. -/
def scaled (n d : Nat) (shift : Int) : Nat × Nat :=
  if 0 ≤ shift then (n, d * Nat.pow 2 shift.toNat) else (n * Nat.pow 2 (-shift).toNat, d)

/-- The power of two that the last bit of the number nearest to `n / d` counts: the quotient has 53
binary digits above it, except that no number has bits below `2 ^ -1074`. -/
def lastBit (n d : Nat) : Int :=
  let guess : Int := (n.log2 : Int) - d.log2 - 52
  let (a, b) := scaled n d guess
  max (if a / b < Nat.pow 2 52 then guess - 1 else guess) (-1074)

/-- The place of the number nearest to `n / d`. -/
def roundQuotient (n d : Nat) : Nat :=
  let shift := lastBit n d
  let (a, b) := scaled n d shift
  min ((shift + 1074).toNat * Nat.pow 2 52 + roundDiv a b) infinite

/-- The place of the number nearest to `mantissa * 10 ^ exponent`.  A large exponent alone settles
that the number is infinite.  Since `10 ^ n` is at least `2 ^ (3 * n)`, the number of binary digits
settles that it is less than half of the smallest number. -/
def place (mantissa : Nat) (exponent : Int) : Nat :=
  if mantissa = 0 then 0
  else if 309 < exponent then infinite
  else if 0 ≤ exponent then roundQuotient (mantissa * Nat.pow 10 exponent.toNat) 1
  else if (mantissa.log2 : Int) + 1 + 3 * exponent ≤ -1075 then 0
  else roundQuotient mantissa (Nat.pow 10 (-exponent).toNat)

/-! ## Reading -/

/-- The value of an exponent's digits.  Digits beyond 65536 no longer count, since the number is
infinite or zero by then. -/
def exponentValue (cs : List Char) : Nat :=
  cs.foldl (fun n c => if n < 0x10000 then n * 10 + digitValue c else n) 0

/-- What follows the fraction: nothing, or the mark of an exponent, a sign and digits. -/
def readExponent : List Char → Option Int
  | [] => some 0
  | c :: cs =>
    if c == 'e' || c == 'E' then
      match cs with
      | '-' :: ds => if isDigits ds then some (-(exponentValue ds : Int)) else none
      | '+' :: ds => if isDigits ds then some (exponentValue ds) else none
      | ds => if isDigits ds then some (exponentValue ds) else none
    else none

/-- The place of a number without sign: digits with at most one point among them, at least one
digit, and an optional exponent. -/
def readDecimal (cs : List Char) : Option Nat :=
  let whole := cs.takeWhile Char.isDigit
  let (part, rest) :=
    match cs.dropWhile Char.isDigit with
    | '.' :: ds => (ds.takeWhile Char.isDigit, ds.dropWhile Char.isDigit)
    | ds => ([], ds)
  if whole.isEmpty && part.isEmpty then none
  else (readExponent rest).map fun e => place (digitsValue (whole ++ part)) (e - part.length)

/-- The place of a number without sign, or of infinity by one of its names.  A text that is no
number at all, and the name of the undefined number, have no place. -/
def readUnsigned (cs : List Char) : Option Nat :=
  match readDecimal cs with
  | some n => some n
  | none =>
    let name := String.ofList (cs.map Char.toLower)
    if name = "inf" || name = "infinity" then some infinite else none

/-- The place of the number that the text denotes, if it denotes one. -/
def read (text : String) : Option Int :=
  match text.toList with
  | '-' :: cs => (readUnsigned cs).map fun n => -(n : Int)
  | '+' :: cs => (readUnsigned cs).map fun n => (n : Int)
  | cs => (readUnsigned cs).map fun n => (n : Int)

end RowFilter.Number.Binary64
