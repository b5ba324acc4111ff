import RowFilter.Number.Notation

/-!
# Decimal numbers of 96 bits

The second criterion by which number texts are ordered separates numbers that double precision
cannot: a decimal number with a mantissa below `2 ^ 96` and at most 28 places after the point.

Digits are taken from left to right for as long as they fit.  Before the point a digit too many is
an error; after the point it is dropped, the first dropped digit rounds a half away from zero, and
the digits that follow do not count.

* `Decimal96.readPlain` — a sign, digits with at most one point, and underscores between them.
* `Decimal96.read` — the same, or such a number with an exponent.
* `Decimal96.units` — the exact value, counted in units of `10 ^ -28`.
-/

set_option autoImplicit false

namespace RowFilter.Number

/-- The number `mantissa / 10 ^ scale`, or its negative. -/
structure Decimal96 where
  /-- Whether the number is below zero. -/
  negative : Bool
  /-- The digits, without the point. -/
  mantissa : Nat
  /-- How many of the digits stand after the point. -/
  scale : Nat
deriving Repr, DecidableEq

namespace Decimal96

/-- Mantissas are below this bound. -/
def bound : Nat := Nat.pow 2 96

/-- The largest scale. -/
def maxScale : Nat := 28

/-- The value in units of `10 ^ -28`. -/
def units (d : Decimal96) : Int :=
  let n : Nat := d.mantissa * Nat.pow 10 (maxScale - d.scale)
  if d.negative then -(n : Int) else n

/-! ## Reading without an exponent -/

/-- Rounds by the first digit that no longer fits.  If the mantissa reaches the bound it gives up
its last digit, which only a number with places after the point can. -/
def roundBy (negative : Bool) (mantissa scale digit : Nat) : Option Decimal96 :=
  if digit < 5 then some ⟨negative, mantissa, scale⟩
  else if mantissa + 1 < bound then some ⟨negative, mantissa + 1, scale⟩
  else if scale = 0 then none
  else some ⟨negative, (mantissa + 5) / 10, scale - 1⟩

/-- How far a number has been read. -/
structure Progress where
  /-- The digits so far. -/
  mantissa : Nat := 0
  /-- How many of them stand after the point. -/
  scale : Nat := 0
  /-- Whether the point has been read. -/
  pointed : Bool := false
  /-- Whether a digit has been read. -/
  started : Bool := false

/-- Ends a number by the digits that no longer fit, of which the first one rounds.  Underscores may
stand between them. -/
def finish (negative : Bool) (p : Progress) (rest : List Char) : Option Decimal96 :=
  if rest.all fun c => c.isDigit || c == '_' then
    match rest.dropWhile (· == '_') with
    | [] => some ⟨negative, p.mantissa, p.scale⟩
    | c :: _ => roundBy negative p.mantissa p.scale (digitValue c)
  else none

/-- Takes the remaining characters of a number. -/
def readFrom (negative : Bool) (p : Progress) : List Char → Option Decimal96
  | [] => if p.started then some ⟨negative, p.mantissa, p.scale⟩ else none
  | c :: cs =>
    if p.scale == maxScale then finish negative p (c :: cs)
    else if c.isDigit then
      let digit := digitValue c
      let next := p.mantissa * 10 + digit
      if bound ≤ next then
        if p.pointed then finish negative p (c :: cs) else none
      else
        readFrom negative
          { p with
            mantissa := next, scale := if p.pointed then p.scale + 1 else 0, started := true }
          cs
    else if c == '.' && !p.pointed then readFrom negative { p with pointed := true } cs
    else if c == '_' && p.started then readFrom negative p cs
    else none

/-- A sign, digits with at most one point, and underscores after the first digit. -/
def readPlain : List Char → Option Decimal96
  | '-' :: cs => readFrom true {} cs
  | '+' :: cs => readFrom false {} cs
  | cs => readFrom false {} cs

/-! ## Reading with an exponent -/

/-- An exponent's digits, which a plus may precede; they have to fit into 32 bits. -/
def readExponent (cs : List Char) : Option Nat :=
  let digits := match cs with
    | '+' :: ds => ds
    | ds => ds
  if isDigits digits && digitsValue digits < Nat.pow 2 32 then some (digitsValue digits) else none

/-- The number with `places` digits after the point, a half going away from zero. -/
def roundTo (d : Decimal96) (places : Nat) : Decimal96 :=
  let p := Nat.pow 10 (d.scale - places)
  { d with mantissa := (2 * d.mantissa + p) / (2 * p), scale := places }

/-- The number divided by `10 ^ e`; the digits that would stand beyond the last place are rounded
away first. -/
def divPow (d : Decimal96) (e : Nat) : Option Decimal96 :=
  if maxScale < e then none
  else if maxScale < d.scale + e then
    some { d.roundTo (maxScale - e) with scale := maxScale }
  else some { d with scale := d.scale + e }

/-- The number multiplied by `10 ^ e`. -/
def mulPow (d : Decimal96) (e : Nat) : Option Decimal96 :=
  if e ≤ d.scale then some { d with scale := d.scale - e }
  else if maxScale < e then none
  else
    let n := d.mantissa * Nat.pow 10 (e - d.scale)
    if n < bound then some ⟨d.negative, n, 0⟩ else none

/-- A number followed by the mark of an exponent and the exponent. -/
def readScientific (cs : List Char) : Option Decimal96 :=
  let isMark := fun c => c == 'e' || c == 'E'
  match cs.dropWhile fun c => !isMark c with
  | [] => none
  | _ :: exponent => do
    let d ← readPlain (cs.takeWhile fun c => !isMark c)
    match exponent with
    | '-' :: ds => d.divPow (← readExponent ds)
    | ds => d.mulPow (← readExponent ds)

/-- The number that the text denotes, if it denotes one. -/
def read (text : String) : Option Decimal96 :=
  match readPlain text.toList with
  | some d => some d
  | none => readScientific text.toList

end Decimal96

end RowFilter.Number
