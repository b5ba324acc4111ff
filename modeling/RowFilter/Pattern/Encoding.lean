import RowFilter.Text.CharSet

/-!
# Spans of characters as rows of bytes

In UTF-8 a character is a row of one to four bytes.  A span of characters can be cut into pieces
such that the rows of each piece are all combinations of one byte from each of up to four spans of
bytes.  The cuts come at the surrogates, where rows become longer, and where a byte behind the first
one would not run through all its values.

* `Encoding.rows` — the pieces of a span, each as a row of spans of bytes, in increasing order.
-/

set_option autoImplicit false

namespace RowFilter.Pattern.Encoding

open Text (CharSet)

/-- A span of bytes, both ends included. -/
abbrev ByteSpan := Nat × Nat

/-- A row of spans of bytes. -/
abbrev Row := List ByteSpan

/-- The bytes of the character at the code point `n`. -/
def bytes (n : Nat) : List Nat :=
  let tail (k : Nat) : Nat := 0x80 + n / k % 64
  if n ≤ 0x7f then [n]
  else if n ≤ 0x7ff then [0xc0 + n / 64, tail 1]
  else if n ≤ 0xffff then [0xe0 + n / 4096, tail 64, tail 1]
  else [0xf0 + n / 262144, tail 4096, tail 64, tail 1]

/-- The bytes of a text. -/
def ofChars (chars : List Char) : List Nat :=
  chars.flatMap fun c => bytes c.toNat

/-- A cut behind `border`, if it lies within the span. -/
def cutBehind (first last border : Nat) : Option Nat :=
  if first ≤ border ∧ border < last then some (border + 1) else none

/-- A cut at a multiple of `unit`, if the span has several of them and does not run through all code
points between them. -/
def cutAtMultiple (first last unit : Nat) : Option Nat :=
  if first / unit = last / unit then none
  else if first % unit ≠ 0 then some ((first / unit + 1) * unit)
  else if last % unit ≠ unit - 1 then some (last / unit * unit)
  else none

/-- Where a span is to be cut first, if it is not a single row. -/
def cut? (first last : Nat) : Option Nat :=
  if first < 0xe000 ∧ 0xd7ff < last then some 0xe000
  else
    let cut := cutBehind first last
    match cut 0x7f <|> cut 0x7ff <|> cut 0xffff with
    | some p => some p
    | none =>
      if last ≤ 0x7f then none
      else cutAtMultiple first last 64 <|> cutAtMultiple first last 4096 <|>
        cutAtMultiple first last 262144

/-- **The pieces of a span of characters**, each as a row of spans of bytes. -/
def rows (first last : Nat) : List Row :=
  match cut? first last with
  | none => [(bytes first).zip (bytes last)]
  | some p =>
    if h : first < p ∧ p ≤ last then
      have : CharSet.previous p - first < last - first := by
        unfold CharSet.previous
        split <;> omega
      rows first (CharSet.previous p) ++ rows p last
    else []
termination_by last - first

/-- The rows of all characters of a set. -/
def setRows (s : CharSet) : List Row :=
  s.spans.flatMap fun t => rows t.1 t.2

end RowFilter.Pattern.Encoding
