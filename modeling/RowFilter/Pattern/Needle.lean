import RowFilter.Pattern.Basic
import RowFilter.Pattern.Encoding

/-!
# Needles

A text that every match of an expression starts with, or ends with, can be looked for much faster
than the expression itself.  Such a text is called a *needle* here.  In general there are several of
them, and a match starts with one or another; they are listed in the order in which the expression
prefers them.  A needle is *whole* if it is all of the match, and not only one end of it.

Needles are texts of bytes, because that is how they are looked for: two characters can have bytes
in common.

How many needles an expression has, and how long they are, is limited.  An expression with too many
of them has none that are of use, like one that can match any text.

* `Regex.needles` — the needles of an expression.
* `Needles.refined` — the needles that are worth looking for.
* `Needles.areQuick` — whether looking for the needles is much faster than matching.
-/

set_option autoImplicit false

namespace RowFilter.Pattern

open Text (CharSet)

/-- An end of a text. -/
inductive Side where
  /-- The start. -/
  | front
  /-- The end. -/
  | back
deriving Repr, DecidableEq

/-- A text that matches start or end with. -/
structure Needle where
  /-- Its bytes. -/
  bytes : List Nat
  /-- Whether it is all of the match. -/
  whole : Bool
deriving Repr, DecidableEq

/-- The needles of an expression, or `none` if it may start or end with anything. -/
abbrev Needles := Option (List Needle)

/-! ## Single needles -/

/-- The given number of bytes at one end of a text. -/
def Side.take (side : Side) (count : Nat) (bytes : List Nat) : List Nat :=
  match side with
  | .front => bytes.take count
  | .back => bytes.drop (bytes.length - count)

/-- What two texts have in common at one end. -/
def Side.common (side : Side) (a b : List Nat) : List Nat :=
  let shared (a b : List Nat) : List Nat := ((a.zip b).takeWhile fun p => p.1 == p.2).map Prod.fst
  match side with
  | .front => shared a b
  | .back => (shared a.reverse b.reverse).reverse

namespace Needle

/-- The needle of the empty text, which says nothing. -/
def blank : Needle :=
  ⟨[], true⟩

/-- The needle, shortened to the given number of bytes if it is longer. -/
def cut (side : Side) (count : Nat) (n : Needle) : Needle :=
  if n.bytes.length ≤ count then n else ⟨side.take count n.bytes, false⟩

/-- The needle as one end of something longer. -/
def loose (n : Needle) : Needle :=
  { n with whole := false }

/-- A byte that most texts are full of: a space, one of two letters, or the first byte of a
character outside of ASCII. -/
def isCommon (byte : Nat) : Bool :=
  byte == 0x20 || byte == 0x65 || byte == 0x74 || decide (0xc0 ≤ byte)

/-- The spans of the bytes that are met often in texts. -/
def frequent : List (Nat × Nat) :=
  [(0x0a, 0x0a), (0x0d, 0x0d), (0x20, 0x20), (0x28, 0x29), (0x2c, 0x32), (0x39, 0x3a),
    (0x5f, 0x5f), (0x61, 0x69), (0x6c, 0x70), (0x72, 0x76), (0x78, 0x79), (0x7c, 0x7c),
    (0x80, 0x84), (0x90, 0x90), (0xb1, 0xb1), (0xb5, 0xb7), (0xb9, 0xbd), (0xbf, 0xff)]

/-- A byte that is rarely met in texts. -/
def isRare (byte : Nat) : Bool :=
  !frequent.any fun s => decide (s.1 ≤ byte) && decide (byte ≤ s.2)

/-- Whether a needle would be found almost everywhere. -/
def isUseless (n : Needle) : Bool :=
  match n.bytes with
  | [] => true
  | [byte] => isCommon byte
  | _ => false

end Needle

/-! ## Lists of needles -/

namespace Needles

/-- How many needles an expression may have. -/
def maxCount : Nat :=
  250

/-- How many bytes a needle may have. -/
def maxBytes : Nat :=
  100

/-- How many characters a set may have to be written out. -/
def maxChars : Nat :=
  10

/-- How many copies of a repetition are written out. -/
def maxCopies : Nat :=
  10

/-- Joins neighbours that are the same text. -/
def merged : List Needle → List Needle
  | [] => []
  | [n] => [n]
  | m :: n :: rest =>
    if m.bytes == n.bytes then merged (⟨m.bytes, m.whole && n.whole⟩ :: rest)
    else m :: merged (n :: rest)
termination_by l => l.length

/-- The needle of the empty text alone. -/
def blank : Needles :=
  some [Needle.blank]

/-- The needles as ends of something longer. -/
def loose (ns : Needles) : Needles :=
  ns.map fun l => l.map Needle.loose

/-- Whether no needle is a whole match, so that nothing can be put behind them. -/
def areLoose (ns : Needles) : Bool :=
  ns.all fun l => l.all fun n => !n.whole

/-- Whether there are needles and all of them are whole matches. -/
def areWhole (ns : Needles) : Bool :=
  ns.any fun l => l.all Needle.whole

/-- The needles of one expression followed by another, given the needles of both.  Seen from the
back, the first one is the one that comes later. -/
def cross (side : Side) (a b : Needles) : Needles :=
  match a, b with
  | none, _ => none
  | some l, none => if l.any fun n => n.bytes.isEmpty then none else loose (some l)
  | some l, some m =>
    if maxCount < l.length * m.length then
      if l.any fun n => n.bytes.isEmpty then none else loose (some l)
    else
      let pairs := match side with
        | .front => l.flatMap fun n =>
            if n.whole then m.map fun x => ⟨n.bytes ++ x.bytes, x.whole⟩ else [n]
        | .back => (m.zip (true :: m.map fun _ => false)).flatMap fun (x, isFirst) =>
            l.flatMap fun n =>
              if n.whole then [⟨x.bytes ++ n.bytes, x.whole⟩] else if isFirst then [n] else []
      some ((merged pairs).map (Needle.cut side maxBytes))

/-- The needles of two alternatives. -/
def union (side : Side) (a b : Needles) : Needles :=
  match a, b with
  | some l, some m =>
    if l.length + m.length ≤ maxCount then some (merged (l ++ m))
    else
      let l := merged (l.map (Needle.cut side 4))
      let m := merged (m.map (Needle.cut side 4))
      if l.length + m.length ≤ maxCount then some (merged (l ++ m)) else none
  | _, _ => none

/-- The needles of expressions that follow each other, in the order in which they are met. -/
def crossAll (side : Side) (parts : List Needles) : Needles :=
  parts.foldl (fun ns part => if areLoose ns then ns else cross side ns part) blank

/-- The needles of alternatives. -/
def unionAll (side : Side) (parts : List Needles) : Needles :=
  parts.foldl (union side) (some [])

/-- The needles of one character of a set. -/
def ofSet (chars : CharSet) : Needles :=
  let count := chars.spans.foldl (fun n s => n + (s.2 + 1 - s.1)) 0
  if maxChars < count then none
  else some (chars.spans.flatMap fun s =>
    (List.range (s.2 + 1 - s.1)).map fun i => ⟨Encoding.bytes (s.1 + i), true⟩)

/-- The needles of a repetition, given those of its body. -/
def repeated (side : Side) (body : Needles) (least : Nat) (most : Option Nat) (greedy : Bool) :
    Needles :=
  if least = 0 then
    let body := if most == some 1 then body else loose body
    if greedy then union side body blank else union side blank body
  else
    let copies := crossAll side (List.replicate (min least maxCopies) body)
    if most == some least && decide (least ≤ maxCopies) then copies else loose copies

end Needles

/-! ## The needles of an expression -/

namespace Regex

mutual

/-- **The needles of an expression** at one of its ends. -/
def needles (side : Side) : Regex → Needles
  | empty => Needles.blank
  | literal chars => some [(⟨Encoding.ofChars chars, true⟩ : Needle).cut side Needles.maxBytes]
  | set chars => Needles.ofSet chars
  | assert _ => Needles.blank
  | sequence parts =>
    let parts := needlesOfAll side parts
    Needles.crossAll side (if side = .front then parts else parts.reverse)
  | choice parts => Needles.unionAll side (needlesOfAll side parts)
  | rep body least most greedy => Needles.repeated side (body.needles side) least most greedy
  | group _ body => body.needles side

/-- The needles of each expression of a list. -/
def needlesOfAll (side : Side) : List Regex → List Needles
  | [] => []
  | r :: rest => r.needles side :: needlesOfAll side rest

end

end Regex

/-! ## Needles that are worth looking for -/

namespace Needles

/-- Leaves out the needles that start with an earlier one, which is found and preferred instead. -/
def pruned (l : List Needle) : List Needle :=
  let keep (kept : List Needle) (n : Needle) : List Needle :=
    if kept.any fun k => k.bytes.isPrefixOf n.bytes then kept else n :: kept
  (l.foldl keep []).reverse

/-- What all needles have in common at one end, if there are needles. -/
def common (side : Side) : List Needle → Option (List Nat)
  | [] => none
  | n :: rest => some (rest.foldl (fun bytes m => side.common bytes m.bytes) n.bytes)

/-- Shortens the needles step by step, as long as there are more of them than can be looked for. -/
def shortened (side : Side) : List (Nat × Nat) → List Needle → List Needle
  | [], l => l
  | (length, count) :: steps, l =>
    if l.length ≤ count then l
    else
      let l := l.map (Needle.cut side length)
      shortened side steps (if side = .front then pruned l else l)

/-- The lengths to which needles are shortened, and the number of needles from which on they are. -/
def steps : List (Nat × Nat) :=
  [(5, 10), (4, 10), (3, 64), (2, 64), (1, 10)]

/-- Whether what needles have in common at their front should be looked for by its first byte:
it is short, but starts with a byte that is rarely met. -/
def startsRare : Option (List Nat) → Bool
  | some (byte :: rest) => decide (rest.length ≤ 2) && Needle.isRare byte
  | _ => false

/-- The needles, reduced to what they have in common if that is long enough. -/
def focused (side : Side) (shared : Option (List Nat)) (l : List Needle) : List Needle :=
  let isGood := (l.all Needle.whole) && decide (l.length ≤ 16)
  match shared with
  | some bytes =>
    if 4 < bytes.length || (decide (1 < bytes.length) && !isGood) then
      merged (l.map (Needle.cut side bytes.length))
    else l
  | none => l

/-- The needles, shortened as far as it helps.  Whole matches are kept if shortening them would make
them short, or leave too many. -/
def trimmed (side : Side) (l : List Needle) : Needles :=
  let short := shortened side steps l
  let isUseless := short.any Needle.isUseless
  if l.all Needle.whole then
    if isUseless || short.isEmpty || (short.any fun n => decide (n.bytes.length ≤ 2)) ||
      decide (64 < short.length) then some l
    else some short
  else if isUseless then none
  else some short

/-- **The needles that are worth looking for.** -/
def refined (side : Side) (ns : Needles) : Needles :=
  match ns with
  | none => none
  | some l =>
    if l.any fun n => n.bytes.isEmpty then none
    else
      let kept := if side = .front then pruned l else l
      let shared := common side kept
      if side = .front ∧ 1 < l.length ∧ startsRare shared then
        some (merged (kept.map (Needle.cut side 1)))
      else trimmed side (focused side shared kept)

/-- Whether looking for the needles is much faster than matching: there is one, or there are up to
three of one byte, or all of them are long. -/
def areQuick (ns : Needles) : Bool :=
  match ns with
  | none => false
  | some l =>
    (l.all fun n => !n.bytes.isEmpty) &&
      (l.length == 1 ||
      (decide (1 < l.length) && decide (l.length ≤ 3) && l.all fun n => n.bytes.length == 1) ||
      (decide (1 < l.length) && decide (l.length ≤ 64) &&
        l.all fun n => decide (3 ≤ n.bytes.length)))

end Needles

end RowFilter.Pattern
