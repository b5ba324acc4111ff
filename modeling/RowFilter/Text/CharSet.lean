import RowFilter.Text.CaseFold

/-!
# Sets of characters

A property of characters is given by data: a list of inclusive spans of code points, and, for the
scripts that place upper and lower case letters side by side, a list of *alternating* spans of which
only every second code point counts.  `CodeTable.contains` is the characteristic function of such a
table.

A set of characters that is computed with is kept as a list of inclusive spans of code points in
increasing order, with a gap between any two of them.  That form is unique, so that sets can be
compared; it is what the size of a pattern is computed from; and the operations of set algebra are
short walks along two lists.

Surrogates are code points between `U+D7FF` and `U+E000` that are no characters.  A span may run
across them; a span that ends beside them ends at `U+D7FF` or starts at `U+E000`.

* `CodeTable.contains` — whether a code point belongs to a table.
* `CharSet.ofSpans` — the set of the characters in a list of spans.
* `CharSet.union`, `CharSet.inter`, `CharSet.diff`, `CharSet.symmDiff`, `CharSet.compl` — set
  algebra.
* `CharSet.folded` — the closure of a set under case.
-/

set_option autoImplicit false

namespace RowFilter.Text

/-! ## Tables of code points -/

/-- A set of code points, written as inclusive spans. -/
structure CodeTable where
  /-- Spans of which every code point belongs to the set. -/
  spans : List (Nat × Nat)
  /-- Spans of which the first code point belongs to the set, and then every second one. -/
  alternating : List (Nat × Nat) := []
deriving Repr, DecidableEq

namespace CodeTable

/-- Whether the code point `n` belongs to the table. -/
def contains (t : CodeTable) (n : Nat) : Bool :=
  t.spans.any (fun s => decide (s.1 ≤ n) && decide (n ≤ s.2)) ||
    t.alternating.any (fun s => decide (s.1 ≤ n) && decide (n ≤ s.2) && (n - s.1) % 2 == 0)

/-- Whether the character `c` belongs to the table. -/
def containsChar (t : CodeTable) (c : Char) : Bool :=
  t.contains c.toNat

end CodeTable

/-! ## Sets in normal form -/

/-- A set of characters. -/
structure CharSet where
  /-- The spans of its code points, in increasing order and with gaps between them. -/
  spans : List (Nat × Nat)
deriving Repr, DecidableEq

namespace CharSet

/-! ## Spans -/

/-- The order of spans: by their start, and then by their end. -/
def isBefore (s t : Nat × Nat) : Bool :=
  decide (s.1 < t.1) || (s.1 == t.1 && decide (s.2 ≤ t.2))

/-- Joins neighbours of an ordered list that overlap or touch. -/
def join : List (Nat × Nat) → List (Nat × Nat)
  | [] => []
  | [s] => [s]
  | (a, b) :: (c, d) :: rest =>
    if c ≤ b + 1 then join ((a, max b d) :: rest) else (a, b) :: join ((c, d) :: rest)
termination_by l => l.length

/-- The characters in one of the given spans. -/
def ofSpans (spans : List (Nat × Nat)) : CharSet :=
  ⟨join (spans.mergeSort isBefore)⟩

/-- The characters from `first` to `last`. -/
def span (first last : Char) : CharSet :=
  ⟨[(first.toNat, last.toNat)]⟩

/-- The set of one character. -/
def one (c : Char) : CharSet :=
  span c c

/-- The empty set. -/
def empty : CharSet :=
  ⟨[]⟩

/-- The largest code point. -/
def maxCode : Nat :=
  0x10ffff

/-- The set of all characters. -/
def all : CharSet :=
  ⟨[(0, maxCode)]⟩

/-- The characters of ASCII. -/
def ascii : CharSet :=
  ⟨[(0, 0x7f)]⟩

/-- The code points from `first` to `last`, leaving out every second one. -/
def everySecond (first last : Nat) : List (Nat × Nat) :=
  (List.range ((last - first) / 2 + 1)).map fun i => (first + 2 * i, first + 2 * i)

/-- The spans of a table, in no particular order. -/
def tableSpans (t : CodeTable) : List (Nat × Nat) :=
  t.spans ++ t.alternating.flatMap fun s => everySecond s.1 s.2

/-- The characters in one of the tables. -/
def ofTables (tables : List CodeTable) : CharSet :=
  ofSpans (tables.flatMap tableSpans)

/-- Whether the set holds the code point. -/
def holds (s : CharSet) (n : Nat) : Bool :=
  s.spans.any fun t => decide (t.1 ≤ n) && decide (n ≤ t.2)

/-- Whether the set holds the character. -/
def contains (s : CharSet) (c : Char) : Bool :=
  s.holds c.toNat

/-- Whether all characters of the set are of ASCII. -/
def isAscii (s : CharSet) : Bool :=
  s.spans.all fun t => decide (t.2 ≤ 0x7f)

/-- The only character of the set, if it has just one. -/
def single? (s : CharSet) : Option Char :=
  match s.spans with
  | [(a, b)] => if a = b then some (Char.ofNat a) else none
  | _ => none

/-! ## Set algebra -/

/-- The code point of the character behind the one at `n`. -/
def next (n : Nat) : Nat :=
  if n = 0xd7ff then 0xe000 else n + 1

/-- The code point of the character before the one at `n`. -/
def previous (n : Nat) : Nat :=
  if n = 0xe000 then 0xd7ff else n - 1

/-- The characters that belong to one of the sets. -/
def unions (sets : List CharSet) : CharSet :=
  ofSpans (sets.flatMap spans)

/-- The characters of either set. -/
def union (a b : CharSet) : CharSet :=
  unions [a, b]

/-- What two ordered lists of spans have in common. -/
def interSpans : List (Nat × Nat) → List (Nat × Nat) → List (Nat × Nat)
  | [], _ => []
  | _, [] => []
  | (a, b) :: as, (c, d) :: bs =>
    let rest := if b < d then interSpans as ((c, d) :: bs) else interSpans ((a, b) :: as) bs
    if max a c ≤ min b d then (max a c, min b d) :: rest else rest
termination_by as bs => as.length + bs.length

/-- The characters of both sets. -/
def inter (a b : CharSet) : CharSet :=
  ⟨interSpans a.spans b.spans⟩

/-- What is left of an ordered list of spans without those of another one. -/
def diffSpans : List (Nat × Nat) → List (Nat × Nat) → List (Nat × Nat)
  | [], _ => []
  | as, [] => as
  | (a, b) :: as, (c, d) :: bs =>
    if d < a then diffSpans ((a, b) :: as) bs
    else if b < c then (a, b) :: diffSpans as ((c, d) :: bs)
    else
      let left := if a < c then [(a, previous c)] else []
      left ++ if d < b then diffSpans ((next d, b) :: as) bs else diffSpans as ((c, d) :: bs)
termination_by as bs => as.length + bs.length

/-- The characters of the first set that are not in the second. -/
def diff (a b : CharSet) : CharSet :=
  ⟨diffSpans a.spans b.spans⟩

/-- The characters of exactly one of the sets. -/
def symmDiff (a b : CharSet) : CharSet :=
  diff (union a b) (inter a b)

/-- The gaps behind the spans of an ordered list.  A gap that holds surrogates only is taken to hold
the two characters beside it. -/
def gaps : List (Nat × Nat) → List (Nat × Nat)
  | [] => []
  | [(_, b)] => if b < maxCode then [(next b, maxCode)] else []
  | (_, b) :: (c, d) :: rest =>
    (min (next b) (previous c), max (next b) (previous c)) :: gaps ((c, d) :: rest)

/-- All other characters. -/
def compl (s : CharSet) : CharSet :=
  match s.spans with
  | [] => all
  | (a, b) :: rest => ⟨(if 0 < a then [(0, previous a)] else []) ++ gaps ((a, b) :: rest)⟩

/-! ## Case -/

/-- The code points of a list, each as a span of its own. -/
def points (codes : List Nat) : List (Nat × Nat) :=
  codes.map fun n => (n, n)

/-- The set with every character that is related to one of its own, where `pairs` lists characters
with the representatives they share. -/
def closeUnder (pairs : List (Nat × Nat)) (s : CharSet) : CharSet :=
  let representatives := pairs.filterMap fun (n, r) => if s.holds n then some r else none
  let t := ofSpans (s.spans ++ points representatives)
  let members := pairs.filterMap fun (n, r) => if t.holds r then some n else none
  ofSpans (t.spans ++ points members)

/-- The characters that differ in case only from one of the set. -/
def folded (s : CharSet) : CharSet :=
  closeUnder foldPairs s

/-- The same, for the letters of ASCII alone. -/
def foldedAscii (s : CharSet) : CharSet :=
  closeUnder ((List.range 26).map fun i => (0x41 + i, 0x61 + i)) s

end CharSet

end RowFilter.Text
