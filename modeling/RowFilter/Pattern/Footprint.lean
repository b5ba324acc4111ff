import RowFilter.Pattern.Anchor
import RowFilter.Pattern.Encoding
import RowFilter.Pattern.Program

/-!
# The size of a pattern

A pattern is refused if it is too large.  Its size is measured on an automaton that reads a text
byte by byte: 32 bytes for a state, 8 bytes for a span of bytes that leads on from a state with
several such spans, and 4 bytes for each of the states that a branching state leads to.  Two
automata are measured, one that reads forwards and notes where groups start and end, and one that
reads backwards and does not.

A set of characters becomes a small automaton of its own, in which equal parts are shared.  What can
be shared is looked up in a table with a fixed number of places, in which an entry gives way to the
next one with the same place; so the size depends on the numbers of the states, and has to be found
by numbering them.

* `Extent` — the size of an automaton.
* `Regex.growth` — what an expression adds to an automaton.
* `Regex.fits` — whether a pattern is small enough.
-/

set_option autoImplicit false

namespace RowFilter.Pattern

open Text (CharSet)
open Encoding (Row ByteSpan)

/-! ## Extents -/

/-- The size of an automaton. -/
structure Extent where
  /-- How many states it has; the next state gets this number. -/
  states : Nat := 0
  /-- How many bytes lead on from its states. -/
  payload : Nat := 0
deriving Repr, DecidableEq

namespace Extent

/-- The largest size of an automaton, in bytes. -/
def limit : Nat :=
  10 * 1024 * 1024

/-- The size in bytes. -/
def bytes (e : Extent) : Nat :=
  32 * e.states + e.payload

/-- Whether the automaton is small enough. -/
def isSmall (e : Extent) : Bool :=
  decide (e.bytes ≤ limit)

/-- The automaton with more states. -/
def add (e : Extent) (states payload : Nat) : Extent :=
  ⟨e.states + states, e.payload + payload⟩

/-- Repeats a step; once the automaton is too large, there is no need to go on. -/
def repeated (step : Extent → Extent) : Nat → Extent → Extent
  | 0, e => e
  | n + 1, e => if e.isSmall then repeated step n (step e) else e

end Extent

/-- What an expression adds to an automaton. -/
structure Growth where
  /-- The automaton with the states of the expression. -/
  apply : Extent → Extent

/-! ## Sharing -/

/-- One step of the hash that decides the place of an entry. -/
def mix (hash : UInt64) (n : Nat) : UInt64 :=
  (hash ^^^ n.toUInt64) * 1099511628211

/-- The place of an entry in a table of the given size. -/
def placeOf (size : Nat) (key : List Nat) : Nat :=
  (key.foldl mix 14695981039346656037).toNat % size

/-- A state that bytes lead to: a span of bytes, and the number of the state behind it. -/
structure Link where
  /-- The span of bytes. -/
  span : ByteSpan
  /-- The state behind it. -/
  target : Nat
deriving Repr, DecidableEq

/-- An entry of a table: what a state leads to, and the number of the state. -/
abbrev Entry := List Link × Nat

/-- A table of states that can be shared. -/
abbrev Table := Array Entry

/-- A table without entries. -/
def Table.ofSize (size : Nat) : Table :=
  Array.replicate size ([], 0)

/-- The numbers from which the place of an entry is computed. -/
def linkKey (l : Link) : List Nat :=
  [l.span.1, l.span.2, l.target]

/-- An automaton in the making, with the states that can be shared. -/
structure Sharing where
  /-- Its size so far. -/
  extent : Extent
  /-- The states that can be shared. -/
  table : Table

/-- The number of a state that leads on as the links say: one of the table, or else a new one, which
takes `payload` bytes more. -/
def Sharing.state (s : Sharing) (key : List Nat) (links : List Link) (payload : Nat) :
    Nat × Sharing :=
  let place := placeOf s.table.size key
  match s.table[place]? with
  | some (known, number) =>
    if known = links then (number, s)
    else
      let number := s.extent.states
      let table := s.table.setIfInBounds place (links, number)
      (number, ⟨s.extent.add 1 payload, table⟩)
  | none => (s.extent.states, s)

/-! ## Sets of characters, backwards

Read backwards, every row of bytes is a chain of states that ends in the common last state, and
chains share the states of equal first bytes. -/

/-- Adds the chain of a row, which ends in the state `target`. -/
def chain (s : Sharing) (target : Nat) : Row → Sharing
  | [] => s
  | span :: rest =>
    let next := s.state [target, span.1, span.2] [⟨span, target⟩] 0
    chain next.2 next.1 rest

/-- What a set of characters adds to an automaton that reads backwards. -/
def backwardRows (rows : List Row) (e : Extent) : Extent :=
  let stop := e.states + 1
  let start : Sharing := ⟨e.add 2 (4 * rows.length), Table.ofSize 1000⟩
  (rows.foldl (fun s row => chain s stop row) start).extent

/-! ## Sets of characters, forwards

Read forwards, rows are put in one after the other, in increasing order.  The states along the row
put in last are still open; those behind the place where the next row parts from it are finished,
and shared with equal states. -/

/-- A state that is not finished yet. -/
structure OpenState where
  /-- What it leads to, the latest first. -/
  links : List Link := []
  /-- The span of bytes along the row put in last. -/
  last : Option ByteSpan := none

/-- The links of a state, when the row put in last leads on to `target`. -/
def OpenState.close (o : OpenState) (target : Nat) : List Link :=
  match o.last with
  | some span => ⟨span, target⟩ :: o.links
  | none => o.links

/-- Finishes the open states of a row and returns the number of the first one, or `stop` if there is
none. -/
def finish (stop : Nat) : List OpenState → Sharing → Nat × Sharing
  | [], s => (stop, s)
  | o :: deeper, s =>
    let (target, s) := finish stop deeper s
    let links := (o.close target).reverse
    s.state (links.flatMap linkKey) links (8 * links.length)

/-- Puts in a row along the open states. -/
def insertRow (stop : Nat) : Row → List OpenState → Sharing → List OpenState × Sharing
  | span :: rest, o :: deeper, s =>
    if o.last = some span then
      let (deeper, s) := insertRow stop rest deeper s
      (o :: deeper, s)
    else
      let (target, s) := finish stop deeper s
      (⟨o.close target, some span⟩ :: rest.map fun span => ⟨[], some span⟩, s)
  | _, open_, s => (open_, s)

/-- What a set of characters adds to an automaton that reads forwards. -/
def forwardRows (rows : List Row) (e : Extent) : Extent :=
  let stop := e.states
  let start : Sharing := ⟨e.add 1 0, Table.ofSize 10000⟩
  let (open_, s) := rows.foldl (fun (open_, s) row => insertRow stop row open_ s) ([{}], start)
  (finish stop open_ s).2.extent

/-! ## Alternatives of literals

Alternatives that are all literals share their beginnings in a tree.  A literal that ends at a node
parts the branches that were there before from those that come later, to keep the order of
preference. -/

/-- A node of the tree. -/
inductive Prefixes where
  /-- The branches in groups, and the group that later literals add to. -/
  | node (closed : List (List (Nat × Prefixes))) (open_ : List (Nat × Prefixes))

namespace Prefixes

/-- The tree without literals. -/
def leaf : Prefixes :=
  node [] []

/-- The branches in groups. -/
def groups : Prefixes → List (List (Nat × Prefixes))
  | node closed open_ => closed ++ [open_]

/-- Whether nothing leads on from the node. -/
def isLeaf (t : Prefixes) : Bool :=
  t.groups.all List.isEmpty

/-- Notes that a literal ends at the node. -/
def mark : Prefixes → Prefixes
  | node closed open_ =>
    if !closed.isEmpty && (node closed open_).isLeaf then node closed open_
    else node (closed ++ [open_]) []

/-- Puts in a branch in place of the one with the same byte, or as a new one. -/
def put (b : Nat) (t : Prefixes) : List (Nat × Prefixes) → List (Nat × Prefixes)
  | [] => [(b, t)]
  | (c, u) :: rest => if b = c then (b, t) :: rest else (c, u) :: put b t rest

/-- The branch of a byte. -/
def branch (b : Nat) (branches : List (Nat × Prefixes)) : Prefixes :=
  match branches.find? fun c => c.1 == b with
  | some (_, t) => t
  | none => leaf

/-- Puts in a literal. -/
def insert : List Nat → Prefixes → Prefixes
  | [], t => t.mark
  | b :: bytes, node closed open_ => node closed (put b (insert bytes (branch b open_)) open_)

mutual

/-- What a node adds to an automaton: the nodes behind it, a state for each group of branches, and a
branching state. -/
def extent : Prefixes → Extent → Extent
  | node closed open_, e =>
    let e := groupExtent open_ (groupsExtent closed e)
    let groups := closed ++ [open_]
    let filled := groups.filter fun g => !g.isEmpty
    e.add 1 (4 * (filled.length + closed.length))

/-- What groups of branches add to an automaton. -/
def groupsExtent : List (List (Nat × Prefixes)) → Extent → Extent
  | [], e => e
  | g :: rest, e => groupsExtent rest (groupExtent g e)

/-- What a group of branches adds to an automaton. -/
def groupExtent : List (Nat × Prefixes) → Extent → Extent
  | [], e => e
  | [b], e => (branchExtent b e).add 1 0
  | b :: c :: rest, e =>
    (branchesExtent rest (branchExtent c (branchExtent b e))).add 1 (8 * (rest.length + 2))

/-- What branches add to an automaton. -/
def branchesExtent : List (Nat × Prefixes) → Extent → Extent
  | [], e => e
  | b :: rest, e => branchesExtent rest (branchExtent b e)

/-- What the node at the end of a branch adds to an automaton. -/
def branchExtent : Nat × Prefixes → Extent → Extent
  | (_, t), e => if t.isLeaf then e else t.extent e

end

end Prefixes

/-! ## Expressions -/

namespace Regex

/-- The characters of an expression that is a literal. -/
def literal? : Regex → Option (List Char)
  | literal chars => some chars
  | _ => none

/-- What alternatives that are all literals add to an automaton. -/
def literalsGrowth (backward : Bool) (literals : List (List Char)) : Growth :=
  let words := literals.map Encoding.ofChars
  let words := if backward then words.map List.reverse else words
  let tree := words.foldl (fun t w => t.insert w) Prefixes.leaf
  let size := tree.extent {}
  ⟨fun e => e.add (1 + size.states) size.payload⟩

/-- What alternatives add to an automaton, given what each of them adds. -/
def choiceGrowth : List Growth → Growth
  | first :: second :: rest =>
    ⟨fun e =>
      let e := (second.apply (first.apply e)).add 2 (4 * (rest.length + 2))
      rest.foldl (fun e g => g.apply e) e⟩
  | _ => ⟨id⟩

/-- What a repetition adds to an automaton, given what its body adds and whether the body can match
the empty text. -/
def repeatGrowth (body : Growth) (nullable : Bool) : Nat → Option Nat → Growth
  | 0, some 1 => ⟨fun e => (body.apply (e.add 1 8)).add 1 0⟩
  | 0, none =>
    if nullable then ⟨fun e => (body.apply e).add 3 16⟩ else ⟨fun e => body.apply (e.add 1 8)⟩
  | least, none => ⟨fun e => (Extent.repeated body.apply least e).add 1 8⟩
  | least, some most =>
    ⟨fun e =>
      let e := if least = 0 then e.add 1 0 else Extent.repeated body.apply least e
      if least = most then e
      else Extent.repeated (fun e => body.apply (e.add 1 8)) (most - least) (e.add 1 0)⟩

mutual

/-- **What an expression adds to an automaton** that reads forwards, or backwards. -/
def growth (backward : Bool) : Regex → Growth
  | empty => ⟨fun e => e.add 1 0⟩
  | literal chars =>
    let count := (Encoding.ofChars chars).length
    ⟨fun e => e.add count 0⟩
  | set chars =>
    if chars.isAscii then ⟨fun e => e.add 2 (8 * chars.spans.length)⟩
    else
      let rows := Encoding.setRows chars
      if backward then ⟨backwardRows rows⟩ else ⟨forwardRows rows⟩
  | assert _ => ⟨fun e => e.add 1 0⟩
  | sequence parts =>
    let parts := growths backward parts
    let parts := if backward then parts.reverse else parts
    ⟨fun e => parts.foldl (fun e g => g.apply e) e⟩
  | choice parts =>
    match parts.mapM literal? with
    | some literals => literalsGrowth backward literals
    | none => choiceGrowth (growths backward parts)
  | rep body least most _ =>
    repeatGrowth (growth backward body) body.mayBeEmpty least most
  | group _ body =>
    let inner := growth backward body
    if backward then inner else ⟨fun e => (inner.apply (e.add 1 0)).add 1 0⟩

/-- What the expressions of a list add to an automaton. -/
def growths (backward : Bool) : List Regex → List Growth
  | [] => []
  | r :: rest => growth backward r :: growths backward rest

end

/-- The size of the automaton of a whole pattern: what finds the start of a match, the pattern, and
the state that accepts. -/
def footprint (backward : Bool) (r : Regex) : Extent :=
  let anchored := if backward then r.endsAt .textEnd else r.startsAt .textStart
  let start : Extent := if anchored then ⟨1, 0⟩ else ⟨3, 16⟩
  (((group 0 r).growth backward).apply start).add 1 0

/-- Whether a pattern is a long list of literals. -/
def isWordList : Regex → Bool
  | choice parts => decide (3000 ≤ parts.length) && parts.all fun r => r.literal?.isSome
  | _ => false

/-- **Whether a pattern is small enough**: both its automata are.  A long list of literals is looked
up without automata, so it may have any size. -/
def fits (r : Regex) : Bool :=
  r.isWordList || ((r.footprint false).isSmall && (r.footprint true).isSmall)

end Regex

end RowFilter.Pattern
