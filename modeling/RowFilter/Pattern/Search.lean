import RowFilter.Pattern.Program
import RowFilter.Text.Character

/-!
# Searching for a pattern

The search finds the first place of a text where the pattern matches, and there the match that the
pattern prefers: alternatives from left to right, greedy repetitions as long and lazy ones as short
as they can be.

A program is run by keeping a stack of *threads*, each an instruction, a place and the captures on
the way there.  A pair of an instruction and a place is entered once only: whatever a second thread
could find there, the first one has found or is going to find with precedence.  That bounds the
search by the number of such pairs, and it stops repetitions that consume nothing.

* `Search.find` — the captures of the first match.
* `Search.matchAt` — the captures of the match that starts at a given place.
-/

set_option autoImplicit false

namespace RowFilter.Pattern.Search

/-- The places that have been noted in slots, the latest first. -/
abbrev Slots := List (Nat × Nat)

/-- A thread of the search. -/
structure Thread where
  /-- The address of the next instruction. -/
  address : Nat
  /-- How many characters of the text are behind. -/
  place : Nat
  /-- What has been noted on the way. -/
  slots : Slots
deriving Repr

/-! ## Assertions -/

/-- Whether a character belongs to a word. -/
def isWord (ascii : Bool) (c : Char) : Bool :=
  Text.isWordChar c && (!ascii || decide (c.toNat < 0x80))

/-- Whether the condition holds between the given neighbours. -/
def holds (condition : Assertion) (before after : Option Char) : Bool :=
  let wordBefore (ascii : Bool) := before.any (isWord ascii)
  let wordAfter (ascii : Bool) := after.any (isWord ascii)
  match condition with
  | .textStart => before.isNone
  | .textEnd => after.isNone
  | .lineStart => before.all (· == '\n')
  | .lineEnd => after.all (· == '\n')
  | .lineStartCrlf => before.all fun c => c == '\n' || (c == '\r' && after != some '\n')
  | .lineEndCrlf => after.all fun c => c == '\r' || (c == '\n' && before != some '\r')
  | .wordBoundary ascii => wordBefore ascii != wordAfter ascii
  | .noWordBoundary ascii => wordBefore ascii == wordAfter ascii
  | .wordStart ascii => !wordBefore ascii && wordAfter ascii
  | .wordEnd ascii => wordBefore ascii && !wordAfter ascii
  | .noWordBefore ascii => !wordBefore ascii
  | .noWordAfter ascii => !wordAfter ascii

/-- The character before the given place. -/
def charBefore (text : Array Char) : Nat → Option Char
  | 0 => none
  | place + 1 => text[place]?

/-! ## Threads -/

/-- The threads that an instruction leads to, the preferred one first. -/
def successors (text : Array Char) (t : Thread) : Instruction → List Thread
  | .consume chars =>
    match text[t.place]? with
    | some c =>
      if chars.contains c then [{ t with address := t.address + 1, place := t.place + 1 }] else []
    | none => []
  | .assert condition =>
    if holds condition (charBefore text t.place) text[t.place]? then
      [{ t with address := t.address + 1 }]
    else []
  | .save slot => [{ t with address := t.address + 1, slots := (slot, t.place) :: t.slots }]
  | .split first second => [{ t with address := first }, { t with address := second }]
  | .jump target => [{ t with address := target }]
  | .accept => []

/-- Which pairs of an instruction and a place have been entered. -/
abbrev Visited := Array Bool

/-- What a run has led to: what the thread that accepted has noted, or the pairs that have been
entered in vain. -/
abbrev Outcome := Except Visited Slots

/-- Runs the threads of a stack until one accepts. -/
def run (program : Code) (text : Array Char) : Nat → Visited → List Thread → Outcome
  | 0, visited, _ => .error visited
  | _, visited, [] => .error visited
  | fuel + 1, visited, t :: rest =>
    let entry := t.address * (text.size + 1) + t.place
    if visited[entry]?.getD true then run program text fuel visited rest
    else
      match program[t.address]? with
      | none => run program text fuel visited rest
      | some .accept => .ok t.slots
      | some instruction =>
        run program text fuel (visited.setIfInBounds entry true)
          (successors text t instruction ++ rest)

/-- The number of pairs of an instruction and a place. -/
def pairs (program : Code) (text : Array Char) : Nat :=
  program.size * (text.size + 1)

/-- How many steps a run takes at most: each pair is entered once, and leads to two threads. -/
def steps (program : Code) (text : Array Char) : Nat :=
  2 * pairs program text + 2

/-- No pair has been entered. -/
def unvisited (program : Code) (text : Array Char) : Visited :=
  Array.replicate (pairs program text) false

/-- The preferred match that starts at the given place. -/
def matchAt (program : Code) (text : Array Char) (place : Nat) : Option Slots :=
  match run program text (steps program text) (unvisited program text) [⟨0, place, []⟩] with
  | .ok slots => some slots
  | .error _ => none

/-- The preferred match that starts at the given place or at one of the next `more` places.  A pair
that has been entered in vain from an earlier place need not be entered again. -/
def findFrom (program : Code) (text : Array Char) : Nat → Nat → Visited → Option Slots
  | more, place, visited =>
    match run program text (steps program text) visited [⟨0, place, []⟩], more with
    | .ok slots, _ => some slots
    | .error visited, more + 1 => findFrom program text more (place + 1) visited
    | .error _, 0 => none

/-- **The first match of a program in a text**: the places where its groups start and end. -/
def find (program : Code) (text : Array Char) : Option Slots :=
  findFrom program text text.size 0 (unvisited program text)

/-- The places where a group starts and ends, if it took part in the match. -/
def span (slots : Slots) (group : Nat) : Option (Nat × Nat) :=
  match slots.lookup (2 * group), slots.lookup (2 * group + 1) with
  | some start, some stop => some (start, stop)
  | _, _ => none

end RowFilter.Pattern.Search
