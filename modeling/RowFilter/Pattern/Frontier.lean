import RowFilter.Pattern.Search

/-!
# Searching without captures

To know whether and where an expression can match, no captures are needed and no order of
preference: it is enough to go through the text once, with the set of all addresses of a program
that can be reached on the way.  The members of such a *frontier* that take a character lead to the
next one.

The program of an expression that has been turned around is run from the end of a text towards its
start, so that it finds where matches can start that end at a given place.

* `Regex.backwards` — an expression that has been turned around.
* `Frontier.startBefore` — the first place where a match can start that ends at a given place.
-/

set_option autoImplicit false

namespace RowFilter.Pattern

namespace Regex

mutual

/-- The expression that matches the reversed texts.  It has no groups. -/
def backwards : Regex → Regex
  | literal chars => literal chars.reverse
  | sequence parts => sequence (backwardsAll parts).reverse
  | choice parts => choice (backwardsAll parts)
  | rep body least most greedy => rep body.backwards least most greedy
  | group _ body => body.backwards
  | r => r

/-- The expressions of a list, each turned around. -/
def backwardsAll : List Regex → List Regex
  | [] => []
  | r :: rest => r.backwards :: backwardsAll rest

end

end Regex

/-- What is known about the start of a match. -/
inductive Start where
  /-- The match starts at the place. -/
  | found (place : Nat)
  /-- There is no match. -/
  | nowhere
  /-- That has to be found out in another way. -/
  | unsure
deriving Repr, DecidableEq

/-- The start of a match that starts at the last one of the places found, if there are any. -/
def Start.ofPlace? : Option Nat → Start
  | some place => .found place
  | none => .nowhere

/-- Addresses of a program that take a character or accept. -/
abbrev Frontier := List Nat

namespace Frontier

/-- Goes on from the addresses of a stack until characters are to be taken. -/
def explore (program : Code) (text : Array Char) (place : Nat) :
    Nat → Array Bool → Frontier → List Nat → Frontier
  | 0, _, found, _ => found
  | _, _, found, [] => found
  | fuel + 1, seen, found, a :: rest =>
    if seen[a]?.getD true then explore program text place fuel seen found rest
    else
      let seen := seen.setIfInBounds a true
      match program[a]? with
      | none => explore program text place fuel seen found rest
      | some (.consume _) | some .accept => explore program text place fuel seen (a :: found) rest
      | some instruction =>
        let next := (Search.successors text ⟨a, place, []⟩ instruction).map Search.Thread.address
        explore program text place fuel seen found (next ++ rest)

/-- The frontier that the given addresses lead to at a place. -/
def of (program : Code) (text : Array Char) (place : Nat) (addresses : List Nat) : Frontier :=
  explore program text place (2 * program.size + addresses.length + 1)
    (Array.replicate program.size false) [] addresses

/-- Whether a match is complete. -/
def accepts (program : Code) (f : Frontier) : Bool :=
  f.any fun (a : Nat) => program[a]? == some .accept

/-- The addresses that taking a character leads to. -/
def take (program : Code) (c : Char) (f : Frontier) : List Nat :=
  f.filterMap fun (a : Nat) =>
    match program[a]? with
    | some (.consume chars) => if chars.contains c then some (a + 1) else none
    | _ => none

/-! ## Towards the start of the text -/

/-- Goes towards the start of a text, from the given place and addresses; `best` is the last place
where a match could start.  It stops where nothing can match any more.

Whoever asks has looked at the text before `least` already, so going there would mean to look at it
again and again; then it is left open where the match starts.  It is left open, too, if the start of
the text comes before it is clear that nothing else can match. -/
def goBack (program : Code) (text : Array Char) (least : Nat) :
    Nat → List Nat → Option Nat → Start
  | 0, addresses, best =>
    if accepts program (of program text 0 addresses) then .found 0
    else if best.isSome then .unsure
    else .nowhere
  | k + 1, addresses, best =>
    let f := of program text (k + 1) addresses
    let isStart := accepts program f
    let best := if isStart then some (k + 1) else best
    match text[k]? with
    | none => .ofPlace? best
    | some c =>
      let next := take program c f
      if next.isEmpty && (!isStart || decide (0x80 ≤ c.toNat)) then .ofPlace? best
      else if 0 < k && decide (k ≤ least) then .unsure
      else goBack program text least k next best

/-- **The first place where a match can start that ends at the given place.**  The program is that
of the expression turned around. -/
def startBefore (program : Code) (text : Array Char) (least place : Nat) : Start :=
  goBack program text least place [0] none

/-! ## Towards the end of the text -/

/-- The last place that can be reached within `more` characters. -/
def reach (program : Code) (text : Array Char) : Nat → Nat → List Nat → Nat
  | 0, place, _ => place
  | more + 1, place, addresses =>
    match text[place]? with
    | none => place
    | some c =>
      match take program c (of program text place addresses) with
      | [] => place
      | next => reach program text more (place + 1) next

/-- The last place that can be reached from the given one. -/
def reachFrom (program : Code) (text : Array Char) (place : Nat) : Nat :=
  reach program text (text.size - place) place [0]

end Frontier

end RowFilter.Pattern
