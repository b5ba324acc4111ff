import RowFilter.Pattern.Reader.Escape

/-!
# Bracketed sets

A set between brackets lists characters, spans, escapes, classes and further sets, and combines such
lists by the operations of set algebra.

Sets can be nested, and how deep a pattern may be nested is limited (`maxDepth`).  So every set is
read together with its *depth*: a set counts one more than its members, several members count one
more than the deepest of them, and so does an operation.

* `Bracket.read` — a set behind its opening bracket.
-/

set_option autoImplicit false

namespace RowFilter.Pattern

namespace Bracket

open Text (CharSet)
open Escape (Primitive)

/-- A set of characters, and how deep it is nested. -/
structure Member where
  /-- The set. -/
  chars : CharSet
  /-- Its depth. -/
  depth : Nat := 0

/-- The operations of set algebra. -/
inductive Operation where
  /-- Characters of both sets. -/
  | inter
  /-- Characters of the first set only. -/
  | diff
  /-- Characters of exactly one set. -/
  | symmDiff

/-- The set that an operation makes of two sets. -/
def Operation.apply : Operation → CharSet → CharSet → CharSet
  | inter, a, b => a.inter b
  | diff, a, b => a.diff b
  | symmDiff, a, b => a.symmDiff b

/-- The members of a list as one. -/
def joined (members : List Member) : Member :=
  match members with
  | [m] => m
  | members =>
    { chars := CharSet.unions (members.map Member.chars)
      depth := if members.isEmpty then 0 else (members.map Member.depth).foldl max 0 + 1 }

/-- Applies the operation that waits for its second set, if there is one. -/
def combined (f : Flags) (waiting : Option (Operation × Member)) (second : Member) : Member :=
  match waiting with
  | none => second
  | some (operation, first) =>
    { chars := operation.apply (f.close first.chars) (f.close second.chars)
      depth := max first.depth second.depth + 1 }

/-- A class of ASCII behind its opening bracket: its name between colons, and the closing
bracket. -/
def asciiClass (f : Flags) (cs : List Char) : Option (Option CharSet × List Char) :=
  match cs with
  | ':' :: cs =>
    let (negated, cs) := match cs with
      | '^' :: ds => (true, ds)
      | ds => (false, ds)
    match cs.dropWhile (· != ':') with
    | ':' :: ']' :: rest =>
      (Property.asciiClass? (String.ofList (cs.takeWhile (· != ':')))).map fun s =>
        (f.complement negated (f.close s), rest)
    | _ => none
  | _ => none

/-- One character or escape.  A set that does not range over all characters has none outside of
ASCII. -/
def primitive (f : Flags) (cs : List Char) : Option (Primitive × List Char) := do
  let (p, rest) ← match cs with
    | [] => none
    | '\\' :: cs => Escape.read f cs
    | c :: cs => some (.literal c, cs)
  match p with
  | .literal c => if !f.unicode && decide (0x80 ≤ c.toNat) then none else some (p, rest)
  | _ => some (p, rest)

/-- A character, an escape, or a span between two characters. -/
def member (f : Flags) (cs : List Char) : Option (CharSet × List Char) := do
  let (first, rest) ← primitive f cs
  let rest := f.skip rest
  let isSpan := match rest with
    | '-' :: more => f.ahead more != some ']' && f.ahead more != some '-'
    | _ => false
  if isSpan then
    let (last, rest) ← primitive f (f.skip (rest.drop 1))
    match first, last with
    | .literal a, .literal b => if a ≤ b then some (.span a b, rest) else none
    | _, _ => none
  else
    match first with
    | .literal c => some (.one c, rest)
    | .chars s => some (s, rest)
    | .assert _ => none

/-- The hyphens with which a set starts, as its members; `fuel` bounds their number. -/
def hyphens (f : Flags) : Nat → List Char → List Member × List Char
  | fuel + 1, '-' :: cs =>
    let (members, rest) := hyphens f fuel (f.skip cs)
    ({ chars := .one '-' } :: members, rest)
  | _, cs => ([], cs)

/-- How a set starts: whether it is negated, and the hyphens or the bracket that are members because
they come first; `fuel` bounds their number. -/
def opening (f : Flags) (fuel : Nat) (cs : List Char) : Bool × List Member × List Char :=
  let cs := f.skip cs
  let (negated, cs) := match cs with
    | '^' :: ds => (true, f.skip ds)
    | ds => (false, ds)
  match hyphens f fuel cs with
  | ([], ']' :: rest) => (negated, [{ chars := .one ']' }], rest)
  | (members, rest) => (negated, members, rest)

mutual

/-- A set behind its opening bracket, up to and including the closing one. -/
def readWith : Nat → Flags → List Char → Option (Member × List Char)
  | 0, _, _ => none
  | fuel + 1, f, cs => do
    let (negated, first, cs) := opening f fuel cs
    let (m, rest) ← members fuel f first none cs
    if maxDepth ≤ m.depth then none
    else some ({ chars := ← f.complement negated (f.close m.chars), depth := m.depth + 1 }, rest)

/-- The members of a set from here on.  `before` holds those read since the last operation, and
`waiting` that operation with its first set. -/
def members : Nat → Flags → List Member → Option (Operation × Member) → List Char →
    Option (Member × List Char)
  | 0, _, _, _, _ => none
  | fuel + 1, f, before, waiting, cs =>
    match f.skip cs with
    | [] => none
    | ']' :: rest => some (combined f waiting (joined before), rest)
    | '[' :: rest =>
      match asciiClass f rest with
      | some (some s, rest) => members fuel f ({ chars := s } :: before) waiting rest
      | some (none, _) => none
      | none =>
        match readWith fuel f rest with
        | some (m, rest) => members fuel f (m :: before) waiting rest
        | none => none
    | '&' :: '&' :: rest =>
      members fuel f [] (some (.inter, combined f waiting (joined before))) rest
    | '-' :: '-' :: rest =>
      members fuel f [] (some (.diff, combined f waiting (joined before))) rest
    | '~' :: '~' :: rest =>
      members fuel f [] (some (.symmDiff, combined f waiting (joined before))) rest
    | rest =>
      match member f rest with
      | some (s, rest) => members fuel f ({ chars := s } :: before) waiting rest
      | none => none

end

/-- **A set behind its opening bracket**, up to and including the closing one. -/
def read (f : Flags) (cs : List Char) : Option (Member × List Char) :=
  readWith (2 * cs.length + 2) f cs

end Bracket

end RowFilter.Pattern
