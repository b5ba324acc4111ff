import RowFilter.Text.CharSet
import RowFilter.Text.Character

/-!
# Flags

Flags change how the rest of a group is read.  One of them, *extended* reading, lets blanks and
comments stand between the parts of a pattern; most functions that read patterns skip them by
`Flags.skip`.
-/

set_option autoImplicit false

namespace RowFilter.Pattern

open Text (CharSet)

/-- How the rest of a group is to be read. -/
structure Flags where
  /-- Letters stand for all letters that differ in case only. -/
  ignoreCase : Bool := false
  /-- Lines have starts and ends of their own. -/
  multiLine : Bool := false
  /-- The dot stands for line breaks too. -/
  dotAll : Bool := false
  /-- Repetitions are lazy, and greedy if marked. -/
  swapGreed : Bool := false
  /-- Classes range over all characters, and not over ASCII alone. -/
  unicode : Bool := true
  /-- Lines may end in a carriage return and a line feed. -/
  crlf : Bool := false
  /-- Blanks and comments are ignored. -/
  extended : Bool := false
deriving Repr, DecidableEq

namespace Flags

/-- The flags with the one of the given letter set to `on`. -/
def set (f : Flags) (on : Bool) : Char → Option Flags
  | 'i' => some { f with ignoreCase := on }
  | 'm' => some { f with multiLine := on }
  | 's' => some { f with dotAll := on }
  | 'U' => some { f with swapGreed := on }
  | 'u' => some { f with unicode := on }
  | 'R' => some { f with crlf := on }
  | 'x' => some { f with extended := on }
  | _ => none

/-- Drops blanks, and comments up to the end of their line. -/
def dropIgnored (inComment : Bool) : List Char → List Char
  | [] => []
  | c :: cs =>
    if inComment then dropIgnored (c != '\n') cs
    else if c == '#' then dropIgnored true cs
    else if Text.isBlank c then dropIgnored false cs
    else c :: cs

/-- Drops blanks and comments where they are ignored. -/
def skip (f : Flags) (cs : List Char) : List Char :=
  if f.extended then dropIgnored false cs else cs

/-- The first character that is not blank, and not the sign that starts a comment. -/
def firstBeyond (seenSign : Bool) : List Char → Option Char
  | [] => none
  | c :: cs =>
    if Text.isBlank c then firstBeyond seenSign cs
    else if c == '#' && !seenSign then firstBeyond true cs
    else some c

/-- The character that decides what a hyphen means.  Where blanks are ignored they are looked
through, but comments are looked into. -/
def ahead (f : Flags) (cs : List Char) : Option Char :=
  if f.extended then firstBeyond false cs else cs.head?

/-- Closes a set under case, where case is ignored. -/
def close (f : Flags) (s : CharSet) : CharSet :=
  if f.ignoreCase then if f.unicode then s.folded else s.foldedAscii else s

/-- The complement of a set; a set of ASCII characters has none. -/
def complement (f : Flags) (negated : Bool) (s : CharSet) : Option CharSet :=
  if !negated then some s else if f.unicode then some s.compl else none

/-- Reads flags up to the colon or the parenthesis that ends them, and tells which of them it was.
`seen` holds the letters before, and `last` the last one of them. -/
def read (f : Flags) (on : Bool) (seen : List Char) (last : Char) :
    List Char → Option (Flags × Bool × List Char)
  | [] => none
  | c :: cs =>
    if c == ':' || c == ')' then
      if last == '-' || (c == ')' && seen.isEmpty) then none else some (f, c == ':', cs)
    else if seen.contains c then none
    else if c == '-' then read f false (c :: seen) c cs
    else
      match f.set on c with
      | some f' => read f' on (c :: seen) c cs
      | none => none

end Flags

end RowFilter.Pattern
