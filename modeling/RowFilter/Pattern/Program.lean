import RowFilter.Pattern.Basic

/-!
# Patterns as programs

A regular expression is compiled into a list of instructions, which `Pattern.Search` runs.  An
instruction goes on with the one behind it, unless it says otherwise; a `split` has two successors,
of which the first is preferred.

Counted repetitions are written out: `r{2,4}` becomes `r r (r (r)?)?` and `r{2,}` becomes `r r+`.
An unbounded repetition that may be left out is a loop that branches before each copy.  If a copy
may match the empty text, it becomes `(r+)?` instead: a search does not enter a place of the program
twice without taking a character, so in a loop with one branch a copy that took nothing could not be
left again.  The length of the code of an expression is known before it is written
(`Regex.length`), so that every jump can be written with its target.

* `Regex.program` — the program of an expression.
-/

set_option autoImplicit false

namespace RowFilter.Pattern

open Text (CharSet)

/-- An instruction of a program. -/
inductive Instruction where
  /-- Take a character of the set. -/
  | consume (chars : CharSet)
  /-- Go on where the condition holds. -/
  | assert (condition : Assertion)
  /-- Note the place in the given slot. -/
  | save (slot : Nat)
  /-- Go on at `first`, and if that leads nowhere at `second`. -/
  | split (first second : Nat)
  /-- Go on at `target`. -/
  | jump (target : Nat)
  /-- The pattern has been found. -/
  | accept
deriving Repr, DecidableEq

/-- A split that prefers `inside` if the repetition is greedy, and `outside` if it is not. -/
def Instruction.choice (greedy : Bool) (inside outside : Nat) : Instruction :=
  if greedy then .split inside outside else .split outside inside

/-- The code of a program, as far as it has been written. -/
abbrev Code := Array Instruction

/-- Applies a function a number of times. -/
def iterate {α : Type} (f : α → α) : Nat → α → α
  | 0, a => a
  | n + 1, a => iterate f n (f a)

namespace Regex

mutual

/-- How many instructions the code of an expression has. -/
def length : Regex → Nat
  | empty => 0
  | literal chars => chars.length
  | set _ => 1
  | assert _ => 1
  | sequence parts => lengthOfAll parts
  | choice parts => lengthOfAny parts
  | rep body least none _ => if least = 0 then body.length + 2 else least * body.length + 1
  | rep body least (some most) _ => least * body.length + (most - least) * (body.length + 1)
  | group _ body => body.length + 2

/-- How many instructions the code of a sequence has. -/
def lengthOfAll : List Regex → Nat
  | [] => 0
  | r :: rest => r.length + lengthOfAll rest

/-- How many instructions the code of alternatives has. -/
def lengthOfAny : List Regex → Nat
  | [] => 0
  | [r] => r.length
  | r :: rest => r.length + 2 + lengthOfAny rest

end

/-- Writes the code of one or more copies, behind the code written so far. -/
def writeRepeated (write : Code → Code) (greedy : Bool) (code : Code) : Code :=
  let start := code.size
  let code := write code
  code.push (Instruction.choice greedy start (code.size + 1))

/-- Writes the code of a copy that may be left out, which then leads to `exit`. -/
def writeOptional (write : Code → Code) (greedy : Bool) (exit : Nat) (code : Code) : Code :=
  write (code.push (Instruction.choice greedy (code.size + 1) exit))

mutual

/-- Writes the code of an expression behind the code written so far. -/
def write : Regex → Code → Code
  | empty, code => code
  | literal chars, code => chars.foldl (fun code c => code.push (.consume (CharSet.one c))) code
  | set chars, code => code.push (.consume chars)
  | assert condition, code => code.push (.assert condition)
  | sequence parts, code => writeAll parts code
  | choice parts, code => writeAny parts (code.size + lengthOfAny parts) code
  | rep body least none greedy, code =>
    match least with
    | 0 =>
      let start := code.size
      let code := code.push (Instruction.choice greedy (start + 1) (start + body.length + 2))
      if body.mayBeEmpty then writeRepeated body.write greedy code
      else (body.write code).push (.jump start)
    | n + 1 => writeRepeated body.write greedy (iterate body.write n code)
  | rep body least (some most) greedy, code =>
    let code := iterate body.write least code
    let exit := code.size + (most - least) * (body.length + 1)
    iterate (writeOptional body.write greedy exit) (most - least) code
  | group index body, code =>
    (body.write (code.push (.save (2 * index)))).push (.save (2 * index + 1))

/-- Writes the code of a sequence. -/
def writeAll : List Regex → Code → Code
  | [], code => code
  | r :: rest, code => writeAll rest (r.write code)

/-- Writes the code of alternatives, each of which goes on at `exit`. -/
def writeAny : List Regex → Nat → Code → Code
  | [], _, code => code
  | [r], _, code => r.write code
  | r :: rest, exit, code =>
    let code := code.push (.split (code.size + 1) (code.size + r.length + 2))
    writeAny rest exit ((r.write code).push (.jump exit))

end

/-- **The program of an expression**: its code between the slots of the whole match. -/
def program (r : Regex) : Code :=
  ((Regex.group 0 r).write #[]).push .accept

end Regex

end RowFilter.Pattern
