import RowFilter.Text.CharSet

/-!
# Patterns

A pattern describes texts: it is read from the notation of regular expressions (`Pattern.Reader`),
put into the form of a program (`Pattern.Program`), and searched for (`Pattern.Search`).  Parts of
it can be captured as numbered groups, and groups can have names.

Expressions are put together by functions that keep them small without changing what they match:
neighbouring characters become one literal, alternatives of single characters become one set, and
what alternatives have in common at their start is written once.

* `Regex.ofSequence`, `Regex.ofChoice`, `Regex.ofSet`, `Regex.times` — simplified expressions.
* `Regex.shortest`, `Regex.longest` — bounds on the length of what an expression matches.
-/

set_option autoImplicit false

namespace RowFilter.Pattern

open Text (CharSet)

/-- How deep a pattern may be nested. -/
def maxDepth : Nat :=
  250

/-- A condition on a place between two characters of a text. -/
inductive Assertion where
  /-- The start of the text. -/
  | textStart
  /-- The end of the text. -/
  | textEnd
  /-- The start of a line. -/
  | lineStart
  /-- The end of a line. -/
  | lineEnd
  /-- The start of a line, where lines may end in a carriage return and a line feed. -/
  | lineStartCrlf
  /-- The end of a line, where lines may end in a carriage return and a line feed. -/
  | lineEndCrlf
  /-- A word starts or ends; `ascii` restricts words to ASCII, as in the conditions below. -/
  | wordBoundary (ascii : Bool)
  /-- No word starts or ends. -/
  | noWordBoundary (ascii : Bool)
  /-- A word starts. -/
  | wordStart (ascii : Bool)
  /-- A word ends. -/
  | wordEnd (ascii : Bool)
  /-- No character of a word stands before. -/
  | noWordBefore (ascii : Bool)
  /-- No character of a word follows. -/
  | noWordAfter (ascii : Bool)
deriving Repr, DecidableEq

/-- A regular expression. -/
inductive Regex where
  /-- The empty text. -/
  | empty
  /-- The given characters, one after the other. -/
  | literal (chars : List Char)
  /-- One character of a set. -/
  | set (chars : CharSet)
  /-- The empty text, where the condition holds. -/
  | assert (condition : Assertion)
  /-- The parts, one after the other. -/
  | sequence (parts : List Regex)
  /-- One of the parts, the earlier ones being preferred. -/
  | choice (parts : List Regex)
  /-- At least `least` and at most `most` repetitions.  A greedy repetition prefers to go on. -/
  | rep (body : Regex) (least : Nat) (most : Option Nat) (greedy : Bool)
  /-- An expression whose text is captured. -/
  | group (index : Nat) (body : Regex)
deriving Repr, BEq

namespace Regex

/-! ## Lengths -/

/-- The sum of two lengths, if both exist. -/
def addLengths (m n : Option Nat) : Option Nat :=
  match m, n with
  | some m, some n => some (m + n)
  | _, _ => none

mutual

/-- The length of the shortest text that an expression can match, if it can match any. -/
def shortest : Regex → Option Nat
  | empty => some 0
  | literal chars => some chars.length
  | set chars => if chars.spans.isEmpty then none else some 1
  | assert _ => some 0
  | sequence parts => shortestOfAll parts
  | choice parts => shortestOfAny parts
  | rep body least _ _ => body.shortest.map (· * least)
  | group _ body => body.shortest

/-- The shortest length of a sequence. -/
def shortestOfAll : List Regex → Option Nat
  | [] => some 0
  | r :: rest => addLengths r.shortest (shortestOfAll rest)

/-- The shortest length of alternatives, if all of them can match. -/
def shortestOfAny : List Regex → Option Nat
  | [] => none
  | [r] => r.shortest
  | r :: rest =>
    match r.shortest, shortestOfAny rest with
    | some m, some n => some (min m n)
    | _, _ => none

end

/-- Whether an expression may match the empty text.  One that cannot match at all counts as one that
may. -/
def mayBeEmpty (r : Regex) : Bool :=
  r.shortest.all (· == 0)

mutual

/-- The length of the longest text that an expression can match, if there is a bound. -/
def longest : Regex → Option Nat
  | empty => some 0
  | literal chars => some chars.length
  | set chars => if chars.spans.isEmpty then none else some 1
  | assert _ => some 0
  | sequence parts => longestOfAll parts
  | choice parts => longestOfAny parts
  | rep body _ most _ =>
    match most, body.longest with
    | some most, some n => some (n * most)
    | _, _ => none
  | group _ body => body.longest

/-- The longest length of a sequence. -/
def longestOfAll : List Regex → Option Nat
  | [] => some 0
  | r :: rest => addLengths r.longest (longestOfAll rest)

/-- The longest length of alternatives, if all of them can match. -/
def longestOfAny : List Regex → Option Nat
  | [] => none
  | [r] => r.longest
  | r :: rest =>
    match r.longest, longestOfAny rest with
    | some m, some n => some (max m n)
    | _, _ => none

end

/-! ## Simplified expressions -/

/-- The expression of one character of a set. -/
def ofSet (chars : CharSet) : Regex :=
  match chars.single? with
  | some c => literal [c]
  | none => set chars

/-- Puts a part before others, joining literals. -/
def prepend (r : Regex) (rest : List Regex) : List Regex :=
  match r, rest with
  | literal cs, literal ds :: rest => literal (cs ++ ds) :: rest
  | r, rest => r :: rest

/-- The parts of an expression that is a part of a sequence. -/
def sequenceParts : Regex → List Regex
  | empty => []
  | sequence parts => parts
  | r => [r]

/-- The expressions of a list, one after the other. -/
def ofSequence (parts : List Regex) : Regex :=
  match (parts.flatMap sequenceParts).foldr prepend [] with
  | [] => empty
  | [r] => r
  | parts => sequence parts

/-- The alternatives of an expression. -/
def choiceParts : Regex → List Regex
  | choice parts => parts
  | r => [r]

/-- The set of a literal of one character. -/
def singleChar? : Regex → Option CharSet
  | literal [c] => some (CharSet.one c)
  | _ => none

/-- The set of an expression that is one. -/
def charSet? : Regex → Option CharSet
  | set chars => some chars
  | _ => none

/-- What two lists have in common at their start. -/
def commonStart : List Regex → List Regex → List Regex
  | a :: as, b :: bs => if a == b then a :: commonStart as bs else []
  | _, _ => []

/-- The parts of an expression that is a sequence. -/
def sequence? : Regex → Option (List Regex)
  | sequence parts => some parts
  | _ => none

/-- What all sequences of a list have in common at their start. -/
def sharedStart : List (List Regex) → List Regex
  | [] => []
  | parts :: rest => rest.foldl commonStart parts

/-- The expressions of a list as alternatives, where `fuel` bounds how often a common start is taken
out of them. -/
def ofChoiceWith : Nat → List Regex → Regex
  | fuel, parts =>
    match parts.flatMap choiceParts with
    | [] => set CharSet.empty
    | [r] => r
    | parts =>
      match parts.mapM singleChar?, parts.mapM charSet?, parts.mapM sequence?, fuel with
      | some sets, _, _, _ => ofSet (CharSet.unions sets)
      | _, some sets, _, _ => ofSet (CharSet.unions sets)
      | _, _, some sequences, fuel + 1 =>
        let start := sharedStart sequences
        if start.isEmpty then choice parts
        else
          let rests := sequences.map fun s => ofSequence (s.drop start.length)
          ofSequence (start ++ [ofChoiceWith fuel rests])
      | _, _, _, _ => choice parts

mutual

/-- How many expressions an expression consists of. -/
def nodes : Regex → Nat
  | sequence parts => nodesOfAll parts + 1
  | choice parts => nodesOfAll parts + 1
  | rep body _ _ _ => body.nodes + 1
  | group _ body => body.nodes + 1
  | _ => 1

/-- How many expressions the parts consist of. -/
def nodesOfAll : List Regex → Nat
  | [] => 0
  | r :: rest => r.nodes + nodesOfAll rest

end

/-- The expressions of a list as alternatives. -/
def ofChoice (parts : List Regex) : Regex :=
  ofChoiceWith (nodesOfAll parts) parts

/-- The repetition of an expression.  What matches the empty text only is repeated once at most. -/
def times (body : Regex) (least : Nat) (most : Option Nat) (greedy : Bool) : Regex :=
  let isVoid := body.longest == some 0
  let least := if isVoid then min least 1 else least
  let most := if isVoid then some (min (most.getD 1) 1) else most
  if most == some 0 then empty
  else if least == 1 && most == some 1 then body
  else rep body least most greedy

end Regex

end RowFilter.Pattern
