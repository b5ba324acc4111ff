import RowFilter.Pattern.Anchor
import RowFilter.Pattern.Frontier
import RowFilter.Pattern.Needle

/-!
# How a match is approached

A pattern can be tried at one place of a text after the other.  But if its matches have no start
that is easy to find, it can be faster to look for something else first.

* If all matches end with the same text, that text is looked for, and from there the search goes
  back to where the match starts.
* If a text stands inside of every match, that text is looked for; the search goes back from there
  to where the match starts, and then on to where it ends.

The first place where such a search succeeds is taken.  That need not be the first place where the
pattern matches: a match that starts earlier may end, or hold the text, further behind.  The
order of preference among the matches from one place is kept.

* `Regex.approach` — how an expression is approached.
* `Approach.find` — the match that is found in this way.
-/

set_option autoImplicit false

namespace RowFilter.Pattern

/-- A way to find the start of a match. -/
inductive Approach where
  /-- One place after the other. -/
  | direct
  /-- By the text that all matches end with.  The program is that of the whole expression turned
  around. -/
  | bySuffix (needle : List Nat) (back : Code)
  /-- By texts of which one stands inside of every match.  The program is that of what comes before
  it, turned around. -/
  | byInner (needles : List (List Nat)) (back : Code)
deriving Repr, DecidableEq

/-! ## Choosing an approach -/

namespace Regex

mutual

/-- The expression without its groups. -/
def ungrouped : Regex → Regex
  | sequence parts => ofSequence (ungroupedAll parts)
  | choice parts => ofChoice (ungroupedAll parts)
  | rep body least most greedy => body.ungrouped.times least most greedy
  | group _ body => body.ungrouped
  | r => r

/-- The expressions of a list without their groups. -/
def ungroupedAll : List Regex → List Regex
  | [] => []
  | r :: rest => r.ungrouped :: ungroupedAll rest

end

mutual

/-- Whether an expression has groups or conditions. -/
def hasMarks : Regex → Bool
  | assert _ => true
  | group _ _ => true
  | sequence parts => anyHasMarks parts
  | choice parts => anyHasMarks parts
  | rep body _ _ _ => body.hasMarks
  | _ => false

/-- Whether one of the expressions has groups or conditions. -/
def anyHasMarks : List Regex → Bool
  | [] => false
  | r :: rest => r.hasMarks || anyHasMarks rest

end

/-- The parts of an expression that is a sequence when groups are disregarded. -/
def outerParts : Regex → List Regex
  | group _ body => body.outerParts
  | sequence parts =>
    match ofSequence (ungroupedAll parts) with
    | sequence parts => parts
    | _ => []
  | _ => []

/-- Whether the start of a match is easy to find: it has a fixed place, or all matches are known
texts, or matches start with texts that can be looked for. -/
def hasEasyStart (r : Regex) : Bool :=
  let front := (r.needles .front).refined .front
  r.startsAt .textStart || r.endsAt .textEnd || front.areQuick ||
    (!r.hasMarks && front.areWhole && front != some [])

/-- The text that all matches end with, if there is one. -/
def suffix? (r : Regex) : Option (List Nat) :=
  match ((r.needles .back).refined .back).bind (Needles.common .back) with
  | some (byte :: bytes) => some (byte :: bytes)
  | _ => none

/-- The texts with which an expression that stands inside of another one starts. -/
def innerNeedles (r : Regex) : Needles :=
  (r.needles .front).loose.refined .front

/-- What comes before the first part that can be looked for, and what it is looked for by.  `before`
holds the parts already passed, from the last to the first. -/
def innerFrom (before : List Regex) : List Regex → Option (Regex × List (List Nat))
  | [] => none
  | r :: rest =>
    let first := r.innerNeedles
    if first.areQuick then
      let all := (ofSequence (r :: rest)).innerNeedles
      let needles := if all.areQuick then all else first
      some (ofSequence before.reverse, (needles.getD []).map Needle.bytes)
    else innerFrom (r :: before) rest

/-- What comes before a text that stands inside of every match, and the text. -/
def inner? (r : Regex) : Option (Regex × List (List Nat)) :=
  match r.outerParts with
  | [] => none
  | part :: parts => innerFrom [part] parts

/-- **How an expression is approached.** -/
def approach (r : Regex) : Approach :=
  if r.hasEasyStart then .direct
  else
    match r.suffix?, r.inner? with
    | some needle, _ => .bySuffix needle r.backwards.program
    | none, some (before, needles) => .byInner needles before.backwards.program
    | none, none => .direct

end Regex

/-! ## Looking for needles -/

/-- How many characters a text must have to hold the bytes of a needle at its start, if it holds
them. -/
def needleLength : List Nat → List Char → Option Nat
  | [], _ => some 0
  | _ :: _, [] => none
  | byte :: bytes, c :: cs =>
    let needle := byte :: bytes
    let char := Encoding.bytes c.toNat
    if char.isPrefixOf needle then (needleLength (needle.drop char.length) cs).map (· + 1)
    else if needle.isPrefixOf char then some 1
    else none

/-- The places where a needle ends, given the characters before the first of them in reverse. -/
def needleEnds (needle : List Nat) : List Char → Nat → List Char → List Nat
  | before, place, rest =>
    let here := (Encoding.ofChars (before.take needle.length).reverse).reverse
    let later := match rest with
      | [] => []
      | c :: cs => needleEnds needle (c :: before) (place + 1) cs
    if needle.reverse.isPrefixOf here then place :: later else later

/-- The places where one of the needles stands, each with the place where it ends. -/
def needleSpans (needles : List (List Nat)) : Nat → List Char → List (Nat × Nat)
  | _, [] => []
  | place, c :: cs =>
    match needles.findSome? fun needle => needleLength needle (c :: cs) with
    | some length => (place, place + length) :: needleSpans needles (place + 1) cs
    | none => needleSpans needles (place + 1) cs

namespace Approach

/-- Tries the places where the text that ends all matches ends; `least` is the last one of them that
has been tried. -/
def trySuffix (back : Code) (text : Array Char) : Nat → List Nat → Start
  | _, [] => .nowhere
  | least, place :: places =>
    match Frontier.startBefore back text least place with
    | .nowhere => trySuffix back text place places
    | start => start

/-- Tries the places where a text stands that is inside of every match; `least` is the end of the
last one that has been tried, and `seen` how far a match has been followed that did not end. -/
def tryInner (program back : Code) (text : Array Char) : Nat → Nat → List (Nat × Nat) → Start
  | _, _, [] => .nowhere
  | least, seen, (place, stop) :: places =>
    if place < seen then .unsure
    else
      match Frontier.startBefore back text least place with
      | .nowhere => tryInner program back text stop seen places
      | .unsure => .unsure
      | .found start =>
        if (Search.matchAt program text start).isSome then .found start
        else tryInner program back text stop (Frontier.reachFrom program text start) places

/-- Whether a condition looks at words of any script. -/
def looksAtWords : Assertion → Bool
  | .wordBoundary ascii | .noWordBoundary ascii | .wordStart ascii | .wordEnd ascii
  | .noWordBefore ascii | .noWordAfter ascii => !ascii
  | _ => false

/-- Whether a text has to be searched one place after the other, because the program looks at words
of any script and the text is not ASCII. -/
def isTooVaried (program : Code) (text : Array Char) : Bool :=
  (text.any fun c => decide (0x80 ≤ c.toNat)) &&
    program.any fun
      | .assert condition => looksAtWords condition
      | _ => false

/-- Where the match starts that is taken. -/
def start (a : Approach) (program : Code) (text : Array Char) : Start :=
  match a with
  | direct => .unsure
  | bySuffix needle back =>
    if isTooVaried program text then .unsure
    else trySuffix back text 0 (needleEnds needle [] 0 text.toList)
  | byInner needles back =>
    if isTooVaried program text then .unsure
    else tryInner program back text 0 0 (needleSpans needles 0 text.toList)

/-- **The match that is found**: the places where its groups start and end. -/
def find (a : Approach) (program : Code) (text : Array Char) : Option Search.Slots :=
  match a.start program text with
  | .found place => Search.matchAt program text place
  | .nowhere => none
  | .unsure => Search.find program text

end Approach

end RowFilter.Pattern
