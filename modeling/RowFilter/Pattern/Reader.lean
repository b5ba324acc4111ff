import RowFilter.Number.Notation
import RowFilter.Pattern.Reader.Bracket

/-!
# Reading patterns

The notation of patterns is that of regular expressions: alternatives, repetitions, groups with and
without names, flags, bracketed sets with set algebra, escapes and assertions.  There are neither
look-around nor references to groups.

Reading either gives a regular expression and the names of its groups, or fails.  Every function
takes the characters that are left and returns those behind what it has read; the functions that
call each other take the number of characters as a bound on their recursion.

How deep a pattern may be nested is limited (`maxDepth`).  Groups and repetitions count one more
than what they hold, and so do sequences and alternatives of several parts.

* `Reader.read` — the expression that a text spells, with the names of its groups.
-/

set_option autoImplicit false

namespace RowFilter.Pattern.Reader

open Text (CharSet)
open Escape (Primitive)

/-- An expression, and how deep it is nested. -/
structure Nested where
  /-- The expression. -/
  regex : Regex
  /-- Its depth. -/
  depth : Nat := 0

/-- The depth of several parts. -/
def depthOf (parts : List Nat) : Nat :=
  match parts with
  | [] => 0
  | [d] => d
  | parts => parts.foldl max 0 + 1

/-! ## Repetitions -/

/-- The digits of a count, without what is ignored between them; `fuel` bounds their number. -/
def countDigits (f : Flags) : Nat → List Char → List Char × List Char
  | fuel + 1, c :: cs =>
    if c.isDigit then
      let (digits, rest) := countDigits f fuel (f.skip cs)
      (c :: digits, rest)
    else ([], c :: cs)
  | _, cs => ([], cs)

/-- A count between braces, with blanks around it. -/
def count (f : Flags) (cs : List Char) : Option (Nat × List Char) :=
  let cs := cs.dropWhile Text.isBlank
  let (digits, rest) := countDigits f cs.length cs
  let n := RowFilter.Number.digitsValue digits
  if digits.isEmpty || decide (Nat.pow 2 32 ≤ n) then none
  else some (n, rest.dropWhile Text.isBlank)

/-- The bounds of a counted repetition, behind the opening brace. -/
def counts (f : Flags) (cs : List Char) : Option (Nat × Option Nat × List Char) := do
  let (least, rest) ← count f (f.skip cs)
  match rest with
  | '\x7d' :: rest => some (least, some least, rest)
  | ',' :: rest =>
    match f.skip rest with
    | '\x7d' :: rest => some (least, none, rest)
    | rest =>
      let (most, rest) ← count f rest
      match rest with
      | '\x7d' :: rest => if least ≤ most then some (least, some most, rest) else none
      | _ => none
  | _ => none

/-! ## Sequences and groups -/

/-- What has been settled so far. -/
structure Progress where
  /-- The flags in force. -/
  flags : Flags := {}
  /-- How many groups have been opened. -/
  groups : Nat := 0
  /-- The names of groups. -/
  names : List (String × Nat) := []

/-- A part of a sequence. -/
inductive Part where
  /-- An expression. -/
  | expression (e : Nested)
  /-- A change of flags, which cannot be repeated. -/
  | flags

/-- The expression of a part. -/
def Part.regex : Part → Regex
  | expression e => e.regex
  | flags => .empty

/-- The depth of a part. -/
def Part.depth : Part → Nat
  | expression e => e.depth
  | flags => 0

/-- The sequence of the parts, given from the last to the first. -/
def sequenceOf (parts : List Part) : Nested :=
  { regex := Regex.ofSequence (parts.reverse.map Part.regex)
    depth := depthOf (parts.map Part.depth) }

/-- The choice between alternatives, given from the last to the first, if they are not nested too
deep. -/
def choiceOf (alternatives : List Nested) : Option Nested :=
  let depth := depthOf (alternatives.map Nested.depth)
  if depth ≤ maxDepth then some ⟨Regex.ofChoice (alternatives.reverse.map Nested.regex), depth⟩
  else none

/-- The expression of a character. -/
def character (f : Flags) (c : Char) : Regex :=
  Regex.ofSet (f.close (.one c))

/-- The expression of a primitive. -/
def primitive (f : Flags) : Primitive → Regex
  | .literal c => character f c
  | .chars s => Regex.ofSet s
  | .assert a => .assert a

/-- The expression of the dot. -/
def dot (f : Flags) : Option Regex :=
  if !f.unicode then none
  else if f.dotAll then some (.set .all)
  else if f.crlf then some (.set (.compl (.union (.one '\n') (.one '\r'))))
  else some (.set (.compl (.one '\n')))

/-- The assertion of the caret. -/
def caret (f : Flags) : Assertion :=
  if !f.multiLine then .textStart else if f.crlf then .lineStartCrlf else .lineStart

/-- The assertion of the dollar sign. -/
def dollar (f : Flags) : Assertion :=
  if !f.multiLine then .textEnd else if f.crlf then .lineEndCrlf else .lineEnd

/-- Repeats the last part; a question mark behind the operator makes it lazy. -/
def repeatLast (f : Flags) (least : Nat) (most : Option Nat) (parts : List Part)
    (cs : List Char) : Option (List Part × List Char) :=
  match parts with
  | .expression e :: before =>
    let (marked, rest) := match cs with
      | '?' :: ds => (true, ds)
      | ds => (false, ds)
    let e : Nested := ⟨e.regex.times least most (marked == f.swapGreed), e.depth + 1⟩
    some (.expression e :: before, rest)
  | _ => none

/-- A character of the name of a group. -/
def isNameChar (first : Bool) (c : Char) : Bool :=
  if first then c == '_' || Text.isAlphabetic c
  else c == '_' || c == '.' || c == '[' || c == ']' || Text.isAlphanumeric c

/-- The name of a group, up to and including the angle bracket that closes it. -/
def groupName (cs : List Char) : Option (String × List Char) :=
  match cs.dropWhile (· != '>') with
  | [] => none
  | _ :: rest =>
    match cs.takeWhile (· != '>') with
    | [] => none
    | c :: name =>
      if isNameChar true c && name.all (isNameChar false) then
        some (String.ofList (c :: name), rest)
      else none

/-- The texts that would announce look-around. -/
def isLookAround (cs : List Char) : Bool :=
  [['?', '='], ['?', '!'], ['?', '<', '='], ['?', '<', '!']].any fun mark => mark.isPrefixOf cs

/-- How a group begins. -/
inductive Opening where
  /-- A group that captures, with its index. -/
  | capture (index : Nat)
  /-- A group that does not capture. -/
  | plain
  /-- No group at all, but flags for the rest of the enclosing one. -/
  | flags

/-- Reads what follows an opening parenthesis. -/
def opening (p : Progress) (cs : List Char) : Option (Opening × Progress × List Char) :=
  let cs := p.flags.skip cs
  let index := p.groups + 1
  let named (cs : List Char) : Option (Opening × Progress × List Char) := do
    let (name, rest) ← groupName cs
    if (p.names.lookup name).isSome then none
    else some (.capture index, { p with groups := index, names := (name, index) :: p.names }, rest)
  if isLookAround cs then none
  else
    match cs with
    | '?' :: 'P' :: '<' :: rest => named rest
    | '?' :: '<' :: rest => named rest
    | '?' :: rest => do
      let (f, isGroup, rest) ← p.flags.read true [] ' ' rest
      some (if isGroup then .plain else .flags, { p with flags := f }, rest)
    | rest => some (.capture index, { p with groups := index }, rest)

/-- The expression of a group. -/
def Opening.enclose (start : Opening) (e : Nested) : Nested :=
  match start with
  | capture index => ⟨.group index e.regex, e.depth + 1⟩
  | _ => ⟨e.regex, e.depth + 1⟩

/-- The alternatives from here on, up to the end of the group or of the text.  `parts` holds the
parts of the current alternative, and `before` the alternatives before it, both from the last to the
first. -/
def alternatives : Nat → Progress → List Part → List Nested → List Char →
    Option (Nested × Progress × List Char)
  | 0, _, _, _, _ => none
  | fuel + 1, p, parts, before, cs =>
    let f := p.flags
    let go (e : Nested) (rest : List Char) :=
      alternatives fuel p (.expression e :: parts) before rest
    let repetition (least : Nat) (most : Option Nat) (rest : List Char) :=
      match repeatLast f least most parts rest with
      | some (parts, rest) => alternatives fuel p parts before rest
      | none => none
    match f.skip cs with
    | [] => (choiceOf (sequenceOf parts :: before)).map (·, p, [])
    | ')' :: rest => (choiceOf (sequenceOf parts :: before)).map (·, p, ')' :: rest)
    | '|' :: rest => alternatives fuel p [] (sequenceOf parts :: before) rest
    | '(' :: rest =>
      match opening p rest with
      | none => none
      | some (.flags, q, rest) => alternatives fuel q (.flags :: parts) before rest
      | some (start, q, rest) =>
        match alternatives fuel q [] [] rest with
        | some (e, q, ')' :: rest) =>
          let part := .expression (start.enclose e)
          alternatives fuel { q with flags := f } (part :: parts) before rest
        | _ => none
    | '[' :: rest =>
      match Bracket.read f rest with
      | some (m, rest) => go ⟨Regex.ofSet m.chars, m.depth⟩ rest
      | none => none
    | '?' :: rest => repetition 0 (some 1) rest
    | '*' :: rest => repetition 0 none rest
    | '+' :: rest => repetition 1 none rest
    | '\x7b' :: rest =>
      match counts f rest with
      | some (least, most, rest) => repetition least most (f.skip rest)
      | none => none
    | '\\' :: rest =>
      match Escape.read f rest with
      | some (e, rest) => go { regex := primitive f e } rest
      | none => none
    | '.' :: rest =>
      match dot f with
      | some r => go { regex := r } rest
      | none => none
    | '^' :: rest => go { regex := .assert (caret f) } rest
    | '$' :: rest => go { regex := .assert (dollar f) } rest
    | c :: rest => go { regex := character f c } rest

/-- **The expression that a text spells**, and the names of its groups. -/
def read (text : String) : Option (Regex × List (String × Nat)) :=
  let cs := text.toList
  match alternatives (2 * cs.length + 2) {} [] [] cs with
  | some (e, p, []) => some (e.regex, p.names)
  | _ => none

end RowFilter.Pattern.Reader
