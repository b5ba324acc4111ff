import RowFilter.Number.Notation
import RowFilter.Text.Basic

/-!
# Templates

A template is a text in which a dollar sign marks a group of a pattern, by its number or its name:
`$1`, `$name`, or `${name}` where the name would otherwise run on.  Two dollar signs stand for one,
and a dollar sign that marks nothing stands for itself.

* `Template.parts` — the pieces of text and the marks of a template.
-/

set_option autoImplicit false

namespace RowFilter.Pattern.Template

/-- How a mark refers to a group. -/
inductive Mark where
  /-- By its number. -/
  | number (index : Nat)
  /-- By its name. -/
  | name (name : String)
deriving Repr, DecidableEq

/-- A part of a template. -/
inductive Part where
  /-- A character that stands for itself. -/
  | char (c : Char)
  /-- The text of a group. -/
  | group (mark : Mark)
deriving Repr, DecidableEq

/-- A character of a name that stands without braces. -/
def isNameChar (c : Char) : Bool :=
  c.isAlphanum || c == '_'

/-- The group that a word refers to: digits, which a plus may precede, are its number. -/
def markOf (word : List Char) : Mark :=
  let digits := match word with
    | '+' :: ds => ds
    | ds => ds
  if Number.isDigits digits then .number (Number.digitsValue digits)
  else .name (String.ofList word)

/-- The mark behind a dollar sign, and what is behind the mark. -/
def markBehind : List Char → Option (Mark × List Char)
  | '\x7b' :: cs =>
    match cs.dropWhile (· != '\x7d') with
    | [] => none
    | _ :: rest => some (markOf (cs.takeWhile (· != '\x7d')), rest)
  | cs =>
    let word := cs.takeWhile isNameChar
    if word.isEmpty then none else some (markOf word, cs.drop word.length)

/-- The parts of a template, read with a bound on their number. -/
def partsWith : Nat → List Char → List Part
  | 0, _ => []
  | _, [] => []
  | n + 1, '$' :: '$' :: cs => .char '$' :: partsWith n cs
  | n + 1, '$' :: cs =>
    match markBehind cs with
    | some (mark, rest) => .group mark :: partsWith n rest
    | none => .char '$' :: partsWith n cs
  | n + 1, c :: cs => .char c :: partsWith n cs

/-- The parts of a template. -/
def parts (template : String) : List Part :=
  partsWith template.toList.length template.toList

end RowFilter.Pattern.Template
