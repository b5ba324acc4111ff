import RowFilter.Pattern.Approach
import RowFilter.Pattern.Footprint
import RowFilter.Pattern.Reader
import RowFilter.Pattern.Template

/-!
# Substitution

A pattern that has been read can be searched for in a text, and its first match can be replaced by a
template.  A group that the pattern lacks, or that took no part in the match, leaves no text.
-/

set_option autoImplicit false

namespace RowFilter

/-- A pattern, ready to be searched for. -/
structure Pattern where
  /-- The text it was read from. -/
  source : String
  /-- The program that matches it. -/
  program : Pattern.Code
  /-- How its matches are found. -/
  approach : Pattern.Approach
  /-- The names of its groups. -/
  names : List (String × Nat)
deriving Repr, DecidableEq

namespace Pattern

/-- The pattern that a text spells.  A pattern that is too large is refused. -/
def ofText? (source : String) : Option Pattern :=
  match Reader.read source with
  | none => none
  | some (r, names) =>
    if r.fits then some { source, program := r.program, approach := r.approach, names } else none

/-- The characters from the place `start` to the place `stop`. -/
def between (text : Array Char) (start stop : Nat) : List Char :=
  (text.toList.take stop).drop start

/-- The text of the group that a mark refers to. -/
def groupText (names : List (String × Nat)) (text : Array Char) (slots : Search.Slots)
    (mark : Template.Mark) : List Char :=
  let index : Option Nat := match mark with
    | .number n => some n
    | .name s => names.lookup s
  match index.bind (Search.span slots) with
  | some (start, stop) => between text start stop
  | none => []

/-- What a template becomes for a match. -/
def expand (p : Pattern) (text : Array Char) (slots : Search.Slots) (template : String) :
    List Char :=
  (Template.parts template).flatMap fun
    | .char c => [c]
    | .group mark => groupText p.names text slots mark

/-- **The text with its first match replaced by the template**, if the pattern matches at all. -/
def replaceFirst (p : Pattern) (template text : String) : Option String :=
  let chars := text.toList.toArray
  match p.approach.find p.program chars with
  | none => none
  | some slots =>
    match Search.span slots 0 with
    | none => none
    | some (start, stop) =>
      some (String.ofList
        (between chars 0 start ++ p.expand chars slots template ++ between chars stop chars.size))

end Pattern

end RowFilter
