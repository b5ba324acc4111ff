import RowFilter.Text.Property.Break
import RowFilter.Text.Property.Script

/-!
# Named sets of characters

A pattern can name a set of characters: by a property of Unicode, by a property and a value of it,
or by one of the classes of ASCII.  Names of properties and values are compared without regard to
case, spaces, hyphens, underscores and characters outside of ASCII.

* `Property.set?` — the set that a name stands for.
* `Property.valueSet?` — the set that the name of a property and a value stand for.
-/

set_option autoImplicit false

namespace RowFilter.Pattern

open Text

namespace Property

/-- The letters of a name that count, in lower case. -/
def letters (name : List Char) : List Char :=
  let kept := name.filter fun c => decide (c.toNat < 0x80) && c != ' ' && c != '_' && c != '-'
  kept.map Char.toLower

/-- The name without what does not count.  A leading `is` does not count either, except that nothing
else would be left to part the name `isc` from `c`. -/
def plainName (name : List Char) : String :=
  match name with
  | i :: s :: rest =>
    if i.toLower == 'i' && s.toLower == 's' then
      if letters rest == ['c'] then "isc" else String.ofList (letters rest)
    else String.ofList (letters name)
  | _ => String.ofList (letters name)

/-- **The set that a name stands for**: a property that a character has or has not, a general
category, or a script. -/
def set? (name : List Char) : Option CharSet :=
  let plain := plainName name
  CharSet.binary? plain <|> CharSet.category? plain <|> CharSet.script? plain

/-- **The set that the name of a property and a value stand for.** -/
def valueSet? (name value : List Char) : Option CharSet :=
  let plain := plainName value
  match plainName name with
  | "gc" | "generalcategory" => CharSet.category? plain
  | "sc" | "script" => CharSet.script? plain
  | "scx" | "scriptextensions" => CharSet.scriptExtension? plain
  | "age" => CharSet.age? plain
  | "gcb" | "graphemeclusterbreak" => CharSet.graphemeBreak? plain
  | "wb" | "wordbreak" => CharSet.wordBreak? plain
  | "sb" | "sentencebreak" => CharSet.sentenceBreak? plain
  | _ => none

/-- The class of ASCII of the given name. -/
def asciiClass? (name : String) : Option CharSet :=
  let digits := CharSet.span '0' '9'
  let lower := CharSet.span 'a' 'z'
  let upper := CharSet.span 'A' 'Z'
  match name with
  | "alnum" => some (.unions [digits, lower, upper])
  | "alpha" => some (.unions [lower, upper])
  | "ascii" => some .ascii
  | "blank" => some (.unions [.one '\t', .one ' '])
  | "cntrl" => some (.unions [.span '\x00' '\x1f', .one '\x7f'])
  | "digit" => some digits
  | "graph" => some (.span '!' '~')
  | "lower" => some lower
  | "print" => some (.span ' ' '~')
  | "punct" => some (.unions [.span '!' '/', .span ':' '@', .span '[' '\x60', .span '\x7b' '~'])
  | "space" => some (.unions [.span '\t' '\r', .one ' '])
  | "upper" => some upper
  | "word" => some (.unions [digits, lower, upper, .one '_'])
  | "xdigit" => some (.unions [digits, .span 'a' 'f', .span 'A' 'F'])
  | _ => none

end Property

end RowFilter.Pattern
