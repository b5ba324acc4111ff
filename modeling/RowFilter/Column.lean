import RowFilter.Json.Basic
import RowFilter.Pattern.Substitution

/-!
# Columns

What a column holds decides how it can be compared.  A type is a scalar type, or the type of arrays
of one type, or the type of maps from strings to one type.

A declared path has the SQL text of its column either fixed, or computed from the path by replacing
the match of a pattern.

* `ValueType` — what a column holds.
* `Namer.name` — the SQL text of a column.
-/

set_option autoImplicit false

namespace RowFilter

/-! ## Types of values -/

/-- The type of the values of a column. -/
inductive ValueType where
  /-- Truth values. -/
  | boolean
  /-- Strings. -/
  | string
  /-- Numbers. -/
  | number
  /-- Arrays. -/
  | array (element : ValueType)
  /-- Maps from strings. -/
  | map (value : ValueType)
deriving Repr, DecidableEq, Inhabited

namespace ValueType

/-- How messages write the type. -/
def text : ValueType → String
  | boolean => "boolean"
  | string => "string"
  | number => "number"
  | array element => "array<" ++ element.text ++ ">"
  | map value => "map<string, " ++ value.text ++ ">"

/-- Whether it is a type of arrays. -/
def isArray : ValueType → Bool
  | array _ => true
  | _ => false

/-- Whether it is a scalar type. -/
def isScalar : ValueType → Bool
  | boolean => true
  | string => true
  | number => true
  | _ => false

/-- The type of what an array or a map holds. -/
def element : ValueType → Option ValueType
  | array t => some t
  | map t => some t
  | _ => none

/-- The scalar type of the given name. -/
def ofName? : String → Option ValueType
  | "boolean" => some boolean
  | "string" => some string
  | "number" => some number
  | _ => none

mutual

/-- The type that a JSON value writes: the name of a scalar type, or an object with the type's name
as its only member.  The member of a scalar type is null. -/
def ofJson? : Json → Option ValueType
  | .string name => ofName? name
  | .object members => ofMembers? members
  | _ => none

/-- The type that the members of an object write. -/
def ofMembers? : List (String × Json) → Option ValueType
  | [(name, content)] =>
    if name = "array" then (ofJson? content).map array
    else if name = "map" then (ofJson? content).map map
    else
      match content with
      | .null => ofName? name
      | _ => none
  | _ => none

end

end ValueType

/-! ## Names of columns -/

/-- How a column is named. -/
inductive Namer where
  /-- By a fixed text. -/
  | fixed (name : String)
  /-- By replacing the first match of a pattern in the dotted path. -/
  | pattern (pattern : Pattern) (template : String)
deriving Repr, DecidableEq

namespace Namer

/-- Whether the name is fixed. -/
def isFixed : Namer → Bool
  | fixed _ => true
  | pattern _ _ => false

/-- The name of the column at the dotted path; a pattern that does not match gives none. -/
def name (n : Namer) (dotted : String) : Option String :=
  match n with
  | fixed name => some name
  | pattern p template => p.replaceFirst template dotted

/-- The namer that replaces what a pattern matches, if the pattern can be read. -/
def ofPattern? (source template : String) : Option Namer :=
  (Pattern.ofText? source).map fun p => pattern p template

end Namer

end RowFilter
