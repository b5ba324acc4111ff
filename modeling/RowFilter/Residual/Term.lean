import RowFilter.Text.Basic

/-!
# Terms of a residual

When a policy is evaluated without knowing the row it is asked about, what is left over is a
*residual*: conditions on the unknown row.  Its terms are constants, variables, references into the
unknown input, collections and calls.

A number is kept as the text it was written with, which need not even be a number; whoever needs a
number checks it.  A set keeps the order its elements were written in, and it is the order of terms
(`Residual.Order`) that does not look at it.
-/

set_option autoImplicit false

namespace RowFilter

/-- A term of a residual. -/
inductive Term where
  /-- The null constant. -/
  | null
  /-- A truth value. -/
  | boolean (value : Bool)
  /-- A number, by its text. -/
  | number (text : String)
  /-- A string. -/
  | string (value : String)
  /-- A variable. -/
  | var (name : String)
  /-- A reference: a head, followed by the segments that lead into it. -/
  | ref (segments : List Term)
  /-- An array. -/
  | array (elements : List Term)
  /-- A set, its elements in the order they were written. -/
  | set (elements : List Term)
  /-- An object: keys and values. -/
  | object (entries : List (Term × Term))
  /-- A call: the operator, followed by its arguments. -/
  | call (terms : List Term)
deriving Repr, Inhabited

namespace Term

/-- What messages call this kind of term. -/
def kindName : Term → String
  | null => "null"
  | boolean _ => "boolean"
  | number _ => "number"
  | string _ => "string"
  | var _ => "var"
  | ref _ => "ref"
  | array _ => "array"
  | set _ => "set"
  | object _ => "object"
  | call _ => "call"

/-- The reference that a dotted text spells: the first piece is a variable, a piece `_` iterates,
and every other piece names a field. -/
def ofDotted (path : String) : Term :=
  match Text.split '.' path with
  | [] => ref []
  | head :: rest => ref (var head :: rest.map fun s => if s = "_" then var s else string s)

/-! ## Operators -/

/-- The reference that names an operator, such as `internal.member_2`. -/
def operatorRef (name : String) : Term :=
  match Text.split '.' name with
  | [] => ref []
  | head :: rest => ref (var head :: rest.map string)

/-- The names of fields that follow the head of an operator's reference, if they all are strings. -/
def fieldNames : List Term → Option (List String)
  | [] => some []
  | string s :: rest => (fieldNames rest).map (s :: ·)
  | _ :: _ => none

/-- The dotted name of an operator, if the term can name one. -/
def operatorName : Term → Option String
  | var name => some name
  | ref (var head :: rest) => (fieldNames rest).map fun names => Text.joined "." (head :: names)
  | _ => none

end Term

end RowFilter
