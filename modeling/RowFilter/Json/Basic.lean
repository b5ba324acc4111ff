import RowFilter.Text.Basic

/-!
# JSON values

Residuals and configurations arrive as JSON documents.  A number keeps its text, of any size.  An
object keeps its members in the order they were written, and also those with the same name; what a
repeated name means is for the reader of the document to say.
-/

set_option autoImplicit false

namespace RowFilter

/-- A JSON value. -/
inductive Json where
  /-- The null value. -/
  | null
  /-- A truth value. -/
  | boolean (value : Bool)
  /-- A number, by its text. -/
  | number (text : String)
  /-- A string. -/
  | string (value : String)
  /-- An array. -/
  | array (items : List Json)
  /-- An object, with its members as they were written. -/
  | object (members : List (String × Json))
deriving Repr, Inhabited

namespace Json

/-- Whether a member of the given name is present. -/
def has (name : String) (members : List (String × Json)) : Bool :=
  members.any fun m => m.1 == name

/-- The last member of the given name. -/
def lastMember (name : String) : List (String × Json) → Option Json
  | [] => none
  | (key, value) :: rest =>
    match lastMember name rest with
    | some v => some v
    | none => if key = name then some value else none

/-- How messages name a value. -/
def describe : Json → String
  | null => "null"
  | boolean _ => "boolean"
  | number text => "number " ++ text
  | string value => "string " ++ Text.shown value
  | array _ => "array"
  | object _ => "object"

end Json

end RowFilter
