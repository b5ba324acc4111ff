import RowFilter.Number.Notation
import RowFilter.Residual.Printer

/-!
# Paths

A path leads from the input of a policy to one of its values: fields, array indices, and iteration
over all elements of a collection.  Two kinds of paths meet when a residual is compiled: those
declared in a configuration, which are written with dots and stars, and those taken from the
references of a residual.

* `Path.ofDotted`, `Path.dotted` — the dotted form.
* `Path.ofRef` — the path of a reference.
-/

set_option autoImplicit false

namespace RowFilter

/-- One step of a path. -/
inductive Segment where
  /-- Into a field or a key. -/
  | field (name : String)
  /-- Into an array element. -/
  | index (value : Int)
  /-- Into every element; `name` is the variable that iterates. -/
  | wildcard (name : String)
deriving Repr, DecidableEq

/-- The smallest index: indices have 64 bits. -/
def Segment.minIndex : Int := -9223372036854775808

/-- The largest index. -/
def Segment.maxIndex : Int := 9223372036854775807

/-- The steps from the input to one of its values. -/
abbrev Path := List Segment

namespace Segment

/-- The key that a step selects; iteration selects none. -/
def key : Segment → Option String
  | field name => some name
  | index value => some (toString value)
  | wildcard _ => none

/-- Whether the step iterates. -/
def isWildcard : Segment → Bool
  | wildcard _ => true
  | _ => false

/-- The dotted form of a step. -/
def text (s : Segment) : String :=
  s.key.getD "*"

/-- The step that a piece of a dotted path stands for. -/
def ofPiece (piece : String) : Segment :=
  if piece = "*" then wildcard "*" else field piece

end Segment

namespace Path

/-- The dotted form of a path. -/
def dotted (p : Path) : String :=
  Text.joined "." (p.map Segment.text)

/-- The path that a dotted text spells.  Empty pieces are left out. -/
def ofDotted (text : String) : Path :=
  ((Text.split '.' text).filter (· ≠ "")).map Segment.ofPiece

end Path

/-! ## Paths of references -/

/-- Why a reference has no path. -/
inductive PathError where
  /-- It has no segments. -/
  | empty
  /-- It does not start with a variable. -/
  | invalidHead (head : String)
  /-- One of its segments is no step. -/
  | invalidSegment (segment kind : String)
deriving Repr, DecidableEq

/-- The wording of an error. -/
def PathError.message : PathError → String
  | empty => "empty ref not supported"
  | invalidHead head => "ref must start with a variable, found " ++ head
  | invalidSegment segment kind => "unsupported ref segment " ++ segment ++ " (" ++ kind ++ ")"

/-- The integer that a number text spells, if it has neither fraction nor exponent and fits into 64
bits. -/
def Number.toIndex (text : String) : Option Int :=
  let inRange (n : Int) : Option Int :=
    if Segment.minIndex ≤ n ∧ n ≤ Segment.maxIndex then some n else none
  match text.toList with
  | '-' :: ds => if Number.isDigits ds then inRange (-(Number.digitsValue ds : Int)) else none
  | ds => if Number.isDigits ds then inRange (Number.digitsValue ds) else none

namespace Path

/-- The step that a segment of a reference stands for. -/
def segment (t : Term) : Except PathError Segment :=
  match t with
  | .string s => .ok (.field s)
  | .var x => .ok (.wildcard x)
  | .number text =>
    if Number.isValid text then
      match Number.toIndex text with
      | some i => .ok (.index i)
      | none => .error (.invalidSegment text "non-integral number")
    else .error (.invalidSegment text t.kindName)
  | t => .error (.invalidSegment t.text t.kindName)

/-- **The path of a reference**: its head names the first field. -/
def ofRef : List Term → Except PathError Path
  | [] => .error .empty
  | .var head :: rest => do
    let steps ← rest.mapM segment
    pure (.field head :: steps)
  | t :: _ => .error (.invalidHead t.text)

end Path

end RowFilter
