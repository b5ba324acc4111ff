import RowFilter.Catalog.Basic
import RowFilter.Sql.Node

/-!
# Projection

A path can lead beyond the declaration that it matches: into an array, into a map, and at last to
any element of an array.  Projection follows the remaining steps through the declared type and
writes them as SQL.

* `Projection.descend` — the type that steps lead to.
* `Projection.fixedName` — the SQL text of steps beyond a column with a fixed name.
* `Catalog.resolve` — the column that a path leads to.
-/

set_option autoImplicit false

namespace RowFilter

open Sql (Node)

namespace Projection

/-- The type that the steps lead to from a value of the given type: an index leads into an array, a
field or an index into a map. -/
def descend : ValueType → Path → Option ValueType
  | type, [] => some type
  | .array element, .index _ :: rest => descend element rest
  | .map value, .field _ :: rest => descend value rest
  | .map value, .index _ :: rest => descend value rest
  | _, _ :: _ => none

/-- The value at a key of a map, read as a value of its type. -/
def mapValue (name key : String) : ValueType → String
  | .string => name ++ "->>" ++ key
  | .boolean => "(" ++ name ++ "->>" ++ key ++ ")::boolean"
  | .number => "(" ++ name ++ "->>" ++ key ++ ")::numeric"
  | .array _ => name ++ "->" ++ key
  | .map _ => name ++ "->" ++ key

/-- The SQL text of the steps beyond a column: none at all, one into an array, whose elements SQL
counts from one, or one into a map. -/
def fixedName (name : String) (type : ValueType) (rest : Path) : Option String :=
  match type, rest with
  | _, [] => some name
  | .array _, [.index i] =>
    if 0 ≤ i ∧ i < Segment.maxIndex then some (name ++ "[" ++ toString (i + 1) ++ "]") else none
  | .map value, [s] => s.key.map fun key => mapValue name (Sql.literal key) value
  | _, _ => none

/-- What the pattern of a namer is matched with: the dotted path, with every quote written twice. -/
def patternInput (path : Path) : String :=
  Text.joined "." (path.map fun s => String.ofList (Sql.doubleQuotes s.text.toList))

/-- The SQL text of a path that matches a declaration and goes on by `rest`. -/
def columnName (d : Declaration) (path rest : Path) : Option String :=
  match d.namer with
  | .fixed name => fixedName name d.type rest
  | .pattern p template => (Namer.pattern p template).name (patternInput path)

/-- The column that the steps beyond a declaration lead to.  A last step that iterates means any
element of the array before it. -/
def project (path : Path) (m : Catalog.Match) : Option Node :=
  let iterates := m.rest.getLast?.any Segment.isWildcard
  let addressed := if iterates then path.dropLast else path
  let rest := if iterates then m.rest.dropLast else m.rest
  match descend m.declaration.type rest with
  | none => none
  | some type =>
    if iterates && !type.isArray then none
    else
      (columnName m.declaration addressed rest).map fun sql =>
        .column sql type (if iterates then .anyElement else .whole)

end Projection

/-- **The column that a path leads to** in a catalog. -/
def Catalog.resolve (c : Catalog) (path : Path) : Option Node :=
  (c.lookup path).bind (Projection.project path)

end RowFilter
