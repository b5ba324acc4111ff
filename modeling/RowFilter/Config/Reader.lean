import RowFilter.Config.Basic
import RowFilter.Json.Reader

/-!
# Reading configurations

A configuration is a JSON document.

```text
{"presets": true,
 "columns": [{"path": "input.post.author", "type": "string", "column": "author"}],
 "exact": [{"path": "input.object.team", "type": "string", "column": "team_id :: text"}],
 "acl_groups": [{"prefix": "input.object.acl_role_list", "column": "role_acl"}],
 "disable": ["acl"]}
```

Every record is an object that holds each of its members at most once and no other ones, or an array
of its members in their order.  A member that may be missing may also be null where it has no value.
-/

set_option autoImplicit false

namespace RowFilter.Config

/-- The members of a record with the given names. -/
def members (names : List String) : Json → Option (List (String × Json))
  | .object ms =>
    let keys := ms.map Prod.fst
    if keys.all names.contains && decide keys.Nodup then some ms else none
  | .array items => if items.length ≤ names.length then some (names.zip items) else none
  | _ => none

/-- A string. -/
def text : Json → Option String
  | .string s => some s
  | _ => none

/-- A truth value. -/
def flag : Json → Option Bool
  | .boolean b => some b
  | _ => none

/-- An array of values of one kind. -/
def listOf {α : Type} (read : Json → Option α) : Json → Option (List α)
  | .array items => items.mapM read
  | _ => none

/-- A value, or null. -/
def orNull {α : Type} (read : Json → Option α) : Json → Option (Option α)
  | .null => some none
  | value => (read value).map some

/-- A member that has to be there. -/
def required {α : Type} (read : Json → Option α) (name : String) (ms : List (String × Json)) :
    Option α :=
  (ms.lookup name).bind read

/-- A member that has a default value. -/
def optional {α : Type} (default : α) (read : Json → Option α) (name : String)
    (ms : List (String × Json)) : Option α :=
  match ms.lookup name with
  | none => some default
  | some value => read value

/-- Reads a pattern and its template. -/
def patternEntry (value : Json) : Option PatternEntry := do
  let ms ← members ["regex", "replace"] value
  some { regex := ← required text "regex" ms, replace := ← required text "replace" ms }

/-- Reads a declared column. -/
def columnEntry (value : Json) : Option ColumnEntry := do
  let ms ← members ["path", "type", "column", "pattern"] value
  some {
    path := ← required text "path" ms
    type := ← required ValueType.ofJson? "type" ms
    column := ← optional none (orNull text) "column" ms
    pattern := ← optional none (orNull patternEntry) "pattern" ms }

/-- Reads a column for an exact path. -/
def exactEntry (value : Json) : Option ExactEntry := do
  let ms ← members ["path", "column", "type"] value
  some {
    path := ← required text "path" ms
    column := ← required text "column" ms
    type := ← required ValueType.ofJson? "type" ms }

/-- Reads a column of access lists. -/
def aclEntry (value : Json) : Option AclEntry := do
  let ms ← members ["prefix", "column"] value
  some { path := ← required text "prefix" ms, column := ← required text "column" ms }

/-- The configuration that a JSON value describes. -/
def ofJson? (value : Json) : Option Config := do
  let ms ← members ["presets", "columns", "exact", "acl_groups", "disable"] value
  some {
    presets := ← optional false flag "presets" ms
    columns := ← optional [] (listOf columnEntry) "columns" ms
    exact := ← optional [] (listOf exactEntry) "exact" ms
    aclGroups := ← optional [] (listOf aclEntry) "acl_groups" ms
    disable := ← optional [] (listOf text) "disable" ms }

/-- **The configuration that a document describes.** -/
def parse (document : String) : Except ConfigError Config :=
  match (Json.parse document).bind ofJson? with
  | some config => .ok config
  | none => .error .json

end RowFilter.Config
