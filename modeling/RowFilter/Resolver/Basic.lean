import RowFilter.Resolver.Projection

/-!
# Resolvers

A resolver turns paths into columns.  There are three kinds: a single column for one exact path, the
lists of an access list column keyed by group, and a catalog of declarations.  Resolvers are tried
in turn, and the first that knows a path decides.

`Resolver` is closed: it covers the kinds that configurations and built-in columns are made of, and
these answer with columns only.  Nothing is said about resolvers of other kinds, which could answer
with any predicate.

Resolvers are registered in named *groups*, which can be left out or picked as a whole.

* `Resolver.resolve` — the column of a path.
* `Resolver.first` — the first resolver that knows a path, with its column.
* `Registry.including`, `Registry.excluding` — the resolvers of some groups, in the order of
  registration.
* `Presets.registry` — the built-in resolvers.
-/

set_option autoImplicit false

namespace RowFilter

open Sql (Node)

/-- A way to turn paths into columns, of one of the kinds that come with the compiler. -/
inductive Resolver where
  /-- One exact path and its column. -/
  | column (path : Path) (sql : String) (type : ValueType)
  /-- A column of lists by group; `path` leads to the groups. -/
  | accessList (path : Path) (sql : String)
  /-- A catalog of declarations. -/
  | catalog (declarations : Catalog)
deriving Repr

namespace Resolver

/-- The exact column at a dotted path. -/
def ofColumn (path sql : String) (type : ValueType) : Resolver :=
  column (Path.ofDotted path) sql type

/-- The access list column whose groups lie below a dotted path. -/
def ofAccessList (path sql : String) : Resolver :=
  accessList (Path.ofDotted path) sql

/-- What messages call the resolver. -/
def name : Resolver → String
  | column path _ _ => "column " ++ path.dotted
  | accessList path _ => "acl group " ++ path.dotted
  | catalog c => "variable tree (" ++ toString c.size ++ " declarations)"

/-- A column, or any element of it where one more step iterates over an array. -/
def wholeOrElement (sql : String) (type : ValueType) : Path → Option Node
  | [] => some (.column sql type .whole)
  | [.wildcard _] => if type.isArray then some (.column sql type .anyElement) else none
  | _ => none

/-- The list of a group in an access list column. -/
def groupList (sql group : String) : String :=
  "ARRAY(SELECT jsonb_array_elements_text(" ++ sql ++ "->" ++ Sql.literal group ++ "))"

/-- The column of a path, if the resolver knows the path. -/
def resolve (r : Resolver) (path : Path) : Option Node :=
  match r with
  | column lead sql type => (lead.isPrefixOf? path).bind (wholeOrElement sql type)
  | accessList lead sql =>
    match lead.isPrefixOf? path with
    | some (.field group :: rest) => wholeOrElement (groupList sql group) (.array .string) rest
    | _ => none
  | catalog c => c.resolve path

/-- The first resolver of a list that knows the path, with the column. -/
def first (rs : List Resolver) (path : Path) : Option (Resolver × Node) :=
  rs.findSome? fun r => (r.resolve path).map fun n => (r, n)

/-- The column of a path by the first resolver that knows it. -/
def resolveFirst (rs : List Resolver) (path : Path) : Option Node :=
  (first rs path).map Prod.snd

end Resolver

/-- Resolvers with the names of their groups, in the order of registration. -/
abbrev Registry := List (String × Resolver)

namespace Registry

/-- The names of the groups, each once, in the order of registration. -/
def groups (r : Registry) : List String :=
  r.foldl (fun names entry => if names.contains entry.1 then names else names ++ [entry.1]) []

/-- The resolvers of the named groups. -/
def including (r : Registry) (names : List String) : List Resolver :=
  (r.filter fun entry => names.contains entry.1).map Prod.snd

/-- The resolvers of all other groups. -/
def excluding (r : Registry) (names : List String) : List Resolver :=
  (r.filter fun entry => !names.contains entry.1).map Prod.snd

end Registry

/-! ## Built-in columns

The columns that are known without a configuration: the owners of an object, and its access lists
for groups and for users. -/

namespace Presets

/-- The group of exact columns. -/
def core : String := "core"

/-- The group of access lists. -/
def acl : String := "acl"

/-- The built-in resolvers. -/
def registry : Registry :=
  [(core, .ofColumn "input.object.org_owner" "organization_id :: text" .string),
   (core, .ofColumn "input.object.owner" "owner_id :: text" .string),
   (acl, .ofAccessList "input.object.acl_group_list" "group_acl"),
   (acl, .ofAccessList "input.object.acl_user_list" "user_acl")]

/-- All built-in resolvers. -/
def all : List Resolver :=
  Registry.including registry [core, acl]

/-- The built-in resolvers without the access lists. -/
def withoutAcl : List Resolver :=
  Registry.excluding registry [acl]

end Presets

end RowFilter
