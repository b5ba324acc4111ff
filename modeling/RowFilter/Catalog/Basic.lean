import RowFilter.Catalog.Trie

/-!
# Catalogs

A catalog holds the declarations of a configuration: for each declared path the type of its values
and the name of its column.

* `Catalog.insert` — adds a declaration in place.
* `Catalog.declare` — the catalog with a declaration added, or an error.
* `Catalog.lookup` — the declaration that a path leads to, with the steps up to it and those beyond.
-/

set_option autoImplicit false

namespace RowFilter

/-- Why a declaration is refused. -/
inductive CatalogError where
  /-- The path has no steps. -/
  | emptyPath
  /-- The path has a declaration already. -/
  | duplicate (path : String)
  /-- A key would have two children. -/
  | ambiguous (path : String)
deriving Repr, DecidableEq

/-- The wording of an error. -/
def CatalogError.message : CatalogError → String
  | emptyPath => "cannot declare an empty path"
  | duplicate path => path ++ " is declared more than once"
  | ambiguous path =>
    path ++ " overlaps a sibling declaration: a node cannot have both named and wildcard children"

/-- The declarations of a configuration. -/
structure Catalog where
  /-- The declared paths. -/
  root : Trie := .empty
  /-- How many there are. -/
  size : Nat := 0
deriving Repr, Inhabited

namespace Catalog

/-- Adds a declaration in place.  A refused declaration leaves the catalog as it was. -/
def insert (c : Catalog) (path : Path) (d : Declaration) : Except CatalogError Unit × Catalog :=
  match path with
  | [] => (.error .emptyPath, c)
  | s :: rest =>
    match c.root.insert d (s :: rest) with
    | (.ok _, root) => (.ok (), { root, size := c.size + 1 })
    | (.error .duplicate, root) => (.error (.duplicate (Path.dotted path)), { c with root })
    | (.error .ambiguous, root) => (.error (.ambiguous (Path.dotted path)), { c with root })

/-- The catalog with a declaration added for a dotted path. -/
def declare (c : Catalog) (path : String) (d : Declaration) : Except CatalogError Catalog :=
  match c.insert (Path.ofDotted path) d with
  | (.ok _, c') => .ok c'
  | (.error e, _) => .error e

/-- What a path leads to. -/
structure Match where
  /-- The declaration. -/
  declaration : Declaration
  /-- The steps up to it. -/
  matched : Path
  /-- The steps beyond. -/
  rest : Path
deriving Repr, DecidableEq

/-- **The declaration that a path leads to**: that of its longest beginning that is declared. -/
def lookup (c : Catalog) (path : Path) : Option Match :=
  (c.root.find path).map fun f =>
    { declaration := f.declaration, matched := path.take f.depth, rest := path.drop f.depth }

/-- Whether nothing is declared. -/
def isEmpty (c : Catalog) : Bool :=
  c.size == 0

/-- The declared paths in dotted form. -/
def paths (c : Catalog) : List String :=
  c.root.paths.map Path.dotted

end Catalog

end RowFilter
