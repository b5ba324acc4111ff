import RowFilter.Column
import RowFilter.Path

/-!
# Declared paths as a trie

The declared paths of a configuration form a trie.  A node has children by key, or a single child
that stands for every key; a node that had both would leave it open which child a key leads to, so a
declaration that would make one is refused.

Children are kept in the order of their keys.

* `Trie.insert` — adds a declaration.  The nodes on the way are made as they are reached; from the
  first new one on, nothing can refuse the declaration.
* `Trie.find` — the deepest declaration on the way of a path.
* `Trie.paths` — the declared paths.
-/

set_option autoImplicit false

namespace RowFilter

/-- What is declared of a path. -/
structure Declaration where
  /-- The type of its values. -/
  type : ValueType
  /-- How its column is named. -/
  namer : Namer
deriving Repr, DecidableEq

/-- A set of declared paths, sharing their beginnings. -/
inductive Trie where
  /-- The declaration that ends here, the children by key, and the child for every key. -/
  | node (declaration : Option Declaration) (named : List (String × Trie)) (wildcard : Option Trie)
deriving Repr

namespace Trie

/-- No declared paths. -/
def empty : Trie :=
  node none [] none

instance : Inhabited Trie := ⟨empty⟩

/-- The declaration that ends here. -/
def declaration : Trie → Option Declaration
  | node d _ _ => d

/-- The children by key. -/
def named : Trie → List (String × Trie)
  | node _ ns _ => ns

/-- The child that stands for every key. -/
def wildcard : Trie → Option Trie
  | node _ _ w => w

/-- The children with the one of the given key replaced or added, in the order of the keys. -/
def put (key : String) (child : Trie) : List (String × Trie) → List (String × Trie)
  | [] => [(key, child)]
  | (k, t) :: rest =>
    match compare key k with
    | .lt => (key, child) :: (k, t) :: rest
    | .eq => (key, child) :: rest
    | .gt => (k, t) :: put key child rest

/-! ## Adding declarations -/

/-- Why a declaration is refused. -/
inductive Refusal where
  /-- The path has a declaration already. -/
  | duplicate
  /-- A node would have children by key and one for every key. -/
  | ambiguous
deriving Repr, DecidableEq

/-- Adds a declaration for a path. -/
def insert (d : Declaration) : Path → Trie → Except Refusal Unit × Trie
  | [], t =>
    match t.declaration with
    | some _ => (.error .duplicate, t)
    | none => (.ok (), node (some d) t.named t.wildcard)
  | s :: rest, t =>
    match s.key with
    | some key =>
      match t.wildcard with
      | some _ => (.error .ambiguous, t)
      | none =>
        let (result, child) := insert d rest ((t.named.lookup key).getD empty)
        (result, node t.declaration (put key child t.named) none)
    | none =>
      if t.named.isEmpty then
        let (result, child) := insert d rest (t.wildcard.getD empty)
        (result, node t.declaration [] (some child))
      else (.error .ambiguous, t)

/-! ## Looking paths up -/

/-- The child that a step of a path leads to.  A key leads to the child of that key, or else to the
one for every key; iteration leads only to the latter. -/
def child (t : Trie) (s : Segment) : Option Trie :=
  match s.key.bind fun key => t.named.lookup key with
  | some c => some c
  | none => t.wildcard

/-- What a path leads to: a declaration, and how many steps of the path it takes to reach it. -/
structure Found where
  /-- The declaration. -/
  declaration : Declaration
  /-- The steps up to it. -/
  depth : Nat
deriving Repr, DecidableEq

/-- The deepest declaration below a node on the way of a path. -/
def find (t : Trie) : Path → Option Found
  | [] => none
  | s :: rest =>
    match t.child s with
    | none => none
    | some c =>
      match c.find rest with
      | some f => some { f with depth := f.depth + 1 }
      | none => c.declaration.map fun d => { declaration := d, depth := 1 }

/-! ## Listing paths -/

mutual

/-- The declared paths: a path before its extensions, and children in the order of their keys. -/
def paths : Trie → List Path
  | node d ns w =>
    (if d.isSome then [[]] else []) ++ namedPaths ns ++ wildcardPaths w

/-- The declared paths through children by key. -/
def namedPaths : List (String × Trie) → List Path
  | [] => []
  | (key, t) :: rest => t.paths.map (.field key :: ·) ++ namedPaths rest

/-- The declared paths through the child for every key. -/
def wildcardPaths : Option Trie → List Path
  | none => []
  | some t => t.paths.map (.wildcard "*" :: ·)

end

end Trie

end RowFilter
