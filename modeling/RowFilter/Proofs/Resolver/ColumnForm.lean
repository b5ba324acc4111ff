import RowFilter.Proofs.Resolver.Column
import RowFilter.Proofs.Sql.Quoting

/-!
# What the texts of columns are made of

Some resolvers have the text of a column from the configuration alone.  The others put a key of the
residual into it: the group of an access list, or the key of a map.  This file takes such a text
apart into pieces, of which the key is a literal and the rest is code.  What the code is depends on
the configured text and on the shape of the column, but not on the key.

* `ColumnShape.pieces` — the pieces of a column.
* `Compile.Settings.columnTexts` — the texts that are configured.
* `Compile.quotedKeys` — the keys that a reference puts into the text of its column.
* `Compile.form_of_reference` — the column of a reference is made of a configured text and of these
  keys, unless its name is computed by a pattern.
-/

set_option autoImplicit false

namespace RowFilter

open Sql (Node Piece)

/-! ## Shapes -/

/-- How a column is made from a configured text. -/
inductive ColumnShape where
  /-- The text itself. -/
  | plain
  /-- An element of an array, by its index. -/
  | subscript (index : Nat)
  /-- The value of a map at a key. -/
  | entry (value : ValueType)
  /-- The list of a group. -/
  | group
deriving Repr, DecidableEq

namespace ColumnShape

/-- The pieces of a column with the given configured text and key. -/
def pieces (name key : String) : ColumnShape → List Piece
  | plain => [.code name]
  | subscript i => [.code name, .code ("[" ++ toString (i + 1) ++ "]")]
  | entry .string => [.code name, .code "->>", .literal key]
  | entry .boolean => [.code "(", .code name, .code "->>", .literal key, .code ")::boolean"]
  | entry .number => [.code "(", .code name, .code "->>", .literal key, .code ")::numeric"]
  | entry (.array _) => [.code name, .code "->", .literal key]
  | entry (.map _) => [.code name, .code "->", .literal key]
  | group =>
    [.code "ARRAY(SELECT jsonb_array_elements_text(", .code name, .code "->", .literal key,
      .code "))"]

/-- The text of such a column. -/
def text (name key : String) (shape : ColumnShape) : String :=
  Sql.joinedText (shape.pieces name key)

/-- The keys in the text of such a column. -/
def quoted (key : String) : ColumnShape → List String
  | entry _ => [key]
  | group => [key]
  | _ => []

theorem quoted_eq (name key : String) (shape : ColumnShape) :
    shape.quoted key = (shape.pieces name key).filterMap Piece.value? := by
  cases shape with
  | entry value => cases value <;> rfl
  | _ => rfl

/-- **The key does not show outside of the literals.** -/
theorem outside_pieces (name key key' : String) (shape : ColumnShape) :
    (shape.pieces name key).flatMap Piece.outside =
      (shape.pieces name key').flatMap Piece.outside := by
  cases shape with
  | entry value => cases value <;> rfl
  | _ => rfl

theorem isChain_pieces (name key : String) (shape : ColumnShape) :
    (shape.pieces name key).IsChain Piece.Apart := by
  cases shape with
  | entry value => cases value <;> simp [pieces, Piece.Apart, Piece.value?]
  | _ => simp [pieces, Piece.Apart, Piece.value?]

theorem text_plain (name key : String) : plain.text name key = name := by
  simp only [text, pieces, Sql.joinedText, Piece.text, String.append_empty]

theorem text_subscript (name key : String) (i : Nat) :
    (subscript i).text name key = name ++ "[" ++ toString (i + 1) ++ "]" := by
  simp only [text, pieces, Sql.joinedText, Piece.text, String.append_empty, String.append_assoc]

theorem text_entry (name key : String) (value : ValueType) :
    (entry value).text name key = Projection.mapValue name (Sql.literal key) value := by
  cases value <;>
    simp only [text, pieces, Sql.joinedText, Piece.text, Projection.mapValue, String.append_empty,
      String.append_assoc]

theorem text_group (name key : String) : group.text name key = Resolver.groupList name key := by
  -- stated by `rfl`, since unfolding a definition with so long a literal is slow
  have hlist : Resolver.groupList name key =
      "ARRAY(SELECT jsonb_array_elements_text(" ++ name ++ "->" ++ Sql.literal key ++ "))" := rfl
  simp only [hlist, text, pieces, Sql.joinedText, Piece.text, String.append_empty,
    String.append_assoc]

end ColumnShape

/-! ## Configured texts -/

namespace Trie

mutual

/-- The declarations of a trie. -/
def declarations : Trie → List Declaration
  | node d ns w => d.toList ++ namedDeclarations ns ++ wildcardDeclarations w

/-- The declarations below children by key. -/
def namedDeclarations : List (String × Trie) → List Declaration
  | [] => []
  | (_, t) :: rest => t.declarations ++ namedDeclarations rest

/-- The declarations below the child for every key. -/
def wildcardDeclarations : Option Trie → List Declaration
  | none => []
  | some t => t.declarations

end

theorem declarations_of_lookup {key : String} {c : Trie} {ns : List (String × Trie)}
    (h : ns.lookup key = some c) : c.declarations ⊆ namedDeclarations ns := by
  induction ns with
  | nil => cases h
  | cons entry ns ih =>
    obtain ⟨k, t⟩ := entry
    rw [List.lookup_cons] at h
    rw [namedDeclarations]
    split at h
    · cases h
      exact List.subset_append_left _ _
    · exact List.subset_append_of_subset_right _ (ih h)

theorem declarations_of_child {t c : Trie} {s : Segment} (h : t.child s = some c) :
    c.declarations ⊆ t.declarations := by
  obtain ⟨d, ns, w⟩ := t
  rw [declarations]
  unfold child at h
  split at h
  · next c' hc =>
    cases h
    obtain ⟨key, _, hlookup⟩ := Option.bind_eq_some_iff.1 hc
    exact List.subset_append_of_subset_left _
      (List.subset_append_of_subset_right _ (declarations_of_lookup hlookup))
  · obtain rfl : w = some c := h
    exact List.subset_append_right _ _

/-- What a path leads to is one of the declarations. -/
theorem mem_declarations_of_find {t : Trie} {path : Path} {f : Found} (h : t.find path = some f) :
    f.declaration ∈ t.declarations := by
  induction path generalizing t f with
  | nil => cases h
  | cons s rest ih =>
    rw [find] at h
    split at h
    · cases h
    · next c hc =>
      refine declarations_of_child hc ?_
      split at h
      · next g hg =>
        have hmem := ih hg
        cases h
        exact hmem
      · obtain ⟨d, hd, rfl⟩ := Option.map_eq_some_iff.1 h
        obtain ⟨d', ns, w⟩ := c
        obtain rfl : d' = some d := hd
        simp [declarations]

end Trie

/-- The fixed name of a column. -/
def Namer.fixedName? : Namer → Option String
  | fixed name => some name
  | pattern _ _ => none

namespace Resolver

/-- The texts of columns that a resolver is configured with. -/
def columnTexts : Resolver → List String
  | column _ sql _ => [sql]
  | accessList _ sql => [sql]
  | catalog c => c.root.declarations.filterMap fun d => d.namer.fixedName?

/-- Whether no name is computed by a pattern. -/
def isStatic : Resolver → Bool
  | catalog c => c.root.declarations.all fun d => d.namer.isFixed
  | _ => true

/-- The key that steps beyond a declaration of the given type select in a map. -/
def entryKeys : ValueType → Path → List String
  | .map _, [s] => s.key.toList
  | _, _ => []

/-- The steps beyond a declaration, without a last one that iterates. -/
def addressed (rest : Path) : Path :=
  if rest.getLast?.any Segment.isWildcard then rest.dropLast else rest

/-- The keys that a resolver puts into the text of a column. -/
def quotedKeys (path : Path) : Resolver → List String
  | column _ _ _ => []
  | accessList lead _ =>
    match lead.isPrefixOf? path with
    | some (.field group :: _) => [group]
    | _ => []
  | catalog c =>
    match c.lookup path with
    | some m => entryKeys m.declaration.type (addressed m.rest)
    | none => []

/-- A column made of one of some configured texts and of the given keys. -/
def IsFormed (texts keys : List String) (sql : String) : Prop :=
  ∃ name ∈ texts, ∃ key, ∃ shape : ColumnShape,
    sql = shape.text name key ∧ shape.quoted key = keys

theorem form_of_fixedName {name sql : String} {type : ValueType} {rest : Path}
    (h : Projection.fixedName name type rest = some sql) :
    IsFormed [name] (entryKeys type rest) sql := by
  unfold Projection.fixedName at h
  split at h
  · cases h
    refine ⟨name, by simp, "", .plain, (ColumnShape.text_plain name "").symm, ?_⟩
    cases type <;> rfl
  · next element i =>
    obtain ⟨hi, heq⟩ := Option.ite_none_right_eq_some.1 h
    cases heq
    obtain ⟨j, rfl⟩ := Int.eq_ofNat_of_zero_le hi.1
    exact ⟨name, by simp, "", .subscript j, (ColumnShape.text_subscript name "" j).symm, rfl⟩
  · next value s =>
    obtain ⟨key, hkey, rfl⟩ := Option.map_eq_some_iff.1 h
    refine ⟨name, by simp, key, .entry value, (ColumnShape.text_entry name key value).symm, ?_⟩
    rw [entryKeys, hkey]
    rfl
  · cases h

theorem form_of_project {path : Path} {m : Catalog.Match} {sql : String} {type : ValueType}
    {scope : Sql.Scope} {name : String} (hname : m.declaration.namer = .fixed name)
    (h : Projection.project path m = some (.column sql type scope)) :
    IsFormed [name] (entryKeys m.declaration.type (addressed m.rest)) sql := by
  simp only [Projection.project] at h
  split at h
  · cases h
  · obtain ⟨_, hcolumn⟩ := Option.ite_none_left_eq_some.1 h
    obtain ⟨sql', hsql, heq⟩ := Option.map_eq_some_iff.1 hcolumn
    cases heq
    rw [Projection.columnName, hname] at hsql
    exact form_of_fixedName hsql

theorem IsFormed.mono {texts texts' keys : List String} {sql : String}
    (h : IsFormed texts keys sql) (hsub : texts ⊆ texts') : IsFormed texts' keys sql := by
  obtain ⟨name, hname, hform⟩ := h
  exact ⟨name, hsub hname, hform⟩

theorem form_of_resolve {r : Resolver} {path : Path} {sql : String} {type : ValueType}
    {scope : Sql.Scope} (hstatic : r.isStatic = true)
    (h : r.resolve path = some (.column sql type scope)) :
    IsFormed r.columnTexts (r.quotedKeys path) sql := by
  cases r with
  | column lead text columnType =>
    obtain ⟨rest, _, hrest⟩ := Option.bind_eq_some_iff.1 h
    obtain ⟨_, heq, _⟩ := column_of_wholeOrElement hrest
    cases heq
    exact ⟨sql, by simp [columnTexts], "", .plain, (ColumnShape.text_plain sql "").symm, rfl⟩
  | accessList lead text =>
    simp only [resolve] at h
    split at h
    · next group rest hbehind =>
      obtain ⟨_, heq, _⟩ := column_of_wholeOrElement h
      cases heq
      refine ⟨text, by simp [columnTexts], group, .group, ?_, ?_⟩
      · exact (ColumnShape.text_group text group).symm
      · rw [quotedKeys, hbehind]
        rfl
    · cases h
  | catalog c =>
    obtain ⟨m, hm, hproject⟩ := Option.bind_eq_some_iff.1 h
    obtain ⟨f, hfind, rfl⟩ := Option.map_eq_some_iff.1 hm
    have hmem := Trie.mem_declarations_of_find hfind
    have hfixed : f.declaration.namer.isFixed = true := List.all_eq_true.1 hstatic _ hmem
    rw [quotedKeys, hm]
    cases hnamer : f.declaration.namer with
    | fixed name =>
      refine (form_of_project hnamer hproject).mono fun text htext => ?_
      rw [List.mem_singleton.1 htext]
      exact List.mem_filterMap.2 ⟨f.declaration, hmem, by rw [hnamer]; rfl⟩
    | pattern p template =>
      rw [hnamer] at hfixed
      cases hfixed

end Resolver

/-! ## References -/

namespace Compile

/-- The texts of columns that are configured. -/
def Settings.columnTexts (s : Settings) : List String :=
  (s.resolvers.getD []).flatMap Resolver.columnTexts

/-- Whether no name of a column is computed by a pattern, and no configured text has a quote in
it. -/
def Settings.isQuoteFree (s : Settings) : Bool :=
  (s.resolvers.getD []).all Resolver.isStatic &&
    s.columnTexts.all fun text => !text.toList.contains '\x27'

/-- The keys that a reference puts into the text of its column: the key of a map, or the group of an
access list. -/
def quotedKeys (s : Settings) (segments : List Term) : List String :=
  match Path.ofRef segments with
  | .error _ => []
  | .ok path =>
    match Resolver.first (s.resolvers.getD []) path with
    | some (r, _) => r.quotedKeys path
    | none => []

/-- **The column of a reference is made of a configured text and of the keys of the reference.** -/
theorem form_of_reference {s : Settings} {segments : List Term} {sql : String} {type : ValueType}
    {scope : Sql.Scope} (hsafe : s.isQuoteFree = true)
    (h : reference s segments = .ok (.column sql type scope)) :
    Resolver.IsFormed s.columnTexts (quotedKeys s segments) sql := by
  obtain ⟨path, rs, r, hpath, hrs, hfirst⟩ := resolver_of_reference h
  obtain ⟨hr, hresolve⟩ := Resolver.resolve_of_first hfirst
  have hresolvers : s.resolvers.getD [] = rs := by rw [hrs, Option.getD_some]
  rw [Settings.isQuoteFree, Bool.and_eq_true, hresolvers] at hsafe
  have hform := Resolver.form_of_resolve (List.all_eq_true.1 hsafe.1 r hr) hresolve
  rw [quotedKeys, hpath, hresolvers]
  simp only [hfirst]
  refine hform.mono fun text htext => ?_
  rw [Settings.columnTexts, hresolvers]
  exact List.mem_flatMap_of_mem hr htext

end Compile

end RowFilter
