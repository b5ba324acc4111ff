import RowFilter.Proofs.Catalog.Entries
import RowFilter.Proofs.Resolver.ColumnForm

/-!
# The steps beyond a declaration

A path may go on behind the declaration that it matches.  Which steps lead anywhere is told by the
declared type: one into an array or into a map, or none, and behind them one that iterates over the
array that is reached.  This file says so as a relation, in which the type that is reached and the
SQL text go together, and compares it with projection, which computes the type from all steps and
the text from the first.

* `Projection.Reaches` — the value that steps lead to, with its type and its text.
* `Projection.Arrives` — the same with a last step that iterates.
* `Projection.project_eq_some_iff` — projection from a column with a fixed name is this relation.
* `Projection.Arrives.keys_eq` — from one column, two lists of steps have the same text and scope
  only if they select the same keys.
-/

set_option autoImplicit false

namespace RowFilter

open Sql (Node Scope)

namespace Projection

/-! ## Where steps lead -/

/-- The text of the value at a key of a map: `->>` reads a string, from which booleans and numbers
are cast, and `->` leaves arrays and maps as they are. -/
inductive Entry (name key : String) : ValueType → String → Prop where
  | string : Entry name key .string (name ++ "->>" ++ Sql.literal key)
  | boolean : Entry name key .boolean ("(" ++ name ++ "->>" ++ Sql.literal key ++ ")::boolean")
  | number : Entry name key .number ("(" ++ name ++ "->>" ++ Sql.literal key ++ ")::numeric")
  | array (element : ValueType) : Entry name key (.array element) (name ++ "->" ++ Sql.literal key)
  | map (value : ValueType) : Entry name key (.map value) (name ++ "->" ++ Sql.literal key)

/-- **The value that steps lead to** from a column with the given name and type: the column itself,
an element of an array, or the value at a key of a map.  SQL counts elements from one, and the
subscript is still an index. -/
inductive Reaches (name : String) : ValueType → Path → ValueType → String → Prop where
  | here (type : ValueType) : Reaches name type [] type name
  | element (type : ValueType) (i : Int) (hlow : 0 ≤ i) (hhigh : i + 1 ≤ Segment.maxIndex) :
      Reaches name (.array type) [.index i] type (name ++ "[" ++ toString (i + 1) ++ "]")
  | field {type : ValueType} {sql : String} (key : String) (h : Entry name key type sql) :
      Reaches name (.map type) [.field key] type sql
  | index {type : ValueType} {sql : String} (i : Int) (h : Entry name (toString i) type sql) :
      Reaches name (.map type) [.index i] type sql

/-- **What steps arrive at**: a value, or any element of an array if the last step iterates over
it. -/
inductive Arrives (name : String) (declared : ValueType) :
    Path → ValueType → String → Scope → Prop where
  | whole {rest : Path} {type : ValueType} {sql : String}
      (h : Reaches name declared rest type sql) : Arrives name declared rest type sql .whole
  | anyElement {rest : Path} {type : ValueType} {sql : String} (x : String)
      (h : Reaches name declared rest (.array type) sql) :
      Arrives name declared (rest ++ [.wildcard x]) (.array type) sql .anyElement

/-! ## The type and the text agree -/

variable {name sql : String} {declared type : ValueType} {rest : Path}

theorem entry_iff {key : String} :
    Entry name key type sql ↔ mapValue name (Sql.literal key) type = sql := by
  constructor
  · intro h
    cases h <;> rfl
  · rintro rfl
    cases type with
    | string => exact .string
    | boolean => exact .boolean
    | number => exact .number
    | array element => exact .array element
    | map value => exact .map value

/-- **Steps have a type and a text exactly if they lead somewhere.** -/
theorem reaches_iff :
    Reaches name declared rest type sql ↔
      descend declared rest = some type ∧ fixedName name declared rest = some sql := by
  constructor
  · intro h
    cases h with
    | here => exact ⟨by rw [descend], by rw [fixedName]⟩
    | element _ i hlow hhigh =>
      have hrange : 0 ≤ i ∧ i < Segment.maxIndex := ⟨hlow, by omega⟩
      exact ⟨by rw [descend, descend], by rw [fixedName, if_pos hrange]⟩
    | field key h => exact ⟨by rw [descend, descend], congrArg some (entry_iff.1 h)⟩
    | index i h => exact ⟨by rw [descend, descend], congrArg some (entry_iff.1 h)⟩
  · rintro ⟨htype, hsql⟩
    unfold fixedName at hsql
    split at hsql
    · cases hsql
      rw [descend] at htype
      cases htype
      exact .here declared
    · next element i =>
      obtain ⟨hrange, ⟨⟩⟩ := Option.ite_none_right_eq_some.1 hsql
      rw [descend, descend] at htype
      cases htype
      exact .element _ i hrange.1 (by omega)
    · next value s =>
      obtain ⟨key, hkey, hvalue⟩ := Option.map_eq_some_iff.1 hsql
      cases s with
      | field k =>
        cases hkey
        rw [descend, descend] at htype
        cases htype
        exact .field _ (entry_iff.2 hvalue)
      | index i =>
        cases hkey
        rw [descend, descend] at htype
        cases htype
        exact .index i (entry_iff.2 hvalue)
      | wildcard x => cases hkey
    · cases hsql

/-! ## A last step that iterates -/

theorem getLast?_isWildcard_iff :
    rest.getLast?.any Segment.isWildcard = true ↔ ∃ lead x, rest = lead ++ [.wildcard x] := by
  constructor
  · intro h
    obtain ⟨s, hs, hwildcard⟩ := (Option.any_eq_true _ _).1 h
    obtain ⟨lead, rfl⟩ := List.getLast?_eq_some_iff.1 hs
    cases s with
    | wildcard x => exact ⟨lead, x, rfl⟩
    | field _ => cases hwildcard
    | index _ => cases hwildcard
  · rintro ⟨lead, x, rfl⟩
    rw [List.getLast?_concat]
    rfl

/-- No step to a value iterates. -/
theorem Reaches.not_isWildcard (h : Reaches name declared rest type sql) :
    ¬ rest.getLast?.any Segment.isWildcard = true := by
  cases h <;> exact Bool.false_ne_true

theorem arrives_iff {scope : Scope} (h : ¬ rest.getLast?.any Segment.isWildcard = true) :
    Arrives name declared rest type sql scope ↔
      Reaches name declared rest type sql ∧ scope = .whole := by
  constructor
  · intro harrives
    cases harrives with
    | whole hreaches => exact ⟨hreaches, rfl⟩
    | anyElement x hreaches => exact absurd (getLast?_isWildcard_iff.2 ⟨_, x, rfl⟩) h
  · rintro ⟨hreaches, rfl⟩
    exact .whole hreaches

theorem arrives_concat_iff {scope : Scope} {x : String} :
    Arrives name declared (rest ++ [.wildcard x]) type sql scope ↔
      Reaches name declared rest type sql ∧ type.isArray = true ∧ scope = .anyElement := by
  constructor
  · intro harrives
    -- the steps are named, since their last one tells the cases apart
    generalize hrest : rest ++ [Segment.wildcard x] = whole at harrives
    cases harrives with
    | whole hreaches =>
      exact absurd (getLast?_isWildcard_iff.2 ⟨rest, x, hrest.symm⟩) hreaches.not_isWildcard
    | anyElement y hreaches =>
      obtain ⟨rfl, _⟩ := List.append_inj' hrest rfl
      exact ⟨hreaches, rfl, rfl⟩
  · rintro ⟨hreaches, harray, rfl⟩
    cases type with
    | array element => exact .anyElement x hreaches
    | _ => cases harray

/-- **Projection from a column with a fixed name** answers with what the steps arrive at. -/
theorem project_eq_some_iff {path : Path} {m : Catalog.Match} {n : Node}
    (hname : m.declaration.namer = .fixed name) :
    project path m = some n ↔
      ∃ type sql scope, Arrives name m.declaration.type m.rest type sql scope ∧
        n = .column sql type scope := by
  obtain ⟨⟨declared, namer⟩, matched, rest⟩ := m
  obtain rfl : namer = .fixed name := hname
  simp only [project, columnName]
  by_cases hlast : rest.getLast?.any Segment.isWildcard = true
  · obtain ⟨lead, x, rfl⟩ := getLast?_isWildcard_iff.1 hlast
    simp only [hlast, if_true, List.dropLast_concat, arrives_concat_iff, reaches_iff]
    constructor
    · intro h
      split at h
      · cases h
      · next type htype =>
        obtain ⟨harray, hcolumn⟩ := Option.ite_none_left_eq_some.1 h
        obtain ⟨sql, hsql, rfl⟩ := Option.map_eq_some_iff.1 hcolumn
        exact ⟨type, sql, .anyElement, ⟨⟨htype, hsql⟩, by simpa using harray, rfl⟩, rfl⟩
    · rintro ⟨type, sql, _, ⟨⟨htype, hsql⟩, harray, rfl⟩, rfl⟩
      simp [htype, hsql, harray]
  · simp only [hlast, arrives_iff hlast, reaches_iff]
    constructor
    · intro h
      split at h
      · cases h
      · next type htype =>
        obtain ⟨sql, hsql, rfl⟩ := Option.map_eq_some_iff.1 h
        exact ⟨type, sql, .whole, ⟨⟨htype, hsql⟩, rfl⟩, rfl⟩
    · rintro ⟨type, sql, _, ⟨⟨htype, hsql⟩, rfl⟩, rfl⟩
      simp [htype, hsql]

/-! ## The text tells the steps -/

theorem literal_injective {key key' : String} (h : Sql.literal key = Sql.literal key') :
    key = key' := by
  have hlist := congrArg String.toList h
  rw [Sql.toList_literal, Sql.toList_literal, List.cons_inj_right] at hlist
  have hbody := Sql.literalBody_doubleQuotes key.toList Sql.noQuoteFirst_nil
  rw [hlist, Sql.literalBody_doubleQuotes key'.toList Sql.noQuoteFirst_nil] at hbody
  exact String.toList_inj.1 (congrArg Prod.fst (Option.some.inj hbody)).symm

/-- A subscript is read back from its digits. -/
theorem subscript_injective {i j : Int} (hi : 0 ≤ i) (hj : 0 ≤ j)
    (h : toString (i + 1) = toString (j + 1)) : i = j := by
  obtain ⟨m, rfl⟩ := Int.eq_ofNat_of_zero_le hi
  obtain ⟨n, rfl⟩ := Int.eq_ofNat_of_zero_le hj
  have hrepr : (m + 1).repr = (n + 1).repr := h
  have hdigits : Nat.toDigits 10 (m + 1) = Nat.toDigits 10 (n + 1) := by
    rw [← Nat.toList_repr, hrepr, Nat.toList_repr]
  have hvalue := congrArg (fun ds => Nat.ofDigitChars 10 ds 0) hdigits
  simp only [Nat.ofDigitChars_ten_toDigits] at hvalue
  omega

theorem Entry.key_eq {key key' : String} (h : Entry name key type sql)
    (h' : Entry name key' type sql) : key = key' := by
  have hsql := (entry_iff.1 h).trans (entry_iff.1 h').symm
  apply literal_injective
  cases type <;> simpa [mapValue, String.append_assoc] using hsql

theorem length_literal_pos (key : String) : 0 < (Sql.literal key).length := by
  rw [← String.length_toList, Sql.toList_literal]
  exact Nat.succ_pos _

/-- The text of an entry holds the name and a literal besides. -/
theorem Entry.length_lt {key : String} (h : Entry name key type sql) :
    name.length < sql.length := by
  have hliteral := length_literal_pos key
  cases h <;> simp only [String.length_append] <;> omega

/-- Every step adds to the text. -/
theorem Reaches.length_lt (h : Reaches name declared rest type sql) (hrest : rest ≠ []) :
    name.length < sql.length := by
  cases h with
  | here => exact absurd rfl hrest
  | element _ i _ _ =>
    have hbracket : "]".length = 1 := rfl
    simp only [String.length_append]
    omega
  | field _ h => exact h.length_lt
  | index _ h => exact h.length_lt

theorem Reaches.eq_nil_iff (h : Reaches name declared rest type sql) :
    rest = [] ↔ sql = name := by
  constructor
  · rintro rfl
    cases h
    rfl
  · rintro rfl
    by_contra hrest
    exact Nat.lt_irrefl _ (h.length_lt hrest)

/-- **From one column, the text tells the keys.** -/
theorem Reaches.keys_eq {type' : ValueType} {rest' : Path} {sql' : String}
    (h : Reaches name declared rest type sql) (h' : Reaches name declared rest' type' sql')
    (hsql : sql = sql') : rest.keys = rest'.keys := by
  have hnil : rest = [] ↔ rest' = [] := by rw [h.eq_nil_iff, h'.eq_nil_iff, hsql]
  cases h with
  | here => rw [hnil.1 rfl]
  | element _ i hi _ =>
    cases h' with
    | here => cases hnil.2 rfl
    | element _ j hj _ =>
      have hsubscript : toString (i + 1) = toString (j + 1) := by
        simpa [String.append_assoc] using hsql
      rw [subscript_injective hi hj hsubscript]
  | field key h =>
    cases h' with
    | here => cases hnil.2 rfl
    | field key' h' =>
      have hkey : key = key' := h.key_eq (hsql ▸ h')
      rw [hkey]
    | index j h' =>
      have hkey : key = toString j := h.key_eq (hsql ▸ h')
      rw [hkey]
      rfl
  | index i h =>
    cases h' with
    | here => cases hnil.2 rfl
    | field key' h' =>
      have hkey : toString i = key' := h.key_eq (hsql ▸ h')
      rw [← hkey]
      rfl
    | index j h' =>
      have hkey : toString i = toString j := h.key_eq (hsql ▸ h')
      exact congrArg (fun key => [some key]) hkey

/-- **From one column, the text and the scope tell the keys and whether the last step iterates**,
since a step that iterates has no key. -/
theorem Arrives.keys_eq {type' : ValueType} {rest' : Path} {scope : Scope}
    (h : Arrives name declared rest type sql scope)
    (h' : Arrives name declared rest' type' sql scope) : rest.keys = rest'.keys := by
  cases h with
  | whole h =>
    cases h' with
    | whole h' => exact h.keys_eq h' rfl
  | anyElement x h =>
    cases h' with
    | anyElement y h' =>
      have hkeys := h.keys_eq h' rfl
      simp only [Path.keys, List.map_append] at hkeys ⊢
      rw [hkeys]
      rfl

end Projection

/-! ## Catalogs of fixed names -/

namespace Catalog

variable {c : Catalog}

theorem namer_of_lookup (hstatic : ∀ d ∈ c.root.declarations, d.namer.isFixed = true) {path : Path}
    {m : Match} (h : c.lookup path = some m) : ∃ name, m.declaration.namer = .fixed name := by
  obtain ⟨f, hfind, rfl⟩ := Option.map_eq_some_iff.1 h
  have hfixed := hstatic _ (Trie.mem_declarations_of_find hfind)
  show ∃ name, f.declaration.namer = .fixed name
  cases hnamer : f.declaration.namer with
  | fixed name => exact ⟨name, rfl⟩
  | pattern p template =>
    rw [hnamer] at hfixed
    cases hfixed

theorem resolve_eq_some_iff (hstatic : ∀ d ∈ c.root.declarations, d.namer.isFixed = true)
    {path : Path} {n : Node} :
    c.resolve path = some n ↔
      ∃ m name type sql scope, c.lookup path = some m ∧ m.declaration.namer = .fixed name ∧
        Projection.Arrives name m.declaration.type m.rest type sql scope ∧
        n = .column sql type scope := by
  constructor
  · intro h
    obtain ⟨m, hm, hproject⟩ := Option.bind_eq_some_iff.1 h
    obtain ⟨name, hname⟩ := namer_of_lookup hstatic hm
    obtain ⟨type, sql, scope, harrives, hn⟩ := (Projection.project_eq_some_iff hname).1 hproject
    exact ⟨m, name, type, sql, scope, hm, hname, harrives, hn⟩
  · rintro ⟨m, name, type, sql, scope, hm, hname, harrives⟩
    exact Option.bind_eq_some_iff.2
      ⟨m, hm, (Projection.project_eq_some_iff hname).2 ⟨type, sql, scope, harrives⟩⟩

/-- **Beyond the declarations of a catalog without patterns.**  A path resolves exactly if it leads
to a declaration from which its remaining steps arrive somewhere, and the answer is the column with
the type, the text and the scope that they arrive at.  Two paths that resolve under one declaration
have the same text and scope only if their remaining steps have the same keys. -/
theorem resolve_static (c : Catalog)
    (hstatic : ∀ d ∈ c.root.declarations, d.namer.isFixed = true) :
    (∀ path n, c.resolve path = some n ↔
      ∃ m name type sql scope, c.lookup path = some m ∧ m.declaration.namer = .fixed name ∧
        Projection.Arrives name m.declaration.type m.rest type sql scope ∧
        n = .column sql type scope) ∧
    ∀ path path' m m' sql type type' scope,
      c.lookup path = some m → c.lookup path' = some m' → m.declaration = m'.declaration →
      c.resolve path = some (.column sql type scope) →
      c.resolve path' = some (.column sql type' scope) → m.rest.keys = m'.rest.keys := by
  refine ⟨fun path n => resolve_eq_some_iff hstatic, ?_⟩
  intro path path' m m' sql type type' scope hm hm' hsame h h'
  obtain ⟨_, name, _, _, _, hlookup, hname, harrives, ⟨⟩⟩ := (resolve_eq_some_iff hstatic).1 h
  obtain ⟨_, name', _, _, _, hlookup', hname', harrives', ⟨⟩⟩ :=
    (resolve_eq_some_iff hstatic).1 h'
  cases hm.symm.trans hlookup
  cases hm'.symm.trans hlookup'
  rw [hsame, hname'] at hname
  cases hname
  rw [hsame] at harrives
  exact harrives.keys_eq harrives'

/-- Lists of labels by their key. -/
def labelled : Catalog :=
  (({} : Catalog).insert [.field "input", .field "labels"]
    { type := .map (.array .string), namer := .fixed "labels" }).2

/-- A label at a key with a quote in it, and two spellings of one key. -/
theorem resolve_static_labels :
    (∀ d ∈ labelled.root.declarations, d.namer.isFixed = true) ∧
    labelled.resolve [.field "input", .field "labels", .field "it's", .wildcard "x"] =
      some (.column "labels->'it''s'" (.array .string) .anyElement) ∧
    Path.keys [.field "1"] = Path.keys [.index 1] := by
  have hstatic : ∀ d ∈ labelled.root.declarations, d.namer.isFixed = true := by
    intro d hd
    obtain rfl := List.mem_singleton.1 hd
    rfl
  refine ⟨hstatic, ?_, ?_⟩
  · refine ((resolve_static labelled hstatic).1 _ _).2
      ⟨_, "labels", .array .string, _, _, rfl, rfl, ?_, rfl⟩
    exact .anyElement "x" (.field "it's" (.array .string))
  · exact (resolve_static labelled hstatic).2 [.field "input", .field "labels", .field "1"]
      [.field "input", .field "labels", .index 1] _ _ "labels->'1'" (.array .string)
      (.array .string) .whole rfl rfl rfl rfl rfl

end Catalog

end RowFilter
