import Mathlib.Data.List.Basic
import RowFilter.Proofs.Catalog.Frame
import RowFilter.Proofs.Resolver.Steps

/-!
# A column by itself and in a catalog

A column can be declared in two ways: as a resolver of its own, which compares the steps of a path
with its own, and as the only declaration of a catalog, which compares keys and follows the steps
behind the declaration by its type.  What the first resolves, the second resolves to the same
column.  The second resolves more in two cases: the path goes on by a step that does not iterate, or
one of its steps is covered by a declared step without being the same.

* `Path.Deviates` — a step of a path is covered by another declared step.
* `Catalog.Session.Sound.lookup_single` — a lookup in a catalog with one declaration.
* `Catalog.column_agrees` — the two ways to declare a column.
-/

set_option autoImplicit false

namespace RowFilter

open Sql (Node)

namespace Path

/-! ## Paths that start like a declared one -/

/-- **A step of the path is not the declared one, and yet the declared one covers it**: the declared
step iterates, or both have the same key, which one of them writes as an index. -/
def Deviates (declared path : Path) : Prop :=
  ∃ (i : Nat) (a b : Segment), declared[i]? = some a ∧ path[i]? = some b ∧ a ≠ b ∧
    (a.isWildcard = true ∨ ∃ key, a.key = some key ∧ b.key = some key)

theorem Deviates.cons {declared path : Path} (h : Deviates declared path) (a b : Segment) :
    Deviates (a :: declared) (b :: path) := by
  obtain ⟨i, h⟩ := h
  exact ⟨i + 1, h⟩

/-- Declared steps cover every path that starts with them. -/
theorem isUnder_append (lead rest : Path) : isUnder (lead ++ rest) lead.keys = true := by
  induction lead with
  | nil => exact isUnder_nil rest
  | cons a lead ih =>
    refine isUnder_cons.2 ⟨?_, ih⟩
    cases hkey : a.key <;> simp [Segment.isUnder, hkey]

/-- **A path that declared steps cover starts with them, or it deviates from one of them.** -/
theorem starts_or_deviates {declared path : Path} (h : isUnder path declared.keys = true) :
    (∃ rest, path = declared ++ rest) ∨ Deviates declared path := by
  induction declared generalizing path with
  | nil => exact .inl ⟨path, rfl⟩
  | cons a declared ih =>
    cases path with
    | nil => cases h
    | cons b path =>
      obtain ⟨hstep, hrest⟩ := isUnder_cons.1 h
      by_cases hab : a = b
      · rcases ih hrest with ⟨rest, rfl⟩ | hdeviates
        · exact .inl ⟨rest, by rw [hab, List.cons_append]⟩
        · exact .inr (hdeviates.cons a b)
      · refine .inr ⟨0, a, b, rfl, rfl, hab, ?_⟩
        cases a with
        | wildcard x => exact .inl rfl
        | field key => exact .inr ⟨key, rfl, beq_iff_eq.1 hstep⟩
        | index i => exact .inr ⟨toString i, rfl, beq_iff_eq.1 hstep⟩

theorem ofDotted_ne_nil {text : String} (h : ∃ piece ∈ Text.split '.' text, piece ≠ "") :
    ofDotted text ≠ [] := by
  obtain ⟨piece, hpiece, hne⟩ := h
  have hmem : piece ∈ (Text.split '.' text).filter (· ≠ "") :=
    List.mem_filter.2 ⟨hpiece, by simpa using hne⟩
  exact fun hnil => List.ne_nil_of_mem hmem (List.map_eq_nil_iff.1 hnil)

end Path

/-! ## The steps behind the declaration -/

variable {sql : String} {type : ValueType} {rest : Path} {n : Node}

/-- What is resolved by itself is what no step, or one that iterates over an array, arrives at. -/
theorem Resolver.arrives_of_wholeOrElement (h : wholeOrElement sql type rest = some n) :
    ∃ type' sql' scope, Projection.Arrives sql type rest type' sql' scope ∧
      n = .column sql' type' scope := by
  unfold wholeOrElement at h
  split at h
  · cases h
    exact ⟨type, sql, .whole, .whole (.here type), rfl⟩
  · next x =>
    obtain ⟨harray, ⟨⟩⟩ := Option.ite_none_right_eq_some.1 h
    have harrives : Projection.Arrives sql type ([] ++ [Segment.wildcard x]) type sql .anyElement :=
      Projection.arrives_concat_iff.2 ⟨.here type, harray, rfl⟩
    exact ⟨type, sql, .anyElement, harrives, rfl⟩
  · cases h

/-- Steps to a value are none, or one that does not iterate. -/
theorem Projection.Reaches.eq_nil_or_exists {type' : ValueType} {sql' : String}
    (h : Reaches sql type rest type' sql') :
    (rest = [] ∧ type' = type ∧ sql' = sql) ∨ ∃ s ∈ rest, s.isWildcard = false := by
  cases h with
  | here => exact .inl ⟨rfl, rfl, rfl⟩
  | element _ i => exact .inr ⟨.index i, List.mem_singleton_self _, rfl⟩
  | field key => exact .inr ⟨.field key, List.mem_singleton_self _, rfl⟩
  | index i => exact .inr ⟨.index i, List.mem_singleton_self _, rfl⟩

/-- Steps that arrive somewhere and all iterate are resolved by the column itself. -/
theorem Projection.Arrives.wholeOrElement_or_exists {type' : ValueType} {sql' : String}
    {scope : Sql.Scope} (h : Arrives sql type rest type' sql' scope) :
    Resolver.wholeOrElement sql type rest = some (.column sql' type' scope) ∨
      ∃ s ∈ rest, s.isWildcard = false := by
  cases h with
  | whole hreaches =>
    rcases hreaches.eq_nil_or_exists with ⟨rfl, rfl, rfl⟩ | hstep
    · exact .inl rfl
    · exact .inr hstep
  | anyElement x hreaches =>
    rcases hreaches.eq_nil_or_exists with ⟨rfl, rfl, rfl⟩ | ⟨s, hs, hwildcard⟩
    · exact .inl rfl
    · exact .inr ⟨s, List.mem_append_left _ hs, hwildcard⟩

namespace Catalog

/-! ## Catalogs with one declaration -/

/-- **A lookup in a catalog with one declaration.** -/
theorem Session.Sound.lookup_single {s : Session} {path : Path} {d : Declaration} (h : s.Sound)
    (hsingle : s.declared = [(path, d)]) (query : Path) :
    s.catalog.lookup query =
      if query.isUnder path.keys then
        some { declaration := d, matched := query.take path.length,
               rest := query.drop path.length }
      else none := by
  split
  · next hunder =>
    have hle := Path.length_le_of_isUnder hunder
    rw [Path.length_keys] at hle
    refine h.lookup_eq_some_iff.2 ⟨(path, d), ⟨?_, hunder, ?_⟩, rfl, List.take_append_drop _ _, ?_⟩
    · simp [hsingle]
    · simp [hsingle]
    · rw [List.length_take, Nat.min_eq_left hle]
  · next hunder => simpa [h.lookup_eq_none_iff, hsingle] using hunder

/-- A declaration alone is accepted. -/
theorem Session.declared_run_singleton {path : String} (hpath : Path.ofDotted path ≠ [])
    (d : Declaration) : (run [.declare path d]).declared = [(Path.ofDotted path, d)] := by
  have hok := Trie.isOk_insert_empty d (Path.ofDotted path)
  show (step {} (.declare path d)).declared = _
  rw [step, Catalog.declare]
  rcases Catalog.insert_cases {} (Path.ofDotted path) d with ⟨hnil, -⟩ | ⟨root, -, -, hcall⟩ |
    ⟨refusal, root, e, hrefused, -⟩
  · exact absurd hnil hpath
  · rw [hcall]
    rfl
  · rw [show (({} : Catalog).root.insert d (Path.ofDotted path)) = _ from hrefused] at hok
    cases hok

section Alone

variable {path sql : String} {type : ValueType} {s : Session} {query : Path} {n : Node}

/-- What a column resolves by itself, a catalog of this column alone resolves alike. -/
theorem Session.Sound.resolve_of_column (h : s.Sound)
    (hsingle : s.declared = [(Path.ofDotted path, { type, namer := .fixed sql })])
    (hcolumn : (Resolver.ofColumn path sql type).resolve query = some n) :
    (Resolver.catalog s.catalog).resolve query = some n := by
  have hlookup := h.lookup_single hsingle query
  obtain ⟨rest, hbehind, hrest⟩ := Option.bind_eq_some_iff.1 hcolumn
  obtain rfl : Path.ofDotted path ++ rest = query :=
    List.append_eq_of_isPrefixOf?_eq_some hbehind
  rw [if_pos (Path.isUnder_append (Path.ofDotted path) rest), List.drop_left] at hlookup
  refine Option.bind_eq_some_iff.2 ⟨_, hlookup, ?_⟩
  exact (Projection.project_eq_some_iff rfl).2 (Resolver.arrives_of_wholeOrElement hrest)

/-- What only the catalog resolves goes on behind the declaration or deviates from it. -/
theorem Session.Sound.goes_on_or_deviates (h : s.Sound)
    (hsingle : s.declared = [(Path.ofDotted path, { type, namer := .fixed sql })])
    (hcatalog : (Resolver.catalog s.catalog).resolve query = some n)
    (hcolumn : (Resolver.ofColumn path sql type).resolve query = none) :
    (∃ t ∈ query.drop (Path.ofDotted path).length, t.isWildcard = false) ∨
      Path.Deviates (Path.ofDotted path) query := by
  have hlookup := h.lookup_single hsingle query
  obtain ⟨m, hm, hproject⟩ := Option.bind_eq_some_iff.1 hcatalog
  obtain ⟨hunder, hmatch⟩ := Option.ite_none_right_eq_some.1 (hlookup.symm.trans hm)
  rcases Path.starts_or_deviates hunder with ⟨rest, rfl⟩ | hdeviates
  · obtain rfl := Option.some.inj hmatch
    obtain ⟨type', sql', scope, harrives, -⟩ := (Projection.project_eq_some_iff rfl).1 hproject
    rcases harrives.wholeOrElement_or_exists with hwhole | hstep
    · -- the column would have resolved the path by itself
      have hcolumn' : (Resolver.ofColumn path sql type).resolve (Path.ofDotted path ++ rest) =
          some (.column sql' type' scope) := by
        refine Option.bind_eq_some_iff.2 ⟨rest, List.isPrefixOf?_eq_some_iff_append_eq.2 rfl, ?_⟩
        rwa [List.drop_left] at hwhole
      cases hcolumn.symm.trans hcolumn'
    · exact .inl hstep
  · exact .inr hdeviates

end Alone

/-- **A column by itself and in a catalog.**  A dotted path with a piece that is not empty can be
declared in an empty catalog.  Whatever calls have led to a catalog with this declaration alone, it
resolves each path that the column resolves by itself, and to the same answer.  If it resolves a
path that the column does not, then the path goes on behind the declaration by a step that does not
iterate, or deviates from the declared path. -/
theorem column_agrees (path sql : String) (type : ValueType)
    (hpath : ∃ piece ∈ Text.split '.' path, piece ≠ "") :
    let declared := Path.ofDotted path
    let d : Declaration := { type, namer := .fixed sql }
    (Session.run [.declare path d]).declared = [(declared, d)] ∧
    ∀ calls, (Session.run calls).declared = [(declared, d)] → ∀ query n,
      ((Resolver.ofColumn path sql type).resolve query = some n →
        (Resolver.catalog (Session.run calls).catalog).resolve query = some n) ∧
      ((Resolver.catalog (Session.run calls).catalog).resolve query = some n →
        (Resolver.ofColumn path sql type).resolve query = none →
        (∃ s ∈ query.drop declared.length, s.isWildcard = false) ∨
          Path.Deviates declared query) := by
  intro declared d
  refine ⟨Session.declared_run_singleton (Path.ofDotted_ne_nil hpath) d, ?_⟩
  intro calls hsingle query n
  have hsound := Session.Sound.run calls
  exact ⟨hsound.resolve_of_column hsingle, hsound.goes_on_or_deviates hsingle⟩

/-- A column of tags, declared with an empty piece and then once more in vain.  Any of the tags is
the same in both; one at an index is found in the catalog alone. -/
theorem column_agrees_tags :
    let d : Declaration := { type := .array .string, namer := .fixed "tags" }
    let r := Resolver.ofColumn "input..tags" "tags" (.array .string)
    let c := (Session.run [.declare "input..tags" d, .declare "input.tags" d]).catalog
    let first : Path := [.field "input", .field "tags", .index 0]
    (∃ piece ∈ Text.split '.' "input..tags", piece ≠ "") ∧
    (Resolver.catalog c).resolve [.field "input", .field "tags", .wildcard "x"] =
      some (.column "tags" (.array .string) .anyElement) ∧
    (Resolver.catalog c).resolve first = some (.column "tags[1]" .string .whole) ∧
    r.resolve first = none ∧
    ((∃ s ∈ first.drop 2, s.isWildcard = false) ∨
      Path.Deviates [.field "input", .field "tags"] first) := by
  intro d r c first
  have hpath : ∃ piece ∈ Text.split '.' "input..tags", piece ≠ "" := ⟨"input", by decide, by decide⟩
  have hagrees := (column_agrees "input..tags" "tags" (.array .string) hpath).2
    [.declare "input..tags" d, .declare "input.tags" d] rfl
  have hfirst : (Resolver.catalog c).resolve first = some (.column "tags[1]" .string .whole) := rfl
  exact ⟨hpath, (hagrees _ _).1 rfl, hfirst, rfl, (hagrees first _).2 hfirst rfl⟩

end Catalog

end RowFilter
