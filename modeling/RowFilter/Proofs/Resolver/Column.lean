import RowFilter.Compile.Basic

/-!
# References lead to columns

Whatever resolves a reference answers with a column, and means any of its elements only where the
column holds an array.
-/

set_option autoImplicit false

namespace RowFilter

open Sql (Node Scope)

/-- The node is a column, and any element of it is meant only if it holds an array. -/
def Sql.Node.IsColumn (n : Node) : Prop :=
  ∃ sql type scope, n = .column sql type scope ∧ (scope = .anyElement → type.isArray = true)

theorem Resolver.column_of_wholeOrElement {sql : String} {type : ValueType} {rest : Path}
    {n : Node} (h : wholeOrElement sql type rest = some n) :
    ∃ scope, n = .column sql type scope ∧ (scope = .anyElement → type.isArray = true) := by
  unfold wholeOrElement at h
  split at h
  · cases h
    exact ⟨.whole, rfl, fun hscope => by cases hscope⟩
  · obtain ⟨harray, ⟨⟩⟩ := Option.ite_none_right_eq_some.1 h
    exact ⟨.anyElement, rfl, fun _ => harray⟩
  · cases h

theorem Projection.isColumn_of_project {path : Path} {m : Catalog.Match} {n : Node}
    (h : project path m = some n) : n.IsColumn := by
  simp only [project] at h
  split at h
  · cases h
  · next type _ =>
    obtain ⟨harray, hname⟩ := Option.ite_none_left_eq_some.1 h
    obtain ⟨sql, _, rfl⟩ := Option.map_eq_some_iff.1 hname
    refine ⟨sql, type, _, rfl, fun hscope => ?_⟩
    split at hscope
    · next hiterates => simpa [hiterates] using harray
    · cases hscope

theorem Resolver.isColumn_of_resolve {r : Resolver} {path : Path} {n : Node}
    (h : r.resolve path = some n) : n.IsColumn := by
  cases r with
  | column lead sql type =>
    obtain ⟨rest, _, hrest⟩ := Option.bind_eq_some_iff.1 h
    exact ⟨_, _, column_of_wholeOrElement hrest⟩
  | accessList lead sql =>
    simp only [resolve] at h
    split at h
    · exact ⟨_, _, column_of_wholeOrElement h⟩
    · cases h
  | catalog c =>
    obtain ⟨m, _, hm⟩ := Option.bind_eq_some_iff.1 h
    exact Projection.isColumn_of_project hm

theorem Resolver.resolve_of_first {rs : List Resolver} {path : Path} {r : Resolver} {n : Node}
    (h : first rs path = some (r, n)) : r ∈ rs ∧ r.resolve path = some n := by
  obtain ⟨r', hr, hresolve⟩ := List.exists_of_findSome?_eq_some h
  obtain ⟨n', hn, heq⟩ := Option.map_eq_some_iff.1 hresolve
  cases heq
  exact ⟨hr, hn⟩

/-- A reference that compiles is resolved by the first resolver that knows its path. -/
theorem Compile.resolver_of_reference {s : Settings} {segments : List Term} {n : Node}
    (h : reference s segments = .ok n) :
    ∃ path rs r, Path.ofRef segments = .ok path ∧ s.resolvers = some rs ∧
      Resolver.first rs path = some (r, n) := by
  unfold reference at h
  split at h
  · cases h
  · next path hpath =>
    split at h
    · cases h
    · next rs hrs =>
      split at h
      · cases h
      · next m hm =>
        cases h
        obtain ⟨⟨r, _⟩, hfirst, rfl⟩ := Option.map_eq_some_iff.1 hm
        exact ⟨path, rs, r, hpath, hrs, hfirst⟩

/-- **A reference leads to a column.** -/
theorem Compile.isColumn_of_reference {s : Settings} {segments : List Term} {n : Node}
    (h : reference s segments = .ok n) : n.IsColumn := by
  obtain ⟨_, _, r, _, _, hfirst⟩ := resolver_of_reference h
  exact Resolver.isColumn_of_resolve (Resolver.resolve_of_first hfirst).2

end RowFilter
