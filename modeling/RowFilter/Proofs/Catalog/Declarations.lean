import RowFilter.Config.Basic
import RowFilter.Proofs.Catalog.Canonical
import RowFilter.Proofs.Catalog.LongestMatch

/-!
# The order of declarations

Declarations are made one after another, and each is checked against the catalog that the earlier
ones have built.  The outcome does not depend on their order.  Whether all of them are accepted is a
condition on pairs of paths, and the catalog they build is tidy, so that it is known by its entries.

* `Catalog.build` — the catalog of some declarations, if none is refused.
* `Catalog.Declarable` — the paths that can be declared together.
* `Catalog.build_cases` — these are the ones that are accepted.
* `Catalog.order_irrelevant` — the order of declarations, and that of the columns of a
  configuration, makes no difference.
-/

set_option autoImplicit false

namespace RowFilter

namespace Catalog

/-! ## Building a catalog -/

/-- The path that a call declares. -/
def Call.path : Call → Path
  | insert path _ => path
  | declare path _ => Path.ofDotted path

/-- What a call declares of its path. -/
def Call.declaration : Call → Declaration
  | insert _ d => d
  | declare _ d => d

/-- The catalog behind one call, unless the declaration is refused. -/
def accept (c : Catalog) : Call → Except CatalogError Catalog
  | .insert path d =>
    match c.insert path d with
    | (.ok _, c') => .ok c'
    | (.error e, _) => .error e
  | .declare path d => c.declare path d

/-- The catalog behind some calls.  The first declaration that is refused is the error. -/
def acceptAll (c : Catalog) : List Call → Except CatalogError Catalog
  | [] => .ok c
  | call :: calls =>
    match c.accept call with
    | .ok c' => c'.acceptAll calls
    | .error e => .error e

/-- **The catalog that calls build one after another**, if none is refused. -/
def build (calls : List Call) : Except CatalogError Catalog :=
  acceptAll {} calls

/-- How a call ends depends on the trie alone, unless the path is empty. -/
theorem accept_cases (c : Catalog) (call : Call) :
    (∃ root, call.path ≠ [] ∧ c.root.insert call.declaration call.path = (.ok (), root) ∧
      c.accept call = .ok { root, size := c.size + 1 }) ∨
    ((call.path = [] ∨ (c.root.insert call.declaration call.path).1.isOk = false) ∧
      ∃ e, c.accept call = .error e) := by
  have haccept : c.accept call = match c.insert call.path call.declaration with
      | (.ok _, c') => .ok c'
      | (.error e, _) => .error e := by
    cases call <;> rfl
  rw [haccept]
  rcases c.insert_cases call.path call.declaration with ⟨hpath, hcall⟩ |
    ⟨root, hpath, hinsert, hcall⟩ | ⟨refusal, root, e, hinsert, hcall⟩
  · rw [hcall]
    exact .inr ⟨.inl hpath, _, rfl⟩
  · rw [hcall]
    exact .inl ⟨root, hpath, hinsert, rfl⟩
  · rw [hcall, hinsert]
    exact .inr ⟨.inr rfl, e, rfl⟩

/-! ## Paths that can be declared together -/

/-- Two paths can both be declared: their keys differ, and not first at a place where exactly one of
them iterates. -/
def Agree (p q : Path) : Prop :=
  p.keys ≠ q.keys ∧ ¬ Path.Mixed p.keys q.keys

theorem Agree.symm {p q : Path} (h : Agree p q) : Agree q p :=
  ⟨h.1.symm, fun hmixed => h.2 hmixed.symm⟩

/-- **The paths can be declared together**: none is empty, and each two can both be declared. -/
structure Declarable (paths : List Path) : Prop where
  ne_nil : ∀ p ∈ paths, p ≠ []
  agree : paths.Pairwise Agree

theorem Declarable.of_perm {paths paths' : List Path} (h : Declarable paths)
    (hperm : paths.Perm paths') : Declarable paths' where
  ne_nil p hp := h.ne_nil p (hperm.mem_iff.2 hp)
  agree := hperm.pairwise h.agree Agree.symm

theorem declarable_concat {paths : List Path} {path : Path} : Declarable (paths ++ [path]) ↔
    Declarable paths ∧ path ≠ [] ∧ ∀ p ∈ paths, Agree p path := by
  constructor
  · rintro ⟨hne, hagree⟩
    rw [List.pairwise_append] at hagree
    obtain ⟨hfirst, -, hlast⟩ := hagree
    exact ⟨⟨fun p hp => hne p (List.mem_append_left _ hp), hfirst⟩, hne path (by simp),
      fun p hp => hlast p hp path (by simp)⟩
  · rintro ⟨⟨hne, hagree⟩, hpath, hlast⟩
    refine ⟨?_, List.pairwise_append.2 ⟨hagree, List.pairwise_singleton _ _, ?_⟩⟩
    · simpa [or_imp, forall_and] using ⟨hne, hpath⟩
    · simpa using hlast

/-! ## What a catalog records -/

/-- **The catalog records exactly the declarations of some calls.** -/
structure Records (c : Catalog) (calls : List Call) : Prop where
  tidy : c.root.Tidy
  entry_iff : ∀ ks d, c.root.entry ks = some d ↔
    ∃ call ∈ calls, call.path.keys = ks ∧ call.declaration = d
  size_eq : c.size = calls.length

namespace Records

variable {c c' : Catalog} {call : Call} {calls calls' : List Call}

theorem initial : Records {} [] where
  tidy := .empty
  entry_iff ks d := by simp [Trie.entry_empty]
  size_eq := rfl

/-- The trie accepts a path that can be declared together with the recorded ones. -/
theorem isOk_insert_iff (h : c.Records calls) (d : Declaration) (path : Path) :
    (c.root.insert d path).1.isOk = true ↔ ∀ p ∈ calls.map Call.path, Agree p path := by
  rw [h.tidy.isOk_insert_iff, Option.eq_none_iff_forall_ne_some, List.forall_mem_map]
  constructor
  · intro hnew call hcall
    have hentry := (h.entry_iff _ _).2 ⟨call, hcall, rfl, rfl⟩
    exact ⟨fun hkeys => hnew.1 _ (hkeys ▸ hentry), hnew.2 _ _ hentry⟩
  · intro hagree
    constructor
    · intro d' hd'
      obtain ⟨call, hcall, hkeys, -⟩ := (h.entry_iff _ _).1 hd'
      exact (hagree call hcall).1 hkeys
    · intro ks d' hd'
      obtain ⟨call, hcall, rfl, -⟩ := (h.entry_iff _ _).1 hd'
      exact (hagree call hcall).2

theorem accepted (h : c.Records calls) {root : Trie}
    (hinsert : c.root.insert call.declaration call.path = (.ok (), root)) :
    Records { root, size := c.size + 1 } (calls ++ [call]) where
  tidy := h.tidy.insert hinsert
  entry_iff ks d := by
    show root.entry ks = some d ↔ _
    rw [Trie.entry_of_accepted hinsert, h.entry_iff]
    simp only [List.mem_append, List.mem_singleton, or_and_right, exists_or, exists_eq_left]
  size_eq := by simp [h.size_eq]

/-- One call: it is accepted if its path can be declared together with the recorded ones. -/
theorem accept (h : c.Records calls) (hcalls : Declarable (calls.map Call.path)) (call : Call) :
    (Declarable ((calls ++ [call]).map Call.path) ∧
      ∃ c', c.accept call = .ok c' ∧ c'.Records (calls ++ [call])) ∨
    (¬ Declarable ((calls ++ [call]).map Call.path) ∧ ∃ e, c.accept call = .error e) := by
  rw [List.map_append, List.map_singleton, declarable_concat, ← h.isOk_insert_iff call.declaration]
  rcases c.accept_cases call with ⟨root, hpath, hinsert, hok⟩ | ⟨hrefused, herror⟩
  · exact .inl ⟨⟨hcalls, hpath, by rw [hinsert]; rfl⟩, _, hok, h.accepted hinsert⟩
  · refine .inr ⟨fun hdeclarable => ?_, herror⟩
    rcases hrefused with hpath | hinsert
    · exact hdeclarable.2.1 hpath
    · exact Bool.false_ne_true (hinsert.symm.trans hdeclarable.2.2)

/-- Calls one after another: all of them are accepted if their paths can be declared together with
the recorded ones. -/
theorem acceptAll (h : c.Records calls) (hcalls : Declarable (calls.map Call.path))
    (more : List Call) :
    (Declarable ((calls ++ more).map Call.path) ∧
      ∃ c', c.acceptAll more = .ok c' ∧ c'.Records (calls ++ more)) ∨
    (¬ Declarable ((calls ++ more).map Call.path) ∧ ∃ e, c.acceptAll more = .error e) := by
  induction more generalizing c calls with
  | nil => exact .inl ⟨by simpa using hcalls, c, rfl, by simpa using h⟩
  | cons call more ih =>
    rw [Catalog.acceptAll, List.append_cons]
    rcases h.accept hcalls call with ⟨hcall, c', hok, hc'⟩ | ⟨hcall, e, herror⟩
    · rw [hok]
      exact ih hc' hcall
    · -- what is refused now cannot be declared together with the later paths either
      rw [herror]
      refine .inr ⟨fun hall => hcall ?_, e, rfl⟩
      rw [List.map_append] at hall
      exact ⟨fun p hp => hall.ne_nil p (List.mem_append_left _ hp),
        (List.pairwise_append.1 hall.agree).1⟩

/-- **A catalog is known by the declarations it records**, in whatever order they were made. -/
theorem eq_of_perm (h : c.Records calls) (h' : c'.Records calls') (hperm : calls.Perm calls') :
    c = c' := by
  have hroot : c.root = c'.root := by
    refine h.tidy.ext h'.tidy fun ks => Option.ext fun d => ?_
    rw [h.entry_iff, h'.entry_iff]
    simp only [hperm.mem_iff]
  have hsize : c.size = c'.size := by rw [h.size_eq, h'.size_eq, hperm.length_eq]
  cases c
  cases c'
  exact congr (congrArg Catalog.mk hroot) hsize

end Records

/-- **All calls are accepted if their paths can be declared together.** -/
theorem build_cases (calls : List Call) :
    (Declarable (calls.map Call.path) ∧ ∃ c, build calls = .ok c ∧ c.Records calls) ∨
    (¬ Declarable (calls.map Call.path) ∧ ∃ e, build calls = .error e) :=
  Records.initial.acceptAll ⟨fun _ hp => (List.not_mem_nil hp).elim, .nil⟩ calls

theorem build_isOk_iff (calls : List Call) :
    (∃ c, build calls = .ok c) ↔ Declarable (calls.map Call.path) := by
  rcases build_cases calls with ⟨hdeclarable, c, hok, -⟩ | ⟨hdeclarable, e, herror⟩
  · exact ⟨fun _ => hdeclarable, fun _ => ⟨c, hok⟩⟩
  · refine ⟨?_, fun h => absurd h hdeclarable⟩
    rintro ⟨c, hok⟩
    cases herror.symm.trans hok

theorem build_of_perm {calls calls' : List Call} {c : Catalog} (hperm : calls.Perm calls')
    (h : build calls = .ok c) : build calls' = .ok c := by
  have hdeclarable : Declarable (calls'.map Call.path) :=
    ((build_isOk_iff calls).1 ⟨c, h⟩).of_perm (hperm.map Call.path)
  rcases build_cases calls with ⟨-, c₁, hok, hc⟩ | ⟨-, e, herror⟩
  · rcases build_cases calls' with ⟨-, c₂, hok', hc'⟩ | ⟨hnot, -⟩
    · rw [hok', ← Except.ok.inj (hok.symm.trans h), hc.eq_of_perm hc' hperm]
    · exact absurd hdeclarable hnot
  · cases herror.symm.trans h

end Catalog

/-! ## Columns of a configuration -/

/-- The call that declares a column, if the column has a name. -/
def ColumnEntry.call? (e : ColumnEntry) : Option Catalog.Call :=
  match e.namer with
  | .ok namer => some (.declare e.path { type := e.type, namer })
  | .error _ => none

namespace Config

theorem declareAll_eq_ok_iff {c c' : Catalog} {es : List ColumnEntry} :
    declareAll c es = .ok c' ↔
      (∀ e ∈ es, e.call?.isSome) ∧ c.acceptAll (es.filterMap ColumnEntry.call?) = .ok c' := by
  induction es generalizing c with
  | nil => simp [declareAll, Catalog.acceptAll]
  | cons e es ih =>
    rw [declareAll, List.forall_mem_cons]
    cases hnamer : e.namer with
    | error err => simp [ColumnEntry.call?, hnamer]
    | ok namer =>
      have hcall : e.call? = some (.declare e.path { type := e.type, namer }) := by
        rw [ColumnEntry.call?, hnamer]
      rw [List.filterMap_cons_some hcall, Catalog.acceptAll, Catalog.accept]
      dsimp only
      cases c.declare e.path { type := e.type, namer } with
      | error err => simp
      | ok c₁ => simp [ih, hcall]

theorem catalog_of_perm {config : Config} {columns : List ColumnEntry} {c : Catalog}
    (hperm : config.columns.Perm columns) (h : config.catalog = .ok c) :
    { config with columns }.catalog = .ok c := by
  obtain ⟨hnamed, hbuild⟩ := declareAll_eq_ok_iff.1 h
  refine declareAll_eq_ok_iff.2 ⟨fun e he => hnamed e (hperm.mem_iff.2 he), ?_⟩
  exact Catalog.build_of_perm (hperm.filterMap _) hbuild

/-- The settings depend on the columns only through the catalog. -/
theorem settings_of_perm {config : Config} {columns : List ColumnEntry} {s : Compile.Settings}
    (hperm : config.columns.Perm columns) (h : config.settings = .ok s) :
    { config with columns }.settings = .ok s := by
  cases hcatalog : config.catalog with
  | error e => simp [settings, resolvers, registry, hcatalog, Except.map] at h
  | ok c =>
    rw [← h]
    simp only [settings, resolvers, registry, hcatalog, catalog_of_perm hperm hcatalog]

end Config

namespace Catalog

/-- **The order of declarations does not matter.**  In whatever order declarations are made, all of
them are accepted if and only if their paths can be declared together, and then they build the same
catalog.  A configuration with its columns in another order can be used if the given one can, and
then every residual is compiled to the same answer. -/
theorem order_irrelevant :
    (∀ calls calls' : List Call, calls.Perm calls' →
      ((∃ c, build calls = .ok c) ↔ Declarable (calls.map Call.path)) ∧
      ((∃ c, build calls' = .ok c) ↔ Declarable (calls.map Call.path)) ∧
      ∀ c, build calls = .ok c → build calls' = .ok c) ∧
    ∀ (config : Config) (columns : List ColumnEntry), config.columns.Perm columns →
      ((∃ s, config.settings = .ok s) ↔ ∃ s, { config with columns }.settings = .ok s) ∧
      ∀ s s', config.settings = .ok s → { config with columns }.settings = .ok s' →
        ∀ r, Compile.sql s r = Compile.sql s' r := by
  constructor
  · intro calls calls' hperm
    refine ⟨build_isOk_iff calls, (build_isOk_iff calls').trans ?_, fun c => build_of_perm hperm⟩
    exact ⟨fun h => h.of_perm (hperm.map _).symm, fun h => h.of_perm (hperm.map _)⟩
  · intro config columns hperm
    refine ⟨⟨?_, ?_⟩, fun s s' hs hs' r => ?_⟩
    · rintro ⟨s, hs⟩
      exact ⟨s, Config.settings_of_perm hperm hs⟩
    · rintro ⟨s, hs⟩
      exact ⟨s, @Config.settings_of_perm { config with columns } config.columns s hperm.symm hs⟩
    · rw [Except.ok.inj (hs'.symm.trans (Config.settings_of_perm hperm hs))]

/-- Three declarations in two orders, one of them for every key below another, build one catalog,
and two columns in two orders give one answer. -/
theorem order_irrelevant_rotated :
    let title : Call := .insert [.field "input", .field "posts", .wildcard "*", .field "title"]
      { type := .string, namer := .fixed "title" }
    let post : Call := .declare "input.posts.*" { type := .map .string, namer := .fixed "post" }
    let posts : Call := .declare "input.posts" { type := .array .string, namer := .fixed "posts" }
    let config : Config :=
      { columns := [{ path := "input.posts.*.title", type := .string, column := some "title" },
          { path := "input.posts", type := .array .string, column := some "posts" }] }
    let r : Residual :=
      [[{ condition := .call [.var "eq",
            .ref [.var "input", .string "posts", .var "i", .string "title"], .string "x"] }]]
    (∃ c, build [title, post, posts] = .ok c ∧ build [posts, title, post] = .ok c) ∧
      ∃ s s', config.settings = .ok s ∧
        { config with columns := config.columns.reverse }.settings = .ok s' ∧
        Compile.sql s r = Compile.sql s' r := by
  intro title post posts config r
  have hcalls : [title, post, posts].Perm [posts, title, post] :=
    ((List.Perm.swap posts post []).cons title).trans (List.Perm.swap posts title [post])
  have hcolumns := order_irrelevant.2 config config.columns.reverse (List.reverse_perm _).symm
  obtain ⟨c, hc⟩ : ∃ c, build [title, post, posts] = .ok c := ⟨_, rfl⟩
  obtain ⟨s, hs⟩ : ∃ s, config.settings = .ok s := ⟨_, rfl⟩
  obtain ⟨s', hs'⟩ := hcolumns.1.1 ⟨s, hs⟩
  exact ⟨⟨c, hc, (order_irrelevant.1 _ _ hcalls).2.2 c hc⟩, s, s', hs, hs',
    hcolumns.2 s s' hs hs' r⟩

end Catalog

end RowFilter
