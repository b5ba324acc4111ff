import RowFilter.Proofs.Catalog.Entries

/-!
# Looking up the longest declared path

A lookup goes down the trie one step at a time and never turns back.  It still finds the longest of
the declared paths that cover a beginning of the path: a node has children of one kind only, so at
most one child covers a step, and no path of a given length has a rival.

* `Path.isUnder` — whether declared keys cover a beginning of a path.
* `Trie.reaches_of_find`, `Trie.exists_find_of_reaches`, `Trie.eq_of_reaches` — the descent.
* `Catalog.Session` — a catalog together with the declarations it has accepted, in their order.
* `Catalog.Session.lookup_longest` — after any calls, a lookup is the search for the longest match
  among the accepted declarations.
-/

set_option autoImplicit false

namespace RowFilter

/-! ## Covering a path -/

/-- Whether a declared key covers a step.  A key covers the steps with that key, be they fields or
indices; a missing key covers every step, and nothing else covers iteration. -/
def Segment.isUnder (s : Segment) : Option String → Bool
  | some key => s.key == some key
  | none => true

/-- Whether declared keys cover a beginning of a path. -/
def Path.isUnder : Path → List (Option String) → Bool
  | _, [] => true
  | [], _ :: _ => false
  | s :: rest, k :: ks => s.isUnder k && Path.isUnder rest ks

namespace Path

theorem isUnder_nil (path : Path) : isUnder path [] = true := by
  cases path <;> rfl

theorem isUnder_cons {s : Segment} {rest : Path} {k : Option String} {ks : List (Option String)} :
    isUnder (s :: rest) (k :: ks) = true ↔ s.isUnder k = true ∧ isUnder rest ks = true :=
  Bool.and_eq_true_iff

theorem length_le_of_isUnder {path : Path} {ks : List (Option String)}
    (h : isUnder path ks = true) : ks.length ≤ path.length := by
  induction ks generalizing path with
  | nil => exact Nat.zero_le _
  | cons k ks ih =>
    cases path with
    | nil => cases h
    | cons s rest => exact Nat.succ_le_succ (ih (isUnder_cons.1 h).2)

end Path

namespace Trie

/-! ## One step down -/

variable {t c c' : Trie} {s : Segment} {k k' : Option String}

theorem exists_step_of_child (h : t.child s = some c) :
    ∃ k, s.isUnder k = true ∧ t.step k = some c := by
  rw [child] at h
  split at h
  · next c₀ hc =>
    obtain rfl := Option.some.inj h
    obtain ⟨key, hkey, hlookup⟩ := Option.bind_eq_some_iff.1 hc
    exact ⟨some key, by simp [Segment.isUnder, hkey], hlookup⟩
  · exact ⟨none, rfl, h⟩

/-- A child by key leaves no child for every key to confuse it with. -/
theorem child_of_step (h : t.Unambiguous) (hk : s.isUnder k = true) (hc : t.step k = some c) :
    t.child s = some c := by
  rw [child]
  cases k with
  | some key =>
    rw [show s.key = some key from beq_iff_eq.1 hk, Option.bind_some,
      show t.named.lookup key = some c from hc]
  | none =>
    have hnamed : t.named = [] :=
      h.kind.resolve_right fun hnone => by simp [step, hnone] at hc
    have hlookup : (s.key.bind fun key => t.named.lookup key) = none := by
      rw [hnamed]
      exact Option.bind_fun_none s.key
    rw [hlookup]
    exact hc

/-- At most one child covers a step. -/
theorem eq_of_isUnder (h : t.Unambiguous) (hk : s.isUnder k = true) (hc : t.step k = some c)
    (hk' : s.isUnder k' = true) (hc' : t.step k' = some c') : k = k' := by
  -- Keys of both kinds would need children of both kinds.
  have hmixed : ∀ {key : String} {b b' : Trie}, t.step (some key) = some b →
      t.step none = some b' → False := by
    intro key b b' hb hb'
    rcases h.kind with hnamed | hwildcard
    · simp [step, hnamed] at hb
    · simp [step, hwildcard] at hb'
  cases k with
  | none =>
    cases k' with
    | none => rfl
    | some key' => exact (hmixed hc' hc).elim
  | some key =>
    cases k' with
    | none => exact (hmixed hc hc').elim
    | some key' => exact (beq_iff_eq.1 hk).symm.trans (beq_iff_eq.1 hk')

/-! ## The descent -/

/-- The declaration at some keys, which cover a beginning of a path. -/
structure Reaches (t : Trie) (path : Path) (ks : List (Option String)) (d : Declaration) :
    Prop where
  entry : t.entry ks = some d
  isUnder : Path.isUnder path ks = true

variable {rest path : Path} {ks ks' : List (Option String)} {d d' : Declaration}

theorem reaches_cons : t.Reaches (s :: rest) (k :: ks) d ↔
    s.isUnder k = true ∧ ∃ c, t.step k = some c ∧ c.Reaches rest ks d := by
  constructor
  · rintro ⟨hentry, hunder⟩
    obtain ⟨c, hc, hentry⟩ := Option.bind_eq_some_iff.1 hentry
    obtain ⟨hk, hks⟩ := Path.isUnder_cons.1 hunder
    exact ⟨hk, c, hc, hentry, hks⟩
  · rintro ⟨hk, c, hc, hentry, hks⟩
    exact ⟨Option.bind_eq_some_iff.2 ⟨c, hc, hentry⟩, Path.isUnder_cons.2 ⟨hk, hks⟩⟩

theorem not_reaches_nil_cons : ¬ t.Reaches [] (k :: ks) d :=
  fun h => by cases h.isUnder

theorem find_cons_of_some {g : Found} (hc : t.child s = some c) (hg : c.find rest = some g) :
    t.find (s :: rest) = some { g with depth := g.depth + 1 } := by
  simp only [find, hc, hg]

theorem find_cons_of_none (hc : t.child s = some c) (hg : c.find rest = none)
    (hd : c.declaration = some d) : t.find (s :: rest) = some { declaration := d, depth := 1 } := by
  simp only [find, hc, hg, hd, Option.map_some]

/-- What is found is declared at keys that cover the path as far as it was followed. -/
theorem reaches_of_find {f : Found} (h : t.find path = some f) :
    ∃ ks, t.Reaches path ks f.declaration ∧ ks.length = f.depth ∧ ks ≠ [] := by
  induction path generalizing t f with
  | nil => cases h
  | cons s rest ih =>
    rw [find] at h
    split at h
    · cases h
    · next c hc =>
      obtain ⟨k, hk, hstep⟩ := exists_step_of_child hc
      split at h
      · next g hg =>
        obtain ⟨ks, hreaches, hlength, -⟩ := ih hg
        obtain rfl := Option.some.inj h
        exact ⟨k :: ks, reaches_cons.2 ⟨hk, c, hstep, hreaches⟩,
          congrArg (· + 1) hlength, List.cons_ne_nil _ _⟩
      · obtain ⟨d, hd, rfl⟩ := Option.map_eq_some_iff.1 h
        exact ⟨[k], reaches_cons.2 ⟨hk, c, hstep, hd, Path.isUnder_nil rest⟩, rfl,
          List.cons_ne_nil _ _⟩

/-- **A declaration that covers the path is found, or a deeper one is.** -/
theorem exists_find_of_reaches (h : t.Unambiguous) (hreaches : t.Reaches path ks d)
    (hne : ks ≠ []) : ∃ f, t.find path = some f ∧ ks.length ≤ f.depth := by
  induction path generalizing t ks with
  | nil =>
    cases ks with
    | nil => exact absurd rfl hne
    | cons k ks => exact (not_reaches_nil_cons hreaches).elim
  | cons s rest ih =>
    cases ks with
    | nil => exact absurd rfl hne
    | cons k ks =>
      obtain ⟨hk, c, hc, hbelow⟩ := reaches_cons.1 hreaches
      have hchild := child_of_step h hk hc
      cases ks with
      | cons l ls =>
        obtain ⟨g, hg, hle⟩ := ih (h.of_step hc) hbelow (List.cons_ne_nil l ls)
        exact ⟨_, find_cons_of_some hchild hg, Nat.succ_le_succ hle⟩
      | nil =>
        -- The declaration is the child's own, unless there is a deeper one.
        cases hg : c.find rest with
        | some g => exact ⟨_, find_cons_of_some hchild hg, Nat.le_add_left 1 g.depth⟩
        | none => exact ⟨_, find_cons_of_none hchild hg hbelow.entry, Nat.le_refl 1⟩

/-- **At most one declared path of each length covers a path.** -/
theorem eq_of_reaches (h : t.Unambiguous) (hreaches : t.Reaches path ks d)
    (hreaches' : t.Reaches path ks' d') (hlength : ks.length = ks'.length) : ks = ks' := by
  induction path generalizing t ks ks' with
  | nil =>
    cases ks with
    | nil => exact (List.length_eq_zero_iff.1 hlength.symm).symm
    | cons k ks => exact (not_reaches_nil_cons hreaches).elim
  | cons s rest ih =>
    cases ks with
    | nil => exact (List.length_eq_zero_iff.1 hlength.symm).symm
    | cons k ks =>
      cases ks' with
      | nil => cases hlength
      | cons k' ks' =>
        obtain ⟨hk, c, hc, hbelow⟩ := reaches_cons.1 hreaches
        obtain ⟨hk', c', hc', hbelow'⟩ := reaches_cons.1 hreaches'
        obtain rfl := eq_of_isUnder h hk hc hk' hc'
        obtain rfl := Option.some.inj (hc.symm.trans hc')
        rw [ih (h.of_step hc) hbelow hbelow' (Nat.succ.inj hlength)]

end Trie

namespace Catalog

/-- How a call ends: the path is empty, or the trie accepts the declaration, or it refuses it. -/
theorem insert_cases (c : Catalog) (path : Path) (d : Declaration) :
    (path = [] ∧ c.insert path d = (.error .emptyPath, c)) ∨
    (∃ root, path ≠ [] ∧ c.root.insert d path = (.ok (), root) ∧
      c.insert path d = (.ok (), { root, size := c.size + 1 })) ∨
    (∃ refusal root e, c.root.insert d path = (.error refusal, root) ∧
      c.insert path d = (.error e, { root, size := c.size })) := by
  cases path with
  | nil => exact .inl ⟨rfl, rfl⟩
  | cons s rest =>
    rw [insert]
    rcases c.root.insert d (s :: rest) with ⟨result, root⟩
    cases result with
    | ok u => exact .inr (.inl ⟨root, List.cons_ne_nil s rest, rfl, rfl⟩)
    | error refusal => cases refusal <;> exact .inr (.inr ⟨_, root, _, rfl, rfl⟩)

/-! ## Sessions -/

/-- A request to declare a path. -/
inductive Call where
  /-- In place. -/
  | insert (path : Path) (d : Declaration)
  /-- By its dotted form; a refused declaration leaves the catalog as it was. -/
  | declare (path : String) (d : Declaration)
deriving Repr, DecidableEq

/-- A catalog, and the declarations it has accepted, in their order. -/
structure Session where
  /-- The catalog. -/
  catalog : Catalog := {}
  /-- The accepted declarations with their paths. -/
  declared : List (Path × Declaration) := []
deriving Repr

namespace Session

/-- One call. -/
def step (s : Session) : Call → Session
  | .insert path d =>
    match s.catalog.insert path d with
    | (.ok _, catalog) => { catalog, declared := s.declared ++ [(path, d)] }
    | (.error _, catalog) => { s with catalog }
  | .declare path d =>
    match s.catalog.declare path d with
    | .ok catalog => { catalog, declared := s.declared ++ [(Path.ofDotted path, d)] }
    | .error _ => s

/-- The calls one after another, from an empty catalog on. -/
def run (calls : List Call) : Session :=
  calls.foldl step {}

/-- The accepted declarations are the entries of the trie, one for each list of keys. -/
structure Sound (s : Session) : Prop where
  unambiguous : s.catalog.root.Unambiguous
  entry_iff : ∀ ks d, s.catalog.root.entry ks = some d ↔ ∃ e ∈ s.declared, e.1.keys = ks ∧ e.2 = d
  nodup : (s.declared.map fun e => e.1.keys).Nodup
  ne_nil : ∀ e ∈ s.declared, e.1 ≠ []

variable {s : Session} {path : Path} {d : Declaration} {root : Trie}

theorem Sound.initial : Sound {} where
  unambiguous := .empty
  entry_iff ks d := by simp [Trie.entry_empty]
  nodup := List.nodup_nil
  ne_nil e he := by cases he

theorem Sound.refused (h : s.Sound) {refusal : Trie.Refusal} {size : Nat}
    (hinsert : s.catalog.root.insert d path = (.error refusal, root)) :
    Sound { s with catalog := { root, size } } where
  unambiguous := by
    have hroot := h.unambiguous.insert d path
    rwa [hinsert] at hroot
  entry_iff ks d' := by
    show root.entry ks = some d' ↔ _
    rw [Trie.entry_of_refused hinsert, h.entry_iff]
  nodup := h.nodup
  ne_nil := h.ne_nil

theorem Sound.accepted (h : s.Sound) {size : Nat}
    (hinsert : s.catalog.root.insert d path = (.ok (), root)) (hpath : path ≠ []) :
    Sound { catalog := { root, size }, declared := s.declared ++ [(path, d)] } where
  unambiguous := by
    have hroot := h.unambiguous.insert d path
    rwa [hinsert] at hroot
  entry_iff ks d' := by
    show root.entry ks = some d' ↔ _
    rw [Trie.entry_of_accepted hinsert, h.entry_iff]
    simp only [List.mem_append, List.mem_singleton, or_and_right, exists_or, exists_eq_left]
  nodup := by
    have hnone : s.catalog.root.entry path.keys = none :=
      Trie.entry_of_insert (d := d) (by rw [hinsert]; rfl)
    rw [List.map_append, List.nodup_append]
    refine ⟨h.nodup, by simp, fun ks hks ks' hks' => ?_⟩
    obtain ⟨e, he, rfl⟩ := List.mem_map.1 hks
    rw [List.mem_singleton.1 hks']
    -- a path that was declared before would have an entry
    intro hkeys
    cases hnone.symm.trans ((h.entry_iff _ _).2 ⟨e, he, hkeys, rfl⟩)
  ne_nil := by
    intro e he
    rcases List.mem_append.1 he with he | he
    · exact h.ne_nil e he
    · rw [List.mem_singleton.1 he]
      exact hpath

theorem Sound.step (h : s.Sound) (call : Call) : (s.step call).Sound := by
  cases call with
  | insert path d =>
    rw [Session.step]
    rcases s.catalog.insert_cases path d with ⟨-, hcall⟩ | ⟨root, hpath, hinsert, hcall⟩ |
      ⟨refusal, root, e, hinsert, hcall⟩
    · rw [hcall]
      exact h
    · rw [hcall]
      exact h.accepted hinsert hpath
    · rw [hcall]
      exact h.refused hinsert
  | declare path d =>
    rw [Session.step, Catalog.declare]
    rcases s.catalog.insert_cases (Path.ofDotted path) d with ⟨-, hcall⟩ |
      ⟨root, hpath, hinsert, hcall⟩ | ⟨refusal, root, e, -, hcall⟩
    · rw [hcall]
      exact h
    · rw [hcall]
      exact h.accepted hinsert hpath
    · rw [hcall]
      exact h

/-- **After any calls the accepted declarations are the entries of the trie.** -/
theorem Sound.run (calls : List Call) : (run calls).Sound := by
  suffices hfrom : ∀ s : Session, s.Sound → (calls.foldl Session.step s).Sound from
    hfrom {} Sound.initial
  induction calls with
  | nil => exact fun _ hs => hs
  | cons call calls ih => exact fun s hs => ih (s.step call) (hs.step call)

/-- An accepted declaration covers a beginning of a path, and no longer one does. -/
structure IsLongest (s : Session) (path : Path) (e : Path × Declaration) : Prop where
  mem : e ∈ s.declared
  isUnder : path.isUnder e.1.keys = true
  longest : ∀ e' ∈ s.declared, path.isUnder e'.1.keys = true → e'.1.length ≤ e.1.length

/-- The accepted declarations of a given length that cover a beginning of a path. -/
def covering (s : Session) (path : Path) (n : Nat) : List (Path × Declaration) :=
  s.declared.filter fun e => e.1.length == n && path.isUnder e.1.keys

theorem mem_covering {n : Nat} {e : Path × Declaration} :
    e ∈ s.covering path n ↔ e ∈ s.declared ∧ e.1.length = n ∧ path.isUnder e.1.keys = true := by
  rw [Session.covering, List.mem_filter, Bool.and_eq_true, beq_iff_eq]

theorem Sound.reaches (h : s.Sound) {e : Path × Declaration} (he : e ∈ s.declared)
    (hunder : path.isUnder e.1.keys = true) : s.catalog.root.Reaches path e.1.keys e.2 :=
  ⟨(h.entry_iff _ _).2 ⟨e, he, rfl, rfl⟩, hunder⟩

theorem Sound.exists_find (h : s.Sound) {e : Path × Declaration} (he : e ∈ s.declared)
    (hunder : path.isUnder e.1.keys = true) :
    ∃ f, s.catalog.root.find path = some f ∧ e.1.length ≤ f.depth := by
  have hne : e.1.keys ≠ [] := fun hnil => h.ne_nil e he (List.map_eq_nil_iff.1 hnil)
  obtain ⟨f, hf, hle⟩ := Trie.exists_find_of_reaches h.unambiguous (h.reaches he hunder) hne
  exact ⟨f, hf, e.1.length_keys ▸ hle⟩

/-- What is found is the longest match. -/
theorem Sound.isLongest_of_find (h : s.Sound) {f : Trie.Found}
    (hf : s.catalog.root.find path = some f) :
    ∃ e, s.IsLongest path e ∧ e.2 = f.declaration ∧ e.1.length = f.depth := by
  obtain ⟨ks, hreaches, hlength, -⟩ := Trie.reaches_of_find hf
  obtain ⟨e, he, rfl, hd⟩ := (h.entry_iff _ _).1 hreaches.entry
  rw [Path.length_keys] at hlength
  refine ⟨e, ⟨he, hreaches.isUnder, fun e' he' hunder => ?_⟩, hd, hlength⟩
  obtain ⟨g, hg, hle⟩ := h.exists_find he' hunder
  obtain rfl := Option.some.inj (hf.symm.trans hg)
  exact hlength ▸ hle

/-- Two matches of the same length are declared at the same keys. -/
theorem Sound.keys_eq (h : s.Sound) {e e' : Path × Declaration} (he : e ∈ s.declared)
    (he' : e' ∈ s.declared) (hunder : path.isUnder e.1.keys = true)
    (hunder' : path.isUnder e'.1.keys = true) (hlength : e.1.length = e'.1.length) :
    e.1.keys = e'.1.keys :=
  Trie.eq_of_reaches h.unambiguous (h.reaches he hunder) (h.reaches he' hunder')
    (by rw [Path.length_keys, Path.length_keys, hlength])

theorem Sound.length_covering_le_one (h : s.Sound) (path : Path) (n : Nat) :
    (s.covering path n).length ≤ 1 := by
  have hpairwise : (s.covering path n).Pairwise fun e e' => e.1.keys ≠ e'.1.keys :=
    (List.pairwise_map.1 h.nodup).filter _
  rcases hcovering : s.covering path n with _ | ⟨e, _ | ⟨e', es⟩⟩
  · exact Nat.zero_le 1
  · exact Nat.le_refl 1
  · rw [hcovering] at hpairwise
    obtain ⟨he, hlength, hunder⟩ := mem_covering.1 (hcovering ▸ List.mem_cons_self)
    obtain ⟨he', hlength', hunder'⟩ : e' ∈ s.declared ∧ _ ∧ _ :=
      mem_covering.1 (hcovering ▸ List.mem_cons_of_mem e List.mem_cons_self)
    have hkeys := h.keys_eq he he' hunder hunder' (hlength.trans hlength'.symm)
    exact ((List.pairwise_cons.1 hpairwise).1 e' List.mem_cons_self hkeys).elim

theorem Sound.lookup_eq_none_iff (h : s.Sound) :
    s.catalog.lookup path = none ↔ ∀ e ∈ s.declared, path.isUnder e.1.keys = false := by
  rw [lookup, Option.map_eq_none_iff]
  constructor
  · intro hnone e he
    refine Bool.eq_false_iff.2 fun hunder => ?_
    obtain ⟨f, hf, -⟩ := h.exists_find he hunder
    cases hnone.symm.trans hf
  · intro hall
    refine Option.eq_none_iff_forall_ne_some.2 fun f hf => ?_
    obtain ⟨e, he, -⟩ := h.isLongest_of_find hf
    cases (hall e he.mem).symm.trans he.isUnder

theorem Sound.lookup_eq_some_iff (h : s.Sound) {m : Match} :
    s.catalog.lookup path = some m ↔ ∃ e, s.IsLongest path e ∧ m.declaration = e.2 ∧
      m.matched ++ m.rest = path ∧ m.matched.length = e.1.length := by
  rw [lookup]
  constructor
  · intro hm
    obtain ⟨f, hf, rfl⟩ := Option.map_eq_some_iff.1 hm
    obtain ⟨e, he, hd, hlength⟩ := h.isLongest_of_find hf
    have hle := Path.length_le_of_isUnder he.isUnder
    rw [Path.length_keys] at hle
    refine ⟨e, he, hd.symm, List.take_append_drop _ _, ?_⟩
    rw [List.length_take, ← hlength, Nat.min_eq_left hle]
  · rintro ⟨e, he, hd, rfl, hlength⟩
    obtain ⟨f, hf, -⟩ := h.exists_find he.mem he.isUnder
    obtain ⟨e₀, he₀, hd₀, hlength₀⟩ := h.isLongest_of_find hf
    -- The two longest matches have one length, and so one declaration.
    have hsame : e.1.length = e₀.1.length :=
      Nat.le_antisymm (he₀.longest e he.mem he.isUnder) (he.longest e₀ he₀.mem he₀.isUnder)
    have hentry := (h.reaches he.mem he.isUnder).entry
    rw [h.keys_eq he.mem he₀.mem he.isUnder he₀.isUnder hsame,
      (h.reaches he₀.mem he₀.isUnder).entry, hd₀, ← hd] at hentry
    rw [hf, Option.map_some, Option.some.inj hentry, ← hlength₀, ← hsame, ← hlength,
      List.take_left, List.drop_left]

/-- **A lookup is the search for the longest match.**  Whatever calls were made, accepted or
refused, no node of the trie has children of both kinds, and at most one accepted path of each
length covers a given path.  A lookup answers nothing if none does, and otherwise the declaration of
the longest, with the path cut in two at its length. -/
theorem lookup_longest (calls : List Call) (path : Path) :
    (run calls).catalog.root.Unambiguous ∧
    (∀ n, ((run calls).covering path n).length ≤ 1) ∧
    ((run calls).catalog.lookup path = none ↔
      ∀ e ∈ (run calls).declared, path.isUnder e.1.keys = false) ∧
    ∀ m, (run calls).catalog.lookup path = some m ↔
      ∃ e, (run calls).IsLongest path e ∧ m.declaration = e.2 ∧
        m.matched ++ m.rest = path ∧ m.matched.length = e.1.length := by
  have hsound := Sound.run calls
  exact ⟨hsound.unambiguous, hsound.length_covering_le_one path, hsound.lookup_eq_none_iff,
    fun _ => hsound.lookup_eq_some_iff⟩

-- The second call is refused, since the first has declared every key below `posts`.
example :
    let posts : Declaration := { type := .array .string, namer := .fixed "posts" }
    let title : Declaration := { type := .string, namer := .fixed "title" }
    let s := run [.insert [.field "posts", .wildcard "*", .field "title"] title,
      .insert [.field "posts", .field "0"] title, .insert [.field "posts"] posts]
    s.declared.map Prod.snd = [title, posts] ∧
      s.catalog.lookup [.field "posts", .index 0, .field "title", .field "x"] =
        some { declaration := title, matched := [.field "posts", .index 0, .field "title"],
               rest := [.field "x"] } ∧
      s.catalog.lookup [.field "posts", .index 0] =
        some { declaration := posts, matched := [.field "posts"], rest := [.index 0] } := by
  decide

end Session

end Catalog

end RowFilter
