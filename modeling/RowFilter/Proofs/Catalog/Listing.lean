import RowFilter.Proofs.Catalog.Declarations
import RowFilter.Proofs.Catalog.Frame
import RowFilter.Proofs.Path.Dotted

/-!
# The list of declared paths

A catalog lists its declared paths in dotted form.  The list is complete: it holds each accepted
declaration once.  It is in order: a path comes before its extensions, and where two paths part, the
one with the smaller key comes first.  And it says all that there is to say about which paths are
declared: when its entries are declared anew, in whatever order, they are accepted, and the catalog
lists the same paths and sends every lookup to the same depth.

* `Path.Precedes` — the order of the list.
* `Trie.mem_paths`, `Trie.Tidy.pairwise_paths` — what is listed, and in which order.
* `Catalog.Session.Recorded.run` — after any calls, the catalog records what it has accepted.
* `Trie.depth_find_eq` — how deep a lookup goes is decided by which paths are declared.
* `Catalog.paths_exact` — the list.
-/

set_option autoImplicit false

namespace RowFilter

/-! ## The order of paths -/

/-- **A path comes before its extensions, and where two paths part, the smaller key comes
first.** -/
inductive Path.Precedes : Path → Path → Prop
  | extension (s : Segment) (rest : Path) : Precedes [] (s :: rest)
  | key {k l : String} (h : compare k l = .lt) (p q : Path) :
      Precedes (.field k :: p) (.field l :: q)
  | step (s : Segment) {p q : Path} (h : Precedes p q) : Precedes (s :: p) (s :: q)

namespace Path.Precedes

variable {p q : Path}

theorem asymm (h : Precedes p q) : ¬ Precedes q p := by
  induction h with
  | extension s rest => exact fun h => by cases h
  | @key k l hkl p q =>
    intro h
    cases h with
    | key hlk => simp [Std.OrientedCmp.gt_of_lt hkl] at hlk
    | step => simp at hkl
  | step s _ ih =>
    intro h
    cases h with
    | key hkk => simp at hkk
    | step _ h => exact ih h

theorem ne (h : Precedes p q) : p ≠ q := by
  rintro rfl
  exact h.asymm h

/-- In a list in which each path precedes all later ones, it precedes no others. -/
theorem iff_lt_of_pairwise {ps : List Path} (h : ps.Pairwise Precedes) {i j : Nat}
    (hp : ps[i]? = some p) (hq : ps[j]? = some q) : Precedes p q ↔ i < j := by
  obtain ⟨hi, rfl⟩ := List.getElem?_eq_some_iff.1 hp
  obtain ⟨hj, rfl⟩ := List.getElem?_eq_some_iff.1 hq
  rw [List.pairwise_iff_getElem] at h
  refine ⟨fun hprecedes => ?_, h i j hi hj⟩
  rcases Nat.lt_trichotomy i j with hlt | rfl | hgt
  · exact hlt
  · exact absurd rfl hprecedes.ne
  · exact absurd hprecedes (h j i hj hi hgt).asymm

end Path.Precedes

/-! ## What is listed -/

namespace Trie

variable {t t' c : Trie} {p : Path}

theorem namedPaths_eq (ns : List (String × Trie)) :
    namedPaths ns = ns.flatMap fun n => n.2.paths.map (Segment.field n.1 :: ·) := by
  induction ns with
  | nil => rfl
  | cons n ns ih => rw [namedPaths, ih, List.flatMap_cons]

theorem wildcardPaths_eq (w : Option Trie) :
    wildcardPaths w = w.toList.flatMap fun c => c.paths.map (Segment.wildcard "*" :: ·) := by
  cases w with
  | none => rfl
  | some c => simp [wildcardPaths]

theorem paths_eq (t : Trie) :
    t.paths = (if t.declaration.isSome then [[]] else []) ++
      (t.named.flatMap fun n => n.2.paths.map (Segment.field n.1 :: ·)) ++
      t.wildcard.toList.flatMap fun c => c.paths.map (Segment.wildcard "*" :: ·) := by
  cases t with
  | node d ns w => rw [paths, namedPaths_eq, wildcardPaths_eq]; rfl

theorem Ascending.lookup_of_mem {ns : List (String × Trie)} {n : String × Trie}
    (h : Ascending ns) (hn : n ∈ ns) : ns.lookup n.1 = some n.2 := by
  induction ns with
  | nil => cases hn
  | cons m ns ih =>
    rw [lookup_cons_eq]
    rcases List.mem_cons.1 hn with rfl | hn
    · rw [if_pos rfl]
    · have hlt := List.rel_of_pairwise_cons h hn
      have hne : n.1 ≠ m.1 := fun heq => by simp [heq] at hlt
      rw [if_neg hne, ih h.of_cons hn]

theorem mem_named_of_lookup {key : String} (h : t.named.lookup key = some c) :
    (key, c) ∈ t.named := by
  obtain ⟨ns₁, ns₂, hns, -⟩ := List.lookup_eq_some_iff.1 h
  rw [hns]
  exact List.mem_append_right _ List.mem_cons_self

/-- The paths through the children, step by step. -/
theorem cons_mem_paths (h : Ascending t.named) {s : Segment} :
    s :: p ∈ t.paths ↔ ∃ k c, t.step k = some c ∧ s = Segment.ofKey k ∧ p ∈ c.paths := by
  rw [paths_eq]
  simp only [List.mem_append, List.mem_flatMap, List.mem_map, Option.mem_toList, List.cons.injEq]
  constructor
  · rintro ((hown | ⟨n, hn, q, hq, rfl, rfl⟩) | ⟨c, hc, q, hq, rfl, rfl⟩)
    · split at hown <;> simp at hown
    · exact ⟨some n.1, n.2, h.lookup_of_mem hn, rfl, hq⟩
    · exact ⟨none, c, hc, rfl, hq⟩
  · rintro ⟨k, c, hc, rfl, hp⟩
    cases k with
    | some key => exact .inl (.inr ⟨(key, c), mem_named_of_lookup hc, p, hp, rfl, rfl⟩)
    | none => exact .inr ⟨c, hc, p, hp, rfl, rfl⟩

/-- **The listed paths are those of the entries.** -/
theorem mem_paths (h : t.Tidy) :
    p ∈ t.paths ↔ ∃ ks d, t.entry ks = some d ∧ p = ks.map Segment.ofKey := by
  induction p generalizing t with
  | nil =>
    have hnil : [] ∈ t.paths ↔ t.declaration.isSome = true := by
      rw [paths_eq]
      by_cases hd : t.declaration.isSome = true <;> simp [hd]
    rw [hnil, Option.isSome_iff_exists]
    constructor
    · rintro ⟨d, hd⟩
      exact ⟨[], d, hd, rfl⟩
    · rintro ⟨ks, d, hd, hks⟩
      obtain rfl := List.map_eq_nil_iff.1 hks.symm
      exact ⟨d, hd⟩
  | cons s p ih =>
    rw [cons_mem_paths h.ascending]
    constructor
    · rintro ⟨k, c, hc, rfl, hp⟩
      obtain ⟨ks, d, hd, rfl⟩ := (ih (h.of_step hc)).1 hp
      exact ⟨k :: ks, d, by rw [entry_cons, hc, Option.bind_some, hd], rfl⟩
    · rintro ⟨_ | ⟨k, ks⟩, d, hd, hks⟩
      · cases hks
      · obtain ⟨rfl, rfl⟩ := List.cons.inj hks
        obtain ⟨c, hc, hd⟩ := Option.bind_eq_some_iff.1 hd
        exact ⟨k, c, hc, rfl, (ih (h.of_step hc)).2 ⟨ks, d, hd, rfl⟩⟩

/-- **The list is in order.** -/
theorem Tidy.pairwise_paths (h : t.Tidy) : t.paths.Pairwise Path.Precedes := by
  induction h with
  | @intro t hkind hascending htidy hbears ih =>
    have hcons : ∀ s k c, t.step k = some c → (c.paths.map (s :: ·)).Pairwise Path.Precedes :=
      fun s k c hc => List.pairwise_map.2 ((ih k c hc).imp fun hpq => .step s hpq)
    have hown : (if t.declaration.isSome then [([] : Path)] else []).Pairwise Path.Precedes := by
      split <;> simp
    rw [paths_eq, List.append_assoc, List.pairwise_append]
    refine ⟨hown, List.pairwise_append.2 ⟨?_, ?_, ?_⟩, ?_⟩
    · refine List.pairwise_flatMap.2 ⟨fun n hn => ?_, hascending.imp fun hmn => ?_⟩
      · exact hcons _ (some n.1) n.2 (hascending.lookup_of_mem hn)
      · simp only [List.mem_map]
        rintro _ ⟨p, -, rfl⟩ _ ⟨q, -, rfl⟩
        exact .key hmn p q
    · cases hw : t.wildcard with
      | none => exact .nil
      | some c => simpa using hcons _ none c hw
    · -- there are children of one kind only
      rcases hkind with hnil | hnone
      · simp [hnil]
      · simp [hnone]
    · intro p hp q hq
      have hp : p = [] := by
        split at hp
        · exact List.mem_singleton.1 hp
        · cases hp
      rw [hp]
      simp only [List.mem_append, List.mem_flatMap, List.mem_map] at hq
      rcases hq with ⟨n, -, q, -, rfl⟩ | ⟨c, -, q, -, rfl⟩
      · exact .extension _ q
      · exact .extension _ q

theorem Tidy.nodup_paths (h : t.Tidy) : t.paths.Nodup :=
  h.pairwise_paths.imp fun hpq => hpq.ne

theorem Tidy.ordered (h : t.Tidy) : t.Ordered := by
  induction h with
  | intro _ hascending _ _ ih => exact .intro hascending ih

theorem Tidy.unambiguous (h : t.Tidy) : t.Unambiguous := by
  induction h with
  | @intro t hkind hascending _ _ ih =>
    cases t with
    | node d ns w =>
      exact .node hkind (fun n hn => ih (some n.1) n.2 (hascending.lookup_of_mem hn))
        fun c hc => ih none c hc

/-- The tries have declarations at the same places. -/
def SamePlaces (t t' : Trie) : Prop :=
  ∀ ks, (∃ d, t.entry ks = some d) ↔ ∃ d, t'.entry ks = some d

theorem SamePlaces.symm (h : t.SamePlaces t') : t'.SamePlaces t :=
  fun ks => (h ks).symm

/-- **The list is known by the places of the declarations.** -/
theorem paths_eq_of_samePlaces (ht : t.Tidy) (ht' : t'.Tidy) (h : t.SamePlaces t') :
    t.paths = t'.paths := by
  have hperm : t.paths.Perm t'.paths := by
    rw [List.perm_ext_iff_of_nodup ht.nodup_paths ht'.nodup_paths]
    intro p
    rw [mem_paths ht, mem_paths ht']
    refine exists_congr fun ks => ?_
    rw [exists_and_right, exists_and_right, h ks]
  exact hperm.eq_of_pairwise (fun p q _ _ hpq hqp => absurd hqp hpq.asymm) ht.pairwise_paths
    ht'.pairwise_paths

theorem exists_find_of_samePlaces (ht' : t'.Tidy) (h : t.SamePlaces t') {query : Path} {f : Found}
    (hf : t.find query = some f) : ∃ f', t'.find query = some f' ∧ f.depth ≤ f'.depth := by
  obtain ⟨ks, hreaches, hlength, hne⟩ := reaches_of_find hf
  obtain ⟨d', hd'⟩ := (h ks).1 ⟨_, hreaches.entry⟩
  rw [← hlength]
  exact exists_find_of_reaches ht'.unambiguous ⟨hd', hreaches.isUnder⟩ hne

/-- **How deep a lookup goes is known by the places of the declarations.** -/
theorem depth_find_eq (ht : t.Tidy) (ht' : t'.Tidy) (h : t.SamePlaces t') (query : Path) :
    (t.find query).map Found.depth = (t'.find query).map Found.depth := by
  cases hf : t.find query with
  | none =>
    cases hf' : t'.find query with
    | none => rfl
    | some f' =>
      obtain ⟨f, hfound, -⟩ := exists_find_of_samePlaces ht h.symm hf'
      cases hf.symm.trans hfound
  | some f =>
    obtain ⟨f', hf', hle⟩ := exists_find_of_samePlaces ht' h hf
    obtain ⟨g, hg, hge⟩ := exists_find_of_samePlaces ht h.symm hf'
    obtain rfl := Option.some.inj (hf.symm.trans hg)
    rw [hf', Option.map_some, Option.map_some, Nat.le_antisymm hle hge]

end Trie

namespace Catalog

theorem Records.samePlaces {c c' : Catalog} {calls calls' : List Call} (h : c.Records calls)
    (h' : c'.Records calls') (hpaths : (calls.map Call.path).Perm (calls'.map Call.path)) :
    c.root.SamePlaces c'.root := by
  have hplaces : ∀ {c : Catalog} {calls : List Call}, c.Records calls → ∀ ks,
      (∃ d, c.root.entry ks = some d) ↔ ∃ p ∈ calls.map Call.path, p.keys = ks := by
    intro c calls h ks
    simp only [h.entry_iff, List.mem_map]
    constructor
    · rintro ⟨d, call, hcall, hkeys, -⟩
      exact ⟨call.path, ⟨call, hcall, rfl⟩, hkeys⟩
    · rintro ⟨_, ⟨call, hcall, rfl⟩, hkeys⟩
      exact ⟨_, call, hcall, hkeys, rfl⟩
  intro ks
  rw [hplaces h, hplaces h']
  simp only [hpaths.mem_iff]

/-! ## Sessions -/

namespace Session

variable {s : Session}

/-- **The catalog records what it has accepted**, and the accepted paths can be declared
together. -/
structure Recorded (s : Session) : Prop where
  records : s.catalog.Records (s.declared.map fun e => .insert e.1 e.2)
  declarable : Declarable (s.declared.map Prod.fst)

/-- One call: it is accepted and recorded, or it leaves everything as it was. -/
theorem step_cases (h : s.catalog.root.Ordered) (call : Call) :
    (∃ c, s.catalog.accept (.insert call.path call.declaration) = .ok c ∧
      s.step call = { catalog := c, declared := s.declared ++ [(call.path, call.declaration)] }) ∨
    s.step call = s := by
  cases call with
  | insert path d =>
    rw [step, accept]
    rcases hcall : s.catalog.insert path d with ⟨e | _, c⟩
    · rw [eq_of_insert_error h hcall]
      exact .inr rfl
    · exact .inl ⟨c, by simp only [Call.path, Call.declaration, hcall], rfl⟩
  | declare path d =>
    rw [step, accept, Catalog.declare]
    rcases hcall : s.catalog.insert (Path.ofDotted path) d with ⟨e | _, c⟩
    · exact .inr rfl
    · exact .inl ⟨c, by simp only [Call.path, Call.declaration, hcall], rfl⟩

theorem Recorded.step (h : s.Recorded) (call : Call) : (s.step call).Recorded := by
  rcases step_cases h.records.tidy.ordered call with ⟨c, hok, hstep⟩ | hstep
  · have hpaths : (s.declared.map fun e => Call.insert e.1 e.2).map Call.path =
        s.declared.map Prod.fst := by
      rw [List.map_map]
      rfl
    have hdeclarable := h.declarable
    rw [← hpaths] at hdeclarable
    rcases h.records.accept hdeclarable (.insert call.path call.declaration) with
      ⟨hdeclarable', c', hok', hc'⟩ | ⟨-, e, herror⟩
    · obtain rfl := Except.ok.inj (hok.symm.trans hok')
      rw [hstep]
      refine ⟨by simpa using hc', ?_⟩
      rw [List.map_append, hpaths] at hdeclarable'
      rw [List.map_append]
      exact hdeclarable'
    · cases hok.symm.trans herror
  · rwa [hstep]

/-- **After any calls, the catalog records what it has accepted.** -/
theorem Recorded.run (calls : List Call) : (run calls).Recorded := by
  suffices hfrom : ∀ s : Session, s.Recorded → (calls.foldl Session.step s).Recorded from
    hfrom {} ⟨.initial, ⟨fun _ hp => (List.not_mem_nil hp).elim, .nil⟩⟩
  induction calls with
  | nil => exact fun _ hs => hs
  | cons call calls ih => exact fun s hs => ih (s.step call) (hs.step call)

/-- What has been accepted was asked for. -/
theorem mem_declared_run {calls : List Call} {e : Path × Declaration}
    (h : e ∈ (run calls).declared) :
    ∃ call ∈ calls, e = (call.path, call.declaration) := by
  -- the calls that are still to come add to what has been accepted by the earlier ones
  suffices hfrom : ∀ s : Session, s.Recorded → e ∈ (calls.foldl step s).declared →
      e ∈ s.declared ∨ ∃ call ∈ calls, e = (call.path, call.declaration) by
    exact (hfrom {} (Recorded.run []) h).resolve_left List.not_mem_nil
  clear h
  induction calls with
  | nil => exact fun s _ he => .inl he
  | cons call calls ih =>
    intro s hs he
    rcases ih (s.step call) (hs.step call) he with hstep | ⟨later, hlater, heq⟩
    · rcases step_cases hs.records.tidy.ordered call with ⟨c, -, hcall⟩ | hcall
      · rw [hcall, List.mem_append, List.mem_singleton] at hstep
        exact hstep.imp_right fun heq => ⟨call, List.mem_cons_self, heq⟩
      · exact .inl (hcall ▸ hstep)
    · exact .inr ⟨later, List.mem_cons_of_mem call hlater, heq⟩

end Session

/-! ## Plain declarations -/

namespace Session

variable {s : Session}

/-- **Plain paths are listed as they were declared.** -/
theorem Recorded.perm_paths_root (h : s.Recorded) (hsound : s.Sound)
    (hplain : ∀ e ∈ s.declared, e.1.IsPlain) :
    s.catalog.root.paths.Perm (s.declared.map Prod.fst) := by
  have hnodup : (s.declared.map Prod.fst).Nodup := by
    have hkeys : ((s.declared.map Prod.fst).map Path.keys).Nodup := by
      rw [List.map_map]
      exact hsound.nodup
    exact List.Pairwise.of_map Path.keys (fun p q hne heq => hne (congrArg Path.keys heq)) hkeys
  rw [List.perm_ext_iff_of_nodup h.records.tidy.nodup_paths hnodup]
  intro p
  rw [Trie.mem_paths h.records.tidy, List.mem_map]
  constructor
  · rintro ⟨ks, d, hd, rfl⟩
    obtain ⟨e, he, rfl, -⟩ := (hsound.entry_iff ks d).1 hd
    exact ⟨e, he, (Path.map_ofKey (hplain e he)).symm⟩
  · rintro ⟨e, he, rfl⟩
    exact ⟨e.1.keys, e.2, (hsound.entry_iff _ _).2 ⟨e, he, rfl, rfl⟩,
      (Path.map_ofKey (hplain e he)).symm⟩

/-- The list is read back. -/
theorem map_ofDotted_paths (hperm : s.catalog.root.paths.Perm (s.declared.map Prod.fst))
    (hplain : ∀ e ∈ s.declared, e.1.IsPlain) :
    s.catalog.paths.map Path.ofDotted = s.catalog.root.paths := by
  have hlisted : ∀ p ∈ s.catalog.root.paths, Path.ofDotted p.dotted = p := by
    intro p hp
    obtain ⟨e, he, rfl⟩ := List.mem_map.1 (hperm.mem_iff.1 hp)
    exact Path.ofDotted_dotted (hplain e he)
  rw [paths, List.map_map]
  exact (List.map_congr_left hlisted).trans (List.map_id' _)

/-- **Whoever declares the listed paths anew** is refused nothing, and ends up with a catalog that
lists the same paths and in which lookups go as deep. -/
theorem Recorded.build_paths (h : s.Recorded)
    (hperm : s.catalog.root.paths.Perm (s.declared.map Prod.fst)) {calls : List Call}
    (hcalls : (calls.map Call.path).Perm s.catalog.root.paths) :
    ∃ c, build calls = .ok c ∧ c.paths = s.catalog.paths ∧
      ∀ query, c.depth? query = s.catalog.depth? query := by
  have hdeclared : (calls.map Call.path).Perm (s.declared.map Prod.fst) := hcalls.trans hperm
  rcases build_cases calls with ⟨-, c, hok, hc⟩ | ⟨hnot, -⟩
  · have hpaths : (s.declared.map fun e => Call.insert e.1 e.2).map Call.path =
        s.declared.map Prod.fst := by
      rw [List.map_map]
      rfl
    have hsame : c.root.SamePlaces s.catalog.root :=
      hc.samePlaces h.records (by rwa [hpaths])
    refine ⟨c, hok, ?_, fun query => ?_⟩
    · rw [paths, paths, Trie.paths_eq_of_samePlaces hc.tidy h.records.tidy hsame]
    · rw [depth?_eq, depth?_eq, Trie.depth_find_eq hc.tidy h.records.tidy hsame]
  · exact absurd (h.declarable.of_perm hdeclared.symm) hnot

end Session

/-- **The list of declared paths is exact, and the catalog can be built from it again.**  Whatever
dotted paths were declared, with or without success, the list has as many entries as are counted, no
two alike, and they are the dotted forms of the accepted paths.  These are what the texts spell that
were declared, and are read back from their dotted forms.  One entry stands before another exactly
if its path precedes the other's.  If the entries are declared anew, in any order and with any types
and names, then all are accepted, the list is the same, and each lookup goes as deep as before. -/
theorem paths_exact (calls : List (String × Declaration)) :
    let s := Session.run (calls.map fun call => .declare call.1 call.2)
    let c := s.catalog
    c.paths.length = c.size ∧ c.paths.Nodup ∧
    c.paths.Perm (s.declared.map fun e => e.1.dotted) ∧
    (∀ e ∈ s.declared, (∃ call ∈ calls, e = (Path.ofDotted call.1, call.2)) ∧
      Path.ofDotted e.1.dotted = e.1) ∧
    (∀ (i j : Nat) (p q : String), c.paths[i]? = some p → c.paths[j]? = some q →
      (Path.Precedes (Path.ofDotted p) (Path.ofDotted q) ↔ i < j)) ∧
    ∀ again : List (String × Declaration), (again.map Prod.fst).Perm c.paths →
      ∃ c', build (again.map fun call => .declare call.1 call.2) = .ok c' ∧ c'.paths = c.paths ∧
        ∀ query, c'.depth? query = c.depth? query := by
  intro s c
  have hrecorded : s.Recorded := Session.Recorded.run _
  have hasked : ∀ e ∈ s.declared, ∃ call ∈ calls, e = (Path.ofDotted call.1, call.2) := by
    intro e he
    obtain ⟨_, hcall, rfl⟩ := Session.mem_declared_run he
    obtain ⟨call, hmem, rfl⟩ := List.mem_map.1 hcall
    exact ⟨call, hmem, rfl⟩
  have hplain : ∀ e ∈ s.declared, e.1.IsPlain := by
    intro e he
    obtain ⟨call, -, rfl⟩ := hasked e he
    exact Path.isPlain_ofDotted call.1
  have hperm := hrecorded.perm_paths_root (Session.Sound.run _) hplain
  have hback : c.paths.map Path.ofDotted = c.root.paths :=
    Session.map_ofDotted_paths hperm hplain
  have hlisted : c.paths.Perm (s.declared.map fun e => e.1.dotted) := by
    have hdotted := hperm.map Path.dotted
    rwa [List.map_map] at hdotted
  refine ⟨?_, ?_, hlisted, fun e he => ⟨hasked e he, Path.ofDotted_dotted (hplain e he)⟩, ?_, ?_⟩
  · rw [hlisted.length_eq, hrecorded.records.size_eq, List.length_map, List.length_map]
  · have hnodup := hrecorded.records.tidy.nodup_paths
    rw [← hback] at hnodup
    exact List.Pairwise.of_map Path.ofDotted (fun p q hne heq => hne (congrArg Path.ofDotted heq))
      hnodup
  · intro i j p q hp hq
    refine Path.Precedes.iff_lt_of_pairwise hrecorded.records.tidy.pairwise_paths ?_ ?_
    · show c.root.paths[i]? = _
      rw [← hback, List.getElem?_map, hp, Option.map_some]
    · show c.root.paths[j]? = _
      rw [← hback, List.getElem?_map, hq, Option.map_some]
  · intro again hagain
    refine hrecorded.build_paths hperm ?_
    have hpaths := hagain.map Path.ofDotted
    rw [hback, List.map_map] at hpaths
    rwa [List.map_map]

/-- Four calls, of which the last is refused.  The path that was declared last is listed first, and
the list is declared anew from behind. -/
theorem paths_exact_posts :
    let d : Declaration := { type := .string, namer := .fixed "x" }
    let c := (Session.run
      [.declare "posts.*.title" d, .declare "posts..*" d, .declare "posts" d,
        .declare "posts.first" d]).catalog
    c.paths = ["posts", "posts.*", "posts.*.title"] ∧ c.size = 3 ∧
    ∃ c', build [.declare "posts.*.title" d, .declare "posts.*" d, .declare "posts" d] = .ok c' ∧
      c'.paths = c.paths ∧ ∀ query, c'.depth? query = c.depth? query := by
  intro d c
  have hpaths : c.paths = ["posts", "posts.*", "posts.*.title"] := by decide +kernel
  have hagain : ["posts.*.title", "posts.*", "posts"].Perm c.paths := by
    rw [hpaths]
    exact List.reverse_perm ["posts", "posts.*", "posts.*.title"]
  have hexact := paths_exact
    [("posts.*.title", d), ("posts..*", d), ("posts", d), ("posts.first", d)]
  refine ⟨hpaths, by decide +kernel, ?_⟩
  exact hexact.2.2.2.2.2 [("posts.*.title", d), ("posts.*", d), ("posts", d)] hagain

end Catalog

end RowFilter
