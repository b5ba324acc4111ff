import RowFilter.Proofs.Compile.References

/-!
# Groups of resolvers that a residual does not use

The settings enter a compilation at one place only: where a reference has a path, the resolvers are
asked for its column.  Settings that give the same answers to the paths of a residual therefore
compile it to the same SQL, or to the same error.

Leaving out a group of resolvers is a case of this.  The first resolver that knows a path decides,
so as long as it stays, it does not matter which others go.  If it goes itself, a later resolver may
take the path over, and nothing tells that it did.

* `Residual.paths` — the paths that compilation looks up.
* `Compile.Settings.answer` — what settings know of a path.
* `Registry.resolveFirst_filter` — the first resolver decides, whatever else is left out.
* `Compile.sql_of_same_answers` — the answers to the paths of a residual decide.
-/

set_option autoImplicit false

namespace RowFilter

open Sql (Node)

/-- The paths of the references of a residual.  References that name operators and those inside of
objects are not among them; they are never looked up. -/
def Residual.paths (r : Residual) : List Path :=
  r.references.filterMap fun segments => (Path.ofRef segments).toOption

namespace Compile

/-! ## What compilation asks for -/

/-- **What settings know of a path**: whether there are resolvers at all, and the column that they
give to the path, if they know it. -/
def Settings.answer (s : Settings) (path : Path) : Option (Option Node) :=
  s.resolvers.map fun rs => Resolver.resolveFirst rs path

variable {s s' : Settings}

theorem reference_eq (segments : List Term) :
    reference s segments =
      match Path.ofRef segments with
      | .error e => .error (.path e)
      | .ok path =>
        match s.answer path with
        | none => .error .noResolvers
        | some none => .error (.unresolved (Term.text (.ref segments)))
        | some (some n) => .ok n := by
  rw [reference]
  cases Path.ofRef segments with
  | error e => rfl
  | ok path =>
    simp only [Settings.answer]
    cases s.resolvers with
    | none => rfl
    | some rs =>
      simp only [Option.map_some]
      cases Resolver.resolveFirst rs path <;> rfl

/-- The settings compile each of the references to the same. -/
def AgreeOn (s s' : Settings) (references : List (List Term)) : Prop :=
  ∀ segments ∈ references, reference s segments = reference s' segments

theorem AgreeOn.mono {refs refs' : List (List Term)} (h : AgreeOn s s' refs')
    (hsub : refs ⊆ refs') : AgreeOn s s' refs :=
  fun segments hsegments => h segments (hsub hsegments)

/-- References have the same column, or the same error, if their paths have the same answers. -/
theorem agreeOn_of_answers {r : Residual} (h : ∀ path ∈ r.paths, s.answer path = s'.answer path) :
    AgreeOn s s' r.references := by
  intro segments hsegments
  rw [reference_eq, reference_eq]
  cases hpath : Path.ofRef segments with
  | error e => rfl
  | ok path =>
    have hmem : path ∈ r.paths := List.mem_filterMap.2 ⟨segments, hsegments, by rw [hpath]; rfl⟩
    simp only [h path hmem]

/-! ## From references to residuals -/

theorem terms_congr {ts : List Term} (h : ∀ t ∈ ts, term s t = term s' t) :
    terms s ts = terms s' ts := by
  rw [terms_eq, terms_eq]
  exact List.map_congr_left fun t ht => by rw [h t ht]

/-- **A term compiles to the same if its references do.** -/
theorem term_congr {t : Term} (h : AgreeOn s s' t.references) : term s t = term s' t := by
  induction t using Term.induct with
  | ref segments => exact h segments List.mem_cons_self
  | array es ih =>
    have hes : ∀ e ∈ es, term s e = term s' e :=
      fun e he => ih e he (h.mono (Term.references_subset_of_mem he))
    rw [term, term, terms_congr hes]
  | set es ih =>
    have hes : ∀ e ∈ es, term s e = term s' e :=
      fun e he => ih e he (h.mono (Term.references_subset_of_mem he))
    rw [term, term, terms_congr hes]
  | call ts ih =>
    cases ts with
    | nil => rfl
    | cons op arguments =>
      have harguments : ∀ t ∈ arguments, term s t = term s' t := fun t ht =>
        ih t (List.mem_cons_of_mem op ht) (h.mono (Term.references_subset_of_mem ht))
      rw [term, term, call, call, terms_congr harguments]
  | _ => rfl

theorem condition_congr {c : Condition} (h : AgreeOn s s' c.references) :
    condition s c = condition s' c := by
  rw [condition_eq, condition_eq]
  cases c with
  | call ts => exact term_congr (t := .call ts) h
  | term t => exact term_congr h

theorem expression_congr {e : Expression} (h : AgreeOn s s' e.condition.references) :
    expression s e = expression s' e := by
  rw [expression_eq, expression_eq, condition_congr h]

theorem expressions_congr {es : List Expression}
    (h : ∀ e ∈ es, AgreeOn s s' e.condition.references) : expressions s es = expressions s' es := by
  induction es with
  | nil => rfl
  | cons e es ih =>
    rw [List.forall_mem_cons] at h
    rw [expressions, expressions, expression_congr h.1, ih h.2]

theorem queries_congr {qs : List Query}
    (h : ∀ q ∈ qs, ∀ e ∈ q, AgreeOn s s' e.condition.references) :
    queries s qs = queries s' qs := by
  induction qs with
  | nil => rfl
  | cons q qs ih =>
    rw [List.forall_mem_cons] at h
    rw [queries, queries, query, query, expressions_congr h.1, ih h.2]

/-- **A residual compiles to the same if its references do.** -/
theorem sql_congr {r : Residual} (h : AgreeOn s s' r.references) : sql s r = sql s' r := by
  have hqueries : queries s r = queries s' r := queries_congr fun q hq e he =>
    h.mono fun segments hsegments =>
      List.mem_flatMap_of_mem hq (List.mem_flatMap_of_mem he hsegments)
  rw [sql, sql, predicate, predicate, hqueries]

end Compile

/-! ## Leaving out groups -/

theorem Resolver.resolveFirst_cons (r : Resolver) (rs : List Resolver) (path : Path) :
    resolveFirst (r :: rs) path = (r.resolve path).or (resolveFirst rs path) := by
  rw [resolveFirst, resolveFirst, first, List.findSome?_cons]
  cases r.resolve path <;> rfl

namespace Registry

variable {reg : Registry} {path : Path}

/-- **The first entry that knows a path**, in the order of registration. -/
def firstKnowing (reg : Registry) (path : Path) : Option (String × Resolver) :=
  reg.find? fun entry => (entry.2.resolve path).isSome

/-- **As long as the first resolver that knows a path is kept, it decides**, whatever else is left
out. -/
theorem resolveFirst_filter {keep : String × Resolver → Bool}
    (h : ∀ entry, reg.firstKnowing path = some entry → keep entry = true) :
    Resolver.resolveFirst ((reg.filter keep).map Prod.snd) path =
      Resolver.resolveFirst (reg.map Prod.snd) path := by
  induction reg with
  | nil => rfl
  | cons entry reg ih =>
    rw [firstKnowing, List.find?_cons] at h
    rw [List.map_cons, Resolver.resolveFirst_cons]
    cases hresolve : entry.2.resolve path with
    | some n =>
      have hkeep : keep entry = true := h entry (by rw [hresolve]; rfl)
      rw [List.filter_cons_of_pos hkeep, List.map_cons, Resolver.resolveFirst_cons, hresolve,
        Option.some_or, Option.some_or]
    | none =>
      simp only [hresolve, Option.isSome_none] at h
      rw [Option.none_or, ← ih h]
      by_cases hkeep : keep entry = true
      · rw [List.filter_cons_of_pos hkeep, List.map_cons, Resolver.resolveFirst_cons, hresolve,
          Option.none_or]
      · rw [List.filter_cons_of_neg hkeep]

theorem mem_groups {name : String} : name ∈ reg.groups ↔ ∃ entry ∈ reg, entry.1 = name := by
  -- the names found so far stay in the list
  suffices hfrom : ∀ names : List String,
      name ∈ reg.foldl (fun names entry =>
        if names.contains entry.1 then names else names ++ [entry.1]) names ↔
      name ∈ names ∨ ∃ entry ∈ reg, entry.1 = name by
    simpa [groups] using hfrom []
  induction reg with
  | nil => simp
  | cons entry reg ih =>
    intro names
    rw [List.foldl_cons, ih]
    by_cases hknown : entry.1 ∈ names
    · rw [if_pos (by simpa using hknown)]
      simp only [List.mem_cons, exists_eq_or_imp]
      constructor
      · exact fun h => h.imp_right .inr
      · rintro (h | rfl | h)
        · exact .inl h
        · exact .inl hknown
        · exact .inr h
    · rw [if_neg (by simpa using hknown)]
      simp only [List.mem_append, List.mem_cons, List.not_mem_nil, or_false, exists_eq_or_imp,
        or_assoc, @eq_comm _ name]

/-- The groups that are not left out can as well be picked, in any order. -/
theorem including_eq_excluding {included excluded : List String}
    (h : ∀ name ∈ reg.groups, name ∈ included ↔ name ∉ excluded) :
    reg.including included = reg.excluding excluded := by
  rw [including, excluding]
  refine congrArg (List.map Prod.snd) (List.filter_congr fun entry hentry => ?_)
  have hname := h entry.1 (mem_groups.2 ⟨entry, hentry, rfl⟩)
  by_cases hincluded : entry.1 ∈ included
  · simp [hincluded, hname.1 hincluded]
  · simp [hincluded, not_not.1 fun hexcluded => hincluded (hname.2 hexcluded)]

theorem excluding_nil : reg.excluding [] = reg.map Prod.snd := by
  simp [excluding]

end Registry

namespace Compile

/-- **Groups that a residual does not use make no difference.**  Settings that give the same answers
to the paths of a residual compile it to the same SQL or the same error.  In particular, some groups
can be left out if each path is known first to a resolver of another group, or to none at all.  The
outcome is the same as with all groups, and the same as if the other groups had been picked by their
names, in any order and any number of times. -/
theorem sql_of_same_answers :
    (∀ (s s' : Settings) (r : Residual), (∀ path ∈ r.paths, s.answer path = s'.answer path) →
      sql s r = sql s' r) ∧
    ∀ (reg : Registry) (excluded : List String) (r : Residual),
      (∀ path ∈ r.paths,
        (∃ entry, reg.firstKnowing path = some entry ∧ entry.1 ∉ excluded) ∨
          ∀ entry ∈ reg, entry.2.resolve path = none) →
      let sqlBy := fun rs => sql { resolvers := some rs } r
      sqlBy (reg.excluding excluded) = sqlBy (reg.excluding []) ∧
      sqlBy (reg.excluding excluded) = sqlBy (reg.including reg.groups) ∧
      ∀ included, (∀ name ∈ reg.groups, name ∈ included ↔ name ∉ excluded) →
        sqlBy (reg.excluding excluded) = sqlBy (reg.including included) := by
  refine ⟨fun s s' r h => sql_congr (agreeOn_of_answers h), ?_⟩
  intro reg excluded r h sqlBy
  have hall : sqlBy (reg.excluding excluded) = sqlBy (reg.excluding []) := by
    refine sql_congr (agreeOn_of_answers fun path hpath => congrArg some ?_)
    rw [Registry.excluding_nil]
    refine Registry.resolveFirst_filter ?_
    intro entry hentry
    rcases h path hpath with ⟨first, hfirst, hkept⟩ | hnone
    · obtain rfl := Option.some.inj (hfirst.symm.trans hentry)
      simpa using hkept
    · have hknows := List.find?_some hentry
      rw [hnone entry (List.mem_of_find?_eq_some hentry)] at hknows
      cases hknows
  refine ⟨hall, ?_, fun included hincluded => ?_⟩
  · have hgroups : ∀ name ∈ reg.groups, name ∈ reg.groups ↔ name ∉ ([] : List String) :=
      fun name hname => iff_of_true hname List.not_mem_nil
    rw [hall, Registry.including_eq_excluding hgroups]
  · rw [Registry.including_eq_excluding hincluded]

/-- Two owners, an old one behind the new one, and access lists. -/
def owners : Registry :=
  [("core", .ofColumn "input.owner" "owner" .string),
   ("legacy", .ofColumn "input.owner" "old_owner" .string),
   ("acl", .ofAccessList "input.groups" "groups")]

/-- The owner of something. -/
def owned : Query :=
  [.ofCall "eq" [.ref [.var "input", .string "owner"], .string "ann"]]

/-- Somebody of whom no resolver knows. -/
def inherited : Query :=
  [.ofCall "eq" [.ref [.var "input", .string "heir"], .string "bob"]]

/-- The old owner is not asked for, since the new one is known first; nor are the access lists.  So
the column of the new owner is all that is needed, for the SQL of one residual and for the error of
another. -/
theorem sql_of_same_answers_owners :
    let core : Settings := { resolvers := some [.ofColumn "input.owner" "owner" .string] }
    let withoutLegacy : Settings := { resolvers := some (owners.excluding ["legacy"]) }
    let included : Settings := { resolvers := some (owners.including ["acl", "core", "acl"]) }
    (∀ path ∈ Residual.paths [owned, inherited], core.answer path = withoutLegacy.answer path) ∧
    (∀ path ∈ Residual.paths [owned, inherited],
      (∃ entry, owners.firstKnowing path = some entry ∧ entry.1 ∉ ["legacy"]) ∨
        ∀ entry ∈ owners, entry.2.resolve path = none) ∧
    (∀ name ∈ owners.groups, name ∈ ["acl", "core", "acl"] ↔ name ∉ ["legacy"]) ∧
    sql core [owned, inherited] = sql withoutLegacy [owned, inherited] ∧
    sql withoutLegacy [owned, inherited] = sql included [owned, inherited] ∧
    sql core [owned] = .ok "owner = 'ann'" ∧
    sql withoutLegacy [owned] = .ok "owner = 'ann'" ∧
    sql included [owned] = .ok "owner = 'ann'" := by
  intro core withoutLegacy included
  have hanswers : ∀ path ∈ Residual.paths [owned, inherited],
      core.answer path = withoutLegacy.answer path := by
    intro path hpath
    rcases List.mem_cons.1 hpath with rfl | hpath
    · rfl
    · obtain rfl := List.mem_singleton.1 hpath
      rfl
  have hpaths : ∀ path ∈ Residual.paths [owned, inherited],
      (∃ entry, owners.firstKnowing path = some entry ∧ entry.1 ∉ ["legacy"]) ∨
        ∀ entry ∈ owners, entry.2.resolve path = none := by
    intro path hpath
    rcases List.mem_cons.1 hpath with rfl | hpath
    · exact .inl ⟨("core", .ofColumn "input.owner" "owner" .string), rfl, by decide⟩
    · obtain rfl := List.mem_singleton.1 hpath
      refine .inr fun entry hentry => ?_
      simp only [owners, List.mem_cons, List.not_mem_nil, or_false] at hentry
      rcases hentry with rfl | rfl | rfl <;> rfl
  have hnames : ∀ name ∈ owners.groups, name ∈ ["acl", "core", "acl"] ↔ name ∉ ["legacy"] := by
    decide
  have howned : Residual.paths [owned] ⊆ Residual.paths [owned, inherited] :=
    fun path hpath => List.mem_append_left _ hpath
  have hcore : sql core [owned] = .ok "owner = 'ann'" := rfl
  have hwithout : sql core [owned] = sql withoutLegacy [owned] :=
    sql_of_same_answers.1 _ _ _ fun path h => hanswers path (howned h)
  have hincluded : sql withoutLegacy [owned] = sql included [owned] :=
    (sql_of_same_answers.2 owners ["legacy"] _ fun path h => hpaths path (howned h)).2.2 _ hnames
  exact ⟨hanswers, hpaths, hnames, sql_of_same_answers.1 _ _ _ hanswers,
    (sql_of_same_answers.2 owners ["legacy"] _ hpaths).2.2 _ hnames, hcore,
    hwithout.symm.trans hcore, hincluded.symm.trans (hwithout.symm.trans hcore)⟩

end Compile

end RowFilter
