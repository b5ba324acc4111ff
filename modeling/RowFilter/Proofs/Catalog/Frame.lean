import RowFilter.Proofs.Catalog.Canonical
import RowFilter.Proofs.Catalog.LongestMatch

/-!
# What a declaration leaves as it was

Insertion makes the nodes of its path as it reaches them, and it has no way to take them back.  It
never needs one.  A node that has just been made is empty, and an empty node neither has a
declaration nor children that stand in the way, so once insertion leaves the nodes that were there
before, it is accepted.  All that a refused declaration has passed through are nodes that it puts
back as they were, and for the trie to be the same afterwards its children only have to be in the
order of their keys.

An accepted declaration is seen by the lookups that come through its node and find nothing below it.
All other lookups answer what they answered before.

* `Trie.Ordered` — the children of every node ascend.  `Catalog.Session.ordered_run`: they do so
  after any calls.
* `Trie.eq_of_refused` — a refused declaration changes nothing.
* `Trie.reach_of_accepted` — which lookups see an accepted one.
* `Catalog.insert_frame` — both, for catalogs.
-/

set_option autoImplicit false

namespace RowFilter

namespace Trie

variable {d : Declaration} {k : Option String} {s : Segment} {rest path query : Path}
  {t t' c : Trie}

/-! ## Children in order -/

/-- **The children of every node are in ascending order of their keys.** -/
inductive Ordered : Trie → Prop
  | intro {t : Trie} (hascending : Ascending t.named)
      (hbelow : ∀ k c, t.step k = some c → c.Ordered) : Ordered t

/-- Putting back the child that is there changes nothing. -/
theorem Ascending.put_of_lookup {key : String} {ns : List (String × Trie)} (h : Ascending ns)
    (hc : ns.lookup key = some c) : Trie.put key c ns = ns := by
  refine (h.put key c).eq_of_lookup h fun l => ?_
  rw [lookup_put]
  by_cases hl : l = key
  · rw [if_pos hl, hl, hc]
  · rw [if_neg hl]

namespace Ordered

theorem empty : Trie.empty.Ordered :=
  .intro .nil fun k c hc => by cases k <;> simp [step, Trie.empty, named, wildcard] at hc

theorem ascending (h : t.Ordered) : Ascending t.named := by
  cases h with
  | intro hascending _ => exact hascending

theorem of_step (h : t.Ordered) (hc : t.step k = some c) : c.Ordered := by
  cases h with
  | intro _ hbelow => exact hbelow k c hc

theorem getD_step (h : t.Ordered) (k : Option String) :
    ((t.step k).getD Trie.empty).Ordered := by
  cases hc : t.step k with
  | none => exact empty
  | some c => exact h.of_step hc

theorem replace (h : t.Ordered) (hadmits : t.Admits k) (hc : c.Ordered) :
    (t.replace c k).Ordered := by
  refine .intro ?_ fun l b hb => ?_
  · cases k with
    | none => exact .nil
    | some key => exact h.ascending.put key c
  · rw [step_replace hadmits] at hb
    split at hb
    · exact Option.some.inj hb ▸ hc
    · exact h.of_step hb

/-- Insertion keeps the children in order, whether it is accepted or not. -/
theorem insert (h : t.Ordered) (d : Declaration) (path : Path) :
    (Trie.insert d path t).2.Ordered := by
  induction path generalizing t with
  | nil =>
    rw [Trie.insert]
    split
    · exact h
    · exact .intro h.ascending fun k c hc => h.of_step (k := k) (by cases k <;> exact hc)
  | cons s rest ih =>
    by_cases hadmits : t.Admits s.key
    · rw [insert_cons_of_admits hadmits]
      exact h.replace hadmits (ih (h.getD_step s.key))
    · rw [insert_cons_of_not_admits hadmits]
      exact h

theorem replace_of_step (h : t.Ordered) (hadmits : t.Admits k) (hc : t.step k = some c) :
    t.replace c k = t := by
  obtain ⟨d, ns, w⟩ := t
  cases k with
  | none =>
    obtain rfl : ns = [] := hadmits
    obtain rfl : w = some c := hc
    rfl
  | some key =>
    obtain rfl : w = none := hadmits
    exact congrArg (node d · none) (h.ascending.put_of_lookup hc)

end Ordered

/-! ## Refused declarations -/

/-- Nothing stands in the way of a declaration in an empty trie. -/
theorem isOk_insert_empty (d : Declaration) (path : Path) :
    (insert d path empty).1.isOk = true := by
  induction path with
  | nil => rfl
  | cons s rest ih =>
    have hadmits : empty.Admits s.key := by cases s.key <;> rfl
    have hstep : empty.step s.key = none := by cases s.key <;> rfl
    rw [insert_cons_of_admits hadmits, hstep]
    exact ih

/-- **A refused declaration changes nothing.** -/
theorem eq_of_refused (h : t.Ordered) {refusal : Refusal}
    (hinsert : insert d path t = (.error refusal, t')) : t' = t := by
  induction path generalizing t t' with
  | nil =>
    rw [insert] at hinsert
    split at hinsert
    · exact (congrArg Prod.snd hinsert).symm
    · cases congrArg Prod.fst hinsert
  | cons s rest ih =>
    by_cases hadmits : t.Admits s.key
    · rw [insert_cons_of_admits hadmits] at hinsert
      obtain ⟨hrefused, rfl⟩ := Prod.mk.inj hinsert
      cases hc : t.step s.key with
      | none =>
        -- The child would be new, and a new node refuses nothing.
        have hok := isOk_insert_empty d rest
        rw [hc, Option.getD_none] at hrefused
        rw [hrefused] at hok
        cases hok
      | some c =>
        rw [hc, Option.getD_some] at hrefused
        have hsame : (insert d rest c).2 = c := ih (h.of_step hc) (Prod.ext hrefused rfl)
        rw [Option.getD_some, hsame]
        exact h.replace_of_step hadmits hc
    · rw [insert_cons_of_not_admits hadmits] at hinsert
      exact (congrArg Prod.snd hinsert).symm

/-! ## Accepted declarations -/

/-- The deepest declaration on the way of a path, where that of the trie itself counts too. -/
def reach (t : Trie) (path : Path) : Option Found :=
  (t.find path).or (t.declaration.map fun d => { declaration := d, depth := 0 })

/-- What is found, one step further down. -/
def Found.deeper (f : Found) : Found :=
  { f with depth := f.depth + 1 }

theorem find_cons (t : Trie) (s : Segment) (rest : Path) :
    t.find (s :: rest) = (t.child s).bind fun c => (c.reach rest).map Found.deeper := by
  rw [find]
  cases t.child s with
  | none => rfl
  | some c =>
    simp only [Option.bind_some, reach]
    cases c.find rest with
    | none => cases c.declaration <;> rfl
    | some f => rfl

theorem reach_empty (path : Path) : empty.reach path = none := by
  have hfind : empty.find path = none := by
    cases path with
    | nil => rfl
    | cons s rest =>
      have hchild : empty.child s = none := by
        rw [child]
        cases s.key <;> rfl
      rw [find_cons, hchild, Option.bind_none]
  rw [reach, hfind]
  rfl

/-- A step that the keys of one kind cover leads to a child of that kind. -/
theorem child_of_isUnder (hadmits : t.Admits k) (hs : s.isUnder k = true) :
    t.child s = t.step k := by
  cases k with
  | none =>
    have hlookup : (s.key.bind fun key => t.named.lookup key) = none := by
      rw [show t.named = [] from hadmits]
      exact Option.bind_fun_none s.key
    rw [child, hlookup]
    rfl
  | some key =>
    rw [child, show s.key = some key from beq_iff_eq.1 hs, Option.bind_some, step,
      show t.wildcard = none from hadmits]
    cases t.named.lookup key <;> rfl

theorem child_replace_of_not_isUnder (hadmits : t.Admits k) (hs : s.isUnder k = false) :
    (t.replace c k).child s = t.child s := by
  cases k with
  | none => cases hs
  | some key =>
    have hne : s.key ≠ some key := by simpa [Segment.isUnder] using hs
    have hlookup : (s.key.bind fun l => (put key c t.named).lookup l) =
        s.key.bind fun l => t.named.lookup l := by
      cases hkey : s.key with
      | none => rfl
      | some l =>
        have hl : l ≠ key := fun hl => hne (hl ▸ hkey)
        rw [Option.bind_some, Option.bind_some, lookup_put, if_neg hl]
    rw [child, child, replace, named, hlookup, show t.wildcard = none from hadmits]
    rfl

theorem find_of_isUnder (hadmits : t.Admits k) (hs : s.isUnder k = true) :
    t.find (s :: rest) = (((t.step k).getD empty).reach rest).map Found.deeper := by
  rw [find_cons, child_of_isUnder hadmits hs]
  cases t.step k with
  | none => rw [Option.getD_none, reach_empty, Option.bind_none, Option.map_none]
  | some c => rfl

/-- What a path leads to once `d` is declared at the keys `ks`: to `d`, if it covers the path and
nothing that lies as deep did so before, and otherwise to what it led to. -/
def overlaid (query : Path) (d : Declaration) (ks : List (Option String))
    (before : Option Found) : Option Found :=
  if query.isUnder ks && before.all fun f => decide (f.depth < ks.length)
  then some { declaration := d, depth := ks.length } else before

/-- The declaration of the trie itself lies above any that is declared at some key. -/
theorem overlaid_or (query : Path) (d : Declaration) (k : Option String)
    (ks : List (Option String)) (found : Option Found) (own : Option Declaration) :
    (overlaid query d (k :: ks) found).or (own.map fun d => { declaration := d, depth := 0 }) =
      overlaid query d (k :: ks)
        (found.or (own.map fun d => { declaration := d, depth := 0 })) := by
  simp only [overlaid]
  cases query.isUnder (k :: ks) with
  | false => simp
  | true =>
    cases found with
    | none => cases own <;> simp
    | some f =>
      rw [Option.some_or]
      split <;> rfl

/-- What becomes of the paths through a child, becomes of them at its parent. -/
theorem find_replace {ks : List (Option String)} (hadmits : t.Admits k)
    (hbelow : ∀ query, c.reach query = overlaid query d ks (((t.step k).getD empty).reach query))
    (query : Path) : (t.replace c k).find query = overlaid query d (k :: ks) (t.find query) := by
  cases query with
  | nil => rfl
  | cons s query =>
    rw [overlaid, Path.isUnder]
    cases hs : s.isUnder k with
    | false =>
      rw [find_cons, find_cons, child_replace_of_not_isUnder hadmits hs]
      simp
    | true =>
      have hadmits' : (t.replace c k).Admits k := by cases k <;> rfl
      rw [find_of_isUnder hadmits' hs, find_of_isUnder hadmits hs, step_replace hadmits,
        if_pos rfl, Option.getD_some, hbelow query, overlaid]
      cases Path.isUnder query ks with
      | false => simp
      | true =>
        cases ((t.step k).getD empty).reach query with
        | none => simp [Found.deeper]
        | some f => by_cases hf : f.depth < ks.length <;> simp [Found.deeper, hf]

/-- **What a path leads to after a declaration is accepted.** -/
theorem reach_of_accepted (hinsert : insert d path t = (.ok (), t')) (query : Path) :
    t'.reach query = overlaid query d path.keys (t.reach query) := by
  induction path generalizing t t' query with
  | nil =>
    rw [insert] at hinsert
    split at hinsert
    · cases congrArg Prod.fst hinsert
    · next hnone =>
      obtain rfl := congrArg Prod.snd hinsert
      have hfind : (node (some d) t.named t.wildcard).find query = t.find query := by
        cases query with
        | nil => rfl
        | cons s rest => rw [find_cons, find_cons]; rfl
      rw [reach, reach, hfind, hnone]
      cases t.find query with
      | none => simp [overlaid, Path.keys, Path.isUnder_nil, declaration]
      | some f => simp [overlaid, Path.keys]
  | cons s rest ih =>
    by_cases hadmits : t.Admits s.key
    · rw [insert_cons_of_admits hadmits] at hinsert
      obtain ⟨hok, rfl⟩ := Prod.mk.inj hinsert
      have hfind := find_replace hadmits (ih (Prod.ext hok rfl)) query
      rw [reach, reach, declaration_replace, hfind, Path.keys_cons]
      exact overlaid_or query d s.key (Path.keys rest) (t.find query) t.declaration
    · rw [insert_cons_of_not_admits hadmits] at hinsert
      cases congrArg Prod.fst hinsert

/-- The same for a lookup, which does not look at the trie itself. -/
theorem find_of_accepted (hinsert : insert d path t = (.ok (), t')) (hpath : path ≠ [])
    (query : Path) : t'.find query = overlaid query d path.keys (t.find query) := by
  obtain ⟨s, rest, rfl⟩ := List.exists_cons_of_ne_nil hpath
  by_cases hadmits : t.Admits s.key
  · rw [insert_cons_of_admits hadmits] at hinsert
    obtain ⟨hok, rfl⟩ := Prod.mk.inj hinsert
    exact find_replace hadmits (reach_of_accepted (Prod.ext hok rfl)) query
  · rw [insert_cons_of_not_admits hadmits] at hinsert
    cases congrArg Prod.fst hinsert

end Trie

namespace Catalog

variable {c c' : Catalog} {path : Path} {d : Declaration}

/-- An accepted declaration is accepted by the trie. -/
theorem insert_eq_ok (hinsert : c.insert path d = (.ok (), c')) :
    path ≠ [] ∧ c.root.insert d path = (.ok (), c'.root) ∧ c'.size = c.size + 1 := by
  rcases c.insert_cases path d with ⟨-, hcall⟩ | ⟨root, hpath, haccepted, hcall⟩ |
    ⟨refusal, root, e, -, hcall⟩
  · cases hcall.symm.trans hinsert
  · cases hcall.symm.trans hinsert
    exact ⟨hpath, haccepted, rfl⟩
  · cases hcall.symm.trans hinsert

/-- A refused declaration leaves a catalog as it was. -/
theorem eq_of_insert_error (h : c.root.Ordered) {e : CatalogError}
    (hinsert : c.insert path d = (.error e, c')) : c' = c := by
  rcases c.insert_cases path d with ⟨-, hcall⟩ | ⟨root, -, -, hcall⟩ |
    ⟨refusal, root, e', hrefused, hcall⟩
  · cases hcall.symm.trans hinsert
    rfl
  · cases hcall.symm.trans hinsert
  · cases hcall.symm.trans hinsert
    rw [Trie.eq_of_refused h hrefused]

/-- Insertion into a catalog keeps its children in order. -/
theorem ordered_insert (h : c.root.Ordered) (path : Path) (d : Declaration) :
    (c.insert path d).2.root.Ordered := by
  rcases hinsert : c.insert path d with ⟨e | _, c'⟩
  · rwa [eq_of_insert_error h hinsert]
  · have hroot := h.insert d path
    rwa [(insert_eq_ok hinsert).2.1] at hroot

/-- How many steps of the path a lookup matches. -/
def depth? (c : Catalog) (query : Path) : Option Nat :=
  (c.lookup query).map fun m => m.matched.length

/-- The steps up to what is found are as many as it lies deep. -/
theorem depth?_eq (c : Catalog) (query : Path) :
    c.depth? query = (c.root.find query).map Trie.Found.depth := by
  rw [depth?, lookup]
  cases hf : c.root.find query with
  | none => rfl
  | some f =>
    obtain ⟨ks, hreaches, hlength, -⟩ := Trie.reaches_of_find hf
    have hle := Path.length_le_of_isUnder hreaches.isUnder
    simp [List.length_take, Nat.min_eq_left (hlength ▸ hle)]

theorem all_lookup (c : Catalog) (query : Path) (p : Nat → Bool) :
    ((c.lookup query).all fun m => p m.matched.length) =
      (c.root.find query).all fun f => p f.depth := by
  have hdepth := congrArg (Option.all p) (c.depth?_eq query)
  rwa [depth?, Option.all_map, Option.all_map] at hdepth

/-- A lookup after an accepted declaration. -/
theorem lookup_of_insert_ok (hinsert : c.insert path d = (.ok (), c')) (query : Path) :
    c'.lookup query =
      if query.isUnder path.keys &&
          (c.lookup query).all fun m => decide (m.matched.length < path.length)
      then some { declaration := d, matched := query.take path.length,
                  rest := query.drop path.length }
      else c.lookup query := by
  obtain ⟨hpath, haccepted, -⟩ := insert_eq_ok hinsert
  rw [c.all_lookup query fun n => decide (n < path.length), lookup,
    Trie.find_of_accepted haccepted hpath query, Trie.overlaid, Path.length_keys]
  split <;> rfl

namespace Session

variable {s : Session}

theorem ordered_step (h : s.catalog.root.Ordered) (call : Call) :
    (s.step call).catalog.root.Ordered := by
  cases call with
  | insert path d =>
    have hinsert := ordered_insert h path d
    rw [step]
    rcases hcall : s.catalog.insert path d with ⟨_ | _, c⟩ <;> rwa [hcall] at hinsert
  | declare path d =>
    have hinsert := ordered_insert h (Path.ofDotted path) d
    rw [step, Catalog.declare]
    rcases hcall : s.catalog.insert (Path.ofDotted path) d with ⟨_ | _, c⟩
    · exact h
    · rwa [hcall] at hinsert

/-- **The children of every node are in order after any calls.** -/
theorem ordered_run (calls : List Call) : (run calls).catalog.root.Ordered := by
  suffices hfrom : ∀ s : Session, s.catalog.root.Ordered →
      (calls.foldl step s).catalog.root.Ordered from hfrom {} .empty
  induction calls with
  | nil => exact fun _ hs => hs
  | cons call calls ih => exact fun s hs => ih (s.step call) (ordered_step hs call)

/-- A call that is refused might as well not have been made. -/
theorem step_of_refused (h : s.catalog.root.Ordered) {e : CatalogError} {path : Path}
    {d : Declaration} (hrefused : (s.catalog.insert path d).1 = .error e) :
    s.step (.insert path d) = s := by
  have hinsert : s.catalog.insert path d = (.error e, (s.catalog.insert path d).2) :=
    Prod.ext hrefused rfl
  rw [step, hinsert, eq_of_insert_error h hinsert]

end Session

/-- **A refused declaration changes nothing, and an accepted one only what it covers.**  The first
part says that the children of every catalog are in order.  Of a catalog that is in order, a refused
declaration leaves everything as it was, so that all later calls end as if it had not been asked
for.  After an accepted one there is one declaration more; a lookup answers with it if it covers the
path and lies deeper than the answer before, and answers as before if not. -/
theorem insert_frame (path : Path) (d : Declaration) :
    (∀ calls, (Session.run calls).catalog.root.Ordered) ∧
    (∀ calls later e, ((Session.run calls).catalog.insert path d).1 = .error e →
      Session.run (calls ++ .insert path d :: later) = Session.run (calls ++ later)) ∧
    ∀ c : Catalog, c.root.Ordered →
      (∀ e c', c.insert path d = (.error e, c') → c' = c) ∧
      ∀ c', c.insert path d = (.ok (), c') → c'.root.Ordered ∧ c'.size = c.size + 1 ∧
        ∀ query, c'.lookup query =
          if query.isUnder path.keys &&
              (c.lookup query).all fun m => decide (m.matched.length < path.length)
          then some { declaration := d, matched := query.take path.length,
                      rest := query.drop path.length }
          else c.lookup query := by
  refine ⟨Session.ordered_run, fun calls later e hrefused => ?_, fun c h =>
    ⟨fun e c' => eq_of_insert_error h, fun c' hinsert => ?_⟩⟩
  · have hstep := Session.step_of_refused (Session.ordered_run calls) hrefused
    rw [Session.run, Session.run, List.foldl_append, List.foldl_append, List.foldl_cons]
    exact congrArg (later.foldl Session.step) hstep
  · have hordered := ordered_insert h path d
    rw [hinsert] at hordered
    exact ⟨hordered, (insert_eq_ok hinsert).2.2, lookup_of_insert_ok hinsert⟩

end Catalog

end RowFilter
