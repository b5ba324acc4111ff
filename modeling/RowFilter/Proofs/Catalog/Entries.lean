import RowFilter.Catalog.Basic

/-!
# The entries of a trie

A trie is a map from lists of keys to declarations, where a key is missing for the child that stands
for every key.  This file describes insertion by its effect on that map.  An accepted declaration
adds one entry and changes no other.  A refused one changes none.  In both cases no node comes to
have children by key and a child for every key.

* `Trie.entry` — the declaration at a list of keys.
* `Trie.Unambiguous` — no node has children of both kinds.
* `Trie.entry_insert`, `Trie.Unambiguous.insert` — insertion.
-/

set_option autoImplicit false

namespace RowFilter

/-- The keys of a path; the steps that iterate have none. -/
def Path.keys (path : Path) : List (Option String) :=
  path.map Segment.key

@[simp] theorem Path.keys_cons (s : Segment) (rest : Path) :
    Path.keys (s :: rest) = s.key :: Path.keys rest := rfl

@[simp] theorem Path.length_keys (path : Path) : path.keys.length = path.length :=
  List.length_map _

namespace Trie

/-- The child at a key, or the one that stands for every key. -/
def step (t : Trie) : Option String → Option Trie
  | some key => t.named.lookup key
  | none => t.wildcard

/-- **The declaration at a list of keys.** -/
def entry (t : Trie) : List (Option String) → Option Declaration
  | [] => t.declaration
  | k :: ks => (t.step k).bind fun c => c.entry ks

@[simp] theorem entry_nil (t : Trie) : t.entry [] = t.declaration := rfl

theorem entry_cons (t : Trie) (k : Option String) (ks : List (Option String)) :
    t.entry (k :: ks) = (t.step k).bind fun c => c.entry ks := rfl

@[simp] theorem entry_empty (ks : List (Option String)) : empty.entry ks = none := by
  cases ks with
  | nil => rfl
  | cons k ks => cases k <;> rfl

/-- A missing child has no entries, and neither has an empty one. -/
theorem entry_getD (c : Option Trie) (ks : List (Option String)) :
    (c.getD empty).entry ks = c.bind fun c => c.entry ks := by
  cases c with
  | none => exact entry_empty ks
  | some c => rfl

/-! ## Replacing a child -/

theorem lookup_cons_eq (k l : String) (t : Trie) (ns : List (String × Trie)) :
    ((l, t) :: ns).lookup k = if k = l then some t else ns.lookup k := by
  rw [List.lookup_cons]
  by_cases h : k = l
  · rw [beq_iff_eq.2 h, if_pos h]
  · rw [beq_eq_false_iff_ne.2 h, if_neg h]

theorem lookup_put (key k : String) (child : Trie) (ns : List (String × Trie)) :
    (put key child ns).lookup k = if k = key then some child else ns.lookup k := by
  induction ns with
  | nil => exact lookup_cons_eq k key child []
  | cons n ns ih =>
    obtain ⟨l, t⟩ := n
    rw [put]
    split
    · exact lookup_cons_eq k key child _
    · next heq =>
      obtain rfl : key = l := Std.LawfulEqOrd.eq_of_compare heq
      rw [lookup_cons_eq, lookup_cons_eq]
      split <;> rfl
    · next hgt =>
      have hne : key ≠ l := by
        rintro rfl
        simp at hgt
      rw [lookup_cons_eq, lookup_cons_eq, ih]
      by_cases h : k = key
      · rw [if_pos h, if_pos h, if_neg (h ▸ hne)]
      · rw [if_neg h, if_neg h]

theorem mem_put {key : String} {child : Trie} {ns : List (String × Trie)} {n : String × Trie}
    (h : n ∈ put key child ns) : n = (key, child) ∨ n ∈ ns := by
  induction ns with
  | nil => exact .inl (List.mem_singleton.1 h)
  | cons m ns ih =>
    obtain ⟨l, t⟩ := m
    rw [put] at h
    split at h
    · exact List.mem_cons.1 h
    · exact (List.mem_cons.1 h).imp_right (List.mem_cons_of_mem _)
    · rcases List.mem_cons.1 h with rfl | h
      · exact .inr List.mem_cons_self
      · exact (ih h).imp_right (List.mem_cons_of_mem _)

/-- Whether a child of the given kind can be added: there is none of the other kind. -/
def Admits (t : Trie) : Option String → Prop
  | some _ => t.wildcard = none
  | none => t.named = []

/-- The trie with one child replaced or added, and none of the other kind. -/
def replace (t : Trie) (c : Trie) : Option String → Trie
  | some key => node t.declaration (put key c t.named) none
  | none => node t.declaration [] (some c)

@[simp] theorem declaration_replace (t c : Trie) (k : Option String) :
    (t.replace c k).declaration = t.declaration := by
  cases k <;> rfl

theorem step_replace {t : Trie} {k : Option String} (h : t.Admits k) (c : Trie)
    (l : Option String) : (t.replace c k).step l = if l = k then some c else t.step l := by
  cases k with
  | none =>
    cases l with
    | none => rfl
    | some key =>
      have hstep : t.step (some key) = none := by
        rw [step, show t.named = [] from h]
        rfl
      rw [hstep]
      rfl
  | some key =>
    cases l with
    | none => exact (show t.wildcard = none from h).symm
    | some key' =>
      rw [replace, step, named, lookup_put]
      simp [step]

/-! ## Insertion -/

variable {d : Declaration} {s : Segment} {rest path : Path} {t : Trie}

theorem insert_cons_of_admits (h : t.Admits s.key) :
    insert d (s :: rest) t =
      ((insert d rest ((t.step s.key).getD empty)).1,
        t.replace (insert d rest ((t.step s.key).getD empty)).2 s.key) := by
  rw [insert]
  cases hkey : s.key with
  | none =>
    rw [hkey] at h
    rw [if_pos (by rw [show t.named = [] from h]; rfl)]
    rfl
  | some key =>
    rw [hkey] at h
    rw [show t.wildcard = none from h]
    rfl

theorem insert_cons_of_not_admits (h : ¬ t.Admits s.key) :
    insert d (s :: rest) t = (.error .ambiguous, t) := by
  rw [insert]
  cases hkey : s.key with
  | none =>
    rw [hkey] at h
    exact if_neg fun hempty => h (List.isEmpty_iff.1 hempty)
  | some key =>
    rw [hkey] at h
    cases hw : t.wildcard with
    | none => exact absurd hw h
    | some c => rfl

/-- **Insertion changes the entry of its path, if it is accepted, and no other.** -/
theorem entry_insert (d : Declaration) (path : Path) (t : Trie) (ks : List (Option String)) :
    (insert d path t).2.entry ks =
      if (insert d path t).1.isOk ∧ ks = path.keys then some d else t.entry ks := by
  induction path generalizing t ks with
  | nil =>
    rw [insert]
    cases hd : t.declaration with
    | some _ => simp [Except.isOk, Except.toBool]
    | none =>
      cases ks with
      | nil => rfl
      | cons k ks =>
        rw [if_neg fun hks => List.cons_ne_nil k ks hks.2]
        cases k <;> rfl
  | cons s rest ih =>
    by_cases h : t.Admits s.key
    · rw [insert_cons_of_admits h]
      cases ks with
      | nil => simp
      | cons k ks =>
        rw [entry_cons, entry_cons, step_replace h]
        by_cases hk : k = s.key
        · subst hk
          rw [if_pos rfl, Option.bind_some, ih, entry_getD]
          exact ite_congr (by rw [Path.keys_cons, List.cons_inj_right]) (fun _ => rfl) fun _ => rfl
        · rw [if_neg hk, if_neg fun hks => hk (List.cons.inj hks.2).1]
    · rw [insert_cons_of_not_admits h]
      simp [Except.isOk, Except.toBool]

/-- Only a path without a declaration is accepted. -/
theorem entry_of_insert (h : (insert d path t).1.isOk) : t.entry path.keys = none := by
  induction path generalizing t with
  | nil =>
    rw [insert] at h
    cases hd : t.declaration with
    | some _ => simp [hd, Except.isOk, Except.toBool] at h
    | none => exact hd
  | cons s rest ih =>
    by_cases hadmits : t.Admits s.key
    · rw [insert_cons_of_admits hadmits] at h
      have hchild := ih h
      rwa [entry_getD] at hchild
    · rw [insert_cons_of_not_admits hadmits] at h
      cases h

/-- A refused declaration changes no entry. -/
theorem entry_of_refused {refusal : Refusal} {root : Trie}
    (h : insert d path t = (.error refusal, root)) (ks : List (Option String)) :
    root.entry ks = t.entry ks := by
  have hentry := entry_insert d path t ks
  rw [h] at hentry
  rw [hentry, if_neg fun hok => by cases hok.1]

/-- An accepted declaration adds an entry to those that there are. -/
theorem entry_of_accepted {root : Trie} (h : insert d path t = (.ok (), root))
    {ks : List (Option String)} {d' : Declaration} :
    root.entry ks = some d' ↔ t.entry ks = some d' ∨ path.keys = ks ∧ d = d' := by
  have hnone : t.entry path.keys = none := entry_of_insert (d := d) (by rw [h]; rfl)
  have hentry := entry_insert d path t ks
  rw [h] at hentry
  rw [hentry]
  by_cases hks : path.keys = ks
  · subst hks
    rw [if_pos ⟨rfl, rfl⟩, hnone]
    simp
  · rw [if_neg fun hok => hks hok.2.symm]
    simp [hks]

/-! ## Children of one kind -/

/-- **No node has children by key and a child for every key.** -/
inductive Unambiguous : Trie → Prop
  | node {d : Option Declaration} {ns : List (String × Trie)} {w : Option Trie}
      (hkind : ns = [] ∨ w = none) (hnamed : ∀ n ∈ ns, n.2.Unambiguous)
      (hwildcard : ∀ c, w = some c → c.Unambiguous) : Unambiguous (node d ns w)

namespace Unambiguous

theorem empty : Trie.empty.Unambiguous :=
  node (.inl rfl) (fun _ hn => by cases hn) (fun _ hc => by cases hc)

theorem kind (h : t.Unambiguous) : t.named = [] ∨ t.wildcard = none := by
  cases h with
  | node hkind _ _ => exact hkind

theorem of_mem_named (h : t.Unambiguous) {n : String × Trie} (hn : n ∈ t.named) :
    n.2.Unambiguous := by
  cases h with
  | node _ hnamed _ => exact hnamed n hn

theorem of_step (h : t.Unambiguous) {k : Option String} {c : Trie} (hc : t.step k = some c) :
    c.Unambiguous := by
  cases h with
  | node _ hnamed hwildcard =>
    cases k with
    | none => exact hwildcard c hc
    | some key =>
      obtain ⟨ns₁, ns₂, rfl, -⟩ :=
        List.lookup_eq_some_iff.1 (show List.lookup key _ = some c from hc)
      exact hnamed (key, c) (by simp)

theorem getD_step (h : t.Unambiguous) (k : Option String) :
    ((t.step k).getD Trie.empty).Unambiguous := by
  cases hc : t.step k with
  | none => exact empty
  | some c => exact h.of_step hc

theorem replace (h : t.Unambiguous) {c : Trie} (hc : c.Unambiguous) (k : Option String) :
    (t.replace c k).Unambiguous := by
  cases k with
  | none => exact node (.inl rfl) (fun _ hn => by cases hn) (fun _ hw => Option.some.inj hw ▸ hc)
  | some key =>
    refine node (.inr rfl) (fun n hn => ?_) (fun _ hw => by cases hw)
    rcases mem_put hn with rfl | hn
    · exact hc
    · exact h.of_mem_named hn

/-- **Insertion keeps the children of every node of one kind, whether it is accepted or not.** -/
theorem insert (h : t.Unambiguous) (d : Declaration) (path : Path) :
    (Trie.insert d path t).2.Unambiguous := by
  induction path generalizing t with
  | nil =>
    rw [Trie.insert]
    split
    · exact h
    · cases h with
      | node hkind hnamed hwildcard => exact node hkind hnamed hwildcard
  | cons s rest ih =>
    by_cases hadmits : t.Admits s.key
    · rw [insert_cons_of_admits hadmits]
      exact h.replace (ih (h.getD_step s.key)) s.key
    · rw [insert_cons_of_not_admits hadmits]
      exact h

end Unambiguous

end Trie

end RowFilter
