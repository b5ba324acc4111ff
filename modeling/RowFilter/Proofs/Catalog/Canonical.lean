import RowFilter.Proofs.Catalog.Entries

/-!
# Tries without barren nodes

A trie is *tidy* if its children are in ascending order of their keys and of one kind, and if every
node below the root leads to some declaration.  Accepted declarations keep a trie tidy.

Tidiness settles two questions.  There is only one tidy trie with given entries, so it does not
matter in which way they came in.  And whether a declaration is accepted can be told from the
entries alone: a node with children of the other kind stands in the way only if some declared path
goes through it.

* `Path.Mixed` — two paths part where exactly one of them iterates.
* `Trie.Tidy.ext` — tidy tries with the same entries are equal.
* `Trie.Tidy.insert` — accepted declarations keep a trie tidy.
* `Trie.Tidy.isOk_insert_iff` — which declarations are accepted.
-/

set_option autoImplicit false

namespace RowFilter

/-! ## Paths that part -/

/-- **The keys of two paths agree up to a place where exactly one of them is missing**, which is
where one path iterates and the other does not. -/
def Path.Mixed (ks ls : List (Option String)) : Prop :=
  ∃ common k l ks' ls', ks = common ++ k :: ks' ∧ ls = common ++ l :: ls' ∧ k.isNone ≠ l.isNone

namespace Path

variable {k l : Option String} {ks ls : List (Option String)}

theorem Mixed.symm (h : Mixed ks ls) : Mixed ls ks := by
  obtain ⟨common, k, l, ks', ls', hks, hls, hne⟩ := h
  exact ⟨common, l, k, ls', ks', hls, hks, hne.symm⟩

theorem not_mixed_nil (ks : List (Option String)) : ¬ Mixed ks [] := by
  rintro ⟨common, k, l, ks', ls', -, hnil, -⟩
  exact List.append_ne_nil_of_right_ne_nil common (List.cons_ne_nil l ls') hnil.symm

theorem mixed_cons_cons_self : Mixed (k :: ks) (k :: ls) ↔ Mixed ks ls := by
  constructor
  · rintro ⟨_ | ⟨_, common⟩, l, l', ks', ls', hks, hls, hne⟩
    · cases hks
      cases hls
      exact absurd rfl hne
    · cases hks
      cases hls
      exact ⟨common, l, l', ks', ls', rfl, rfl, hne⟩
  · rintro ⟨common, l, l', ks', ls', rfl, rfl, hne⟩
    exact ⟨k :: common, l, l', ks', ls', rfl, rfl, hne⟩

theorem mixed_cons_cons_of_ne (h : k ≠ l) : Mixed (k :: ks) (l :: ls) ↔ k.isNone ≠ l.isNone := by
  constructor
  · rintro ⟨_ | ⟨_, common⟩, k', l', ks', ls', hks, hls, hne⟩
    · cases hks
      cases hls
      exact hne
    · exact absurd ((List.cons.inj hks).1.trans (List.cons.inj hls).1.symm) h
  · exact fun hne => ⟨[], k, l, ks, ls, rfl, rfl, hne⟩

end Path

namespace Trie

/-! ## Children in order -/

/-- The keys of the children ascend. -/
def Ascending (ns : List (String × Trie)) : Prop :=
  ns.Pairwise fun m n => compare m.1 n.1 = .lt

namespace Ascending

variable {key : String} {child : Trie} {ns ns' : List (String × Trie)}

theorem put (h : Ascending ns) (key : String) (child : Trie) :
    Ascending (Trie.put key child ns) := by
  induction h with
  | nil => exact List.pairwise_singleton _ _
  | @cons n ns hn hns ih =>
    obtain ⟨k, t⟩ := n
    rw [Trie.put]
    split
    · next hlt =>
      refine List.pairwise_cons.2 ⟨fun m hm => ?_, List.pairwise_cons.2 ⟨hn, hns⟩⟩
      rcases List.mem_cons.1 hm with rfl | hm
      · exact hlt
      · exact Std.TransCmp.lt_trans hlt (hn m hm)
    · next heq =>
      obtain rfl : key = k := Std.LawfulEqOrd.eq_of_compare heq
      exact List.pairwise_cons.2 ⟨hn, hns⟩
    · next hgt =>
      refine List.pairwise_cons.2 ⟨fun m hm => ?_, ih⟩
      rcases mem_put hm with rfl | hm
      · exact Std.OrientedCmp.lt_of_gt hgt
      · exact hn m hm

theorem lookup_eq_none (h : ∀ n ∈ ns, compare key n.1 = .lt) : ns.lookup key = none := by
  refine List.lookup_eq_none_iff.2 fun n hn => bne_iff_ne.2 ?_
  rintro rfl
  simpa using h n hn

/-- A key before the first one is missing. -/
theorem not_lt_of_lookup {n : String × Trie} (h : Ascending (n :: ns))
    (hlookup : (n :: ns).lookup key = some child) : compare key n.1 ≠ .lt := by
  intro hlt
  rw [lookup_eq_none] at hlookup
  · cases hlookup
  · refine List.forall_mem_cons.2 ⟨hlt, fun m hm => ?_⟩
    exact Std.TransCmp.lt_trans hlt (List.rel_of_pairwise_cons h hm)

/-- **Children in ascending order are known by what is found at each key.** -/
theorem eq_of_lookup (h : Ascending ns) (h' : Ascending ns')
    (hlookup : ∀ key, ns.lookup key = ns'.lookup key) : ns = ns' := by
  induction ns generalizing ns' with
  | nil =>
    cases ns' with
    | nil => rfl
    | cons n' ns' =>
      have hmissing := hlookup n'.1
      rw [lookup_cons_eq, if_pos rfl] at hmissing
      cases hmissing
  | cons n ns ih =>
    cases ns' with
    | nil =>
      have hmissing := hlookup n.1
      rw [lookup_cons_eq, if_pos rfl] at hmissing
      cases hmissing
    | cons n' ns' =>
      have hfirst : (n :: ns).lookup n.1 = some n.2 := by rw [lookup_cons_eq, if_pos rfl]
      have hfirst' : (n' :: ns').lookup n'.1 = some n'.2 := by rw [lookup_cons_eq, if_pos rfl]
      have hkey : n.1 = n'.1 := by
        have hle := not_lt_of_lookup h ((hlookup n'.1).trans hfirst')
        have hge := not_lt_of_lookup h' ((hlookup n.1).symm.trans hfirst)
        cases hcmp : compare n.1 n'.1 with
        | eq => exact Std.LawfulEqOrd.eq_of_compare hcmp
        | lt => exact absurd hcmp hge
        | gt => exact absurd (Std.OrientedCmp.lt_of_gt hcmp) hle
      have hchild : n.2 = n'.2 := by
        have hboth := hlookup n.1
        rw [hfirst, hkey, hfirst'] at hboth
        exact Option.some.inj hboth
      refine congr (congrArg _ (Prod.ext hkey hchild)) (ih h.of_cons h'.of_cons fun key => ?_)
      by_cases hk : key = n.1
      · rw [hk, lookup_eq_none fun m hm => List.rel_of_pairwise_cons h hm, hkey,
          lookup_eq_none fun m hm => List.rel_of_pairwise_cons h' hm]
      · have hrest := hlookup key
        rwa [lookup_cons_eq, lookup_cons_eq, if_neg hk, if_neg (hkey ▸ hk)] at hrest

end Ascending

/-! ## Tidiness -/

/-- Some path is declared. -/
def Bears (t : Trie) : Prop :=
  ∃ ks d, t.entry ks = some d

/-- **The children of every node are in order and of one kind, and lead to declarations.** -/
inductive Tidy : Trie → Prop
  | intro {t : Trie} (hkind : t.named = [] ∨ t.wildcard = none) (hascending : Ascending t.named)
      (htidy : ∀ k c, t.step k = some c → c.Tidy) (hbears : ∀ k c, t.step k = some c → c.Bears) :
      Tidy t

variable {d : Declaration} {k l : Option String} {s : Segment} {rest path : Path} {t t' c : Trie}

/-- A child of one kind admits no child of the other. -/
theorem isNone_eq_of_admits (h : t.Admits k) (hl : t.step l = some c) : l.isNone = k.isNone := by
  cases k with
  | none =>
    cases l with
    | none => rfl
    | some key => simp [step, show t.named = [] from h] at hl
  | some key =>
    cases l with
    | none => simp [step, show t.wildcard = none from h] at hl
    | some key' => rfl

theorem exists_step_of_not_admits (h : ¬ t.Admits k) :
    ∃ l c, t.step l = some c ∧ l.isNone ≠ k.isNone := by
  cases k with
  | none =>
    obtain ⟨⟨key, c⟩, ns, hns⟩ := List.exists_cons_of_ne_nil h
    exact ⟨some key, c, by simp [step, hns], by simp⟩
  | some key =>
    obtain ⟨c, hc⟩ := Option.ne_none_iff_exists'.1 h
    exact ⟨none, c, hc, by simp⟩

namespace Tidy

theorem empty : Trie.empty.Tidy :=
  .intro (.inl rfl) .nil (fun k _ hc => by cases k <;> cases hc)
    fun k _ hc => by cases k <;> cases hc

theorem kind (h : t.Tidy) : t.named = [] ∨ t.wildcard = none := by
  cases h with
  | intro hkind _ _ _ => exact hkind

theorem ascending (h : t.Tidy) : Ascending t.named := by
  cases h with
  | intro _ hascending _ _ => exact hascending

theorem of_step (h : t.Tidy) (hc : t.step k = some c) : c.Tidy := by
  cases h with
  | intro _ _ htidy _ => exact htidy k c hc

theorem bears_of_step (h : t.Tidy) (hc : t.step k = some c) : c.Bears := by
  cases h with
  | intro _ _ _ hbears => exact hbears k c hc

theorem getD_step (h : t.Tidy) (k : Option String) : ((t.step k).getD Trie.empty).Tidy := by
  cases hc : t.step k with
  | none => exact empty
  | some c => exact h.of_step hc

/-- A child has an entry that the trie has too. -/
theorem exists_entry_of_step (h : t.Tidy) (hc : t.step k = some c) :
    ∃ ks d, t.entry (k :: ks) = some d := by
  obtain ⟨ks, d, hd⟩ := h.bears_of_step hc
  exact ⟨ks, d, by rw [entry_cons, hc, Option.bind_some, hd]⟩

/-- **There is only one tidy trie with given entries.** -/
theorem ext (h : t.Tidy) (h' : t'.Tidy) (hentry : ∀ ks, t.entry ks = t'.entry ks) : t = t' := by
  induction h generalizing t' with
  | @intro t hkind hascending htidy hbears ih =>
    have ht : t.Tidy := .intro hkind hascending htidy hbears
    have hstep : ∀ k, t.step k = t'.step k := by
      intro k
      cases hc : t.step k with
      | none =>
        cases hc' : t'.step k with
        | none => rfl
        | some c' =>
          obtain ⟨ks, d, hd⟩ := h'.exists_entry_of_step hc'
          rw [← hentry, entry_cons, hc] at hd
          cases hd
      | some c =>
        obtain ⟨ks, d, hd⟩ := ht.exists_entry_of_step hc
        rw [hentry, entry_cons] at hd
        obtain ⟨c', hc', -⟩ := Option.bind_eq_some_iff.1 hd
        rw [hc', ih k c hc (h'.of_step hc') fun ks => ?_]
        have hks := hentry (k :: ks)
        rwa [entry_cons, entry_cons, hc, hc'] at hks
    have hnamed := hascending.eq_of_lookup h'.ascending fun key => hstep (some key)
    have hwildcard : t.wildcard = t'.wildcard := hstep none
    have hdeclaration : t.declaration = t'.declaration := hentry []
    cases t
    cases t'
    exact congr (congr (congrArg node hdeclaration) hnamed) hwildcard

/-! ## Accepted declarations -/

theorem replace (h : t.Tidy) (hadmits : t.Admits k) (hc : c.Tidy) (hbears : c.Bears) :
    (t.replace c k).Tidy := by
  have hchild : ∀ {P : Trie → Prop}, P c → (∀ l b, t.step l = some b → P b) →
      ∀ l b, (t.replace c k).step l = some b → P b := by
    intro P hP hstep l b hb
    rw [step_replace hadmits] at hb
    split at hb
    · exact Option.some.inj hb ▸ hP
    · exact hstep l b hb
  refine .intro ?_ ?_ (hchild hc fun _ _ => h.of_step) (hchild hbears fun _ _ => h.bears_of_step)
  · cases k with
    | none => exact .inl rfl
    | some key => exact .inr rfl
  · cases k with
    | none => exact .nil
    | some key => exact h.ascending.put key c

/-- **Accepted declarations keep a trie tidy.** -/
theorem insert (h : t.Tidy) (hinsert : t.insert d path = (.ok (), t')) : t'.Tidy := by
  induction path generalizing t t' with
  | nil =>
    rw [Trie.insert] at hinsert
    split at hinsert
    · cases hinsert
    · cases hinsert
      have hstep : ∀ k, (node (some d) t.named t.wildcard).step k = t.step k := by
        intro k
        cases k <;> rfl
      exact .intro h.kind h.ascending (fun k c hc => h.of_step (hstep k ▸ hc))
        fun k c hc => h.bears_of_step (hstep k ▸ hc)
  | cons s rest ih =>
    by_cases hadmits : t.Admits s.key
    · rw [insert_cons_of_admits hadmits] at hinsert
      obtain ⟨hok, rfl⟩ := Prod.mk.inj hinsert
      refine h.replace hadmits (ih (h.getD_step s.key) (Prod.ext hok rfl)) ⟨Path.keys rest, d, ?_⟩
      rw [entry_insert, if_pos ⟨by rw [hok]; rfl, rfl⟩]
    · rw [insert_cons_of_not_admits hadmits] at hinsert
      cases hinsert

/-- **A declaration is accepted if its path is new and parts from no declared path where one of them
iterates.** -/
theorem isOk_insert_iff (h : t.Tidy) : (t.insert d path).1.isOk = true ↔
    t.entry path.keys = none ∧ ∀ ks d', t.entry ks = some d' → ¬ Path.Mixed ks path.keys := by
  induction path generalizing t with
  | nil =>
    rw [Trie.insert]
    cases hd : t.declaration with
    | some d' => simp [Except.isOk, Except.toBool, Path.keys, hd]
    | none => simp [Except.isOk, Except.toBool, Path.keys, hd, Path.not_mixed_nil]
  | cons s rest ih =>
    by_cases hadmits : t.Admits s.key
    · rw [insert_cons_of_admits hadmits, ih (h.getD_step s.key), Path.keys_cons]
      simp only [entry_getD, ← entry_cons]
      refine and_congr_right fun _ => ⟨fun hbelow ks d' hks => ?_, fun hall ks d' hks => ?_⟩
      · cases ks with
        | nil => exact fun hmixed => Path.not_mixed_nil _ hmixed.symm
        | cons k ks =>
          by_cases hk : k = s.key
          · rw [hk, Path.mixed_cons_cons_self]
            exact hbelow ks d' (hk ▸ hks)
          · obtain ⟨c, hc, -⟩ := Option.bind_eq_some_iff.1 hks
            rw [Path.mixed_cons_cons_of_ne hk]
            exact fun hne => hne (isNone_eq_of_admits hadmits hc)
      · exact fun hmixed => hall _ d' hks (Path.mixed_cons_cons_self.2 hmixed)
    · -- a child of the other kind leads to a declared path, which parts from this one here
      obtain ⟨l, c, hc, hne⟩ := exists_step_of_not_admits hadmits
      obtain ⟨ks, d', hks⟩ := h.exists_entry_of_step hc
      have hmixed : Path.Mixed (l :: ks) (Path.keys (s :: rest)) :=
        (Path.mixed_cons_cons_of_ne fun hl => hne (congrArg Option.isNone hl)).2 hne
      rw [insert_cons_of_not_admits hadmits]
      constructor
      · intro hok
        cases hok
      · exact fun hall => absurd hmixed (hall.2 _ d' hks)

end Tidy

end Trie

end RowFilter
