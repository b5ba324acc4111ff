import Mathlib.Data.List.Forall2
import Mathlib.Data.List.Perm.Basic
import RowFilter.Residual.Order

/-!
# The laws of the order of terms

Terms are compared through their canonical forms, and canonical forms part by part.  Part by part
the comparison is a linear order: only a term itself compares equal to it.  On terms as they are
written it is a total preorder, and two terms are equal in it exactly if they differ in nothing but
the order in which sets, at any depth, list their elements.

* `LawfulAt` — a comparison that is a linear order as far as one value is concerned.  It passes from
  the parts of a term to the term, so that induction on terms proves all laws at once.
* `Term.Reorders` — one term is the other with the elements of its sets reordered.
* `Term.canonical_eq_iff` — terms have the same canonical form if one reorders the other.
* `Term.cmp_set` — sets are compared as the lists of their elements, sorted by the order itself.
* `Term.cmp_laws` — the order is total, and equality in it is equality up to reordering.
-/

set_option autoImplicit false

namespace RowFilter

/-! ## Comparisons that are lawful at a value -/

/-- A comparison behaves like a linear order wherever `a` is its first operand. -/
structure LawfulAt {α : Type} (cmp : α → α → Ordering) (a : α) : Prop where
  eq_iff : ∀ b, cmp a b = .eq ↔ a = b
  swap : ∀ b, cmp b a = (cmp a b).swap
  lt_of_lt_of_le : ∀ b c, cmp a b = .lt → (cmp b c).isLE = true → cmp a c = .lt

namespace LawfulAt

variable {α β : Type} {cmp : α → α → Ordering} {cmp' : β → β → Ordering}

theorem of_lawful (cmp : α → α → Ordering) [Std.TransCmp cmp] [Std.LawfulEqCmp cmp] (a : α) :
    LawfulAt cmp a where
  eq_iff _ := Std.LawfulEqCmp.compare_eq_iff_eq
  swap _ := Std.OrientedCmp.eq_swap
  lt_of_lt_of_le _ _ := Std.TransCmp.lt_of_lt_of_isLE

/-- Pairs are compared by their first components, and then by their second ones. -/
theorem pair {p : α × β} (hfst : LawfulAt cmp p.1) (hsnd : LawfulAt cmp' p.2) :
    LawfulAt (fun p q : α × β => (cmp p.1 q.1).then (cmp' p.2 q.2)) p where
  eq_iff q := by rw [Ordering.then_eq_eq, hfst.eq_iff, hsnd.eq_iff, Prod.ext_iff]
  swap q := by rw [Ordering.swap_then, hfst.swap, hsnd.swap]
  lt_of_lt_of_le q r hpq hqr := by
    rw [Ordering.then_eq_lt] at hpq ⊢
    rw [Ordering.isLE_then_iff_or] at hqr
    rcases hpq with hlt | ⟨heq, hlt⟩
    · have hle : (cmp q.1 r.1).isLE = true := by
        rcases hqr with hqr | ⟨hqr, -⟩ <;> rw [hqr] <;> rfl
      exact .inl (hfst.lt_of_lt_of_le _ _ hlt hle)
    · rw [hfst.eq_iff] at heq
      rw [← heq] at hqr
      exact hqr.imp_right fun h => ⟨h.1, hsnd.lt_of_lt_of_le _ _ hlt h.2⟩

/-- Lists are compared lexicographically. -/
theorem list {as : List α} (h : ∀ a ∈ as, LawfulAt cmp a) :
    LawfulAt (List.compareLex cmp) as := by
  induction as with
  | nil =>
    refine ⟨fun bs => ?_, fun bs => ?_, fun bs cs hab hbc => ?_⟩
    · cases bs <;> simp [List.compareLex]
    · cases bs <;> rfl
    · cases bs with
      | nil => cases hab
      | cons b bs =>
        cases cs with
        | nil => cases hbc
        | cons c cs => rfl
  | cons a as ih =>
    rw [List.forall_mem_cons] at h
    -- A list that is not empty is compared as the pair of its head and its tail.
    have hpair := pair (p := (a, as)) h.1 (ih h.2)
    refine ⟨fun bs => ?_, fun bs => ?_, fun bs cs hab hbc => ?_⟩
    · cases bs with
      | nil => simp [List.compareLex]
      | cons b bs =>
        rw [List.compareLex_cons_cons, List.cons.injEq, ← Prod.mk.injEq]
        exact hpair.eq_iff (b, bs)
    · cases bs with
      | nil => rfl
      | cons b bs =>
        rw [List.compareLex_cons_cons, List.compareLex_cons_cons]
        exact hpair.swap (b, bs)
    · cases bs with
      | nil => cases hab
      | cons b bs =>
        cases cs with
        | nil => cases hbc
        | cons c cs =>
          rw [List.compareLex_cons_cons] at hab hbc ⊢
          exact hpair.lt_of_lt_of_le (b, bs) (c, cs) hab hbc

end LawfulAt

/-! ## Number texts -/

namespace Number

instance : Std.TransCmp compareTexts :=
  inferInstanceAs (Std.TransCmp (compareLex (compareOn Binary64.read)
    (compareLex (compareOn decimalUnits) compare)))

/-- Only texts that are spelled alike are equal. -/
instance : Std.LawfulEqCmp compareTexts where
  compare_self := Std.ReflCmp.compare_self
  eq_of_compare h := by
    rw [compareTexts, Ordering.then_eq_eq, Ordering.then_eq_eq] at h
    exact Std.LawfulEqCmp.eq_of_compare h.2.2

end Number

namespace Term

/-! ## Comparing part by part -/

/-- Induction on terms, where the hypothesis holds for all parts of a term. -/
@[elab_as_elim]
theorem inductParts {P : Term → Prop}
    (null : P null) (boolean : ∀ b, P (boolean b)) (number : ∀ text, P (number text))
    (string : ∀ value, P (string value)) (var : ∀ name, P (var name))
    (ref : ∀ ts, (∀ t ∈ ts, P t) → P (ref ts)) (array : ∀ ts, (∀ t ∈ ts, P t) → P (array ts))
    (set : ∀ ts, (∀ t ∈ ts, P t) → P (set ts))
    (object : ∀ es, (∀ e ∈ es, P e.1 ∧ P e.2) → P (object es))
    (call : ∀ ts, (∀ t ∈ ts, P t) → P (call ts)) (t : Term) : P t :=
  @Term.rec P (fun ts => ∀ t ∈ ts, P t) (fun es => ∀ e ∈ es, P e.1 ∧ P e.2)
    (fun e => P e.1 ∧ P e.2) null boolean number string var ref array set object call
    (List.forall_mem_nil _) (fun _ _ ht hts => List.forall_mem_cons.2 ⟨ht, hts⟩)
    (List.forall_mem_nil _) (fun _ _ he hes => List.forall_mem_cons.2 ⟨he, hes⟩)
    (fun _ _ hk hv => ⟨hk, hv⟩) t

theorem compareLists_eq (as bs : List Term) :
    compareLists as bs = List.compareLex compareParts as bs := by
  induction as generalizing bs with
  | nil => cases bs <;> rfl
  | cons a as ih =>
    cases bs with
    | nil => rfl
    | cons b bs => rw [compareLists, ih, List.compareLex_cons_cons]

theorem compareEntries_eq (es fs : List (Term × Term)) :
    compareEntries es fs = List.compareLex
      (fun p q => (compareParts p.1 q.1).then (compareParts p.2 q.2)) es fs := by
  induction es generalizing fs with
  | nil => cases fs <;> rfl
  | cons e es ih =>
    cases fs with
    | nil => rfl
    | cons f fs => rw [compareEntries, ih, List.compareLex_cons_cons]

theorem compareParts_of_rank_ne {a b : Term} (h : a.rank ≠ b.rank) :
    compareParts a b = compare a.rank b.rank := by
  cases a <;> cases b <;> first | rfl | exact absurd rfl h

theorem rank_le_of_isLE {a b : Term} (h : (compareParts a b).isLE = true) : a.rank ≤ b.rank := by
  by_cases hrank : a.rank = b.rank
  · exact Nat.le_of_eq hrank
  · rw [compareParts_of_rank_ne hrank] at h
    exact Nat.isLE_compare.1 h

/-- Terms of one kind are compared by what they are made of, and all others by their ranks.  So a
law that holds for what the terms of a kind are made of holds for the terms. -/
theorem lawfulAt_of_kind {α : Type} {k : α → Term} {cmp : α → α → Ordering} {x : α}
    (h : LawfulAt cmp x) (hinj : Function.Injective k)
    (hcmp : ∀ y z, compareParts (k y) (k z) = cmp y z)
    (hkind : ∀ b, b.rank = (k x).rank → ∃ y, b = k y) : LawfulAt compareParts (k x) := by
  refine ⟨fun b => ?_, fun b => ?_, fun b c hab hbc => ?_⟩
  · by_cases hb : b.rank = (k x).rank
    · obtain ⟨y, rfl⟩ := hkind b hb
      rw [hcmp, h.eq_iff, hinj.eq_iff]
    · rw [compareParts_of_rank_ne (Ne.symm hb), Nat.compare_eq_eq]
      exact ⟨fun heq => absurd heq.symm hb, fun heq => heq ▸ rfl⟩
  · by_cases hb : b.rank = (k x).rank
    · obtain ⟨y, rfl⟩ := hkind b hb
      rw [hcmp, hcmp, h.swap]
    · rw [compareParts_of_rank_ne hb, compareParts_of_rank_ne (Ne.symm hb), Nat.compare_swap]
  · have hxb : (k x).rank ≤ b.rank := rank_le_of_isLE (by rw [hab]; rfl)
    have hbc' : b.rank ≤ c.rank := rank_le_of_isLE hbc
    by_cases hc : c.rank = (k x).rank
    · obtain ⟨y, rfl⟩ := hkind b (by omega)
      obtain ⟨z, rfl⟩ := hkind c hc
      rw [hcmp] at hab hbc ⊢
      exact h.lt_of_lt_of_le y z hab hbc
    · rw [compareParts_of_rank_ne (Ne.symm hc), Nat.compare_eq_lt]
      omega

/-- The comparison part by part is lawful at every term. -/
theorem lawfulAt_compareParts (a : Term) : LawfulAt compareParts a := by
  induction a using inductParts with
  | null =>
    have hunit : LawfulAt (fun _ _ : Unit => .eq) () :=
      ⟨fun _ => iff_of_true rfl rfl, fun _ => rfl, fun _ _ h => by cases h⟩
    refine lawfulAt_of_kind (k := fun _ => null) hunit (fun _ _ _ => rfl) (fun _ _ => rfl) ?_
    rintro ⟨⟩ h <;> first | exact ⟨(), rfl⟩ | cases h
  | boolean b =>
    refine lawfulAt_of_kind (.of_lawful compare b) (fun _ _ => boolean.inj) (fun _ _ => rfl) ?_
    rintro ⟨⟩ h <;> first | exact ⟨_, rfl⟩ | cases h
  | number text =>
    refine lawfulAt_of_kind (.of_lawful Number.compareTexts text) (fun _ _ => number.inj)
      (fun _ _ => rfl) ?_
    rintro ⟨⟩ h <;> first | exact ⟨_, rfl⟩ | cases h
  | string value =>
    refine lawfulAt_of_kind (.of_lawful compare value) (fun _ _ => string.inj) (fun _ _ => rfl) ?_
    rintro ⟨⟩ h <;> first | exact ⟨_, rfl⟩ | cases h
  | var name =>
    refine lawfulAt_of_kind (.of_lawful compare name) (fun _ _ => var.inj) (fun _ _ => rfl) ?_
    rintro ⟨⟩ h <;> first | exact ⟨_, rfl⟩ | cases h
  | ref ts ih =>
    refine lawfulAt_of_kind (.list ih) (fun _ _ => ref.inj) compareLists_eq ?_
    rintro ⟨⟩ h <;> first | exact ⟨_, rfl⟩ | cases h
  | array ts ih =>
    refine lawfulAt_of_kind (.list ih) (fun _ _ => array.inj) compareLists_eq ?_
    rintro ⟨⟩ h <;> first | exact ⟨_, rfl⟩ | cases h
  | set ts ih =>
    refine lawfulAt_of_kind (.list ih) (fun _ _ => set.inj) compareLists_eq ?_
    rintro ⟨⟩ h <;> first | exact ⟨_, rfl⟩ | cases h
  | object es ih =>
    refine lawfulAt_of_kind (.list fun e he => .pair (ih e he).1 (ih e he).2)
      (fun _ _ => object.inj) compareEntries_eq ?_
    rintro ⟨⟩ h <;> first | exact ⟨_, rfl⟩ | cases h
  | call ts ih =>
    refine lawfulAt_of_kind (.list ih) (fun _ _ => call.inj) compareLists_eq ?_
    rintro ⟨⟩ h <;> first | exact ⟨_, rfl⟩ | cases h

instance : Std.TransCmp compareParts where
  eq_swap {a b} := (lawfulAt_compareParts b).swap a
  isLE_trans {a b c} hab hbc := by
    cases hcmp : compareParts a b with
    | lt => rw [(lawfulAt_compareParts a).lt_of_lt_of_le b c hcmp hbc]; rfl
    | eq => rwa [((lawfulAt_compareParts a).eq_iff b).1 hcmp]
    | gt => rw [hcmp] at hab; cases hab

instance : Std.LawfulEqCmp compareParts where
  compare_self {a} := ((lawfulAt_compareParts a).eq_iff a).2 rfl
  eq_of_compare {a b} := ((lawfulAt_compareParts a).eq_iff b).1

/-! ## Sorting by a comparison -/

theorem pairwise_mergeSort_isLE {α : Type} (cmp : α → α → Ordering) [Std.TransCmp cmp]
    (xs : List α) :
    (xs.mergeSort fun a b => (cmp a b).isLE).Pairwise fun a b => (cmp a b).isLE = true := by
  apply List.pairwise_mergeSort
  · exact fun a b c => Std.TransCmp.isLE_trans
  · intro a b
    have hswap : cmp b a = (cmp a b).swap := Std.OrientedCmp.eq_swap
    rw [hswap]
    cases cmp a b <;> rfl

/-- Sorting by a comparison that tells different values apart forgets the order of a list and
nothing else. -/
theorem mergeSort_eq_iff_perm {α : Type} (cmp : α → α → Ordering) [Std.TransCmp cmp]
    [Std.LawfulEqCmp cmp] {xs ys : List α} :
    (xs.mergeSort fun a b => (cmp a b).isLE) = (ys.mergeSort fun a b => (cmp a b).isLE) ↔
      xs.Perm ys := by
  have hsorted : ∀ zs : List α,
      (zs.mergeSort fun a b => (cmp a b).isLE).Pairwise fun a b => (cmp a b).isLE = true :=
    pairwise_mergeSort_isLE cmp
  constructor
  · intro h
    exact (List.mergeSort_perm xs _).symm.trans (h ▸ List.mergeSort_perm ys _)
  · intro h
    refine List.Perm.eq_of_pairwise (fun a b _ _ hab hba => ?_) (hsorted xs) (hsorted ys) ?_
    · exact Std.LawfulEqCmp.eq_of_compare (Std.OrientedCmp.isLE_antisymm hab hba)
    · exact ((List.mergeSort_perm xs _).trans h).trans (List.mergeSort_perm ys _).symm

theorem canonicalList_eq (ts : List Term) : canonicalList ts = ts.map canonical := by
  induction ts with
  | nil => rfl
  | cons t ts ih => rw [canonicalList, ih, List.map_cons]

theorem canonicalEntries_eq (es : List (Term × Term)) :
    canonicalEntries es = es.map fun e => (e.1.canonical, e.2.canonical) := by
  induction es with
  | nil => rfl
  | cons e es ih => rw [canonicalEntries, ih, List.map_cons]

/-! ## Reordering sets -/

mutual

/-- **The second term is the first with the elements of its sets reordered**, at any depth. -/
def Reorders : Term → Term → Prop
  | null, null => True
  | boolean a, boolean b => a = b
  | number a, number b => a = b
  | string a, string b => a = b
  | var a, var b => a = b
  | ref as, ref bs => ReordersAll as bs
  | array as, array bs => ReordersAll as bs
  | set as, set bs => ∃ cs, ReordersAll as cs ∧ cs.Perm bs
  | object es, object fs => ReordersEntries es fs
  | call as, call bs => ReordersAll as bs
  | _, _ => False

/-- The same for the terms of a list, which stay in their places. -/
def ReordersAll : List Term → List Term → Prop
  | [], [] => True
  | a :: as, b :: bs => Reorders a b ∧ ReordersAll as bs
  | _, _ => False

/-- The same for keys and values, which stay in their places. -/
def ReordersEntries : List (Term × Term) → List (Term × Term) → Prop
  | [], [] => True
  | (k, v) :: es, (l, w) :: fs => (Reorders k l ∧ Reorders v w) ∧ ReordersEntries es fs
  | _, _ => False

end

theorem reordersAll_iff {as bs : List Term} :
    ReordersAll as bs ↔ List.Forall₂ Reorders as bs := by
  induction as generalizing bs with
  | nil => cases bs <;> simp [ReordersAll]
  | cons a as ih => cases bs <;> simp [ReordersAll, ih]

theorem reordersEntries_iff {es fs : List (Term × Term)} :
    ReordersEntries es fs ↔
      List.Forall₂ (fun e f => Reorders e.1 f.1 ∧ Reorders e.2 f.2) es fs := by
  induction es generalizing fs with
  | nil => cases fs <;> simp [ReordersEntries]
  | cons e es ih => cases fs <;> simp [ReordersEntries, ih]

theorem forall₂_imp_of_mem {α β : Type} {R S : α → β → Prop} {as : List α} {bs : List β}
    (h : List.Forall₂ R as bs) (himp : ∀ a ∈ as, ∀ b, R a b → S a b) : List.Forall₂ S as bs :=
  ((List.forall₂_and_left _ _).2 ⟨himp, h⟩).imp fun _ b hab => hab.1 b hab.2

theorem forall₂_iff_of_mem {α β : Type} {R S : α → β → Prop} {as : List α} {bs : List β}
    (h : ∀ a ∈ as, ∀ b, R a b ↔ S a b) : List.Forall₂ R as bs ↔ List.Forall₂ S as bs :=
  ⟨fun hR => forall₂_imp_of_mem hR fun a ha b => (h a ha b).1,
    fun hS => forall₂_imp_of_mem hS fun a ha b => (h a ha b).2⟩

theorem map_eq_map_iff {α β : Type} {f : α → β} {as bs : List α} :
    as.map f = bs.map f ↔ List.Forall₂ (fun a b => f a = f b) as bs := by
  rw [← List.forall₂_eq_eq_eq, List.forall₂_map_left_iff, List.forall₂_map_right_iff]

/-- Lists whose images are permutations of each other have the same images, once one of the lists is
permuted. -/
theorem map_perm_map_iff {α β : Type} {f : α → β} {as bs : List α} :
    (as.map f).Perm (bs.map f) ↔ ∃ cs : List α, as.map f = cs.map f ∧ cs.Perm bs := by
  constructor
  · intro h
    have hbs : List.Forall₂ (fun x b => x = f b) (bs.map f) bs := by
      rw [List.forall₂_map_left_iff, List.forall₂_same]
      exact fun _ _ => rfl
    obtain ⟨cs, hcs, hperm⟩ := List.perm_comp_forall₂ h hbs
    rw [List.forall₂_map_left_iff] at hcs
    exact ⟨cs, map_eq_map_iff.2 hcs, hperm⟩
  · rintro ⟨cs, hcs, hperm⟩
    rw [hcs]
    exact hperm.map f

/-- **Terms have the same canonical form** if one is the other with its sets reordered. -/
theorem canonical_eq_iff (a b : Term) : a.canonical = b.canonical ↔ a.Reorders b := by
  have hlist : ∀ {as : List Term}, (∀ a ∈ as, ∀ b, a.canonical = b.canonical ↔ a.Reorders b) →
      ∀ bs, as.map canonical = bs.map canonical ↔ ReordersAll as bs := by
    intro as h bs
    rw [map_eq_map_iff, reordersAll_iff]
    exact forall₂_iff_of_mem h
  induction a using inductParts generalizing b with
  | ref as ih => cases b <;> simp [canonical, canonicalList_eq, Reorders, hlist ih]
  | array as ih => cases b <;> simp [canonical, canonicalList_eq, Reorders, hlist ih]
  | call as ih => cases b <;> simp [canonical, canonicalList_eq, Reorders, hlist ih]
  | set as ih =>
    cases b with
    | set bs =>
      rw [canonical, canonical, set.injEq, mergeSort_eq_iff_perm, canonicalList_eq,
        canonicalList_eq, map_perm_map_iff, Reorders]
      simp only [hlist ih]
    | _ => simp [canonical, Reorders]
  | object es ih =>
    cases b with
    | object fs =>
      rw [canonical, canonical, object.injEq, canonicalEntries_eq, canonicalEntries_eq,
        map_eq_map_iff, Reorders, reordersEntries_iff]
      refine forall₂_iff_of_mem fun e he f => ?_
      rw [Prod.mk.injEq]
      exact and_congr ((ih e he).1 f.1) ((ih e he).2 f.2)
    | _ => simp [canonical, Reorders]
  | _ => cases b <;> simp [canonical, Reorders]

/-! ## The order of terms -/

instance : Std.TransCmp cmp where
  eq_swap {a b} := (lawfulAt_compareParts b.canonical).swap a.canonical
  isLE_trans {a b c} hab hbc := by
    rw [cmp] at hab hbc ⊢
    exact Std.TransCmp.isLE_trans hab hbc

theorem cmp_eq_iff {a b : Term} : cmp a b = .eq ↔ a.Reorders b := by
  rw [cmp, Std.LawfulEqCmp.compare_eq_iff_eq, canonical_eq_iff]

theorem map_canonical_sorted (ts : List Term) :
    (sorted ts).map canonical =
      (ts.map canonical).mergeSort fun a b => (compareParts a b).isLE :=
  List.map_mergeSort fun _ _ _ _ => rfl

/-- **Sets are compared as the sorted lists of their elements**, both in the order itself. -/
theorem cmp_set (as bs : List Term) :
    cmp (set as) (set bs) = List.compareLex cmp (sorted as) (sorted bs) := by
  have hmap : ∀ xs ys : List Term, List.compareLex compareParts (xs.map canonical)
      (ys.map canonical) = List.compareLex cmp xs ys := by
    intro xs ys
    induction xs generalizing ys with
    | nil => cases ys <;> rfl
    | cons x xs ih =>
      cases ys with
      | nil => rfl
      | cons y ys =>
        rw [List.map_cons, List.map_cons, List.compareLex_cons_cons, List.compareLex_cons_cons, ih,
          cmp]
  rw [cmp, canonical, canonical, compareParts, compareLists_eq, canonicalList_eq, canonicalList_eq,
    ← map_canonical_sorted, ← map_canonical_sorted, hmap]

/-- Permutations of a list are equal once they are sorted, element by element. -/
theorem forall₂_sorted_of_perm {ts us : List Term} (h : ts.Perm us) :
    List.Forall₂ (fun t u => cmp t u = .eq) (sorted ts) (sorted us) := by
  have hmap : (sorted ts).map canonical = (sorted us).map canonical := by
    rw [map_canonical_sorted, map_canonical_sorted, mergeSort_eq_iff_perm]
    exact h.map canonical
  refine (map_eq_map_iff.1 hmap).imp fun t u htu => ?_
  rw [cmp, htu]
  exact Std.ReflCmp.compare_self

/-- **The order of terms is total, and equality in it is equality up to reordering.**  Comparing the
other way round gives the reverse, the order is transitive, and terms are equal in it exactly if one
is the other with its sets reordered.  Sets are compared as their sorted elements.  Sorting keeps
the terms of a list and leaves none before a smaller one, and what it makes of two permutations of a
list is equal element by element. -/
theorem cmp_laws (a b c : Term) (ts us : List Term) :
    cmp b a = (cmp a b).swap ∧
    ((cmp a b).isLE = true → (cmp b c).isLE = true → (cmp a c).isLE = true) ∧
    (cmp a b = .lt → cmp b c = .lt → cmp a c = .lt) ∧
    (cmp a b = .eq ↔ a.Reorders b) ∧
    cmp (set ts) (set us) = List.compareLex cmp (sorted ts) (sorted us) ∧
    (sorted ts).Perm ts ∧
    (sorted ts).Pairwise (fun t u => (cmp t u).isLE = true) ∧
    (ts.Perm us → List.Forall₂ (fun t u => cmp t u = .eq) (sorted ts) (sorted us)) := by
  refine ⟨?_, ?_, ?_, cmp_eq_iff, cmp_set ts us, ?_, ?_, forall₂_sorted_of_perm⟩
  · exact Std.OrientedCmp.eq_swap
  · exact Std.TransCmp.isLE_trans
  · exact Std.TransCmp.lt_trans
  · exact List.mergeSort_perm ts _
  · exact pairwise_mergeSort_isLE cmp ts

/-- Numbers of very different sizes, and two spellings of one number in both orders. -/
theorem cmp_laws_wide :
    cmp (number "5") (number "1e30") = .lt ∧
    cmp (number "1e30") (number "100000000000000000000000000000000") = .lt ∧
    cmp (number "5") (number "100000000000000000000000000000000") = .lt ∧
    [number "10", number "1e1"].Perm [number "1e1", number "10"] ∧
    List.Forall₂ (fun t u => cmp t u = .eq) (sorted [number "10", number "1e1"])
      (sorted [number "1e1", number "10"]) := by
  have hsmall : cmp (number "5") (number "1e30") = .lt := rfl
  have hlarge : cmp (number "1e30") (number "100000000000000000000000000000000") = .lt := rfl
  have hperm : [number "10", number "1e1"].Perm [number "1e1", number "10"] := .swap _ _ _
  obtain ⟨-, -, htrans, -, -, -, -, hsorted⟩ := cmp_laws (number "5") (number "1e30")
    (number "100000000000000000000000000000000") [number "10", number "1e1"]
    [number "1e1", number "10"]
  exact ⟨hsmall, hlarge, htrans hsmall hlarge, hperm, hsorted hperm⟩

end Term

end RowFilter
