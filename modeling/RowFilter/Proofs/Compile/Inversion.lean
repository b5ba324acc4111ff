import Mathlib.Data.List.Forall2
import RowFilter.Compile.Basic

/-!
# What compiles, and to what

Compilation stops at the first part that has no SQL.  So if a term, a query or a residual compiles,
then all of its parts do, and this file says what they compile to.  Every proof about compiled
residuals starts from these lemmas; none of them looks at the errors.

* `Term.induct` — induction on terms, with the hypothesis for all elements at once.
* `Compile.term_set` — a set compiles to what the array of its sorted elements does.
* `Compile.call_eq_ok`, `Compile.term_array_eq_ok` — the parts of a term.
* `Compile.predicate_eq_ok`, `Compile.sql_eq_ok` — those of a residual.
-/

set_option autoImplicit false

namespace RowFilter

open Sql (Node)

/-- What stands on the right of a list of pairs has a partner on the left. -/
theorem exists_of_mem_right {α β : Type} {R : α → β → Prop} {as : List α} {bs : List β}
    (h : List.Forall₂ R as bs) {b : β} (hb : b ∈ bs) : ∃ a ∈ as, R a b := by
  induction h with
  | nil => cases hb
  | @cons a c as bs hac _ ih =>
    rcases List.mem_cons.1 hb with rfl | hb
    · exact ⟨a, List.mem_cons_self, hac⟩
    · obtain ⟨a', ha', hab⟩ := ih hb
      exact ⟨a', List.mem_cons_of_mem _ ha', hab⟩

/-- Partners that exist one by one make a list of partners. -/
theorem exists_forall₂ {α β : Type} {R : α → β → Prop} {as : List α}
    (h : ∀ a ∈ as, ∃ b, R a b) : ∃ bs, List.Forall₂ R as bs := by
  induction as with
  | nil => exact ⟨[], .nil⟩
  | cons a as ih =>
    rw [List.forall_mem_cons] at h
    obtain ⟨b, hab⟩ := h.1
    obtain ⟨bs, hbs⟩ := ih h.2
    exact ⟨b :: bs, .cons hab hbs⟩

theorem exists_of_map_eq_ok {ε α β : Type} {f : α → β} {x : Except ε α} {b : β}
    (h : x.map f = .ok b) : ∃ a, x = .ok a ∧ f a = b := by
  cases x with
  | error e => cases h
  | ok a => exact ⟨a, rfl, Except.ok.inj h⟩

/-- A list that is compiled one by one up to the first error: if there is none, then all of its
members compile. -/
theorem forall₂_of_traversal {ε α β : Type} (f : α → Except ε β) (all : List α → Except ε (List β))
    (hnil : all [] = .ok [])
    (hcons : ∀ x xs bs, all (x :: xs) = .ok bs → ∃ b, f x = .ok b ∧ (all xs).map (b :: ·) = .ok bs)
    {xs : List α} {bs : List β} (h : all xs = .ok bs) :
    List.Forall₂ (fun x b => f x = .ok b) xs bs := by
  induction xs generalizing bs with
  | nil =>
    cases hnil.symm.trans h
    exact .nil
  | cons x xs ih =>
    obtain ⟨b, hb, hmap⟩ := hcons x xs bs h
    obtain ⟨bs', hbs, rfl⟩ := exists_of_map_eq_ok hmap
    exact .cons hb (ih hbs)

theorem mapM_eq_ok_iff {α β ε : Type} {f : α → Except ε β} {as : List α} {bs : List β} :
    as.mapM f = .ok bs ↔ List.Forall₂ (fun a b => f a = .ok b) as bs := by
  induction as generalizing bs with
  | nil =>
    rw [List.mapM_nil, List.forall₂_nil_left_iff]
    exact ⟨fun h => by cases h; rfl, fun h => h ▸ rfl⟩
  | cons a as ih =>
    rw [List.mapM_cons, List.forall₂_cons_left_iff]
    constructor
    · intro h
      cases hb : f a with
      | error e => rw [hb] at h; cases h
      | ok b =>
        cases hbs : as.mapM f with
        | error e => rw [hb, hbs] at h; cases h
        | ok bs' =>
          rw [hb, hbs] at h
          cases h
          exact ⟨b, bs', rfl, ih.1 hbs, rfl⟩
    · rintro ⟨b, bs', hb, hbs, rfl⟩
      rw [hb, ih.2 hbs]
      rfl

/-! ## Terms -/

namespace Term

/-- Induction on terms, where the hypothesis holds for all elements of a collection and for all
terms of a call. -/
@[elab_as_elim]
theorem induct {P : Term → Prop}
    (null : P null) (boolean : ∀ b, P (boolean b)) (number : ∀ text, P (number text))
    (string : ∀ value, P (string value)) (var : ∀ name, P (var name))
    (ref : ∀ segments, P (ref segments)) (array : ∀ es, (∀ e ∈ es, P e) → P (array es))
    (set : ∀ es, (∀ e ∈ es, P e) → P (set es)) (object : ∀ entries, P (object entries))
    (call : ∀ ts, (∀ t ∈ ts, P t) → P (call ts)) (t : Term) : P t :=
  @Term.rec P (fun ts => ∀ t ∈ ts, P t) (fun _ => True) (fun _ => True)
    null boolean number string var (fun segments _ => ref segments) array set
    (fun entries _ => object entries) call
    (fun _ h => by cases h)
    (fun _ _ ht hts _ hm => by
      rcases List.mem_cons.1 hm with rfl | hm
      · exact ht
      · exact hts _ hm)
    trivial (fun _ _ _ _ => trivial) (fun _ _ _ _ => trivial) t

/-- Terms that carry something along are sorted as they are without it. -/
theorem mergeSort_map_pair {α : Type} (f : Term → α) (ts : List Term) :
    ((ts.map fun t => (t, f t)).mergeSort fun a b => (cmp a.1 b.1).isLE) =
      (sorted ts).map fun t => (t, f t) := by
  rw [sorted]
  refine (List.map_mergeSort ?_).symm
  exact fun _ _ _ _ => rfl

theorem mem_sorted {t : Term} {ts : List Term} : t ∈ sorted ts ↔ t ∈ ts :=
  List.mem_mergeSort

end Term

/-- The term that a condition asserts. -/
def Condition.asserted : Condition → Term
  | call ts => .call ts
  | term t => t

namespace Compile

variable {s : Settings}

theorem terms_eq (ts : List Term) : terms s ts = ts.map fun t => (t, term s t) := by
  induction ts with
  | nil => rfl
  | cons t ts ih => rw [terms, ih, List.map_cons]

/-- **A set compiles to what the array of its sorted elements does.** -/
theorem term_set (es : List Term) : term s (.set es) = term s (.array (Term.sorted es)) := by
  rw [term, term, terms_eq, terms_eq, inOrder, Term.mergeSort_map_pair]

theorem collect_eq_ok {cs : List Compiled} {ns : List Node} (h : collect cs = .ok ns) :
    List.Forall₂ (fun c n => c.2 = .ok n) cs ns := by
  refine forall₂_of_traversal Prod.snd collect rfl (fun c cs ns h => ?_) h
  obtain ⟨t, result⟩ := c
  cases result with
  | error e => cases h
  | ok n => exact ⟨n, rfl, h⟩

theorem term_array_eq_ok {es : List Term} {n : Node} (h : term s (.array es) = .ok n) :
    ∃ source ns, n = .array source ns ∧ List.Forall₂ (fun e m => term s e = .ok m) es ns := by
  rw [term, arrayOf] at h
  obtain ⟨ns, hcollect, rfl⟩ := exists_of_map_eq_ok h
  have hforall := collect_eq_ok hcollect
  rw [terms_eq, List.forall₂_map_left_iff] at hforall
  exact ⟨_, ns, rfl, hforall⟩

theorem operator_eq_ok {t : Term} {op : Operator} (h : operator t = .ok op) :
    ∃ name, t.operatorName = some name ∧ Operator.ofName? name = some op := by
  unfold operator at h
  split at h
  · cases h
  · next name hname =>
    split at h
    · cases h
    · next op' hop =>
      cases h
      exact ⟨name, hname, hop⟩

theorem applied_eq_ok {op : Operator} {cs : List Compiled} {n : Node}
    (h : applied op cs = .ok n) :
    ∃ t l u r, cs = [(t, .ok l), (u, .ok r)] ∧ n = op.apply l r := by
  unfold applied at h
  split at h
  · next t left u right =>
    split at h
    · cases h
    · cases h
    · next l r =>
      cases h
      exact ⟨t, l, u, r, rfl, rfl⟩
  · cases h

/-- **A call that compiles** applies a known operator to two arguments that compile. -/
theorem call_eq_ok {ts : List Term} {n : Node} (h : call s ts = .ok n) :
    ∃ t l r name op left right, ts = [t, l, r] ∧ t.operatorName = some name ∧
      Operator.ofName? name = some op ∧ term s l = .ok left ∧ term s r = .ok right ∧
      n = op.apply left right := by
  cases ts with
  | nil => cases h
  | cons t arguments =>
    rw [call] at h
    cases hop : operator t with
    | error e => rw [hop] at h; cases h
    | ok op =>
      rw [hop] at h
      obtain ⟨name, hname, hofName⟩ := operator_eq_ok hop
      obtain ⟨l, left, r, right, harguments, rfl⟩ := applied_eq_ok h
      match arguments, harguments with
      | [a, b], harguments =>
        simp only [terms, List.cons.injEq, Prod.mk.injEq, and_true] at harguments
        obtain ⟨⟨rfl, hl⟩, rfl, hr⟩ := harguments
        exact ⟨t, a, b, name, op, left, right, rfl, hname, hofName, hl, hr, rfl⟩

/-- Only references compile to columns. -/
theorem term_eq_column {t : Term} {sql : String} {type : ValueType} {scope : Sql.Scope}
    (h : term s t = .ok (.column sql type scope)) :
    ∃ segments, t = .ref segments ∧ reference s segments = .ok (.column sql type scope) := by
  cases t with
  | ref segments => exact ⟨segments, rfl, h⟩
  | number text =>
    rw [term] at h
    split at h <;> cases h
  | array es =>
    obtain ⟨_, _, heq, _⟩ := term_array_eq_ok h
    cases heq
  | set es =>
    rw [term_set] at h
    obtain ⟨_, _, heq, _⟩ := term_array_eq_ok h
    cases heq
  | call ts =>
    obtain ⟨_, _, _, _, op, _, _, _, _, _, _, _, heq⟩ := call_eq_ok h
    cases op <;> cases heq
  | _ => cases h

/-! ## Residuals -/

/-- What a condition compiles to. -/
def condition (s : Settings) : Condition → Except CompileError Node
  | .call ts => call s ts
  | .term t => term s t

theorem condition_eq (c : Condition) : condition s c = term s c.asserted := by
  cases c with
  | call ts => rw [condition, Condition.asserted, term]
  | term t => rfl

theorem expression_eq (e : Expression) :
    expression s e =
      if e.negated then .error (.unsupported "negated expression")
      else
        match condition s e.condition with
        | .error err => .error err
        | .ok n => if n.isBoolean then .ok n else .error (.notBoolean e.text) := by
  rw [expression]
  cases e.condition <;> rfl

theorem expression_eq_ok {e : Expression} {n : Node} (h : expression s e = .ok n) :
    e.negated = false ∧ condition s e.condition = .ok n ∧ n.isBoolean = true := by
  rw [expression_eq] at h
  split at h
  · cases h
  · next hnegated =>
    split at h
    · cases h
    · next m hm =>
      split at h
      · next hboolean =>
        cases h
        exact ⟨by simpa using hnegated, hm, hboolean⟩
      · cases h

theorem expressions_eq_ok {es : List Expression} {ns : List Node}
    (h : expressions s es = .ok ns) : List.Forall₂ (fun e n => expression s e = .ok n) es ns := by
  refine forall₂_of_traversal (expression s) (expressions s) rfl (fun e es ns h => ?_) h
  rw [expressions] at h
  split at h
  · cases h
  · next n hn => exact ⟨n, hn, h⟩

theorem query_eq_ok {q : Query} {n : Node} (h : query s q = .ok n) :
    ∃ ns, n = .conjunction q.text ns ∧ List.Forall₂ (fun e m => expression s e = .ok m) q ns := by
  obtain ⟨ns, hexpressions, rfl⟩ := exists_of_map_eq_ok h
  exact ⟨ns, rfl, expressions_eq_ok hexpressions⟩

theorem queries_eq_ok {qs : List Query} {ns : List Node} (h : queries s qs = .ok ns) :
    List.Forall₂ (fun q n => query s q = .ok n) qs ns := by
  refine forall₂_of_traversal (query s) (queries s) rfl (fun q qs ns h => ?_) h
  rw [queries] at h
  split at h
  · cases h
  · next n hn => exact ⟨n, hn, h⟩

/-- **What a residual compiles to**: a truth value if it has no queries or an empty one, and the
disjunction of its queries otherwise. -/
theorem predicate_eq_ok {r : Residual} {n : Node} (h : predicate s r = .ok n) :
    (r = [] ∧ n = .boolean false) ∨ ([] ∈ r ∧ n = .boolean true) ∨
      ∃ ns, n = .disjunction r.text ns ∧ List.Forall₂ (fun q m => query s q = .ok m) r ns := by
  unfold predicate at h
  split at h
  · next hempty =>
    cases h
    exact .inl ⟨List.isEmpty_iff.1 hempty, rfl⟩
  · split at h
    · next hany =>
      cases h
      obtain ⟨q, hq, hnil⟩ := List.any_eq_true.1 hany
      rw [List.isEmpty_iff] at hnil
      exact .inr (.inl ⟨hnil ▸ hq, rfl⟩)
    · obtain ⟨ns, hqueries, rfl⟩ := exists_of_map_eq_ok h
      exact .inr (.inr ⟨ns, rfl, queries_eq_ok hqueries⟩)

/-- **The SQL of a residual** is the text of its predicate, which has no faults. -/
theorem sql_eq_ok {r : Residual} {text : String} (h : sql s r = .ok text) :
    ∃ n, predicate s r = .ok n ∧ n.render.faults = [] ∧ n.render.text = text := by
  unfold sql at h
  split at h
  · cases h
  · next n hn =>
    simp only [List.isEmpty_iff] at h
    split at h
    · next hfaults =>
      cases h
      exact ⟨n, hn, hfaults, rfl⟩
    · cases h

theorem sql_of_predicate {r : Residual} {n : Node} (hn : predicate s r = .ok n)
    (hfaults : n.render.faults = []) : sql s r = .ok n.render.text := by
  simp [sql, hn, hfaults]

end Compile

end RowFilter
