import RowFilter.Proofs.Compile.Inversion
import RowFilter.Proofs.Residual.Order
import RowFilter.Proofs.Sql.Sources

/-!
# Equal residuals compile alike

Residuals are equal if they differ in nothing but the order in which sets list their elements.
Compiling takes the elements of a set in the order of terms, so it meets equal elements at the same
places, and the first of them that has no SQL stops it at the same place.  What may differ is what
is printed of the residual on the way: the remarks of predicates and the texts inside of errors.

* `CompileError.bare` — an error without the printed texts that it holds.
* `Compile.bare` — the result of a compilation without them.
* `Compile.bare_term` — equal terms compile to the same, up to such texts.
* `Compile.sql_of_same` — equal residuals have the same SQL, or no SQL for the same reasons.
-/

set_option autoImplicit false

namespace RowFilter

open Sql (Node)

/-! ## Errors without printed texts -/

/-- The error without the text of the segment that is no step. -/
def PathError.bare : PathError → PathError
  | empty => empty
  | invalidHead _ => invalidHead ""
  | invalidSegment _ kind => invalidSegment "" kind

namespace CompileError

/-- The error without the texts of queries, expressions, terms and operators. -/
def bare : CompileError → CompileError
  | inQuery _ cause => inQuery "" cause.bare
  | inExpression _ cause => inExpression "" cause.bare
  | inTerm _ cause => inTerm "" cause.bare
  | unsupportedOperator _ => unsupportedOperator ""
  | notBoolean _ => notBoolean ""
  | unresolved _ => unresolved ""
  | path error => path error.bare
  | e => e

theorem rootCause_bare (e : CompileError) : e.bare.rootCause = e.rootCause.bare := by
  induction e with
  | inQuery _ _ ih => exact ih
  | inExpression _ _ ih => exact ih
  | inTerm _ _ ih => exact ih
  | _ => rfl

theorem ctorIdx_bare (e : CompileError) : e.bare.ctorIdx = e.ctorIdx := by
  cases e <;> rfl

/-- Errors that are equal without their texts have root causes of the same kind. -/
theorem ctorIdx_rootCause_of_bare {e e' : CompileError} (h : e.bare = e'.bare) :
    e.rootCause.ctorIdx = e'.rootCause.ctorIdx := by
  rw [← ctorIdx_bare, ← rootCause_bare, h, rootCause_bare, ctorIdx_bare]

end CompileError

/-! ## Paths and operators -/

namespace Term

variable {a b : Term} {as bs : List Term}

theorem segment_of_reorders (h : a.Reorders b) :
    (Path.segment a).mapError PathError.bare = (Path.segment b).mapError PathError.bare := by
  cases a <;> cases b <;> simp only [Reorders] at h <;> first | (subst h; rfl) | rfl

theorem mapError_bind {ε ε' α β : Type} (g : ε → ε') (x : Except ε α) (f : α → Except ε β) :
    (x >>= f).mapError g = x.mapError g >>= fun a => (f a).mapError g := by
  cases x <;> rfl

theorem mapM_segment_of_reorders (h : List.Forall₂ Reorders as bs) :
    (as.mapM Path.segment).mapError PathError.bare =
      (bs.mapM Path.segment).mapError PathError.bare := by
  induction h with
  | nil => rfl
  | cons hab _ ih =>
    simp only [List.mapM_cons, mapError_bind, segment_of_reorders hab, ih]

/-- Equal references have the same path, or none for the same reason. -/
theorem ofRef_of_reorders (h : List.Forall₂ Reorders as bs) :
    (Path.ofRef as).mapError PathError.bare = (Path.ofRef bs).mapError PathError.bare := by
  cases h with
  | nil => rfl
  | @cons a b as bs hab h =>
    cases a <;> cases b <;> simp only [Reorders] at hab <;> try rfl
    rw [Path.ofRef, Path.ofRef, mapError_bind, mapError_bind, mapM_segment_of_reorders h, hab]

theorem fieldNames_of_reorders (h : List.Forall₂ Reorders as bs) :
    fieldNames as = fieldNames bs := by
  induction h with
  | nil => rfl
  | @cons a b as bs hab _ ih =>
    cases a <;> cases b <;> simp only [Reorders] at hab <;> try rfl
    rw [fieldNames, fieldNames, ih, hab]

/-- Equal terms name the same operator. -/
theorem operatorName_of_reorders (h : a.Reorders b) : a.operatorName = b.operatorName := by
  cases a <;> cases b <;> simp only [Reorders] at h <;> try rfl
  · rw [h]
  · rename_i as bs
    rw [reordersAll_iff] at h
    cases h with
    | nil => rfl
    | @cons a b as bs hab h =>
      cases a <;> cases b <;> simp only [Reorders] at hab <;> try rfl
      rw [operatorName, operatorName, fieldNames_of_reorders h, hab]

theorem compareLex_eq_iff {α : Type} {cmp : α → α → Ordering} {xs ys : List α} :
    List.compareLex cmp xs ys = .eq ↔ List.Forall₂ (fun x y => cmp x y = .eq) xs ys := by
  induction xs generalizing ys with
  | nil => cases ys <;> simp [List.compareLex]
  | cons x xs ih =>
    cases ys with
    | nil => simp [List.compareLex]
    | cons y ys => rw [List.compareLex_cons_cons, Ordering.then_eq_eq, ih, List.forall₂_cons]

/-- Once they are sorted, the elements of equal sets are equal place by place. -/
theorem forall₂_sorted_of_reorders (h : (set as).Reorders (set bs)) :
    List.Forall₂ Reorders (sorted as) (sorted bs) := by
  rw [← cmp_eq_iff, cmp_set, compareLex_eq_iff] at h
  exact h.imp fun _ _ => cmp_eq_iff.1

end Term

/-! ## Compiling without printed texts -/

namespace Compile

/-- The result of a compilation without printed texts: `strip` takes them out of what is compiled
to. -/
def bare {α : Type} (strip : α → α) : Except CompileError α → Except CompileError α
  | .ok a => .ok (strip a)
  | .error e => .error e.bare

variable {s : Settings} {α : Type}

theorem bare_map {β : Type} (strip : α → α) {strip' : β → β} {f g : α → β}
    {x y : Except CompileError α} (h : bare strip x = bare strip y)
    (hfg : ∀ a b, strip a = strip b → strip' (f a) = strip' (g b)) :
    bare strip' (x.map f) = bare strip' (y.map g) := by
  cases x <;> cases y <;> simp only [bare, Except.ok.injEq, Except.error.injEq, reduceCtorEq] at h
  · simp only [Except.map, bare, h]
  · simp only [Except.map, bare, hfg _ _ h]

/-- Compiling one by one up to the first error gives the same for lists whose members compile to the
same, if the error is told in the same words. -/
theorem bare_traversal (f : α → Except CompileError Node) (wrap : α → CompileError → CompileError)
    {all : List α → Except CompileError (List Node)}
    (hcons : ∀ x xs, all (x :: xs) =
      match f x with
      | .error e => .error (wrap x e)
      | .ok n => (all xs).map (n :: ·))
    (hwrap : ∀ x y e e', CompileError.bare e = e'.bare → (wrap x e).bare = (wrap y e').bare)
    {xs ys : List α}
    (h : List.Forall₂ (fun x y => bare Node.bare (f x) = bare Node.bare (f y)) xs ys) :
    bare (List.map Node.bare) (all xs) = bare (List.map Node.bare) (all ys) := by
  induction h with
  | nil => rfl
  | @cons x y xs ys hxy _ ih =>
    rw [hcons, hcons]
    cases hx : f x <;> cases hy : f y <;> rw [hx, hy] at hxy <;>
      simp only [bare, Except.ok.injEq, Except.error.injEq, reduceCtorEq] at hxy
    · exact congrArg Except.error (hwrap _ _ _ _ hxy)
    · refine bare_map _ ih fun ns ms hns => ?_
      rw [List.map_cons, List.map_cons, hxy, hns]

theorem bare_collect {cs ds : List Compiled}
    (h : List.Forall₂ (fun c d => bare Node.bare c.2 = bare Node.bare d.2) cs ds) :
    bare (List.map Node.bare) (collect cs) = bare (List.map Node.bare) (collect ds) := by
  refine bare_traversal Prod.snd (fun c => .inTerm c.1.text) ?_ ?_ h
  · rintro ⟨t, _ | _⟩ cs <;> rfl
  · intro x y e e' h
    simp only [CompileError.bare, h]

theorem bare_applied (op : Operator) {cs ds : List Compiled}
    (h : List.Forall₂ (fun c d => bare Node.bare c.2 = bare Node.bare d.2) cs ds) :
    bare Node.bare (applied op cs) = bare Node.bare (applied op ds) := by
  have hlength := h.length_eq
  rcases h with _ | ⟨hl, _ | ⟨hr, _ | ⟨_, _⟩⟩⟩
  · rfl
  · rfl
  · rename_i c d c' d'
    obtain ⟨t, l⟩ := c
    obtain ⟨t', l'⟩ := d
    obtain ⟨u, r⟩ := c'
    obtain ⟨u', r'⟩ := d'
    cases l <;> cases l' <;>
      simp only [bare, Except.ok.injEq, Except.error.injEq, reduceCtorEq] at hl
    · simp only [applied, bare, CompileError.bare, hl]
    · cases r <;> cases r' <;>
        simp only [bare, Except.ok.injEq, Except.error.injEq, reduceCtorEq] at hr
      · simp only [applied, bare, CompileError.bare, hr]
      · cases op <;> simp only [applied, bare, Operator.apply, Node.bare, hl, hr]
  · simp only [applied, hlength]

/-! ## Terms -/

theorem bare_array {as bs : List Term}
    (h : List.Forall₂ (fun a b => bare Node.bare (term s a) = bare Node.bare (term s b)) as bs) :
    bare Node.bare (term s (.array as)) = bare Node.bare (term s (.array bs)) := by
  rw [term, term, arrayOf, arrayOf, terms_eq, terms_eq]
  refine bare_map _ (bare_collect ?_) fun ns ms hns => ?_
  · rw [List.forall₂_map_left_iff, List.forall₂_map_right_iff]
    exact h
  · rw [Node.bare, Node.bare, Node.bareAll_eq, Node.bareAll_eq, hns]

theorem bare_reference {as bs : List Term} (h : List.Forall₂ Term.Reorders as bs) :
    bare Node.bare (reference s as) = bare Node.bare (reference s bs) := by
  have hpath := Term.ofRef_of_reorders h
  rw [reference, reference]
  cases has : Path.ofRef as <;> cases hbs : Path.ofRef bs <;> rw [has, hbs] at hpath <;>
    simp only [Except.mapError, Except.ok.injEq, Except.error.injEq, reduceCtorEq] at hpath
  · simp only [bare, CompileError.bare, hpath]
  · rw [hpath]
    cases s.resolvers with
    | none => rfl
    | some rs =>
      simp only
      split <;> rfl

theorem bare_call {as bs : List Term} (h : List.Forall₂ Term.Reorders as bs)
    (hterm : ∀ a ∈ as, ∀ b, a.Reorders b → bare Node.bare (term s a) = bare Node.bare (term s b)) :
    bare Node.bare (call s as) = bare Node.bare (call s bs) := by
  cases h with
  | nil => rfl
  | @cons op op' as bs hop h =>
    rw [call, call, operator, operator, Term.operatorName_of_reorders hop]
    cases op'.operatorName with
    | none => rfl
    | some name =>
      simp only
      cases Operator.ofName? name with
      | none => rfl
      | some known =>
        refine bare_applied known ?_
        rw [terms_eq, terms_eq, List.forall₂_map_left_iff, List.forall₂_map_right_iff]
        exact Term.forall₂_imp_of_mem h fun a ha => hterm a (List.mem_cons_of_mem _ ha)

/-- **Equal terms compile to the same**, up to the texts that are printed of them. -/
theorem bare_term {a b : Term} (h : a.Reorders b) :
    bare Node.bare (term s a) = bare Node.bare (term s b) := by
  induction a using Term.induct generalizing b with
  | ref as =>
    cases b with
    | ref bs => exact bare_reference (Term.reordersAll_iff.1 h)
    | _ => cases h
  | array as ih =>
    cases b with
    | array bs =>
      have hbs := Term.reordersAll_iff.1 h
      exact bare_array (Term.forall₂_imp_of_mem hbs fun a ha _ hab => ih a ha hab)
    | _ => cases h
  | set as ih =>
    cases b with
    | set bs =>
      have hsorted := Term.forall₂_sorted_of_reorders h
      rw [term_set, term_set]
      refine bare_array (Term.forall₂_imp_of_mem hsorted fun a ha _ hab => ?_)
      exact ih a (Term.mem_sorted.1 ha) hab
    | _ => cases h
  | object es =>
    cases b with
    | object fs => rfl
    | _ => cases h
  | call as ih =>
    cases b with
    | call bs => exact bare_call (Term.reordersAll_iff.1 h) fun a ha _ hab => ih a ha hab
    | _ => cases h
  | _ => cases b <;> cases h; rfl

/-! ## Residuals -/

theorem agree_iff {same : α → α → Bool} {as bs : List α} :
    agree same as bs = true ↔ List.Forall₂ (fun a b => same a b = true) as bs := by
  induction as generalizing bs with
  | nil => cases bs <;> simp [agree]
  | cons a as ih => cases bs <;> simp [agree, ih]

theorem same_iff_reorders {a b : Term} : a.same b = true ↔ a.Reorders b :=
  beq_iff_eq.trans Term.cmp_eq_iff

theorem bare_condition {a b : Condition} (h : a.same b = true) :
    bare Node.bare (condition s a) = bare Node.bare (condition s b) := by
  cases a with
  | call as =>
    cases b with
    | call bs =>
      have hargs : List.Forall₂ Term.Reorders as bs :=
        (agree_iff.1 h).imp fun _ _ => same_iff_reorders.1
      exact bare_call hargs fun _ _ _ => bare_term
    | term b => cases h
  | term a =>
    cases b with
    | call bs => cases h
    | term b => exact bare_term (same_iff_reorders.1 h)

theorem bare_expression {a b : Expression} (h : a.same b = true) :
    bare Node.bare (expression s a) = bare Node.bare (expression s b) := by
  rw [Expression.same, Bool.and_eq_true, beq_iff_eq] at h
  have hcondition := bare_condition (s := s) h.1
  rw [expression_eq, expression_eq, h.2]
  split
  · rfl
  · cases ha : condition s a.condition <;> cases hb : condition s b.condition <;>
      rw [ha, hb] at hcondition <;>
      simp only [bare, Except.ok.injEq, Except.error.injEq, reduceCtorEq] at hcondition
    · exact congrArg Except.error hcondition
    · rename_i n m
      have hboolean : n.isBoolean = m.isBoolean := by
        rw [← Node.isBoolean_bare, hcondition, Node.isBoolean_bare]
      simp only [hboolean]
      split
      · exact congrArg Except.ok hcondition
      · rfl

theorem bare_query {p q : Query} (h : p.same q = true) :
    bare Node.bare (query s p) = bare Node.bare (query s q) := by
  refine bare_map (List.map Node.bare) ?_ fun ns ms hns => ?_
  · refine bare_traversal (expression s) (fun e => .inExpression e.text) ?_ ?_
      ((agree_iff.1 h).imp fun _ _ => bare_expression)
    · exact fun e es => rfl
    · intro x y e e' he
      simp only [CompileError.bare, he]
  · rw [Node.bare, Node.bare, Node.bareAll_eq, Node.bareAll_eq, hns]

/-- **Equal residuals have the same predicate**, or none for the same reason, up to the texts that
are printed of them. -/
theorem bare_predicate {r r' : Residual} (h : r.same r' = true) :
    bare Node.bare (predicate s r) = bare Node.bare (predicate s r') := by
  have hqueries := agree_iff.1 h
  have hempty : r.any List.isEmpty = r'.any List.isEmpty := by
    clear h
    induction hqueries with
    | nil => rfl
    | @cons p q r r' hpq _ ih =>
      rw [List.any_cons, List.any_cons, ih]
      cases p <;> cases q <;> first | rfl | cases hpq
  have hnone : r.isEmpty = r'.isEmpty := by
    cases hqueries <;> rfl
  rw [predicate, predicate, hempty, hnone]
  split
  · rfl
  split
  · rfl
  refine bare_map (List.map Node.bare) ?_ fun ns ms hns => ?_
  · refine bare_traversal (query s) (fun q => .inQuery q.text) ?_ ?_
      (hqueries.imp fun _ _ => bare_query)
    · exact fun q qs => rfl
    · intro x y e e' he
      simp only [CompileError.bare, he]
  · rw [Node.bare, Node.bare, Node.bareAll_eq, Node.bareAll_eq, hns]

/-- A set that lists its elements in order compiles like the array of them. -/
theorem term_set_of_pairwise {es : List Term}
    (h : es.Pairwise fun a b => (Term.cmp a b).isLE = true) :
    term s (.set es) = term s (.array es) := by
  rw [term_set, Term.sorted, List.mergeSort_of_pairwise h]

/-- **Equal residuals compile alike**, so that the order of sets never matters.  Either both have
the same SQL; or both have a predicate, and the same pairs of its operands have no form in SQL; or
neither has a predicate, and the root causes are errors of the same kind. -/
theorem sql_of_same (s : Settings) {r r' : Residual} (h : r.same r' = true) :
    (∃ text, sql s r = .ok text ∧ sql s r' = .ok text) ∨
    (∃ faults, sql s r = .error (.generation faults) ∧ sql s r' = .error (.generation faults)) ∨
    (∃ e e', predicate s r = .error e ∧ predicate s r' = .error e' ∧ sql s r = .error e ∧
      sql s r' = .error e' ∧ e.rootCause.ctorIdx = e'.rootCause.ctorIdx) := by
  have hpredicate := bare_predicate (s := s) h
  rw [sql, sql]
  cases hr : predicate s r <;> cases hr' : predicate s r' <;> rw [hr, hr'] at hpredicate <;>
    simp only [bare, Except.ok.injEq, Except.error.injEq, reduceCtorEq] at hpredicate
  · rename_i e e'
    exact .inr (.inr ⟨e, e', rfl, rfl, rfl, rfl,
      CompileError.ctorIdx_rootCause_of_bare hpredicate⟩)
  · rename_i n n'
    have hrender : n.render = n'.render := by
      rw [← Node.render_bare, hpredicate, Node.render_bare]
    simp only [hrender]
    split
    · exact .inl ⟨_, rfl, rfl⟩
    · exact .inr (.inl ⟨_, rfl, rfl⟩)

/-- Sets inside of an array inside of a set, listed in other orders, and the SQL of both. -/
theorem sql_of_same_nested :
    let s : Settings := { resolvers := some [.ofColumn "input.tags" "tags" (.array .string)] }
    let tags : Term := .ref [.var "input", .string "tags"]
    let left : Term := .set [.array [.set [.string "b", .string "a"]], .string "x"]
    let right : Term := .set [.string "x", .array [.set [.string "a", .string "b"]]]
    let r : Residual := [[.ofCall "eq" [tags, left]]]
    let r' : Residual := [[.ofCall "eq" [tags, right]]]
    r.same r' = true ∧
      sql s r = .ok "tags = ARRAY['x', ARRAY[ARRAY['a', 'b']]]" ∧
      sql s r' = .ok "tags = ARRAY['x', ARRAY[ARRAY['a', 'b']]]" := by
  intro s tags left right r r'
  have hinner : (Term.set [.string "b", .string "a"]).Reorders (.set [.string "a", .string "b"]) :=
    ⟨[.string "b", .string "a"], ⟨rfl, rfl, trivial⟩, .swap _ _ _⟩
  have hsets : left.Reorders right :=
    ⟨[.array [.set [.string "a", .string "b"]], .string "x"], ⟨⟨hinner, trivial⟩, rfl, trivial⟩,
      .swap _ _ _⟩
  have hself : ∀ t : Term, t.same t = true := fun _ => beq_iff_eq.2 Std.ReflCmp.compare_self
  have hterms := agree_iff.2 (.cons (hself (.operatorRef "eq"))
    (.cons (hself tags) (.cons (same_iff_reorders.2 hsets) .nil)))
  have hexpression : (Expression.ofCall "eq" [tags, left]).same (.ofCall "eq" [tags, right]) =
      true := Bool.and_eq_true_iff.2 ⟨hterms, rfl⟩
  have hsame : r.same r' = true :=
    agree_iff.2 (.cons (agree_iff.2 (.cons hexpression .nil)) .nil)
  -- The sets of `right` are in order, so that they compile like arrays.
  have hpair : term s (.set [.string "a", .string "b"]) =
      .ok (.array "[\"a\", \"b\"]" [.string "a", .string "b"]) :=
    term_set_of_pairwise (List.pairwise_pair.2 rfl)
  have hterm : term s right = .ok (.array "[\"x\", [\x7b\"a\", \"b\"\x7d]]" [.string "x",
      .array "[\x7b\"a\", \"b\"\x7d]" [.array "[\"a\", \"b\"]" [.string "a", .string "b"]]]) := by
    rw [term_set_of_pairwise (List.pairwise_pair.2 rfl), term, terms, terms, terms, term, term,
      terms, hpair]
    rfl
  have hright : sql s r' = .ok "tags = ARRAY['x', ARRAY[ARRAY['a', 'b']]]" := by
    simp only [r', sql, predicate, queries, query, expressions, expression, Expression.ofCall, call,
      terms, hterm]
    rfl
  refine ⟨hsame, ?_, hright⟩
  rcases sql_of_same s hsame with ⟨text, hr, hr'⟩ | ⟨faults, -, hr'⟩ | ⟨e, e', -, -, -, hr', -⟩
  · rw [hr, ← hr', hright]
  · cases hright.symm.trans hr'
  · cases hright.symm.trans hr'

end Compile

end RowFilter
