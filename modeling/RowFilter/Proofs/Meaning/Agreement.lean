import RowFilter.Proofs.Meaning.Predicate
import RowFilter.Proofs.Meaning.Residual

/-!
# Compiled residuals mean what they did

The SQL of a residual is a text.  Read as a condition, with the text of each column for one operand,
it is true of a row exactly if the residual holds of it.  The proof goes over the terms: each of
them compiles to an operand that may take the values which the term may take
(`Compile.means_of_term`).  Queries and residuals then are conjunctions and disjunctions of truth
values.

* `Compile.ReadsAs` — a text reads as a condition.
* `Compile.sql_means` — the main result.
-/

set_option autoImplicit false

namespace RowFilter

open Value
open Sql (Node Expr)

namespace Compile

variable {s : Settings} {ρ : Assignment}

/-! ## Calls -/

/-- When an operator holds of operands, by what it compiles to. -/
def Operator.holds (xs sought ys : List Value) : Operator → Bool
  | equality negate => xs.any fun x => ys.any fun y => compared negate x y
  | member => sought.any fun x => ys.any fun collection => decide (x ∈ collection.elements)

theorem operatorHolds_eq {name : String} {op : Operator} (h : Operator.ofName? name = some op)
    (xs sought ys : List Value) : operatorHolds name xs sought ys = op.holds xs sought ys := by
  unfold Operator.ofName? at h
  split at h <;> cases h <;> simp [operatorHolds, Operator.holds, compared]

/-- What a term is looked up by is what it takes, unless it was declared as an array. -/
theorem sought_eq {t : Term} {n : Node} (hn : term s t = .ok n)
    (harray : Sql.isDeclaredArray n = false) (vs : List Value) : t.sought s ρ vs = vs := by
  unfold Term.sought
  split
  · next segments =>
    split
    · next sql element hreference =>
      have hcolumn : term s (.ref segments) = _ := hreference
      rw [hn] at hcolumn
      cases hcolumn
      cases harray
    · rfl
  · rfl

/-- What is looked up as a single value is neither any element nor declared as an array. -/
theorem ne_anyElement_of_isSingle {n : Node} (h : Sql.Membership.isSingle n = true) :
    n.kind ≠ .anyElement ∧ Sql.isDeclaredArray n = false := by
  rw [Sql.Membership.isSingle, Bool.and_eq_true, Bool.not_eq_true'] at h
  refine ⟨fun hkind => ?_, h.2⟩
  rw [hkind] at h
  cases h.1

/-- What a membership test looks up is the same for a term and for what it compiles to. -/
theorem seeks_of_means {t : Term} {n : Node} (hn : term s t = .ok n)
    (hmeans : n.Means ρ (t.values s ρ)) : n.Seeks ρ (t.sought s ρ (t.values s ρ)) := by
  constructor
  · intro harray
    obtain ⟨sql, element, scope, rfl⟩ := Sql.eq_column_of_isDeclaredArray harray
    obtain ⟨segments, rfl, hreference⟩ := term_eq_column hn
    cases scope with
    | whole =>
      obtain ⟨v, heval, _, hadmits⟩ := hmeans.value (by simp [Node.kind, Sql.Kind.ofType])
      cases heval
      rw [Term.sought, hreference]
      exact congrArg some hadmits
    | anyElement =>
      rw [Term.sought, hreference]
      exact hmeans.element rfl
  · intro hsingle
    obtain ⟨hkind, harray⟩ := ne_anyElement_of_isSingle hsingle
    obtain ⟨v, heval, hvalues, _⟩ := hmeans.value hkind
    exact ⟨v, heval, by rw [sought_eq hn harray, hvalues]⟩

/-! ## Terms -/

theorem isElementwise_of_kind {t : Term} {n : Node} (hn : term s t = .ok n)
    (hkind : n.kind = .anyElement) : t.isElementwise s = true := by
  cases n with
  | column sql type scope =>
    obtain ⟨segments, rfl, hreference⟩ := term_eq_column hn
    cases scope with
    | whole => cases type <;> cases hkind
    | anyElement => rw [Term.isElementwise, hreference]
  | _ => cases hkind

theorem ne_anyElement_of_isElementwise {t : Term} {n : Node} (hn : term s t = .ok n)
    (h : t.isElementwise s = false) : n.kind ≠ .anyElement := by
  intro hkind
  have helementwise := isElementwise_of_kind hn hkind
  rw [h] at helementwise
  cases helementwise

/-- Elements of an array have one value each, and so has the array. -/
theorem eval_of_forall₂ {es : List Term} {ns : List Node}
    (h : List.Forall₂ (fun e n => term s e = .ok n) es ns)
    (hmeans : ∀ e ∈ es, ∀ n ∈ ns, term s e = .ok n → n.Means ρ (e.values s ρ))
    (hscoped : ∀ e ∈ es, e.isElementwise s = false) :
    ∃ vs, List.Forall₂ (fun n v => n.toExpr.eval ρ = some v) ns vs ∧
      (es.map (Term.values s ρ)).sections = [vs] := by
  induction h with
  | nil => exact ⟨[], .nil, rfl⟩
  | @cons e n es ns hn _ ih =>
    obtain ⟨vs, heval, hsections⟩ := ih
      (fun e he n hn => hmeans e (List.mem_cons_of_mem _ he) n (List.mem_cons_of_mem _ hn))
      (fun e he => hscoped e (List.mem_cons_of_mem _ he))
    have hkind := ne_anyElement_of_isElementwise hn (hscoped e List.mem_cons_self)
    obtain ⟨v, hv, hvalues, _⟩ :=
      (hmeans e List.mem_cons_self n List.mem_cons_self hn).value hkind
    refine ⟨v :: vs, .cons hv heval, ?_⟩
    rw [List.map_cons, hvalues, List.sections, hsections]
    rfl

theorem means_array {source : String} {es : List Term} {ns : List Node}
    (h : List.Forall₂ (fun e n => term s e = .ok n) es ns)
    (hmeans : ∀ e ∈ es, ∀ n ∈ ns, term s e = .ok n → n.Means ρ (e.values s ρ))
    (hscoped : ∀ e ∈ es, e.isElementwise s = false) :
    (Node.array source ns).Means ρ ((Term.array es).values s ρ) := by
  obtain ⟨vs, heval, hsections⟩ := eval_of_forall₂ h hmeans hscoped
  have hvalues : (Term.array es).values s ρ = [.array vs] := by
    rw [Term.values, Term.valuesOf_eq, Term.arraysOf, List.map_map]
    exact congrArg _ hsections
  rw [hvalues]
  refine .of_eval (by simp [Node.kind]) ?_ rfl
  rw [Node.toExpr, Node.toExprs_eq, Expr.eval,
    Expr.evalAll_eq_some (List.forall₂_map_left_iff.2 heval), Option.map_some]

theorem means_reference {segments : List Term} {n : Node} (hn : reference s segments = .ok n)
    (hρ : Respects s ρ [segments]) : n.Means ρ (Term.referenceValues s ρ segments) := by
  obtain ⟨sql, type, scope, rfl, harray⟩ := isColumn_of_reference hn
  have htype := hρ segments List.mem_cons_self sql type scope hn
  rw [Term.referenceValues, hn]
  cases scope with
  | whole =>
    refine .of_eval ?_ rfl ?_
    · cases type <;> simp [Node.kind, Sql.Kind.ofType]
    · cases type with
      | boolean => exact eq_boolean_of_hasType htype
      | array element => exact eq_array_of_hasType htype
      | _ => trivial
  | anyElement =>
    cases type with
    | array element =>
      refine ⟨fun _ => congrArg some (eq_array_of_hasType htype), fun hkind => absurd rfl hkind⟩
    | _ => cases harray rfl

/-- **A term compiles to an operand that may take the same values.** -/
theorem means_of_term {t : Term} {n : Node} (hn : term s t = .ok n)
    (hscoped : t.isScoped s = true) (hfaults : n.render.faults = [])
    (hρ : Respects s ρ t.references) : n.Means ρ (t.values s ρ) := by
  induction t using Term.induct generalizing n with
  | boolean b =>
    cases hn
    exact .of_eval (by simp [Node.kind]) rfl ⟨b, rfl⟩
  | number text =>
    rw [term] at hn
    split at hn
    · cases hn
      exact .of_eval (by simp [Node.kind]) rfl trivial
    · cases hn
  | string value =>
    cases hn
    exact .of_eval (by simp [Node.kind]) rfl trivial
  | ref segments => exact means_reference hn hρ
  | array es ih =>
    obtain ⟨source, ns, rfl, hns⟩ := term_array_eq_ok hn
    have hes := (Term.areScoped_iff s).1 hscoped
    refine means_array hns (fun e he m hm hem => ?_) fun e he => (hes e he).1
    exact ih e he hem (hes e he).2 (Node.faults_array_iff.1 hfaults m hm)
      (hρ.mono (Term.references_subset_of_mem he))
  | set es ih =>
    rw [term_set] at hn
    obtain ⟨source, ns, rfl, hns⟩ := term_array_eq_ok hn
    have hes := (Term.areScoped_iff s).1 hscoped
    rw [Term.values_set]
    refine means_array hns (fun e he m hm hem => ?_) fun e he => (hes e (Term.mem_sorted.1 he)).1
    have he' := Term.mem_sorted.1 he
    exact ih e he' hem (hes e he').2 (Node.faults_array_iff.1 hfaults m hm)
      (hρ.mono (Term.references_subset_of_mem he'))
  | call ts ih =>
    obtain ⟨t, l, r, name, op, left, right, rfl, hname, hop, hleft, hright, rfl⟩ := call_eq_ok hn
    have hts := (Term.areOperands_iff s).1 hscoped
    have hl : Respects s ρ l.references := hρ.mono (Term.references_subset_of_mem (by simp))
    have hr : Respects s ρ r.references := hρ.mono (Term.references_subset_of_mem (by simp))
    rw [Term.values_call hname, operatorHolds_eq hop]
    cases op with
    | equality negate =>
      obtain ⟨⟨exchanged, f, hf⟩, hlfaults, hrfaults⟩ := Node.form_of_equality hfaults
      exact .equality hf (ih l (by simp) hleft (hts l (by simp)) hlfaults hl)
        (ih r (by simp) hright (hts r (by simp)) hrfaults hr)
    | member =>
      obtain ⟨m, hm, hrfaults, hlfaults⟩ := Node.form_of_member hfaults
      refine .member hm (fun hne => seeks_of_means hleft ?_)
        (ih r (by simp) hright (hts r (by simp)) hrfaults hr)
      exact ih l (by simp) hleft (hts l (by simp)) (hlfaults hne) hl
  | null => cases hn
  | var name => cases hn
  | object entries => cases hn

/-! ## Residuals -/

theorem means_of_condition {c : Condition} {n : Node} (hn : condition s c = .ok n)
    (hscoped : c.isScoped s = true) (hfaults : n.render.faults = [])
    (hρ : Respects s ρ c.references) : n.Means ρ (c.values s ρ) := by
  cases c with
  | call ts => exact means_of_term (t := .call ts) hn hscoped hfaults hρ
  | term t => exact means_of_term hn hscoped hfaults hρ

theorem truth_of_expression {e : Expression} {n : Node} (hn : expression s e = .ok n)
    (hscoped : e.condition.isScoped s = true) (hfaults : n.render.faults = [])
    (hρ : Respects s ρ e.condition.references) : n.toExpr.Truth ρ (e.holds s ρ) := by
  obtain ⟨hnegated, hcondition, hboolean⟩ := expression_eq_ok hn
  have hmeans := means_of_condition hcondition hscoped hfaults hρ
  have hkind : n.kind = .boolean ∨ n.kind = .predicate := by
    unfold Node.isBoolean at hboolean
    split at hboolean
    · next h => exact .inl h
    · next h => exact .inr h
    · cases hboolean
  obtain ⟨v, heval, hvalues, hadmits⟩ := hmeans.value (by rcases hkind with h | h <;> simp [h])
  obtain ⟨b, rfl⟩ : ∃ b, v = .boolean b := by
    rcases hkind with h | h <;> rw [h] at hadmits <;> exact hadmits
  rw [Expression.holds, hvalues, hnegated]
  cases b with
  | true => exact heval
  | false => exact heval

/-- Parts that are true or false, as what they come from is. -/
theorem truths_of_forall₂ {α : Type} {R : α → Node → Prop} {holds : α → Bool} {xs : List α}
    {ns : List Node} (h : List.Forall₂ R xs ns)
    (htruth : ∀ x ∈ xs, ∀ n ∈ ns, R x n → n.toExpr.Truth ρ (holds x)) :
    List.Forall₂ (Expr.Truth ρ) (Node.toExprs ns) (xs.map holds) := by
  induction h with
  | nil => exact .nil
  | @cons x n xs ns hxn _ ih =>
    refine .cons (htruth x List.mem_cons_self n List.mem_cons_self hxn) (ih ?_)
    exact fun y hy m hm => htruth y (List.mem_cons_of_mem _ hy) m (List.mem_cons_of_mem _ hm)

theorem truth_of_query {q : Query} {n : Node} (hn : query s q = .ok n)
    (hscoped : ∀ e ∈ q, e.condition.isScoped s = true) (hfaults : n.render.faults = [])
    (hρ : ∀ e ∈ q, Respects s ρ e.condition.references) : n.toExpr.Truth ρ (q.holds s ρ) := by
  obtain ⟨ns, rfl, hns⟩ := query_eq_ok hn
  have hall : q.holds s ρ = (q.map (Expression.holds s ρ)).all id := by
    rw [Query.holds, List.all_map]
    rfl
  rw [hall, Node.toExpr]
  refine Expr.eval_conjoined (truths_of_forall₂ hns fun e he m hm hem => ?_)
  have hm := Node.faults_conjunction_iff.1 hfaults m hm
  exact truth_of_expression hem (hscoped e he) hm (hρ e he)

theorem truth_of_predicate {r : Residual} {n : Node} (hn : predicate s r = .ok n)
    (hscoped : r.isScoped s = true) (hfaults : n.render.faults = [])
    (hρ : Respects s ρ r.references) : n.toExpr.Truth ρ (r.holds s ρ) := by
  rcases predicate_eq_ok hn with ⟨rfl, rfl⟩ | ⟨hempty, rfl⟩ | ⟨ns, rfl, hns⟩
  · rfl
  · have hholds : r.holds s ρ = true := List.any_eq_true.2 ⟨[], hempty, rfl⟩
    rw [hholds]
    rfl
  · have hany : r.holds s ρ = (r.map (Query.holds s ρ)).any id := by
      rw [Residual.holds, List.any_map]
      rfl
    rw [hany, Node.toExpr]
    refine Expr.eval_disjoined (truths_of_forall₂ hns fun q hq m hm hqm => ?_)
    simp only [Residual.isScoped, List.all_eq_true] at hscoped
    refine truth_of_query hqm (hscoped q hq) (Node.faults_disjunction_iff.1 hfaults m hm) ?_
    exact fun e he => hρ.mono fun segments hsegments =>
      List.mem_flatMap_of_mem hq (List.mem_flatMap_of_mem he hsegments)

/-! ## The text -/

/-- **The text reads as the condition**, where the texts of the columns that the references lead to
count as operands: it is made of keywords and signs, strings, numbers and such columns, and the
grammar derives the condition from them. -/
def ReadsAs (s : Settings) (references : List (List Term)) (text : String) (e : Expr) : Prop :=
  ∃ ls, Sql.spelling ls = text ∧
    (∀ l ∈ ls, l.isFixed = true ∨ IsLeafOf s references l) ∧ Sql.Derives (.condition e) ls

/-- **The SQL of a residual means what the residual means.**  It reads as a condition, and whatever
values of their types the columns have, the condition is true if the residual holds and false if it
does not.  Where the texts of the columns are words, the condition is found from the text alone. -/
theorem sql_means {r : Residual} {text : String} (hscoped : r.isScoped s = true)
    (h : sql s r = .ok text) :
    ∃ e, ReadsAs s r.references text e ∧
      ((∀ segments ∈ r.references, ∀ column type scope,
          reference s segments = .ok (.column column type scope) →
          Sql.isColumnWord column = true) → Sql.parse text = some e) ∧
      ∀ ρ, Respects s ρ r.references → e.eval ρ = some (.boolean (r.holds s ρ)) := by
  obtain ⟨n, hn, hfaults, rfl⟩ := sql_eq_ok h
  have hderives := (Node.derivable hfaults).condition
  refine ⟨n.toExpr, ⟨n.lexemes, Node.spelling_lexemes hfaults, fun l hl => ?_, hderives⟩,
    fun hwords => ?_, fun ρ hρ => truth_of_predicate hn hscoped hfaults hρ⟩
  · exact (Node.mem_lexemes hl).imp_right fun hleaf => isLeafOf_of_predicate hn hleaf
  · have hplain : n.isPlain = true := by
      refine List.all_eq_true.2 fun l hl => ?_
      have hleaf := isLeafOf_of_predicate hn hl
      cases l with
      | number text => exact hleaf
      | column sql =>
        obtain ⟨segments, hsegments, type, scope, hreference⟩ := hleaf
        exact hwords segments hsegments sql type scope hreference
      | _ => rfl
    rw [Sql.parse, Node.scan_render hplain hfaults, Option.bind_some, hderives.read_eq_some]

/-- Two queries with a reference that iterates, a membership test, and a comparison that is compared
itself: the SQL is read, and has the value of the residual. -/
theorem sql_means_iterated :
    ∃ (s : Settings) (r : Residual) (ρ : Assignment),
      r.isScoped s = true ∧
      sql s r = .ok ("'it''s' != ANY(tags) AND name = ANY(ARRAY['b', 'a'])" ++
        " OR ok AND (name = 'x OR y') = false") ∧
      Respects s ρ r.references ∧
      ∃ e, Sql.parse ("'it''s' != ANY(tags) AND name = ANY(ARRAY['b', 'a'])" ++
          " OR ok AND (name = 'x OR y') = false") = some e ∧
        e.eval ρ = some (.boolean (r.holds s ρ)) := by
  let input (field : String) : Term := .ref [.var "input", .string field]
  let s : Settings :=
    { resolvers := some
        [.column [.field "input", .field "tags"] "tags" (.array .string),
          .column [.field "input", .field "name"] "name" .string,
          .column [.field "input", .field "ok"] "ok" .boolean] }
  let r : Residual :=
    [[{ condition := .call
          [.var "neq", .ref [.var "input", .string "tags", .var "_"], .string "it's"] },
      { condition := .call [.ref [.var "internal", .string "member_2"], input "name",
          .array [.string "b", .string "a"]] }],
    [{ condition := .term (input "ok") },
      { condition := .call [.var "equal", .boolean false,
          .call [.var "eq", input "name", .string "x OR y"]] }]]
  let ρ : Assignment := fun column =>
    if column = "tags" then .array [.string "x"]
    else if column = "ok" then .boolean true else .string "b"
  have hreferences : ∀ segments ∈ r.references, ∀ column type scope,
      reference s segments = .ok (.column column type scope) →
      Sql.isColumnWord column = true ∧ (ρ column).hasType type = true := by
    intro segments hsegments column type scope h
    have hcases : segments = [.var "input", .string "tags", .var "_"] ∨
        segments = [.var "input", .string "name"] ∨ segments = [.var "input", .string "ok"] := by
      simpa [r, input, Residual.references, Condition.references, Term.argumentReferences,
        Term.referencesOf, Term.references, or_comm, or_assoc] using hsegments
    rcases hcases with rfl | rfl | rfl <;> cases h <;> decide
  have hρ : Respects s ρ r.references := fun segments hsegments column type scope h =>
    (hreferences segments hsegments column type scope h).2
  obtain ⟨e, _, hparse, heval⟩ := sql_means (s := s) (r := r) rfl rfl
  exact ⟨s, r, ρ, rfl, rfl, hρ, e,
    hparse fun segments hsegments column type scope h =>
      (hreferences segments hsegments column type scope h).1, heval ρ hρ⟩

end Compile

end RowFilter
