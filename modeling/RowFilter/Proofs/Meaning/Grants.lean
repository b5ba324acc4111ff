import RowFilter.Proofs.Meaning.Agreement
import RowFilter.Proofs.Meaning.Iteration

/-!
# What a row that SQL selects is granted by

A row that the SQL of a residual selects is granted by one of its queries.  Nothing is asked of the
values of the columns here, not even that they are of their types: where SQL is given what it cannot
compare, it selects nothing.

A query grants a row by its expressions one by one.  Each of them finds its own elements of the
arrays that it iterates over, also where two of them iterate by the same variable.  So two names
that are the same say no more than two that differ, and what a name shares is lost.  A query in
which no name iterates at two places shares nothing, and grants the row by one choice of indices.
Where the array is empty, no index picks anything, and what is compared with it compares false.

* `Node.Sees` — the values that an operand may take are those that SQL sees.
* `Compile.holds_of_predicate` — a selected row is granted by a query.
* `Compile.sql_grants` — and by one choice of indices, if no name iterates twice.
* `Compile.sql_ignores_shared_name` — but not if one does.
-/

set_option autoImplicit false

namespace RowFilter

open Value
open Sql (Node Expr Form Membership)

/-! ## Conditions that have a value -/

namespace Sql.Expr

variable {ρ : Assignment} {negate : Bool} {l r : Expr} {u : Value}

theorem eval_compare_eq_some (h : (compare negate l r).eval ρ = some u) :
    ∃ v w, l.eval ρ = some v ∧ r.eval ρ = some w ∧ u = .boolean (compared negate v w) := by
  rw [eval] at h
  split at h
  · next v w hv hw =>
    cases h
    exact ⟨v, w, hv, hw, rfl⟩
  · cases h

theorem elements?_eq_some {v : Value} {vs : List Value} (h : v.elements? = some vs) :
    v = .array vs := by
  cases v with
  | array ws =>
    cases h
    rfl
  | _ => cases h

theorem eval_compareAny_eq_some (h : (compareAny negate l r).eval ρ = some u) :
    ∃ v ws, l.eval ρ = some v ∧ r.eval ρ = some (.array ws) ∧
      u = .boolean (ws.any (compared negate v)) := by
  rw [eval] at h
  split at h
  · next v ws hv hws =>
    cases h
    obtain ⟨w, hw, helements⟩ := Option.bind_eq_some_iff.1 hws
    exact ⟨v, ws, hv, elements?_eq_some helements ▸ hw, rfl⟩
  · cases h

theorem eval_overlap_eq_some (h : (overlap l r).eval ρ = some u) :
    ∃ vs ws, l.eval ρ = some (.array vs) ∧ r.eval ρ = some (.array ws) ∧
      u = .boolean (share vs ws) := by
  rw [eval] at h
  split at h
  · next vs ws hvs hws =>
    cases h
    obtain ⟨v, hv, hvelements⟩ := Option.bind_eq_some_iff.1 hvs
    obtain ⟨w, hw, hwelements⟩ := Option.bind_eq_some_iff.1 hws
    exact ⟨vs, ws, elements?_eq_some hvelements ▸ hv, elements?_eq_some hwelements ▸ hw, rfl⟩
  · cases h

theorem forall₂_of_evalAll {es : List Expr} {vs : List Value} (h : evalAll ρ es = some vs) :
    List.Forall₂ (fun e v => e.eval ρ = some v) es vs := by
  induction es generalizing vs with
  | nil =>
    cases h
    exact .nil
  | cons e es ih =>
    rw [evalAll] at h
    split at h
    · next v vs hv hvs =>
      cases h
      exact .cons hv (ih hvs)
    · cases h

theorem forall₂_of_truths {es : List Expr} {bs : List Bool} (h : truths ρ es = some bs) :
    List.Forall₂ (Truth ρ) es bs := by
  induction es generalizing bs with
  | nil =>
    cases h
    exact .nil
  | cons e es ih =>
    rw [truths] at h
    split at h
    · next b bs hb hbs =>
      cases h
      refine .cons ?_ (ih hbs)
      obtain ⟨v, hv, htruth⟩ := Option.bind_eq_some_iff.1 hb
      cases v with
      | boolean c =>
        cases htruth
        exact hv
      | _ => cases htruth
    · cases h

theorem truths_of_forall₂ {es : List Expr} {bs : List Bool} (h : List.Forall₂ (Truth ρ) es bs) :
    truths ρ es = some bs := by
  induction h with
  | nil => rfl
  | cons he _ ih => exact truths_cons he ih

theorem exists_truth_of_conjuncts {e : Expr} (h : ∀ f ∈ e.conjuncts, ∃ b, Truth ρ f b) :
    ∃ b, Truth ρ e b := by
  cases e with
  | conjunction es =>
    obtain ⟨bs, hbs⟩ : ∃ bs, List.Forall₂ (Truth ρ) es bs := exists_forall₂ h
    exact ⟨bs.all id, by rw [Truth, eval, truths_of_forall₂ hbs, Option.map_some]⟩
  | _ => exact h _ List.mem_cons_self

theorem exists_truth_of_disjuncts {e : Expr} (h : ∀ f ∈ e.disjuncts, ∃ b, Truth ρ f b) :
    ∃ b, Truth ρ e b := by
  cases e with
  | disjunction es =>
    obtain ⟨bs, hbs⟩ : ∃ bs, List.Forall₂ (Truth ρ) es bs := exists_forall₂ h
    exact ⟨bs.any id, by rw [Truth, eval, truths_of_forall₂ hbs, Option.map_some]⟩
  | _ => exact h _ List.mem_cons_self

/-- Conditions are true or false, if all of their parts are. -/
theorem exists_truths_of_flatMap {parts : Expr → List Expr}
    (hparts : ∀ {e}, (∀ f ∈ parts e, ∃ b, Truth ρ f b) → ∃ b, Truth ρ e b) {es : List Expr}
    {cs : List Bool} (h : truths ρ (es.flatMap parts) = some cs) :
    ∃ bs, List.Forall₂ (Truth ρ) es bs := by
  refine exists_forall₂ fun e he => hparts fun f hf => ?_
  obtain ⟨b, -, hb⟩ := exists_of_mem_right (forall₂_of_truths h).flip
    (List.mem_flatMap_of_mem he hf)
  exact ⟨b, hb⟩

/-- **A true conjunction has only true parts.** -/
theorem truth_of_conjoined {es : List Expr} (h : Truth ρ (conjoined es) true) :
    ∀ e ∈ es, Truth ρ e true := by
  obtain ⟨bs, hbs⟩ : ∃ bs, List.Forall₂ (Truth ρ) es bs := by
    match es, h with
    | [], _ => exact ⟨[], .nil⟩
    | [e], h => exact ⟨[true], .cons h .nil⟩
    | d :: e :: es, h =>
      obtain ⟨cs, hcs, -⟩ := Option.map_eq_some_iff.1 h
      exact exists_truths_of_flatMap exists_truth_of_conjuncts hcs
  have hall : bs.all id = true := by
    have heval := h.symm.trans (eval_conjoined hbs)
    simpa using heval.symm
  intro e he
  obtain ⟨b, hb, htruth⟩ := exists_of_mem_right hbs.flip he
  rwa [show b = true from List.all_eq_true.1 hall b hb] at htruth

/-- **A true disjunction has a true part.** -/
theorem exists_truth_of_disjoined {es : List Expr} (h : Truth ρ (disjoined es) true) :
    ∃ e ∈ es, Truth ρ e true := by
  obtain ⟨bs, hbs⟩ : ∃ bs, List.Forall₂ (Truth ρ) es bs := by
    match es, h with
    | [], _ => exact ⟨[], .nil⟩
    | [e], h => exact ⟨[true], .cons h .nil⟩
    | d :: e :: es, h =>
      obtain ⟨cs, hcs, -⟩ := Option.map_eq_some_iff.1 h
      exact exists_truths_of_flatMap exists_truth_of_disjuncts hcs
  have hany : bs.any id = true := by
    have heval := h.symm.trans (eval_disjoined hbs)
    simpa using heval.symm
  obtain ⟨b, hb, rfl⟩ := List.any_eq_true.1 hany
  obtain ⟨e, he, htruth⟩ := exists_of_mem_right hbs hb
  exact ⟨e, he, htruth⟩

end Sql.Expr

/-! ## Operands -/

namespace Sql.Node

variable {ρ : Assignment}

/-- **The values that an operand may take are those that SQL sees**, whenever it sees a value at
all: the elements of an array for any element of a column, and the value itself for everything
else. -/
structure Sees (ρ : Assignment) (n : Node) (vs : List Value) : Prop where
  element {v : Value} : n.kind = .anyElement → n.toExpr.eval ρ = some v → vs = v.elements
  value {v : Value} : n.kind ≠ .anyElement → n.toExpr.eval ρ = some v → vs = [v]

theorem Sees.of_value {n : Node} {vs : List Value} (hkind : n.kind ≠ .anyElement)
    (h : ∀ v, n.toExpr.eval ρ = some v → vs = [v]) : n.Sees ρ vs where
  element hany := absurd hany hkind
  value _ := h _

end Sql.Node

theorem Sql.Form.eq_of_eval {ρ : Assignment} {f : Form} {negate : Bool} {l r : Node}
    {vs ws : List Value} {u : Value} (hf : f.Suits l.kind r.kind) (hl : l.Sees ρ vs)
    (hr : r.Sees ρ ws) (h : (f.toExpr negate l.toExpr r.toExpr).eval ρ = some u) :
    u = .boolean (vs.any fun v => ws.any fun w => compared negate v w) := by
  have hcompare (hlkind : l.kind ≠ .anyElement) (hrkind : r.kind ≠ .anyElement)
      (h : (Expr.compare negate l.toExpr r.toExpr).eval ρ = some u) :
      u = .boolean (vs.any fun v => ws.any fun w => compared negate v w) := by
    obtain ⟨v, w, hv, hw, rfl⟩ := Expr.eval_compare_eq_some h
    rw [hl.value hlkind hv, hr.value hrkind hw]
    simp
  cases f with
  | plain =>
    obtain ⟨hkinds, hkind⟩ := hf
    have hne : l.kind ≠ .anyElement := by rcases hkind with h | h | h | h <;> simp [h]
    exact hcompare hne (hkinds ▸ hne) h
  | firstParens => exact hcompare (by simp [hf.1]) (by simp [hf.2]) h
  | bothParens => exact hcompare (by simp [hf.1]) (by simp [hf.2]) h
  | any =>
    obtain ⟨hkind, hrkind⟩ := hf
    obtain ⟨v, ws', hv, hw, rfl⟩ := Expr.eval_compareAny_eq_some h
    rw [hl.value (by rcases hkind with h | h | h <;> simp [h]) hv, hr.element hrkind hw]
    simp [Value.elements]

namespace Sql.Node

variable {ρ : Assignment}

theorem any_compared_comm (negate : Bool) (vs ws : List Value) :
    (ws.any fun w => vs.any fun v => compared negate w v) =
      vs.any fun v => ws.any fun w => compared negate v w := by
  rw [Bool.eq_iff_iff]
  simp only [List.any_eq_true]
  constructor
  · rintro ⟨w, hw, v, hv, h⟩
    exact ⟨v, hv, w, hw, compared_comm negate w v ▸ h⟩
  · rintro ⟨v, hv, w, hw, h⟩
    exact ⟨w, hw, v, hv, compared_comm negate v w ▸ h⟩

theorem Sees.equality {negate exchanged : Bool} {f : Form} {l r : Node} {vs ws : List Value}
    (hf : Form.ofEquality l r = some (exchanged, f)) (hl : l.Sees ρ vs) (hr : r.Sees ρ ws) :
    (Node.equality negate l r).Sees ρ
      [.boolean (vs.any fun v => ws.any fun w => compared negate v w)] := by
  have hsuits := Form.suits_of_ofEquality hf
  refine .of_value (by simp [kind]) fun u hu => ?_
  rw [toExpr, hf] at hu
  cases exchanged with
  | false => rw [Form.eq_of_eval hsuits hl hr hu]
  | true => rw [Form.eq_of_eval hsuits hr hl hu, any_compared_comm]

/-- **A membership test looks up what SQL sees**: the elements of what was declared as an array, or
a single value. -/
structure Searches (ρ : Assignment) (n : Node) (vs : List Value) : Prop where
  elements {v : Value} : isDeclaredArray n = true → n.toExpr.eval ρ = some v → vs = v.elements
  single {v : Value} : Membership.isSingle n = true → n.toExpr.eval ρ = some v → vs = [v]

theorem Sees.member {m : Membership} {x c : Node} {vs ws : List Value}
    (hm : Membership.ofNodes x c = some m) (hx : m ≠ .never → x.Searches ρ vs) (hc : c.Sees ρ ws) :
    (Node.member x c).Sees ρ
      [.boolean (vs.any fun v => ws.any fun w => decide (v ∈ w.elements))] := by
  have hsuits := Membership.suits_of_ofNodes hm
  refine .of_value (by simp [kind]) fun u hu => ?_
  rw [toExpr, hm] at hu
  cases m with
  | never =>
    obtain ⟨source, rfl⟩ := hsuits
    cases hu
    rw [hc.value (v := .array []) (by simp [kind]) rfl]
    simp [Value.elements]
  | overlap =>
    obtain ⟨harray, source, es, rfl⟩ := hsuits
    obtain ⟨vs', ws', hv, hw, rfl⟩ := Expr.eval_overlap_eq_some hu
    rw [(hx (by simp)).elements harray hv, hc.value (by simp [kind]) hw]
    simp only [List.any_cons, List.any_nil, Bool.or_false, share_eq]
    rfl
  | any =>
    obtain ⟨hsingle, hkind⟩ := hsuits
    obtain ⟨v, ws', hv, hw, rfl⟩ := Expr.eval_compareAny_eq_some hu
    rw [(hx (by simp)).single hsingle hv, hc.value (by simp [hkind]) hw]
    simp only [List.any_cons, List.any_nil, Bool.or_false, any_compared_false]
    rfl

end Sql.Node

namespace Compile

variable {s : Settings} {ρ : Assignment}

/-! ## Terms -/

/-- What a membership test looks up is the same for a term and for what it compiles to. -/
theorem searches_of_sees {t : Term} {n : Node} (hn : term s t = .ok n)
    (hsees : n.Sees ρ (t.values s ρ)) : n.Searches ρ (t.sought s ρ (t.values s ρ)) := by
  constructor
  · intro v harray hv
    obtain ⟨sql, element, scope, rfl⟩ := Sql.eq_column_of_isDeclaredArray harray
    obtain ⟨segments, rfl, hreference⟩ := term_eq_column hn
    cases hv
    cases scope with
    | whole => rw [Term.sought, hreference]
    | anyElement =>
      rw [Term.sought, hreference]
      exact hsees.element rfl rfl
  · intro v hsingle hv
    obtain ⟨hkind, harray⟩ := ne_anyElement_of_isSingle hsingle
    rw [sought_eq hn harray, hsees.value hkind hv]

/-- Elements that are not iterated over have one value each, so that there is one list of them. -/
theorem sections_of_sees {es : List Term} {ns : List Node} {vs : List Value}
    (h : List.Forall₂ (fun e n => term s e = .ok n) es ns)
    (hsees : ∀ e ∈ es, ∀ n ∈ ns, term s e = .ok n → n.Sees ρ (e.values s ρ))
    (hscoped : ∀ e ∈ es, e.isElementwise s = false)
    (hvs : List.Forall₂ (fun n v => n.toExpr.eval ρ = some v) ns vs) :
    (es.map (Term.values s ρ)).sections = [vs] := by
  induction h generalizing vs with
  | nil =>
    cases hvs
    rfl
  | @cons e n es ns hn _ ih =>
    obtain ⟨v, vs, hv, hrest, rfl⟩ := List.forall₂_cons_left_iff.1 hvs
    have hkind := ne_anyElement_of_isElementwise hn (hscoped e List.mem_cons_self)
    have hvalues := (hsees e List.mem_cons_self n List.mem_cons_self hn).value hkind hv
    have hsections := ih
      (fun e he n hn => hsees e (List.mem_cons_of_mem _ he) n (List.mem_cons_of_mem _ hn))
      (fun e he => hscoped e (List.mem_cons_of_mem _ he)) hrest
    rw [List.map_cons, hvalues, List.sections, hsections]
    rfl

theorem sees_array {source : String} {es : List Term} {ns : List Node}
    (h : List.Forall₂ (fun e n => term s e = .ok n) es ns)
    (hsees : ∀ e ∈ es, ∀ n ∈ ns, term s e = .ok n → n.Sees ρ (e.values s ρ))
    (hscoped : ∀ e ∈ es, e.isElementwise s = false) :
    (Node.array source ns).Sees ρ ((Term.array es).values s ρ) := by
  refine .of_value (by simp [Node.kind]) fun v hv => ?_
  rw [Node.toExpr, Node.toExprs_eq, Expr.eval, Option.map_eq_some_iff] at hv
  obtain ⟨vs, hvs, rfl⟩ := hv
  have hvs := List.forall₂_map_left_iff.1 (Expr.forall₂_of_evalAll hvs)
  rw [Term.values, Term.valuesOf_eq, Term.arraysOf, List.map_map]
  exact congrArg _ (sections_of_sees h hsees hscoped hvs)

theorem sees_reference {segments : List Term} {n : Node} (hn : reference s segments = .ok n) :
    n.Sees ρ (Term.referenceValues s ρ segments) := by
  obtain ⟨sql, type, scope, rfl, -⟩ := isColumn_of_reference hn
  rw [Term.referenceValues, hn]
  cases scope with
  | whole =>
    refine .of_value ?_ fun v hv => ?_
    · cases type <;> simp [Node.kind, Sql.Kind.ofType]
    · cases hv
      rfl
  | anyElement =>
    refine ⟨fun _ hv => ?_, fun hkind _ => absurd rfl hkind⟩
    cases hv
    rfl

/-- **A term compiles to an operand whose values are those that SQL sees.** -/
theorem sees_of_term {t : Term} {n : Node} (hn : term s t = .ok n)
    (hscoped : t.isScoped s = true) (hfaults : n.render.faults = []) :
    n.Sees ρ (t.values s ρ) := by
  have hliteral {n : Node} {v : Value} (hkind : n.kind ≠ .anyElement)
      (hv : n.toExpr.eval ρ = some v) : n.Sees ρ [v] :=
    .of_value hkind fun w hw => by rw [Option.some.inj (hv.symm.trans hw)]
  induction t using Term.induct generalizing n with
  | boolean b =>
    cases hn
    exact hliteral (by simp [Node.kind]) rfl
  | number text =>
    rw [term] at hn
    split at hn
    · cases hn
      exact hliteral (by simp [Node.kind]) rfl
    · cases hn
  | string value =>
    cases hn
    exact hliteral (by simp [Node.kind]) rfl
  | ref segments => exact sees_reference hn
  | array es ih =>
    obtain ⟨source, ns, rfl, hns⟩ := term_array_eq_ok hn
    have hes := (Term.areScoped_iff s).1 hscoped
    refine sees_array hns (fun e he m hm hem => ?_) fun e he => (hes e he).1
    exact ih e he hem (hes e he).2 (Node.faults_array_iff.1 hfaults m hm)
  | set es ih =>
    rw [term_set] at hn
    obtain ⟨source, ns, rfl, hns⟩ := term_array_eq_ok hn
    have hes := (Term.areScoped_iff s).1 hscoped
    rw [Term.values_set]
    refine sees_array hns (fun e he m hm hem => ?_) fun e he => (hes e (Term.mem_sorted.1 he)).1
    have he' := Term.mem_sorted.1 he
    exact ih e he' hem (hes e he').2 (Node.faults_array_iff.1 hfaults m hm)
  | call ts ih =>
    obtain ⟨t, l, r, name, op, left, right, rfl, hname, hop, hleft, hright, rfl⟩ := call_eq_ok hn
    have hts := (Term.areOperands_iff s).1 hscoped
    rw [Term.values_call hname, operatorHolds_eq hop]
    cases op with
    | equality negate =>
      obtain ⟨⟨exchanged, f, hf⟩, hlfaults, hrfaults⟩ := Node.form_of_equality hfaults
      exact .equality hf (ih l (by simp) hleft (hts l (by simp)) hlfaults)
        (ih r (by simp) hright (hts r (by simp)) hrfaults)
    | member =>
      obtain ⟨m, hm, hrfaults, hlfaults⟩ := Node.form_of_member hfaults
      refine .member hm (fun hne => searches_of_sees hleft ?_)
        (ih r (by simp) hright (hts r (by simp)) hrfaults)
      exact ih l (by simp) hleft (hts l (by simp)) (hlfaults hne)
  | null => cases hn
  | var name => cases hn
  | object entries => cases hn

/-! ## Residuals -/

theorem holds_of_expression {e : Expression} {n : Node} (hn : expression s e = .ok n)
    (hscoped : e.condition.isScoped s = true) (hfaults : n.render.faults = [])
    (htrue : n.toExpr.Truth ρ true) : e.holds s ρ = true := by
  obtain ⟨hnegated, hcondition, hboolean⟩ := expression_eq_ok hn
  have hsees : n.Sees ρ (e.condition.values s ρ) := by
    generalize e.condition = c at hcondition hscoped
    cases c with
    | call ts => exact sees_of_term (t := .call ts) hcondition hscoped hfaults
    | term t => exact sees_of_term hcondition hscoped hfaults
  have hkind : n.kind ≠ .anyElement := by
    intro hkind
    rw [Node.isBoolean, hkind] at hboolean
    cases hboolean
  rw [Expression.holds, hsees.value hkind htrue, hnegated]
  simp

/-- **A row that SQL selects is granted by a query.** -/
theorem holds_of_predicate {r : Residual} {n : Node} (hn : predicate s r = .ok n)
    (hscoped : r.isScoped s = true) (hfaults : n.render.faults = [])
    (htrue : n.toExpr.Truth ρ true) : ∃ q ∈ r, q.holds s ρ = true := by
  rcases predicate_eq_ok hn with ⟨rfl, rfl⟩ | ⟨hempty, rfl⟩ | ⟨ns, rfl, hns⟩
  · cases htrue
  · exact ⟨[], hempty, rfl⟩
  · simp only [Residual.isScoped, List.all_eq_true] at hscoped
    rw [Node.toExpr, Node.toExprs_eq] at htrue
    obtain ⟨_, hmem, htrue⟩ := Expr.exists_truth_of_disjoined htrue
    obtain ⟨m, hm, rfl⟩ := List.mem_map.1 hmem
    obtain ⟨q, hq, hqm⟩ := exists_of_mem_right hns hm
    have hmfaults := Node.faults_disjunction_iff.1 hfaults m hm
    obtain ⟨ms, rfl, hms⟩ := query_eq_ok hqm
    rw [Node.toExpr, Node.toExprs_eq] at htrue
    refine ⟨q, hq, List.all_eq_true.2 fun e he => ?_⟩
    obtain ⟨k, hk, hek⟩ := exists_of_mem_right hms.flip he
    exact holds_of_expression hek (hscoped q hq e he)
      (Node.faults_conjunction_iff.1 hmfaults k hk)
      (Expr.truth_of_conjoined htrue _ (List.mem_map_of_mem hk))

/-! ## The text -/

/-- The text of a residual reads as a condition, which is found from the text alone where the texts
of the columns are words. -/
theorem readsAs_of_predicate {r : Residual} {n : Node} (hn : predicate s r = .ok n)
    (hfaults : n.render.faults = []) : ReadsAs s r.references n.render.text n.toExpr ∧
      ((∀ segments ∈ r.references, ∀ column type scope,
          reference s segments = .ok (.column column type scope) →
          Sql.isColumnWord column = true) → Sql.parse n.render.text = some n.toExpr) := by
  have hderives := (Node.derivable hfaults).condition
  refine ⟨⟨n.lexemes, Node.spelling_lexemes hfaults, fun l hl => ?_, hderives⟩, fun hwords => ?_⟩
  · exact (Node.mem_lexemes hl).imp_right fun hleaf => isLeafOf_of_predicate hn hleaf
  · have hplain : n.isPlain = true := by
      refine List.all_eq_true.2 fun l hl => ?_
      have hleaf := isLeafOf_of_predicate hn hl
      cases l with
      | number text => exact hleaf
      | column sql =>
        obtain ⟨segments, hsegments, type, scope, hreference⟩ := hleaf
        exact hwords segments hsegments sql type scope hreference
      | _ => rfl
    rw [Sql.parse, Node.scan_render hplain hfaults, Option.bind_some, hderives.read_eq_some]

/-- **The SQL of a residual grants no row that no query grants.**  It reads as a condition.  If that
is true, whatever values the columns have, then all expressions of a query hold, where each place
that iterates ranges over the elements by itself; and if no name iterates at two places of the
query, then they hold for one index of every name.

A comparison over an empty array counts as false, and not as one without a value.  So a query that
asks for a false comparison, as `eq(eq(input.tags[x], "a"), false)` does, grants a row without tags,
although there is no element that its name could pick. -/
theorem sql_grants {r : Residual} {text : String} (hscoped : r.isScoped s = true)
    (h : sql s r = .ok text) :
    ∃ e, ReadsAs s r.references text e ∧
      ((∀ segments ∈ r.references, ∀ column type scope,
          reference s segments = .ok (.column column type scope) →
          Sql.isColumnWord column = true) → Sql.parse text = some e) ∧
      ∀ ρ, e.eval ρ = some (.boolean true) →
        ∃ q ∈ r, q.holds s ρ = true ∧
          ((q.iterators s).Nodup →
            ∃ ι, Covers s ρ ι q.references ∧ q.holdsAt s ρ ι = true) := by
  obtain ⟨n, hn, hfaults, rfl⟩ := sql_eq_ok h
  obtain ⟨hreads, hparse⟩ := readsAs_of_predicate hn hfaults
  refine ⟨n.toExpr, hreads, hparse, fun ρ htrue => ?_⟩
  obtain ⟨q, hq, hholds⟩ := holds_of_predicate hn hscoped hfaults htrue
  exact ⟨q, hq, hholds, Query.exists_choice hholds⟩

/-! ## Names that are shared -/

/-- The column `tags` has the array of strings that `input.tags` refers to. -/
def tagged : Settings :=
  { resolvers := some [.column [.field "input", .field "tags"] "tags" (.array .string)] }

theorem eq_tags_of_reference {segments : List Term} {sql : String} {type : ValueType}
    {scope : Sql.Scope} (h : reference tagged segments = .ok (.column sql type scope)) :
    sql = "tags" ∧ type = .array .string := by
  obtain ⟨path, rs, r, -, hrs, hfirst⟩ := resolver_of_reference h
  cases hrs
  obtain ⟨hr, hresolve⟩ := Resolver.resolve_of_first hfirst
  obtain rfl := List.mem_singleton.1 hr
  obtain ⟨rest, -, hcolumn⟩ := Option.bind_eq_some_iff.1 hresolve
  unfold Resolver.wholeOrElement at hcolumn
  split at hcolumn <;> cases hcolumn <;> exact ⟨rfl, rfl⟩

theorem isColumnWord_of_tagged {segments : List Term} {sql : String} {type : ValueType}
    {scope : Sql.Scope} (h : reference tagged segments = .ok (.column sql type scope)) :
    Sql.isColumnWord sql = true := by
  rw [(eq_tags_of_reference h).1]
  rfl

/-- What the text reads as is true, if the compiled residual is. -/
theorem exists_true_of_tagged {r : Residual} {text : String} (h : sql tagged r = .ok text)
    (htrue : ∀ n, predicate tagged r = .ok n → n.toExpr.Truth ρ true) :
    ∃ e, Sql.parse text = some e ∧ e.eval ρ = some (.boolean true) := by
  obtain ⟨n, hn, hfaults, rfl⟩ := sql_eq_ok h
  refine ⟨n.toExpr, (readsAs_of_predicate hn hfaults).2 ?_, htrue n hn⟩
  exact fun _ _ _ _ _ hreference => isColumnWord_of_tagged hreference

/-- The tag at a name. -/
def tagAt (x : String) : Term := .ref [.var "input", .string "tags", .var x]

/-- The tag at a name is the given one. -/
def tagEq (x tag : String) : Expression :=
  { condition := .call [.ref [.var "eq"], tagAt x, .string tag] }

/-- An array of the tag at a name is the given one. -/
def tagsEq (x : String) (tags : List (List String)) : Expression :=
  { condition := .call [.ref [.var "eq"], .array [tagAt x],
      .array (tags.map fun tag => .array (tag.map .string))] }

/-- With the tags `a` and `b`, names that differ find one each. -/
theorem sql_grants_distinct_names :
    let q : Query := [tagEq "x" "a", tagEq "y" "b"]
    let ρ : Assignment := fun _ => .array [.string "a", .string "b"]
    let text := "'a' = ANY(tags) AND 'b' = ANY(tags)"
    Residual.isScoped tagged [q] = true ∧ sql tagged [q] = .ok text ∧
      (∃ e, Sql.parse text = some e ∧ e.eval ρ = some (.boolean true)) ∧
      (q.iterators tagged).Nodup ∧
      ∃ ι, Covers tagged ρ ι q.references ∧ q.holdsAt tagged ρ ι = true := by
  intro q ρ text
  have hscoped : Residual.isScoped tagged [q] = true := rfl
  have hsql : sql tagged [q] = .ok text := rfl
  have hnodup : (q.iterators tagged).Nodup := by decide
  obtain ⟨e, hparse, htrue⟩ : ∃ e, Sql.parse text = some e ∧ e.eval ρ = some (.boolean true) :=
    exists_true_of_tagged hsql fun n hn => by
      cases hn
      rfl
  obtain ⟨e', -, hreads, hgrants⟩ := sql_grants hscoped hsql
  have hparse' := hreads fun _ _ _ _ _ hreference => isColumnWord_of_tagged hreference
  obtain rfl := Option.some.inj (hparse.symm.trans hparse')
  obtain ⟨q', hq', -, hchoice⟩ := hgrants ρ htrue
  obtain rfl := List.mem_singleton.1 hq'
  exact ⟨hscoped, hsql, ⟨e, hparse, htrue⟩, hnodup, hchoice hnodup⟩

/-- **One name at two places finds two elements**, although no tag is both `a` and `b`; and within
an array it finds the whole of what it iterates over. -/
theorem sql_ignores_shared_name :
    (let q : Query := [tagEq "x" "a", tagEq "x" "b"]
      let ρ : Assignment := fun _ => .array [.string "a", .string "b"]
      let text := "'a' = ANY(tags) AND 'b' = ANY(tags)"
      sql tagged [q] = .ok text ∧ Respects tagged ρ (Residual.references [q]) ∧
        (∃ e, Sql.parse text = some e ∧ e.eval ρ = some (.boolean true)) ∧
        ∀ ι, q.holdsAt tagged ρ ι = false) ∧
    (let q : Query := [tagsEq "x" [["a"]]]
      let ρ : Assignment := fun _ => .array [.string "a"]
      let text := "ARRAY[tags] = ARRAY[ARRAY['a']]"
      sql tagged [q] = .ok text ∧ Respects tagged ρ (Residual.references [q]) ∧
        (∃ e, Sql.parse text = some e ∧ e.eval ρ = some (.boolean true)) ∧
        ∀ ι, q.holdsAt tagged ρ ι = false) := by
  have hrespects {ρ : Assignment} (hρ : (ρ "tags").hasType (.array .string) = true)
      (references : List (List Term)) : Respects tagged ρ references := by
    intro segments _ column type scope hreference
    obtain ⟨rfl, rfl⟩ := eq_tags_of_reference hreference
    exact hρ
  have hshared : sql tagged [[tagEq "x" "a", tagEq "x" "b"]] =
      .ok "'a' = ANY(tags) AND 'b' = ANY(tags)" := rfl
  have harray : sql tagged [[tagsEq "x" [["a"]]]] = .ok "ARRAY[tags] = ARRAY[ARRAY['a']]" := rfl
  refine ⟨⟨hshared, ?_, ?_, ?_⟩, harray, ?_, ?_, ?_⟩
  · exact hrespects rfl _
  · exact exists_true_of_tagged hshared fun n hn => by
      cases hn
      rfl
  · have hindex (i : Nat) : Query.holdsAt tagged (fun _ => .array [.string "a", .string "b"])
        (fun _ => i) [tagEq "x" "a", tagEq "x" "b"] = false := by
      rcases i with _ | _ | i <;> rfl
    exact fun ι => hindex (ι "x")
  · exact hrespects rfl _
  · exact exists_true_of_tagged harray fun n hn => by
      cases hn
      rfl
  · have hindex (i : Nat) : Query.holdsAt tagged (fun _ => .array [.string "a"])
        (fun _ => i) [tagsEq "x" [["a"]]] = false := by
      rcases i with _ | i <;> rfl
    exact fun ι => hindex (ι "x")

end Compile

end RowFilter
