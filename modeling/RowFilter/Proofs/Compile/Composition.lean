import RowFilter.Proofs.Compile.Acceptance
import RowFilter.Proofs.Compile.Faults

/-!
# Compiling side by side

A residual can be cut into two at any place between its queries, and a query at any place between
its expressions.  The parts compile by themselves, and their answers determine that of the whole:

* if both parts have a text, then the whole has these texts with `OR` or `AND` between them;
* if a part has no predicate, then neither has the whole, for the reason of the first such part;
* otherwise the faults of the whole are those of the first part, then those of the second.

Nothing more than the two texts is needed, since neither a disjunction of queries nor a conjunction
of expressions puts anything between parentheses: only a disjunction inside of a conjunction would
have to be, and no expression compiles to one.

* `expressions_append`, `queries_append` — a list compiles part by part.
* `Node.render_disjunction_append`, `Node.render_conjunction_append` — and so does its text.
* `Composes`, `composes_of_predicate` — the answer of the whole, by those of its parts.
* `sql_composes` — residuals and queries compose.
-/

set_option autoImplicit false

namespace RowFilter

/-! ## Lists, part by part -/

section Traversal

/-! As in `error_of_traversal`: a list is compiled one by one up to the first error, which `wrap`
puts into the words of the member where it lies. -/

variable {ε α β : Type} (f : α → Except ε β) (wrap : α → ε → ε) (all : List α → Except ε (List β))

theorem traversal_append (hnil : all [] = .ok [])
    (hok : ∀ x xs b, f x = .ok b → all (x :: xs) = (all xs).map (b :: ·))
    (herror : ∀ x xs e, f x = .error e → all (x :: xs) = .error (wrap x e)) (xs ys : List α) :
    all (xs ++ ys) = (all xs).bind fun as => (all ys).map (as ++ ·) := by
  induction xs with
  | nil =>
    rw [List.nil_append, hnil]
    show all ys = (all ys).map fun bs => [] ++ bs
    cases all ys <;> rfl
  | cons x xs ih =>
    rw [List.cons_append]
    cases hx : f x with
    | error e => rw [herror x _ e hx, herror x _ e hx]; rfl
    | ok b =>
      rw [hok x _ b hx, hok x _ b hx, ih]
      cases all xs with
      | error e => rfl
      | ok as => cases all ys <;> rfl

end Traversal

namespace Compile

open Sql

variable {s : Settings}

theorem expressions_append (es fs : List Expression) :
    expressions s (es ++ fs) =
      (expressions s es).bind fun ms => (expressions s fs).map (ms ++ ·) :=
  traversal_append (expression s) (fun e => .inExpression e.text) (expressions s) rfl
    expressions_cons_ok expressions_cons_error es fs

theorem queries_append (qs rs : List Query) :
    queries s (qs ++ rs) = (queries s qs).bind fun ms => (queries s rs).map (ms ++ ·) :=
  traversal_append (query s) (fun q => .inQuery (Query.text q)) (queries s) rfl queries_cons_ok
    queries_cons_error qs rs

end Compile

/-! ## Texts, part by part -/

namespace Sql

theorem Rendered.joined_append (separator : String) {rs ts : List Rendered} (hrs : rs ≠ [])
    (hts : ts ≠ []) :
    joined separator (rs ++ ts) =
      joined separator rs ++ (separator : Rendered) ++ joined separator ts := by
  induction rs with
  | nil => exact absurd rfl hrs
  | cons r rs ih =>
    cases rs with
    | nil =>
      obtain ⟨t, ts, rfl⟩ := List.exists_cons_of_ne_nil hts
      rw [List.singleton_append, joined_cons_cons, joined_singleton]
    | cons r' rs =>
      have hrest := ih (List.cons_ne_nil r' rs)
      rw [List.cons_append, List.cons_append, joined_cons_cons, ← List.cons_append, hrest,
        joined_cons_cons]
      simp only [append_assoc]

namespace Node

theorem render_disjunction {cs : List Node} (hne : cs ≠ []) (source : String) :
    (disjunction source cs).render = Rendered.joined " OR " (cs.map render) := by
  rcases cs with _ | ⟨c, _ | ⟨d, cs⟩⟩
  · exact absurd rfl hne
  · exact (Rendered.joined_singleton " OR " c.render).symm
  · exact render_disjunction_cons_cons source c d cs

/-- A conjunction of nothing that has to stand between parentheses. -/
theorem render_conjunction {cs : List Node} (hne : cs ≠ []) (hcs : ∀ c ∈ cs, c.needsParens = false)
    (source : String) :
    (conjunction source cs).render = Rendered.joined " AND " (cs.map render) := by
  rcases cs with _ | ⟨c, _ | ⟨d, cs⟩⟩
  · exact absurd rfl hne
  · exact (Rendered.joined_singleton " AND " c.render).symm
  · rw [render_conjunction_cons_cons]
    refine congrArg _ (List.map_congr_left fun n hn => ?_)
    rw [hcs n hn]
    rfl

theorem render_disjunction_append {cs ds : List Node} (hcs : cs ≠ []) (hds : ds ≠ [])
    (source source' source'' : String) :
    (disjunction source (cs ++ ds)).render =
      (disjunction source' cs).render ++ (" OR " : Rendered) ++
        (disjunction source'' ds).render := by
  have hne : cs ++ ds ≠ [] := by simp [hcs]
  rw [render_disjunction hne, render_disjunction hcs, render_disjunction hds, List.map_append,
    Rendered.joined_append _ (by simpa using hcs) (by simpa using hds)]

theorem render_conjunction_append {cs ds : List Node} (hcs : cs ≠ []) (hds : ds ≠ [])
    (hparens : ∀ c ∈ cs ++ ds, c.needsParens = false) (source source' source'' : String) :
    (conjunction source (cs ++ ds)).render =
      (conjunction source' cs).render ++ (" AND " : Rendered) ++
        (conjunction source'' ds).render := by
  have hne : cs ++ ds ≠ [] := by simp [hcs]
  have hleft : ∀ c ∈ cs, c.needsParens = false := fun c hc =>
    hparens c (List.mem_append_left _ hc)
  have hright : ∀ d ∈ ds, d.needsParens = false := fun d hd =>
    hparens d (List.mem_append_right _ hd)
  rw [render_conjunction hne hparens, render_conjunction hcs hleft, render_conjunction hds hright,
    List.map_append, Rendered.joined_append _ (by simpa using hcs) (by simpa using hds)]

end Node

end Sql

namespace Compile

open Sql

variable {s : Settings}

/-- No term compiles to a disjunction, so no expression has to stand between parentheses. -/
theorem needsParens_of_term {t : Term} {n : Node} (h : term s t = .ok n) :
    n.needsParens = false := by
  cases t with
  | ref segments =>
    obtain ⟨sql, type, scope, rfl, -⟩ := isColumn_of_reference h
    rfl
  | number text =>
    rw [term] at h
    split at h <;> cases h
    rfl
  | array es =>
    obtain ⟨source, ns, rfl, -⟩ := term_array_eq_ok h
    rfl
  | set es =>
    rw [term_set] at h
    obtain ⟨source, ns, rfl, -⟩ := term_array_eq_ok h
    rfl
  | call ts =>
    obtain ⟨_, _, _, _, op, _, _, _, _, _, _, _, rfl⟩ := call_eq_ok h
    cases op <;> rfl
  | _ => cases h <;> rfl

theorem needsParens_of_expressions {es : List Expression} {ns : List Node}
    (h : expressions s es = .ok ns) : ∀ n ∈ ns, n.needsParens = false := by
  intro n hn
  obtain ⟨e, -, he⟩ := exists_of_mem_right (expressions_eq_ok h) hn
  have hterm : term s e.condition.asserted = .ok n := by
    rw [← condition_eq]
    exact (expression_eq_ok he).2.1
  exact needsParens_of_term hterm

theorem ne_nil_of_expressions {es : List Expression} {ns : List Node} (hne : es ≠ [])
    (h : expressions s es = .ok ns) : ns ≠ [] := by
  have hlength := (expressions_eq_ok h).length_eq
  rintro rfl
  exact hne (List.length_eq_zero_iff.1 hlength)

theorem ne_nil_of_queries {qs : List Query} {ns : List Node} (hne : qs ≠ [])
    (h : queries s qs = .ok ns) : ns ≠ [] := by
  have hlength := (queries_eq_ok h).length_eq
  rintro rfl
  exact hne (List.length_eq_zero_iff.1 hlength)

/-! ## The answer of the whole -/

/-- The faults that an answer reports. -/
def reported : Except CompileError String → List Fault
  | .error (.generation faults) => faults
  | _ => []

variable (s) in
/-- **The answer of the whole, by the answers of its parts.**  Where a part has no predicate, `same`
says what the error of the whole has to do with that of the part. -/
structure Composes (separator : String) (same : CompileError → CompileError → Prop)
    (first second whole : Residual) : Prop where
  /-- The whole has a text exactly if both parts do. -/
  isOk : (∃ text, sql s whole = .ok text) ↔
    (∃ text, sql s first = .ok text) ∧ ∃ text, sql s second = .ok text
  /-- Its text is made of theirs. -/
  text : ∀ t u, sql s first = .ok t → sql s second = .ok u →
    sql s whole = .ok (t ++ separator ++ u)
  /-- A first part without a predicate gives the error, whatever the second part is. -/
  firstFails : ∀ e, predicate s first = .error e →
    sql s first = .error e ∧ ∃ e', sql s whole = .error e' ∧ same e e'
  /-- So does a second part without one, even if the first part has faults. -/
  secondFails : ∀ m e, predicate s first = .ok m → predicate s second = .error e →
    sql s second = .error e ∧ ∃ e', sql s whole = .error e' ∧ same e e'
  /-- If both parts have a predicate but not both have a text, the faults are reported in turn. -/
  faults : ∀ m n, predicate s first = .ok m → predicate s second = .ok n →
    ¬ ((∃ text, sql s first = .ok text) ∧ ∃ text, sql s second = .ok text) →
      sql s whole = .error (.generation (reported (sql s first) ++ reported (sql s second)))

theorem sql_of_predicate_error {r : Residual} {e : CompileError} (h : predicate s r = .error e) :
    sql s r = .error e := by
  simp only [sql, h]

theorem isOk_sql_iff {r : Residual} {n : Node} (hn : predicate s r = .ok n) :
    (∃ text, sql s r = .ok text) ↔ n.render.faults = [] := by
  constructor
  · rintro ⟨text, htext⟩
    obtain ⟨m, hm, hfaults, -⟩ := sql_eq_ok htext
    cases hn.symm.trans hm
    exact hfaults
  · exact fun hfaults => ⟨_, sql_of_predicate hn hfaults⟩

theorem reported_sql {r : Residual} {n : Node} (hn : predicate s r = .ok n) :
    reported (sql s r) = n.render.faults := by
  by_cases hfaults : n.render.faults = []
  · rw [sql_of_predicate hn hfaults, hfaults]
    rfl
  · rw [sql_eq_generation hn hfaults]
    rfl

/-- **Parts compose if their predicates do.** -/
theorem composes_of_predicate {separator : String} {same : CompileError → CompileError → Prop}
    {first second whole : Residual}
    (hfirst : ∀ e, predicate s first = .error e → ∃ e', predicate s whole = .error e' ∧ same e e')
    (hsecond : ∀ m e, predicate s first = .ok m → predicate s second = .error e →
      ∃ e', predicate s whole = .error e' ∧ same e e')
    (hboth : ∀ m n, predicate s first = .ok m → predicate s second = .ok n →
      ∃ k, predicate s whole = .ok k ∧
        k.render = m.render ++ (separator : Rendered) ++ n.render) :
    Composes s separator same first second whole where
  isOk := by
    cases hm : predicate s first with
    | error e =>
      obtain ⟨e', he', -⟩ := hfirst e hm
      simp [sql_of_predicate_error hm, sql_of_predicate_error he']
    | ok m =>
      cases hn : predicate s second with
      | error e =>
        obtain ⟨e', he', -⟩ := hsecond m e hm hn
        simp [sql_of_predicate_error hn, sql_of_predicate_error he']
      | ok n =>
        obtain ⟨k, hk, hrender⟩ := hboth m n hm hn
        rw [isOk_sql_iff hk, isOk_sql_iff hm, isOk_sql_iff hn, hrender]
        simp
  text := by
    intro t u ht hu
    obtain ⟨m, hm, hfm, rfl⟩ := sql_eq_ok ht
    obtain ⟨n, hn, hfn, rfl⟩ := sql_eq_ok hu
    obtain ⟨k, hk, hrender⟩ := hboth m n hm hn
    have hfaults : k.render.faults = [] := by simp [hrender, hfm, hfn]
    rw [sql_of_predicate hk hfaults, hrender]
    rfl
  firstFails := by
    intro e he
    obtain ⟨e', he', hsame⟩ := hfirst e he
    exact ⟨sql_of_predicate_error he, e', sql_of_predicate_error he', hsame⟩
  secondFails := by
    intro m e hm he
    obtain ⟨e', he', hsame⟩ := hsecond m e hm he
    exact ⟨sql_of_predicate_error he, e', sql_of_predicate_error he', hsame⟩
  faults := by
    intro m n hm hn hnot
    obtain ⟨k, hk, hrender⟩ := hboth m n hm hn
    have hfaults : k.render.faults = m.render.faults ++ n.render.faults := by simp [hrender]
    rw [isOk_sql_iff hm, isOk_sql_iff hn, ← List.append_eq_nil_iff, ← hfaults] at hnot
    rw [sql_eq_generation hk hnot, reported_sql hm, reported_sql hn, hfaults]

section Append

/-! A list of queries or of expressions, as a residual: `all` compiles its members, `wrap` puts an
error into the words of the list, and `build` makes a predicate of what the members compile to. -/

variable {α : Type} {all : List α → Except CompileError (List Node)} (of : List α → Residual)
  (wrap : List α → CompileError → CompileError) (build : List α → List Node → Node)

/-- **A list composes at every place**, if its members compile one by one and its text is that of
the members in turn. -/
theorem composes_of_append {separator : String} {same : CompileError → CompileError → Prop}
    {xs ys : List α}
    (hpredicate : ∀ zs ∈ [xs, ys, xs ++ ys],
      predicate s (of zs) = ((all zs).mapError (wrap zs)).map (build zs))
    (happend : all (xs ++ ys) = (all xs).bind fun ms => (all ys).map (ms ++ ·))
    (hsame : ∀ zs zs' e, same (wrap zs e) (wrap zs' e))
    (hrender : ∀ ms ns, all xs = .ok ms → all ys = .ok ns →
      (build (xs ++ ys) (ms ++ ns)).render =
        (build xs ms).render ++ (separator : Rendered) ++ (build ys ns).render) :
    Composes s separator same (of xs) (of ys) (of (xs ++ ys)) := by
  have hfirst := hpredicate xs (by simp)
  have hsecond := hpredicate ys (by simp)
  have hwhole := hpredicate (xs ++ ys) (by simp)
  rw [happend] at hwhole
  cases hxs : all xs with
  | error e =>
    rw [hxs] at hfirst hwhole
    refine composes_of_predicate (fun e' he' => ?_) (fun m e' hm => ?_) fun m n hm => ?_
    · cases hfirst.symm.trans he'
      exact ⟨_, hwhole, hsame xs (xs ++ ys) e⟩
    · cases hfirst.symm.trans hm
    · cases hfirst.symm.trans hm
  | ok ms =>
    rw [hxs] at hfirst hwhole
    refine composes_of_predicate (fun e' he' => ?_) (fun m e' _ he' => ?_) fun m n hm hn => ?_
    · cases hfirst.symm.trans he'
    · cases hys : all ys with
      | error e =>
        rw [hys] at hsecond hwhole
        cases hsecond.symm.trans he'
        exact ⟨_, hwhole, hsame ys (xs ++ ys) e⟩
      | ok ns =>
        rw [hys] at hsecond
        cases hsecond.symm.trans he'
    · cases hys : all ys with
      | error e =>
        rw [hys] at hsecond
        cases hsecond.symm.trans hn
      | ok ns =>
        rw [hys] at hsecond hwhole
        cases hfirst.symm.trans hm
        cases hsecond.symm.trans hn
        exact ⟨_, hwhole, hrender ms ns hxs hys⟩

end Append

/-- **Residuals compose**, if neither is true or false outright. -/
theorem composes_residuals {P Q : Residual} (hP : P ≠ []) (hQ : Q ≠ []) (hP' : [] ∉ P)
    (hQ' : [] ∉ Q) : Composes s " OR " Eq P Q (P ++ Q) := by
  have hpredicate : ∀ R ∈ [P, Q, P ++ Q],
      predicate s R = ((queries s R).mapError id).map (.disjunction R.text) := by
    intro R hR
    have hne : R ≠ [] ∧ [] ∉ R := by
      simp only [List.mem_cons, List.not_mem_nil, or_false] at hR
      rcases hR with rfl | rfl | rfl <;> simp [*]
    rw [predicate_of_ne_nil hne.1 hne.2]
    cases queries s R <;> rfl
  refine composes_of_append id (fun _ => id) (fun R => .disjunction (Residual.text R)) hpredicate
    (queries_append P Q) (fun _ _ _ => rfl) fun ms ns hms hns => ?_
  exact Node.render_disjunction_append (ne_nil_of_queries hP hms) (ne_nil_of_queries hQ hns) _ _ _

/-- The predicate of a residual of one query, given those of its expressions. -/
def soleQuery (q : Query) (ns : List Node) : Node :=
  .disjunction (Residual.text [q]) [.conjunction q.text ns]

theorem predicate_singleton {q : Query} (hne : q ≠ []) :
    predicate s [q] = ((expressions s q).mapError (.inQuery q.text)).map (soleQuery q) := by
  have hempty : [] ∉ [q] := by simpa using hne.symm
  rw [predicate_of_ne_nil (List.cons_ne_nil q []) hempty, queries, query]
  cases expressions s q <;> rfl

/-- **Queries compose.**  The error of the whole lies in the text of the whole query, and has the
root cause of the part that fails. -/
theorem composes_queries {p q : Query} (hp : p ≠ []) (hq : q ≠ []) :
    Composes s " AND " (fun e e' => e.rootCause = e'.rootCause) [p] [q] [p ++ q] := by
  have hpredicate : ∀ r ∈ [p, q, p ++ q], predicate s [r] =
      ((expressions s r).mapError (.inQuery (Query.text r))).map (soleQuery r) := by
    intro r hr
    refine predicate_singleton ?_
    simp only [List.mem_cons, List.not_mem_nil, or_false] at hr
    rcases hr with rfl | rfl | rfl <;> simp [*]
  refine composes_of_append (fun r => [r]) (fun r => .inQuery (Query.text r)) soleQuery hpredicate
    (expressions_append p q) (fun _ _ _ => rfl) fun ms ns hms hns => ?_
  have hwhole : expressions s (p ++ q) = .ok (ms ++ ns) := by
    rw [expressions_append, hms, hns]
    rfl
  -- a disjunction of one child is written as that child
  exact Node.render_conjunction_append (ne_nil_of_expressions hp hms)
    (ne_nil_of_expressions hq hns) (needsParens_of_expressions hwhole) _ _ _

/-- **Compilation is a homomorphism**, from residuals side by side to texts with `OR` between them,
and from queries side by side to texts with `AND` between them. -/
theorem sql_composes (s : Settings) :
    (∀ P Q : Residual, P ≠ [] → Q ≠ [] → [] ∉ P → [] ∉ Q → Composes s " OR " Eq P Q (P ++ Q)) ∧
    ∀ p q : Query, p ≠ [] → q ≠ [] →
      Composes s " AND " (fun e e' => e.rootCause = e'.rootCause) [p] [q] [p ++ q] :=
  ⟨fun _ _ => composes_residuals, fun _ _ => composes_queries⟩

/-- Settings with a single column. -/
def named : Settings :=
  { resolvers := some [.column [.field "input", .field "name"] "name" .string] }

/-- The name is the given one. -/
def nameEq (t : Term) : Expression :=
  { condition := .call [.ref [.var "eq"], .ref [.var "input", .string "name"], t] }

/-- A text on either side, a fault on the left with an error on the right, and a fault on either
side. -/
theorem sql_composes_names :
    (let P : Residual := [[nameEq (.string "a")]]
      let Q : Residual := [[nameEq (.string "b"), nameEq (.string "c")]]
      sql named (P ++ Q) = .ok "name = 'a' OR name = 'b' AND name = 'c'") ∧
    (let P : Residual := [[nameEq (.number "1")]]
      let Q : Residual := [[nameEq (.string "a")], [nameEq .null]]
      (∃ faults, sql named P = .error (.generation faults)) ∧
        ∃ e, sql named Q = .error e ∧ sql named (P ++ Q) = .error e ∧
          e.rootCause = .unsupported "null") ∧
    let p : Query := [nameEq (.number "1")]
    let q : Query := [nameEq (.string "a"), nameEq (.boolean true)]
    sql named [p ++ q] = .error (.generation
      [.equality false "column name (string)" "number literal",
        .equality false "column name (string)" "boolean literal"]) := by
  obtain ⟨hor, hand⟩ := sql_composes named
  refine ⟨?_, ⟨⟨_, rfl⟩, ?_⟩, ?_⟩
  · have htexts := hor [[nameEq (.string "a")]] [[nameEq (.string "b"), nameEq (.string "c")]]
      (by simp) (by simp) (by simp) (by simp)
    exact htexts.text _ _ rfl rfl
  · have hfails := hor [[nameEq (.number "1")]] [[nameEq (.string "a")], [nameEq .null]]
      (by simp) (by simp) (by simp) (by simp)
    obtain ⟨herror, e, hwhole, rfl⟩ := hfails.secondFails _ _ rfl rfl
    exact ⟨_, herror, hwhole, rfl⟩
  · have hfaults := hand [nameEq (.number "1")] [nameEq (.string "a"), nameEq (.boolean true)]
      (by simp) (by simp)
    refine hfaults.faults _ _ rfl rfl ?_
    rintro ⟨⟨text, htext⟩, -⟩
    cases htext

end Compile

end RowFilter
