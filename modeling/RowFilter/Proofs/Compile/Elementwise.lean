import RowFilter.Proofs.Compile.Faults
import RowFilter.Proofs.Meaning.Grants

/-!
# Where any element of a column is meant

The text of a column that stands for any of its elements is that of the whole array, so it may only
be written where SQL looks into the array: as the argument of `ANY` in a comparison with a single
value, or on the left of an overlap.  Kinds see to that wherever an operator is applied.  Elements
of array literals are written without regard to their kind, and there the whole array gets into the
text.

* `Node.Guards` — a predicate that keeps the whole array out of its text.
* `Compile.placesElements` — what is rendered for a term does, array literals apart.
* `Compile.sql_any_element` — the same for a residual; `Compile.sql_bare_array` — one whose text
  compares the whole array.
-/

set_option autoImplicit false

namespace RowFilter

open Sql (Node Form Membership Fault equalitySign)

namespace Sql.Node

/-! ## Places -/

/-- The predicate compares a single value with any element of the column. -/
def ComparesAny (p c : Node) : Prop :=
  ∃ negate v, (p = equality negate c v ∨ p = equality negate v c) ∧
    (v.kind = .number ∨ v.kind = .string ∨ v.kind = .boolean) ∧
    p.render.text =
      v.render.text ++ (" " ++ equalitySign negate ++ " ") ++ "ANY(" ++ c.render.text ++ ")"

/-- The predicate asks whether the column overlaps an array literal. -/
def Overlaps (p c : Node) : Prop :=
  ∃ source e es, p = member c (array source (e :: es)) ∧
    p.render.text = c.render.text ++ " && " ++ (array source (e :: es)).render.text

/-- The predicate looks the column up in an empty array literal, and does not write it. -/
def Skips (p c : Node) : Prop :=
  ∃ source, p = member c (array source []) ∧ p.visited = [p] ∧ p.render.text = "false"

/-- Only one form takes any element of a column, and takes it second. -/
theorem eq_any_of_suits {a b : Kind} {f : Form} (h : f.Suits a b)
    (hany : a = .anyElement ∨ b = .anyElement) : f = .any ∧ a ≠ .anyElement := by
  cases f with
  | plain =>
    obtain ⟨rfl, hkind⟩ := h
    rw [or_self] at hany
    simp [hany] at hkind
  | firstParens =>
    obtain ⟨rfl, rfl⟩ := h
    simp at hany
  | bothParens =>
    obtain ⟨rfl, rfl⟩ := h
    simp at hany
  | any =>
    refine ⟨rfl, fun ha => ?_⟩
    simp [Form.Suits, ha] at h

/-- Where an equality has a form, any element of a column is compared with a single value. -/
theorem comparesAny_of_form {negate : Bool} {l r c : Node} {form : Bool × Form}
    (hform : Form.ofEquality l r = some form) (hc : c = l ∨ c = r)
    (hany : c.kind = .anyElement) : (equality negate l r).ComparesAny c := by
  obtain ⟨exchanged, f⟩ := form
  have hsuits := Form.suits_of_ofEquality hform
  have hrender := equalityOf_eq negate l.operand r.operand
  have hkinds : l.kind = .anyElement ∨ r.kind = .anyElement := by
    rcases hc with rfl | rfl
    · exact .inl hany
    · exact .inr hany
  simp only [operand, hform] at hrender
  cases exchanged with
  | false =>
    obtain ⟨rfl, hl⟩ := eq_any_of_suits hsuits hkinds
    obtain rfl := hc.resolve_left fun h => hl (h ▸ hany)
    exact ⟨negate, l, .inr rfl, hsuits.1, congrArg Rendered.text hrender⟩
  | true =>
    obtain ⟨rfl, hr⟩ := eq_any_of_suits hsuits hkinds.symm
    obtain rfl := hc.resolve_right fun h => hr (h ▸ hany)
    exact ⟨negate, r, .inl rfl, hsuits.1, congrArg Rendered.text hrender⟩

/-- Where a membership test has a form, any element of a column is looked up in an array literal. -/
theorem overlaps_or_skips_of_form {x d c : Node} {m : Membership}
    (hform : Membership.ofNodes x d = some m) (hc : c = x ∨ c = d) (hany : c.kind = .anyElement) :
    (member x d).Overlaps c ∨ (member x d).Skips c := by
  have hsuits := Membership.suits_of_ofNodes hform
  have hrender := membershipOf_eq x.operand d.operand
  simp only [operand, hform] at hrender
  cases m with
  | never =>
    obtain ⟨source, rfl⟩ := hsuits
    obtain rfl := hc.resolve_right fun hd => by cases hd; cases hany
    refine .inr ⟨source, rfl, ?_, congrArg Rendered.text hrender⟩
    rw [visited_eq, operands_member, hform]
    rfl
  | overlap =>
    obtain ⟨harray, source, es, rfl⟩ := hsuits
    obtain rfl := hc.resolve_right fun hd => by cases hd; cases hany
    cases es with
    | nil => simp [Membership.ofNodes, harray] at hform
    | cons e es => exact .inl ⟨source, e, es, rfl, congrArg Rendered.text hrender⟩
  | any =>
    obtain ⟨hsingle, hkind⟩ := hsuits
    rcases hc with rfl | rfl
    · exact absurd hany (Compile.ne_anyElement_of_isSingle hsingle).1
    · cases hany.symm.trans hkind

/-- The predicate looks into the array of an any-element column, leaves it out, or has a fault. -/
def Guards (p c : Node) : Prop :=
  p.ComparesAny c ∨ p.Overlaps c ∨ p.Skips c ∨ ∃ f, p.fault? = some f

theorem guards_equality {negate : Bool} {l r c : Node} (hc : c ∈ (equality negate l r).children)
    (hany : c.kind = .anyElement) : (equality negate l r).Guards c := by
  have hlr : c = l ∨ c = r := by simpa [children] using hc
  cases hform : Form.ofEquality l r with
  | none => exact .inr (.inr (.inr ⟨_, by rw [fault?_equality, hform]⟩))
  | some form => exact .inl (comparesAny_of_form hform hlr hany)

theorem guards_member {x d c : Node} (hc : c ∈ (member x d).children)
    (hany : c.kind = .anyElement) : (member x d).Guards c := by
  have hxd : c = x ∨ c = d := by simpa [children] using hc
  cases hform : Membership.ofNodes x d with
  | none => exact .inr (.inr (.inr ⟨_, by rw [fault?_member, hform]⟩))
  | some m =>
    rcases overlaps_or_skips_of_form hform hxd hany with hoverlaps | hskips
    · exact .inr (.inl hoverlaps)
    · exact .inr (.inr (.inl hskips))

end Sql.Node

/-! ## Terms -/

namespace Compile

variable {s : Settings}

theorem guards_apply {op : Operator} {left right c : Node}
    (hc : c ∈ (op.apply left right).children) (hany : c.kind = .anyElement) :
    (op.apply left right).Guards c := by
  cases op with
  | equality negate => exact Node.guards_equality hc hany
  | member => exact Node.guards_member hc hany

theorem children_apply (op : Operator) (left right : Node) :
    (op.apply left right).children = [left, right] := by
  cases op <;> rfl

/-- What is rendered for a term respects the any-element columns, unless it is an array literal of
a term that is not scoped. -/
def PlacesElements (s : Settings) (t : Term) : Prop :=
  ∀ n p c, term s t = .ok n → p ∈ n.visited → c ∈ p.children → c.kind = .anyElement →
    p.Guards c ∨ (∃ source, p = .array source p.children) ∧ t.isScoped s = false

theorem placesElements_array {es : List Term} (ih : ∀ e ∈ es, PlacesElements s e) :
    PlacesElements s (.array es) := by
  intro n p c hn hp hc hany
  obtain ⟨source, ns, rfl, hns⟩ := term_array_eq_ok hn
  have hscoped {e : Term} (he : e ∈ es) (h : e.isElementwise s = true ∨ e.isScoped s = false) :
      (Term.array es).isScoped s = false := by
    rw [Bool.eq_false_iff]
    intro hes
    obtain ⟨helementwise, hscoped⟩ := (Term.areScoped_iff s).1 hes e he
    rw [helementwise, hscoped] at h
    simp at h
  rw [Node.mem_visited, Node.operands_array] at hp
  rcases hp with rfl | ⟨m, hm, hp⟩
  · obtain ⟨e, he, hce⟩ := exists_of_mem_right hns hc
    exact .inr ⟨⟨source, rfl⟩, hscoped he (.inl (isElementwise_of_kind hce hany))⟩
  · obtain ⟨e, he, hme⟩ := exists_of_mem_right hns hm
    rcases ih e he m p c hme hp hc hany with hplaced | ⟨hlists, hunscoped⟩
    · exact .inl hplaced
    · exact .inr ⟨hlists, hscoped he (.inr hunscoped)⟩

theorem isScoped_set (es : List Term) :
    (Term.set es).isScoped s = (Term.array (Term.sorted es)).isScoped s := by
  rw [Bool.eq_iff_iff, Term.isScoped, Term.isScoped, Term.areScoped_iff, Term.areScoped_iff]
  simp only [Term.mem_sorted]

theorem placesElements_of_leaf {t : Term} (h : ∀ n, term s t = .ok n → n.children = []) :
    PlacesElements s t := by
  intro n p c hn hp hc _
  have hchildren := h n hn
  rcases Node.mem_visited.1 hp with rfl | ⟨m, hm, _⟩
  · rw [hchildren] at hc
    cases hc
  · have hm := n.operands_subset_children hm
    rw [hchildren] at hm
    cases hm

theorem placesElements (t : Term) : PlacesElements s t := by
  induction t using Term.induct with
  | array es ih => exact placesElements_array ih
  | set es ih =>
    intro n p c hn
    rw [term_set] at hn
    rw [isScoped_set]
    exact placesElements_array (fun e he => ih e (Term.mem_sorted.1 he)) n p c hn
  | call ts ih =>
    intro n p c hn hp hc hany
    obtain ⟨t, l, r, name, op, left, right, rfl, -, -, hl, hr, rfl⟩ := call_eq_ok hn
    rcases Node.mem_visited.1 hp with rfl | ⟨m, hm, hp⟩
    · exact .inl (guards_apply hc hany)
    · obtain ⟨u, hu, hm⟩ : ∃ u ∈ [t, l, r], term s u = .ok m := by
        have hm := Node.operands_subset_children _ hm
        rw [children_apply, List.mem_pair] at hm
        rcases hm with rfl | rfl
        · exact ⟨l, by simp, hl⟩
        · exact ⟨r, by simp, hr⟩
      rcases ih u hu m p c hm hp hc hany with hguards | ⟨hlists, hunscoped⟩
      · exact .inl hguards
      · refine .inr ⟨hlists, Bool.eq_false_iff.2 fun hts => ?_⟩
        rw [(Term.areOperands_iff s).1 hts u hu] at hunscoped
        cases hunscoped
  | ref segments =>
    refine placesElements_of_leaf fun n hn => ?_
    obtain ⟨_, _, _, rfl, _⟩ := isColumn_of_reference hn
    rfl
  | number text =>
    refine placesElements_of_leaf fun n hn => ?_
    rw [term] at hn
    split at hn <;> cases hn
    rfl
  | boolean b => exact placesElements_of_leaf fun n hn => by cases hn; rfl
  | string value => exact placesElements_of_leaf fun n hn => by cases hn; rfl
  | _ => exact placesElements_of_leaf fun n hn => by cases hn

/-! ## Residuals -/

theorem kind_ne_anyElement_of_isBoolean {n : Node} (h : n.isBoolean = true) :
    n.kind ≠ .anyElement := by
  intro hkind
  rw [Node.isBoolean, hkind] at h
  cases h

theorem isScoped_asserted (e : Condition) : e.asserted.isScoped s = e.isScoped s := by
  cases e <;> rfl

/-- Below the conjunction of a query stand predicates, and below these what is rendered for
terms. -/
theorem guards_of_query {q : Query} {n p c : Node} (hn : query s q = .ok n) (hp : p ∈ n.visited)
    (hc : c ∈ p.children) (hany : c.kind = .anyElement) :
    p.Guards c ∨ (∃ source, p = .array source p.children) ∧
      ∃ e ∈ q, e.condition.isScoped s = false := by
  obtain ⟨ns, rfl, hns⟩ := query_eq_ok hn
  rw [Node.mem_visited, Node.operands_conjunction] at hp
  rcases hp with rfl | ⟨m, hm, hp⟩
  · obtain ⟨e, _, he⟩ := exists_of_mem_right hns hc
    exact absurd hany (kind_ne_anyElement_of_isBoolean (expression_eq_ok he).2.2)
  · obtain ⟨e, he, hm⟩ := exists_of_mem_right hns hm
    have hterm := (expression_eq_ok hm).2.1
    rw [condition_eq] at hterm
    rcases placesElements _ m p c hterm hp hc hany with hguards | ⟨hlists, hunscoped⟩
    · exact .inl hguards
    · exact .inr ⟨hlists, e, he, isScoped_asserted e.condition ▸ hunscoped⟩

/-- What is rendered for a residual guards the any-element columns, unless it is an array literal
and the residual is not scoped. -/
theorem guards_of_predicate {r : Residual} {n p c : Node} (hn : predicate s r = .ok n)
    (hp : p ∈ n.visited) (hc : c ∈ p.children) (hany : c.kind = .anyElement) :
    p.Guards c ∨ (∃ source, p = .array source p.children) ∧ r.isScoped s = false := by
  have hboolean {b : Bool} (hp : p ∈ (Node.boolean b).visited) : False := by
    rcases Node.mem_visited.1 hp with rfl | ⟨m, hm, _⟩
    · cases hc
    · cases Node.operands_subset_children _ hm
  rcases predicate_eq_ok hn with ⟨-, rfl⟩ | ⟨-, rfl⟩ | ⟨ns, rfl, hns⟩
  · exact (hboolean hp).elim
  · exact (hboolean hp).elim
  · rw [Node.mem_visited, Node.operands_disjunction] at hp
    rcases hp with rfl | ⟨m, hm, hp⟩
    · obtain ⟨q, _, hq⟩ := exists_of_mem_right hns hc
      obtain ⟨es, rfl, _⟩ := query_eq_ok hq
      cases hany
    · obtain ⟨q, hq, hm⟩ := exists_of_mem_right hns hm
      rcases guards_of_query hm hp hc hany with hguards | ⟨hlists, e, he, hunscoped⟩
      · exact .inl hguards
      · refine .inr ⟨hlists, Bool.eq_false_iff.2 fun hscoped => ?_⟩
        simp only [Residual.isScoped, List.all_eq_true] at hscoped
        rw [hscoped q hq e he] at hunscoped
        cases hunscoped

theorem kind_ne_anyElement_of_predicate {r : Residual} {n : Node} (hn : predicate s r = .ok n) :
    n.kind ≠ .anyElement := by
  rcases predicate_eq_ok hn with ⟨-, rfl⟩ | ⟨-, rfl⟩ | ⟨ns, rfl, -⟩ <;> simp [Node.kind]

/-- **Any element of a column never stands for the whole array**, except inside of an array literal.

Wherever such a column lies below what is rendered for a residual, a single value is compared with
`ANY` of it, or it stands on the left of an overlap, or it is not written because the collection is
empty, or the residual has no text and the error holds the fault of that place.  The one place left
is the element of an array literal, and residuals that are scoped have none of that. -/
theorem sql_any_element {r : Residual} {n : Node} (hn : predicate s r = .ok n) :
    n.kind ≠ .anyElement ∧
      ∀ p ∈ n.visited, ∀ c ∈ p.children, c.kind = .anyElement →
        p.ComparesAny c ∨ p.Overlaps c ∨ p.Skips c ∨
          (∃ f faults, p.fault? = some f ∧ f ∈ faults ∧
            sql s r = .error (.generation faults)) ∨
          ((∃ source, p = .array source p.children) ∧ r.isScoped s = false) := by
  refine ⟨kind_ne_anyElement_of_predicate hn, fun p hp c hc hany => ?_⟩
  rcases guards_of_predicate hn hp hc hany with
    (hcompares | hoverlaps | hskips | ⟨f, hf⟩) | hlists
  · exact .inl hcompares
  · exact .inr (.inl hoverlaps)
  · exact .inr (.inr (.inl hskips))
  · have hmem : f ∈ n.render.faults := by
      rw [Node.faults_render, List.mem_filterMap]
      exact ⟨p, hp, hf⟩
    exact .inr (.inr (.inr (.inl ⟨f, _, hf, hmem,
      sql_eq_generation hn (List.ne_nil_of_mem hmem)⟩)))
  · exact .inr (.inr (.inr (.inr hlists)))

/-- The column `tags`, where any of its elements is meant. -/
def anyTag : Node := .column "tags" (.array .string) .anyElement

/-- What a residual of one expression becomes. -/
def alone (e : Expression) (p : Node) : Node :=
  .disjunction (Residual.text [[e]]) [.conjunction (Query.text [e]) [p]]

theorem mem_visited_alone (e : Expression) (p : Node) : p ∈ (alone e p).visited := by
  refine Node.mem_visited_of_mem_operands (p := .conjunction (Query.text [e]) [p])
    (Node.mem_visited_of_mem_operands (Node.mem_visited_self _) ?_) ?_
  · rw [alone, Node.operands_disjunction]
    exact List.mem_singleton_self _
  · rw [Node.operands_conjunction]
    exact List.mem_singleton_self _

/-- The tag at a name is compared by `ANY`. -/
theorem sql_any_element_tag :
    let e := tagEq "x" "a"
    let p := Node.equality false anyTag (.string "a")
    predicate tagged [[e]] = .ok (alone e p) ∧ sql tagged [[e]] = .ok "'a' = ANY(tags)" ∧
      p ∈ (alone e p).visited ∧ p.ComparesAny anyTag := by
  intro e p
  have hn : predicate tagged [[e]] = .ok (alone e p) := rfl
  have hsql : sql tagged [[e]] = .ok "'a' = ANY(tags)" := rfl
  have hp := mem_visited_alone e p
  refine ⟨hn, hsql, hp, ?_⟩
  rcases (sql_any_element hn).2 p hp anyTag List.mem_cons_self rfl with
    hcompares | ⟨_, _, _, hmember, _⟩ | ⟨_, hmember, _⟩ | ⟨_, _, _, _, herror⟩ | ⟨⟨_, harray⟩, _⟩
  · exact hcompares
  · simp [p] at hmember
  · simp [p] at hmember
  · cases hsql.symm.trans herror
  · simp [p] at harray

/-- **In an array literal the whole array stands for any of its elements.** -/
theorem sql_bare_array :
    let e := tagsEq "x" [["a"]]
    let p := Node.array (Term.text (.array [tagAt "x"])) [anyTag]
    let q := Node.array (Term.text (.array [.array [.string "a"]]))
      [.array (Term.text (.array [.string "a"])) [.string "a"]]
    predicate tagged [[e]] = .ok (alone e (.equality false p q)) ∧
      sql tagged [[e]] = .ok "ARRAY[tags] = ARRAY[ARRAY['a']]" ∧
      p ∈ (alone e (.equality false p q)).visited ∧ anyTag ∈ p.operands ∧
      p.render.text = "ARRAY[tags]" ∧ ¬ p.ComparesAny anyTag ∧ ¬ p.Overlaps anyTag := by
  intro e p q
  have hp : p ∈ (Node.equality false p q).operands := List.mem_cons_self
  refine ⟨rfl, rfl, Node.mem_visited_of_mem_operands (mem_visited_alone e _) hp, ?_, rfl, ?_, ?_⟩
  · exact List.mem_singleton_self anyTag
  · rintro ⟨negate, v, hequality, -⟩
    simp [p] at hequality
  · rintro ⟨source, c, cs, hmember, -⟩
    simp [p] at hmember

end Compile

end RowFilter
