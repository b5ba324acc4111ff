import RowFilter.Proofs.Meaning.Condition

/-!
# What predicates mean

The operands of a comparison are known by the values that they may take.  An operand that stands for
any element of a column has the whole array for its SQL, and every other operand has one value,
which is that of its SQL.  `Node.Means` says so, and this file shows how equality and membership
carry it on: the comparison is true if it holds for some values of its operands, whichever form it
is written in.

* `Node.Means` — an operand may take exactly the given values.
* `Node.Means.equality`, `Node.Means.member` — the values of comparisons.
-/

set_option autoImplicit false

namespace RowFilter.Sql

open Value

/-- What operands of a kind are worth: predicates are true or false, and arrays are arrays. -/
def Kind.Admits : Kind → Value → Prop
  | boolean, v => ∃ b, v = .boolean b
  | predicate, v => ∃ b, v = .boolean b
  | array, v => v = .array v.elements
  | _, _ => True

namespace Node

variable {ρ : Assignment}

/-- **An operand may take exactly the given values.** -/
structure Means (ρ : Assignment) (n : Node) (vs : List Value) : Prop where
  /-- Any element is an element of the array that SQL sees. -/
  element : n.kind = .anyElement → n.toExpr.eval ρ = some (.array vs)
  /-- Every other operand has the value that SQL sees. -/
  value : n.kind ≠ .anyElement → ∃ v, n.toExpr.eval ρ = some v ∧ vs = [v] ∧ n.kind.Admits v

theorem Means.of_eval {n : Node} {v : Value} (hkind : n.kind ≠ .anyElement)
    (heval : n.toExpr.eval ρ = some v) (hadmits : n.kind.Admits v) : n.Means ρ [v] where
  element hany := absurd hany hkind
  value _ := ⟨v, heval, rfl, hadmits⟩

end Node

/-! ## Equality -/

/-- **A comparison holds if it does for some values of its operands**, in each of its forms. -/
theorem Form.eval_toExpr {ρ : Assignment} {f : Form} {negate : Bool} {l r : Node}
    {vs ws : List Value} (hf : f.Suits l.kind r.kind) (hl : l.Means ρ vs) (hr : r.Means ρ ws) :
    (f.toExpr negate l.toExpr r.toExpr).eval ρ =
      some (.boolean (vs.any fun v => ws.any fun w => compared negate v w)) := by
  have hcompare : l.kind ≠ .anyElement → r.kind ≠ .anyElement →
      (Expr.compare negate l.toExpr r.toExpr).eval ρ =
        some (.boolean (vs.any fun v => ws.any fun w => compared negate v w)) := by
    intro hlkind hrkind
    obtain ⟨v, hv, rfl, _⟩ := hl.value hlkind
    obtain ⟨w, hw, rfl, _⟩ := hr.value hrkind
    simp [Expr.eval, hv, hw]
  cases f with
  | plain =>
    obtain ⟨hkinds, hkind⟩ := hf
    have hne : l.kind ≠ .anyElement := by rcases hkind with h | h | h | h <;> simp [h]
    exact hcompare hne (hkinds ▸ hne)
  | firstParens => exact hcompare (by simp [hf.1]) (by simp [hf.2])
  | bothParens => exact hcompare (by simp [hf.1]) (by simp [hf.2])
  | any =>
    obtain ⟨hkind, hrkind⟩ := hf
    obtain ⟨v, hv, rfl, _⟩ := hl.value (by rcases hkind with h | h | h <;> simp [h])
    have hw := hr.element hrkind
    simp [Form.toExpr, Expr.eval, hv, hw]

namespace Node

variable {ρ : Assignment}

theorem Means.equality {negate exchanged : Bool} {f : Form} {l r : Node} {vs ws : List Value}
    (hf : Form.ofEquality l r = some (exchanged, f)) (hl : l.Means ρ vs) (hr : r.Means ρ ws) :
    (Node.equality negate l r).Means ρ
      [.boolean (vs.any fun v => ws.any fun w => compared negate v w)] := by
  have hsuits := Form.suits_of_ofEquality hf
  refine .of_eval (by simp [kind]) ?_ ⟨_, rfl⟩
  rw [toExpr, hf]
  cases exchanged with
  | false => exact Form.eval_toExpr hsuits hl hr
  | true =>
    refine (Form.eval_toExpr hsuits hr hl).trans ?_
    -- the operands were exchanged, and so are the quantifiers over their values
    have hswap : (ws.any fun w => vs.any fun v => compared negate w v) =
        vs.any fun v => ws.any fun w => compared negate v w := by
      rw [Bool.eq_iff_iff]
      simp only [List.any_eq_true]
      constructor
      · rintro ⟨w, hw, v, hv, h⟩
        exact ⟨v, hv, w, hw, compared_comm negate w v ▸ h⟩
      · rintro ⟨v, hv, w, hw, h⟩
        exact ⟨w, hw, v, hv, compared_comm negate v w ▸ h⟩
    rw [hswap]

/-! ## Membership -/

/-- **A membership test looks up exactly the given values**: the elements of what was declared as an
array, or a single value. -/
structure Seeks (ρ : Assignment) (n : Node) (vs : List Value) : Prop where
  /-- A declared array seeks its elements. -/
  elements : isDeclaredArray n = true → n.toExpr.eval ρ = some (.array vs)
  /-- A single value seeks itself. -/
  single : Membership.isSingle n = true → ∃ v, n.toExpr.eval ρ = some v ∧ vs = [v]

theorem Means.member {m : Membership} {x c : Node} {vs ws : List Value}
    (hm : Membership.ofNodes x c = some m) (hx : m ≠ .never → x.Seeks ρ vs) (hc : c.Means ρ ws) :
    (Node.member x c).Means ρ
      [.boolean (vs.any fun v => ws.any fun w => decide (v ∈ w.elements))] := by
  have hsuits := Membership.suits_of_ofNodes hm
  refine .of_eval (by simp [kind]) ?_ ⟨_, rfl⟩
  rw [toExpr, hm]
  cases m with
  | never =>
    obtain ⟨source, rfl⟩ := hsuits
    obtain ⟨w, hw, rfl, _⟩ := hc.value (by simp [kind])
    cases hw
    simp [Membership.toExpr, Expr.eval, Value.elements]
  | overlap =>
    obtain ⟨harray, source, es, rfl⟩ := hsuits
    obtain ⟨w, hw, rfl, hadmits⟩ := hc.value (by simp [kind])
    have hv := (hx (by simp)).elements harray
    have hws : w.elements? = some w.elements := by rw [hadmits]; rfl
    simp [Membership.toExpr, Expr.eval, hv, hw, hws, share_eq]
  | any =>
    obtain ⟨hsingle, hkind⟩ := hsuits
    obtain ⟨w, hw, rfl, hadmits⟩ := hc.value (by simp [hkind])
    obtain ⟨v, hv, rfl⟩ := (hx (by simp)).single hsingle
    have hws : w.elements? = some w.elements := by rw [hkind] at hadmits; rw [hadmits]; rfl
    simp [Membership.toExpr, Expr.eval, hv, hw, hws, any_compared_false]

end Node

end RowFilter.Sql
