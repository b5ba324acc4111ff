import RowFilter.Proofs.Meaning.Value
import RowFilter.Proofs.Sql.ReadBack

/-!
# What conditions mean

A condition of SQL has a value once its columns have.  Comparison with `=` and `!=` compares values;
`= ANY(..)` and `!= ANY(..)` compare with some element of an array, `&&` asks for an element that
two arrays share, and both look at the elements of the arrays themselves, not inside them.  Where
`AND` and `OR` are given what is neither true nor false, or `ANY` and `&&` what is no array, there
is no value.

* `Expr.eval` — the value of a condition.
* `Expr.eval_conjoined`, `Expr.eval_disjoined` — flattening chains does not change their value.
-/

set_option autoImplicit false

namespace RowFilter

/-- The values of the columns, by their SQL texts. -/
abbrev Assignment := String → Value

namespace Value

/-- The elements of an array. -/
def elements? : Value → Option (List Value)
  | array vs => some vs
  | _ => none

/-- The truth value that a value is. -/
def truth? : Value → Option Bool
  | boolean b => some b
  | _ => none

/-- Whether the values are equal, or differ if `negate` is set. -/
def compared (negate : Bool) (v w : Value) : Bool :=
  decide (v = w) != negate

theorem compared_comm (negate : Bool) (v w : Value) :
    compared negate v w = compared negate w v := by
  rw [compared, compared, decide_eq_decide.2 eq_comm]

/-- Whether two lists share a value. -/
def share (vs ws : List Value) : Bool :=
  vs.any fun v => ws.any fun w => decide (v = w)

@[simp] theorem elements?_array (vs : List Value) : (array vs).elements? = some vs := rfl

theorem any_decide_eq (v : Value) (ws : List Value) :
    (ws.any fun w => decide (v = w)) = decide (v ∈ ws) := by
  rw [Bool.eq_iff_iff]
  simp

theorem any_compared_false (v : Value) (ws : List Value) :
    ws.any (compared false v) = decide (v ∈ ws) := by
  have hcompared : compared false v = fun w => decide (v = w) := by
    funext w
    simp [compared]
  rw [hcompared, any_decide_eq]

theorem share_eq (vs ws : List Value) : share vs ws = vs.any fun v => decide (v ∈ ws) := by
  simp only [share, any_decide_eq]

end Value

namespace Sql.Expr

open Value

variable (ρ : Assignment)

mutual

/-- **The value of a condition**, if it has one. -/
def eval : Expr → Option Value
  | boolean b => some (.boolean b)
  | string s => some (.string s)
  | number t => some (.number (Number.value t))
  | column c => some (ρ c)
  | array es => (evalAll es).map .array
  | compare negate l r =>
    match eval l, eval r with
    | some v, some w => some (.boolean (compared negate v w))
    | _, _ => none
  | compareAny negate l r =>
    match eval l, (eval r).bind elements? with
    | some v, some ws => some (.boolean (ws.any (compared negate v)))
    | _, _ => none
  | overlap l r =>
    match (eval l).bind elements?, (eval r).bind elements? with
    | some vs, some ws => some (.boolean (share vs ws))
    | _, _ => none
  | conjunction es => (truths es).map fun bs => .boolean (bs.all id)
  | disjunction es => (truths es).map fun bs => .boolean (bs.any id)

/-- The values of conditions, if all of them have one. -/
def evalAll : List Expr → Option (List Value)
  | [] => some []
  | e :: es =>
    match eval e, evalAll es with
    | some v, some vs => some (v :: vs)
    | _, _ => none

/-- The truth values of conditions, if all of them are true or false. -/
def truths : List Expr → Option (List Bool)
  | [] => some []
  | e :: es =>
    match (eval e).bind truth?, truths es with
    | some b, some bs => some (b :: bs)
    | _, _ => none

end

variable {ρ}

theorem evalAll_eq_some {es : List Expr} {vs : List Value}
    (h : List.Forall₂ (fun e v => e.eval ρ = some v) es vs) : evalAll ρ es = some vs := by
  induction h with
  | nil => rfl
  | cons he _ ih => rw [evalAll, he, ih]

/-! ## Chains -/

/-- The condition is true or false, as `b` says. -/
def Truth (ρ : Assignment) (e : Expr) (b : Bool) : Prop :=
  e.eval ρ = some (.boolean b)

theorem truths_cons {e : Expr} {es : List Expr} {b : Bool} {bs : List Bool} (he : Truth ρ e b)
    (hes : truths ρ es = some bs) : truths ρ (e :: es) = some (b :: bs) := by
  rw [truths, he, hes]
  rfl

theorem truths_append {es fs : List Expr} {bs cs : List Bool} (hes : truths ρ es = some bs)
    (hfs : truths ρ fs = some cs) : truths ρ (es ++ fs) = some (bs ++ cs) := by
  induction es generalizing bs with
  | nil =>
    cases hes
    exact hfs
  | cons e es ih =>
    rw [truths] at hes
    split at hes
    · next b bs' he hes' =>
      cases hes
      rw [List.cons_append, truths, he, ih hes']
      rfl
    · cases hes

theorem truths_conjuncts {e : Expr} {b : Bool} (h : Truth ρ e b) :
    ∃ bs, truths ρ e.conjuncts = some bs ∧ bs.all id = b := by
  cases e with
  | conjunction es =>
    rw [Truth, eval, Option.map_eq_some_iff] at h
    obtain ⟨bs, hbs, hb⟩ := h
    exact ⟨bs, hbs, Value.boolean.inj hb⟩
  | _ => exact ⟨[b], truths_cons h rfl, by simp⟩

theorem truths_disjuncts {e : Expr} {b : Bool} (h : Truth ρ e b) :
    ∃ bs, truths ρ e.disjuncts = some bs ∧ bs.any id = b := by
  cases e with
  | disjunction es =>
    rw [Truth, eval, Option.map_eq_some_iff] at h
    obtain ⟨bs, hbs, hb⟩ := h
    exact ⟨bs, hbs, Value.boolean.inj hb⟩
  | _ => exact ⟨[b], truths_cons h rfl, by simp⟩

/-- Taking the parts of conditions apart keeps their total, if it does so for each of them. -/
theorem truths_flatMap {parts : Expr → List Expr} (total : List Bool → Bool)
    (hparts : ∀ {e b}, Truth ρ e b → ∃ bs, truths ρ (parts e) = some bs ∧ total bs = b)
    (htotal : ∀ bs cs ds, total cs = total ds → total (bs ++ cs) = total (total bs :: ds))
    {es : List Expr} {bs : List Bool} (h : List.Forall₂ (Truth ρ) es bs) :
    ∃ cs, truths ρ (es.flatMap parts) = some cs ∧ total cs = total bs := by
  induction h with
  | nil => exact ⟨[], rfl, rfl⟩
  | cons he _ ih =>
    obtain ⟨xs, hxs, rfl⟩ := hparts he
    obtain ⟨cs, hcs, htail⟩ := ih
    exact ⟨xs ++ cs, by rw [List.flatMap_cons, truths_append hxs hcs], htotal _ _ _ htail⟩

/-- **The conjunction of conditions is true if all of them are.** -/
theorem eval_conjoined {es : List Expr} {bs : List Bool} (h : List.Forall₂ (Truth ρ) es bs) :
    Truth ρ (conjoined es) (bs.all id) := by
  match es, bs, h with
  | [], _, .nil => rfl
  | [e], [b], .cons he .nil =>
    rw [List.all_cons, List.all_nil, Bool.and_true]
    exact he
  | d :: e :: es, bs, h =>
    obtain ⟨cs, hcs, hall⟩ := truths_flatMap (fun bs => bs.all id) truths_conjuncts
      (fun bs cs ds htail => by simp [htail]) h
    have heval : Truth ρ (conjunction ((d :: e :: es).flatMap conjuncts)) (bs.all id) := by
      rw [Truth, eval, hcs, Option.map_some, hall]
    exact heval

/-- **The disjunction of conditions is true if one of them is.** -/
theorem eval_disjoined {es : List Expr} {bs : List Bool} (h : List.Forall₂ (Truth ρ) es bs) :
    Truth ρ (disjoined es) (bs.any id) := by
  match es, bs, h with
  | [], _, .nil => rfl
  | [e], [b], .cons he .nil =>
    rw [List.any_cons, List.any_nil, Bool.or_false]
    exact he
  | d :: e :: es, bs, h =>
    obtain ⟨cs, hcs, hany⟩ := truths_flatMap (fun bs => bs.any id) truths_disjuncts
      (fun bs cs ds htail => by simp [htail]) h
    have heval : Truth ρ (disjunction ((d :: e :: es).flatMap disjuncts)) (bs.any id) := by
      rw [Truth, eval, hcs, Option.map_some, hany]
    exact heval

end Sql.Expr

end RowFilter
