import RowFilter.Proofs.Sql.Form

/-!
# Predicates without their sources

An array literal, a conjunction and a disjunction remember the printed term or query that they come
from.  These texts are remarks: how a predicate is rendered, and which of its operands have no form
in SQL, does not depend on them.

* `Node.bare` — a predicate with all remarks left out.
* `Node.render_bare` — it is rendered as the predicate itself is.
-/

set_option autoImplicit false

namespace RowFilter.Sql.Node

mutual

/-- The predicate without the texts that it remembers. -/
def bare : Node → Node
  | array _ es => array "" (bareAll es)
  | equality negate l r => equality negate l.bare r.bare
  | member x c => member x.bare c.bare
  | conjunction _ cs => conjunction "" (bareAll cs)
  | disjunction _ cs => disjunction "" (bareAll cs)
  | boolean b => boolean b
  | string s => string s
  | number t => number t
  | column sql type scope => column sql type scope

/-- The predicates of a list without the texts that they remember. -/
def bareAll : List Node → List Node
  | [] => []
  | n :: ns => n.bare :: bareAll ns

end

theorem bareAll_eq (ns : List Node) : bareAll ns = ns.map bare := by
  induction ns with
  | nil => rfl
  | cons n ns ih => rw [bareAll, ih, List.map_cons]

/-! ## What rendering looks at -/

@[simp] theorem kind_bare (n : Node) : n.bare.kind = n.kind := by
  cases n <;> rfl

@[simp] theorem isLiteral_bare (n : Node) : n.bare.isLiteral = n.isLiteral := by
  cases n <;> rfl

@[simp] theorem describe_bare (n : Node) : n.bare.describe = n.describe := by
  cases n <;> rfl

@[simp] theorem isDeclaredArray_bare (n : Node) : isDeclaredArray n.bare = isDeclaredArray n := by
  cases n <;> rfl

theorem isBoolean_bare (n : Node) : n.bare.isBoolean = n.isBoolean := by
  rw [isBoolean, isBoolean, kind_bare]

theorem ofEquality_bare (l r : Node) : Form.ofEquality l.bare r.bare = Form.ofEquality l r := by
  simp only [Form.ofEquality, kind_bare, isLiteral_bare]

theorem isSingle_bare (n : Node) : Membership.isSingle n.bare = Membership.isSingle n := by
  rw [Membership.isSingle, Membership.isSingle, kind_bare, isDeclaredArray_bare]

theorem ofNodes_bare (x c : Node) :
    Membership.ofNodes x.bare c.bare = Membership.ofNodes x c := by
  cases c with
  | array source es =>
    cases es <;>
      rw [bare, bareAll, Membership.ofNodes, Membership.ofNodes, isDeclaredArray_bare,
        isSingle_bare]
  | column sql type scope =>
    rw [bare, Membership.ofNodes, Membership.ofNodes, isSingle_bare]
  | _ => rfl

theorem needsParens_bare (n : Node) : n.bare.needsParens = n.needsParens := by
  induction n using induct with
  | conjunction source cs ih =>
    rcases cs with _ | ⟨c, _ | ⟨d, cs⟩⟩
    · rfl
    · exact ih c List.mem_cons_self
    · rfl
  | disjunction source cs ih =>
    rcases cs with _ | ⟨c, _ | ⟨d, cs⟩⟩
    · rfl
    · exact ih c List.mem_cons_self
    · simp [bare, bareAll, bareAll_eq, needsParens]
  | _ => rfl

/-! ## Rendering -/

/-- **A predicate is rendered in the same way without its remarks.** -/
theorem render_bare (n : Node) : n.bare.render = n.render := by
  induction n using induct with
  | array source es ih =>
    rw [bare, render, render, renderAll_eq, renderAll_eq, bareAll_eq, List.map_map,
      List.map_congr_left (f := render ∘ bare) ih]
  | equality negate l r ihl ihr =>
    rw [bare, render, render, equalityOf_eq, equalityOf_eq, ofEquality_bare, ihl, ihr,
      describe_bare, describe_bare]
  | member x c ihx ihc =>
    rw [bare, render, render, membershipOf_eq, membershipOf_eq, ofNodes_bare, ihx, ihc,
      describe_bare, describe_bare]
    simp only [Membership.write, Membership.value, kind_bare]
  | conjunction source cs ih =>
    rcases cs with _ | ⟨c, _ | ⟨d, cs⟩⟩
    · rfl
    · exact ih c List.mem_cons_self
    · rw [bare, bareAll, bareAll, render_conjunction_cons_cons, render_conjunction_cons_cons,
        bareAll_eq, ← List.map_cons, ← List.map_cons, List.map_map]
      congr 1
      refine List.map_congr_left fun n hn => ?_
      rw [Function.comp_apply, needsParens_bare, ih n hn]
  | disjunction source cs ih =>
    rcases cs with _ | ⟨c, _ | ⟨d, cs⟩⟩
    · rfl
    · exact ih c List.mem_cons_self
    · rw [bare, bareAll, bareAll, render_disjunction_cons_cons, render_disjunction_cons_cons,
        bareAll_eq, ← List.map_cons, ← List.map_cons, List.map_map,
        List.map_congr_left (f := render ∘ bare) ih]
  | _ => rfl

end RowFilter.Sql.Node
