import RowFilter.Proofs.Compile.Inversion
import RowFilter.Proofs.Resolver.Column
import RowFilter.Proofs.Sql.ReadBack

/-!
# Where the parts of a predicate come from

What a compiled residual is made of is found in the residual: its columns are those that the
references lead to, and its numbers are numbers.

* `Residual.references` — the references of a residual that stand for values.
* `Compile.IsLeafOf` — a string, a number, or a column of one of the references.
* `Compile.isLeafOf_of_predicate` — all leaves of a compiled residual are of this sort.
-/

set_option autoImplicit false

namespace RowFilter

open Sql (Node)

/-! ## References -/

namespace Term

mutual

/-- The references of a term that stand for values: not those that name operators, and none inside
objects. -/
def references : Term → List (List Term)
  | ref segments => [segments]
  | array es => referencesOf es
  | set es => referencesOf es
  | call ts => argumentReferences ts
  | _ => []

/-- The references of some terms. -/
def referencesOf : List Term → List (List Term)
  | [] => []
  | t :: ts => t.references ++ referencesOf ts

/-- The references of the arguments of a call. -/
def argumentReferences : List Term → List (List Term)
  | [] => []
  | _ :: arguments => referencesOf arguments

end

theorem referencesOf_eq (ts : List Term) : referencesOf ts = ts.flatMap references := by
  induction ts with
  | nil => rfl
  | cons t ts ih => rw [referencesOf, ih, List.flatMap_cons]

theorem references_subset_of_mem {t : Term} {ts : List Term} (h : t ∈ ts) :
    t.references ⊆ referencesOf ts := by
  rw [referencesOf_eq]
  exact fun _ hsegments => List.mem_flatMap_of_mem h hsegments

/-- A set refers to what the array of its sorted elements refers to. -/
theorem mem_references_set {segments : List Term} {es : List Term} :
    segments ∈ (set es).references ↔ segments ∈ (array (sorted es)).references := by
  simp only [references, referencesOf_eq, List.mem_flatMap, mem_sorted]

end Term

/-- The references of a condition. -/
def Condition.references : Condition → List (List Term)
  | call ts => Term.argumentReferences ts
  | term t => t.references

/-- The references of a residual. -/
def Residual.references (r : Residual) : List (List Term) :=
  r.flatMap fun q => q.flatMap fun e => e.condition.references

/-! ## Leaves -/

namespace Compile

/-- A string, a number, or the column that one of the references leads to. -/
def IsLeafOf (s : Settings) (references : List (List Term)) : Sql.Lexeme → Prop
  | .string _ => True
  | .number text => Number.isValid text = true
  | .column sql =>
    ∃ segments ∈ references, ∃ type scope, reference s segments = .ok (.column sql type scope)
  | _ => False

variable {s : Settings}

theorem IsLeafOf.mono {refs refs' : List (List Term)} {l : Sql.Lexeme} (h : IsLeafOf s refs l)
    (hsub : refs ⊆ refs') : IsLeafOf s refs' l := by
  cases l with
  | column sql =>
    obtain ⟨segments, hsegments, hcolumn⟩ := h
    exact ⟨segments, hsub hsegments, hcolumn⟩
  | _ => exact h

theorem leaves_apply (op : Operator) (l r : Node) :
    (op.apply l r).leaves = l.leaves ++ r.leaves := by
  cases op <;> rfl

theorem isLeafOf_of_forall₂ {es : List Term} {ns : List Node} {l : Sql.Lexeme}
    (h : List.Forall₂ (fun e m => term s e = .ok m) es ns)
    (ih : ∀ e ∈ es, ∀ {m l}, term s e = .ok m → l ∈ m.leaves → IsLeafOf s e.references l)
    (hl : l ∈ ns.flatMap Node.leaves) : IsLeafOf s (Term.referencesOf es) l := by
  obtain ⟨m, hm, hleaf⟩ := List.mem_flatMap.1 hl
  obtain ⟨e, he, hem⟩ := exists_of_mem_right h hm
  exact (ih e he hem hleaf).mono (Term.references_subset_of_mem he)

/-- The leaves of a compiled term. -/
theorem isLeafOf_of_term {t : Term} {n : Node} {l : Sql.Lexeme} (hn : term s t = .ok n)
    (hl : l ∈ n.leaves) : IsLeafOf s t.references l := by
  induction t using Term.induct generalizing n l with
  | boolean b => cases hn; cases hl
  | number text =>
    rw [term] at hn
    split at hn
    · next hvalid =>
      cases hn
      rw [List.mem_singleton.1 hl]
      exact hvalid
    · cases hn
  | string value =>
    cases hn
    rw [List.mem_singleton.1 hl]
    trivial
  | ref segments =>
    obtain ⟨sql, type, scope, rfl, _⟩ := isColumn_of_reference hn
    rw [List.mem_singleton.1 hl]
    exact ⟨segments, List.mem_cons_self, type, scope, hn⟩
  | array es ih =>
    obtain ⟨source, ns, rfl, hns⟩ := term_array_eq_ok hn
    rw [Node.leaves, Node.leavesAll_eq] at hl
    exact isLeafOf_of_forall₂ hns (fun e he => ih e he) hl
  | set es ih =>
    rw [term_set] at hn
    obtain ⟨source, ns, rfl, hns⟩ := term_array_eq_ok hn
    rw [Node.leaves, Node.leavesAll_eq] at hl
    refine (isLeafOf_of_forall₂ hns (fun e he => ih e (Term.mem_sorted.1 he)) hl).mono ?_
    exact fun _ hsegments => Term.mem_references_set.2 hsegments
  | call ts ih =>
    obtain ⟨t, l, r, name, op, left, right, rfl, _, _, hleft, hright, rfl⟩ := call_eq_ok hn
    rw [leaves_apply, List.mem_append] at hl
    rcases hl with hl | hl
    · exact (ih l (by simp) hleft hl).mono (Term.references_subset_of_mem (by simp))
    · exact (ih r (by simp) hright hl).mono (Term.references_subset_of_mem (by simp))
  | null => cases hn
  | var name => cases hn
  | object entries => cases hn

/-- The leaves of a compiled condition. -/
theorem isLeafOf_of_condition {c : Condition} {n : Node} {l : Sql.Lexeme}
    (hn : condition s c = .ok n) (hl : l ∈ n.leaves) : IsLeafOf s c.references l := by
  cases c with
  | call ts => exact isLeafOf_of_term (t := .call ts) hn hl
  | term t => exact isLeafOf_of_term hn hl

/-- **The leaves of a compiled residual.** -/
theorem isLeafOf_of_predicate {r : Residual} {n : Node} {l : Sql.Lexeme}
    (hn : predicate s r = .ok n) (hl : l ∈ n.leaves) : IsLeafOf s r.references l := by
  rcases predicate_eq_ok hn with ⟨_, rfl⟩ | ⟨_, rfl⟩ | ⟨ns, rfl, hns⟩
  · cases hl
  · cases hl
  · rw [Node.leaves, Node.leavesAll_eq] at hl
    obtain ⟨m, hm, hleaf⟩ := List.mem_flatMap.1 hl
    obtain ⟨q, hq, hqm⟩ := exists_of_mem_right hns hm
    obtain ⟨ms, rfl, hms⟩ := query_eq_ok hqm
    rw [Node.leaves, Node.leavesAll_eq] at hleaf
    obtain ⟨k, hk, hleaf⟩ := List.mem_flatMap.1 hleaf
    obtain ⟨e, he, hek⟩ := exists_of_mem_right hms hk
    refine (isLeafOf_of_condition (expression_eq_ok hek).2.1 hleaf).mono ?_
    exact fun segments hsegments =>
      List.mem_flatMap_of_mem hq (List.mem_flatMap_of_mem he hsegments)

end Compile

end RowFilter
