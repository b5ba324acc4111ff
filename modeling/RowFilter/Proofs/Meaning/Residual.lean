import Mathlib.Data.List.Sections
import RowFilter.Proofs.Compile.References
import RowFilter.Proofs.Meaning.Condition

/-!
# What residuals mean

A residual holds of a row if one of its queries has all its expressions true.  This file says so
without looking at SQL; only the columns are needed, since they are what references lead to.

A term need not have one value.  A reference that iterates over an array may take the value of any
of its elements, and a call is true if its operator holds for *some* values of its operands.  Each
call decides for itself, so an array that is iterated over in a call is not seen from outside of it.
Terms without a value here (null, variables, objects, references to nowhere) have no SQL either.

* `Term.values` — the values that a term may take.
* `operatorHolds` — when an operator holds of two operands.
* `Residual.holds` — whether a residual holds.
* `Residual.isScoped` — whether arrays and sets are free of references that iterate.
* `Respects` — the columns that references lead to have values of their types.
-/

set_option autoImplicit false

namespace RowFilter

open Compile (Settings reference)
open Sql (Node)

variable (s : Settings) (ρ : Assignment)

/-! ## Operators -/

/-- **When the operator of the given name holds** of operands that may take the values `xs` and
`ys`.  Equality and its negation compare the values.  A membership test looks each of `sought` up in
the collections `ys`. -/
def operatorHolds (name : String) (xs sought ys : List Value) : Bool :=
  if name ∈ ["eq", "equal", "equals"] then xs.any fun x => ys.any fun y => decide (x = y)
  else if name ∈ ["neq", "notequal", "notequals"] then
    xs.any fun x => ys.any fun y => decide (x ≠ y)
  else if name = "internal.member_2" then
    sought.any fun x => ys.any fun collection => decide (x ∈ collection.elements)
  else false

/-! ## Terms -/

namespace Term

/-- The values that a reference may take: that of its column, or that of any element. -/
def referenceValues (segments : List Term) : List Value :=
  match reference s segments with
  | .ok (.column sql _ .whole) => [ρ sql]
  | .ok (.column sql _ .anyElement) => (ρ sql).elements
  | _ => []

/-- What a membership test looks up if the term, which may take the given values, is its element:
the elements of a column that holds an array, and the values themselves in all other cases. -/
def sought (t : Term) (values : List Value) : List Value :=
  match t with
  | ref segments =>
    match reference s segments with
    | .ok (.column sql (.array _) .whole) => (ρ sql).elements
    | _ => values
  | _ => values

/-- The arrays whose elements take one of the given values each. -/
def arraysOf (elements : List (Term × List Value)) : List Value :=
  (elements.map Prod.snd).sections.map Value.array

/-- The value of a call whose arguments may take the given values. -/
def callValue (operator : Term) : List (Term × List Value) → List Value
  | [(t, xs), (_, ys)] =>
    match operator.operatorName with
    | some name => [.boolean (operatorHolds name xs (t.sought s ρ xs) ys)]
    | none => []
  | _ => []

mutual

/-- **The values that a term may take.**  A set stands for the array of its elements in the order of
terms. -/
def values : Term → List Value
  | null => []
  | boolean b => [.boolean b]
  | number text => [.number (Number.value text)]
  | string text => [.string text]
  | var _ => []
  | ref segments => referenceValues s ρ segments
  | array es => arraysOf (valuesOf es)
  | set es => arraysOf ((valuesOf es).mergeSort fun a b => (cmp a.1 b.1).isLE)
  | object _ => []
  | call ts => callValues ts

/-- The terms of a list, each with the values that it may take. -/
def valuesOf : List Term → List (Term × List Value)
  | [] => []
  | t :: ts => (t, t.values) :: valuesOf ts

/-- The values that a call may take. -/
def callValues : List Term → List Value
  | [] => []
  | operator :: arguments => callValue s ρ operator (valuesOf arguments)

end

theorem valuesOf_eq (ts : List Term) : valuesOf s ρ ts = ts.map fun t => (t, t.values s ρ) := by
  induction ts with
  | nil => rfl
  | cons t ts ih => rw [valuesOf, ih, List.map_cons]

/-- **A set stands for the array of its sorted elements.** -/
theorem values_set (es : List Term) : values s ρ (set es) = values s ρ (array (sorted es)) := by
  rw [values, values, valuesOf_eq, valuesOf_eq, mergeSort_map_pair]

variable {s ρ} in
theorem values_call {t l r : Term} {name : String} (h : t.operatorName = some name) :
    values s ρ (call [t, l, r]) =
      [.boolean (operatorHolds name (l.values s ρ) (l.sought s ρ (l.values s ρ))
        (r.values s ρ))] := by
  rw [values, callValues, valuesOf, valuesOf, valuesOf, callValue, h]

/-! ### Where references stand -/

/-- Whether the term is a reference that iterates over an array. -/
def isElementwise (t : Term) : Bool :=
  match t with
  | ref segments =>
    match reference s segments with
    | .ok (.column _ _ .anyElement) => true
    | _ => false
  | _ => false

mutual

/-- Whether no array and no set of the term has an element that iterates over an array, however deep
it lies. -/
def isScoped : Term → Bool
  | array es => areScoped es
  | set es => areScoped es
  | call ts => areOperands ts
  | _ => true

/-- Whether that is so for the elements of an array, and none of them iterates. -/
def areScoped : List Term → Bool
  | [] => true
  | t :: ts => !t.isElementwise s && t.isScoped && areScoped ts

/-- Whether that is so for an operator and its arguments. -/
def areOperands : List Term → Bool
  | [] => true
  | t :: ts => t.isScoped && areOperands ts

end

theorem areScoped_iff {ts : List Term} :
    areScoped s ts = true ↔ ∀ t ∈ ts, t.isElementwise s = false ∧ t.isScoped s = true := by
  induction ts with
  | nil => simp [areScoped]
  | cons t ts ih => simp [areScoped, ih]

theorem areOperands_iff {ts : List Term} :
    areOperands s ts = true ↔ ∀ t ∈ ts, t.isScoped s = true := by
  induction ts with
  | nil => simp [areOperands]
  | cons t ts ih => simp [areOperands, ih]

end Term

/-! ## Residuals -/

namespace Condition

/-- The values that a condition may take. -/
def values : Condition → List Value
  | call ts => Term.callValues s ρ ts
  | term t => t.values s ρ

/-- Whether no array and no set of the condition has an element that iterates over an array. -/
def isScoped : Condition → Bool
  | call ts => Term.areOperands s ts
  | term t => t.isScoped s

end Condition

/-- Whether an expression is true. -/
def Expression.holds (e : Expression) : Bool :=
  decide (.boolean true ∈ e.condition.values s ρ) != e.negated

/-- Whether all expressions of a query are true. -/
def Query.holds (q : Query) : Bool :=
  q.all (Expression.holds s ρ)

namespace Residual

/-- **Whether a residual holds**: one of its queries does. -/
def holds (r : Residual) : Bool :=
  r.any (Query.holds s ρ)

/-- Whether references that iterate over an array stand only where an operator is applied to them,
not inside of arrays and sets. -/
def isScoped (r : Residual) : Bool :=
  r.all fun q => q.all fun e => e.condition.isScoped s

end Residual

/-- The columns that references lead to have values of their types. -/
def Respects (references : List (List Term)) : Prop :=
  ∀ segments ∈ references, ∀ sql type scope,
    reference s segments = .ok (.column sql type scope) → (ρ sql).hasType type = true

variable {s ρ}

theorem Respects.mono {refs refs' : List (List Term)} (h : Respects s ρ refs)
    (hsub : refs' ⊆ refs) : Respects s ρ refs' :=
  fun segments hsegments => h segments (hsub hsegments)

end RowFilter
