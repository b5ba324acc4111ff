import RowFilter.Residual.Printer

/-!
# Expressions, queries and residuals

A residual is a disjunction of queries and a query a conjunction of expressions.  A residual without
queries can never hold; one with an empty query always does.  Queries are printed on a line each,
and the expressions of a query with semicolons between them.
-/

set_option autoImplicit false

namespace RowFilter

/-- What an expression states: a call, or a term that is asserted by itself. -/
inductive Condition where
  /-- An operator followed by its arguments. -/
  | call (terms : List Term)
  /-- A single term. -/
  | term (value : Term)
deriving Repr, Inhabited

/-- A condition, or its negation. -/
structure Expression where
  /-- What is stated. -/
  condition : Condition
  /-- Whether `not` stands in front of it. -/
  negated : Bool := false
deriving Repr, Inhabited

/-- A conjunction of expressions. -/
abbrev Query := List Expression

/-- A disjunction of queries: what is left of a policy when the row is unknown. -/
abbrev Residual := List Query

namespace Expression

/-- The expression that applies the named operator to the arguments. -/
def ofCall (operator : String) (arguments : List Term) : Expression :=
  { condition := .call (Term.operatorRef operator :: arguments) }

/-- Whether the expression is a call. -/
def isCall (e : Expression) : Bool :=
  match e.condition with
  | .call _ => true
  | .term _ => false

/-- The sign that is written between the operands of a comparison. -/
def comparisonSign (operator : Term) : Option String :=
  match operator.operatorName with
  | some "eq" => some "="
  | some "equal" => some "=="
  | some "neq" => some "!="
  | _ => none

/-- The printed form of a call.  A comparison of two operands has its sign between them. -/
def callText : List Term → String
  | [operator, left, right] =>
    match comparisonSign operator with
    | some sign => left.text ++ " " ++ sign ++ " " ++ right.text
    | none => Term.text (.call [operator, left, right])
  | terms => Term.text (.call terms)

/-- The printed form of an expression. -/
def text (e : Expression) : String :=
  (if e.negated then "not " else "") ++
    match e.condition with
    | .call terms => callText terms
    | .term t => t.text

end Expression

/-- The printed form of a query. -/
def Query.text (q : Query) : String :=
  Text.joined "; " (q.map Expression.text)

/-- The printed form of a residual. -/
def Residual.text (r : Residual) : String :=
  Text.joined "\n" (r.map Query.text)

end RowFilter
