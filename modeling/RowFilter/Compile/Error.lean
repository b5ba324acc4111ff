import RowFilter.Path
import RowFilter.Sql.Rendering

/-!
# Errors of compilation

An error of compilation says what is not supported, inside the descriptions of the query, the
expression and the terms around it.
-/

set_option autoImplicit false

namespace RowFilter

/-- Why a residual has no SQL text. -/
inductive CompileError where
  /-- The error lies in a query. -/
  | inQuery (query : String) (cause : CompileError)
  /-- The error lies in an expression. -/
  | inExpression (expression : String) (cause : CompileError)
  /-- The error lies in a term. -/
  | inTerm (term : String) (cause : CompileError)
  /-- There is no such operator. -/
  | unsupportedOperator (operator : String)
  /-- An operator has the wrong number of arguments. -/
  | arity (expected got : Nat)
  /-- An expression is neither true nor false. -/
  | notBoolean (expression : String)
  /-- No resolver knows a reference. -/
  | unresolved (reference : String)
  /-- There are no resolvers at all. -/
  | noResolvers
  /-- A reference has no path. -/
  | path (error : PathError)
  /-- A variable stands by itself. -/
  | unboundVar (name : String)
  /-- Something else that has no form in SQL. -/
  | unsupported (what : String)
  /-- A number's text is no number. -/
  | invalidNumber (text : String)
  /-- Operands have no common form in SQL. -/
  | generation (faults : List Sql.Fault)
deriving Repr, DecidableEq

namespace CompileError

/-- The wording of an error, without what lies inside it. -/
def message : CompileError → String
  | inQuery query _ => "query " ++ query
  | inExpression expression _ => "expression " ++ expression
  | inTerm term _ => "term " ++ term
  | unsupportedOperator operator => "operator " ++ operator ++ " not supported"
  | arity expected got => "expected " ++ toString expected ++ " terms, got " ++ toString got
  | notBoolean expression => expression ++ " is not a boolean expression"
  | unresolved reference => "variable " ++ reference ++ " cannot be converted"
  | noResolvers => "no variable converter provided to handle variables"
  | path error => error.message
  | unboundVar name => "var " ++ name ++ " not supported outside of a reference"
  | unsupported what => what ++ " not supported"
  | invalidNumber text => "invalid number " ++ text
  | generation faults =>
    "sql generation failed: " ++ Text.joined "; " (faults.map Sql.Fault.message)

/-- The errors inside an error, from the outside to the inside. -/
def causes : CompileError → List CompileError
  | inQuery _ cause => cause :: cause.causes
  | inExpression _ cause => cause :: cause.causes
  | inTerm _ cause => cause :: cause.causes
  | _ => []

/-- The innermost error. -/
def rootCause : CompileError → CompileError
  | inQuery _ cause => cause.rootCause
  | inExpression _ cause => cause.rootCause
  | inTerm _ cause => cause.rootCause
  | e => e

end CompileError

end RowFilter
