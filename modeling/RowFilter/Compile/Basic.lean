import RowFilter.Compile.Error
import RowFilter.Residual.Order
import RowFilter.Resolver.Basic

/-!
# Compiling residuals

A residual is compiled in two steps.  The first turns it into a predicate and stops at the first
part that has no counterpart there (`Compile.predicate`).  The second renders the predicate, and
collects every pair of operands that SQL cannot compare; if there are any, the text is not used.

A residual without queries is false, and one with an empty query is true, whatever else it holds.
The elements of a set are taken in the order of terms, so that sets which only differ in how they
were written have the same SQL.

* `Compile.term` — the predicate tree of a term.
* `Compile.predicate` — that of a residual.
* `Compile.sql` — the SQL text of a residual.
-/

set_option autoImplicit false

namespace RowFilter.Compile

open Sql (Node)

/-- What compilation depends on besides the residual. -/
structure Settings where
  /-- The resolvers for references, if there are any.  They are of the built-in kinds, which all
  answer with columns; `Resolver` has no other kinds. -/
  resolvers : Option (List Resolver) := none
deriving Repr

/-! ## Terms -/

/-- The operators that have a form in SQL. -/
inductive Operator where
  /-- Equality, or its negation. -/
  | equality (negate : Bool)
  /-- Membership in a collection. -/
  | member
deriving Repr, DecidableEq

/-- The operator of the given name. -/
def Operator.ofName? : String → Option Operator
  | "eq" => some (equality false)
  | "equal" => some (equality false)
  | "equals" => some (equality false)
  | "neq" => some (equality true)
  | "notequal" => some (equality true)
  | "notequals" => some (equality true)
  | "internal.member_2" => some member
  | _ => none

/-- The predicate of an operator applied to two operands. -/
def Operator.apply : Operator → Node → Node → Node
  | equality negate, left, right => .equality negate left right
  | member, element, collection => .member element collection

/-- The operator that a term names. -/
def operator (t : Term) : Except CompileError Operator :=
  match t.operatorName with
  | none => .error (.unsupportedOperator t.text)
  | some name =>
    match Operator.ofName? name with
    | none => .error (.unsupportedOperator name)
    | some op => .ok op

/-- The column of a reference. -/
def reference (s : Settings) (segments : List Term) : Except CompileError Node :=
  match Path.ofRef segments with
  | .error e => .error (.path e)
  | .ok path =>
    match s.resolvers with
    | none => .error .noResolvers
    | some rs =>
      match Resolver.resolveFirst rs path with
      | none => .error (.unresolved (Term.text (.ref segments)))
      | some n => .ok n

/-- A term with the result of compiling it. -/
abbrev Compiled := Term × Except CompileError Node

/-- The results of a list, or the first error, inside the term where it lies. -/
def collect : List Compiled → Except CompileError (List Node)
  | [] => .ok []
  | (t, .error e) :: _ => .error (.inTerm t.text e)
  | (_, .ok n) :: rest => (collect rest).map (n :: ·)

/-- The array literal of compiled elements. -/
def arrayOf (elements : List Compiled) : Except CompileError Node :=
  (collect elements).map (.array (Term.text (.array (elements.map Prod.fst))))

/-- Compiled elements in the order of their terms. -/
def inOrder (elements : List Compiled) : List Compiled :=
  elements.mergeSort fun a b => (Term.cmp a.1 b.1).isLE

/-- An operator applied to compiled arguments. -/
def applied (op : Operator) : List Compiled → Except CompileError Node
  | [(t, left), (u, right)] =>
    match left, right with
    | .error e, _ => .error (.inTerm t.text e)
    | .ok _, .error e => .error (.inTerm u.text e)
    | .ok l, .ok r => .ok (op.apply l r)
  | arguments => .error (.arity 2 arguments.length)

mutual

/-- **The predicate tree of a term.** -/
def term (s : Settings) : Term → Except CompileError Node
  | .null => .error (.unsupported "null")
  | .boolean b => .ok (.boolean b)
  | .number text => if Number.isValid text then .ok (.number text) else .error (.invalidNumber text)
  | .string value => .ok (.string value)
  | .var name => .error (.unboundVar name)
  | .ref segments => reference s segments
  | .array elements => arrayOf (terms s elements)
  | .set elements => arrayOf (inOrder (terms s elements))
  | .object _ => .error (.unsupported "object")
  | .call ts => call s ts

/-- The terms of a list, each with its predicate tree. -/
def terms (s : Settings) : List Term → List Compiled
  | [] => []
  | t :: ts => (t, term s t) :: terms s ts

/-- The predicate of a call. -/
def call (s : Settings) : List Term → Except CompileError Node
  | [] => .error (.unsupported "empty call")
  | op :: arguments =>
    match operator op with
    | .error e => .error e
    | .ok op => applied op (terms s arguments)

end

/-! ## Residuals -/

/-- The predicate of an expression, which has to be true or false. -/
def expression (s : Settings) (e : Expression) : Except CompileError Node :=
  if e.negated then .error (.unsupported "negated expression")
  else
    let compiled := match e.condition with
      | .call ts => call s ts
      | .term t => term s t
    match compiled with
    | .error e => .error e
    | .ok n => if n.isBoolean then .ok n else .error (.notBoolean e.text)

/-- The predicates of the expressions of a query, or the first error. -/
def expressions (s : Settings) : List Expression → Except CompileError (List Node)
  | [] => .ok []
  | e :: es =>
    match expression s e with
    | .error err => .error (.inExpression e.text err)
    | .ok n => (expressions s es).map (n :: ·)

/-- The predicate of a query. -/
def query (s : Settings) (q : Query) : Except CompileError Node :=
  (expressions s q).map (.conjunction q.text)

/-- The predicates of queries, or the first error. -/
def queries (s : Settings) : List Query → Except CompileError (List Node)
  | [] => .ok []
  | q :: qs =>
    match query s q with
    | .error e => .error (.inQuery q.text e)
    | .ok n => (queries s qs).map (n :: ·)

/-- **The predicate of a residual.** -/
def predicate (s : Settings) (r : Residual) : Except CompileError Node :=
  if r.isEmpty then .ok (.boolean false)
  else if r.any List.isEmpty then .ok (.boolean true)
  else (queries s r).map (.disjunction r.text)

/-- **The SQL text of a residual.** -/
def sql (s : Settings) (r : Residual) : Except CompileError String :=
  match predicate s r with
  | .error e => .error e
  | .ok n =>
    let rendered := n.render
    if rendered.faults.isEmpty then .ok rendered.text else .error (.generation rendered.faults)

end RowFilter.Compile
