import RowFilter.Sql.Node
import RowFilter.Text.Basic

/-!
# Rendering predicates

Every predicate has a text.  Where two operands have no common form in SQL, the text is a
placeholder and the pair is noted as a fault; the text may only be used if there are no faults.

How two operands are compared is decided by their kinds alone (`comparison`).  Equality is
symmetric, so when the operands cannot be compared as they stand they are tried the other way round
(`equalityOf`).  A literal goes to the right of what it is compared with.

* `Node.render` — the text of a predicate, and its faults in the order of the text.
* `Node.compare?`, `Node.equate`, `Node.memberOf` — the same for a pair of operands.
-/

set_option autoImplicit false

namespace RowFilter.Sql

/-! ## Texts with faults -/

/-- A pair of operands that has no form in SQL. -/
inductive Fault where
  /-- The operands cannot be compared. -/
  | equality (negate : Bool) (left right : String)
  /-- The element cannot be looked up in the collection. -/
  | membership (element collection : String)
deriving Repr, DecidableEq

/-- The sign of an equality or of its negation. -/
def equalitySign (negate : Bool) : String :=
  if negate then "!=" else "="

/-- The wording of a fault. -/
def Fault.message : Fault → String
  | equality negate left right =>
    "unsupported equality: " ++ left ++ " " ++ equalitySign negate ++ " " ++ right
  | membership element collection => "unsupported membership: " ++ element ++ " in " ++ collection

/-- A text, and the faults met while writing it. -/
structure Rendered where
  /-- The text. -/
  text : String
  /-- The faults, in the order of the text. -/
  faults : List Fault := []
deriving Repr, DecidableEq

namespace Rendered

/-- One text after the other. -/
def append (a b : Rendered) : Rendered :=
  { text := a.text ++ b.text, faults := a.faults ++ b.faults }

instance : Append Rendered := ⟨append⟩

instance : Coe String Rendered := ⟨fun s => { text := s }⟩

/-- The text between parentheses. -/
def parenthesized (r : Rendered) : Rendered :=
  { r with text := "(" ++ r.text ++ ")" }

/-- The texts with `separator` between each two. -/
def joined (separator : String) (rs : List Rendered) : Rendered :=
  { text := Text.joined separator (rs.map text), faults := rs.flatMap faults }

end Rendered

/-! ## Operands -/

/-- An operand with its text. -/
structure Operand where
  /-- The operand. -/
  node : Node
  /-- Its text. -/
  rendered : Rendered

/-- The comparison of two operands, if their kinds have one.  A predicate is compared between
parentheses, and a single value with any element of an array by `ANY`. -/
def comparison (negate : Bool) (a b : Operand) : Option Rendered :=
  let sign : Rendered := ((" " ++ equalitySign negate ++ " " : String) : Rendered)
  let plain := a.rendered ++ sign ++ b.rendered
  let any := a.rendered ++ sign ++ ("ANY(" : Rendered) ++ b.rendered ++ (")" : Rendered)
  match a.node.kind, b.node.kind with
  | .number, .number => some plain
  | .string, .string => some plain
  | .boolean, .boolean => some plain
  | .array, .array => some plain
  | .predicate, .boolean => some (a.rendered.parenthesized ++ sign ++ b.rendered)
  | .predicate, .predicate => some (a.rendered.parenthesized ++ sign ++ b.rendered.parenthesized)
  | .string, .anyElement => some any
  | .number, .anyElement => some any
  | .boolean, .anyElement => some any
  | _, _ => none

/-- The equality of two operands. -/
def equalityOf (negate : Bool) (left right : Operand) : Rendered :=
  let swap := left.node.isLiteral && !right.node.isLiteral
  let first := if swap then right else left
  let second := if swap then left else right
  match comparison negate first second with
  | some r => r
  | none =>
    match comparison negate second first with
    | some r => r
    | none =>
      { text := "EqualityError",
        faults := [.equality negate left.node.describe right.node.describe] }

/-- Whether an operand was declared as an array, be it the whole or any of its elements. -/
def isDeclaredArray (n : Node) : Bool :=
  n.declaredType.any ValueType.isArray

/-- The membership of an element in a collection.  An array overlaps an array literal; a single
value equals any element of an array; nothing belongs to the empty array. -/
def membershipOf (element collection : Operand) : Rendered :=
  let isArray := isDeclaredArray element.node
  let isSingle := element.node.kind.isScalar && !isArray
  let value := if element.node.kind = .predicate then element.rendered.parenthesized
    else element.rendered
  let any := value ++ (" = ANY(" : Rendered) ++ collection.rendered ++ (")" : Rendered)
  let overlap := element.rendered ++ (" && " : Rendered) ++ collection.rendered
  let fault : Rendered :=
    { text := "MemberOfError",
      faults := [.membership element.node.describe collection.node.describe] }
  match collection.node with
  | .array _ elements =>
    if isArray then if elements.isEmpty then "false" else overlap
    else if isSingle then if elements.isEmpty then "false" else any
    else fault
  | .column _ _ _ => if collection.node.kind = .array && isSingle then any else fault
  | _ => fault

/-! ## Predicates -/

namespace Node

/-- Whether the expression has to stand between parentheses inside a conjunction: it is a
disjunction of several children, perhaps inside conjunctions and disjunctions of a single one. -/
def needsParens : Node → Bool
  | disjunction _ [only] => only.needsParens
  | disjunction _ children => decide (1 < children.length)
  | conjunction _ [only] => only.needsParens
  | _ => false

mutual

/-- **The text of a predicate**, and the operands that have no form in SQL. -/
def render : Node → Rendered
  | boolean true => "true"
  | boolean false => "false"
  | string value => (literal value : String)
  | number text => text
  | array _ elements =>
    ("ARRAY[" : Rendered) ++ Rendered.joined ", " (renderAll elements) ++ ("]" : Rendered)
  | equality negate left right => equalityOf negate ⟨left, left.render⟩ ⟨right, right.render⟩
  | member element collection =>
    membershipOf ⟨element, element.render⟩ ⟨collection, collection.render⟩
  | conjunction _ [] => "true"
  | conjunction _ [only] => only.render
  | conjunction _ (c :: cs) => Rendered.joined " AND " (renderConjuncts (c :: cs))
  | disjunction _ [] => "false"
  | disjunction _ [only] => only.render
  | disjunction _ (c :: cs) => Rendered.joined " OR " (renderAll (c :: cs))
  | column sql _ _ => sql

/-- The texts of the expressions of a list. -/
def renderAll : List Node → List Rendered
  | [] => []
  | n :: ns => n.render :: renderAll ns

/-- The texts of the children of a conjunction. -/
def renderConjuncts : List Node → List Rendered
  | [] => []
  | n :: ns => (if n.needsParens then n.render.parenthesized else n.render) :: renderConjuncts ns

end

/-- An expression as an operand. -/
def operand (n : Node) : Operand :=
  ⟨n, n.render⟩

/-- The comparison of two expressions as they stand, if their kinds have one. -/
def compare? (negate : Bool) (this other : Node) : Option Rendered :=
  comparison negate this.operand other.operand

/-- The equality of two expressions. -/
def equate (negate : Bool) (left right : Node) : Rendered :=
  equalityOf negate left.operand right.operand

/-- The membership of one expression in another. -/
def memberOf (element collection : Node) : Rendered :=
  membershipOf element.operand collection.operand

end Node

end RowFilter.Sql
