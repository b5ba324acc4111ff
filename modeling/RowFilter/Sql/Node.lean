import RowFilter.Column

/-!
# Predicates

The tree that a residual is turned into before it becomes text: literals, columns, and the
predicates that connect them.

An array literal, a conjunction and a disjunction remember the printed term or query that they come
from.  A column is either meant as a whole, or stands for any one of the elements of an array.

A string literal of SQL stands between single quotes, and a quote inside is written twice
(`Sql.literal`).
-/

set_option autoImplicit false

namespace RowFilter.Sql

/-! ## String literals -/

/-- The characters with every single quote written twice. -/
def doubleQuotes (cs : List Char) : List Char :=
  cs.flatMap fun c => if c = '\x27' then ['\x27', '\x27'] else [c]

/-- The string literal of a text. -/
def literal (s : String) : String :=
  String.ofList ('\x27' :: doubleQuotes s.toList ++ ['\x27'])

/-! ## Nodes -/

/-- What of a column is meant. -/
inductive Scope where
  /-- Its value. -/
  | whole
  /-- Some element of its value, which is an array. -/
  | anyElement
deriving Repr, DecidableEq

/-- A scalar or boolean expression of SQL. -/
inductive Node where
  /-- A truth value. -/
  | boolean (value : Bool)
  /-- A string literal. -/
  | string (value : String)
  /-- A number literal, by its text. -/
  | number (text : String)
  /-- An array literal. -/
  | array (source : String) (elements : List Node)
  /-- The operands are equal, or differ if `negate` is set. -/
  | equality (negate : Bool) (left right : Node)
  /-- The element belongs to the collection. -/
  | member (element collection : Node)
  /-- All of the children hold. -/
  | conjunction (source : String) (children : List Node)
  /-- One of the children holds. -/
  | disjunction (source : String) (children : List Node)
  /-- A column, by its SQL text. -/
  | column (sql : String) (type : ValueType) (scope : Scope)
deriving Repr, Inhabited

/-- What decides how an operand can be compared. -/
inductive Kind where
  /-- A boolean literal. -/
  | boolean
  /-- A boolean expression that is no literal. -/
  | predicate
  /-- A string. -/
  | string
  /-- A number. -/
  | number
  /-- An array. -/
  | array
  /-- Any element of an array. -/
  | anyElement
  /-- A map. -/
  | map
deriving Repr, DecidableEq

/-- Whether operands of this kind are single values. -/
def Kind.isScalar : Kind → Bool
  | boolean => true
  | predicate => true
  | string => true
  | number => true
  | _ => false

/-- The kind of a column of the given type. -/
def Kind.ofType : ValueType → Kind
  | .boolean => predicate
  | .string => string
  | .number => number
  | .array _ => array
  | .map _ => map

namespace Node

/-- The kind of an expression. -/
def kind : Node → Kind
  | boolean _ => .boolean
  | string _ => .string
  | number _ => .number
  | array _ _ => .array
  | equality _ _ _ => .predicate
  | member _ _ => .predicate
  | conjunction _ _ => .predicate
  | disjunction _ _ => .predicate
  | column _ type .whole => Kind.ofType type
  | column _ _ .anyElement => .anyElement

/-- Whether the expression is a literal. -/
def isLiteral : Node → Bool
  | boolean _ => true
  | string _ => true
  | number _ => true
  | array _ _ => true
  | _ => false

/-- Whether the expression is true or false. -/
def isBoolean (n : Node) : Bool :=
  match n.kind with
  | .boolean => true
  | .predicate => true
  | _ => false

/-- The type that a column was declared with. -/
def declaredType : Node → Option ValueType
  | column _ type _ => some type
  | _ => none

/-- How messages name the expression. -/
def describe : Node → String
  | boolean _ => "boolean literal"
  | string _ => "string literal"
  | number _ => "number literal"
  | array _ _ => "array literal"
  | equality _ _ _ => "equality"
  | member _ _ => "membership"
  | conjunction _ _ => "conjunction"
  | disjunction _ _ => "disjunction"
  | column sql type .whole => "column " ++ sql ++ " (" ++ type.text ++ ")"
  | column sql type .anyElement => "element of column " ++ sql ++ " (" ++ type.text ++ ")"

mutual

/-- Whether two expressions are identical. -/
def same : Node → Node → Bool
  | boolean a, boolean b => a == b
  | string a, string b => a == b
  | number a, number b => a == b
  | array s as, array t bs => s == t && sameAll as bs
  | equality n a b, equality m c d => n == m && same a c && same b d
  | member a b, member c d => same a c && same b d
  | conjunction s as, conjunction t bs => s == t && sameAll as bs
  | disjunction s as, disjunction t bs => s == t && sameAll as bs
  | column s a p, column t b q => s == t && a == b && p == q
  | _, _ => false

/-- Whether two lists of expressions are identical. -/
def sameAll : List Node → List Node → Bool
  | [], [] => true
  | a :: as, b :: bs => same a b && sameAll as bs
  | _, _ => false

end

instance : BEq Node := ⟨same⟩

end Node

end RowFilter.Sql
