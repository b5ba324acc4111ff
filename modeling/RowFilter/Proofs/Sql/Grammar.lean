/-!
# The grammar of conditions

What a rendered predicate means is decided by whoever reads its text.  This file says how a
condition of SQL is read, from its words and signs on: `OR` binds loosest, then `AND`, then the
comparisons `=`, `!=`, `&&` and `= ANY(..)`, which do not associate; parentheses, `ARRAY[..]` and
`ANY(..)` enclose conditions of their own.

* `Lexeme` — the words and signs.  The text of a column is one lexeme, whatever it holds.
* `Expr` — the conditions as trees.  A chain of `AND` or of `OR` is one node with all its parts.
* `Derives` — the grammar, as a relation between the phrases of the language and lists of lexemes.
-/

set_option autoImplicit false

namespace RowFilter.Sql

/-- A word or a sign.  A bracket and the word in front of it count as one. -/
inductive Lexeme where
  /-- `true` or `false`. -/
  | boolean (value : Bool)
  /-- A string literal. -/
  | string (value : String)
  /-- A number. -/
  | number (text : String)
  /-- A column, by its SQL text. -/
  | column (text : String)
  /-- `ARRAY[` -/
  | openArray
  /-- `]` -/
  | closeArray
  /-- `ANY(` -/
  | openAny
  /-- `(` -/
  | openParen
  /-- `)` -/
  | closeParen
  /-- `,` -/
  | comma
  /-- `=`, or `!=` if `negate` is set. -/
  | equality (negate : Bool)
  /-- `&&` -/
  | overlap
  /-- `AND` -/
  | and
  /-- `OR` -/
  | or
deriving Repr, DecidableEq

/-- A condition, or one of the values in it. -/
inductive Expr where
  /-- A truth value. -/
  | boolean (value : Bool)
  /-- A string. -/
  | string (value : String)
  /-- A number, by its text. -/
  | number (text : String)
  /-- A column, by its SQL text. -/
  | column (text : String)
  /-- An array of values. -/
  | array (elements : List Expr)
  /-- The values are equal, or differ if `negate` is set. -/
  | compare (negate : Bool) (left right : Expr)
  /-- Some element of the array on the right equals the value, or differs from it. -/
  | compareAny (negate : Bool) (left right : Expr)
  /-- The arrays share an element. -/
  | overlap (left right : Expr)
  /-- All of the parts hold. -/
  | conjunction (parts : List Expr)
  /-- One of the parts holds. -/
  | disjunction (parts : List Expr)
deriving Repr, Inhabited

namespace Expr

/-- The conjunction of some parts.  A single part is not wrapped. -/
def allOf : List Expr → Expr
  | [e] => e
  | es => conjunction es

/-- The disjunction of some parts.  A single part is not wrapped. -/
def oneOf : List Expr → Expr
  | [e] => e
  | es => disjunction es

/-- The parts of a conjunction; any other expression is its only part. -/
def conjuncts : Expr → List Expr
  | conjunction es => es
  | e => [e]

/-- The parts of a disjunction; any other expression is its only part. -/
def disjuncts : Expr → List Expr
  | disjunction es => es
  | e => [e]

end Expr

/-! ## The grammar -/

/-- What a list of lexemes can be. -/
inductive Phrase where
  /-- An operand of a comparison. -/
  | operand (e : Expr)
  /-- A comparison, or an operand by itself. -/
  | comparison (e : Expr)
  /-- Comparisons with `AND` between them. -/
  | conjuncts (es : List Expr)
  /-- Conjunctions with `OR` between them. -/
  | disjuncts (es : List Expr)
  /-- A whole condition. -/
  | condition (e : Expr)
  /-- Conditions with commas between them. -/
  | elements (es : List Expr)

/-- **The grammar of conditions.** -/
inductive Derives : Phrase → List Lexeme → Prop
  | boolean (b : Bool) : Derives (.operand (.boolean b)) [.boolean b]
  | string (s : String) : Derives (.operand (.string s)) [.string s]
  | number (t : String) : Derives (.operand (.number t)) [.number t]
  | column (c : String) : Derives (.operand (.column c)) [.column c]
  | parens {e : Expr} {ls : List Lexeme} (h : Derives (.condition e) ls) :
      Derives (.operand e) (.openParen :: (ls ++ [.closeParen]))
  | emptyArray : Derives (.operand (.array [])) [.openArray, .closeArray]
  | array {es : List Expr} {ls : List Lexeme} (h : Derives (.elements es) ls) :
      Derives (.operand (.array es)) (.openArray :: (ls ++ [.closeArray]))
  | element {e : Expr} {ls : List Lexeme} (h : Derives (.condition e) ls) :
      Derives (.elements [e]) ls
  | moreElements {e : Expr} {es : List Expr} {ls ms : List Lexeme}
      (h : Derives (.condition e) ls) (hs : Derives (.elements es) ms) :
      Derives (.elements (e :: es)) (ls ++ .comma :: ms)
  | bare {e : Expr} {ls : List Lexeme} (h : Derives (.operand e) ls) : Derives (.comparison e) ls
  | compare {negate : Bool} {l r : Expr} {ls ms : List Lexeme}
      (hl : Derives (.operand l) ls) (hr : Derives (.operand r) ms) :
      Derives (.comparison (.compare negate l r)) (ls ++ .equality negate :: ms)
  | compareAny {negate : Bool} {l r : Expr} {ls ms : List Lexeme}
      (hl : Derives (.operand l) ls) (hr : Derives (.condition r) ms) :
      Derives (.comparison (.compareAny negate l r))
        (ls ++ .equality negate :: .openAny :: (ms ++ [.closeParen]))
  | overlap {l r : Expr} {ls ms : List Lexeme}
      (hl : Derives (.operand l) ls) (hr : Derives (.operand r) ms) :
      Derives (.comparison (.overlap l r)) (ls ++ .overlap :: ms)
  | conjunct {e : Expr} {ls : List Lexeme} (h : Derives (.comparison e) ls) :
      Derives (.conjuncts [e]) ls
  | moreConjuncts {e : Expr} {es : List Expr} {ls ms : List Lexeme}
      (h : Derives (.comparison e) ls) (hs : Derives (.conjuncts es) ms) :
      Derives (.conjuncts (e :: es)) (ls ++ .and :: ms)
  | disjunct {es : List Expr} {ls : List Lexeme} (h : Derives (.conjuncts es) ls) :
      Derives (.disjuncts [.allOf es]) ls
  | moreDisjuncts {es ds : List Expr} {ls ms : List Lexeme}
      (h : Derives (.conjuncts es) ls) (hs : Derives (.disjuncts ds) ms) :
      Derives (.disjuncts (.allOf es :: ds)) (ls ++ .or :: ms)
  | condition {ds : List Expr} {ls : List Lexeme} (h : Derives (.disjuncts ds) ls) :
      Derives (.condition (.oneOf ds)) ls

end RowFilter.Sql
