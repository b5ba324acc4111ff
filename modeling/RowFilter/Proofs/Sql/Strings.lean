import RowFilter.Proofs.Sql.ReadBack

/-!
# The strings of a condition

The strings of a condition stand in its text in the order of its tree, and so do the keys that the
texts of its columns bring along.

* `Expr.strings` — the strings of a condition, with the keys in its columns.
* `Derives.strings_eq` — what the grammar derives has the strings of its lexemes.
-/

set_option autoImplicit false

namespace RowFilter.Sql

variable (keys : String → List String)

mutual

/-- **The strings of a condition** in their order; `keys` has those in the text of a column. -/
def Expr.strings : Expr → List String
  | boolean _ => []
  | string s => [s]
  | number _ => []
  | column c => keys c
  | array es => stringsAll es
  | compare _ l r => l.strings ++ r.strings
  | compareAny _ l r => l.strings ++ r.strings
  | overlap l r => l.strings ++ r.strings
  | conjunction es => stringsAll es
  | disjunction es => stringsAll es

/-- The strings of some conditions. -/
def Expr.stringsAll : List Expr → List String
  | [] => []
  | e :: es => e.strings ++ stringsAll es

end

/-- The strings of a lexeme. -/
def Lexeme.strings : Lexeme → List String
  | string s => [s]
  | column c => keys c
  | _ => []

/-- The strings of a phrase. -/
def Phrase.strings : Phrase → List String
  | operand e => e.strings keys
  | comparison e => e.strings keys
  | conjuncts es => Expr.stringsAll keys es
  | disjuncts es => Expr.stringsAll keys es
  | condition e => e.strings keys
  | elements es => Expr.stringsAll keys es

theorem Expr.strings_allOf (es : List Expr) : (allOf es).strings keys = stringsAll keys es := by
  match es with
  | [] => rfl
  | [e] => simp [allOf, stringsAll]
  | _ :: _ :: _ => rfl

theorem Expr.strings_oneOf (es : List Expr) : (oneOf es).strings keys = stringsAll keys es := by
  match es with
  | [] => rfl
  | [e] => simp [oneOf, stringsAll]
  | _ :: _ :: _ => rfl

theorem strings_of_isFixed {l : Lexeme} (h : l.isFixed = true) : l.strings keys = [] := by
  cases l with
  | string s => cases h
  | column c => cases h
  | _ => rfl

/-- A sign between two lists of lexemes adds no strings. -/
theorem strings_around {sign : Lexeme} (h : sign.isFixed = true) (ls ms : List Lexeme) :
    (ls ++ sign :: ms).flatMap (Lexeme.strings keys) =
      ls.flatMap (Lexeme.strings keys) ++ ms.flatMap (Lexeme.strings keys) := by
  rw [List.flatMap_append, List.flatMap_cons, strings_of_isFixed keys h, List.nil_append]

/-- Neither do brackets. -/
theorem strings_between {opening closing : Lexeme} (ho : opening.isFixed = true)
    (hc : closing.isFixed = true) (ls : List Lexeme) :
    (opening :: (ls ++ [closing])).flatMap (Lexeme.strings keys) =
      ls.flatMap (Lexeme.strings keys) := by
  rw [List.flatMap_cons, strings_of_isFixed keys ho, strings_around keys hc, List.flatMap_nil,
    List.append_nil, List.nil_append]

/-- **A phrase has the strings of its lexemes**, in their order. -/
theorem Derives.strings_eq {p : Phrase} {ls : List Lexeme} (h : Derives p ls) :
    ls.flatMap (Lexeme.strings keys) = p.strings keys := by
  induction h with
  | boolean b => rfl
  | string s => rfl
  | number t => rfl
  | column c => exact List.append_nil _
  | parens _ ih => exact (strings_between keys rfl rfl _).trans ih
  | emptyArray => rfl
  | array _ ih => exact (strings_between keys rfl rfl _).trans ih
  | element _ ih => exact ih.trans (List.append_nil _).symm
  | moreElements _ _ ih ihs =>
    exact (strings_around keys rfl _ _).trans (congrArg₂ (· ++ ·) ih ihs)
  | bare _ ih => exact ih
  | compare _ _ ihl ihr =>
    exact (strings_around keys rfl _ _).trans (congrArg₂ (· ++ ·) ihl ihr)
  | compareAny _ _ ihl ihr =>
    exact (strings_around keys rfl _ _).trans
      (congrArg₂ (· ++ ·) ihl ((strings_between keys rfl rfl _).trans ihr))
  | overlap _ _ ihl ihr =>
    exact (strings_around keys rfl _ _).trans (congrArg₂ (· ++ ·) ihl ihr)
  | conjunct _ ih => exact ih.trans (List.append_nil _).symm
  | moreConjuncts _ _ ih ihs =>
    exact (strings_around keys rfl _ _).trans (congrArg₂ (· ++ ·) ih ihs)
  | @disjunct es ls _ ih =>
    rw [ih, Phrase.strings, Phrase.strings, Expr.stringsAll, Expr.strings_allOf, Expr.stringsAll,
      List.append_nil]
  | @moreDisjuncts es ds ls ms _ _ ih ihs =>
    rw [strings_around keys rfl, ih, ihs, Phrase.strings, Phrase.strings, Phrase.strings,
      Expr.stringsAll, Expr.strings_allOf]
  | condition _ ih => rw [ih, Phrase.strings, Phrase.strings, Expr.strings_oneOf]

end RowFilter.Sql
