import RowFilter.Residual.Term
import RowFilter.Text.Basic

/-!
# Printing terms

Terms are printed in the notation that the text form of residuals is read from, with objects added.
A field of a reference is written after a dot where its name is an identifier, and between brackets
otherwise.
-/

set_option autoImplicit false

namespace RowFilter

namespace Term

mutual

/-- The printed form of a term. -/
def text : Term → String
  | null => "null"
  | boolean true => "true"
  | boolean false => "false"
  | number text => text
  | string value => Text.quoted value
  | var name => name
  | ref segments => refText segments
  | array elements => "[" ++ listText elements ++ "]"
  | set [] => "set()"
  | set (e :: es) => "\x7b" ++ listText (e :: es) ++ "\x7d"
  | object entries => "\x7b" ++ entriesText entries ++ "\x7d"
  | call terms => callText terms

/-- Terms separated by commas. -/
def listText : List Term → String
  | [] => ""
  | [t] => t.text
  | t :: ts => t.text ++ ", " ++ listText ts

/-- Keys and values of an object, separated by commas. -/
def entriesText : List (Term × Term) → String
  | [] => ""
  | [(k, v)] => k.text ++ ": " ++ v.text
  | (k, v) :: es => k.text ++ ": " ++ v.text ++ ", " ++ entriesText es

/-- A reference: its head, then its segments. -/
def refText : List Term → String
  | [] => ""
  | t :: ts => t.text ++ segmentsText ts

/-- The segments of a reference after its head. -/
def segmentsText : List Term → String
  | [] => ""
  | t :: ts =>
    (match t with
      | string s => if isIdentifier s then "." ++ s else "[" ++ Text.quoted s ++ "]"
      | t => "[" ++ t.text ++ "]") ++ segmentsText ts

/-- A call: its operator, then its arguments between parentheses. -/
def callText : List Term → String
  | [] => ""
  | t :: ts => t.text ++ "(" ++ listText ts ++ ")"

end

end Term

end RowFilter
