import RowFilter.Pattern.Basic

/-!
# Conditions at the ends of an expression

Where an expression starts or ends with a condition, it can only match where the condition holds.
So an expression that starts at the start of the text, for one, need not be tried anywhere else.

* `Regex.startsAt`, `Regex.endsAt` — whether an expression requires a condition at one of its ends.
-/

set_option autoImplicit false

namespace RowFilter.Pattern.Regex

mutual

/-- Whether an expression can match only where the given condition holds, at the start of its
text. -/
def startsAt (condition : Assertion) : Regex → Bool
  | assert a => a == condition
  | sequence parts => anyStartsAt condition parts
  | choice parts => allStartAt condition parts
  | rep body least _ _ => decide (0 < least) && body.startsAt condition
  | group _ body => body.startsAt condition
  | _ => false

/-- Whether a part of a sequence that only empty texts precede requires the condition. -/
def anyStartsAt (condition : Assertion) : List Regex → Bool
  | [] => false
  | r :: rest =>
    r.startsAt condition || (r.longest == some 0 && anyStartsAt condition rest)

/-- Whether all alternatives require the condition. -/
def allStartAt (condition : Assertion) : List Regex → Bool
  | [] => true
  | r :: rest => r.startsAt condition && allStartAt condition rest

end

mutual

/-- Whether an expression can match only where the given condition holds, at the end of its text. -/
def endsAt (condition : Assertion) : Regex → Bool
  | assert a => a == condition
  | sequence parts => anyEndsAt condition parts
  | choice parts => allEndAt condition parts
  | rep body least _ _ => decide (0 < least) && body.endsAt condition
  | group _ body => body.endsAt condition
  | _ => false

/-- Whether a part of a sequence that only empty texts follow requires the condition. -/
def anyEndsAt (condition : Assertion) : List Regex → Bool
  | [] => false
  | r :: rest =>
    anyEndsAt condition rest || (longestOfAll rest == some 0 && r.endsAt condition)

/-- Whether all alternatives require the condition. -/
def allEndAt (condition : Assertion) : List Regex → Bool
  | [] => true
  | r :: rest => r.endsAt condition && allEndAt condition rest

end

end RowFilter.Pattern.Regex
