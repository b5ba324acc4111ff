import RowFilter.Column
import RowFilter.Number.Notation

/-!
# Values

What columns hold and what terms stand for: truth values, exact numbers, strings, arrays and maps.
There is no null.  Two values are equal if they are of the same kind and have equal contents, so
values of different kinds always differ.

* `Number.value` — the number that a text writes, exactly.
* `Value` — the values, with decidable equality.
* `Value.hasType` — whether a value can stand in a column of the given type.
-/

set_option autoImplicit false

namespace RowFilter

/-! ## Numbers -/

namespace Number

/-- The mantissa times a power of ten. -/
def scaled (mantissa : Nat) (exponent : Int) : Rat :=
  if 0 ≤ exponent then mkRat (mantissa * Nat.pow 10 exponent.toNat) 1
  else mkRat mantissa (Nat.pow 10 (-exponent).toNat)

/-- The exponent that follows a fraction: none counts as zero. -/
def exponentValue : List Char → Int
  | _ :: '-' :: cs => -(digitsValue cs : Int)
  | _ :: '+' :: cs => digitsValue cs
  | _ :: cs => digitsValue cs
  | [] => 0

/-- The digits behind the point. -/
def fractionDigits : List Char → List Char
  | '.' :: cs => cs.takeWhile Char.isDigit
  | _ => []

/-- What follows the digits behind the point. -/
def behindFraction : List Char → List Char
  | '.' :: cs => cs.dropWhile Char.isDigit
  | cs => cs

/-- The value of a number without its sign. -/
def unsignedValue (cs : List Char) : Rat :=
  let whole := cs.takeWhile Char.isDigit
  let rest := cs.dropWhile Char.isDigit
  scaled (digitsValue (whole ++ fractionDigits rest))
    (exponentValue (behindFraction rest) - (fractionDigits rest).length)

/-- **The number that a text writes.** -/
def value (text : String) : Rat :=
  match text.toList with
  | '-' :: cs => (unsignedValue cs).neg
  | cs => unsignedValue cs

end Number

/-! ## Values -/

/-- A value of a column or of a term. -/
inductive Value where
  /-- A truth value. -/
  | boolean (b : Bool)
  /-- A number. -/
  | number (x : Rat)
  /-- A string. -/
  | string (s : String)
  /-- An array. -/
  | array (elements : List Value)
  /-- A map, its keys in ascending order. -/
  | map (entries : List (String × Value))
deriving Repr, Inhabited

namespace Value

mutual

/-- Whether two values are equal. -/
def same : Value → Value → Bool
  | boolean a, boolean b => a == b
  | number x, number y => x == y
  | string s, string t => s == t
  | array vs, array ws => sameAll vs ws
  | map es, map fs => sameEntries es fs
  | _, _ => false

/-- Whether two lists of values are equal. -/
def sameAll : List Value → List Value → Bool
  | [], [] => true
  | v :: vs, w :: ws => same v w && sameAll vs ws
  | _, _ => false

/-- Whether two lists of entries are equal. -/
def sameEntries : List (String × Value) → List (String × Value) → Bool
  | [], [] => true
  | (k, v) :: es, (l, w) :: fs => k == l && same v w && sameEntries es fs
  | _, _ => false

end

mutual

theorem same_iff : ∀ v w : Value, same v w = true ↔ v = w
  | boolean _, w => by cases w <;> simp [same]
  | number _, w => by cases w <;> simp [same]
  | string _, w => by cases w <;> simp [same]
  | array vs, w => by cases w <;> simp [same, sameAll_iff vs]
  | map es, w => by cases w <;> simp [same, sameEntries_iff es]

theorem sameAll_iff : ∀ vs ws : List Value, sameAll vs ws = true ↔ vs = ws
  | [], ws => by cases ws <;> simp [sameAll]
  | v :: vs, ws => by cases ws <;> simp [sameAll, same_iff v, sameAll_iff vs]

theorem sameEntries_iff : ∀ es fs : List (String × Value), sameEntries es fs = true ↔ es = fs
  | [], fs => by cases fs <;> simp [sameEntries]
  | (k, v) :: es, fs => by
    cases fs <;> simp [sameEntries, same_iff v, sameEntries_iff es, Prod.ext_iff]

end

instance : DecidableEq Value := fun v w => decidable_of_iff _ (same_iff v w)

/-- The elements of an array; any other value has none. -/
def elements : Value → List Value
  | array vs => vs
  | _ => []

mutual

/-- Whether the value can stand in a column of the given type. -/
def hasType : Value → ValueType → Bool
  | boolean _, .boolean => true
  | number _, .number => true
  | string _, .string => true
  | array vs, .array type => allHaveType vs type
  | map es, .map type => decide ((es.map Prod.fst).Pairwise (· < ·)) && entriesHaveType es type
  | _, _ => false

/-- Whether all of the values can. -/
def allHaveType : List Value → ValueType → Bool
  | [], _ => true
  | v :: vs, type => v.hasType type && allHaveType vs type

/-- Whether the values of all of the entries can. -/
def entriesHaveType : List (String × Value) → ValueType → Bool
  | [], _ => true
  | (_, v) :: es, type => v.hasType type && entriesHaveType es type

end

theorem eq_boolean_of_hasType {v : Value} (h : v.hasType .boolean = true) : ∃ b, v = boolean b := by
  cases v with
  | boolean b => exact ⟨b, rfl⟩
  | _ => cases h

theorem eq_array_of_hasType {v : Value} {type : ValueType} (h : v.hasType (.array type) = true) :
    v = array v.elements := by
  cases v with
  | array vs => rfl
  | _ => cases h

end Value

end RowFilter
