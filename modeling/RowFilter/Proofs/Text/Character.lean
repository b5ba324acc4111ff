import Mathlib.Data.List.TakeWhile
import RowFilter.Text.Basic

/-!
# Rows of characters

A row of characters of one class ends where a character of another class follows.  What follows a
word or a number is told from it by the classes: digits are no letters but may stand in identifiers,
and white space never starts one.

* `span_append` — where a row of characters ends.
* `isIdentifierStart_of_isBlank` — the tables of letters hold no white space.
-/

set_option autoImplicit false

namespace RowFilter.Text

section Rows

variable {p : Char → Bool} {cs rest : List Char}

/-- A row of characters of one class ends where another character follows. -/
theorem span_append (hcs : cs.all p = true) (hrest : ∀ c ∈ rest.head?, p c = false) :
    (cs ++ rest).takeWhile p = cs ∧ (cs ++ rest).dropWhile p = rest := by
  have hstop : rest.takeWhile p = [] ∧ rest.dropWhile p = rest := by
    cases rest with
    | nil => exact ⟨rfl, rfl⟩
    | cons c rest => simp [hrest c rfl]
  have hall : ∀ c ∈ cs, p c = true := List.all_eq_true.1 hcs
  rw [List.takeWhile_append_of_pos hall, List.dropWhile_append_of_pos hall, hstop.1, hstop.2,
    List.append_nil]
  exact ⟨rfl, rfl⟩

theorem drop_length_takeWhile (p : Char → Bool) (cs : List Char) :
    cs.drop (cs.takeWhile p).length = cs.dropWhile p := by
  induction cs with
  | nil => rfl
  | cons c cs ih => by_cases hc : p c = true <;> simp [hc, ih]

end Rows

/-! ## Digits -/

section Digits

variable {c : Char}

theorem isDigit_eq (c : Char) :
    c.isDigit = (decide (48 ≤ c.toNat) && decide (c.toNat ≤ 57)) := rfl

/-- Digits are neither letters nor the underscore. -/
theorem isAlpha_of_isDigit (h : c.isDigit = true) : (c.isAlpha || c == '_') = false := by
  have halpha : c.isAlpha = (decide (65 ≤ c.toNat ∧ c.toNat ≤ 90) ||
      (decide (97 ≤ c.toNat) && decide (c.toNat ≤ 122))) := rfl
  rw [isDigit_eq, Bool.and_eq_true, decide_eq_true_eq, decide_eq_true_eq] at h
  have hunderscore : c ≠ '_' := by
    rintro rfl
    exact absurd h (by decide)
  rw [halpha, beq_eq_false_iff_ne.2 hunderscore]
  simp only [Bool.or_eq_false_iff, Bool.and_eq_false_iff, decide_eq_false_iff_not, Bool.or_false]
  omega

theorem toNat_lt_of_isDigit (h : c.isDigit = true) : c.toNat < 0x80 := by
  rw [isDigit_eq, Bool.and_eq_true, decide_eq_true_eq, decide_eq_true_eq] at h
  omega

theorem isIdentifierRest_of_isDigit (h : c.isDigit = true) : isIdentifierRest c = true := by
  rw [isIdentifierRest, isAlphanumeric, isNumeric, if_pos (toNat_lt_of_isDigit h), h,
    Bool.or_true, Bool.true_or]

theorem isIdentifierStart_of_isDigit (h : c.isDigit = true) : isIdentifierStart c = false := by
  rw [isIdentifierStart, isAlphabetic, if_pos (toNat_lt_of_isDigit h), isAlpha_of_isDigit h]

theorem isBlank_of_isDigit (h : c.isDigit = true) : isBlank c = false := by
  rw [isDigit_eq, Bool.and_eq_true, decide_eq_true_eq, decide_eq_true_eq] at h
  simp only [isBlank, Bool.or_eq_false_iff, Bool.and_eq_false_iff, decide_eq_false_iff_not,
    beq_eq_false_iff_ne]
  omega

end Digits

/-! ## White space -/

/-- The code points of white space. -/
def blankCodes : List Nat :=
  [0x09, 0x0a, 0x0b, 0x0c, 0x0d, 0x20, 0x85, 0xa0, 0x1680, 0x2000, 0x2001, 0x2002, 0x2003, 0x2004,
    0x2005, 0x2006, 0x2007, 0x2008, 0x2009, 0x200a, 0x2028, 0x2029, 0x202f, 0x205f, 0x3000]

theorem mem_blankCodes {c : Char} (h : isBlank c = true) : c.toNat ∈ blankCodes := by
  have hcontrols : List.range' 0x09 5 ⊆ blankCodes := by decide
  have hspaces : List.range' 0x2000 11 ⊆ blankCodes := by decide
  simp only [isBlank, Bool.or_eq_true, Bool.and_eq_true, decide_eq_true_eq, beq_iff_eq,
    or_assoc] at h
  rcases h with h | h | h | h | h | h | h | h | h | h | h
  case inl => exact hcontrols (List.mem_range'_1.2 (by omega))
  case inr.inr.inr.inr.inr.inl => exact hspaces (List.mem_range'_1.2 (by omega))
  all_goals
    rw [h]
    decide

/-- No identifier starts with white space. -/
theorem isIdentifierStart_of_isBlank {c : Char} (h : isBlank c = true) :
    isIdentifierStart c = false := by
  have htables : blankCodes.all (fun n => !isIdentifierStart (Char.ofNat n)) = true := by
    decide +kernel
  have hc := List.all_eq_true.1 htables c.toNat (mem_blankCodes h)
  rwa [Char.ofNat_toNat, Bool.not_eq_true'] at hc

end RowFilter.Text
