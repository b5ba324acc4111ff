import Mathlib.Algebra.Order.Field.Power
import Mathlib.Data.Rat.Cast.Order
import Mathlib.Tactic.Linarith
import Mathlib.Tactic.NormNum
import Mathlib.Tactic.Positivity
import Mathlib.Tactic.Ring
import RowFilter.Number.Binary64

/-!
# Rounding keeps the order

The place of the double precision number nearest to a value never decreases as the value grows.
Within the numbers that have the same last bit this is a property of rounding to an integer.  Where
the last bit changes, the smaller value is rounded to a power of two at most, and the larger one to
that power at least.

All statements compare quotients as rational numbers, so that none depends on how a quotient is
written.

* `lt_roundDiv_iff` — which integers lie below a rounded quotient.
* `lastBit_spec` — the quotient lies between two powers of two.
* `roundQuotient_mono`, `place_mono` — rounding keeps the order.
-/

set_option autoImplicit false

namespace RowFilter.Number.Binary64

variable {n d n' d' k : Nat}

/-! ## Rounding to an integer -/

/-- **An integer lies below a rounded quotient** if its upper half does, where a half itself goes up
from an odd integer. -/
theorem lt_roundDiv_iff (hd : 0 < d) :
    k < roundDiv n d ↔ (k : ℚ) + 1 / 2 < n / d ∨ (k : ℚ) + 1 / 2 = n / d ∧ k % 2 = 1 := by
  have hd' : (0 : ℚ) < d := by exact_mod_cast hd
  have hlt : (k : ℚ) + 1 / 2 < n / d ↔ (2 * k + 1) * d < 2 * n := by
    rw [lt_div_iff₀ hd', ← @Nat.cast_lt ℚ]
    push_cast
    constructor <;> intro h <;> linarith
  have heq : (k : ℚ) + 1 / 2 = n / d ↔ (2 * k + 1) * d = 2 * n := by
    rw [eq_div_iff hd'.ne', ← @Nat.cast_inj ℚ]
    push_cast
    constructor <;> intro h <;> linarith
  rw [hlt, heq]
  have hsplit : 2 * n + d = (2 * (n / d) + 1) * d + 2 * (n % d) := by
    have hn := Nat.div_add_mod n d
    calc 2 * n + d = 2 * (d * (n / d) + n % d) + d := by rw [hn]
      _ = (2 * (n / d) + 1) * d + 2 * (n % d) := by ring
  have hmod := Nat.mod_lt n hd
  -- the multiple of the divisor that belongs to `k` against the one that belongs to the quotient
  have hmul : (k < n / d → (2 * k + 1) * d + 2 * d ≤ (2 * (n / d) + 1) * d) ∧
      (n / d < k → (2 * (n / d) + 1) * d + 2 * d ≤ (2 * k + 1) * d) := by
    constructor <;> intro hlt
    · calc (2 * k + 1) * d + 2 * d = (2 * k + 3) * d := by ring
        _ ≤ (2 * (n / d) + 1) * d := Nat.mul_le_mul_right d (by omega)
    · calc (2 * (n / d) + 1) * d + 2 * d = (2 * (n / d) + 3) * d := by ring
        _ ≤ (2 * k + 1) * d := Nat.mul_le_mul_right d (by omega)
  simp only [roundDiv]
  generalize n / d = q at *
  generalize n % d = r at *
  rcases Nat.lt_trichotomy k q with hkq | rfl | hkq
  · have hle := hmul.1 hkq
    split_ifs <;> omega
  · split_ifs <;> omega
  · have hle := hmul.2 hkq
    split_ifs <;> omega

theorem roundDiv_mono (hd : 0 < d) (hd' : 0 < d') (h : (n : ℚ) / d ≤ n' / d') :
    roundDiv n d ≤ roundDiv n' d' := by
  refine le_of_forall_lt fun k hk => ?_
  rw [lt_roundDiv_iff hd] at hk
  rw [lt_roundDiv_iff hd']
  rcases hk with hlt | ⟨heq, hodd⟩
  · exact .inl (hlt.trans_le h)
  · rw [← heq] at h
    exact h.lt_or_eq.imp_right fun heq' => ⟨heq', hodd⟩

theorem roundDiv_le (hd : 0 < d) (h : (n : ℚ) / d ≤ k) : roundDiv n d ≤ k := by
  refine Nat.le_of_not_lt fun hk => ?_
  rcases (lt_roundDiv_iff hd).1 hk with hlt | ⟨heq, -⟩ <;> linarith

theorem le_roundDiv (hd : 0 < d) (h : (k : ℚ) ≤ n / d) : k ≤ roundDiv n d := by
  refine le_of_forall_lt fun j hj => (lt_roundDiv_iff hd).2 (.inl ?_)
  have hsucc : (j : ℚ) + 1 ≤ k := by exact_mod_cast hj
  linarith

/-! ## The last bit -/

theorem scaled_pos (hd : 0 < d) (shift : Int) : 0 < (scaled n d shift).2 := by
  rw [scaled]
  split
  · exact Nat.mul_pos hd (Nat.pow_pos Nat.two_pos)
  · exact hd

/-- What is scaled is the quotient, counted in the given power of two. -/
theorem scaled_div (n d : Nat) (shift : Int) :
    ((scaled n d shift).1 : ℚ) / (scaled n d shift).2 = n / d / 2 ^ shift := by
  rw [scaled]
  split
  · next h =>
    obtain ⟨s, rfl⟩ := Int.eq_ofNat_of_zero_le h
    simp only [Int.toNat_natCast, Nat.pow_eq, Nat.cast_mul, Nat.cast_pow, Nat.cast_ofNat,
      zpow_natCast, div_div]
  · next h =>
    obtain ⟨s, rfl⟩ : ∃ s : Nat, shift = -s := ⟨(-shift).toNat, by omega⟩
    simp only [Int.neg_neg, Int.toNat_natCast, Nat.pow_eq, Nat.cast_mul, Nat.cast_pow,
      Nat.cast_ofNat, zpow_neg, zpow_natCast, div_inv_eq_mul, div_mul_eq_mul_div]

/-- The numbers of binary digits give a first idea of the quotient. -/
theorem between_guess (hn : 0 < n) (hd : 0 < d) :
    (2 : ℚ) ^ ((n.log2 : Int) - d.log2 - 1) < n / d ∧
      (n : ℚ) / d < 2 ^ ((n.log2 : Int) - d.log2 + 1) := by
  have hn' : (0 : ℚ) < n := by exact_mod_cast hn
  have hd' : (0 : ℚ) < d := by exact_mod_cast hd
  have hnlow : (2 : ℚ) ^ n.log2 ≤ n := by exact_mod_cast Nat.log2_self_le hn.ne'
  have hdlow : (2 : ℚ) ^ d.log2 ≤ d := by exact_mod_cast Nat.log2_self_le hd.ne'
  have hnhigh : (n : ℚ) < 2 ^ (n.log2 + 1) := by exact_mod_cast Nat.lt_log2_self
  have hdhigh : (d : ℚ) < 2 ^ (d.log2 + 1) := by exact_mod_cast Nat.lt_log2_self
  constructor
  · rw [show (n.log2 : Int) - d.log2 - 1 = n.log2 - (d.log2 + 1 : Nat) by push_cast; ring,
      zpow_sub₀ two_ne_zero, zpow_natCast, zpow_natCast]
    exact div_lt_div₀' hnlow hdhigh hn' hd'
  · rw [show (n.log2 : Int) - d.log2 + 1 = (n.log2 + 1 : Nat) - d.log2 by push_cast; ring,
      zpow_sub₀ two_ne_zero, zpow_natCast, zpow_natCast]
    exact div_lt_div₀ hnhigh hdlow (by positivity) (by positivity)

/-- **The last bit** lies 52 places below the first bit of the quotient, but not below the last bit
that there is. -/
theorem lastBit_spec (hn : 0 < n) (hd : 0 < d) :
    -1074 ≤ lastBit n d ∧ (n : ℚ) / d < 2 ^ (lastBit n d + 53) ∧
      (lastBit n d = -1074 ∨ (2 : ℚ) ^ (lastBit n d + 52) ≤ n / d) := by
  obtain ⟨hlow, hhigh⟩ := between_guess hn hd
  set guess : Int := (n.log2 : Int) - d.log2 - 52 with hguess
  set bit : Int := if (scaled n d guess).1 / (scaled n d guess).2 < Nat.pow 2 52 then guess - 1
    else guess with hbit
  have hlast : lastBit n d = max bit (-1074) := rfl
  -- one of the two guesses is right
  have hbetween : (2 : ℚ) ^ (bit + 52) ≤ n / d ∧ (n : ℚ) / d < 2 ^ (bit + 53) := by
    have hpos := scaled_pos (n := n) hd guess
    have hpos' : (0 : ℚ) < (scaled n d guess).2 := by exact_mod_cast hpos
    have htwo : (0 : ℚ) < 2 ^ guess := zpow_pos two_pos guess
    have hfloor : (scaled n d guess).1 / (scaled n d guess).2 < Nat.pow 2 52 ↔
        (n : ℚ) / d < 2 ^ (guess + 52) := by
      rw [Nat.div_lt_iff_lt_mul hpos, zpow_add₀ two_ne_zero, mul_comm (2 ^ guess : ℚ),
        ← div_lt_iff₀ htwo, ← scaled_div, div_lt_iff₀ hpos', ← @Nat.cast_lt ℚ]
      norm_num
    by_cases hsmall : (scaled n d guess).1 / (scaled n d guess).2 < Nat.pow 2 52
    · rw [hbit, if_pos hsmall]
      refine ⟨?_, ?_⟩
      · rw [show guess - 1 + 52 = (n.log2 : Int) - d.log2 - 1 by omega]
        exact hlow.le
      · rw [show guess - 1 + 53 = guess + 52 by omega]
        exact hfloor.1 hsmall
    · rw [hbit, if_neg hsmall]
      refine ⟨not_lt.1 fun hlt => hsmall (hfloor.2 hlt), ?_⟩
      rw [show guess + 53 = (n.log2 : Int) - d.log2 + 1 by omega]
      exact hhigh
  rw [hlast]
  refine ⟨le_max_right _ _, hbetween.2.trans_le ?_, ?_⟩
  · exact zpow_le_zpow_right₀ one_le_two (by omega)
  · rcases le_total bit (-1074) with hle | hle
    · exact .inl (max_eq_right hle)
    · rw [max_eq_left hle]
      exact .inr hbetween.1

/-! ## Rounding a quotient -/

/-- How far the place of a quotient lies behind the first one with the same last bit. -/
def significand (n d : Nat) : Nat :=
  roundDiv (scaled n d (lastBit n d)).1 (scaled n d (lastBit n d)).2

theorem roundQuotient_eq (n d : Nat) :
    roundQuotient n d =
      min ((lastBit n d + 1074).toNat * 2 ^ 52 + significand n d) infinite := rfl

theorem significand_le (hn : 0 < n) (hd : 0 < d) : significand n d ≤ 2 ^ 53 := by
  obtain ⟨-, hhigh, -⟩ := lastBit_spec hn hd
  refine roundDiv_le (scaled_pos hd _) ?_
  rw [scaled_div, div_le_iff₀ (zpow_pos two_pos _)]
  rw [zpow_add₀ two_ne_zero, mul_comm] at hhigh
  exact_mod_cast hhigh.le

theorem le_significand (hd : 0 < d) (h : (2 : ℚ) ^ (lastBit n d + 52) ≤ n / d) :
    2 ^ 52 ≤ significand n d := by
  refine le_roundDiv (scaled_pos hd _) ?_
  rw [scaled_div, le_div_iff₀ (zpow_pos two_pos _)]
  rw [zpow_add₀ two_ne_zero, mul_comm] at h
  exact_mod_cast h

/-- A larger quotient has no smaller last bit. -/
theorem lastBit_mono (hn : 0 < n) (hd : 0 < d) (hn' : 0 < n') (hd' : 0 < d')
    (h : (n : ℚ) / d ≤ n' / d') : lastBit n d ≤ lastBit n' d' := by
  obtain ⟨-, -, hlow⟩ := lastBit_spec hn hd
  obtain ⟨hleast, hhigh, -⟩ := lastBit_spec hn' hd'
  by_contra! hlt
  rcases hlow with heq | hlow
  · omega
  · have hpow : (2 : ℚ) ^ (lastBit n' d' + 53) ≤ 2 ^ (lastBit n d + 52) :=
      zpow_le_zpow_right₀ one_le_two (by omega)
    linarith

/-- **Rounding a quotient keeps the order.** -/
theorem roundQuotient_mono (hn : 0 < n) (hd : 0 < d) (hn' : 0 < n') (hd' : 0 < d')
    (h : (n : ℚ) / d ≤ n' / d') : roundQuotient n d ≤ roundQuotient n' d' := by
  rw [roundQuotient_eq, roundQuotient_eq]
  refine min_le_min_right infinite ?_
  rcases (lastBit_mono hn hd hn' hd' h).lt_or_eq with hlt | heq
  · -- the next power of two lies between the two
    obtain ⟨hleast, -, -⟩ := lastBit_spec hn hd
    obtain ⟨-, -, hlow⟩ := lastBit_spec hn' hd'
    have hle := significand_le hn hd
    have hge := le_significand hd' (hlow.resolve_left (by omega))
    omega
  · refine Nat.add_le_add (by rw [heq]) (roundDiv_mono (scaled_pos hd _) (scaled_pos hd' _) ?_)
    rw [scaled_div, scaled_div, heq]
    exact div_le_div_of_nonneg_right h (zpow_pos two_pos _).le

/-- Quotients beyond the largest number are infinite. -/
theorem roundQuotient_of_le (hn : 0 < n) (hd : 0 < d) (h : (2 : ℚ) ^ (1024 : Int) ≤ n / d) :
    roundQuotient n d = infinite := by
  obtain ⟨-, hhigh, hlow⟩ := lastBit_spec hn hd
  have hbit : 972 ≤ lastBit n d := by
    by_contra! hlt
    have hpow : (2 : ℚ) ^ (lastBit n d + 53) ≤ 2 ^ (1024 : Int) :=
      zpow_le_zpow_right₀ one_le_two (by omega)
    linarith
  have hge := le_significand hd (hlow.resolve_left (by omega))
  have hinfinite : infinite = 2047 * 2 ^ 52 := rfl
  rw [roundQuotient_eq, min_eq_right]
  omega

/-- Quotients below half of the smallest number are zero. -/
theorem roundQuotient_of_lt (hn : 0 < n) (hd : 0 < d) (h : (n : ℚ) / d < 2 ^ (-1075 : Int)) :
    roundQuotient n d = 0 := by
  obtain ⟨hleast, -, hlow⟩ := lastBit_spec hn hd
  have hbit : lastBit n d = -1074 := by
    refine hlow.resolve_right fun hle => ?_
    have hpow : (2 : ℚ) ^ (-1075 : Int) ≤ 2 ^ (lastBit n d + 52) :=
      zpow_le_zpow_right₀ one_le_two (by omega)
    linarith
  have hzero : significand n d = 0 := by
    refine Nat.eq_zero_of_not_pos fun hpos => ?_
    have hhalf : (n : ℚ) / d / 2 ^ (-1074 : Int) < 1 / 2 := by
      rw [div_lt_iff₀ (zpow_pos two_pos _)]
      refine h.trans_eq ?_
      rw [show (-1075 : Int) = -1 + -1074 by rfl, zpow_add₀ two_ne_zero, zpow_neg_one, one_div]
    rw [significand, lt_roundDiv_iff (scaled_pos hd _), scaled_div, hbit] at hpos
    rcases hpos with hlt | ⟨-, hodd⟩
    · rw [Nat.cast_zero, zero_add] at hlt
      exact (hlt.trans hhalf).false
    · cases hodd
  rw [roundQuotient_eq, hbit, hzero]
  rfl

/-! ## Rounding a decimal number -/

/-- A large exponent settles that the number is infinite. -/
theorem le_of_large {m k : Nat} (hm : 0 < m) (hk : 309 < k) :
    (2 : ℚ) ^ (1024 : Int) ≤ (m * 10 ^ k : Nat) := by
  have hunit : (2 : ℚ) ^ (205 : Int) ≤ 10 ^ (62 : Int) := by norm_num
  have hm' : (1 : ℚ) ≤ m := by exact_mod_cast hm
  calc (2 : ℚ) ^ (1024 : Int) ≤ 2 ^ (205 * 5 : Int) := zpow_le_zpow_right₀ one_le_two (by norm_num)
    _ = (2 ^ (205 : Int)) ^ (5 : Int) := zpow_mul ..
    _ ≤ (10 ^ (62 : Int)) ^ (5 : Int) := zpow_le_zpow_left₀ (by norm_num) (by positivity) hunit
    _ = 10 ^ (62 * 5 : Int) := (zpow_mul ..).symm
    _ ≤ 10 ^ (k : Int) := zpow_le_zpow_right₀ (by norm_num) (by omega)
    _ ≤ m * 10 ^ (k : Int) := le_mul_of_one_le_left (by positivity) hm'
    _ = (m * 10 ^ k : Nat) := by push_cast; rfl

/-- The number of binary digits settles that the number is zero. -/
theorem lt_of_small {m k : Nat} (h : (m.log2 : Int) + 1 + 3 * -k ≤ -1075) :
    (m : ℚ) / (10 ^ k : Nat) < 2 ^ (-1075 : Int) := by
  have hm : (m : ℚ) < 2 ^ (m.log2 + 1) := by exact_mod_cast Nat.lt_log2_self
  have hten : (2 : ℚ) ^ (3 * k) ≤ (10 ^ k : Nat) := by
    rw [pow_mul, Nat.cast_pow, Nat.cast_ofNat]
    exact pow_le_pow_left₀ (by norm_num) (by norm_num) k
  calc (m : ℚ) / (10 ^ k : Nat) < 2 ^ (m.log2 + 1) / 2 ^ (3 * k) :=
        div_lt_div₀ hm hten (by positivity) (by positivity)
    _ = 2 ^ ((m.log2 + 1 : Nat) - (3 * k : Nat) : Int) := by
        rw [zpow_sub₀ two_ne_zero, zpow_natCast, zpow_natCast]
    _ ≤ 2 ^ (-1075 : Int) := zpow_le_zpow_right₀ one_le_two (by push_cast; omega)

/-- A decimal number is rounded as a quotient, also where its size alone settles the matter. -/
theorem exists_quotient {m : Nat} (hm : 0 < m) (e : Int) :
    ∃ n d : Nat, 0 < n ∧ 0 < d ∧ (n : ℚ) / d = m * 10 ^ e ∧ place m e = roundQuotient n d := by
  rcases lt_or_ge e 0 with hneg | hnonneg
  · obtain ⟨k, rfl⟩ : ∃ k : Nat, e = -k := ⟨(-e).toNat, by omega⟩
    have hd : 0 < 10 ^ k := Nat.pow_pos (by norm_num)
    have hquotient : (m : ℚ) / (10 ^ k : Nat) = m * 10 ^ (-(k : Int)) := by
      rw [zpow_neg, zpow_natCast, div_eq_mul_inv, Nat.cast_pow, Nat.cast_ofNat]
    refine ⟨m, 10 ^ k, hm, hd, hquotient, ?_⟩
    rw [place, if_neg hm.ne', if_neg (by omega), if_neg (by omega), Int.neg_neg, Int.toNat_natCast]
    split
    · next hsmall => exact (roundQuotient_of_lt hm hd (lt_of_small hsmall)).symm
    · rfl
  · obtain ⟨k, rfl⟩ := Int.eq_ofNat_of_zero_le hnonneg
    have hn : 0 < m * 10 ^ k := Nat.mul_pos hm (Nat.pow_pos (by norm_num))
    have hquotient : ((m * 10 ^ k : Nat) : ℚ) / (1 : Nat) = m * 10 ^ (k : Int) := by
      rw [zpow_natCast, Nat.cast_mul, Nat.cast_pow, Nat.cast_ofNat, Nat.cast_one, div_one]
    refine ⟨m * 10 ^ k, 1, hn, Nat.one_pos, hquotient, ?_⟩
    rw [place, if_neg hm.ne']
    by_cases hlarge : (309 : Int) < k
    · rw [if_pos hlarge]
      refine (roundQuotient_of_le hn Nat.one_pos ?_).symm
      rw [Nat.cast_one, div_one]
      exact le_of_large hm (by omega)
    · rw [if_neg hlarge, if_pos hnonneg, Int.toNat_natCast]
      rfl

/-- **Rounding decimal numbers keeps the order**, however they are written. -/
theorem place_mono {m m' : Nat} {e e' : Int} (h : (m : ℚ) * 10 ^ e ≤ m' * 10 ^ e') :
    place m e ≤ place m' e' := by
  rcases Nat.eq_zero_or_pos m with rfl | hm
  · exact Nat.zero_le _
  · have hpos : (0 : ℚ) < m * 10 ^ e :=
      mul_pos (by exact_mod_cast hm) (zpow_pos (by norm_num) e)
    have hm' : 0 < m' := by
      rcases Nat.eq_zero_or_pos m' with rfl | hm'
      · rw [Nat.cast_zero, zero_mul] at h
        linarith
      · exact hm'
    obtain ⟨n, d, hn, hd, hquotient, hplace⟩ := exists_quotient hm e
    obtain ⟨n', d', hn', hd', hquotient', hplace'⟩ := exists_quotient hm' e'
    rw [hplace, hplace']
    exact roundQuotient_mono hn hd hn' hd' (by rw [hquotient, hquotient']; exact h)

end RowFilter.Number.Binary64
