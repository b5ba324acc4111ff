import RowFilter.Proofs.Number.Reading
import RowFilter.Proofs.Number.Rounding
import RowFilter.Proofs.Residual.Order
import RowFilter.Residual.Order

/-!
# The order of exact numbers

Number texts are compared by a rounded number first.  That never contradicts the exact comparison
that follows, because rounding keeps the order (`Binary64.place_mono`): where the rounded numbers
differ the exact ones differ in the same way, and where they coincide the decimal numbers decide.
So texts whose decimal number is exact are ordered by the number that they write, whatever the
spelling, and by their spelling only where they write the same number.

* `isExact` — whether the decimal number of a text is the number that it writes.
* `Binary64.read_le_read` — reading to double precision keeps the order of the exact values.
* `exact_order` — the order of exact numbers, and what it makes of a sorted list.
-/

set_option autoImplicit false

namespace RowFilter

namespace Number

/-- Whether the decimal number that is read from a text is the number that the text writes. -/
def isExact (text : String) : Bool :=
  (Decimal96.read text).any fun d => d.value == value text

theorem exists_units {text : String} (h : isExact text = true) :
    ∃ d, Decimal96.read text = some d ∧
      (d.units : ℚ) = value text * 10 ^ (Decimal96.maxScale : Int) := by
  obtain ⟨d, hread, hvalue⟩ := (Option.any_eq_true _ _).1 h
  refine ⟨d, hread, ?_⟩
  rw [Decimal96.units_eq (Decimal96.scale_le_of_read hread), eq_of_beq hvalue]

/-! ## Rounding -/

/-- Rounding keeps the order of signed numbers: below zero it is the order of the magnitudes turned
round, and only zero lies on both sides. -/
theorem Binary64.signed_place_mono {s t : Bool} {m n : Nat} {e f : Int}
    (h : signed s ((m : ℚ) * 10 ^ e) ≤ signed t ((n : ℚ) * 10 ^ f)) :
    signed s (place m e : Int) ≤ signed t (place n f : Int) := by
  have hm : (0 : ℚ) ≤ m * 10 ^ e := by positivity
  have hn : (0 : ℚ) ≤ n * 10 ^ f := by positivity
  match s, t, h with
  | false, false, h => exact Int.ofNat_le.2 (place_mono h)
  | true, true, h => exact Int.neg_le_neg (Int.ofNat_le.2 (place_mono (neg_le_neg_iff.1 h)))
  | true, false, _ =>
    calc -(place m e : Int) ≤ 0 := Int.neg_nonpos_of_nonneg (Int.natCast_nonneg _)
      _ ≤ place n f := Int.natCast_nonneg _
  | false, true, h =>
    have hzero : (m : ℚ) * 10 ^ e ≤ (0 : Nat) * 10 ^ e := by
      rw [Nat.cast_zero, zero_mul]
      exact h.trans (neg_nonpos.2 hn)
    have hzero' : (n : ℚ) * 10 ^ f ≤ (0 : Nat) * 10 ^ f := by
      rw [Nat.cast_zero, zero_mul]
      exact neg_nonneg.1 (hm.trans h)
    have hp : place m e ≤ 0 := place_mono hzero
    have hp' : place n f ≤ 0 := place_mono hzero'
    show (place m e : Int) ≤ -(place n f : Int)
    omega

/-- **Reading to double precision keeps the order of the exact values.** -/
theorem Binary64.read_le_read {a b : String} {d d' : Decimal96} (ha : isValid a = true)
    (hb : isValid b = true) (hda : Decimal96.read a = some d) (hdb : Decimal96.read b = some d') :
    ∃ x y, Binary64.read a = some x ∧ Binary64.read b = some y ∧
      (value a ≤ value b → x ≤ y) ∧ (value b ≤ value a → y ≤ x) := by
  obtain ⟨s, m, e, hx, hvalue⟩ := exists_place ha hda
  obtain ⟨t, n, f, hy, hvalue'⟩ := exists_place hb hdb
  rw [hvalue, hvalue']
  exact ⟨_, _, hx, hy, signed_place_mono, signed_place_mono⟩

/-! ## Comparing -/

/-- A criterion that keeps the order of the next one changes nothing. -/
theorem compare_then_of_mono {x y u v : Int} (h : u ≤ v → x ≤ y) (h' : v ≤ u → y ≤ x)
    (o : Ordering) :
    (compare x y).then ((compare u v).then o) = (compare u v).then o := by
  rcases lt_trichotomy u v with huv | rfl | hvu
  · rw [compare_lt_iff_lt.2 huv]
    rcases (h huv.le).lt_or_eq with hxy | rfl
    · rw [compare_lt_iff_lt.2 hxy]
      rfl
    · rw [compare_eq_iff_eq.2 rfl]
      rfl
  · rw [compare_eq_iff_eq.2 (le_antisymm (h le_rfl) (h' le_rfl))]
    rfl
  · rw [compare_gt_iff_gt.2 hvu]
    rcases (h' hvu.le).lt_or_eq with hyx | rfl
    · rw [compare_gt_iff_gt.2 hyx]
      rfl
    · rw [compare_eq_iff_eq.2 rfl]
      rfl

/-- Exact numbers are ordered by their value, and by their spelling where they have the same. -/
theorem compareTexts_cases {a b : String} (ha : isValid a = true) (hb : isValid b = true)
    (hea : isExact a = true) (heb : isExact b = true) :
    value a < value b ∧ compareTexts a b = .lt ∨ value b < value a ∧ compareTexts a b = .gt ∨
      value a = value b ∧ compareTexts a b = compare a b := by
  obtain ⟨d, hda, hu⟩ := exists_units hea
  obtain ⟨d', hdb, hv⟩ := exists_units heb
  obtain ⟨x, y, hx, hy, hle, hge⟩ := Binary64.read_le_read ha hb hda hdb
  have hunit : (0 : ℚ) < 10 ^ (Decimal96.maxScale : Int) := by positivity
  have hunits : ∀ {s t : ℚ} {u v : Int}, (u : ℚ) = s * 10 ^ (Decimal96.maxScale : Int) →
      (v : ℚ) = t * 10 ^ (Decimal96.maxScale : Int) → (u < v ↔ s < t) := by
    intro s t u v hu hv
    rw [← @Int.cast_lt ℚ, hu, hv, mul_lt_mul_iff_left₀ hunit]
  have hlt := hunits hu hv
  have hgt := hunits hv hu
  have hcompare : compareTexts a b = (compare d.units d'.units).then (compare a b) := by
    rw [compareTexts, decimalUnits, decimalUnits, hda, hdb, hx, hy]
    refine compare_then_of_mono (fun h => hle ?_) (fun h => hge ?_) _
    · exact not_lt.1 fun hba => not_lt.2 h (hgt.2 hba)
    · exact not_lt.1 fun hab => not_lt.2 h (hlt.2 hab)
  rw [hcompare]
  rcases lt_trichotomy (value a) (value b) with hab | hab | hba
  · exact .inl ⟨hab, by rw [compare_lt_iff_lt.2 (hlt.2 hab)]; rfl⟩
  · refine .inr (.inr ⟨hab, ?_⟩)
    have heq : d.units = d'.units := by
      rw [← @Int.cast_inj ℚ, hu, hv, hab]
    rw [compare_eq_iff_eq.2 heq]
    rfl
  · exact .inr (.inl ⟨hba, by rw [compare_gt_iff_gt.2 (hgt.2 hba)]; rfl⟩)

/-! ## Sorting -/

/-- Numbers among terms are sorted as texts are. -/
theorem sorted_map_number (texts : List String) :
    Term.sorted (texts.map Term.number) =
      (texts.mergeSort fun a b => (compareTexts a b).isLE).map Term.number := by
  have hcmp : ∀ a ∈ texts, ∀ b ∈ texts, (compareTexts a b).isLE =
      (Term.cmp (.number a) (.number b)).isLE := fun _ _ _ _ => rfl
  exact (List.map_mergeSort (s := fun a b => (Term.cmp a b).isLE) hcmp).symm

/-- **Exact numbers are ordered by value**: of two texts, the one that writes the smaller number
comes first, and the spelling decides between texts that write the same number.  A list of such
numbers is sorted by value, whatever the order and the spelling it was written in. -/
theorem exact_order :
    (∀ a b, isValid a = true → isValid b = true → isExact a = true → isExact b = true →
      (value a < value b → compareTexts a b = .lt) ∧
      (value b < value a → compareTexts a b = .gt) ∧
      (value a = value b → compareTexts a b = compare a b)) ∧
    ∀ texts : List String, (∀ t ∈ texts, isValid t = true ∧ isExact t = true) →
      ∃ ordered : List String, ordered.Perm texts ∧
        Term.sorted (texts.map Term.number) = ordered.map Term.number ∧
        ordered.Pairwise fun s t =>
          value s ≤ value t ∧ (value s = value t → (compare s t).isLE = true) := by
  refine ⟨fun a b ha hb hea heb => ?_, fun texts htexts => ?_⟩
  · rcases compareTexts_cases ha hb hea heb with ⟨h, hc⟩ | ⟨h, hc⟩ | ⟨h, hc⟩
    · exact ⟨fun _ => hc, fun h' => absurd h' h.not_gt, fun h' => absurd h' h.ne⟩
    · exact ⟨fun h' => absurd h' h.not_gt, fun _ => hc, fun h' => absurd h' h.ne'⟩
    · exact ⟨fun h' => absurd h h'.ne, fun h' => absurd h h'.ne', fun _ => hc⟩
  · have hperm := List.mergeSort_perm texts fun a b => (compareTexts a b).isLE
    refine ⟨_, hperm, sorted_map_number texts, ?_⟩
    refine (Term.pairwise_mergeSort_isLE compareTexts texts).imp_of_mem fun {s t} hs ht hle => ?_
    obtain ⟨hvs, hes⟩ := htexts s (hperm.mem_iff.1 hs)
    obtain ⟨hvt, het⟩ := htexts t (hperm.mem_iff.1 ht)
    rcases compareTexts_cases hvs hvt hes het with ⟨h, hc⟩ | ⟨h, hc⟩ | ⟨h, hc⟩
    · exact ⟨h.le, fun h' => absurd h' h.ne⟩
    · rw [hc] at hle
      cases hle
    · exact ⟨h.le, fun _ => hc ▸ hle⟩

/-- Numbers with fractions, exponents, signs and trailing zeros.  Two of them are equal, and double
precision does not tell the last two apart. -/
def spellings : List String :=
  ["1e1", "-2.50", "0.1", "1e-1", "9007199254740993.0", "9007199254740992"]

/-- The numbers are exact, and so they are sorted by value. -/
theorem exact_order_spellings :
    (∀ t ∈ spellings, isValid t = true ∧ isExact t = true) ∧
      value "0.1" = value "1e-1" ∧ compareTexts "0.1" "1e-1" = compare "0.1" "1e-1" ∧
      value "9007199254740992" < value "9007199254740993.0" ∧
      Binary64.read "9007199254740992" = Binary64.read "9007199254740993.0" ∧
      compareTexts "9007199254740992" "9007199254740993.0" = .lt ∧
      ∃ ordered : List String, ordered.Perm spellings ∧
        Term.sorted (spellings.map Term.number) = ordered.map Term.number ∧
        ordered.Pairwise fun s t =>
          value s ≤ value t ∧ (value s = value t → (compare s t).isLE = true) := by
  have hall : ∀ t ∈ spellings, isValid t = true ∧ isExact t = true := by decide +kernel
  have hsame : value "0.1" = value "1e-1" := by decide +kernel
  have hlt : value "9007199254740992" < value "9007199254740993.0" := by decide +kernel
  have hrounded : Binary64.read "9007199254740992" = Binary64.read "9007199254740993.0" := by
    decide +kernel
  obtain ⟨hcompare, hsorted⟩ := exact_order
  have hequal := hcompare "0.1" "1e-1" rfl rfl (hall _ (by decide)).2 (hall _ (by decide)).2
  have hclose := hcompare "9007199254740992" "9007199254740993.0" rfl rfl (hall _ (by decide)).2
    (hall _ (by decide)).2
  exact ⟨hall, hsame, hequal.2.2 hsame, hlt, hrounded, hclose.1 hlt, hsorted spellings hall⟩

end Number

end RowFilter
