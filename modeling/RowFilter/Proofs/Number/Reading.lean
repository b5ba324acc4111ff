import Mathlib.Algebra.Order.Field.Power
import Mathlib.Data.Rat.Cast.Order
import Mathlib.Tactic.Positivity
import RowFilter.Number.Binary64
import RowFilter.Number.Decimal96
import RowFilter.Proofs.Meaning.Value
import RowFilter.Proofs.Token.Numeral

/-!
# Reading numbers

A number text is read three times: exactly (`value`), to double precision and as a decimal number of
96 bits.  The readers agree on where its parts are.

The exponent is what they could differ in, since the double precision reader stops counting at
65536.  A decimal number has no room for such an exponent: where one is read at all, the exponent is
28 at most (`Decimal96.natAbs_le_of_read`).

* `Decimal96.units_eq` — the units of a decimal number are its value, counted in `10 ^ -28`.
* `exists_place` — a number that can be read as a decimal number has the place of its exact value.
-/

set_option autoImplicit false

namespace RowFilter.Number

/-- The number or its negative. -/
def signed {α : Type} [Neg α] (negative : Bool) (x : α) : α :=
  if negative then -x else x

theorem scaled_eq (m : Nat) (e : Int) : scaled m e = (m : ℚ) * 10 ^ e := by
  rw [scaled]
  split
  · next h =>
    obtain ⟨k, rfl⟩ := Int.eq_ofNat_of_zero_le h
    rw [Rat.mkRat_eq_div, Int.toNat_natCast, zpow_natCast]
    push_cast [Nat.pow_eq]
    rw [div_one]
  · next h =>
    obtain ⟨k, rfl⟩ : ∃ k : Nat, e = -k := ⟨(-e).toNat, by omega⟩
    rw [Rat.mkRat_eq_div, Int.neg_neg, Int.toNat_natCast, zpow_neg, zpow_natCast]
    push_cast [Nat.pow_eq]
    rw [div_eq_mul_inv]

/-! ## The parts of a number -/

/-- What follows the fraction of a number, and the exponent that it stands for. -/
inductive ExponentPart : List Char → Int → Prop
  | none : ExponentPart [] 0
  | unsigned {mark : Char} {ds : List Char} (hmark : mark = 'e' ∨ mark = 'E')
      (hds : isDigits ds = true) : ExponentPart (mark :: ds) (digitsValue ds)
  | plus {mark : Char} {ds : List Char} (hmark : mark = 'e' ∨ mark = 'E')
      (hds : isDigits ds = true) : ExponentPart (mark :: '+' :: ds) (digitsValue ds)
  | minus {mark : Char} {ds : List Char} (hmark : mark = 'e' ∨ mark = 'E')
      (hds : isDigits ds = true) : ExponentPart (mark :: '-' :: ds) (-(digitsValue ds : Int))

theorem exponentValue_of_isDigits {ds : List Char} (mark : Char) (h : isDigits ds = true) :
    exponentValue (mark :: ds) = digitsValue ds := by
  obtain ⟨d, ds, rfl, hd, -⟩ := Scanner.exists_of_isDigits h
  unfold exponentValue
  split
  · next heq => cases heq; exact absurd hd (by decide)
  · next heq => cases heq; exact absurd hd (by decide)
  · next heq => cases heq; rfl
  · next heq => cases heq

theorem exponentPart_of_isExponentPart {es : List Char} (h : isExponentPart es = true) :
    ExponentPart es (exponentValue es) := by
  cases es with
  | nil => exact .none
  | cons mark cs =>
    rw [isExponentPart, Bool.and_eq_true, Bool.or_eq_true, beq_iff_eq, beq_iff_eq] at h
    obtain ⟨hmark, hexponent⟩ := h
    unfold isExponent at hexponent
    split at hexponent
    · exact .plus hmark hexponent
    · exact .minus hmark hexponent
    · rw [exponentValue_of_isDigits mark hexponent]
      exact .unsigned hmark hexponent

theorem fractionDigits_of_ne {cs : List Char} (h : ∀ ds, cs = '.' :: ds → False) :
    fractionDigits cs = [] := by
  unfold fractionDigits
  split
  · next ds => exact absurd rfl (h ds)
  · rfl

theorem behindFraction_of_ne {cs : List Char} (h : ∀ ds, cs = '.' :: ds → False) :
    behindFraction cs = cs := by
  unfold behindFraction
  split
  · next ds => exact absurd rfl (h ds)
  · rfl

theorem ne_mark_of_isDigit {c : Char} (h : c.isDigit = true) : c ≠ 'e' ∧ c ≠ 'E' := by
  constructor <;> rintro rfl <;> exact absurd h (by decide)

/-- What follows the integer part is the fraction, in which no mark of an exponent stands, and the
exponent. -/
theorem exists_fraction {cs : List Char} (h : isFractionPart cs = true) :
    ∃ lead, cs = lead ++ behindFraction cs ∧ (∀ c ∈ lead, c ≠ 'e' ∧ c ≠ 'E') ∧
      ExponentPart (behindFraction cs) (exponentValue (behindFraction cs)) := by
  rcases Scanner.exists_of_isFractionPart h with ⟨ds, es, rfl, hds, hes⟩ | hexponent
  · obtain ⟨-, hall⟩ := Bool.and_eq_true_iff.1 hds
    have hhead := Scanner.head_of_isExponentPart hes Scanner.BreaksNumber.nil
    rw [List.append_nil] at hhead
    have hbehind : behindFraction ('.' :: (ds ++ es)) = es :=
      (Text.span_append hall fun c hc => (hhead c hc).1).2
    rw [hbehind]
    refine ⟨'.' :: ds, rfl, List.forall_mem_cons.2 ⟨by decide, fun c hc => ?_⟩,
      exponentPart_of_isExponentPart hes⟩
    exact ne_mark_of_isDigit (List.all_eq_true.1 hall c hc)
  · have hhead := Scanner.head_of_isExponentPart hexponent Scanner.BreaksNumber.nil
    rw [List.append_nil] at hhead
    have hpoint : ∀ ds, cs = '.' :: ds → False := by
      rintro ds rfl
      exact (hhead '.' rfl).2 rfl
    rw [behindFraction_of_ne hpoint]
    exact ⟨[], rfl, List.forall_mem_nil _, exponentPart_of_isExponentPart hexponent⟩

theorem isUnsignedNumeral_of_isUnsigned {cs : List Char} (h : isUnsigned cs = true) :
    isUnsignedNumeral cs = true := by
  unfold isUnsigned at h
  split at h
  · next cs =>
    have hhead := Scanner.head_of_isFractionPart h Scanner.BreaksNumber.nil
    rw [List.append_nil] at hhead
    obtain ⟨htake, hdrop⟩ : (['0'] ++ cs).takeWhile Char.isDigit = ['0'] ∧
        (['0'] ++ cs).dropWhile Char.isDigit = cs := Text.span_append rfl hhead
    rw [isUnsignedNumeral, ← List.singleton_append, htake, hdrop, h]
    rfl
  · next c cs _ =>
    rw [Bool.and_eq_true] at h
    rw [isUnsignedNumeral, List.takeWhile_cons_of_pos h.1, List.dropWhile_cons_of_pos h.1, h.2]
    rfl
  · cases h

/-- No mark of an exponent stands before the exponent of a number without sign. -/
theorem exists_lead {cs : List Char} (h : isUnsignedNumeral cs = true) :
    ∃ lead, cs = lead ++ behindFraction (cs.dropWhile Char.isDigit) ∧
      ∀ c ∈ lead, c ≠ 'e' ∧ c ≠ 'E' := by
  rw [isUnsignedNumeral, Bool.and_eq_true] at h
  obtain ⟨lead, hrest, hlead, -⟩ := exists_fraction h.2
  refine ⟨cs.takeWhile Char.isDigit ++ lead, ?_, ?_⟩
  · rw [List.append_assoc, ← hrest, List.takeWhile_append_dropWhile]
  · intro c hc
    rcases List.mem_append.1 hc with hc | hc
    · exact ne_mark_of_isDigit (List.all_eq_true.1 List.all_takeWhile c hc)
    · exact hlead c hc

/-- **A number is a sign, what stands before its exponent, and the exponent.**  All of the readers
take the sign off first. -/
theorem exists_unsigned {text : String} (h : isValid text = true) :
    ∃ (negative : Bool) (body lead : List Char),
      isUnsignedNumeral body = true ∧
      text.toList = lead ++ behindFraction (body.dropWhile Char.isDigit) ∧
      (∀ c ∈ lead, c ≠ 'e' ∧ c ≠ 'E') ∧
      value text = signed negative (unsignedValue body) ∧
      Binary64.read text =
        (Binary64.readUnsigned body).map fun n : Nat => signed negative (n : Int) := by
  unfold isValid isNumber at h
  split at h
  · next body htext =>
    have hbody := isUnsignedNumeral_of_isUnsigned h
    obtain ⟨lead, hlead, hchars⟩ := exists_lead hbody
    refine ⟨true, body, '-' :: lead, hbody, ?_, ?_, ?_, ?_⟩
    · rw [htext, List.cons_append, ← hlead]
    · exact List.forall_mem_cons.2 ⟨by decide, hchars⟩
    · rw [value, htext]
      rfl
    · simp only [Binary64.read, htext]
      cases Binary64.readUnsigned body <;> rfl
  · have hbody := isUnsignedNumeral_of_isUnsigned h
    obtain ⟨lead, hlead, hchars⟩ := exists_lead hbody
    -- the readers look at the first character for a sign, and it is a digit
    obtain ⟨d, ds, htext, hd, -⟩ := Scanner.exists_of_isUnsignedNumeral hbody
    refine ⟨false, text.toList, lead, hbody, hlead, hchars, ?_, ?_⟩
    · rw [value, htext]
      split
      · next heq => cases heq; exact absurd hd (by decide)
      · rfl
    · rw [Binary64.read, htext]
      split
      · next heq => cases heq; exact absurd hd (by decide)
      · next heq => cases heq; exact absurd hd (by decide)
      · cases Binary64.readUnsigned (d :: ds) <;> rfl

/-! ## Decimal numbers -/

namespace Decimal96

/-- The number that the decimal number stands for. -/
def value (d : Decimal96) : Rat :=
  signed d.negative (scaled d.mantissa (-d.scale))

theorem units_eq {d : Decimal96} (h : d.scale ≤ maxScale) :
    (d.units : ℚ) = d.value * 10 ^ (maxScale : Int) := by
  have hunits : ((d.mantissa * Nat.pow 10 (maxScale - d.scale) : Nat) : ℚ) =
      scaled d.mantissa (-d.scale) * 10 ^ (maxScale : Int) := by
    rw [scaled_eq, mul_assoc, ← zpow_add₀ (by norm_num : (10 : ℚ) ≠ 0), neg_add_eq_sub,
      ← Nat.cast_sub h, zpow_natCast]
    push_cast [Nat.pow_eq]
    rfl
  rw [units, value, signed]
  split
  · push_cast at hunits ⊢
    rw [hunits, neg_mul]
  · push_cast at hunits ⊢
    rw [hunits]

theorem scale_le_of_roundBy {negative : Bool} {mantissa scale digit : Nat} {d : Decimal96}
    (h : roundBy negative mantissa scale digit = some d) : d.scale ≤ scale := by
  rw [roundBy] at h
  split at h
  · cases h
    exact Nat.le_refl _
  split at h
  · cases h
    exact Nat.le_refl _
  split at h
  · cases h
  · cases h
    exact Nat.sub_le _ _

/-- What may stand in a decimal number without exponent, apart from its sign. -/
def isPlainChar (c : Char) : Bool :=
  c.isDigit || c == '.' || c == '_'

theorem finish_spec {negative : Bool} {p : Progress} {cs : List Char} {d : Decimal96}
    (h : finish negative p cs = some d) : d.scale ≤ p.scale ∧ cs.all isPlainChar = true := by
  rw [finish] at h
  split at h
  · next hall =>
    constructor
    · split at h
      · cases h
        exact Nat.le_refl _
      · exact scale_le_of_roundBy h
    · rw [List.all_eq_true] at hall ⊢
      intro c hc
      rw [isPlainChar, Bool.or_right_comm, hall c hc, Bool.true_or]
  · cases h

/-- The digits of a number keep its scale within the bound, and nothing else is read. -/
theorem readFrom_spec {negative : Bool} {p : Progress} {cs : List Char} {d : Decimal96}
    (h : readFrom negative p cs = some d) (hp : p.scale ≤ maxScale) :
    d.scale ≤ maxScale ∧ cs.all isPlainChar = true := by
  -- the scale grows by one digit at a time, and only while it is below the bound
  induction cs generalizing p with
  | nil =>
    rw [readFrom] at h
    split at h
    · cases h
      exact ⟨hp, rfl⟩
    · cases h
  | cons c cs ih =>
    rw [readFrom] at h
    have hcons : isPlainChar c = true → cs.all isPlainChar = true →
        (c :: cs).all isPlainChar = true := fun hc hcs => by rw [List.all_cons, hc, hcs]; rfl
    split at h
    · exact (finish_spec h).imp_left (·.trans hp)
    next hfull =>
    have hroom : p.scale < maxScale := by
      have hne : p.scale ≠ maxScale := by simpa using hfull
      omega
    split at h
    · next hc =>
      have hplain : isPlainChar c = true := by rw [isPlainChar, hc]; rfl
      dsimp only at h
      split at h
      · split at h
        · exact (finish_spec h).imp_left (·.trans hp)
        · cases h
      · obtain ⟨hscale, hall⟩ := ih h (by dsimp only; split <;> omega)
        exact ⟨hscale, hcons hplain hall⟩
    split at h
    · next hc =>
      obtain ⟨hscale, hall⟩ := ih h hp
      exact ⟨hscale, hcons (by rw [isPlainChar, (Bool.and_eq_true_iff.1 hc).1]; simp) hall⟩
    split at h
    · next hc =>
      obtain ⟨hscale, hall⟩ := ih h hp
      exact ⟨hscale, hcons (by rw [isPlainChar, (Bool.and_eq_true_iff.1 hc).1]; simp) hall⟩
    · cases h

theorem readPlain_spec {cs : List Char} {d : Decimal96} (h : readPlain cs = some d) :
    d.scale ≤ maxScale ∧ ∀ c ∈ cs, c ≠ 'e' ∧ c ≠ 'E' := by
  have hfrom : ∀ {negative : Bool} {cs : List Char}, readFrom negative {} cs = some d →
      d.scale ≤ maxScale ∧ ∀ c ∈ cs, c ≠ 'e' ∧ c ≠ 'E' := by
    intro negative cs h
    obtain ⟨hscale, hall⟩ := readFrom_spec h (Nat.zero_le _)
    refine ⟨hscale, fun c hc => ?_⟩
    have hplain := List.all_eq_true.1 hall c hc
    constructor <;> rintro rfl <;> exact absurd hplain (by decide)
  unfold readPlain at h
  split at h
  · obtain ⟨hscale, hchars⟩ := hfrom h
    exact ⟨hscale, List.forall_mem_cons.2 ⟨by decide, hchars⟩⟩
  · obtain ⟨hscale, hchars⟩ := hfrom h
    exact ⟨hscale, List.forall_mem_cons.2 ⟨by decide, hchars⟩⟩
  · exact hfrom h

/-- An exponent moves the point by at most as many places as a number has. -/
theorem divPow_spec {d d' : Decimal96} {e : Nat} (h : d.divPow e = some d') :
    e ≤ maxScale ∧ d'.scale ≤ maxScale := by
  rw [divPow] at h
  split at h
  · cases h
  split at h
  · cases h
    exact ⟨by omega, Nat.le_refl _⟩
  · cases h
    exact ⟨by omega, by dsimp only; omega⟩

theorem mulPow_spec {d d' : Decimal96} {e : Nat} (h : d.mulPow e = some d')
    (hd : d.scale ≤ maxScale) : e ≤ maxScale ∧ d'.scale ≤ maxScale := by
  rw [mulPow] at h
  split at h
  · next he =>
    cases h
    exact ⟨he.trans hd, (Nat.sub_le _ _).trans hd⟩
  split at h
  · cases h
  dsimp only at h
  split at h
  · cases h
    exact ⟨by omega, Nat.zero_le _⟩
  · cases h

theorem readExponent_eq_some {cs : List Char} {e : Nat} (h : readExponent cs = some e) :
    (∃ ds, cs = '+' :: ds ∧ e = digitsValue ds) ∨ isDigits cs = true ∧ e = digitsValue cs := by
  unfold readExponent at h
  split at h
  · next ds =>
    obtain ⟨-, he⟩ := Option.ite_none_right_eq_some.1 h
    exact .inl ⟨ds, rfl, (Option.some_inj.1 he).symm⟩
  · obtain ⟨hdigits, he⟩ := Option.ite_none_right_eq_some.1 h
    exact .inr ⟨(Bool.and_eq_true_iff.1 hdigits).1, (Option.some_inj.1 he).symm⟩

/-- A number with an exponent is a number without one, whose point is moved. -/
theorem readScientific_eq_some {cs : List Char} {d : Decimal96} (h : readScientific cs = some d) :
    ∃ (mark : Char) (rest : List Char) (d₀ : Decimal96) (e : Nat),
      cs.dropWhile (fun c => !(c == 'e' || c == 'E')) = mark :: rest ∧ d₀.scale ≤ maxScale ∧
      ((∃ ds, rest = '-' :: ds ∧ readExponent ds = some e ∧ d₀.divPow e = some d) ∨
        readExponent rest = some e ∧ d₀.mulPow e = some d) := by
  unfold readScientific at h
  dsimp only at h
  split at h
  · cases h
  · next mark rest hdrop =>
    obtain ⟨d₀, hplain, h⟩ := Option.bind_eq_some_iff.1 h
    have hscale := (readPlain_spec hplain).1
    split at h
    · next ds _ =>
      obtain ⟨e, he, h⟩ := Option.bind_eq_some_iff.1 h
      exact ⟨mark, _, d₀, e, hdrop, hscale, .inl ⟨ds, rfl, he, h⟩⟩
    · obtain ⟨e, he, h⟩ := Option.bind_eq_some_iff.1 h
      exact ⟨mark, rest, d₀, e, hdrop, hscale, .inr ⟨he, h⟩⟩

theorem scale_le_of_read {text : String} {d : Decimal96} (h : read text = some d) :
    d.scale ≤ maxScale := by
  rw [read] at h
  split at h
  · next hplain =>
    cases h
    exact (readPlain_spec hplain).1
  · obtain ⟨_, _, d₀, e, -, hscale, ⟨ds, -, -, hdiv⟩ | ⟨-, hmul⟩⟩ := readScientific_eq_some h
    · exact (divPow_spec hdiv).2
    · exact (mulPow_spec hmul hscale).2

/-- The exponent that is read behind the first mark is 28 at most. -/
theorem exists_readExponent {text : String} {lead rest : List Char} {mark : Char} {d : Decimal96}
    (htext : text.toList = lead ++ mark :: rest) (hlead : ∀ c ∈ lead, c ≠ 'e' ∧ c ≠ 'E')
    (hmark : mark = 'e' ∨ mark = 'E') (h : read text = some d) :
    ∃ e ≤ maxScale, (∃ ds, rest = '-' :: ds ∧ readExponent ds = some e) ∨
      readExponent rest = some e := by
  have hplain : readPlain text.toList = none := by
    refine Option.eq_none_iff_forall_ne_some.2 fun d hd => ?_
    obtain ⟨he, hE⟩ := (readPlain_spec hd).2 mark (by simp [htext])
    exact hmark.elim he hE
  rw [read, hplain] at h
  obtain ⟨mark', rest', d₀, e, hdrop, hscale, hread⟩ := readScientific_eq_some h
  have hrest : mark' :: rest' = mark :: rest := by
    rw [← hdrop, htext]
    refine (Text.span_append (List.all_eq_true.2 fun c hc => ?_) fun c hc => ?_).2
    · simp [hlead c hc]
    · cases hc
      rcases hmark with rfl | rfl <;> rfl
  obtain ⟨rfl, rfl⟩ := List.cons.inj hrest
  rcases hread with ⟨ds, rfl, he, hdiv⟩ | ⟨he, hmul⟩
  · exact ⟨e, (divPow_spec hdiv).1, .inl ⟨ds, rfl, he⟩⟩
  · exact ⟨e, (mulPow_spec hmul hscale).1, .inr he⟩

/-- **The exponent of a decimal number is 28 at most.** -/
theorem natAbs_le_of_read {text : String} {lead es : List Char} {e : Int} {d : Decimal96}
    (htext : text.toList = lead ++ es) (hlead : ∀ c ∈ lead, c ≠ 'e' ∧ c ≠ 'E')
    (hes : ExponentPart es e) (h : read text = some d) : e.natAbs ≤ maxScale := by
  have hdigits : ∀ {ds : List Char} {e : Nat}, isDigits ds = true → readExponent ds = some e →
      e = digitsValue ds := by
    intro ds e hds he
    rcases readExponent_eq_some he with ⟨ds, rfl, -⟩ | ⟨-, rfl⟩
    · cases hds
    · rfl
  cases hes with
  | none => exact Nat.zero_le _
  | unsigned hmark hds =>
    obtain ⟨e, hle, ⟨ds, rfl, -⟩ | he⟩ := exists_readExponent htext hlead hmark h
    · cases hds
    · rwa [Int.natAbs_natCast, ← hdigits hds he]
  | plus hmark hds =>
    obtain ⟨e, hle, ⟨ds, hne, -⟩ | he⟩ := exists_readExponent htext hlead hmark h
    · cases hne
    · rcases readExponent_eq_some he with ⟨_, heq, rfl⟩ | ⟨hplus, -⟩
      · cases heq
        rwa [Int.natAbs_natCast]
      · cases hplus
  | minus hmark hds =>
    obtain ⟨e, hle, ⟨ds, heq, he⟩ | he⟩ := exists_readExponent htext hlead hmark h
    · cases heq
      rwa [Int.natAbs_neg, Int.natAbs_natCast, ← hdigits hds he]
    · rcases readExponent_eq_some he with ⟨_, hne, -⟩ | ⟨hminus, -⟩
      · cases hne
      · cases hminus

end Decimal96

/-! ## Double precision -/

namespace Binary64

theorem le_foldl_digits (cs : List Char) (n : Nat) :
    n ≤ cs.foldl (fun n c => n * 10 + digitValue c) n := by
  induction cs generalizing n with
  | nil => exact Nat.le_refl n
  | cons c cs ih => exact le_trans (by omega) (ih (n * 10 + digitValue c))

/-- All digits of a small exponent count. -/
theorem exponentValue_eq {cs : List Char} (h : digitsValue cs < 0x10000) :
    exponentValue cs = digitsValue cs := by
  suffices hfold : ∀ (cs : List Char) (n : Nat),
      cs.foldl (fun n c => n * 10 + digitValue c) n < 0x10000 →
      cs.foldl (fun n c => if n < 0x10000 then n * 10 + digitValue c else n) n =
        cs.foldl (fun n c => n * 10 + digitValue c) n from hfold cs 0 h
  intro cs
  induction cs with
  | nil => exact fun _ _ => rfl
  | cons c cs ih =>
    intro n hn
    have hle := le_foldl_digits (c :: cs) n
    rw [List.foldl_cons, List.foldl_cons, if_pos (by omega)]
    exact ih _ hn

theorem readExponent_eq {es : List Char} {e : Int} (h : ExponentPart es e)
    (he : e.natAbs < 0x10000) : readExponent es = some e := by
  cases h with
  | none => rfl
  | @unsigned mark ds hmark hds =>
    obtain ⟨d, ds, rfl, hd, -⟩ := Scanner.exists_of_isDigits hds
    rw [Int.natAbs_natCast] at he
    unfold readExponent
    dsimp only
    rw [if_pos (by simpa using hmark)]
    split
    · next heq => cases heq; exact absurd hd (by decide)
    · next heq => cases heq; exact absurd hd (by decide)
    · rw [if_pos hds, exponentValue_eq he]
  | plus hmark hds =>
    rw [Int.natAbs_natCast] at he
    rw [readExponent, if_pos (by simpa using hmark)]
    exact (if_pos hds).trans (by rw [exponentValue_eq he])
  | minus hmark hds =>
    rw [Int.natAbs_neg, Int.natAbs_natCast] at he
    rw [readExponent, if_pos (by simpa using hmark)]
    exact (if_pos hds).trans (by rw [exponentValue_eq he])

theorem readDecimal_eq (cs : List Char) :
    readDecimal cs =
      if (cs.takeWhile Char.isDigit).isEmpty &&
          (fractionDigits (cs.dropWhile Char.isDigit)).isEmpty then none
      else
        (readExponent (behindFraction (cs.dropWhile Char.isDigit))).map fun e =>
          place (digitsValue (cs.takeWhile Char.isDigit ++
            fractionDigits (cs.dropWhile Char.isDigit)))
            (e - (fractionDigits (cs.dropWhile Char.isDigit)).length) := by
  unfold readDecimal
  generalize cs.dropWhile Char.isDigit = rest
  dsimp only
  split
  · rfl
  · next hpoint =>
    rw [fractionDigits_of_ne hpoint, behindFraction_of_ne hpoint]

end Binary64

/-- **A number that can be read as a decimal number has the place of its exact value.** -/
theorem exists_place {text : String} {d : Decimal96} (hvalid : isValid text = true)
    (hread : Decimal96.read text = some d) :
    ∃ (negative : Bool) (m : Nat) (k : Int),
      Binary64.read text = some (signed negative (Binary64.place m k : Int)) ∧
        value text = signed negative ((m : ℚ) * 10 ^ k) := by
  obtain ⟨negative, body, lead, hbody, htext, hlead, hvalue, hbinary⟩ := exists_unsigned hvalid
  rw [isUnsignedNumeral, Bool.and_eq_true] at hbody
  obtain ⟨-, -, -, hexponent⟩ := exists_fraction hbody.2
  have hle := Decimal96.natAbs_le_of_read htext hlead hexponent hread
  rw [Decimal96.maxScale] at hle
  have hwhole : (body.takeWhile Char.isDigit).isEmpty = false := by simpa using hbody.1
  have hplace := Binary64.readDecimal_eq body
  rw [hwhole, Bool.false_and, if_neg Bool.false_ne_true,
    Binary64.readExponent_eq hexponent (by omega)] at hplace
  let rest := body.dropWhile Char.isDigit
  refine ⟨negative, digitsValue (body.takeWhile Char.isDigit ++ fractionDigits rest),
    exponentValue (behindFraction rest) - (fractionDigits rest).length, ?_, ?_⟩
  · rw [hbinary, Binary64.readUnsigned, hplace]
    rfl
  · rw [hvalue, unsignedValue, scaled_eq]

end RowFilter.Number
