import RowFilter.Number.Notation
import RowFilter.Proofs.Text.Character
import RowFilter.Token.Scanner

/-!
# Numbers among tokens

The scanner takes more texts for numbers than the compiler accepts: the integer part may start with
any number of zeros.  `Number.isNumeral` says which texts these are.

* `Scanner.isNumeral_number` — the scanner takes nothing else for a number.
* `Scanner.number_append` — it takes all of a numeral, where no character follows that could belong
  to it.
-/

set_option autoImplicit false

namespace RowFilter

namespace Number

/-- Digits, an optional fraction and an optional exponent. -/
def isUnsignedNumeral (cs : List Char) : Bool :=
  !(cs.takeWhile Char.isDigit).isEmpty && isFractionPart (cs.dropWhile Char.isDigit)

/-- **An optional minus, digits, an optional fraction and an optional exponent.** -/
def isNumeral : List Char → Bool
  | '-' :: cs => isUnsignedNumeral cs
  | cs => isUnsignedNumeral cs

end Number

namespace Scanner

open Number (isDigits isExponent isExponentPart isFractionPart isUnsignedNumeral isNumeral)

/-- What follows a number is no character that could belong to it. -/
def BreaksNumber (rest : List Char) : Prop :=
  ∀ c ∈ rest.head?, c.isDigit = false ∧ c ≠ '.' ∧ c ≠ 'e' ∧ c ≠ 'E'

theorem BreaksNumber.nil : BreaksNumber [] := by simp [BreaksNumber]

theorem BreaksNumber.isDigit {rest : List Char} (h : BreaksNumber rest) :
    ∀ c ∈ rest.head?, c.isDigit = false :=
  fun c hc => (h c hc).1

/-! ## Exponents -/

theorem isDigits_takeWhile {cs : List Char} (h : ¬ (cs.takeWhile Char.isDigit).isEmpty = true) :
    isDigits (cs.takeWhile Char.isDigit) = true := by
  rw [isDigits, List.all_takeWhile, Bool.and_true, Bool.not_eq_true']
  exact Bool.eq_false_iff.2 h

/-- The sign of an exponent, if one stands at the front. -/
def exponentSign : List Char → List Char
  | '+' :: _ => ['+']
  | '-' :: _ => ['-']
  | _ => []

theorem exponent_cons (e : Char) (cs : List Char) :
    exponent (e :: cs) =
      if e = 'e' ∨ e = 'E' then
        if ((cs.drop (exponentSign cs).length).takeWhile Char.isDigit).isEmpty then []
        else e :: (exponentSign cs ++ (cs.drop (exponentSign cs).length).takeWhile Char.isDigit)
      else [] := rfl

theorem exponentSign_of_isDigit {d : Char} (h : d.isDigit = true) (cs : List Char) :
    exponentSign (d :: cs) = [] := by
  unfold exponentSign
  split
  · next heq => cases heq; exact absurd h (by decide)
  · next heq => cases heq; exact absurd h (by decide)
  · rfl

theorem isExponent_of_isDigit {d : Char} (h : d.isDigit = true) (cs : List Char) :
    isExponent (d :: cs) = isDigits (d :: cs) := by
  unfold isExponent
  split
  · next heq => cases heq; exact absurd h (by decide)
  · next heq => cases heq; exact absurd h (by decide)
  · rfl

theorem exists_of_isDigits {ds : List Char} (h : isDigits ds = true) :
    ∃ d cs, ds = d :: cs ∧ d.isDigit = true ∧ cs.all Char.isDigit = true := by
  cases ds with
  | nil => cases h
  | cons d cs =>
    rw [isDigits, List.all_cons] at h
    simp only [List.isEmpty_cons, Bool.not_false, Bool.true_and, Bool.and_eq_true] at h
    exact ⟨d, cs, rfl, h.1, h.2⟩

theorem isExponent_append {cs ds : List Char} (h : isDigits ds = true) :
    isExponent (exponentSign cs ++ ds) = true := by
  unfold exponentSign
  split
  · exact h
  · exact h
  · obtain ⟨d, cs, rfl, hd, -⟩ := exists_of_isDigits h
    exact (isExponent_of_isDigit hd cs).trans h

/-- An exponent is a sign and digits, and the sign is seen whatever follows. -/
theorem exists_of_isExponent {cs : List Char} (h : isExponent cs = true) :
    ∃ sign ds, cs = sign ++ ds ∧ isDigits ds = true ∧
      ∀ rest, exponentSign (cs ++ rest) = sign := by
  unfold isExponent at h
  split at h
  · next ds => exact ⟨['+'], ds, rfl, h, fun _ => rfl⟩
  · next ds => exact ⟨['-'], ds, rfl, h, fun _ => rfl⟩
  · obtain ⟨d, cs, rfl, hd, -⟩ := exists_of_isDigits h
    exact ⟨[], d :: cs, rfl, h, fun rest => exponentSign_of_isDigit hd (cs ++ rest)⟩

theorem head_exponent (cs : List Char) : ∀ c ∈ (exponent cs).head?, c = 'e' ∨ c = 'E' := by
  cases cs with
  | nil => simp [exponent]
  | cons e cs =>
    rw [exponent_cons]
    split
    · next he =>
      split
      · simp
      · intro c hc
        rw [List.head?_cons, Option.mem_some_iff] at hc
        exact hc ▸ he
    · simp

theorem isExponentPart_exponent (cs : List Char) : isExponentPart (exponent cs) = true := by
  cases cs with
  | nil => rfl
  | cons e cs =>
    rw [exponent_cons]
    split
    · next he =>
      split
      · rfl
      · next hdigits =>
        rw [isExponentPart, isExponent_append (isDigits_takeWhile hdigits)]
        rcases he with rfl | rfl <;> rfl
    · rfl

theorem exponent_append {cs rest : List Char} (h : isExponentPart cs = true)
    (hrest : BreaksNumber rest) : exponent (cs ++ rest) = cs := by
  cases cs with
  | nil =>
    cases rest with
    | nil => rfl
    | cons c rest =>
      obtain ⟨-, -, he, hE⟩ := hrest c rfl
      rw [List.nil_append, exponent_cons, if_neg (by simp [he, hE])]
  | cons e cs =>
    rw [isExponentPart, Bool.and_eq_true, Bool.or_eq_true, beq_iff_eq, beq_iff_eq] at h
    obtain ⟨sign, ds, rfl, hds, hsign⟩ := exists_of_isExponent h.2
    have hall : ds.all Char.isDigit = true := (Bool.and_eq_true_iff.1 hds).2
    have hne : ds.isEmpty = false := by simpa using (Bool.and_eq_true_iff.1 hds).1
    have htake : ((sign ++ ds ++ rest).drop sign.length).takeWhile Char.isDigit = ds := by
      rw [List.append_assoc, List.drop_left, (Text.span_append hall hrest.isDigit).1]
    rw [List.cons_append, exponent_cons, if_pos h.1, hsign, htake, hne]
    rfl

/-! ## Fractions -/

/-- What belongs to a number behind its integer part. -/
def numberTail (cs : List Char) : List Char :=
  fraction cs ++ exponent (cs.drop (fraction cs).length)

theorem fraction_point (cs : List Char) :
    fraction ('.' :: cs) =
      if (cs.takeWhile Char.isDigit).isEmpty then [] else '.' :: cs.takeWhile Char.isDigit := rfl

theorem fraction_of_ne {c : Char} (h : c ≠ '.') (cs : List Char) : fraction (c :: cs) = [] := by
  unfold fraction
  split
  · next heq => cases heq; exact absurd rfl h
  · rfl

theorem isFractionPart_of_ne {c : Char} (h : c ≠ '.') (cs : List Char) :
    isFractionPart (c :: cs) = isExponentPart (c :: cs) := by
  unfold isFractionPart
  split
  · next heq => cases heq; exact absurd rfl h
  · rfl

theorem isFractionPart_exponent (cs : List Char) : isFractionPart (exponent cs) = true := by
  have hexponent := isExponentPart_exponent cs
  have hhead := head_exponent cs
  cases he : exponent cs with
  | nil => rfl
  | cons c ds =>
    rw [he] at hexponent hhead
    have hc : c ≠ '.' := by rcases hhead c rfl with rfl | rfl <;> decide
    rw [isFractionPart_of_ne hc, hexponent]

theorem not_isDigit_of_head_exponent (cs : List Char) :
    ∀ c ∈ (exponent cs).head?, c.isDigit = false := by
  intro c hc
  rcases head_exponent cs c hc with rfl | rfl <;> rfl

theorem isFractionPart_numberTail (cs : List Char) : isFractionPart (numberTail cs) = true := by
  rw [numberTail]
  rcases cs with _ | ⟨c, cs⟩
  · rfl
  by_cases hc : c = '.'
  · subst hc
    rw [fraction_point]
    split
    · rw [List.nil_append, isFractionPart_exponent]
    · next hdigits =>
      obtain ⟨htake, hdrop⟩ := Text.span_append (List.all_takeWhile (l := cs) (p := Char.isDigit))
        (not_isDigit_of_head_exponent (cs.dropWhile Char.isDigit))
      rw [List.length_cons, List.drop_succ_cons, Text.drop_length_takeWhile, List.cons_append,
        isFractionPart, htake, hdrop, isExponentPart_exponent]
      simpa using hdigits
  · rw [fraction_of_ne hc, List.nil_append, isFractionPart_exponent]

/-- What stands behind the integer part is a fraction and an exponent, or only an exponent. -/
theorem exists_of_isFractionPart {cs : List Char} (h : isFractionPart cs = true) :
    (∃ ds es, cs = '.' :: (ds ++ es) ∧ isDigits ds = true ∧ isExponentPart es = true) ∨
      isExponentPart cs = true := by
  unfold isFractionPart at h
  split at h
  · next cs =>
    rw [Bool.and_eq_true, Bool.not_eq_true', Bool.eq_false_iff] at h
    refine .inl ⟨cs.takeWhile Char.isDigit, cs.dropWhile Char.isDigit, ?_,
      isDigits_takeWhile h.1, h.2⟩
    rw [List.takeWhile_append_dropWhile]
  · exact .inr h

theorem head_of_isExponentPart {cs rest : List Char} (h : isExponentPart cs = true)
    (hrest : BreaksNumber rest) : ∀ c ∈ (cs ++ rest).head?, c.isDigit = false ∧ c ≠ '.' := by
  intro c hc
  cases cs with
  | nil =>
    obtain ⟨hdigit, hpoint, -⟩ := hrest c hc
    exact ⟨hdigit, hpoint⟩
  | cons e cs =>
    cases hc
    rw [isExponentPart, Bool.and_eq_true, Bool.or_eq_true, beq_iff_eq, beq_iff_eq] at h
    rcases h.1 with rfl | rfl <;> decide

theorem head_of_isFractionPart {cs rest : List Char} (h : isFractionPart cs = true)
    (hrest : BreaksNumber rest) : ∀ c ∈ (cs ++ rest).head?, c.isDigit = false := by
  intro c hc
  rcases exists_of_isFractionPart h with ⟨ds, es, rfl, -, -⟩ | hexponent
  · cases hc
    rfl
  · exact (head_of_isExponentPart hexponent hrest c hc).1

theorem numberTail_append {cs rest : List Char} (h : isFractionPart cs = true)
    (hrest : BreaksNumber rest) : numberTail (cs ++ rest) = cs := by
  rw [numberTail]
  rcases exists_of_isFractionPart h with ⟨ds, es, rfl, hds, hes⟩ | hexponent
  · have hhead : ∀ c ∈ (es ++ rest).head?, c.isDigit = false := fun c hc =>
      (head_of_isExponentPart hes hrest c hc).1
    obtain ⟨hne, hall⟩ := Bool.and_eq_true_iff.1 hds
    have htake := (Text.span_append hall hhead).1
    rw [List.cons_append, List.append_assoc, fraction_point, htake, if_neg (by simpa using hne),
      List.length_cons, List.drop_succ_cons, List.drop_left, exponent_append hes hrest,
      List.cons_append]
  · have hfraction : fraction (cs ++ rest) = [] := by
      have hhead := head_of_isExponentPart hexponent hrest
      cases hcs : cs ++ rest with
      | nil => rfl
      | cons c ds => exact fraction_of_ne (hhead c (by rw [hcs]; rfl)).2 ds
    rw [hfraction, List.nil_append, List.length_nil, List.drop_zero,
      exponent_append hexponent hrest]

/-! ## Numbers -/

/-- The number at the front of a text, if it has no sign. -/
def unsignedNumber (cs : List Char) : List Char :=
  cs.takeWhile Char.isDigit ++ numberTail (cs.dropWhile Char.isDigit)

theorem numberTail_drop (cs : List Char) (n : Nat) :
    fraction (cs.drop n) ++ exponent (cs.drop (n + (fraction (cs.drop n)).length)) =
      numberTail (cs.drop n) := by
  rw [numberTail, List.drop_drop]

/-- The sign of a number, if one stands at the front. -/
def numberSign : List Char → List Char
  | '-' :: _ => ['-']
  | _ => []

theorem number_eq (cs : List Char) :
    number cs = numberSign cs ++ unsignedNumber (cs.drop (numberSign cs).length) := by
  have hwhole : number cs =
      let whole := numberSign cs ++ (cs.drop (numberSign cs).length).takeWhile Char.isDigit
      whole ++ fraction (cs.drop whole.length) ++
        exponent (cs.drop (whole.length + (fraction (cs.drop whole.length)).length)) := rfl
  rw [hwhole, List.append_assoc, numberTail_drop, List.length_append, ← List.drop_drop,
    Text.drop_length_takeWhile, List.append_assoc, unsignedNumber]

theorem numberSign_of_ne {c : Char} (h : c ≠ '-') (cs : List Char) : numberSign (c :: cs) = [] := by
  unfold numberSign
  split
  · next heq => cases heq; exact absurd rfl h
  · rfl

theorem isNumeral_of_ne {c : Char} (h : c ≠ '-') (cs : List Char) :
    isNumeral (c :: cs) = isUnsignedNumeral (c :: cs) := by
  unfold isNumeral
  split
  · next heq => cases heq; exact absurd rfl h
  · rfl

theorem number_minus (cs : List Char) : number ('-' :: cs) = '-' :: unsignedNumber cs :=
  number_eq ('-' :: cs)

theorem number_of_ne {c : Char} (h : c ≠ '-') (cs : List Char) :
    number (c :: cs) = unsignedNumber (c :: cs) := by
  rw [number_eq, numberSign_of_ne h]
  rfl

theorem isUnsignedNumeral_unsignedNumber {cs : List Char} (h : startsWithDigit cs = true) :
    isUnsignedNumeral (unsignedNumber cs) = true := by
  have htail := isFractionPart_numberTail (cs.dropWhile Char.isDigit)
  have hhead := head_of_isFractionPart htail BreaksNumber.nil
  rw [List.append_nil] at hhead
  obtain ⟨htake, hdrop⟩ := Text.span_append (List.all_takeWhile (l := cs) (p := Char.isDigit)) hhead
  rw [isUnsignedNumeral, unsignedNumber, htake, hdrop, htail, Bool.and_true]
  cases cs with
  | nil => cases h
  | cons c cs => simp [show c.isDigit = true from h]

theorem unsignedNumber_append {cs rest : List Char} (h : isUnsignedNumeral cs = true)
    (hrest : BreaksNumber rest) : unsignedNumber (cs ++ rest) = cs := by
  rw [isUnsignedNumeral, Bool.and_eq_true] at h
  have hcs := List.takeWhile_append_dropWhile (p := Char.isDigit) (l := cs)
  obtain ⟨htake, hdrop⟩ := Text.span_append (List.all_takeWhile (l := cs) (p := Char.isDigit))
    (head_of_isFractionPart h.2 hrest)
  rw [← List.append_assoc, hcs] at htake hdrop
  rw [unsignedNumber, htake, hdrop, numberTail_append h.2 hrest, hcs]

theorem exists_of_isUnsignedNumeral {cs : List Char} (h : isUnsignedNumeral cs = true) :
    ∃ d ds, cs = d :: ds ∧ d.isDigit = true ∧ d ≠ '-' := by
  rw [isUnsignedNumeral, Bool.and_eq_true] at h
  cases cs with
  | nil => exact absurd h.1 (by decide)
  | cons d ds =>
    have hd : d.isDigit = true := by
      by_contra hd
      rw [List.takeWhile_cons_of_neg hd] at h
      exact absurd h.1 (by decide)
    refine ⟨d, ds, rfl, hd, ?_⟩
    rintro rfl
    exact absurd hd (by decide)

/-- **The scanner takes nothing but numerals for numbers.** -/
theorem isNumeral_number {c : Char} {cs : List Char}
    (h : (c.isDigit || (c == '-' && startsWithDigit cs)) = true) :
    isNumeral (number (c :: cs)) = true := by
  by_cases hc : c = '-'
  · subst hc
    rw [number_minus]
    exact isUnsignedNumeral_unsignedNumber h
  · have hdigit : c.isDigit = true := by simpa [hc] using h
    have hnumeral : isUnsignedNumeral (unsignedNumber (c :: cs)) = true :=
      isUnsignedNumeral_unsignedNumber hdigit
    obtain ⟨d, ds, hds, -, hd⟩ := exists_of_isUnsignedNumeral hnumeral
    rw [hds] at hnumeral
    rw [number_of_ne hc, hds, isNumeral_of_ne hd, hnumeral]

/-- The front of a numeral is what the scanner knows a number by. -/
theorem exists_of_isNumeral {cs : List Char} (h : isNumeral cs = true) :
    ∃ c ds, cs = c :: ds ∧ (c.isDigit || (c == '-' && startsWithDigit ds)) = true := by
  unfold isNumeral at h
  split at h
  · obtain ⟨d, ds, rfl, hd, -⟩ := exists_of_isUnsignedNumeral h
    exact ⟨'-', d :: ds, rfl, hd⟩
  · obtain ⟨d, ds, rfl, hd, -⟩ := exists_of_isUnsignedNumeral h
    exact ⟨d, ds, rfl, by rw [hd, Bool.true_or]⟩

/-- **The scanner takes all of a numeral for a number**, where nothing follows that could belong to
it. -/
theorem number_append {cs rest : List Char} (h : isNumeral cs = true) (hrest : BreaksNumber rest) :
    number (cs ++ rest) = cs := by
  unfold isNumeral at h
  split at h
  · rw [List.cons_append, number_minus, unsignedNumber_append h hrest]
  · obtain ⟨d, ds, rfl, -, hd⟩ := exists_of_isUnsignedNumeral h
    rw [List.cons_append, number_of_ne hd, ← List.cons_append, unsignedNumber_append h hrest]

/-! ## Where numbers end -/

theorem isPrefix_append {as bs cs : List Char} (has : as <+: cs) (hbs : bs <+: cs.drop as.length) :
    as ++ bs <+: cs := by
  obtain ⟨ds, rfl⟩ := has
  rw [List.drop_left] at hbs
  exact (List.prefix_append_right_inj as).2 hbs

theorem isPrefix_exponent (cs : List Char) : exponent cs <+: cs := by
  cases cs with
  | nil => exact List.nil_prefix
  | cons e cs =>
    rw [exponent_cons]
    split
    · split
      · exact List.nil_prefix
      · have hsign : exponentSign cs <+: cs := by
          unfold exponentSign
          split <;> simp
        exact (List.prefix_cons_inj e).2 (isPrefix_append hsign (List.takeWhile_prefix _))
    · exact List.nil_prefix

theorem isPrefix_fraction (cs : List Char) : fraction cs <+: cs := by
  unfold fraction
  split
  · split
    · exact List.nil_prefix
    · exact (List.prefix_cons_inj '.').2 (List.takeWhile_prefix _)
  · exact List.nil_prefix

theorem isPrefix_number (cs : List Char) : number cs <+: cs := by
  have hsign : numberSign cs <+: cs := by
    unfold numberSign
    split <;> simp
  rw [number_eq, unsignedNumber, ← Text.drop_length_takeWhile]
  exact isPrefix_append hsign (isPrefix_append (List.takeWhile_prefix _)
    (isPrefix_append (isPrefix_fraction _) (isPrefix_exponent _)))

theorem newline_not_mem_digits (cs : List Char) : '\n' ∉ cs.takeWhile Char.isDigit := by
  intro h
  exact absurd (List.mem_takeWhile_imp h) (by decide)

theorem newline_not_mem_exponent (cs : List Char) : '\n' ∉ exponent cs := by
  cases cs with
  | nil => simp [exponent]
  | cons e cs =>
    have hsign : '\n' ∉ exponentSign cs := by
      unfold exponentSign
      split <;> decide
    rw [exponent_cons]
    split
    · next he =>
      split
      · simp
      · rcases he with rfl | rfl <;> simp [hsign, newline_not_mem_digits]
    · simp

theorem newline_not_mem_number (cs : List Char) : '\n' ∉ number cs := by
  have hsign : '\n' ∉ numberSign cs := by
    unfold numberSign
    split <;> decide
  have hfraction : ∀ cs, '\n' ∉ fraction cs := by
    intro cs
    unfold fraction
    split
    · split <;> simp [newline_not_mem_digits]
    · simp
  rw [number_eq, unsignedNumber, numberTail]
  simp only [List.mem_append, not_or]
  exact ⟨hsign, newline_not_mem_digits _, hfraction _, newline_not_mem_exponent _⟩

end Scanner

end RowFilter
