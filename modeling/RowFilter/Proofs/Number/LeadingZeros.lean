import RowFilter.Proofs.Compile.Acceptance
import RowFilter.Proofs.Compile.Faults
import RowFilter.Proofs.Number.Reading
import RowFilter.Proofs.Residual.Printing

/-!
# Numbers of texts and numbers of the compiler

There are two notions of a number.  The scanner finds a number by looking ahead, a character or two
at a time; the compiler asks whether a text as a whole is a number.  They agree up to leading zeros:
the scanner takes any row of digits for the integer part, and the compiler does not.

Both are compared with the notation itself, `NumberText`, which is an optional minus, digits, an
optional fraction and an optional exponent.  Where the scanner stops before a point or a mark that
it cannot use, something else is left over, so that the text is not one number by itself.

The index of a reference has to be more than a number.  It has no fraction and no exponent, and its
value has 64 bits: the notation of indices is `IndexText`.  A number that is no index is refused
where it stands for one, by an error of its own.

* `isNumeral_iff` — the numerals of the scanner are the texts in the notation of numbers.
* `yields_number_iff` — a text that is scanned as one number is one of them.
* `isNumber_iff` — the compiler asks for no redundant zero, and for nothing else.
* `toIndex_eq_none_iff` — the numbers that are no indices.
* `refused_of_sql` — a number that stops the compilation of a text is a numeral, and either no
  number or no index.
-/

set_option autoImplicit false

namespace RowFilter

namespace Number

/-! ## The notation of numbers -/

/-- One or more of the digits from `0` to `9`. -/
def IsDigitRow (ds : List Char) : Prop :=
  ds ≠ [] ∧ ∀ d ∈ ds, '0' ≤ d ∧ d ≤ '9'

/-- A fraction, or nothing. -/
inductive FractionText : List Char → Prop
  | none : FractionText []
  | digits {ds : List Char} (hds : IsDigitRow ds) : FractionText ('.' :: ds)

/-- An exponent, or nothing. -/
inductive ExponentText : List Char → Prop
  | none : ExponentText []
  | unsigned {mark : Char} {ds : List Char} (hmark : mark = 'e' ∨ mark = 'E')
      (hds : IsDigitRow ds) : ExponentText (mark :: ds)
  | signed {mark sign : Char} {ds : List Char} (hmark : mark = 'e' ∨ mark = 'E')
      (hsign : sign = '+' ∨ sign = '-') (hds : IsDigitRow ds) : ExponentText (mark :: sign :: ds)

/-- **The notation of numbers**: an optional minus, digits, an optional fraction and an optional
exponent. -/
inductive NumberText : List Char → Prop
  | plain {whole fraction exponent : List Char} (hwhole : IsDigitRow whole)
      (hfraction : FractionText fraction) (hexponent : ExponentText exponent) :
      NumberText (whole ++ (fraction ++ exponent))
  | minus {whole fraction exponent : List Char} (hwhole : IsDigitRow whole)
      (hfraction : FractionText fraction) (hexponent : ExponentText exponent) :
      NumberText ('-' :: (whole ++ (fraction ++ exponent)))

/-! ## Numerals -/

theorem isDigit_iff (c : Char) : c.isDigit = true ↔ '0' ≤ c ∧ c ≤ '9' := by
  rw [Text.isDigit_eq, Bool.and_eq_true, decide_eq_true_eq, decide_eq_true_eq]
  rfl

theorem isDigits_iff (ds : List Char) : isDigits ds = true ↔ IsDigitRow ds := by
  rw [isDigits, Bool.and_eq_true, Bool.not_eq_true', List.isEmpty_eq_false_iff, List.all_eq_true,
    IsDigitRow]
  simp only [isDigit_iff]

theorem isExponentPart_iff (cs : List Char) : isExponentPart cs = true ↔ ExponentText cs := by
  constructor
  · intro h
    have hpart := exponentPart_of_isExponentPart h
    generalize exponentValue cs = n at hpart
    cases hpart with
    | none => exact .none
    | unsigned hmark hds => exact .unsigned hmark ((isDigits_iff _).1 hds)
    | plus hmark hds => exact .signed hmark (.inl rfl) ((isDigits_iff _).1 hds)
    | minus hmark hds => exact .signed hmark (.inr rfl) ((isDigits_iff _).1 hds)
  · intro h
    cases h with
    | none => rfl
    | @unsigned mark ds hmark hds =>
      have hdigits := (isDigits_iff _).2 hds
      obtain ⟨d, ds, rfl, hd, -⟩ := Scanner.exists_of_isDigits hdigits
      rw [isExponentPart, Scanner.isExponent_of_isDigit hd, hdigits]
      simpa using hmark
    | @signed mark sign ds hmark hsign hds =>
      have hexponent : isExponent (sign :: ds) = true := by
        rcases hsign with rfl | rfl <;> exact (isDigits_iff _).2 hds
      rw [isExponentPart, hexponent]
      simpa using hmark

theorem isFractionPart_iff (cs : List Char) : isFractionPart cs = true ↔
    ∃ fraction exponent, cs = fraction ++ exponent ∧ FractionText fraction ∧
      ExponentText exponent := by
  constructor
  · intro h
    rcases Scanner.exists_of_isFractionPart h with ⟨ds, es, rfl, hds, hes⟩ | hexponent
    · exact ⟨'.' :: ds, es, rfl, .digits ((isDigits_iff _).1 hds), (isExponentPart_iff _).1 hes⟩
    · exact ⟨[], cs, rfl, .none, (isExponentPart_iff _).1 hexponent⟩
  · rintro ⟨fraction, exponent, rfl, hfraction, hexponent⟩
    have hpart := (isExponentPart_iff _).2 hexponent
    have hhead := Scanner.head_of_isExponentPart hpart Scanner.BreaksNumber.nil
    rw [List.append_nil] at hhead
    cases hfraction with
    | none =>
      cases exponent with
      | nil => rfl
      | cons c cs => rwa [List.nil_append, Scanner.isFractionPart_of_ne (hhead c rfl).2]
    | digits hds =>
      obtain ⟨hne, hall⟩ := Bool.and_eq_true_iff.1 ((isDigits_iff _).2 hds)
      obtain ⟨htake, hdrop⟩ := Text.span_append hall fun c hc => (hhead c hc).1
      rw [List.cons_append, isFractionPart, htake, hdrop, hne, hpart]
      rfl

theorem isUnsignedNumeral_iff (cs : List Char) : isUnsignedNumeral cs = true ↔
    ∃ whole fraction exponent, cs = whole ++ (fraction ++ exponent) ∧ IsDigitRow whole ∧
      FractionText fraction ∧ ExponentText exponent := by
  constructor
  · intro h
    rw [isUnsignedNumeral, Bool.and_eq_true, Bool.not_eq_true', Bool.eq_false_iff] at h
    obtain ⟨fraction, exponent, hrest, hfraction, hexponent⟩ := (isFractionPart_iff _).1 h.2
    refine ⟨cs.takeWhile Char.isDigit, fraction, exponent, ?_,
      (isDigits_iff _).1 (Scanner.isDigits_takeWhile h.1), hfraction, hexponent⟩
    rw [← hrest, List.takeWhile_append_dropWhile]
  · rintro ⟨whole, fraction, exponent, rfl, hwhole, hfraction, hexponent⟩
    have hpart := (isFractionPart_iff _).2 ⟨fraction, exponent, rfl, hfraction, hexponent⟩
    have hhead := Scanner.head_of_isFractionPart hpart Scanner.BreaksNumber.nil
    rw [List.append_nil] at hhead
    obtain ⟨hne, hall⟩ := Bool.and_eq_true_iff.1 ((isDigits_iff _).2 hwhole)
    obtain ⟨htake, hdrop⟩ := Text.span_append hall hhead
    rw [isUnsignedNumeral, htake, hdrop, hpart, hne]
    rfl

/-- **What the scanner takes for a number is in the notation of numbers.** -/
theorem isNumeral_iff (cs : List Char) : isNumeral cs = true ↔ NumberText cs := by
  constructor
  · intro h
    unfold isNumeral at h
    split at h
    all_goals
      obtain ⟨whole, fraction, exponent, rfl, hwhole, hfraction, hexponent⟩ :=
        (isUnsignedNumeral_iff _).1 h
    · exact .minus hwhole hfraction hexponent
    · exact .plain hwhole hfraction hexponent
  · intro h
    cases h with
    | @plain whole fraction exponent hwhole hfraction hexponent =>
      have hnumeral := (isUnsignedNumeral_iff _).2
        ⟨whole, fraction, exponent, rfl, hwhole, hfraction, hexponent⟩
      obtain ⟨d, ds, hds, -, hd⟩ := Scanner.exists_of_isUnsignedNumeral hnumeral
      rw [hds] at hnumeral ⊢
      rwa [Scanner.isNumeral_of_ne hd]
    | @minus whole fraction exponent hwhole hfraction hexponent =>
      exact (isUnsignedNumeral_iff _).2
        ⟨whole, fraction, exponent, rfl, hwhole, hfraction, hexponent⟩

/-- **A text is scanned as one number exactly if it is a numeral.** -/
theorem yields_number_iff (s : String) :
    (Scanner.ofText s).Yields [.number s] none ↔ isNumeral s.toList = true := by
  constructor
  · intro h
    exact h.isProper (.number s) (by simp)
  · intro h
    have hdone : ∃ here, ∀ us ending, (⟨[], here⟩ : Scanner).Yields us ending →
        (⟨s.toList ++ [], {}⟩ : Scanner).Yields ([.number s] ++ us) ending :=
      (Scanner.writes_number h).done {} (by simp) (by simp)
    obtain ⟨here, hyields⟩ := hdone
    have htext := hyields [] none (.ended rfl rfl)
    rwa [List.append_nil, List.append_nil] at htext

/-! ## Leading zeros -/

/-- The digits at the front of a text, behind a minus. -/
def integerPart : List Char → List Char
  | '-' :: cs => cs.takeWhile Char.isDigit
  | cs => cs.takeWhile Char.isDigit

/-- The integer part starts with a zero that could be left out. -/
def HasRedundantZero (text : String) : Prop :=
  ∃ d ds, integerPart text.toList = '0' :: d :: ds

theorem isUnsigned_iff (cs : List Char) : isUnsigned cs = true ↔
    isUnsignedNumeral cs = true ∧
      (cs.takeWhile Char.isDigit = ['0'] ∨ (cs.takeWhile Char.isDigit).head? ≠ some '0') := by
  constructor
  · intro h
    refine ⟨isUnsignedNumeral_of_isUnsigned h, ?_⟩
    unfold isUnsigned at h
    split at h
    · next cs =>
      have hhead := Scanner.head_of_isFractionPart h Scanner.BreaksNumber.nil
      rw [List.append_nil] at hhead
      have htake : (['0'] ++ cs).takeWhile Char.isDigit = ['0'] := (Text.span_append rfl hhead).1
      exact .inl htake
    · next c cs hc =>
      rw [Bool.and_eq_true] at h
      rw [List.takeWhile_cons_of_pos h.1]
      refine .inr fun hzero => hc (Option.some.inj hzero)
    · cases h
  · rintro ⟨h, hzero⟩
    obtain ⟨d, ds, rfl, hd, -⟩ := Scanner.exists_of_isUnsignedNumeral h
    rw [isUnsignedNumeral, List.takeWhile_cons_of_pos hd, List.dropWhile_cons_of_pos hd] at h
    rw [List.takeWhile_cons_of_pos hd] at hzero
    by_cases hd0 : d = '0'
    · subst hd0
      have hnil : ds.takeWhile Char.isDigit = [] := by simpa using hzero
      have hrest := List.takeWhile_append_dropWhile (p := Char.isDigit) (l := ds)
      rw [hnil, List.nil_append] at hrest
      rw [hrest] at h
      exact h
    · unfold isUnsigned
      split
      · next heq => cases heq; exact absurd rfl hd0
      · next heq => cases heq; simpa [hd] using h
      · next heq => cases heq

theorem isNumber_of_ne {c : Char} (h : c ≠ '-') (cs : List Char) :
    isNumber (c :: cs) = isUnsigned (c :: cs) := by
  unfold isNumber
  split
  · next heq => cases heq; exact absurd rfl h
  · rfl

theorem integerPart_of_ne {c : Char} (h : c ≠ '-') (cs : List Char) :
    integerPart (c :: cs) = (c :: cs).takeWhile Char.isDigit := by
  unfold integerPart
  split
  · next heq => cases heq; exact absurd rfl h
  · rfl

/-- **A numeral is a number unless a zero could be left out.** -/
theorem isNumber_iff (cs : List Char) : isNumber cs = true ↔
    isNumeral cs = true ∧ (integerPart cs = ['0'] ∨ (integerPart cs).head? ≠ some '0') := by
  rcases cs with _ | ⟨c, cs⟩
  · exact isUnsigned_iff []
  by_cases hc : c = '-'
  · rw [hc]
    exact isUnsigned_iff cs
  · rw [isNumber_of_ne hc, Scanner.isNumeral_of_ne hc, integerPart_of_ne hc]
    exact isUnsigned_iff (c :: cs)

theorem not_hasRedundantZero_iff (s : String) :
    ¬ HasRedundantZero s ↔
      integerPart s.toList = ['0'] ∨ (integerPart s.toList).head? ≠ some '0' := by
  rw [HasRedundantZero]
  rcases integerPart s.toList with _ | ⟨c, _ | ⟨d, ds⟩⟩
  · simp
  · simp [Classical.em]
  · simp

theorem isValid_of_isNumeral {s : String} (h : isNumeral s.toList = true) :
    isValid s = true ↔ ¬ HasRedundantZero s := by
  rw [isValid, isNumber_iff, not_hasRedundantZero_iff]
  exact and_iff_right h

/-! ## Indices -/

/-- **The notation of indices**: digits, perhaps behind a minus, whose value has 64 bits. -/
inductive IndexText : List Char → Prop
  | plain {ds : List Char} (hds : IsDigitRow ds) (hmax : digitsValue ds < 2 ^ 63) : IndexText ds
  | minus {ds : List Char} (hds : IsDigitRow ds) (hmin : digitsValue ds ≤ 2 ^ 63) :
      IndexText ('-' :: ds)

theorem indexText_minus_iff (ds : List Char) :
    IndexText ('-' :: ds) ↔ isDigits ds = true ∧ digitsValue ds ≤ 2 ^ 63 := by
  rw [isDigits_iff]
  constructor
  · intro h
    cases h with
    | plain hds _ => exact absurd (hds.2 '-' (by simp)) (by decide)
    | minus hds hmin => exact ⟨hds, hmin⟩
  · rintro ⟨hds, hmin⟩
    exact .minus hds hmin

theorem indexText_plain_iff {cs : List Char} (h : ∀ ds, cs ≠ '-' :: ds) :
    IndexText cs ↔ isDigits cs = true ∧ digitsValue cs < 2 ^ 63 := by
  rw [isDigits_iff]
  constructor
  · intro hcs
    cases hcs with
    | plain hds hmax => exact ⟨hds, hmax⟩
    | minus _ _ => exact absurd rfl (h _)
  · rintro ⟨hds, hmax⟩
    exact .plain hds hmax

/-- **What is no index of a reference is not in the notation of indices.** -/
theorem toIndex_eq_none_iff (text : String) :
    toIndex text = none ↔ ¬ IndexText text.toList := by
  rw [toIndex]
  split
  · next ds heq =>
    rw [heq, indexText_minus_iff, not_and, ite_eq_right_iff]
    refine imp_congr_right fun _ => ?_
    rw [ite_eq_right_iff, Segment.minIndex, Segment.maxIndex]
    simp only [reduceCtorEq, imp_false]
    omega
  · next hne =>
    rw [indexText_plain_iff hne, not_and, ite_eq_right_iff]
    refine imp_congr_right fun _ => ?_
    rw [ite_eq_right_iff, Segment.minIndex, Segment.maxIndex]
    simp only [reduceCtorEq, imp_false]
    omega

/-- A numeral that the compiler refuses: it is no number, or it is a number and no index.  Which of
the two it is, `valid` tells. -/
structure Refused (text : String) (valid : Bool) : Prop where
  numeral : isNumeral text.toList = true
  isValid_eq : isValid text = valid
  noIndex : valid = true → toIndex text = none

end Number

/-! ## Numbers that are refused -/

/-- The error refuses a number.  It does not take the text for a number, as a value or as the index
of a reference; or it takes it for a number, and not for an index.  Which of the two it does,
`valid` tells. -/
inductive Compile.RefusesNumber (text : String) : Bool → CompileError → Prop
  | value : RefusesNumber text false (.invalidNumber text)
  | index : RefusesNumber text false (.path (.invalidSegment text "number"))
  | nonIntegral : RefusesNumber text true (.path (.invalidSegment text "non-integral number"))

theorem Term.isWellFormed_of_mem {ts : List Term} (h : areWellFormed ts = true) {t : Term}
    (ht : t ∈ ts) : t.isWellFormed = true := by
  induction ts with
  | nil => cases ht
  | cons u ts ih =>
    rw [areWellFormed, Bool.and_eq_true] at h
    rcases List.mem_cons.1 ht with rfl | ht
    · exact h.1
    · exact ih h.2 ht

theorem Condition.isWellFormed_asserted {c : Condition} (h : c.isWellFormed = true) :
    c.asserted.isWellFormed = true := by
  cases c with
  | call ts => exact h
  | term t => cases t <;> first | exact h | cases h

namespace Path

theorem exists_of_mapM_segment {ts : List Term} {e : PathError}
    (h : ts.mapM segment = .error e) : ∃ t ∈ ts, segment t = .error e := by
  induction ts with
  | nil => cases h
  | cons t ts ih =>
    rw [List.mapM_cons] at h
    cases hsegment : segment t with
    | error e' =>
      rw [hsegment] at h
      cases h
      exact ⟨t, by simp, hsegment⟩
    | ok step =>
      rw [hsegment] at h
      cases hsteps : ts.mapM segment with
      | error e' =>
        simp only [bind, Except.bind, hsteps] at h
        cases h
        obtain ⟨u, hu, herror⟩ := ih hsteps
        exact ⟨u, List.mem_cons_of_mem t hu, herror⟩
      | ok steps =>
        simp only [bind, Except.bind, hsteps] at h
        cases h

/-- When a number is refused as a segment, as no number and as no index. -/
theorem segment_number_iff (text : String) :
    (segment (.number text) = .error (.invalidSegment text "number") ↔
      Number.isValid text = false) ∧
    (segment (.number text) = .error (.invalidSegment text "non-integral number") ↔
      Number.isValid text = true ∧ Number.toIndex text = none) := by
  rw [segment]
  cases Number.isValid text with
  | true => cases Number.toIndex text <;> simp
  | false => simp [Term.kindName]

/-- Only a number is refused as one. -/
theorem eq_number_of_segment {t : Term} {text kind : String}
    (h : segment t = .error (.invalidSegment text kind))
    (hkind : kind = "number" ∨ kind = "non-integral number") : t = .number text := by
  cases t with
  | number text' =>
    rw [segment] at h
    split at h
    · split at h
      · cases h
      · simp_all
    · simp_all
  | _ => rcases hkind with rfl | rfl <;> simp [segment, Term.kindName] at h

/-- A number that is refused as a segment is no number or no index. -/
theorem refused_of_segment {t : Term} {e : PathError} {text : String} {valid : Bool}
    (h : segment t = .error e) (he : Compile.RefusesNumber text valid (.path e))
    (ht : t.isWellFormed = true) : Number.Refused text valid := by
  cases he with
  | index =>
    obtain rfl := eq_number_of_segment h (.inl rfl)
    exact ⟨ht, (segment_number_iff text).1.1 h, by simp⟩
  | nonIntegral =>
    obtain rfl := eq_number_of_segment h (.inr rfl)
    obtain ⟨hvalid, hindex⟩ := (segment_number_iff text).2.1 h
    exact ⟨ht, hvalid, fun _ => hindex⟩

/-- A number that a reference has no path for is one of its segments. -/
theorem refused_of_ofRef {segments : List Term} {e : PathError} {text : String} {valid : Bool}
    (h : ofRef segments = .error e) (he : Compile.RefusesNumber text valid (.path e))
    (hsegments : (Term.ref segments).isWellFormed = true) : Number.Refused text valid := by
  rcases segments with _ | ⟨head, _ | ⟨segment', segments⟩⟩
  · cases h
    cases he
  · cases head <;> cases hsegments
  cases head with
  | var name =>
    rw [Term.isWellFormed, Bool.and_eq_true, Bool.and_eq_true] at hsegments
    have hall : Term.areWellFormed (segment' :: segments) = true := by
      rw [Term.areWellFormed, hsegments.1.2, hsegments.2, Bool.and_self]
    cases hsteps : (segment' :: segments).mapM segment with
    | ok steps =>
      simp only [ofRef, hsteps] at h
      cases h
    | error e' =>
      simp only [ofRef, hsteps] at h
      cases h
      obtain ⟨t, ht, herror⟩ := exists_of_mapM_segment hsteps
      exact refused_of_segment herror he (Term.isWellFormed_of_mem hall ht)
  | _ => cases hsegments

end Path

namespace Compile

variable {s : Settings}

/-- A number that a term fails for stands in the term, so it is a numeral if the term can be
written. -/
theorem FailsAt.refused {t : Term} {inner : List Term} {text : String} {valid : Bool}
    {cause : CompileError} (h : FailsAt s t inner cause) (hcause : RefusesNumber text valid cause)
    (ht : t.isWellFormed = true) : Number.Refused text valid := by
  induction h with
  | here h =>
    cases h with
    | number hinvalid =>
      cases hcause
      exact ⟨ht, hinvalid, by simp⟩
    | path he => exact Path.refused_of_ofRef he hcause ht
    | _ => cases hcause
  | array _ _ ih => exact ih hcause (Term.isWellFormed_of_mem ht (by simp))
  | set hes _ _ ih =>
    exact ih hcause (Term.isWellFormed_of_mem ht (Term.mem_sorted.1 (by simp [hes])))
  | left _ _ _ ih =>
    obtain ⟨_, _, _, hts, -, -, harguments, -⟩ := exists_of_isWellFormed_call ht
    cases hts
    exact ih hcause (Term.isWellFormed_of_mem harguments (by simp))
  | right _ _ _ _ ih =>
    obtain ⟨_, _, _, hts, -, -, harguments, -⟩ := exists_of_isWellFormed_call ht
    cases hts
    exact ih hcause (Term.isWellFormed_of_mem harguments (by simp))

/-- What fails to compile has an expression that is rejected for the root cause. -/
theorem exists_rejectedAt {r : Residual} {err : CompileError} (h : predicate s r = .error err) :
    ∃ q ∈ r, ∃ e ∈ q, ∃ inner, RejectedAt s e inner err.rootCause := by
  have hempty : [] ∉ r := by
    intro hmem
    obtain ⟨n, hn⟩ := predicate_of_accepted (s := s) (.inr (.inl hmem))
    cases h.symm.trans hn
  rcases accepted_or_rejected (s := s) r with
    hall | ⟨before, q, after, es, e, fs, inner, cause, rfl, hbefore, rfl, hes, he⟩
  · obtain ⟨n, hn⟩ := predicate_of_accepted (.inr (.inr hall))
    cases h.symm.trans hn
  · cases h.symm.trans (predicate_of_rejectedAt hempty hbefore hes he)
    refine ⟨es ++ e :: fs, by simp, e, by simp, inner, ?_⟩
    have hcause : (within inner cause).rootCause = cause :=
      (rootCause_within inner cause).trans he.rootCause
    exact hcause.symm ▸ he

/-- **A number that stops the compilation of what can be written is a numeral**, and either no
number or no index. -/
theorem refused_of_sql {r : Residual} {err : CompileError} {text : String} {valid : Bool}
    (hr : r.isWellFormed = true) (h : sql s r = .error err)
    (hcause : RefusesNumber text valid err.rootCause) : Number.Refused text valid := by
  have hpredicate : predicate s r = .error err := by
    cases hpredicate : predicate s r with
    | error e =>
      simp only [sql, hpredicate] at h
      rw [Except.error.inj h]
    | ok n =>
      by_cases hfaults : n.render.faults = []
      · cases h.symm.trans (sql_of_predicate hpredicate hfaults)
      · cases h.symm.trans (sql_eq_generation hpredicate hfaults)
        cases hcause
  obtain ⟨q, hq, e, he, inner, hrejected⟩ := exists_rejectedAt hpredicate
  have hquery : Query.isWellFormed q = true := List.all_eq_true.1 hr q hq
  rw [Query.isWellFormed, Bool.and_eq_true] at hquery
  have hcondition := List.all_eq_true.1 hquery.2 e he
  generalize err.rootCause = cause at hcause hrejected
  cases hrejected with
  | condition _ hfails => exact hfails.refused hcause (Condition.isWellFormed_asserted hcondition)
  | _ => cases hcause

end Compile

namespace Number

/-- **The scanner and the compiler agree on numbers up to redundant zeros.**  A text is scanned as
one number exactly if it is in the notation of numbers, and it is a number exactly if moreover its
integer part is a single zero or does not start with one.

So a number that any scanner finds in any text is a value unless it has a redundant zero.  As the
index of a reference it is refused as no number exactly if it has one, and refused as no integer
exactly if it has none and is not in the notation of indices.  What is parsed from a text fails to
compile for a number in no other cases: where an error refuses a text as no number, the text has a
redundant zero; where it refuses a number as no integer, the number is not in the notation of
indices. -/
theorem valid_iff_scanned (s : String) :
    ((Scanner.ofText s).Yields [.number s] none ↔ NumberText s.toList) ∧
    (isValid s = true ↔ (Scanner.ofText s).Yields [.number s] none ∧
      (integerPart s.toList = ['0'] ∨ (integerPart s.toList).head? ≠ some '0')) ∧
    (∀ (scanner scanner' : Scanner) (start : Position),
      scanner.next = (⟨start, .ok (.number s)⟩, scanner') →
        (∀ settings, HasRedundantZero s →
          Compile.term settings (.number s) = .error (.invalidNumber s)) ∧
        (∀ settings, ¬ HasRedundantZero s →
          Compile.term settings (.number s) = .ok (.number s)) ∧
        (Path.segment (.number s) = .error (.invalidSegment s "number") ↔ HasRedundantZero s) ∧
        (Path.segment (.number s) = .error (.invalidSegment s "non-integral number") ↔
          ¬ HasRedundantZero s ∧ ¬ IndexText s.toList)) ∧
    ∀ (text : String) (r : Residual) (settings : Compile.Settings) (err : CompileError),
      Residual.parse text = .ok r → Compile.sql settings r = .error err →
        (Compile.RefusesNumber s false err.rootCause →
          NumberText s.toList ∧ HasRedundantZero s) ∧
        (Compile.RefusesNumber s true err.rootCause →
          NumberText s.toList ∧ ¬ HasRedundantZero s ∧ ¬ IndexText s.toList) := by
  refine ⟨?_, ?_, fun scanner scanner' start hnext => ?_, fun text r settings err hr herr => ?_⟩
  · rw [yields_number_iff, isNumeral_iff]
  · rw [yields_number_iff, isValid, isNumber_iff]
  · have hproper := (Scanner.next_ok hnext rfl).resolve_left (by simp)
    have hvalid := isValid_of_isNumeral hproper.2
    refine ⟨fun settings hzero => ?_, fun settings hzero => ?_, ?_, ?_⟩
    · have hinvalid : ¬ isValid s = true := fun h => hvalid.1 h hzero
      rw [Compile.term, if_neg hinvalid]
    · rw [Compile.term, if_pos (hvalid.2 hzero)]
    · rw [(Path.segment_number_iff s).1, ← Bool.not_eq_true, hvalid, Classical.not_not]
    · rw [(Path.segment_number_iff s).2, hvalid, toIndex_eq_none_iff]
  · have hrefused {valid : Bool} (h : Compile.RefusesNumber s valid err.rootCause) :
        Refused s valid :=
      Compile.refused_of_sql (Residual.isWellFormed_of_parse hr) herr h
    refine ⟨fun h => ?_, fun h => ?_⟩
    · obtain ⟨hnumeral, hinvalid, -⟩ := hrefused h
      refine ⟨(isNumeral_iff _).1 hnumeral, ?_⟩
      by_contra hzero
      rw [(isValid_of_isNumeral hnumeral).2 hzero] at hinvalid
      cases hinvalid
    · obtain ⟨hnumeral, hvalid, hindex⟩ := hrefused h
      exact ⟨(isNumeral_iff _).1 hnumeral, (isValid_of_isNumeral hnumeral).1 hvalid,
        (toIndex_eq_none_iff s).1 (hindex rfl)⟩

/-- A number without a redundant zero that is refused nonetheless: an index with a fraction. -/
theorem sql_refuses_fraction :
    isValid "1.5" = true ∧ ¬ HasRedundantZero "1.5" ∧
      ∃ r err, Residual.parse "input.tags[1.5] = \"a\"" = .ok r ∧
        Compile.sql
          { resolvers := some [.column (Path.ofDotted "input.tags") "tags" (.array .string)] } r =
            .error err ∧
        err.rootCause = .path (.invalidSegment "1.5" "non-integral number") := by
  let r : Residual :=
    [[.ofCall "eq" [.ref [.var "input", .string "tags", .number "1.5"], .string "a"]]]
  have htext : r.text = "input.tags[1.5] = \"a\"" := by decide +kernel
  have hstrings : ∀ s ∈ r.strings, '\x08' ∉ s.toList ∧ '\x0c' ∉ s.toList := by decide
  have hparse : Residual.parse r.text = .ok r :=
    Residual.parse_of_isReadable (by decide +kernel) hstrings
  refine ⟨rfl, ?_, r, _, htext ▸ hparse, rfl, rfl⟩
  rintro ⟨d, ds, h⟩
  cases h

end Number

end RowFilter
