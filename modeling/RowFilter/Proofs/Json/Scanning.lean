import RowFilter.Json.Reader
import RowFilter.Proofs.Residual.Collection
import RowFilter.Proofs.Token.Writing

/-!
# JSON documents read as tokens

The scanner of residuals and the reader of JSON documents go over the same characters by rules of
their own.  They disagree about strings: the scanner knows neither pairs of surrogates nor the
escapes of backspace and form feed.  They disagree about members: the scanner has no colon.  They
disagree about what may follow a word.  But where the scanner finds no error in a document, it
cuts it at the same places, so that the brackets of the tokens are those of the document.

* `Scanner.Crosses` — a scanner without errors comes from one place of a text to another.
* `Json.ReadsValue` — one step of the reader.
* `Json.ValueTokens` — the tokens of a value.
* `Json.crosses_value` — a scanner without errors finds the tokens of a value.
-/

set_option autoImplicit false

namespace RowFilter

namespace Scanner

/-! ## From one place to another -/

theorem Yields.unique {s : Scanner} {ts us : List Token} {ending ending' : Option ScanError}
    (h : s.Yields ts ending) (h' : s.Yields us ending') : ts = us ∧ ending = ending' := by
  induction h generalizing us ending' with
  | ended hnext hl =>
    cases h' with
    | ended => exact ⟨rfl, rfl⟩
    | failed hnext' hl' =>
      cases hnext.symm.trans hnext'
      cases hl.symm.trans hl'
    | more hnext' hl' ht' =>
      cases hnext.symm.trans hnext'
      exact absurd (Except.ok.inj (hl'.symm.trans hl)) ht'
  | failed hnext hl =>
    cases h' with
    | ended hnext' hl' =>
      cases hnext.symm.trans hnext'
      cases hl.symm.trans hl'
    | failed hnext' hl' =>
      cases hnext.symm.trans hnext'
      cases hl.symm.trans hl'
      exact ⟨rfl, rfl⟩
    | more hnext' hl' _ _ =>
      cases hnext.symm.trans hnext'
      cases hl.symm.trans hl'
  | more hnext hl ht _ ih =>
    cases h' with
    | ended hnext' hl' =>
      cases hnext.symm.trans hnext'
      exact absurd (Except.ok.inj (hl.symm.trans hl')) ht
    | failed hnext' hl' =>
      cases hnext.symm.trans hnext'
      cases hl.symm.trans hl'
    | more hnext' hl' _ h' =>
      cases hnext.symm.trans hnext'
      cases hl.symm.trans hl'
      obtain ⟨rfl, rfl⟩ := ih h'
      exact ⟨rfl, rfl⟩

/-- **A scanner at `cs` that meets no error comes to `rest`**, and the tokens up to there satisfy
`P`. -/
def Crosses (P : List Token → Prop) (cs rest : List Char) : Prop :=
  ∀ ⦃here : Position⦄ ⦃ts : List Token⦄, (⟨cs, here⟩ : Scanner).Yields ts none →
    ∃ here' us vs, ts = us ++ vs ∧ P us ∧ (⟨rest, here'⟩ : Scanner).Yields vs none

namespace Crosses

variable {P Q R : List Token → Prop} {cs ds es : List Char}

theorem trans (h : Crosses P cs ds) (h' : Crosses Q ds es)
    (hR : ∀ us vs, P us → Q vs → R (us ++ vs)) : Crosses R cs es := by
  intro here ts hts
  obtain ⟨here₁, us, ts₁, rfl, hus, hts₁⟩ := h hts
  obtain ⟨here₂, vs, ws, rfl, hvs, hws⟩ := h' hts₁
  exact ⟨here₂, us ++ vs, ws, (List.append_assoc us vs ws).symm, hR us vs hus hvs, hws⟩

theorem mono (h : Crosses P cs ds) (hQ : ∀ us, P us → Q us) : Crosses Q cs ds := by
  intro here ts hts
  obtain ⟨here', us, vs, rfl, hus, hvs⟩ := h hts
  exact ⟨here', us, vs, rfl, hQ us hus, hvs⟩

/-- An error that is met for certain makes everything true of what is crossed without one. -/
theorem absurd (h : Crosses P cs ds) (h' : Crosses (fun _ => False) ds es) : Crosses Q cs es :=
  h.trans h' fun _ _ _ hfalse => hfalse.elim

end Crosses

/-- Characters that write tokens are crossed with these tokens. -/
theorem Writes.crosses {cs rest : List Char} {follows : Char → Bool} {ts : List Token}
    (h : Writes cs follows ts []) (hrest : ∀ c ∈ rest.head?, follows c = true) :
    Crosses (· = ts) (cs ++ rest) rest := by
  intro here us hus
  obtain ⟨here', hdone⟩ := h.done here hrest (by simp)
  obtain ⟨vs, ending, hvs⟩ := exists_yields ⟨rest, here'⟩
  obtain ⟨rfl, rfl⟩ := hus.unique (hdone vs ending hvs)
  exact ⟨here', ts, vs, rfl, rfl, hvs⟩

theorem crosses_single {c : Char} {t : Token} (h : single c = some t) (rest : List Char) :
    Crosses (· = [t]) (c :: rest) rest :=
  (@writes_single c t (fun _ => true) h).crosses fun _ _ => rfl

theorem crosses_colon (cs rest : List Char) : Crosses (fun _ => False) (':' :: cs) rest := by
  have hcolon : isIdentifierStart ':' = false := by decide
  intro here ts hts
  have hnext : (⟨':' :: cs, here⟩ : Scanner).next =
      (⟨here, .error ⟨.unexpected ':', here⟩⟩, ⟨':' :: cs, here⟩) := by
    rw [next, skip_of_ne (by decide) (by decide),
      token_of_class (p := fun c => c == ':') (by decide) rfl, hcolon]
    rfl
  cases hts with
  | ended h hl =>
    cases hnext.symm.trans h
    cases hl
  | more h hl =>
    cases hnext.symm.trans h
    cases hl

end Scanner

namespace Json

open Scanner (Crosses)
open Grammar (Nested)

/-! ## Spaces -/

theorem isBlank_of_isSpace {c : Char} (h : isSpace c = true) : Text.isBlank c = true := by
  simp only [isSpace, Bool.or_eq_true, beq_iff_eq] at h
  rcases h with ((rfl | rfl) | rfl) | rfl <;> decide

/-- Of spaces only the newlines are tokens. -/
theorem crosses_skipSpace (cs : List Char) :
    Crosses (fun us => ∃ blanks, us = List.replicate blanks .newline) cs (skipSpace cs) := by
  induction cs with
  | nil => exact fun here ts hts => ⟨here, [], ts, rfl, ⟨0, rfl⟩, hts⟩
  | cons c cs ih =>
    rw [skipSpace, List.dropWhile_cons]
    split
    · next hspace =>
      by_cases hline : c = '\n'
      · subst hline
        have hnewline : Scanner.Writes ['\n'] (fun _ => true) [.newline] [] :=
          Scanner.writes_newline
        refine (hnewline.crosses fun _ _ => rfl).trans ih ?_
        rintro us vs rfl ⟨blanks, rfl⟩
        exact ⟨blanks + 1, rfl⟩
      · intro here ts hts
        have hskip : (⟨c :: cs, here⟩ : Scanner).skip = (⟨cs, here.right 1⟩ : Scanner).skip := by
          have hcomment : c ≠ '#' := by
            rintro rfl
            exact absurd hspace (by decide)
          rw [Scanner.skip, Scanner.skipFrom, if_neg hline, beq_eq_false_iff_ne.2 hcomment,
            isBlank_of_isSpace hspace]
          rfl
        exact ih (hts.of_skip hskip.symm)
    · exact fun here ts hts => ⟨here, [], ts, rfl, ⟨0, rfl⟩, hts⟩

/-- What follows a value in a document. -/
def EndsValue (rest : List Char) : Prop :=
  ∀ c ∈ rest.head?, isSpace c = true ∨ c = ',' ∨ c = ']' ∨ c = '\x7d'

theorem EndsValue.of_skipSpace {rest : List Char}
    (h : ∀ c ∈ (skipSpace rest).head?, c = ',' ∨ c = ']' ∨ c = '\x7d') : EndsValue rest := by
  intro c hc
  cases rest with
  | nil => cases hc
  | cons d rest =>
    cases hc
    by_cases hspace : isSpace c = true
    · exact .inl hspace
    · rw [skipSpace, List.dropWhile_cons_of_neg hspace] at h
      exact .inr (h c rfl)

theorem EndsValue.endsNumber {rest : List Char} (h : EndsValue rest) :
    ∀ c ∈ rest.head?, Scanner.endsNumber c = true := by
  intro c hc
  have hc := h c hc
  simp only [isSpace, Bool.or_eq_true, beq_iff_eq] at hc
  rcases hc with (((rfl | rfl) | rfl) | rfl) | rfl | rfl | rfl <;> decide

theorem EndsValue.endsWord {rest : List Char} (h : EndsValue rest) :
    ∀ c ∈ rest.head?, (!isIdentifierRest c) = true :=
  fun c hc => (Bool.and_eq_true_iff.1 (h.endsNumber c hc)).1

/-! ## Strings -/

theorem newline_of_control {c : Char} (h : ¬ c.toNat < 0x20) : c ≠ '\n' := by
  rintro rfl
  exact h (by decide)

theorem charOfCode_of_isHighSurrogate {n : Nat} (h : isHighSurrogate n = true) :
    Scanner.charOfCode n = none := by
  rw [isHighSurrogate, Bool.and_eq_true, decide_eq_true_eq, decide_eq_true_eq] at h
  rw [Scanner.charOfCode, if_neg]
  rintro (hvalid | hvalid) <;> omega

/-- Four hexadecimal digits are the same number to the scanner and to the reader. -/
theorem scanner_stringFrom_codeUnit {d₁ d₂ d₃ d₄ : Char} {n : Nat}
    (h : codeUnit d₁ d₂ d₃ d₄ = some n) (start here : Position) (read es : List Char) :
    Scanner.stringFrom start here read ('\\' :: 'u' :: d₁ :: d₂ :: d₃ :: d₄ :: es) =
      match Scanner.charOfCode n with
      | some c => Scanner.stringFrom start (here.right 6) (c :: read) es
      | none => (.error ⟨.badCodePoint (String.ofList [d₁, d₂, d₃, d₄]), here.right 6⟩,
          ⟨es, here.right 6⟩) := by
  obtain ⟨hdigits, ⟨⟩⟩ := Option.ite_none_right_eq_some.1 h
  have hcount : ([d₁, d₂, d₃, d₄].takeWhile Scanner.isHexDigit).length = 4 := by
    rw [List.takeWhile_eq_self_iff.2 (List.all_eq_true.1 hdigits)]
    rfl
  rw [Scanner.stringFrom.eq_def]
  simp only [List.take_succ_cons, List.take_zero, hcount]
  rfl

/-- **Where the scanner finds a string, it finds the end that the reader finds.**  The two need not
agree on what the string is. -/
theorem rest_stringFrom {read cs rest : List Char} {s : String}
    (h : stringFrom read cs = some (s, rest)) {start here : Position} {read' : List Char}
    {value : String} {s' : Scanner}
    (hscan : Scanner.stringFrom start here read' cs = (.ok value, s')) : s'.rest = rest := by
  -- The cases are those of the reader in which it goes on; in all others it finds no string.
  fun_induction stringFrom read cs generalizing here read' with
  | case2 read cs =>
    cases h
    rw [Scanner.stringFrom] at hscan
    cases hscan
    rfl
  | case5 read d₁ d₂ d₃ d₄ n hn hhigh =>
    rw [scanner_stringFrom_codeUnit hn, charOfCode_of_isHighSurrogate hhigh] at hscan
    cases hscan
  | case9 read d₁ d₂ d₃ d₄ es n hn _ _ ih =>
    rw [scanner_stringFrom_codeUnit hn] at hscan
    split at hscan
    · exact ih h hscan
    · cases hscan
  | case10 read e ds _ c hc ih =>
    have hu : e ≠ 'u' := by
      rintro rfl
      cases hc
    rw [Scanner.stringFrom.eq_def] at hscan
    simp only at hscan
    split at hscan
    · exact ih h hscan
    · cases hscan
  | case14 read c cs hquote hslash hcontrol ih =>
    rw [Scanner.stringFrom_plain hquote (newline_of_control hcontrol) hslash] at hscan
    exact ih h hscan
  | _ => cases h

theorem crosses_string {cs rest : List Char} {s : String} (h : stringFrom [] cs = some (s, rest)) :
    Crosses (fun us => ∃ value, us = [.string value]) ('"' :: cs) rest := by
  intro here ts hts
  obtain ⟨result, s', hscan⟩ : ∃ result s',
      Scanner.stringFrom here (here.right 1) [] cs = (result, s') := ⟨_, _, rfl⟩
  have hnext := Scanner.next_string hscan
  cases hts with
  | ended hnext' hl =>
    cases hnext.symm.trans hnext'
    cases result <;> cases hl
  | more hnext' hl _ hts =>
    cases hnext.symm.trans hnext'
    cases result with
    | error e => cases hl
    | ok value =>
      cases hl
      obtain ⟨rest', here'⟩ := s'
      obtain rfl : rest' = rest := rest_stringFrom h hscan
      exact ⟨here', [.string value], _, rfl, ⟨value, rfl⟩, hts⟩

/-! ## Numbers -/

open Number (isDigits isExponentPart isFractionPart isUnsignedNumeral isNumeral)

theorem digits_eq_some {cs ds rest : List Char} (h : digits cs = some (ds, rest)) :
    cs = ds ++ rest ∧ isDigits ds = true := by
  obtain ⟨hne, ⟨⟩⟩ := Option.ite_none_left_eq_some.1 h
  exact ⟨List.takeWhile_append_dropWhile.symm, Scanner.isDigits_takeWhile hne⟩

theorem whole_eq_some {cs ds rest : List Char} (h : whole cs = some (ds, rest)) :
    cs = ds ++ rest ∧ isDigits ds = true := by
  unfold whole at h
  split at h
  · split at h
    · cases h
    · cases h
      exact ⟨rfl, rfl⟩
  · exact digits_eq_some h

theorem exponent_eq_some {cs power rest : List Char} (h : exponent cs = some (power, rest)) :
    ∃ es, cs = es ++ rest ∧ isExponentPart es = true := by
  cases cs with
  | nil =>
    cases h
    exact ⟨[], rfl, rfl⟩
  | cons e cs =>
    rw [exponent.eq_def] at h
    dsimp only at h
    split at h
    · next he =>
      have hmark (es : List Char) : isExponentPart (e :: es) = Number.isExponent es := by
        rcases he with rfl | rfl <;> rfl
      split at h
      · obtain ⟨⟨ds, rest⟩, hds, ⟨⟩⟩ := Option.map_eq_some_iff.1 h
        obtain ⟨rfl, hdigits⟩ := digits_eq_some hds
        exact ⟨e :: '-' :: ds, rfl, (hmark _).trans hdigits⟩
      · obtain ⟨⟨ds, rest⟩, hds, ⟨⟩⟩ := Option.map_eq_some_iff.1 h
        obtain ⟨rfl, hdigits⟩ := digits_eq_some hds
        exact ⟨e :: '+' :: ds, rfl, (hmark _).trans hdigits⟩
      · obtain ⟨⟨ds, rest⟩, hds, ⟨⟩⟩ := Option.map_eq_some_iff.1 h
        obtain ⟨rfl, hdigits⟩ := digits_eq_some hds
        refine ⟨e :: ds, rfl, (hmark _).trans ?_⟩
        obtain ⟨d, ds, rfl, hd, -⟩ := Scanner.exists_of_isDigits hdigits
        exact (Scanner.isExponent_of_isDigit hd ds).trans hdigits
    · cases h
      exact ⟨[], rfl, rfl⟩

theorem fraction_eq_some {cs part mid power rest : List Char}
    (hfraction : fraction cs = some (part, mid)) (hexponent : exponent mid = some (power, rest)) :
    ∃ fs, cs = fs ++ rest ∧ isFractionPart fs = true := by
  obtain ⟨es, rfl, hes⟩ := exponent_eq_some hexponent
  have hhead := Scanner.head_of_isExponentPart hes Scanner.BreaksNumber.nil
  rw [List.append_nil] at hhead
  unfold fraction at hfraction
  split at hfraction
  · obtain ⟨⟨ds, mid⟩, hds, ⟨⟩⟩ := Option.map_eq_some_iff.1 hfraction
    obtain ⟨rfl, hdigits⟩ := digits_eq_some hds
    obtain ⟨hne, hall⟩ := Bool.and_eq_true_iff.1 hdigits
    obtain ⟨htake, hdrop⟩ := Text.span_append hall fun c hc => (hhead c hc).1
    refine ⟨'.' :: (ds ++ es), by simp, ?_⟩
    rw [isFractionPart, htake, hdrop, hne, hes, Bool.and_true]
  · cases hfraction
    refine ⟨es, rfl, ?_⟩
    cases es with
    | nil => rfl
    | cons e es => rwa [Scanner.isFractionPart_of_ne (hhead e rfl).2]

/-- The reader takes only numerals for numbers. -/
theorem readNumber_eq_some {cs rest : List Char} {text : String}
    (h : readNumber cs = some (text, rest)) :
    ∃ ns, cs = ns ++ rest ∧ isNumeral ns = true := by
  have hunsigned {ds integer part power mid mid' : List Char}
      (hwhole : whole ds = some (integer, mid)) (hfraction : fraction mid = some (part, mid'))
      (hexponent : exponent mid' = some (power, rest)) :
      ∃ d ns, ds = d :: ns ++ rest ∧ d.isDigit = true ∧ isUnsignedNumeral (d :: ns) = true := by
    obtain ⟨rfl, hdigits⟩ := whole_eq_some hwhole
    obtain ⟨fs, rfl, hfs⟩ := fraction_eq_some hfraction hexponent
    have hhead := Scanner.head_of_isFractionPart hfs Scanner.BreaksNumber.nil
    rw [List.append_nil] at hhead
    obtain ⟨hne, hall⟩ := Bool.and_eq_true_iff.1 hdigits
    obtain ⟨htake, hdrop⟩ := Text.span_append hall hhead
    obtain ⟨d, ds, rfl, hd, -⟩ := Scanner.exists_of_isDigits hdigits
    refine ⟨d, ds ++ fs, by simp, hd, ?_⟩
    rw [← List.cons_append, isUnsignedNumeral, htake, hdrop, hne, hfs, Bool.and_true]
  unfold readNumber at h
  obtain ⟨⟨integer, mid⟩, hwhole, h⟩ := Option.bind_eq_some_iff.1 h
  obtain ⟨⟨part, mid'⟩, hfraction, h⟩ := Option.bind_eq_some_iff.1 h
  obtain ⟨⟨power, rest⟩, hexponent, ⟨⟩⟩ := Option.bind_eq_some_iff.1 h
  split at hwhole
  · obtain ⟨d, ns, rfl, -, hns⟩ := hunsigned hwhole hfraction hexponent
    exact ⟨'-' :: d :: ns, rfl, hns⟩
  · obtain ⟨d, ns, rfl, hd, hns⟩ := hunsigned hwhole hfraction hexponent
    have hminus : d ≠ '-' := by
      rintro rfl
      exact absurd hd (by decide)
    exact ⟨d :: ns, rfl, (Scanner.isNumeral_of_ne hminus ns).trans hns⟩

/-! ## Values -/

/-- **One step of the reader**: a value at the very front, and what stands behind it.  What is
inside of brackets is read with `fuel`. -/
inductive ReadsValue (fuel : Nat) : List Char → Json → List Char → Prop
  | null (rest : List Char) : ReadsValue fuel ('n' :: 'u' :: 'l' :: 'l' :: rest) null rest
  | yes (rest : List Char) : ReadsValue fuel ('t' :: 'r' :: 'u' :: 'e' :: rest) (boolean true) rest
  | no (rest : List Char) :
      ReadsValue fuel ('f' :: 'a' :: 'l' :: 's' :: 'e' :: rest) (boolean false) rest
  | string {cs rest : List Char} {s : String} : stringFrom [] cs = some (s, rest) →
      ReadsValue fuel ('"' :: cs) (string s) rest
  | noItems {cs rest : List Char} : skipSpace cs = ']' :: rest →
      ReadsValue fuel ('[' :: cs) (array []) rest
  | items {cs rest : List Char} {items : List Json} (depth : Nat) :
      itemsWith fuel depth (skipSpace cs) = some (items, rest) →
      ReadsValue fuel ('[' :: cs) (array items) rest
  | noMembers {cs rest : List Char} : skipSpace cs = '\x7d' :: rest →
      ReadsValue fuel ('\x7b' :: cs) (object []) rest
  | members {cs rest : List Char} {members : List (String × Json)} (depth : Nat) :
      membersWith fuel depth (skipSpace cs) = some (members, rest) →
      ReadsValue fuel ('\x7b' :: cs) (object members) rest
  | number {cs rest : List Char} {text : String} : readNumber cs = some (text, rest) →
      ReadsValue fuel cs (number text) rest

theorem readsValue_of_valueWith {fuel depth : Nat} {cs rest : List Char} {v : Json}
    (h : valueWith (fuel + 1) depth cs = some (v, rest)) :
    ReadsValue fuel (skipSpace cs) v rest := by
  rw [valueWith.eq_def] at h
  dsimp only at h
  split at h
  · next hcs =>
    cases h
    exact hcs ▸ .null rest
  · next hcs =>
    cases h
    exact hcs ▸ .yes rest
  · next hcs =>
    cases h
    exact hcs ▸ .no rest
  · next hcs =>
    obtain ⟨⟨s, rest⟩, hs, ⟨⟩⟩ := Option.map_eq_some_iff.1 h
    exact hcs ▸ .string hs
  · next hcs =>
    rw [hcs]
    split at h
    · cases h
    · split at h
      · next hspace =>
        cases h
        exact .noItems hspace
      · obtain ⟨⟨items, rest⟩, hitems, ⟨⟩⟩ := Option.map_eq_some_iff.1 h
        exact .items _ hitems
  · next hcs =>
    rw [hcs]
    split at h
    · cases h
    · split at h
      · next hspace =>
        cases h
        exact .noMembers hspace
      · obtain ⟨⟨members, rest⟩, hmembers, ⟨⟩⟩ := Option.map_eq_some_iff.1 h
        exact .members _ hmembers
  · obtain ⟨⟨text, rest⟩, hnumber, ⟨⟩⟩ := Option.map_eq_some_iff.1 h
    exact .number hnumber

/-- The value is an array or an object. -/
def isContainer : Json → Bool
  | array _ => true
  | object _ => true
  | _ => false

/-- **The tokens of a value.**  Newlines may stand before it; a container starts with the bracket
that its last token closes. -/
inductive ValueTokens : Json → List Token → Prop
  | scalar {v : Json} {t : Token} (blanks : Nat) : v.isContainer = false → t.isPlain = true →
      ValueTokens v (List.replicate blanks .newline ++ [t])
  | container {v : Json} {us : List Token} {opening closing : Token} (blanks : Nat) :
      opening = .openBracket ∨ opening = .openBrace → closing.isClosing = true → Nested us →
      ValueTokens v (List.replicate blanks .newline ++ opening :: (us ++ [closing]))

theorem ValueTokens.nested {v : Json} {us : List Token} (h : ValueTokens v us) : Nested us := by
  cases h with
  | scalar blanks _ ht => exact (Nested.newlines blanks).append (.plain ht)
  | container blanks hopening hclosing hus =>
    refine (Nested.newlines blanks).append (.brackets ?_ hclosing ?_ hus)
    · rcases hopening with rfl | rfl <;> decide
    · rcases hopening with rfl | rfl <;> exact fun _ => rfl

/-- A word that the reader knows is a word to the scanner. -/
theorem crosses_word {c : Char} {cs rest : List Char} (hc : isIdentifierStart c = true)
    (hcs : cs.all isIdentifierRest = true)
    (hplain : (Token.ofWord (String.ofList (c :: cs))).isPlain = true) (hrest : EndsValue rest) :
    Crosses (fun us => ∃ t : Token, t.isPlain = true ∧ us = [t]) (c :: cs ++ rest) rest :=
  ((Scanner.writes_word hc hcs).crosses hrest.endsWord).mono fun _ hus => ⟨_, hplain, hus⟩

theorem crosses_number {cs rest : List Char} {text : String}
    (h : readNumber cs = some (text, rest)) (hrest : EndsValue rest) :
    Crosses (fun us => ∃ t : Token, t.isPlain = true ∧ us = [t]) cs rest := by
  obtain ⟨ns, rfl, hns⟩ := readNumber_eq_some h
  have hwrites := @Scanner.writes_number (String.ofList ns) (by rwa [String.toList_ofList])
  rw [String.toList_ofList] at hwrites
  exact (hwrites.crosses hrest.endsNumber).mono fun _ hus => ⟨_, rfl, hus⟩

/-- The scanner finds no members: it stops at the colon behind the first key. -/
theorem crosses_members {fuel depth : Nat} {cs rest : List Char}
    {members : List (String × Json)} (h : membersWith fuel depth cs = some (members, rest)) :
    Crosses (fun _ => False) cs rest := by
  cases fuel with
  | zero => cases h
  | succ fuel =>
    rw [membersWith.eq_def] at h
    dsimp only at h
    split at h
    · next hcs =>
      split at h
      · cases h
      · next mid hkey =>
        split at h
        · next ds hcolon =>
          have hmid : Crosses (fun _ => False) mid rest :=
            (crosses_skipSpace mid).absurd (hcolon ▸ Scanner.crosses_colon ds rest)
          exact (crosses_skipSpace cs).absurd (hcs ▸ (crosses_string hkey).absurd hmid)
        · cases h
    · cases h

/-- The tokens up to a closing bracket. -/
def Closed (closing : Token) (us : List Token) : Prop :=
  ∃ vs, Nested vs ∧ us = vs ++ [closing]

theorem Closed.prepend {closing : Token} {us vs : List Token} (hus : Nested us)
    (h : Closed closing vs) : Closed closing (us ++ vs) := by
  obtain ⟨ws, hws, rfl⟩ := h
  exact ⟨us ++ ws, hus.append hws, (List.append_assoc us ws [closing]).symm⟩

theorem crosses_nested (cs : List Char) : Crosses Nested cs (skipSpace cs) :=
  (crosses_skipSpace cs).mono fun _ ⟨blanks, hus⟩ => hus ▸ .newlines blanks

theorem crosses_closing {closing : Token} {c : Char} {cs rest : List Char}
    (hc : Scanner.single c = some closing) (h : skipSpace cs = c :: rest) :
    Crosses (Closed closing) cs rest := by
  have hclosing := Scanner.crosses_single hc rest
  rw [← h] at hclosing
  exact (crosses_nested cs).trans hclosing fun us _ hus hvs => ⟨us, hus, hvs ▸ rfl⟩

/-- A container, from its opening bracket to the one that closes it. -/
theorem crosses_container {opening closing : Token} {c : Char} {cs rest : List Char} {v : Json}
    (hopening : opening = .openBracket ∨ opening = .openBrace)
    (hclosing : closing.isClosing = true) (hc : Scanner.single c = some opening)
    (h : Crosses (Closed closing) cs rest) : Crosses (ValueTokens v) (c :: cs) rest := by
  refine (Scanner.crosses_single hc cs).trans h ?_
  rintro us _ rfl ⟨vs, hvs, rfl⟩
  exact .container 0 hopening hclosing hvs

/-- What the scanner finds in values and in the items of arrays that are read with the given
fuel. -/
structure ScansAt (fuel : Nat) : Prop where
  value {depth : Nat} {cs rest : List Char} {v : Json} :
    valueWith fuel depth cs = some (v, rest) → EndsValue rest → Crosses (ValueTokens v) cs rest
  items {depth : Nat} {cs rest : List Char} {items : List Json} :
    itemsWith fuel depth cs = some (items, rest) → Crosses (Closed .closeBracket) cs rest

namespace ScansAt

variable {fuel depth : Nat} {cs rest : List Char}

theorem zero : ScansAt 0 where
  value h := by cases h
  items h := by cases h

theorem value_front (ih : ScansAt fuel) {v : Json} (h : ReadsValue fuel cs v rest)
    (hrest : EndsValue rest) : Crosses (ValueTokens v) cs rest := by
  have hscalar {v : Json} (hv : v.isContainer = false) {cs : List Char}
      (h : Crosses (fun us => ∃ t : Token, t.isPlain = true ∧ us = [t]) cs rest) :
      Crosses (ValueTokens v) cs rest :=
    h.mono fun us ⟨t, ht, hus⟩ => hus ▸ .scalar 0 hv ht
  cases h with
  | null =>
    exact hscalar rfl (@crosses_word 'n' ['u', 'l', 'l'] _ (by decide) (by decide) rfl hrest)
  | yes => exact hscalar rfl (@crosses_word 't' ['r', 'u', 'e'] _ (by decide) (by decide) rfl hrest)
  | no =>
    exact hscalar rfl (@crosses_word 'f' ['a', 'l', 's', 'e'] _ (by decide) (by decide) rfl hrest)
  | string hs =>
    exact hscalar rfl ((crosses_string hs).mono fun us ⟨value, hus⟩ => ⟨_, rfl, hus⟩)
  | number hn => exact hscalar rfl (crosses_number hn hrest)
  | noItems hcs =>
    have hclosed : Crosses (Closed .closeBracket) _ rest := crosses_closing rfl hcs
    exact crosses_container (.inl rfl) rfl rfl hclosed
  | items depth hitems =>
    have hclosed := (crosses_nested _).trans (ih.items hitems) fun _ _ => Closed.prepend
    exact crosses_container (.inl rfl) rfl rfl hclosed
  | noMembers hcs =>
    have hclosed : Crosses (Closed .closeBrace) _ rest := crosses_closing rfl hcs
    exact crosses_container (.inr rfl) rfl rfl hclosed
  | members depth hmembers =>
    have hclosed : Crosses (Closed .closeBrace) _ rest :=
      (crosses_nested _).absurd (crosses_members hmembers)
    exact crosses_container (.inr rfl) rfl rfl hclosed

theorem value_succ (ih : ScansAt fuel) {v : Json}
    (h : valueWith (fuel + 1) depth cs = some (v, rest)) (hrest : EndsValue rest) :
    Crosses (ValueTokens v) cs rest := by
  refine (crosses_skipSpace cs).trans (ih.value_front (readsValue_of_valueWith h) hrest) ?_
  rintro us vs ⟨blanks, rfl⟩ hvs
  cases hvs with
  | scalar blanks' hv ht =>
    rw [← List.append_assoc, List.replicate_append_replicate]
    exact .scalar _ hv ht
  | container blanks' hopening hclosing hus =>
    rw [← List.append_assoc, List.replicate_append_replicate]
    exact .container _ hopening hclosing hus

theorem items_succ (ih : ScansAt fuel) {items : List Json}
    (h : itemsWith (fuel + 1) depth cs = some (items, rest)) :
    Crosses (Closed .closeBracket) cs rest := by
  rw [itemsWith.eq_def] at h
  dsimp only at h
  split at h
  · cases h
  · next v mid hvalue =>
    have hitem {d : Char} {ds : List Char} (hmid : skipSpace mid = d :: ds)
        (hd : d = ',' ∨ d = ']' ∨ d = '\x7d') : Crosses Nested cs mid := by
      refine (ih.value hvalue (.of_skipSpace fun c hc => ?_)).mono fun _ => ValueTokens.nested
      rw [hmid] at hc
      cases hc
      exact hd
    split at h
    · next ds hcomma =>
      obtain ⟨⟨items, rest⟩, hitems, ⟨⟩⟩ := Option.map_eq_some_iff.1 h
      have hmore : Crosses (Closed .closeBracket) (',' :: ds) rest :=
        (Scanner.crosses_single rfl ds).trans (ih.items hitems) fun us vs hus hvs =>
          hvs.prepend (hus ▸ Nested.plain rfl)
      exact (hitem hcomma (.inl rfl)).trans
        ((crosses_nested mid).trans (hcomma ▸ hmore) fun _ _ => Closed.prepend)
        fun _ _ => Closed.prepend
    · next ds hclose =>
      cases h
      exact (hitem hclose (.inr (.inl rfl))).trans (crosses_closing rfl hclose)
        fun _ _ => Closed.prepend
    · cases h

end ScansAt

theorem scansAt (fuel : Nat) : ScansAt fuel := by
  induction fuel with
  | zero => exact .zero
  | succ fuel ih => exact ⟨ih.value_succ, ih.items_succ⟩

/-! ## Documents -/

theorem parse_eq_some {text : String} {v : Json} (h : parse text = some v) :
    ∃ fuel depth rest, valueWith (fuel + 1) depth text.toList = some (v, rest) ∧
      skipSpace rest = [] := by
  unfold parse at h
  dsimp only at h
  split at h
  · next value rest hvalue =>
    obtain ⟨hrest, ⟨⟩⟩ := Option.ite_none_right_eq_some.1 h
    exact ⟨_, _, rest, hvalue, List.isEmpty_iff.1 hrest⟩
  · cases h

/-- **A document in which the scanner meets no error has the tokens of its value**, with nothing but
newlines behind them. -/
theorem tokens_of_parse {text : String} {v : Json} {ts : List Token} (h : parse text = some v)
    (hts : (Scanner.ofText text).Yields ts none) :
    ∃ us blanks, ValueTokens v us ∧ ts = us ++ List.replicate blanks .newline := by
  obtain ⟨fuel, depth, rest, hvalue, hrest⟩ := parse_eq_some h
  have hends : EndsValue rest := .of_skipSpace fun c hc => by rw [hrest] at hc; cases hc
  obtain ⟨here, us, vs, rfl, hus, hvs⟩ := (scansAt _).value hvalue hends hts
  obtain ⟨here', ws, xs, rfl, ⟨blanks, rfl⟩, hxs⟩ := crosses_skipSpace rest hvs
  rw [hrest] at hxs
  obtain ⟨rfl, -⟩ := hxs.unique (.ended rfl rfl)
  exact ⟨us, blanks, hus, by rw [List.append_nil]⟩

end Json

end RowFilter
