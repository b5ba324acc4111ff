import Mathlib.Data.List.TakeWhile
import RowFilter.Proofs.Token.Numeral
import RowFilter.Token.Scanner

/-!
# The answers of a scanner

A scanner is called again and again, until it comes to the end of the text or to an error.  What it
answers up to there is a relation between the scanner and the tokens (`Scanner.Yields`), which
knows no bound on the number of calls.  The stream of a text does have such a bound, and it stops
early where a call does not move the position; it gives the same tokens all the same.

* `Scanner.next_ok` — a call that answers a token moves on, and the token is a proper one.
* `Scanner.exists_yields` — every scanner comes to the end of its text or to an error.
* `TokenStream.gives_ofText` — the stream of a text gives what its scanner yields.
-/

set_option autoImplicit false

namespace RowFilter

namespace Position

theorem right_right (p : Position) (m n : Nat) : (p.right m).right n = p.right (m + n) := by
  simp only [right, Nat.add_assoc]

theorem right_ne {p : Position} {n : Nat} (h : 0 < n) : p.right n ≠ p := by
  intro heq
  have hcolumn := congrArg column heq
  simp only [right] at hcolumn
  omega

theorem nextLine_right_ne (p : Position) (n : Nat) : (p.right n).nextLine ≠ p := by
  intro heq
  have hline := congrArg line heq
  simp [right, nextLine] at hline

end Position

namespace Scanner

/-! ## Moving on -/

/-- The scanner `s'` stands behind the characters `cs`, which `s` has before it and which are all on
one line. -/
structure MovesRight (s : Scanner) (cs : List Char) (s' : Scanner) : Prop where
  rest : s.rest = cs ++ s'.rest
  line : '\n' ∉ cs
  here : s'.here = s.here.right cs.length

namespace MovesRight

variable {s s' s'' : Scanner} {cs ds : List Char}

theorem refl (s : Scanner) : s.MovesRight [] s := ⟨rfl, by simp, rfl⟩

theorem trans (h : s.MovesRight cs s') (h' : s'.MovesRight ds s'') :
    s.MovesRight (cs ++ ds) s'' where
  rest := by rw [h.rest, h'.rest, List.append_assoc]
  line := by simp [h.line, h'.line]
  here := by rw [h'.here, h.here, Position.right_right, List.length_append]

theorem cons {c : Char} {rest : List Char} {here : Position} (hc : c ≠ '\n')
    (h : (⟨rest, here.right 1⟩ : Scanner).MovesRight cs s') :
    (⟨c :: rest, here⟩ : Scanner).MovesRight (c :: cs) s' where
  rest := congrArg (c :: ·) h.rest
  line := by simp [h.line, Ne.symm hc]
  here := by rw [h.here, Position.right_right, List.length_cons, Nat.add_comm]

theorem drop {n : Nat} (h : s.rest.take n = cs) (hn : cs.length = n) (hline : '\n' ∉ cs) :
    s.MovesRight cs (s.drop n) where
  rest := by rw [← h, Scanner.drop, List.take_append_drop]
  line := hline
  here := by rw [hn, Scanner.drop]

end MovesRight

theorem movesRight_skipFrom (here : Position) (inComment : Bool) (cs : List Char) :
    ∃ ds, (⟨cs, here⟩ : Scanner).MovesRight ds (skipFrom here inComment cs) := by
  induction cs generalizing here inComment with
  | nil => exact ⟨[], .refl _⟩
  | cons c cs ih =>
    rw [skipFrom]
    split
    · exact ⟨[], .refl _⟩
    · next hc =>
      split
      · obtain ⟨ds, hds⟩ := ih (here.right 1) true
        exact ⟨c :: ds, .cons hc hds⟩
      · split
        · obtain ⟨ds, hds⟩ := ih (here.right 1) false
          exact ⟨c :: ds, .cons hc hds⟩
        · exact ⟨[], .refl _⟩

theorem newline_ne_of_isHexDigit {c : Char} (h : isHexDigit c = true) : c ≠ '\n' := by
  rintro rfl
  exact absurd h (by decide)

theorem newline_ne_of_escaped {e c : Char} (h : escaped e = some c) : e ≠ '\n' := by
  rintro rfl
  cases h

/-- The hexadecimal digits at the front, at most four of them. -/
theorem take_hexDigits (ds : List Char) :
    ds.take ((ds.take 4).takeWhile isHexDigit).length = (ds.take 4).takeWhile isHexDigit :=
  (List.prefix_iff_eq_take.1
    ((List.takeWhile_prefix isHexDigit).trans (List.take_prefix 4 ds))).symm

theorem movesRight_hexDigits (ds : List Char) (here : Position) :
    (⟨ds, here⟩ : Scanner).MovesRight ((ds.take 4).takeWhile isHexDigit)
      ⟨ds.drop ((ds.take 4).takeWhile isHexDigit).length,
        here.right ((ds.take 4).takeWhile isHexDigit).length⟩ := by
  refine .drop (take_hexDigits ds) rfl fun hmem => ?_
  exact newline_ne_of_isHexDigit (List.mem_takeWhile_imp hmem) rfl

theorem isHexDigit_of_count {d₁ d₂ d₃ d₄ : Char} {es : List Char}
    (h : ¬ (((d₁ :: d₂ :: d₃ :: d₄ :: es).take 4).takeWhile isHexDigit).length < 4) :
    ((d₁ :: d₂ :: d₃ :: d₄ :: es).take 4).takeWhile isHexDigit = [d₁, d₂, d₃, d₄] := by
  have hfront := List.takeWhile_prefix (l := [d₁, d₂, d₃, d₄]) isHexDigit
  exact hfront.eq_of_length_le (Nat.le_of_not_lt h)

/-- Whatever becomes of a string, it is looked for on one line. -/
theorem movesRight_stringFrom (start here : Position) (read cs : List Char) :
    ∃ ds, (⟨cs, here⟩ : Scanner).MovesRight ds (stringFrom start here read cs).2 := by
  have hdigits : ∀ (here : Position) (ds : List Char),
      (⟨'\\' :: 'u' :: ds, here⟩ : Scanner).MovesRight
        ('\\' :: 'u' :: (ds.take 4).takeWhile isHexDigit)
        ⟨ds.drop ((ds.take 4).takeWhile isHexDigit).length,
          here.right (2 + ((ds.take 4).takeWhile isHexDigit).length)⟩ := by
    intro here ds
    refine .cons (by decide) (.cons (by decide) ?_)
    have hmoves := movesRight_hexDigits ds (here.right 2)
    rwa [Position.right_right] at hmoves
  fun_induction stringFrom start here read cs with
  | case1 => exact ⟨[], .refl _⟩
  | case2 => exact ⟨['"'], .cons (by decide) (.refl _)⟩
  | case3 => exact ⟨[], .refl _⟩
  | case4 => exact ⟨['\\'], .cons (by decide) (.refl _)⟩
  | case5 here => exact ⟨_, hdigits here _⟩
  | case6 here read d₁ d₂ d₃ d₄ es code c hc count hcount ih =>
    obtain ⟨ds, hds⟩ := ih
    have hmoves := hdigits here (d₁ :: d₂ :: d₃ :: d₄ :: es)
    rw [isHexDigit_of_count hcount] at hmoves
    exact ⟨_, hmoves.trans hds⟩
  | case7 here read d₁ d₂ d₃ d₄ es code hc digits count hcount =>
    have hmoves := hdigits here (d₁ :: d₂ :: d₃ :: d₄ :: es)
    rw [isHexDigit_of_count hcount] at hmoves
    exact ⟨_, hmoves⟩
  | case8 here => exact ⟨_, hdigits here _⟩
  | case9 here read e ds _ c he ih =>
    obtain ⟨es, hes⟩ := ih
    refine ⟨'\\' :: e :: es, .cons (by decide) (.cons (newline_ne_of_escaped he) ?_)⟩
    rw [Position.right_right]
    exact hes
  | case10 here read e ds _ he => exact ⟨['\\'], .cons (by decide) (.refl _)⟩
  | case11 here read c cs _ hc _ ih =>
    obtain ⟨ds, hds⟩ := ih
    exact ⟨c :: ds, .cons hc hds⟩

/-- The scanner `s'` stands behind something that `s` has before it, on the same line or at the
start of the next one. -/
inductive Passes (s : Scanner) : Scanner → Prop
  | right {s' : Scanner} {cs : List Char} : cs ≠ [] → s.MovesRight cs s' → Passes s s'
  | newline {cs rest : List Char} {here : Position} :
      s.MovesRight cs ⟨'\n' :: rest, here⟩ → Passes s ⟨rest, here.nextLine⟩

namespace Passes

variable {s s' s'' : Scanner} {cs : List Char}

theorem after (h : s.MovesRight cs s') (h' : s'.Passes s'') : s.Passes s'' := by
  cases h' with
  | right hne h' => exact .right (by simp [hne]) (h.trans h')
  | newline h' => exact .newline (h.trans h')

theorem length_lt (h : s.Passes s') : s'.rest.length < s.rest.length := by
  cases h with
  | right hne h =>
    have hpos := List.length_pos_iff.2 hne
    rw [h.rest, List.length_append]
    omega
  | newline h =>
    simp only [h.rest, List.length_append, List.length_cons]
    omega

theorem here_ne (h : s.Passes s') : s'.here ≠ s.here := by
  cases h with
  | right hne h =>
    rw [h.here]
    exact Position.right_ne (List.length_pos_iff.2 hne)
  | @newline cs rest here h =>
    obtain rfl : here = s.here.right cs.length := h.here
    exact Position.nextLine_right_ne s.here cs.length

end Passes

/-! ## Tokens -/

end Scanner

/-- **Whether the token stands for characters of a text.**  The end of the input stands for none, a
number is a numeral, and an identifier is no keyword. -/
def Token.isProper : Token → Bool
  | .number text => Number.isNumeral text.toList
  | .identifier name => isIdentifier name
  | .endOfInput => false
  | _ => true

theorem Token.ne_endOfInput {t : Token} (h : t.isProper = true) : t ≠ .endOfInput := by
  rintro rfl
  cases h

theorem Token.isProper_ofWord {word : String} {c : Char} {cs : List Char}
    (hword : word.toList = c :: cs) (hc : isIdentifierStart c = true)
    (hcs : cs.all isIdentifierRest = true) : (Token.ofWord word).isProper = true := by
  unfold Token.ofWord
  split
  · rfl
  split
  · rfl
  split
  · rfl
  split
  · rfl
  · next htrue hfalse hnull hnot =>
    simp [Token.isProper, isIdentifier, keywords, hword, hc, hcs, htrue, hfalse, hnull, hnot]

namespace Scanner

theorem isProper_single {c : Char} {t : Token} (h : single c = some t) : t.isProper = true := by
  unfold single at h
  split at h <;> cases h <;> rfl

theorem passes_drop {s : Scanner} {cs : List Char} (hne : cs ≠ []) (hfront : cs <+: s.rest)
    (hline : '\n' ∉ cs) : s.Passes (s.drop cs.length) :=
  .right hne (.drop (List.prefix_iff_eq_take.1 hfront).symm rfl hline)

/-- A token at the front is passed. -/
theorem token_ok {s s' : Scanner} {t : Token} (h : s.token = (.ok t, s')) :
    (s.rest = [] ∧ t = .endOfInput) ∨ (s.Passes s' ∧ t.isProper = true) := by
  obtain ⟨rest, here⟩ := s
  unfold token at h
  split at h
  · next hrest => cases h; exact .inl ⟨hrest, rfl⟩
  · next hrest => cases hrest; cases h; exact .inr ⟨.newline (.refl _), rfl⟩
  · next hrest =>
    cases hrest; cases h
    exact .inr ⟨passes_drop (List.cons_ne_nil '=' ['=']) ⟨_, rfl⟩ (by decide), rfl⟩
  · next hrest =>
    cases hrest; cases h
    exact .inr ⟨passes_drop (List.cons_ne_nil '=' []) ⟨_, rfl⟩ (by decide), rfl⟩
  · next hrest =>
    cases hrest; cases h
    exact .inr ⟨passes_drop (List.cons_ne_nil '!' ['=']) ⟨_, rfl⟩ (by decide), rfl⟩
  · cases h
  · next cs hrest =>
    cases hrest
    split at h
    · next value next hstring =>
      cases h
      obtain ⟨ds, hds⟩ := movesRight_stringFrom here (here.right 1) [] cs
      rw [hstring] at hds
      exact .inr ⟨.right (List.cons_ne_nil '"' ds) (.cons (by decide) hds), rfl⟩
    · cases h
  · next c cs hc _ _ _ _ _ hrest =>
    cases hrest
    have hc : '\n' ≠ c := fun heq => hc heq.symm
    split at h
    · next t' hsingle =>
      cases h
      exact .inr ⟨passes_drop (List.cons_ne_nil c []) ⟨cs, rfl⟩ (by simpa using hc),
        isProper_single hsingle⟩
    · split at h
      · next hnumber =>
        cases h
        have hnumeral := isNumeral_number hnumber
        obtain ⟨d, ds, hds, -⟩ := exists_of_isNumeral hnumeral
        refine .inr ⟨passes_drop (by rw [hds]; exact List.cons_ne_nil d ds) (isPrefix_number _)
          (newline_not_mem_number _), ?_⟩
        rw [Token.isProper, String.toList_ofList, hnumeral]
      · split at h
        · next hstart =>
          cases h
          have hword : cs.takeWhile isIdentifierRest <+: cs := List.takeWhile_prefix _
          refine .inr ⟨passes_drop (List.cons_ne_nil c _) ((List.prefix_cons_inj c).2 hword) ?_,
            Token.isProper_ofWord String.toList_ofList hstart List.all_takeWhile⟩
          have hrest : '\n' ∉ cs.takeWhile isIdentifierRest := fun hmem =>
            absurd (List.mem_takeWhile_imp hmem) (by decide)
          exact fun hmem => (List.mem_cons.1 hmem).elim hc hrest
        · cases h

/-- **A call that answers a token moves on**, except at the end of the text, and the token is a
proper one. -/
theorem next_ok {s s' : Scanner} {l : Lexeme} {t : Token} (h : s.next = (l, s'))
    (hl : l.token = .ok t) : t = .endOfInput ∨ (s.Passes s' ∧ t.isProper = true) := by
  obtain ⟨ds, hds⟩ := movesRight_skipFrom s.here false s.rest
  have htoken : s.skip.token = (.ok t, s') := by
    cases h
    exact Prod.ext hl rfl
  rcases token_ok htoken with ⟨-, ht⟩ | ⟨hpasses, ht⟩
  · exact .inl ht
  · exact .inr ⟨hpasses.after hds, ht⟩

/-! ## All answers -/

/-- **What a scanner answers**, up to the end of the text or to an error. -/
inductive Yields : Scanner → List Token → Option ScanError → Prop
  | ended {s s' : Scanner} {l : Lexeme} : s.next = (l, s') → l.token = .ok .endOfInput →
      Yields s [] none
  | failed {s s' : Scanner} {l : Lexeme} {e : ScanError} : s.next = (l, s') →
      l.token = .error e → Yields s [] (some e)
  | more {s s' : Scanner} {l : Lexeme} {t : Token} {ts : List Token}
      {ending : Option ScanError} : s.next = (l, s') → l.token = .ok t → t ≠ .endOfInput →
      Yields s' ts ending → Yields s (t :: ts) ending

/-- **Every scanner comes to an end.** -/
theorem exists_yields (s : Scanner) : ∃ ts ending, s.Yields ts ending := by
  generalize hn : s.rest.length = n
  induction n using Nat.strong_induction_on generalizing s with
  | _ n ih =>
    obtain ⟨l, s', hnext⟩ : ∃ l s', s.next = (l, s') := ⟨_, _, rfl⟩
    cases hl : l.token with
    | error e => exact ⟨[], some e, .failed hnext hl⟩
    | ok t =>
      by_cases ht : t = .endOfInput
      · exact ⟨[], none, .ended hnext (ht ▸ hl)⟩
      · obtain ⟨hpasses, -⟩ := (next_ok hnext hl).resolve_left ht
        obtain ⟨ts, ending, hts⟩ := ih _ (hn ▸ hpasses.length_lt) s' rfl
        exact ⟨t :: ts, ending, .more hnext hl ht hts⟩

/-- **Every token is a proper one.** -/
theorem Yields.isProper {s : Scanner} {ts : List Token} {ending : Option ScanError}
    (h : s.Yields ts ending) : ∀ t ∈ ts, t.isProper = true := by
  induction h with
  | ended => simp
  | failed => simp
  | more hnext hl ht _ ih =>
    obtain ⟨-, hproper⟩ := (next_ok hnext hl).resolve_left ht
    exact List.forall_mem_cons.2 ⟨hproper, ih⟩

end Scanner

/-! ## Streams -/

namespace TokenStream

/-- What the answers of a stream are, up to the end of the text or to an error. -/
inductive Gives : TokenStream → List Token → Option ScanError → Prop
  | ended {last : Lexeme} : last.token = .ok .endOfInput → Gives ⟨[], last⟩ [] none
  | stuck {last : Lexeme} {e : ScanError} : last.token = .error e → Gives ⟨[], last⟩ [] (some e)
  | failed {l last : Lexeme} {ls : List Lexeme} {e : ScanError} : l.token = .error e →
      Gives ⟨l :: ls, last⟩ [] (some e)
  | more {l last : Lexeme} {ls : List Lexeme} {t : Token} {ts : List Token}
      {ending : Option ScanError} : l.token = .ok t → t ≠ .endOfInput →
      Gives ⟨ls, last⟩ ts ending → Gives ⟨l :: ls, last⟩ (t :: ts) ending

theorem Gives.length_le {stream : TokenStream} {ts : List Token} {ending : Option ScanError}
    (h : stream.Gives ts ending) : ts.length ≤ stream.first.length := by
  induction h with
  | ended => exact Nat.zero_le _
  | stuck => exact Nat.zero_le _
  | failed => exact Nat.zero_le _
  | more _ _ _ ih => exact Nat.succ_le_succ ih

theorem ofScanner_succ {s s' : Scanner} {l : Lexeme} (hnext : s.next = (l, s')) (bound : Nat) :
    ofScanner (bound + 1) s =
      if l.isEnd || s'.here == s.here then ⟨[], l⟩
      else ⟨l :: (ofScanner bound s').first, (ofScanner bound s').last⟩ := by
  rw [ofScanner, hnext]

theorem ofScanner_zero {s s' : Scanner} {l : Lexeme} (hnext : s.next = (l, s')) :
    ofScanner 0 s = ⟨[], l⟩ := by
  rw [ofScanner, hnext]

theorem gives_ofScanner {s : Scanner} {ts : List Token} {ending : Option ScanError}
    (h : s.Yields ts ending) : ∀ {bound : Nat}, s.rest.length ≤ bound →
      (ofScanner bound s).Gives ts ending := by
  induction h with
  | @ended s s' l hnext hl =>
    rintro (_ | bound) -
    · rw [ofScanner_zero hnext]
      exact .ended hl
    · rw [ofScanner_succ hnext, if_pos (by simp [Lexeme.isEnd, hl])]
      exact .ended hl
  | @failed s s' l e hnext hl =>
    rintro (_ | bound) -
    · rw [ofScanner_zero hnext]
      exact .stuck hl
    · rw [ofScanner_succ hnext]
      split
      · exact .stuck hl
      · exact .failed hl
  | @more s s' l t ts ending hnext hl ht _ ih =>
    obtain ⟨hpasses, -⟩ := (Scanner.next_ok hnext hl).resolve_left ht
    have hlength := hpasses.length_lt
    rintro (_ | bound) hbound
    · omega
    · have hend : l.isEnd = false := by
        unfold Lexeme.isEnd
        split
        · next heq => exact absurd (Except.ok.inj (hl.symm.trans heq)) ht
        · rfl
      rw [ofScanner_succ hnext, if_neg (by simp [hend, hpasses.here_ne])]
      exact .more hl ht (ih (by omega))

/-- **The stream of a text gives what its scanner yields.** -/
theorem gives_ofText {text : String} {ts : List Token} {ending : Option ScanError}
    (h : (Scanner.ofText text).Yields ts ending) : (ofText text).Gives ts ending :=
  gives_ofScanner h (Nat.le_refl _)

end TokenStream

end RowFilter
