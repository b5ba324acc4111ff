import Mathlib.Tactic.Choose
import RowFilter.Proofs.Token.Answers

/-!
# Positions are true

A scanner moves its line and column along as it consumes characters.  Most of its branches move to
the right by a number of characters of their own, and only one of them starts a new line.  This file
compares what is kept with what can be counted: `Position.ofPlace` is the position of a place in the
text, by the characters before it, and a scanner stands at a place (`Scanner.StandsAt`) if it has
consumed just these characters and keeps just this position.

What one call does is said by the places it passes: the one it starts from, the one where the token
starts, behind blanks and comments, and the one it ends at (`Scanner.IsTrue`).  A call that gets no
further than to the start of its token would do the same again, and so it is repeated for ever.

* `Scanner.StandsAt.moves`, `Scanner.StandsAt.newline` — a scanner that moves on stands at a place.
* `Scanner.exists_skips` — what is skipped before a token.
* `Scanner.StandsAt.isTrue_next` — one call.
* `Scanner.answers_true` — any number of calls.
-/

set_option autoImplicit false

namespace RowFilter

/-! ## Places -/

/-- **The position of a place in a text**: the newlines before it count the lines, and the
characters since the last newline count the columns. -/
def Position.ofPlace (text : List Char) (place : Nat) : Position where
  line := 1 + (text.take place).count '\n'
  column := 1 + ((text.take place).reverse.takeWhile (· != '\n')).length

namespace Position

variable {text cs rest : List Char} {place : Nat}

theorem ofPlace_add (h : text.drop place = cs ++ rest) (hline : '\n' ∉ cs) :
    ofPlace text (place + cs.length) = (ofPlace text place).right cs.length := by
  have htake : text.take (place + cs.length) = text.take place ++ cs := by
    rw [List.take_add, h, List.take_left]
  have hcs : ∀ c ∈ cs.reverse, (c != '\n') = true := by
    intro c hc
    rw [bne_iff_ne]
    rintro rfl
    exact hline (List.mem_reverse.1 hc)
  simp only [ofPlace, right, htake, List.count_append, List.count_eq_zero_of_not_mem hline,
    List.reverse_append, List.takeWhile_append_of_pos hcs, List.length_append, List.length_reverse]
  simp only [Nat.add_zero, Nat.add_comm, Nat.add_left_comm]

theorem ofPlace_newline (h : text.drop place = '\n' :: rest) :
    ofPlace text (place + 1) = (ofPlace text place).nextLine := by
  have htake : text.take (place + 1) = text.take place ++ ['\n'] := by
    rw [List.take_add, h]
    rfl
  simp [ofPlace, nextLine, htake, Nat.add_assoc]

end Position

namespace Scanner

/-- **The scanner stands at a place of the text**: it has the rest of the text before it, and its
position is that of the place. -/
structure StandsAt (text : List Char) (place : Nat) (s : Scanner) : Prop where
  le : place ≤ text.length
  rest : s.rest = text.drop place
  here : s.here = Position.ofPlace text place

namespace StandsAt

variable {text cs : List Char} {place : Nat} {s s' : Scanner}

theorem ofText (text : String) : (Scanner.ofText text).StandsAt text.toList 0 where
  le := Nat.zero_le _
  rest := rfl
  here := rfl

theorem length_rest (h : s.StandsAt text place) : place + s.rest.length = text.length := by
  rw [h.rest, List.length_drop, Nat.add_sub_cancel' h.le]

theorem moves (h : s.StandsAt text place) (hmoves : s.MovesRight cs s') :
    s'.StandsAt text (place + cs.length) := by
  have hdrop : text.drop place = cs ++ s'.rest := by rw [← h.rest, hmoves.rest]
  have hlength := h.length_rest
  rw [hmoves.rest, List.length_append] at hlength
  constructor
  · omega
  · rw [← List.drop_drop, hdrop, List.drop_left]
  · rw [hmoves.here, h.here, Position.ofPlace_add hdrop hmoves.line]

theorem newline {rest : List Char} {here : Position}
    (h : (⟨'\n' :: rest, here⟩ : Scanner).StandsAt text place) :
    (⟨rest, here.nextLine⟩ : Scanner).StandsAt text (place + 1) := by
  have hdrop : text.drop place = '\n' :: rest := h.rest.symm
  have hlength := h.length_rest
  rw [List.length_cons] at hlength
  constructor
  · omega
  · rw [← List.drop_drop, hdrop]
    rfl
  · rw [Position.ofPlace_newline hdrop, ← h.here]

theorem passes (h : s.StandsAt text place) (hpasses : s.Passes s') :
    ∃ place', place < place' ∧ s'.StandsAt text place' := by
  cases hpasses with
  | right hne hmoves =>
    have hpos := List.length_pos_iff.2 hne
    exact ⟨_, by omega, h.moves hmoves⟩
  | newline hmoves => exact ⟨_, by omega, (h.moves hmoves).newline⟩

end StandsAt

/-! ## What is skipped -/

/-- **What is skipped before a token, and what is left**: blanks up to a newline or to a character
that is neither a blank nor the start of a comment, or blanks and a comment up to the end of the
line. -/
inductive Skips : List Char → List Char → Prop
  | blanks {bs rest : List Char} (hbs : ∀ c ∈ bs, Text.isBlank c = true ∧ c ≠ '\n')
      (hrest : ∀ c ∈ rest.head?, c = '\n' ∨ Text.isBlank c = false ∧ c ≠ '#') : Skips bs rest
  | comment {bs cs rest : List Char} (hbs : ∀ c ∈ bs, Text.isBlank c = true ∧ c ≠ '\n')
      (hcs : '\n' ∉ cs) (hrest : ∀ c ∈ rest.head?, c = '\n') : Skips (bs ++ '#' :: cs) rest

theorem Skips.cons {c : Char} {cs rest : List Char} (hblank : Text.isBlank c = true)
    (hc : c ≠ '\n') (h : Skips cs rest) : Skips (c :: cs) rest := by
  cases h with
  | blanks hbs hrest => exact .blanks (List.forall_mem_cons.2 ⟨⟨hblank, hc⟩, hbs⟩) hrest
  | comment hbs hcs hrest =>
    rw [← List.cons_append]
    exact .comment (List.forall_mem_cons.2 ⟨⟨hblank, hc⟩, hbs⟩) hcs hrest

/-- A comment is skipped up to the end of its line. -/
theorem exists_comment (here : Position) (cs : List Char) :
    ∃ ds, cs = ds ++ (skipFrom here true cs).rest ∧ '\n' ∉ ds ∧
      ∀ c ∈ (skipFrom here true cs).rest.head?, c = '\n' := by
  induction cs generalizing here with
  | nil => exact ⟨[], rfl, by simp, by simp [skipFrom]⟩
  | cons c cs ih =>
    by_cases hc : c = '\n'
    · refine ⟨[], ?_, by simp, ?_⟩ <;> simp [skipFrom, hc]
    · obtain ⟨ds, hds, hline, hrest⟩ := ih (here.right 1)
      have hskip : skipFrom here true (c :: cs) = skipFrom (here.right 1) true cs := by
        simp [skipFrom, hc]
      rw [hskip]
      refine ⟨c :: ds, congrArg (c :: ·) hds, ?_, hrest⟩
      simp [hline, Ne.symm hc]

theorem exists_skips_skipFrom (here : Position) (cs : List Char) :
    ∃ ds, cs = ds ++ (skipFrom here false cs).rest ∧ Skips ds (skipFrom here false cs).rest := by
  induction cs generalizing here with
  | nil => exact ⟨[], rfl, .blanks (by simp) (by simp [skipFrom])⟩
  | cons c cs ih =>
    rw [skipFrom]
    split
    · next hc => exact ⟨[], rfl, .blanks (by simp) (by simp [hc])⟩
    · next hc =>
      split
      · next hcomment =>
        obtain rfl : c = '#' := by simpa using hcomment
        obtain ⟨ds, hds, hline, hrest⟩ := exists_comment (here.right 1) cs
        exact ⟨[] ++ '#' :: ds, congrArg ('#' :: ·) hds, .comment (by simp) hline hrest⟩
      · next hcomment =>
        split
        · next hblank =>
          obtain ⟨ds, hds, hskips⟩ := ih (here.right 1)
          exact ⟨c :: ds, congrArg (c :: ·) hds, hskips.cons hblank hc⟩
        · next hblank =>
          refine ⟨[], rfl, .blanks (by simp) ?_⟩
          have hc : Text.isBlank c = false ∧ c ≠ '#' := by simpa using And.intro hblank hcomment
          simp [hc]

/-- **Only blanks and comments are skipped, and all of them**, on one line. -/
theorem exists_skips (s : Scanner) : ∃ ds, s.MovesRight ds s.skip ∧ Skips ds s.skip.rest := by
  obtain ⟨ds, hmoves⟩ := movesRight_skipFrom s.here false s.rest
  obtain ⟨ds', hrest, hskips⟩ := exists_skips_skipFrom s.here s.rest
  obtain rfl : ds = ds' := List.append_cancel_right (hmoves.rest.symm.trans hrest)
  exact ⟨ds, hmoves, hskips⟩

/-- Nothing is left to be skipped. -/
theorem skip_skip (s : Scanner) : s.skip.skip = s.skip := by
  obtain ⟨ds, -, hskips⟩ := exists_skips s
  have hrest : ∀ c ∈ s.skip.rest.head?, c = '\n' ∨ Text.isBlank c = false ∧ c ≠ '#' := by
    cases hskips with
    | blanks _ hrest => exact hrest
    | comment _ _ hrest => exact fun c hc => .inl (hrest c hc)
  generalize s.skip = s' at hrest
  obtain ⟨_ | ⟨c, cs⟩, here⟩ := s'
  · rfl
  · rcases hrest c rfl with hc | ⟨hblank, hcomment⟩
    · simp [skip, skipFrom, hc]
    · simp [skip, skipFrom, hblank, hcomment]

/-! ## Errors -/

/-- The error of a string is reported at its opening quote or where the scanner stops. -/
theorem position_of_stringFrom {start here : Position} {read cs : List Char} {e : ScanError}
    {s' : Scanner} (h : stringFrom start here read cs = (.error e, s')) :
    e.position = start ∨ e.position = s'.here := by
  fun_induction stringFrom start here read cs with
  | case1 => cases h; exact .inl rfl
  | case2 => cases h
  | case3 => cases h; exact .inl rfl
  | case4 => cases h; exact .inr rfl
  | case5 | case8 =>
    obtain ⟨he, rfl⟩ := Prod.mk.inj h
    rw [← Except.error.inj he]
    exact .inr rfl
  | case6 _ _ _ _ _ _ _ _ _ _ _ _ ih => exact ih h
  | case7 => cases h; exact .inr rfl
  | case9 _ _ _ _ _ _ _ ih => exact ih h
  | case10 => cases h; exact .inr rfl
  | case11 _ _ _ _ _ _ _ ih => exact ih h

/-- **A call that fails stays on its line**, and its error lies where the token starts or where the
scanner stops. -/
theorem token_error {s s' : Scanner} {e : ScanError} (h : s.token = (.error e, s')) :
    ∃ cs, s.MovesRight cs s' ∧ (e.position = s.here ∨ e.position = s'.here) := by
  obtain ⟨rest, here⟩ := s
  unfold token at h
  split at h
  · cases h
  · cases h
  · cases h
  · cases h
  · cases h
  · cases h
    exact ⟨[], .refl _, .inl rfl⟩
  · next cs hrest =>
    cases hrest
    split at h
    · cases h
    · next e' next hstring =>
      cases h
      obtain ⟨ds, hds⟩ := movesRight_stringFrom here (here.right 1) [] cs
      rw [hstring] at hds
      exact ⟨'"' :: ds, .cons (by decide) hds, position_of_stringFrom hstring⟩
  · split at h
    · cases h
    · split at h
      · cases h
      · split at h
        · cases h
        · cases h
          exact ⟨[], .refl _, .inl rfl⟩

/-! ## One call -/

/-- The scanner after some calls. -/
def after (s : Scanner) : Nat → Scanner
  | 0 => s
  | n + 1 => (s.after n).next.2

/-- The answer of a call, the first of them being number zero. -/
def answer (s : Scanner) (n : Nat) : Lexeme :=
  (s.after n).next.1

/-- **What a call does is true of the text.**  The call goes from `place` over the start of its
token to `behind`, answers `l`, and is followed by the answers `later`. -/
structure IsTrue (text : List Char) (place start behind : Nat) (l : Lexeme) (later : Nat → Lexeme) :
    Prop where
  /-- It does not go back. -/
  order : place ≤ start ∧ start ≤ behind
  /-- The token starts behind blanks and comments. -/
  skips : Skips ((text.drop place).take (start - place)) (text.drop start)
  /-- The position of the token is that of its first character. -/
  start_eq : l.start = Position.ofPlace text start
  /-- A token has a character. -/
  consumes (t : Token) : l.token = .ok t → t ≠ .endOfInput → start < behind
  /-- The end is answered at the end, and nowhere else. -/
  isEnd_iff : l.token = .ok .endOfInput ↔ start = text.length
  /-- After the end there is nothing else. -/
  ended : l.token = .ok .endOfInput → ∀ n, later n = l
  /-- An error lies between the start of the token and the character that comes next. -/
  position (e : ScanError) : l.token = .error e →
    ∃ k, start ≤ k ∧ k ≤ behind ∧ e.position = Position.ofPlace text k
  /-- An error gets further, or it is met for ever. -/
  progress (e : ScanError) : l.token = .error e → start < behind ∨ ∀ n, later n = l

theorem after_add (s : Scanner) (m n : Nat) : s.after (m + n) = (s.after m).after n := by
  induction n with
  | zero => rfl
  | succ n ih => exact congrArg (fun s => s.next.2) ih

theorem answer_add (s : Scanner) (m n : Nat) : s.answer (m + n) = (s.after m).answer n := by
  rw [answer, after_add]
  rfl

/-- A call that stays where its token starts is repeated for ever. -/
theorem answer_of_stuck {s : Scanner} (h : s.skip.token.2 = s.skip) (n : Nat) :
    s.answer n = s.answer 0 := by
  have hnext : s.skip.next = s.next := by rw [next, next, skip_skip]
  have hafter : ∀ n, s.skip.after n = s.skip := by
    intro n
    induction n with
    | zero => rfl
    | succ n ih =>
      have hstays : s.next.2 = s.skip := h
      rw [after, ih, hnext, hstays]
  cases n with
  | zero => rfl
  | succ n =>
    have hfirst : s.after 1 = s.skip := h
    rw [Nat.add_comm, answer_add, hfirst, answer, hafter, hnext]
    rfl

theorem token_of_nil {s : Scanner} (h : s.rest = []) : s.token = (.ok .endOfInput, s) := by
  unfold token
  simp only [h]

theorem MovesRight.eq_of_nil {s s' : Scanner} (h : s.MovesRight [] s') : s' = s := by
  obtain ⟨rest, here⟩ := s
  obtain ⟨rest', here'⟩ := s'
  obtain ⟨rfl, -, rfl⟩ := h
  rfl

/-- What a scanner that stands at `start` can do there: answer the end and stay, pass a token, or
fail. -/
inductive ReadsAt (text : List Char) (start : Nat) (s : Scanner) :
    Except ScanError Token → Scanner → Nat → Prop
  | ended (hstart : start = text.length) : ReadsAt text start s (.ok .endOfInput) s start
  | token {t : Token} {s' : Scanner} {behind : Nat} (ht : t ≠ .endOfInput)
      (hbehind : start < behind) (hle : behind ≤ text.length) :
      ReadsAt text start s (.ok t) s' behind
  | error {e : ScanError} {s' : Scanner} {behind k : Nat} (hstart : start < text.length)
      (hk : start ≤ k) (hbehind : k ≤ behind) (hposition : e.position = Position.ofPlace text k)
      (hprogress : start < behind ∨ s' = s) : ReadsAt text start s (.error e) s' behind

namespace StandsAt

variable {text : List Char} {place start : Nat} {s s' : Scanner}

/-- What a scanner does where it stands leads it to a place of the text. -/
theorem readsAt {result : Except ScanError Token} (h : s.StandsAt text start)
    (htoken : s.token = (result, s')) :
    ∃ behind, s'.StandsAt text behind ∧ ReadsAt text start s result s' behind := by
  have hlength := h.length_rest
  cases result with
  | ok t =>
    rcases token_ok htoken with ⟨hnil, rfl⟩ | ⟨hpasses, hproper⟩
    · rw [token_of_nil hnil] at htoken
      cases htoken
      rw [hnil] at hlength
      exact ⟨start, h, .ended hlength⟩
    · obtain ⟨behind, hlt, hbehind⟩ := h.passes hpasses
      exact ⟨behind, hbehind, .token (Token.ne_endOfInput hproper) hlt hbehind.le⟩
  | error e =>
    obtain ⟨cs, hmoves, hposition⟩ := token_error htoken
    have hbehind := h.moves hmoves
    have hstart : start < text.length := by
      refine Nat.lt_of_le_of_ne h.le fun hend => ?_
      have hnil : s.rest = [] := List.length_eq_zero_iff.1 (by omega)
      rw [token_of_nil hnil] at htoken
      cases htoken
    have hprogress : start < start + cs.length ∨ s' = s := by
      cases cs with
      | nil => exact .inr hmoves.eq_of_nil
      | cons c cs => exact .inl (by simp)
    refine ⟨_, hbehind, ?_⟩
    rcases hposition with hposition | hposition
    · exact .error hstart (Nat.le_refl _) (Nat.le_add_right _ _) (hposition.trans h.here) hprogress
    · exact .error hstart (Nat.le_add_right _ _) (Nat.le_refl _) (hposition.trans hbehind.here)
        hprogress

/-- **A call is true of the text**, wherever the scanner stands. -/
theorem isTrue_next {l : Lexeme} (h : s.StandsAt text place) (hnext : s.next = (l, s')) :
    ∃ start behind, s'.StandsAt text behind ∧ IsTrue text place start behind l s.answer := by
  obtain ⟨ds, hmoves, hskips⟩ := exists_skips s
  have hstart := h.moves hmoves
  have hskipped : Skips ((text.drop place).take (place + ds.length - place))
      (text.drop (place + ds.length)) := by
    rw [Nat.add_sub_cancel_left, ← hstart.rest, ← h.rest, hmoves.rest, List.take_left]
    exact hskips
  obtain ⟨result, htoken, rfl⟩ : ∃ result, s.skip.token = (result, s') ∧
      l = ⟨s.skip.here, result⟩ := by
    cases hnext
    exact ⟨_, rfl, rfl⟩
  obtain ⟨behind, hbehind, hreads⟩ := hstart.readsAt htoken
  have hstuck : s' = s.skip → ∀ n, s.answer n = ⟨s.skip.here, result⟩ := by
    intro hs' n
    rw [answer_of_stuck (by rw [htoken, hs']), answer, after, hnext]
  refine ⟨place + ds.length, behind, hbehind, ?_⟩
  cases hreads with
  | ended hend =>
    exact {
      order := ⟨Nat.le_add_right _ _, Nat.le_refl _⟩
      skips := hskipped
      start_eq := hstart.here
      consumes := by simp
      isEnd_iff := by simp [hend]
      ended := fun _ => hstuck rfl
      position := by simp
      progress := by simp }
  | token ht hlt hle =>
    have hne : place + ds.length ≠ text.length := by omega
    exact {
      order := ⟨Nat.le_add_right _ _, hlt.le⟩
      skips := hskipped
      start_eq := hstart.here
      consumes := fun _ _ _ => hlt
      isEnd_iff := by simp [ht, hne]
      ended := by simp [ht]
      position := by simp
      progress := by simp }
  | error hlt hk hle hposition hprogress =>
    exact {
      order := ⟨Nat.le_add_right _ _, hk.trans hle⟩
      skips := hskipped
      start_eq := hstart.here
      consumes := by simp
      isEnd_iff := by simp [hlt.ne]
      ended := by simp
      position := by
        rintro _ ⟨⟩
        exact ⟨_, hk, hle, hposition⟩
      progress := by
        rintro _ ⟨⟩
        exact hprogress.imp id hstuck }

end StandsAt

/-! ## Any number of calls -/

/-- The places that a scanner comes to, one call after the other. -/
theorem exists_standsAt (text : String) (n : Nat) :
    ∃ place, ((ofText text).after n).StandsAt text.toList place := by
  induction n with
  | zero => exact ⟨0, .ofText text⟩
  | succ n ih =>
    obtain ⟨place, hplace⟩ := ih
    obtain ⟨-, behind, hbehind, -⟩ := hplace.isTrue_next rfl
    exact ⟨behind, hbehind⟩

theorem StandsAt.eq {text : List Char} {s : Scanner} {j k : Nat} (hj : s.StandsAt text j)
    (hk : s.StandsAt text k) : j = k := by
  have hlength := hj.length_rest
  have hlength' := hk.length_rest
  omega

/-- **The positions of a scanner are true, and every call gets further or is repeated.**  Whatever
the calls before have answered, the scanner stands at a place of the text, and what it does next is
true of the text. -/
theorem answers_true (text : String) :
    ∃ place start : Nat → Nat, place 0 = 0 ∧
      ∀ n, ((ofText text).after n).StandsAt text.toList (place n) ∧
        IsTrue text.toList (place n) (start n) (place (n + 1)) ((ofText text).answer n)
          (fun m => (ofText text).answer (n + m)) := by
  choose place hplace using exists_standsAt text
  choose start behind hbehind htrue using fun n => (hplace n).isTrue_next rfl
  refine ⟨place, start, (hplace 0).eq (.ofText text), fun n => ⟨hplace n, ?_⟩⟩
  have hnext : behind n = place (n + 1) := (hbehind n).eq (hplace (n + 1))
  rw [← hnext]
  simp only [answer_add]
  exact htrue n

end Scanner

end RowFilter
