import RowFilter.Proofs.Token.Positions

/-!
# The stream of a text is what its scanner answers

A parser does not call a scanner.  It has the answers before it, as a finite list and the answer of
all further calls.  That there is such a finite list is a fact about scanners: a call that gets
nowhere is repeated for ever, and a text has room for so many calls only that get somewhere.  That
the list is found by looking at positions is one too, since no two places of a text have the same.

* `Position.ofPlace_injective` — the position tells the place.
* `TokenStream.Lists` — the stream holds all answers of the scanner.
* `TokenStream.lists_ofText` — that of a text does.
* `TokenStream.Lists.answer_eq` — one answer after the other.
-/

set_option autoImplicit false

namespace RowFilter

theorem Position.ofPlace_ne {text : List Char} {j k : Nat} (hlt : j < k) (hk : k ≤ text.length) :
    ofPlace text j ≠ ofPlace text k := by
  intro heq
  have hlength : ((text.drop j).take (k - j)).length = k - j := by
    rw [List.length_take, List.length_drop]
    omega
  have hbetween := (List.take_append_drop (k - j) (text.drop j)).symm
  generalize (text.drop j).take (k - j) = cs at hlength hbetween
  have hk' : k = j + cs.length := by omega
  by_cases hline : '\n' ∈ cs
  · have htake : text.take k = text.take j ++ cs := by
      rw [hk', List.take_add, hbetween, List.take_left]
    have hpos := List.count_pos_iff.2 hline
    have hlines := congrArg line heq
    simp only [ofPlace, htake, List.count_append] at hlines
    omega
  · rw [hk', ofPlace_add hbetween hline] at heq
    exact right_ne (by omega) heq.symm

/-- **The position tells the place.** -/
theorem Position.ofPlace_injective {text : List Char} {j k : Nat} (hj : j ≤ text.length)
    (hk : k ≤ text.length) (h : ofPlace text j = ofPlace text k) : j = k := by
  rcases Nat.lt_trichotomy j k with hlt | heq | hlt
  · exact absurd h (ofPlace_ne hlt hk)
  · exact heq
  · exact absurd h.symm (ofPlace_ne hlt hj)

theorem Lexeme.isEnd_iff {l : Lexeme} : l.isEnd = true ↔ l.token = .ok .endOfInput := by
  unfold isEnd
  split
  · next h => simp [h]
  · next h => simpa using h

namespace TokenStream

/-- The answer of a call, the first of them being number zero. -/
def answer (stream : TokenStream) (n : Nat) : Lexeme :=
  stream.first.getD n stream.last

/-- **The stream holds all answers of the scanner**: first those of the calls that get somewhere,
and then the one that is given for ever, which is the end of the text or an error. -/
inductive Lists : Scanner → TokenStream → Prop
  | last {s : Scanner} {l : Lexeme} (hanswer : ∀ n, s.answer n = l)
      (hl : ∀ t, l.token = .ok t → t = .endOfInput) : Lists s ⟨[], l⟩
  | more {s s' : Scanner} {l last : Lexeme} {ls : List Lexeme} (hnext : s.next = (l, s'))
      (hl : l.token ≠ .ok .endOfInput) (hlt : s'.rest.length < s.rest.length)
      (h : Lists s' ⟨ls, last⟩) : Lists s ⟨l :: ls, last⟩

namespace Lists

variable {s : Scanner} {stream : TokenStream}

theorem answer_eq (h : Lists s stream) (n : Nat) : stream.answer n = s.answer n := by
  induction h generalizing n with
  | last hanswer _ => exact (hanswer n).symm
  | @more s s' l last ls hnext _ _ _ ih =>
    cases n with
    | zero => exact (congrArg Prod.fst hnext).symm
    | succ n =>
      have hfirst : s.after 1 = s' := congrArg Prod.snd hnext
      rw [Nat.add_comm, Scanner.answer_add, hfirst, ← ih n, Nat.add_comm]
      rfl

theorem length_le (h : Lists s stream) : stream.first.length ≤ s.rest.length := by
  induction h with
  | last => exact Nat.zero_le _
  | more _ _ hlt _ ih => exact Nat.lt_of_le_of_lt ih hlt

/-- What is left of the stream are the answers after some calls. -/
theorem suffix (h : Lists s stream) {ls : List Lexeme} (hls : ls <:+ stream.first) :
    ∃ n, Lists (s.after n) ⟨ls, stream.last⟩ := by
  induction h with
  | last hanswer hl =>
    obtain rfl := List.suffix_nil.1 hls
    exact ⟨0, .last hanswer hl⟩
  | @more s s' l last rest hnext hl hlt h ih =>
    rcases List.suffix_cons_iff.1 hls with rfl | hls
    · exact ⟨0, .more hnext hl hlt h⟩
    · obtain ⟨n, hn⟩ := ih hls
      have hfirst : s.after 1 = s' := congrArg Prod.snd hnext
      rw [← hfirst, ← Scanner.after_add] at hn
      exact ⟨1 + n, hn⟩

theorem exists_gives (h : Lists s stream) : ∃ ts ending, stream.Gives ts ending := by
  induction h with
  | @last s l _ hl =>
    cases htoken : l.token with
    | ok t =>
      obtain rfl := hl t htoken
      exact ⟨[], none, .ended htoken⟩
    | error e => exact ⟨[], some e, .stuck htoken⟩
  | @more s s' l last ls _ hl _ _ ih =>
    cases htoken : l.token with
    | ok t =>
      obtain ⟨ts, ending, hgives⟩ := ih
      have ht : t ≠ .endOfInput := by
        rintro rfl
        exact hl htoken
      exact ⟨t :: ts, ending, .more htoken ht hgives⟩
    | error e => exact ⟨[], some e, .failed htoken⟩

end Lists

theorem lists_ofScanner {text : List Char} {place bound : Nat} {s : Scanner}
    (h : s.StandsAt text place) (hbound : s.rest.length ≤ bound) :
    Lists s (ofScanner bound s) := by
  obtain ⟨l, s', hnext⟩ : ∃ l s', s.next = (l, s') := ⟨_, _, rfl⟩
  induction bound generalizing s place l s' with
  | zero =>
    obtain ⟨start, behind, hbehind, htrue⟩ := h.isTrue_next hnext
    have hlength := h.length_rest
    have hle := hbehind.le
    have horder := htrue.order
    have hend := htrue.isEnd_iff.2 (by omega)
    rw [ofScanner_zero hnext]
    exact .last (htrue.ended hend) fun t ht => Except.ok.inj (ht.symm.trans hend)
  | succ bound ih =>
    obtain ⟨start, behind, hbehind, htrue⟩ := h.isTrue_next hnext
    have hlength := h.length_rest
    have hlength' := hbehind.length_rest
    have horder := htrue.order
    rw [ofScanner_succ hnext]
    by_cases hend : l.isEnd = true
    · have htoken := Lexeme.isEnd_iff.1 hend
      rw [if_pos (by simp [hend])]
      exact .last (htrue.ended htoken) fun t ht => Except.ok.inj (ht.symm.trans htoken)
    have hl : l.token ≠ .ok .endOfInput := fun htoken => hend (Lexeme.isEnd_iff.2 htoken)
    by_cases hhere : s'.here = s.here
    · -- the call has got nowhere, so its answer is an error that is given for ever
      have hplace : behind = place := by
        rw [hbehind.here, h.here] at hhere
        exact Position.ofPlace_injective hbehind.le h.le hhere
      rw [if_pos (by simp [hhere])]
      cases htoken : l.token with
      | ok t =>
        have ht : t ≠ .endOfInput := fun ht => hl (ht ▸ htoken)
        have hlt := htrue.consumes t htoken ht
        omega
      | error e =>
        rcases htrue.progress e htoken with hlt | hanswer
        · omega
        · exact .last hanswer fun t ht => by cases htoken.symm.trans ht
    · have hplace : place ≠ behind := by
        rintro rfl
        exact hhere (hbehind.here.trans h.here.symm)
      rw [if_neg (by simp [hend, hhere])]
      exact .more hnext hl (by omega) (ih hbehind (by omega) _ _ rfl)

/-- **The stream of a text holds all answers of its scanner.** -/
theorem lists_ofText (text : String) : Lists (Scanner.ofText text) (ofText text) :=
  lists_ofScanner (.ofText text) (Nat.le_refl _)

end TokenStream

end RowFilter
