import RowFilter.Proofs.Token.Answers
import RowFilter.Text.Basic

/-!
# Writing tokens

Characters *write* tokens if a scanner finds these tokens in them, whatever stands behind.  A word
or a number is found only where it ends, so something is asked of the character that follows.

Strings need care.  A printed string escapes two control characters, the backspace U+0008 and the
form feed U+000C, by letters that the scanner does not know.  All other strings are read back.  What
contains one of the two is written for the eye only: the scanner stops with an error in it.

* `IsReadable` — the strings without these two characters.
* `Scanner.Writes` — characters and the tokens that are found in them, if all strings are readable;
  if one is not, an error is found behind some of the tokens.
* `Scanner.Writes.append` — pieces of text are scanned one after the other.
* `Scanner.writes_word`, `Scanner.writes_number`, `Scanner.writes_string` — the tokens that are
  written by more than fixed characters.
-/

set_option autoImplicit false

namespace RowFilter

/-- The text contains neither a backspace nor a form feed. -/
def IsReadable (s : String) : Prop :=
  '\x08' ∉ s.toList ∧ '\x0c' ∉ s.toList

namespace Scanner

/-! ## Blanks -/

theorem skip_blank (cs : List Char) (here : Position) :
    (⟨' ' :: cs, here⟩ : Scanner).skip = (⟨cs, here.right 1⟩ : Scanner).skip := rfl

/-- Nothing is skipped before a character that starts a token. -/
theorem skip_of_ne {c : Char} (hcomment : c ≠ '#') (hblank : Text.isBlank c = false)
    (cs : List Char) (here : Position) :
    (⟨c :: cs, here⟩ : Scanner).skip = ⟨c :: cs, here⟩ := by
  rw [skip, skipFrom, beq_eq_false_iff_ne.2 hcomment, hblank]
  split <;> rfl

theorem Yields.of_skip {s s' : Scanner} {ts : List Token} {ending : Option ScanError}
    (h : s'.Yields ts ending) (hskip : s.skip = s'.skip) : s.Yields ts ending := by
  have hnext : s.next = s'.next := by rw [next, next, hskip]
  cases h with
  | ended h hl => exact .ended (hnext.trans h) hl
  | failed h hl => exact .failed (hnext.trans h) hl
  | more h hl ht hts => exact .more (hnext.trans h) hl ht hts

/-! ## Pieces of text -/

/-- **The characters `cs` write the tokens `ts`**, if the strings among them, `ss`, are readable and
the next character satisfies `follows`.  If some string is not readable, an error is found behind
some of the tokens. -/
structure Writes (cs : List Char) (follows : Char → Bool) (ts : List Token) (ss : List String) :
    Prop where
  done {rest : List Char} (here : Position) : (∀ c ∈ rest.head?, follows c = true) →
    (∀ s ∈ ss, IsReadable s) →
    ∃ here', ∀ us ending, (⟨rest, here'⟩ : Scanner).Yields us ending →
      (⟨cs ++ rest, here⟩ : Scanner).Yields (ts ++ us) ending
  failed {rest : List Char} (here : Position) : (∀ c ∈ rest.head?, follows c = true) →
    (¬ ∀ s ∈ ss, IsReadable s) →
    ∃ us e, us <+: ts ∧ (⟨cs ++ rest, here⟩ : Scanner).Yields us (some e)

namespace Writes

variable {cs ds : List Char} {follows follows' : Char → Bool} {ts us : List Token}
  {ss ss' : List String}

theorem nil : Writes [] follows [] [] where
  done here _ _ := ⟨here, fun _ _ h => h⟩
  failed _ _ h := absurd (by simp) h

theorem mono (h : Writes cs follows ts ss) (hfollows : ∀ c, follows' c = true → follows c = true) :
    Writes cs follows' ts ss where
  done here hrest hss := h.done here (fun c hc => hfollows c (hrest c hc)) hss
  failed here hrest hss := h.failed here (fun c hc => hfollows c (hrest c hc)) hss

theorem blank : Writes [' '] follows [] [] where
  done here _ _ := ⟨here.right 1, fun _ _ h => h.of_skip (skip_blank _ here)⟩
  failed _ _ h := absurd (by simp) h

/-- **Pieces are scanned one after the other**, if what follows the first piece may follow it. -/
theorem append (h : Writes cs follows ts ss) (h' : Writes ds follows' us ss')
    (hfollows : ∀ c, c ∈ ds.head? ∨ ds = [] ∧ follows' c = true → follows c = true) :
    Writes (cs ++ ds) follows' (ts ++ us) (ss ++ ss') := by
  have hfirst : ∀ {rest : List Char}, (∀ c ∈ rest.head?, follows' c = true) →
      ∀ c ∈ (ds ++ rest).head?, follows c = true := by
    intro rest hrest c hc
    cases ds with
    | nil => exact hfollows c (.inr ⟨rfl, hrest c hc⟩)
    | cons d ds => exact hfollows c (.inl hc)
  constructor
  · intro rest here hrest hss
    rw [List.forall_mem_append] at hss
    obtain ⟨here₁, h₁⟩ := h.done here (hfirst hrest) hss.1
    obtain ⟨here₂, h₂⟩ := h'.done here₁ hrest hss.2
    refine ⟨here₂, fun vs ending hvs => ?_⟩
    rw [List.append_assoc, List.append_assoc]
    exact h₁ _ _ (h₂ vs ending hvs)
  · intro rest here hrest hss
    rw [List.append_assoc]
    by_cases hreadable : ∀ s ∈ ss, IsReadable s
    · have hss' : ¬ ∀ s ∈ ss', IsReadable s := fun hss' =>
        hss (List.forall_mem_append.2 ⟨hreadable, hss'⟩)
      obtain ⟨here₁, h₁⟩ := h.done here (hfirst hrest) hreadable
      obtain ⟨vs, e, hvs, hyields⟩ := h'.failed here₁ hrest hss'
      exact ⟨ts ++ vs, e, (List.prefix_append_right_inj ts).2 hvs, h₁ _ _ hyields⟩
    · obtain ⟨vs, e, hvs, hyields⟩ := h.failed here (hfirst hrest) hreadable
      exact ⟨vs, e, hvs.trans (List.prefix_append ts us), hyields⟩

theorem append_cons {d : Char} (h : Writes cs follows ts ss) (h' : Writes (d :: ds) follows' us ss')
    (hd : follows d = true) : Writes (cs ++ d :: ds) follows' (ts ++ us) (ss ++ ss') := by
  refine h.append h' ?_
  rintro c (hc | ⟨hc, -⟩)
  · cases hc
    exact hd
  · cases hc

/-- A string that is readable anyway makes no difference. -/
theorem readable {s : String} (h : Writes cs follows ts ss) (hs : IsReadable s) :
    Writes cs follows ts (s :: ss) where
  done here hrest hss := h.done here hrest (List.forall_mem_cons.1 hss).2
  failed here hrest hss := h.failed here hrest fun hall => hss (List.forall_mem_cons.2 ⟨hs, hall⟩)

/-- A token that is found at the very front of its characters. -/
theorem token {c : Char} {t : Token} (hcomment : c ≠ '#') (hblank : Text.isBlank c = false)
    (ht : t ≠ .endOfInput)
    (h : ∀ rest here, (∀ c ∈ rest.head?, follows c = true) →
      ∃ here', (⟨c :: (cs ++ rest), here⟩ : Scanner).token = (.ok t, ⟨rest, here'⟩)) :
    Writes (c :: cs) follows [t] [] where
  done {rest} here hrest _ := by
    obtain ⟨here', htoken⟩ := h rest here hrest
    refine ⟨here', fun us ending hus => ?_⟩
    refine .more ?_ rfl ht hus (l := ⟨here, .ok t⟩)
    rw [next, List.cons_append, skip_of_ne hcomment hblank, htoken]
  failed _ _ h := absurd (by simp) h

end Writes

/-! ## Fixed characters -/

theorem writes_single {c : Char} {t : Token} {follows : Char → Bool} (h : single c = some t) :
    Writes [c] follows [t] [] := by
  have hc : c ≠ '#' ∧ Text.isBlank c = false ∧ t ≠ .endOfInput := by
    unfold single at h
    split at h <;> cases h <;> decide
  refine .token hc.1 hc.2.1 hc.2.2 fun rest here _ => ⟨here.right 1, ?_⟩
  unfold single at h
  split at h <;> cases h <;> rfl

theorem writes_newline {follows : Char → Bool} : Writes ['\n'] follows [.newline] [] where
  done here _ _ :=
    ⟨here.nextLine, fun _ _ h => .more rfl rfl (by decide) h (l := ⟨here, .ok .newline⟩)⟩
  failed _ _ h := absurd (by simp) h

theorem writes_equals : Writes ['='] (fun c => decide (c = ' ')) [.equals] [] := by
  refine .token (by decide) rfl (by decide) fun rest here hrest => ⟨here.right 1, ?_⟩
  cases rest with
  | nil => rfl
  | cons c rest =>
    obtain rfl : c = ' ' := of_decide_eq_true (hrest c rfl)
    rfl

theorem writes_doubleEquals {follows : Char → Bool} :
    Writes ['=', '='] follows [.doubleEquals] [] :=
  .token (by decide) rfl (by decide) fun _ here _ => ⟨here.right 2, rfl⟩

theorem writes_notEquals {follows : Char → Bool} : Writes ['!', '='] follows [.notEquals] [] :=
  .token (by decide) rfl (by decide) fun _ here _ => ⟨here.right 2, rfl⟩

/-! ## Words and numbers -/

/-- The characters that start a token by themselves. -/
def specials : List Char :=
  ['\n', '=', '!', '"', '.', ',', ';', '(', ')', '[', ']', '\x7b', '\x7d']

/-- A character of a class without these starts a number or a word. -/
theorem token_of_class {p : Char → Bool} (hp : specials.any p = false) {c : Char}
    (hc : p c = true) (cs : List Char) (here : Position) :
    (⟨c :: cs, here⟩ : Scanner).token =
      if c.isDigit || (c == '-' && startsWithDigit cs) then
        (.ok (.number (String.ofList (number (c :: cs)))),
          (⟨c :: cs, here⟩ : Scanner).drop (number (c :: cs)).length)
      else if isIdentifierStart c then
        (.ok (Token.ofWord (String.ofList (c :: cs.takeWhile isIdentifierRest))),
          (⟨c :: cs, here⟩ : Scanner).drop (c :: cs.takeWhile isIdentifierRest).length)
      else (.error ⟨.unexpected c, here⟩, ⟨c :: cs, here⟩) := by
  have hne : ∀ d ∈ specials, c ≠ d := by
    rintro d hd rfl
    exact absurd hc (by simpa using List.any_eq_false.1 hp c hd)
  have hsingle : single c = none := by
    unfold single
    split <;> first | rfl | exact absurd rfl (hne _ (by decide))
  unfold token
  split
  · next heq => cases heq
  · next heq => cases heq; exact absurd rfl (hne _ (by decide))
  · next heq => cases heq; exact absurd rfl (hne _ (by decide))
  · next heq => cases heq; exact absurd rfl (hne _ (by decide))
  · next heq => cases heq; exact absurd rfl (hne _ (by decide))
  · next heq => cases heq; exact absurd rfl (hne _ (by decide))
  · next heq => cases heq; exact absurd rfl (hne _ (by decide))
  · next heq =>
    cases heq
    rw [hsingle]

theorem drop_append (cs rest : List Char) (here : Position) :
    (⟨cs ++ rest, here⟩ : Scanner).drop cs.length = ⟨rest, here.right cs.length⟩ := by
  rw [drop, List.drop_left]

/-- **A word is found where no character follows that could belong to it.** -/
theorem writes_word {c : Char} {cs : List Char} (hc : isIdentifierStart c = true)
    (hcs : cs.all isIdentifierRest = true) :
    Writes (c :: cs) (fun d => !isIdentifierRest d) [Token.ofWord (String.ofList (c :: cs))]
      [] := by
  have hproper := Token.isProper_ofWord String.toList_ofList hc hcs
  have hdigit : c.isDigit = false := by
    by_contra hdigit
    rw [Text.isIdentifierStart_of_isDigit (Bool.not_eq_false _ ▸ hdigit)] at hc
    cases hc
  have hminus : c ≠ '-' := by
    rintro rfl
    exact absurd hc (by decide)
  have hcomment : c ≠ '#' := by
    rintro rfl
    exact absurd hc (by decide)
  have hblank : Text.isBlank c = false := by
    by_contra hblank
    rw [Text.isIdentifierStart_of_isBlank (Bool.not_eq_false _ ▸ hblank)] at hc
    cases hc
  refine .token hcomment hblank (Token.ne_endOfInput hproper) fun rest here hrest =>
    ⟨here.right (c :: cs).length, ?_⟩
  have htake : (cs ++ rest).takeWhile isIdentifierRest = cs :=
    (Text.span_append hcs fun d hd => by simpa using hrest d hd).1
  rw [token_of_class (by decide) hc, hdigit, beq_eq_false_iff_ne.2 hminus, htake, if_neg (by simp),
    if_pos hc, ← List.cons_append, drop_append]

/-- What ends a word ends a number as well, except for the point. -/
def endsNumber (c : Char) : Bool :=
  !isIdentifierRest c && c != '.'

theorem breaksNumber_of_endsNumber {rest : List Char} (h : ∀ c ∈ rest.head?, endsNumber c = true) :
    BreaksNumber rest := by
  intro c hc
  have hends := h c hc
  rw [endsNumber, Bool.and_eq_true, Bool.not_eq_true', bne_iff_ne] at hends
  refine ⟨?_, hends.2, ?_, ?_⟩
  · by_contra hdigit
    rw [Text.isIdentifierRest_of_isDigit (Bool.not_eq_false _ ▸ hdigit)] at hends
    cases hends.1
  · rintro rfl
    exact absurd hends.1 (by decide)
  · rintro rfl
    exact absurd hends.1 (by decide)

/-- **A numeral is found where no character follows that could belong to it.** -/
theorem writes_number {text : String} (h : Number.isNumeral text.toList = true) :
    Writes text.toList endsNumber [.number text] [] := by
  obtain ⟨c, cs, hcs, hc⟩ := exists_of_isNumeral h
  have hclass : (c.isDigit || c == '-') = true := by
    rw [Bool.or_eq_true, Bool.and_eq_true] at hc
    rw [Bool.or_eq_true]
    exact hc.imp_right And.left
  have hstart : c ≠ '#' ∧ Text.isBlank c = false := by
    rw [Bool.or_eq_true, beq_iff_eq] at hclass
    rcases hclass with hdigit | rfl
    · refine ⟨?_, Text.isBlank_of_isDigit hdigit⟩
      rintro rfl
      exact absurd hdigit (by decide)
    · decide
  have hfront : ∀ rest, (c.isDigit || (c == '-' && startsWithDigit (cs ++ rest))) = true := by
    intro rest
    cases cs with
    | nil =>
      rw [show startsWithDigit [] = false from rfl, Bool.and_false, Bool.or_false] at hc
      rw [hc, Bool.true_or]
    | cons d cs => exact hc
  rw [hcs]
  refine .token hstart.1 hstart.2 (by simp) fun rest here hrest =>
    ⟨here.right (c :: cs).length, ?_⟩
  have hnumber := number_append h (breaksNumber_of_endsNumber hrest)
  rw [hcs] at hnumber
  rw [token_of_class (p := fun c => c.isDigit || c == '-') (by decide) hclass, if_pos (hfront rest),
    ← List.cons_append, hnumber, drop_append, ← hcs, String.ofList_toList]

/-! ## Strings -/

open Text.Quoted (encodeChar encode)

theorem stringFrom_plain {c : Char} (hquote : c ≠ '"') (hline : c ≠ '\n') (hslash : c ≠ '\\')
    (start here : Position) (read cs : List Char) :
    stringFrom start here read (c :: cs) = stringFrom start (here.right 1) (c :: read) cs := by
  rw [stringFrom]
  all_goals simp_all

theorem paddedHex_control : ∀ n < 32, Text.paddedHex 4 n =
    ['0', '0', Nat.digitChar (n / 16), Nat.digitChar (n % 16)] := by
  decide

theorem hexValue_digitChar : ∀ n < 16, isHexDigit (Nat.digitChar n) = true ∧
    hexValue (Nat.digitChar n) = n := by
  decide

/-- A control character is read back from its hexadecimal digits. -/
theorem stringFrom_control {n : Nat} (hn : n < 32) (start here : Position) (read cs : List Char) :
    stringFrom start here read ('\\' :: 'u' :: (Text.paddedHex 4 n ++ cs)) =
      stringFrom start (here.right 6) (Char.ofNat n :: read) cs := by
  have hhigh := hexValue_digitChar (n / 16) (by omega)
  have hlow := hexValue_digitChar (n % 16) (by omega)
  have hzero : isHexDigit '0' = true ∧ hexValue '0' = 0 := by decide
  have hcode : ((0 * 16 + 0) * 16 + n / 16) * 16 + n % 16 = n := by omega
  have hchar : charOfCode n = some (Char.ofNat n) := by
    rw [charOfCode, if_pos]
    exact Or.inl (by omega)
  rw [paddedHex_control n hn, List.cons_append, List.cons_append, List.cons_append,
    List.cons_append, List.nil_append, stringFrom]
  simp only [List.take_succ_cons, List.take_zero, List.takeWhile_cons, hhigh, hlow, hzero, if_true,
    List.takeWhile_nil, List.length_cons, List.length_nil]
  rw [if_neg (by decide), hcode, hchar]

theorem stringFrom_encodeChar {c : Char} (hbackspace : c ≠ '\x08') (hfeed : c ≠ '\x0c')
    (start here : Position) (read cs : List Char) :
    ∃ here', stringFrom start here read (encodeChar c ++ cs) =
      stringFrom start here' (c :: read) cs := by
  unfold encodeChar
  split
  · next h => subst h; exact ⟨_, rfl⟩
  split
  · next h => subst h; exact ⟨_, rfl⟩
  split
  · next h => subst h; exact ⟨_, rfl⟩
  split
  · next h => subst h; exact ⟨_, rfl⟩
  split
  · next h => subst h; exact ⟨_, rfl⟩
  split
  · next h =>
    refine ⟨here.right 6, ?_⟩
    rw [List.cons_append, List.cons_append, stringFrom_control h, Char.ofNat_toNat]
  · next hquote hslash hline _ _ _ =>
    exact ⟨here.right 1, stringFrom_plain hquote hline hslash start here read cs⟩

/-- The letters that stand for the backspace and the form feed are unknown to the scanner. -/
theorem stringFrom_encodeChar_error {c : Char} (hc : c = '\x08' ∨ c = '\x0c')
    (start here : Position) (read cs : List Char) :
    ∃ e s, stringFrom start here read (encodeChar c ++ cs) = (.error e, s) := by
  rcases hc with rfl | rfl <;> exact ⟨_, _, rfl⟩

theorem stringFrom_encode {cs : List Char} (hbackspace : '\x08' ∉ cs) (hfeed : '\x0c' ∉ cs)
    (start here : Position) (read rest : List Char) :
    ∃ here', stringFrom start here read (encode cs ++ '"' :: rest) =
      (.ok (String.ofList (read.reverse ++ cs)), ⟨rest, here'⟩) := by
  induction cs generalizing here read with
  | nil => exact ⟨here.right 1, by rw [List.append_nil]; rfl⟩
  | cons c cs ih =>
    rw [List.mem_cons, not_or] at hbackspace hfeed
    obtain ⟨here₁, hchar⟩ := stringFrom_encodeChar (Ne.symm hbackspace.1) (Ne.symm hfeed.1) start
      here read (encode cs ++ '"' :: rest)
    obtain ⟨here₂, hrest⟩ := ih hbackspace.2 hfeed.2 here₁ (c :: read)
    refine ⟨here₂, ?_⟩
    rw [encode, List.flatMap_cons, List.append_assoc]
    rw [← encode, hchar, hrest, List.reverse_cons, List.append_assoc, List.singleton_append]

theorem stringFrom_encode_error {cs : List Char} (h : '\x08' ∈ cs ∨ '\x0c' ∈ cs)
    (start here : Position) (read rest : List Char) :
    ∃ e s, stringFrom start here read (encode cs ++ rest) = (.error e, s) := by
  induction cs generalizing here read with
  | nil => simp at h
  | cons c cs ih =>
    rw [encode, List.flatMap_cons, List.append_assoc]
    rw [← encode]
    by_cases hc : c = '\x08' ∨ c = '\x0c'
    · exact stringFrom_encodeChar_error hc start here read _
    · rw [not_or] at hc
      obtain ⟨here₁, hchar⟩ := stringFrom_encodeChar hc.1 hc.2 start here read (encode cs ++ rest)
      rw [hchar]
      refine ih ?_ here₁ (c :: read)
      rw [List.mem_cons, List.mem_cons] at h
      exact h.imp (fun h => h.resolve_left (Ne.symm hc.1)) fun h => h.resolve_left (Ne.symm hc.2)

theorem next_string {cs : List Char} {here : Position} {result : Except ScanError String}
    {s : Scanner} (h : stringFrom here (here.right 1) [] cs = (result, s)) :
    (⟨'"' :: cs, here⟩ : Scanner).next = (⟨here, result.map .string⟩, s) := by
  rw [next, skip_of_ne (by decide) rfl]
  simp only [token, h]
  cases result <;> rfl

/-- **A printed string is read back if it is readable**, and not otherwise. -/
theorem writes_string (s : String) {follows : Char → Bool} :
    Writes (Text.quoted s).toList follows [.string s] [s] := by
  have hquoted : ∀ rest, (Text.quoted s).toList ++ rest =
      '"' :: (encode s.toList ++ '"' :: rest) := by
    intro rest
    simp [Text.quoted]
  constructor
  · intro rest here _ hs
    obtain ⟨hbackspace, hfeed⟩ := hs s (List.mem_singleton_self s)
    obtain ⟨here', hstring⟩ := stringFrom_encode hbackspace hfeed here (here.right 1) [] rest
    rw [List.reverse_nil, List.nil_append, String.ofList_toList] at hstring
    refine ⟨here', fun us ending hus => ?_⟩
    rw [hquoted]
    exact .more (next_string hstring) rfl (by simp) hus
  · intro rest here _ hs
    have hmem : '\x08' ∈ s.toList ∨ '\x0c' ∈ s.toList := by
      by_contra hnone
      rw [not_or] at hnone
      exact hs fun s' hs' => List.mem_singleton.1 hs' ▸ hnone
    obtain ⟨e, s', hstring⟩ := stringFrom_encode_error hmem here (here.right 1) [] ('"' :: rest)
    rw [hquoted]
    exact ⟨[], e, List.nil_prefix, .failed (next_string hstring) rfl⟩

end Scanner

end RowFilter
