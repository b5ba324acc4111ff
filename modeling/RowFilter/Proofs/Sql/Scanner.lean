import RowFilter.Number.Notation
import RowFilter.Proofs.Sql.Grammar
import RowFilter.Proofs.Sql.Quoting
import RowFilter.Proofs.Text.Character
import RowFilter.Sql.Rendering

/-!
# Lexemes and their texts

The text of a condition is the text of its lexemes, one after the other (`spelling`); the signs that
stand between two operands bring their blanks with them.  `scan` goes the other way.  It knows
nothing of columns: a word is a keyword or else a column, and so only a column whose text is a word
and no keyword can be told from the rest.

* `scan_spelling` — the lexemes of a text are found again, if its columns are such words, its
  numbers are numbers, and no two operands touch.
* `Derives.isChain` — in whatever the grammar derives, no two operands touch.
-/

set_option autoImplicit false

namespace RowFilter.Sql

/-! ## Spelling -/

/-- The text of a lexeme. -/
def Lexeme.text : Lexeme → String
  | boolean true => "true"
  | boolean false => "false"
  | string value => literal value
  | number text => text
  | column text => text
  | openArray => "ARRAY["
  | closeArray => "]"
  | openAny => "ANY("
  | openParen => "("
  | closeParen => ")"
  | comma => ", "
  | equality negate => " " ++ equalitySign negate ++ " "
  | overlap => " && "
  | and => " AND "
  | or => " OR "

/-- The text of some lexemes. -/
def spelling : List Lexeme → String
  | [] => ""
  | l :: ls => l.text ++ spelling ls

@[simp] theorem spelling_nil : spelling [] = "" := rfl

@[simp] theorem spelling_cons (l : Lexeme) (ls : List Lexeme) :
    spelling (l :: ls) = l.text ++ spelling ls := rfl

@[simp] theorem spelling_append (ls ms : List Lexeme) :
    spelling (ls ++ ms) = spelling ls ++ spelling ms := by
  induction ls with
  | nil => simp
  | cons l ls ih => simp [ih, String.append_assoc]

/-! ## Scanning -/

/-- The characters that a word starts with: letters, the underscore, and all that is not ASCII. -/
def isWordStart (c : Char) : Bool :=
  c.isAlpha || c == '_' || decide (128 ≤ c.toNat)

/-- The characters that a word goes on with. -/
def isWordChar (c : Char) : Bool :=
  isWordStart c || c.isDigit || c == '$'

/-- The characters that numbers are written with. -/
def isNumberChar (c : Char) : Bool :=
  c.isDigit || c == '.' || c == 'e' || c == 'E' || c == '+' || c == '-'

/-- The words that are no columns. -/
def keywords : List String :=
  ["true", "false", "AND", "OR", "ARRAY", "ANY"]

/-- Whether the characters are one word. -/
def isWord : List Char → Bool
  | [] => false
  | c :: cs => isWordStart c && cs.all isWordChar

/-- Whether the text of a column is one word and no keyword. -/
def isColumnWord (text : String) : Bool :=
  isWord text.toList && !keywords.contains text

/-- The lexeme of a word, with what is left of the text behind it. -/
def scanWord (word : String) (rest : List Char) : Option (Lexeme × List Char) :=
  if word = "true" then some (.boolean true, rest)
  else if word = "false" then some (.boolean false, rest)
  else if word = "AND" then some (.and, rest)
  else if word = "OR" then some (.or, rest)
  else if word = "ARRAY" then
    match rest with
    | '[' :: rest => some (.openArray, rest)
    | _ => none
  else if word = "ANY" then
    match rest with
    | '(' :: rest => some (.openAny, rest)
    | _ => none
  else some (.column word, rest)

/-- The lexeme of a row of characters that numbers are written with. -/
def scanNumber (cs rest : List Char) : Option (Lexeme × List Char) :=
  if Number.isNumber cs then some (.number (String.ofList cs), rest) else none

/-- The first lexeme of a text, which no blank precedes, with what is left of the text. -/
def scanOne : List Char → Option (Lexeme × List Char)
  | [] => none
  | '(' :: cs => some (.openParen, cs)
  | ')' :: cs => some (.closeParen, cs)
  | ']' :: cs => some (.closeArray, cs)
  | ',' :: cs => some (.comma, cs)
  | '=' :: cs => some (.equality false, cs)
  | '!' :: '=' :: cs => some (.equality true, cs)
  | '&' :: '&' :: cs => some (.overlap, cs)
  | '\x27' :: cs => (literalBody cs).map fun r => (.string (String.ofList r.1), r.2)
  | c :: cs =>
    if isWordStart c then
      scanWord (String.ofList (c :: cs.takeWhile isWordChar)) (cs.dropWhile isWordChar)
    else if isNumberChar c then
      scanNumber (c :: cs.takeWhile isNumberChar) (cs.dropWhile isNumberChar)
    else none

theorem scanWord_length {word : String} {cs rest : List Char} {l : Lexeme}
    (h : scanWord word cs = some (l, rest)) : rest.length ≤ cs.length := by
  unfold scanWord at h
  repeat' split at h
  all_goals cases h
  all_goals simp

theorem scanOne_length {cs rest : List Char} {l : Lexeme} (h : scanOne cs = some (l, rest)) :
    rest.length < cs.length := by
  unfold scanOne at h
  split at h
  case h_1 => cases h
  case h_9 cs =>
    obtain ⟨⟨value, r⟩, hbody, heq⟩ := Option.map_eq_some_iff.1 h
    cases heq
    exact Nat.lt_succ_of_lt (literalBody_length hbody)
  case h_10 c cs _ _ _ _ _ _ _ _ =>
    split at h
    · have hle := scanWord_length h
      have hdrop := (List.dropWhile_sublist (l := cs) isWordChar).length_le
      simp only [List.length_cons]
      omega
    · split at h
      · obtain ⟨_, heq⟩ := Option.ite_none_right_eq_some.1 h
        cases heq
        have hdrop := (List.dropWhile_sublist (l := cs) isNumberChar).length_le
        simp only [List.length_cons]
        omega
      · cases h
  all_goals
    cases h
    simp only [List.length_cons]
    omega

/-- **The lexemes of a text**, if it is made of lexemes and blanks. -/
def scan (cs : List Char) : Option (List Lexeme) :=
  match cs with
  | [] => some []
  | c :: cs =>
    if c = ' ' then scan cs
    else
      match _h : scanOne (c :: cs) with
      | none => none
      | some (l, rest) => (scan rest).map (l :: ·)
termination_by cs.length
decreasing_by
  · simp
  · exact scanOne_length _h

@[simp] theorem scan_nil : scan [] = some [] := by
  rw [scan]

@[simp] theorem scan_blank (cs : List Char) : scan (' ' :: cs) = scan cs := by
  rw [scan, if_pos rfl]

theorem scan_of_scanOne {c : Char} {cs rest : List Char} {l : Lexeme} (hc : c ≠ ' ')
    (h : scanOne (c :: cs) = some (l, rest)) : scan (c :: cs) = (scan rest).map (l :: ·) := by
  rw [scan, if_neg hc]
  split
  · next hnone => rw [h] at hnone; cases hnone
  · next l' rest' hsome => rw [h] at hsome; cases hsome; rfl

/-! ## The lexemes are found again -/

theorem scanOne_word {c : Char} {cs rest : List Char} (hc : isWordStart c = true)
    (hcs : cs.all isWordChar = true) (hrest : ∀ c ∈ rest.head?, isWordChar c = false) :
    scanOne (c :: (cs ++ rest)) = scanWord (String.ofList (c :: cs)) rest := by
  obtain ⟨htake, hdrop⟩ := Text.span_append hcs hrest
  rw [scanOne, if_pos hc, htake, hdrop]
  -- none of the signs starts a word
  all_goals
    intros
    subst_vars
    exact absurd hc (by decide)

theorem scanOne_number {c : Char} {cs rest : List Char} (hc : isNumberChar c = true)
    (hstart : isWordStart c = false) (hcs : cs.all isNumberChar = true)
    (hrest : ∀ c ∈ rest.head?, isNumberChar c = false) :
    scanOne (c :: (cs ++ rest)) = scanNumber (c :: cs) rest := by
  obtain ⟨htake, hdrop⟩ := Text.span_append hcs hrest
  rw [scanOne, if_neg (by simp [hstart]), if_pos hc, htake, hdrop]
  all_goals
    intros
    subst_vars
    exact absurd hc (by decide)

/-- A word is scanned as a whole. -/
theorem scan_word (word : String) {rest rest' : List Char} {l : Lexeme}
    (hword : isWord word.toList = true) (hrest : ∀ c ∈ rest.head?, isWordChar c = false)
    (hl : scanWord word rest = some (l, rest')) :
    scan (word.toList ++ rest) = (scan rest').map (l :: ·) := by
  cases hcs : word.toList with
  | nil => rw [hcs] at hword; cases hword
  | cons c cs =>
    rw [hcs, isWord, Bool.and_eq_true] at hword
    rw [List.cons_append]
    apply scan_of_scanOne
    · rintro rfl
      exact absurd hword.1 (by decide)
    · rw [scanOne_word hword.1 hword.2 hrest, ← hcs, String.ofList_toList, hl]

/-- Behind an operand, a text ends or goes on with one of these characters. -/
def BreakFirst (cs : List Char) : Prop :=
  ∀ c ∈ cs.head?, c = ' ' ∨ c = ',' ∨ c = ')' ∨ c = ']'

/-- No character that goes on with an operand is found behind one. -/
theorem BreakFirst.false_of_mem_head {cs : List Char} (h : BreakFirst cs) {p : Char → Bool}
    (hp : [' ', ',', ')', ']'].any p = false) : ∀ c ∈ cs.head?, p c = false := by
  intro c hc
  have hbreak : c ∈ [' ', ',', ')', ']'] := by simpa using h c hc
  simpa using List.any_eq_false.1 hp c hbreak

/-! ### Numbers -/

theorem isNumberChar_of_isDigit {c : Char} (h : c.isDigit = true) : isNumberChar c = true := by
  simp [isNumberChar, h]

theorem isWordStart_of_isDigit {c : Char} (h : c.isDigit = true) : isWordStart c = false := by
  rw [isWordStart, Text.isAlpha_of_isDigit h, Bool.false_or]
  exact decide_eq_false (Nat.not_le.2 (Text.toNat_lt_of_isDigit h))

theorem all_isNumberChar_cons {c : Char} {cs : List Char} (hc : isNumberChar c = true)
    (hcs : cs.all isNumberChar = true) : (c :: cs).all isNumberChar = true := by
  rw [List.all_cons, hc, hcs, Bool.and_true]

theorem all_isNumberChar_of_dropWhile {cs : List Char}
    (h : (cs.dropWhile Char.isDigit).all isNumberChar = true) : cs.all isNumberChar = true := by
  induction cs with
  | nil => rfl
  | cons c cs ih =>
    rw [List.dropWhile_cons] at h
    split at h
    · next hc => exact all_isNumberChar_cons (isNumberChar_of_isDigit hc) (ih h)
    · exact h

theorem all_isNumberChar_of_isDigits {cs : List Char} (h : Number.isDigits cs = true) :
    cs.all isNumberChar = true := by
  rw [Number.isDigits, Bool.and_eq_true] at h
  rw [List.all_eq_true] at h ⊢
  exact fun c hc => isNumberChar_of_isDigit (h.2 c hc)

theorem all_isNumberChar_of_isExponentPart {cs : List Char}
    (h : Number.isExponentPart cs = true) : cs.all isNumberChar = true := by
  cases cs with
  | nil => rfl
  | cons c cs =>
    rw [Number.isExponentPart, Bool.and_eq_true, Bool.or_eq_true, beq_iff_eq, beq_iff_eq] at h
    obtain ⟨hmark, hexponent⟩ := h
    refine all_isNumberChar_cons (by rcases hmark with rfl | rfl <;> rfl) ?_
    unfold Number.isExponent at hexponent
    split at hexponent
    · exact all_isNumberChar_cons rfl (all_isNumberChar_of_isDigits hexponent)
    · exact all_isNumberChar_cons rfl (all_isNumberChar_of_isDigits hexponent)
    · exact all_isNumberChar_of_isDigits hexponent

theorem all_isNumberChar_of_isFractionPart {cs : List Char}
    (h : Number.isFractionPart cs = true) : cs.all isNumberChar = true := by
  unfold Number.isFractionPart at h
  split at h
  · next cs =>
    rw [Bool.and_eq_true] at h
    exact all_isNumberChar_cons rfl
      (all_isNumberChar_of_dropWhile (all_isNumberChar_of_isExponentPart h.2))
  · exact all_isNumberChar_of_isExponentPart h

theorem isUnsigned_spec {cs : List Char} (h : Number.isUnsigned cs = true) :
    ∃ c ds, cs = c :: ds ∧ c.isDigit = true ∧ ds.all isNumberChar = true := by
  unfold Number.isUnsigned at h
  split at h
  · next ds => exact ⟨'0', ds, rfl, rfl, all_isNumberChar_of_isFractionPart h⟩
  · next c ds _ =>
    rw [Bool.and_eq_true] at h
    exact ⟨c, ds, rfl, h.1,
      all_isNumberChar_of_dropWhile (all_isNumberChar_of_isFractionPart h.2)⟩
  · cases h

/-- A number is written with the characters of numbers, and does not start like a word. -/
theorem isNumber_spec {cs : List Char} (h : Number.isNumber cs = true) :
    ∃ c ds, cs = c :: ds ∧ isNumberChar c = true ∧ isWordStart c = false ∧
      ds.all isNumberChar = true := by
  unfold Number.isNumber at h
  split at h
  · next ds =>
    obtain ⟨d, es, rfl, hd, hes⟩ := isUnsigned_spec h
    exact ⟨'-', d :: es, rfl, rfl, rfl, all_isNumberChar_cons (isNumberChar_of_isDigit hd) hes⟩
  · obtain ⟨d, es, rfl, hd, hes⟩ := isUnsigned_spec h
    exact ⟨d, es, rfl, isNumberChar_of_isDigit hd, isWordStart_of_isDigit hd, hes⟩

/-! ### Whole texts -/

namespace Lexeme

/-- Whether the lexeme can be told from others by its text: a column by a word that is no keyword, a
number by a number. -/
def isPlain : Lexeme → Bool
  | number text => Number.isValid text
  | column text => isColumnWord text
  | _ => true

/-- Whether the lexeme is an operand by itself. -/
def isAtom : Lexeme → Bool
  | boolean _ => true
  | string _ => true
  | number _ => true
  | column _ => true
  | _ => false

/-- Whether an operand can end in front of the lexeme. -/
def isBreak : Lexeme → Bool
  | closeArray => true
  | closeParen => true
  | comma => true
  | equality _ => true
  | overlap => true
  | and => true
  | or => true
  | _ => false

/-- Two lexemes that may follow each other: nothing but a break comes after an operand. -/
def Fits (l m : Lexeme) : Prop :=
  l.isAtom = true → m.isBreak = true

end Lexeme

theorem scan_column {text : String} (h : isColumnWord text = true) {rest : List Char}
    (hrest : BreakFirst rest) :
    scan (text.toList ++ rest) = (scan rest).map (.column text :: ·) := by
  rw [isColumnWord, Bool.and_eq_true, Bool.not_eq_true'] at h
  obtain ⟨hword, hkeyword⟩ := h
  refine scan_word text hword (hrest.false_of_mem_head (by decide)) ?_
  simp only [keywords, List.contains_eq_mem, List.mem_cons, List.not_mem_nil, or_false,
    decide_eq_false_iff_not, not_or] at hkeyword
  simp [scanWord, hkeyword]

theorem scan_number {text : String} (h : Number.isValid text = true) {rest : List Char}
    (hrest : BreakFirst rest) :
    scan (text.toList ++ rest) = (scan rest).map (.number text :: ·) := by
  rw [Number.isValid] at h
  obtain ⟨c, cs, htext, hc, hstart, hcs⟩ := isNumber_spec h
  rw [htext, List.cons_append]
  apply scan_of_scanOne
  · rintro rfl
    exact absurd hc (by decide)
  · rw [scanOne_number hc hstart hcs (hrest.false_of_mem_head (by decide)), scanNumber, ← htext,
      if_pos h, String.ofList_toList]

theorem scan_string (value : String) {rest : List Char} (hrest : BreakFirst rest) :
    scan ((literal value).toList ++ rest) = (scan rest).map (.string value :: ·) := by
  have hquote : NoQuoteFirst rest := by
    intro c hc hc'
    subst hc'
    exact absurd (hrest _ hc) (by decide)
  rw [toList_literal, List.cons_append, List.append_assoc, List.singleton_append]
  apply scan_of_scanOne (by decide)
  rw [scanOne, literalBody_doubleQuotes value.toList hquote]
  simp

/-- The words that signs are made of end at the blank or the bracket behind them. -/
theorem scan_keyword (word : String) {d : Char} {rest rest' : List Char} {l : Lexeme}
    (hword : isWord word.toList = true) (hd : isWordChar d = false)
    (hl : scanWord word (d :: rest) = some (l, rest')) :
    scan (word.toList ++ d :: rest) = (scan rest').map (l :: ·) :=
  scan_word word hword (by simpa using hd) hl

/-- **One lexeme is scanned as itself.** -/
theorem scan_lexeme {l : Lexeme} (hl : l.isPlain = true) {rest : List Char}
    (hrest : l.isAtom = true → BreakFirst rest) :
    scan (l.text.toList ++ rest) = (scan rest).map (l :: ·) := by
  cases l with
  | boolean b =>
    have hword := (hrest rfl).false_of_mem_head (p := isWordChar) (by decide)
    cases b with
    | true => exact scan_word "true" (by decide) hword rfl
    | false => exact scan_word "false" (by decide) hword rfl
  | string value => exact scan_string value (hrest rfl)
  | number text => exact scan_number hl (hrest rfl)
  | column text => exact scan_column hl (hrest rfl)
  | openArray => exact scan_keyword "ARRAY" (by decide) (by decide) rfl
  | openAny => exact scan_keyword "ANY" (by decide) (by decide) rfl
  | closeArray => exact scan_of_scanOne (by decide) rfl
  | openParen => exact scan_of_scanOne (by decide) rfl
  | closeParen => exact scan_of_scanOne (by decide) rfl
  | comma =>
    have hsign : scan (',' :: ' ' :: rest) = (scan (' ' :: rest)).map (.comma :: ·) :=
      scan_of_scanOne (by decide) rfl
    exact hsign.trans (by rw [scan_blank])
  | equality negate =>
    cases negate with
    | false =>
      have hsign : scan ('=' :: ' ' :: rest) = (scan (' ' :: rest)).map (.equality false :: ·) :=
        scan_of_scanOne (by decide) rfl
      exact (scan_blank _).trans (hsign.trans (by rw [scan_blank]))
    | true =>
      have hsign : scan ('!' :: '=' :: ' ' :: rest) =
          (scan (' ' :: rest)).map (.equality true :: ·) := scan_of_scanOne (by decide) rfl
      exact (scan_blank _).trans (hsign.trans (by rw [scan_blank]))
  | overlap =>
    have hsign : scan ('&' :: '&' :: ' ' :: rest) = (scan (' ' :: rest)).map (.overlap :: ·) :=
      scan_of_scanOne (by decide) rfl
    exact (scan_blank _).trans (hsign.trans (by rw [scan_blank]))
  | and =>
    have hsign : scan ("AND".toList ++ ' ' :: rest) = (scan (' ' :: rest)).map (.and :: ·) :=
      scan_keyword "AND" (by decide) (by decide) rfl
    exact (scan_blank _).trans (hsign.trans (by rw [scan_blank]))
  | or =>
    have hsign : scan ("OR".toList ++ ' ' :: rest) = (scan (' ' :: rest)).map (.or :: ·) :=
      scan_keyword "OR" (by decide) (by decide) rfl
    exact (scan_blank _).trans (hsign.trans (by rw [scan_blank]))

theorem Lexeme.breakFirst_text {l : Lexeme} (h : l.isBreak = true) (rest : List Char) :
    BreakFirst (l.text.toList ++ rest) := by
  have hfirst : ∃ c cs, l.text.toList = c :: cs ∧ (c = ' ' ∨ c = ',' ∨ c = ')' ∨ c = ']') := by
    cases l with
    | closeArray => exact ⟨']', [], by decide, by decide⟩
    | closeParen => exact ⟨')', [], by decide, by decide⟩
    | comma => exact ⟨',', [' '], by decide, by decide⟩
    | equality negate =>
      cases negate with
      | false => exact ⟨' ', ['=', ' '], by decide, by decide⟩
      | true => exact ⟨' ', ['!', '=', ' '], by decide, by decide⟩
    | overlap => exact ⟨' ', ['&', '&', ' '], by decide, by decide⟩
    | and => exact ⟨' ', ['A', 'N', 'D', ' '], by decide, by decide⟩
    | or => exact ⟨' ', ['O', 'R', ' '], by decide, by decide⟩
    | _ => cases h
  obtain ⟨c, cs, htext, hc⟩ := hfirst
  intro d hd
  rw [htext, List.cons_append, List.head?_cons, Option.mem_some_iff] at hd
  exact hd ▸ hc

/-- **The lexemes of a text are found again.** -/
theorem scan_spelling {ls : List Lexeme} (hplain : ∀ l ∈ ls, l.isPlain = true)
    (hfits : ls.IsChain Lexeme.Fits) : scan (spelling ls).toList = some ls := by
  induction ls with
  | nil => exact scan_nil
  | cons l ls ih =>
    have hrest := ih (fun m hm => hplain m (List.mem_cons_of_mem _ hm)) hfits.tail
    rw [spelling_cons, String.toList_append, scan_lexeme (hplain l List.mem_cons_self), hrest]
    · rfl
    · intro hatom
      cases ls with
      | nil => intro c hc; cases hc
      | cons m ms =>
        rw [List.isChain_cons_cons] at hfits
        rw [spelling_cons, String.toList_append]
        exact Lexeme.breakFirst_text (hfits.1 hatom) _

/-! ## Operands do not touch -/

theorem isChain_fits_cons {ls : List Lexeme} {l : Lexeme} (hls : ls.IsChain Lexeme.Fits)
    (hatom : l.isAtom = false) : (l :: ls).IsChain Lexeme.Fits := by
  rw [List.isChain_cons]
  refine ⟨fun m _ h => ?_, hls⟩
  rw [hatom] at h
  cases h

/-- Between two lists of lexemes, a break that is no operand keeps operands apart. -/
theorem isChain_fits_append {ls ms : List Lexeme} {l : Lexeme} (hls : ls.IsChain Lexeme.Fits)
    (hms : ms.IsChain Lexeme.Fits) (hatom : l.isAtom = false) (hbreak : l.isBreak = true) :
    (ls ++ l :: ms).IsChain Lexeme.Fits := by
  rw [List.isChain_append]
  refine ⟨hls, isChain_fits_cons hms hatom, fun k _ m hm _ => ?_⟩
  rw [List.head?_cons, Option.mem_some_iff] at hm
  exact hm ▸ hbreak

/-- **In whatever the grammar derives, no two operands touch.** -/
theorem Derives.isChain {p : Phrase} {ls : List Lexeme} (h : Derives p ls) :
    ls.IsChain Lexeme.Fits := by
  induction h with
  | boolean b => exact List.isChain_singleton _
  | string s => exact List.isChain_singleton _
  | number t => exact List.isChain_singleton _
  | column c => exact List.isChain_singleton _
  | parens _ ih => exact isChain_fits_cons (isChain_fits_append ih .nil rfl rfl) rfl
  | emptyArray => exact isChain_fits_cons (List.isChain_singleton _) rfl
  | array _ ih => exact isChain_fits_cons (isChain_fits_append ih .nil rfl rfl) rfl
  | element _ ih => exact ih
  | moreElements _ _ ih ihs => exact isChain_fits_append ih ihs rfl rfl
  | bare _ ih => exact ih
  | compare _ _ ihl ihr => exact isChain_fits_append ihl ihr rfl rfl
  | compareAny _ _ ihl ihr =>
    exact isChain_fits_append ihl
      (isChain_fits_cons (isChain_fits_append ihr .nil rfl rfl) rfl) rfl rfl
  | overlap _ _ ihl ihr => exact isChain_fits_append ihl ihr rfl rfl
  | conjunct _ ih => exact ih
  | moreConjuncts _ _ ih ihs => exact isChain_fits_append ih ihs rfl rfl
  | disjunct _ ih => exact ih
  | moreDisjuncts _ _ ih ihs => exact isChain_fits_append ih ihs rfl rfl
  | condition _ ih => exact ih

end RowFilter.Sql
