import Mathlib.Data.List.Chain
import RowFilter.Sql.Node

/-!
# Where literals begin and end

A reader of SQL who knows nothing but the rule for quotes — a quote opens a literal, two quotes
inside of it stand for one, a single quote closes it — cuts a text into its literals and what
stands outside of them.  `cutLiterals` is this reader.  Outside of the literals it keeps the text
character by character, with a mark where a literal was, so that two texts with the same outside
have their literals at the same places.

* `literalBody` — a literal from behind its opening quote, and what follows it.  It undoes
  `doubleQuotes` (`literalBody_doubleQuotes`), provided that no quote follows.
* `cutLiterals_pieces` — a text put together from literals and from code without quotes is cut into
  these literals and this code, provided that no two literals touch.
-/

set_option autoImplicit false

namespace RowFilter.Sql

/-! ## One literal -/

/-- The value of a literal whose opening quote has just been read, and what follows its closing
quote.  There is none if the text ends before. -/
def literalBody : List Char → Option (List Char × List Char)
  | [] => none
  | '\x27' :: '\x27' :: cs => (literalBody cs).map fun r => ('\x27' :: r.1, r.2)
  | '\x27' :: cs => some ([], cs)
  | c :: cs => (literalBody cs).map fun r => (c :: r.1, r.2)

theorem literalBody_length {cs value rest : List Char}
    (h : literalBody cs = some (value, rest)) : rest.length < cs.length := by
  fun_induction literalBody cs generalizing value with
  | case1 => cases h
  | case2 cs ih =>
    obtain ⟨⟨v, r⟩, hr, heq⟩ := Option.map_eq_some_iff.1 h
    cases heq
    have hlt : r.length < cs.length := ih hr
    simp only [List.length_cons]
    omega
  | case3 cs => cases h; simp
  | case4 c cs _ _ ih =>
    obtain ⟨⟨v, r⟩, hr, heq⟩ := Option.map_eq_some_iff.1 h
    cases heq
    have hlt : r.length < cs.length := ih hr
    simp only [List.length_cons]
    omega

/-- What follows a literal does not go on with a quote, which would be taken as part of it. -/
def NoQuoteFirst (cs : List Char) : Prop :=
  ∀ c ∈ cs.head?, c ≠ '\x27'

theorem noQuoteFirst_nil : NoQuoteFirst [] := by
  simp [NoQuoteFirst]

theorem literalBody_quote {rest : List Char} (h : NoQuoteFirst rest) :
    literalBody ('\x27' :: rest) = some ([], rest) := by
  rw [literalBody]
  intro cs hcs
  exact h '\x27' (by simp [hcs]) rfl

theorem literalBody_cons {c : Char} (h : c ≠ '\x27') (cs : List Char) :
    literalBody (c :: cs) = (literalBody cs).map fun r => (c :: r.1, r.2) := by
  rw [literalBody]
  · exact fun _ hc _ => h hc
  · exact h

theorem doubleQuotes_cons (c : Char) (cs : List Char) :
    doubleQuotes (c :: cs) =
      (if c = '\x27' then ['\x27', '\x27'] else [c]) ++ doubleQuotes cs := rfl

/-- **A literal is read back as the characters that were written.** -/
theorem literalBody_doubleQuotes (cs : List Char) {rest : List Char} (h : NoQuoteFirst rest) :
    literalBody (doubleQuotes cs ++ '\x27' :: rest) = some (cs, rest) := by
  induction cs with
  | nil => exact literalBody_quote h
  | cons c cs ih =>
    rw [doubleQuotes_cons, List.append_assoc]
    by_cases hc : c = '\x27'
    · rw [if_pos hc, hc]
      show literalBody ('\x27' :: '\x27' :: (doubleQuotes cs ++ '\x27' :: rest)) = _
      rw [literalBody, ih]
      rfl
    · rw [if_neg hc, List.singleton_append, literalBody_cons hc, ih]
      rfl

theorem toList_literal (s : String) :
    (literal s).toList = '\x27' :: (doubleQuotes s.toList ++ ['\x27']) := by
  rw [literal, String.toList_ofList, List.cons_append]

/-! ## All literals of a text -/

/-- A text cut at its literals. -/
structure Cut where
  /-- The characters outside of the literals; `none` stands for a literal. -/
  outside : List (Option Char)
  /-- The values of the literals. -/
  literals : List String
deriving Repr, DecidableEq

namespace Cut

/-- A cut text with one more character in front. -/
def addChar (c : Char) (t : Cut) : Cut :=
  { t with outside := some c :: t.outside }

/-- A cut text with one more literal in front. -/
def addLiteral (value : String) (t : Cut) : Cut :=
  { outside := none :: t.outside, literals := value :: t.literals }

end Cut

/-- **A text cut at its literals**, unless it ends inside of one. -/
def cutLiterals (cs : List Char) : Option Cut :=
  match cs with
  | [] => some { outside := [], literals := [] }
  | c :: cs =>
    if c = '\x27' then
      match _h : literalBody cs with
      | none => none
      | some (value, rest) => (cutLiterals rest).map (Cut.addLiteral (String.ofList value))
    else (cutLiterals cs).map (Cut.addChar c)
termination_by cs.length
decreasing_by
  · have := literalBody_length _h
    simp only [List.length_cons]
    omega
  · simp

theorem cutLiterals_nil : cutLiterals [] = some { outside := [], literals := [] } := by
  rw [cutLiterals]

theorem cutLiterals_cons {c : Char} (h : c ≠ '\x27') (cs : List Char) :
    cutLiterals (c :: cs) = (cutLiterals cs).map (Cut.addChar c) := by
  rw [cutLiterals, if_neg h]

theorem cutLiterals_literal (s : String) {rest : List Char} (h : NoQuoteFirst rest) :
    cutLiterals ((literal s).toList ++ rest) = (cutLiterals rest).map (Cut.addLiteral s) := by
  have hbody := literalBody_doubleQuotes s.toList h
  rw [toList_literal, List.cons_append, List.append_assoc, List.singleton_append, cutLiterals,
    if_pos rfl]
  split
  · next hnone => rw [hbody] at hnone; cases hnone
  · next value rest' hsome =>
    rw [hbody] at hsome
    cases hsome
    rw [String.ofList_toList]

/-! ## Texts put together from pieces -/

/-- A part of a text: code without quotes, or a literal. -/
inductive Piece where
  /-- Code. -/
  | code (text : String)
  /-- A literal, by its value. -/
  | literal (value : String)
deriving Repr, DecidableEq

namespace Piece

/-- The text of a piece. -/
def text : Piece → String
  | code text => text
  | literal value => Sql.literal value

/-- What a piece leaves outside of the literals. -/
def outside : Piece → List (Option Char)
  | code text => text.toList.map some
  | literal _ => [none]

/-- The value of a piece that is a literal. -/
def value? : Piece → Option String
  | code _ => none
  | literal value => some value

/-- Code has no quotes in it. -/
def IsClean : Piece → Prop
  | code text => '\x27' ∉ text.toList
  | literal _ => True

/-- A literal is followed by code, of which there is some. -/
def Apart (p q : Piece) : Prop :=
  p.value?.isSome → ∃ text, q = code text ∧ text ≠ ""

end Piece

/-- The text of some pieces. -/
def textOf (ps : List Piece) : List Char :=
  ps.flatMap fun p => p.text.toList

/-- The same as a string. -/
def joinedText : List Piece → String
  | [] => ""
  | p :: ps => p.text ++ joinedText ps

theorem toList_joinedText (ps : List Piece) : (joinedText ps).toList = textOf ps := by
  induction ps with
  | nil => rfl
  | cons p ps ih => rw [joinedText, String.toList_append, ih, textOf, textOf, List.flatMap_cons]

theorem cutLiterals_code {cs : List Char} (h : '\x27' ∉ cs) (rest : List Char) :
    cutLiterals (cs ++ rest) =
      (cutLiterals rest).map fun t => { t with outside := cs.map some ++ t.outside } := by
  induction cs with
  | nil => simp
  | cons c cs ih =>
    rw [List.mem_cons, not_or] at h
    rw [List.cons_append, cutLiterals_cons (Ne.symm h.1), ih h.2, Option.map_map]
    rfl

/-- Behind a literal there is code, so no quote follows it. -/
theorem noQuoteFirst_textOf {s : String} {ps : List Piece} (hclean : ∀ p ∈ ps, p.IsClean)
    (hapart : (Piece.literal s :: ps).IsChain Piece.Apart) : NoQuoteFirst (textOf ps) := by
  cases ps with
  | nil => intro c hc; cases hc
  | cons p ps =>
    rw [List.isChain_cons_cons] at hapart
    obtain ⟨text, rfl, htext⟩ := hapart.1 rfl
    have hquote : '\x27' ∉ text.toList := hclean _ List.mem_cons_self
    intro c hc hc'
    subst hc'
    show False
    rw [textOf, List.flatMap_cons] at hc
    cases hlist : text.toList with
    | nil => exact htext (String.toList_eq_nil_iff.1 hlist)
    | cons d ds =>
      rw [show (Piece.code text).text.toList = d :: ds from hlist] at hc
      rw [hlist] at hquote
      simp only [List.cons_append, List.head?_cons, Option.mem_some_iff] at hc
      exact hquote (by rw [hc]; exact List.mem_cons_self)

/-- **A text is cut into the pieces that it was put together from.** -/
theorem cutLiterals_pieces {ps : List Piece} (hclean : ∀ p ∈ ps, p.IsClean)
    (hapart : ps.IsChain Piece.Apart) :
    cutLiterals (textOf ps) =
      some { outside := ps.flatMap Piece.outside, literals := ps.filterMap Piece.value? } := by
  induction ps with
  | nil => exact cutLiterals_nil
  | cons p ps ih =>
    have hps : ∀ q ∈ ps, q.IsClean := fun q hq => hclean q (List.mem_cons_of_mem _ hq)
    have hrest := ih hps hapart.tail
    rw [textOf, List.flatMap_cons, ← textOf]
    cases p with
    | code text =>
      rw [Piece.text, cutLiterals_code (hclean _ List.mem_cons_self), hrest]
      rfl
    | literal s =>
      rw [Piece.text, cutLiterals_literal s (noQuoteFirst_textOf hps hapart), hrest]
      rfl

end RowFilter.Sql
