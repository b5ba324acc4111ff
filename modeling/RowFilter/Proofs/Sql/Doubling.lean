import Mathlib.Data.List.Basic
import RowFilter.Proofs.Sql.Quoting

/-!
# Texts with doubled quotes

Quotes are doubled in order that a text can be put between quotes.  This file is also about texts
that are looked for as they were, where their quotes have been doubled: a text with a quote in it is
not found where it stood, and what comes before the place where it is found has a quote that opens a
literal, and more quotes that close it.

* `doubled` — the text with every quote written twice.
* `cutLiterals_code_literal` — where the literal behind some code begins and ends.
* `literalBody_of_odd` — behind one quote too many a literal ends early.
* `append_ne_literal` — what is put at the place of such a text is not inside of a literal.
-/

set_option autoImplicit false

namespace RowFilter.Sql

/-- The text with every quote written twice. -/
def doubled (s : String) : String :=
  String.ofList (doubleQuotes s.toList)

theorem doubleQuotes_append (cs ds : List Char) :
    doubleQuotes (cs ++ ds) = doubleQuotes cs ++ doubleQuotes ds :=
  List.flatMap_append

theorem doubled_append (s t : String) : doubled (s ++ t) = doubled s ++ doubled t := by
  rw [doubled, String.toList_append, doubleQuotes_append, String.ofList_append, doubled, doubled]

theorem doubleQuotes_of_notMem {cs : List Char} (h : '\x27' ∉ cs) : doubleQuotes cs = cs := by
  induction cs with
  | nil => rfl
  | cons c cs ih =>
    rw [List.mem_cons, not_or] at h
    rw [doubleQuotes_cons, if_neg (Ne.symm h.1), ih h.2, List.singleton_append]

/-- Code with a literal behind it is cut into these two. -/
theorem cutLiterals_code_literal {code : String} (h : '\x27' ∉ code.toList) (value : String) :
    cutLiterals (code ++ literal value).toList =
      some { outside := code.toList.map some ++ [none], literals := [value] } := by
  have hliteral := cutLiterals_literal value noQuoteFirst_nil
  rw [List.append_nil, cutLiterals_nil] at hliteral
  rw [String.toList_append, cutLiterals_code h, hliteral]
  rfl

/-! ## One quote too many -/

/-- Equal texts have their first quotes at the same place. -/
theorem eq_of_first_quote {as bs cs ds : List Char} (ha : '\x27' ∉ as) (hb : '\x27' ∉ bs)
    (h : as ++ '\x27' :: cs = bs ++ '\x27' :: ds) : as = bs ∧ cs = ds := by
  induction as generalizing bs with
  | nil =>
    cases bs with
    | nil => exact ⟨rfl, (List.cons.inj h).2⟩
    | cons b bs => exact absurd List.mem_cons_self ((List.cons.inj h).1 ▸ hb)
  | cons a as ih =>
    cases bs with
    | nil => exact absurd List.mem_cons_self ((List.cons.inj h).1 ▸ ha)
    | cons b bs =>
      obtain ⟨rfl, hrest⟩ := List.cons.inj h
      rw [List.mem_cons, not_or] at ha hb
      obtain ⟨rfl, htails⟩ := ih ha.2 hb.2 hrest
      exact ⟨rfl, htails⟩

/-- Once there are too many quotes, doubling those that follow does not make up for it: where a text
goes on with another character, there is still a quote. -/
theorem replicate_doubleQuotes_ne {c : Char} (hc : c ≠ '\x27') (n : Nat) (cs ds es : List Char) :
    List.replicate (n + 1) '\x27' ++ doubleQuotes (cs ++ c :: ds) ≠ cs ++ c :: es := by
  induction cs generalizing n with
  | nil =>
    intro h
    exact hc (List.cons.inj h).1.symm
  | cons d cs ih =>
    intro h
    obtain ⟨rfl, hrest⟩ := List.cons.inj h
    have hquotes : List.replicate (n + 1 + 1) '\x27' =
        List.replicate n '\x27' ++ ['\x27', '\x27'] := List.replicate_add n 2 '\x27'
    refine ih (n + 1) (Eq.trans ?_ hrest)
    rw [hquotes, List.append_assoc]
    rfl

/-- **Behind one quote too many a literal ends early.** -/
theorem literalBody_of_odd {cs before rest : List Char} {c : Char} (hc : c ≠ '\x27')
    (h : doubleQuotes cs = before ++ c :: rest) (ds : List Char) :
    ∃ value after, literalBody ('\x27' :: (before ++ c :: ds)) = some (value, after) ∧
      after ≠ [] := by
  induction cs generalizing before with
  | nil => simp [doubleQuotes] at h
  | cons d cs ih =>
    rw [doubleQuotes_cons] at h
    by_cases hd : d = '\x27'
    · -- A pair of quotes is part of the literal, and leaves one too many as before.
      rw [if_pos hd] at h
      obtain _ | ⟨b₁, _ | ⟨b₂, before⟩⟩ := before
      · exact absurd (List.cons.inj h).1.symm hc
      · exact absurd (List.cons.inj (List.cons.inj h).2).1.symm hc
      · obtain ⟨rfl, hsecond⟩ := List.cons.inj h
        obtain ⟨rfl, hrest⟩ := List.cons.inj hsecond
        obtain ⟨value, after, hbody, hafter⟩ := ih hrest
        refine ⟨'\x27' :: value, after, ?_, hafter⟩
        rw [List.cons_append, List.cons_append, literalBody, hbody]
        rfl
    · have hnext : NoQuoteFirst (before ++ c :: ds) := by
        rw [if_neg hd] at h
        obtain _ | ⟨b, before⟩ := before
        · simpa [NoQuoteFirst] using hc
        · obtain ⟨rfl, -⟩ := List.cons.inj h
          simpa [NoQuoteFirst] using hd
      exact ⟨[], before ++ c :: ds, literalBody_quote hnext, by simp⟩

section Lead

variable {c : Char} {front back key before after : List Char}

/-- With its first quote doubled a text does not begin as it did.  If it is found there, then
further behind. -/
theorem quote_mem_of_found (hc : c ≠ '\x27') (hfront : '\x27' ∉ front)
    (h : front ++ '\x27' :: '\x27' :: doubleQuotes (back ++ c :: key) =
      before ++ (front ++ '\x27' :: (back ++ c :: after))) : '\x27' ∈ before := by
  by_contra hbefore
  have hboth : '\x27' ∉ before ++ front := by simp [hbefore, hfront]
  rw [← List.append_assoc] at h
  obtain ⟨-, hrest⟩ := eq_of_first_quote hfront hboth h
  exact replicate_doubleQuotes_ne hc 0 back key after hrest

/-- What stands before the place where the text is found does not open a literal that goes on to the
end of what is put there. -/
theorem append_ne_literal {code rest value : List Char} (hc : c ≠ '\x27') (hfront : '\x27' ∉ front)
    (hcode : '\x27' ∉ code) (hne : code ≠ [])
    (h : front ++ '\x27' :: '\x27' :: doubleQuotes (back ++ c :: key) =
      before ++ (front ++ '\x27' :: (back ++ c :: after))) :
    before ++ (code ++ rest) ≠ code ++ '\x27' :: (doubleQuotes value ++ ['\x27']) := by
  intro htext
  obtain ⟨as, bs, rfl, has⟩ := List.eq_append_cons_of_mem (quote_mem_of_found hc hfront h)
  rw [List.append_assoc, List.cons_append] at h htext
  obtain ⟨rfl, hfound⟩ := eq_of_first_quote hfront has h
  obtain ⟨rfl, hbody⟩ := eq_of_first_quote hfront hcode htext
  -- The first quote is one of a pair; the second of them is the one too many inside of the literal.
  obtain ⟨d, ds, rfl⟩ := List.exists_cons_of_ne_nil hne
  have hd : d ≠ '\x27' := fun heq => hcode (heq ▸ List.mem_cons_self)
  obtain _ | ⟨b, bs⟩ := bs
  · exact absurd (List.cons.inj hfound).1.symm hd
  obtain ⟨rfl, hplace⟩ := List.cons.inj hfound
  obtain ⟨_, left, hends, hleft⟩ := literalBody_of_odd hd hplace (ds ++ rest)
  have hvalue := literalBody_doubleQuotes value noQuoteFirst_nil
  rw [← hbody] at hvalue
  exact hleft (congrArg Prod.snd (Option.some.inj (hends.symm.trans hvalue)))

end Lead

end RowFilter.Sql
