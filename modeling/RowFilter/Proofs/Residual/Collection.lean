import RowFilter.Proofs.Residual.Grammar

/-!
# Residuals that are one collection

A bracket or a brace at the start of a residual opens an array or a set.  If nothing but newlines
stands behind the bracket that closes it, then this collection is all there is: one query of one
expression, which asserts it.

Which bracket closes another is a matter of the tokens alone.  Tokens that close the brackets they
open have no front that does so and is followed by a closing bracket, so there is only one way to
cut a text at the bracket that closes its first one.

* `Grammar.Balanced.eq_of_closing` — the closing bracket is unique.
* `Grammar.Nested` — tokens that can stand inside of brackets.
* `Residual.IsCollection` — the residuals that are one collection.
* `Grammar.SpellsResidual.isCollection` — what starts with a bracket and ends with the one that
  closes it spells such a residual.
-/

set_option autoImplicit false

namespace RowFilter

/-- The term is an array or a set. -/
def Term.IsCollection (t : Term) : Prop :=
  ∃ es, t = .array es ∨ t = .set es

/-- **The residual is a single query that asserts an array or a set**, without a negation. -/
def Residual.IsCollection (r : Residual) : Prop :=
  ∃ t : Term, t.IsCollection ∧ r = [[⟨.term t, false⟩]]

namespace Grammar

/-! ## The closing bracket -/

theorem ne_newline_of_isClosing {c : Token} (hc : c.isClosing = true) : c ≠ .newline := by
  rintro rfl
  cases hc

theorem significant_closing {c : Token} (hc : c.isClosing = true) (depth : Nat)
    (ts : List Token) : significant depth (c :: ts) = c :: significant (depth - 1) ts := by
  rw [significant, if_neg fun h => ne_newline_of_isClosing hc h.2,
    Token.depthAfter_of_isClosing hc]

namespace Balanced

variable {ts us vs ws : List Token} {c d : Token}

/-- Balanced tokens have no bracket that closes one before them. -/
theorem not_closing (hts : Balanced ts) (hc : c.isClosing = true) :
    ¬ Balanced (ts ++ c :: us) := by
  intro h
  -- A newline behind them stands at depth 1 or 0, and is dropped only in the first case; behind the
  -- closing bracket both are depth 0.
  have hcut (depth : Nat) : c :: significant (depth - 1) (us ++ [.newline]) =
      c :: (us ++ significant depth [.newline]) := by
    have hdepth := h depth [.newline]
    rw [List.append_assoc, hts, List.cons_append, significant_closing hc, List.append_assoc]
      at hdepth
    exact List.append_cancel_left hdepth
  have hlength := congrArg List.length ((hcut 1).symm.trans (hcut 0))
  simp [significant] at hlength

/-- **The bracket that closes another is unique.** -/
theorem eq_of_closing (hts : Balanced ts) (hus : Balanced us) (hc : c.isClosing = true)
    (hd : d.isClosing = true) (h : ts ++ c :: vs = us ++ d :: ws) : vs = ws := by
  obtain ⟨as, rfl, has⟩ | ⟨as, rfl, has⟩ := List.append_eq_append_iff.1 h
  · cases as with
    | nil => exact (List.cons.inj has).2
    | cons a as => exact absurd hus ((List.cons.inj has).1 ▸ hts.not_closing hc)
  · cases as with
    | nil => exact (List.cons.inj has).2.symm
    | cons a as => exact absurd hts ((List.cons.inj has).1 ▸ hus.not_closing hd)

end Balanced

/-- **Tokens that can stand inside of brackets**: they close the brackets they open.  Of their
newlines none is significant there. -/
def Nested (ts : List Token) : Prop :=
  ∃ us, Balanced us ∧
    ∀ depth rest, significant (depth + 1) (ts ++ rest) = us ++ significant (depth + 1) rest

namespace Nested

variable {ts us : List Token}

theorem newlines (blanks : Nat) : Nested (List.replicate blanks .newline) := by
  refine ⟨[], .nil, fun depth rest => ?_⟩
  induction blanks with
  | zero => rfl
  | succ blanks ih =>
    rw [List.replicate_succ, List.cons_append, significant, if_pos ⟨Nat.succ_pos depth, rfl⟩, ih]

theorem plain {t : Token} (ht : t.isPlain = true) : Nested [t] :=
  have hbalanced : Balanced [t] := .cons ht .nil
  ⟨[t], hbalanced, fun depth rest => hbalanced (depth + 1) rest⟩

theorem append (hts : Nested ts) (hus : Nested us) : Nested (ts ++ us) := by
  obtain ⟨vs, hvs, hts⟩ := hts
  obtain ⟨ws, hws, hus⟩ := hus
  refine ⟨vs ++ ws, hvs.append hws, fun depth rest => ?_⟩
  rw [List.append_assoc, hts, hus, List.append_assoc]

theorem brackets {opening closing : Token} (hopening : opening ≠ .newline)
    (hclosing : closing.isClosing = true) (hopen : ∀ depth, opening.depthAfter depth = depth + 1)
    (hts : Nested ts) : Nested (opening :: (ts ++ [closing])) := by
  obtain ⟨us, hus, hts⟩ := hts
  have hclose (depth : Nat) : closing.depthAfter (depth + 1) = depth :=
    Token.depthAfter_of_isClosing hclosing (depth + 1)
  refine ⟨_, .brackets hopening (ne_newline_of_isClosing hclosing) hopen hclose hus,
    fun depth rest => ?_⟩
  rw [List.cons_append, significant, if_neg fun h => hopening h.2, hopen, List.append_assoc, hts,
    List.singleton_append, significant_closing hclosing, Nat.add_sub_cancel, List.cons_append,
    List.append_assoc, List.singleton_append]

end Nested

/-! ## Phrases that start with a bracket -/

section Phrases

variable {ts us vs rest : List Token} {opening closing : Token}
  (hopening : opening = .openBracket ∨ opening = .openBrace) (hclosing : closing.isClosing = true)
  (hus : Balanced us)

include hopening hclosing hus

/-- A term that starts with a bracket ends with the one that closes it. -/
theorem SpellsTerm.isCollection {t : Term} (h : SpellsTerm ts t)
    (heq : ts ++ rest = opening :: (us ++ closing :: vs)) : rest = vs ∧ t.IsCollection := by
  cases h with
  | literal hliteral =>
    obtain ⟨rfl, -⟩ := List.cons.inj heq
    rcases hopening with rfl | rfl <;> cases hliteral
  | @array ts es h =>
    rw [List.cons_append, List.append_assoc] at heq
    exact ⟨h.balanced.eq_of_closing hus rfl hclosing (List.cons.inj heq).2, es, .inl rfl⟩
  | @set ts es h =>
    rw [List.cons_append, List.append_assoc] at heq
    exact ⟨h.balanced.eq_of_closing hus rfl hclosing (List.cons.inj heq).2, es, .inr rfl⟩
  | _ => rcases hopening with rfl | rfl <;> cases (List.cons.inj heq).1

variable (hvs : ∀ t ∈ vs, t = .newline)

include hvs

/-- An expression that starts with a bracket and has only newlines behind the one that closes it
asserts a collection. -/
theorem SpellsExpression.isCollection {e : Expression} (h : SpellsExpression ts e)
    (heq : ts ++ rest = opening :: (us ++ closing :: vs)) :
    rest = vs ∧ ∃ t : Term, t.IsCollection ∧ e = ⟨.term t, false⟩ := by
  have hnot : ∀ ws, Token.not :: ws ≠ opening :: (us ++ closing :: vs) := by
    intro ws hws
    rcases hopening with rfl | rfl <;> cases (List.cons.inj hws).1
  cases h with
  | alone negated hterm =>
    cases negated with
    | true => exact absurd heq (hnot _)
    | false =>
      obtain ⟨hrest, es, ht⟩ := hterm.isCollection hopening hclosing hus heq
      refine ⟨hrest, _, ⟨es, ht⟩, ?_⟩
      rcases ht with rfl | rfl <;> rfl
  | comparison negated hterm hsign _ =>
    cases negated with
    | true => exact absurd heq (hnot _)
    | false =>
      rw [negation, if_neg Bool.false_ne_true, List.nil_append, List.append_assoc] at heq
      obtain ⟨rfl, -⟩ := hterm.isCollection hopening hclosing hus heq
      rw [hvs _ List.mem_cons_self] at hsign
      cases hsign

theorem SpellsQuery.isCollection {q : Query} (h : SpellsQuery ts q)
    (heq : ts ++ rest = opening :: (us ++ closing :: vs)) :
    rest = vs ∧ ∃ t : Term, t.IsCollection ∧ q = [⟨.term t, false⟩] := by
  cases h with
  | last h =>
    obtain ⟨hrest, t, ht, rfl⟩ := h.isCollection hopening hclosing hus hvs heq
    exact ⟨hrest, t, ht, rfl⟩
  | trailing h =>
    rw [List.append_assoc] at heq
    obtain ⟨rfl, -⟩ := h.isCollection hopening hclosing hus hvs heq
    cases hvs _ List.mem_cons_self
  | more h _ =>
    rw [List.append_assoc] at heq
    obtain ⟨rfl, -⟩ := h.isCollection hopening hclosing hus hvs heq
    cases hvs _ List.mem_cons_self

theorem SpellsQueries.isCollection {r : Residual}
    (h : SpellsQueries (opening :: (us ++ closing :: vs)) r) : r.IsCollection := by
  generalize heq : opening :: (us ++ closing :: vs) = ts at h
  cases h with
  | last blanks h =>
    obtain ⟨-, t, ht, rfl⟩ := h.isCollection hopening hclosing hus hvs heq.symm
    exact ⟨t, ht, rfl⟩
  | more blanks h hmore =>
    obtain ⟨rfl, -⟩ := h.isCollection hopening hclosing hus hvs heq.symm
    obtain ⟨token, ws, rfl, htoken⟩ := hmore.starts
    exact absurd (hvs token (by simp)) htoken

end Phrases

/-- Newlines at the front are all there is up to the first token that is none. -/
theorem eq_of_newlines {m n : Nat} {t u : Token} {ts us : List Token} (ht : t ≠ .newline)
    (hu : u ≠ .newline)
    (h : List.replicate m .newline ++ t :: ts = List.replicate n .newline ++ u :: us) :
    t :: ts = u :: us := by
  induction m generalizing n with
  | zero =>
    cases n with
    | zero => exact h
    | succ n => exact absurd (List.cons.inj h).1 ht
  | succ m ih =>
    cases n with
    | zero => exact absurd (List.cons.inj h).1.symm hu
    | succ n => exact ih (List.cons.inj h).2

/-- **Tokens that open a bracket first and close it last spell one collection.**  Newlines around it
and inside of it make no difference. -/
theorem SpellsResidual.isCollection {us : List Token} {opening closing : Token} {m n : Nat}
    {r : Residual} (hopening : opening = .openBracket ∨ opening = .openBrace)
    (hclosing : closing.isClosing = true) (hus : Nested us)
    (h : SpellsResidual (significant 0 (List.replicate m .newline ++
      opening :: (us ++ closing :: List.replicate n .newline))) r) : r.IsCollection := by
  obtain ⟨vs, hvs, hus⟩ := hus
  have hnewline : opening ≠ .newline := by rcases hopening with rfl | rfl <;> decide
  have hopen : opening.depthAfter 0 = 1 := by rcases hopening with rfl | rfl <;> rfl
  have hblanks : significant 0 (List.replicate n .newline) = List.replicate n .newline := by
    simpa [significant] using significant_newlines n []
  rw [significant_newlines, significant, if_neg fun h => Nat.lt_irrefl 0 h.1, hopen, hus,
    significant_closing hclosing, hblanks] at h
  generalize heq : List.replicate m Token.newline ++ _ = ts at h
  cases h with
  | none blanks =>
    have hmem : opening ∈ List.replicate blanks Token.newline := by simp [← heq]
    exact absurd (List.eq_of_mem_replicate hmem) hnewline
  | queries blanks h =>
    obtain ⟨token, ws, rfl, htoken⟩ := h.starts
    rw [← eq_of_newlines hnewline htoken heq] at h
    exact h.isCollection hopening hclosing hvs fun t ht => List.eq_of_mem_replicate ht

end Grammar

end RowFilter
