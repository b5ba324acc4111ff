import RowFilter.Proofs.Residual.Lookahead

/-!
# What a parser keeps

A call of a parser may fail inside of brackets, and the parser is used again after that.  Three
things hold whatever the tokens are, and whatever state the calls before have left.

* The brackets are balanced: a step that is done has closed those that it opened.
* What lies ahead gets shorter at its front and does not change otherwise, also if the step fails.
* Fuel makes no difference: a step that does not use up its fuel does the same with more of it.

They are proved together, as one relation between the outcomes of a step and of the same step with
more fuel (`Outcome.Settles`), which is composed along the steps of the parser.

* `settlesAt`, `settles_expression`, `settles_query`, `settles_residual` — the functions of the
  grammar.
* `eq_of_settles` — a step that does not use up its fuel never needs more.
-/

set_option autoImplicit false

namespace RowFilter

/-- The stream goes on with the other one, some answers further. -/
def TokenStream.Continues (stream' stream : TokenStream) : Prop :=
  stream'.last = stream.last ∧ stream'.first <:+ stream.first

theorem TokenStream.Continues.refl (stream : TokenStream) : stream.Continues stream :=
  ⟨rfl, List.suffix_refl _⟩

namespace Parser

/-- **The outcomes of a step, once with less and once with more fuel.**  If the fuel is not used up,
they are the same, the stream is continued, and where the step is done, `depth` brackets are
open. -/
inductive Outcome.Settles {α : Type} (stream : TokenStream) (depth : Nat) :
    Outcome α → Outcome α → Prop
  | done {a : α} {p : Parser} (hdepth : p.depth = depth) (hahead : p.ahead.Continues stream) :
      Settles stream depth (.done a p) (.done a p)
  | failed {e : ParseError} {p : Parser} (hahead : p.ahead.Continues stream) :
      Settles stream depth (.failed e p) (.failed e p)
  | exhausted {outcome : Outcome α} : Settles stream depth .exhausted outcome

variable {α β : Type} {stream : TokenStream} {depth depth' : Nat} {p : Parser}

/-- **Steps settle one after the other.** -/
theorem Outcome.Settles.bind {step step' : Step α} {f f' : α → Step β}
    (h : (step p).Settles stream depth (step' p))
    (hf : ∀ a q, q.depth = depth → q.ahead.Continues stream →
      (f a q).Settles stream depth' (f' a q)) :
    ((step >>= f) p).Settles stream depth' ((step' >>= f') p) := by
  simp only [Bind.bind]
  generalize step p = outcome, step' p = outcome' at h
  cases h with
  | done hdepth hahead => exact hf _ _ hdepth hahead
  | failed hahead => exact .failed hahead
  | exhausted => exact .exhausted

/-! ## Steps that take no fuel -/

/-- The step settles, its fuel being out of the question. -/
def Outcome.Keeps (stream : TokenStream) (depth : Nat) (outcome : Outcome α) : Prop :=
  outcome.Settles stream depth outcome

theorem keeps_advanceThrough (hlast : p.ahead.last = stream.last) (ls : List Lexeme)
    (hls : ls <:+ stream.first) : (advanceThrough p ls).Keeps stream p.depth := by
  induction ls generalizing p with
  | nil =>
    rw [advanceThrough]
    split
    · exact .done rfl ⟨hlast, hls⟩
    · exact .failed ⟨hlast, hls⟩
  | cons l ls ih =>
    have hls : ls <:+ stream.first := (List.suffix_cons l ls).trans hls
    rw [advanceThrough]
    split
    · dsimp only
      split
      · exact ih (p := ⟨⟨ls, p.ahead.last⟩, _, l.start, p.depth⟩) hlast hls
      · exact .done rfl ⟨hlast, hls⟩
    · exact .failed ⟨hlast, hls⟩

theorem keeps_advance (hp : p.ahead.Continues stream) : (advance p).Keeps stream p.depth :=
  keeps_advanceThrough hp.1 _ hp.2

theorem keeps_enter (hp : p.ahead.Continues stream) : (enter p).Keeps stream (p.depth + 1) :=
  keeps_advance (p := { p with depth := p.depth + 1 }) hp

theorem keeps_taking_advance (hp : p.ahead.Continues stream) :
    (taking advance p).Keeps stream p.depth :=
  keeps_advance (p := { p with current := .endOfInput }) hp

theorem keeps_taking_enter (hp : p.ahead.Continues stream) :
    (taking enter p).Keeps stream (p.depth + 1) :=
  keeps_enter (p := { p with current := .endOfInput }) hp

theorem keeps_leave (closing : Token) (hp : p.ahead.Continues stream) :
    (leave closing p).Keeps stream (p.depth - 1) := by
  rw [leave, looksAt_bind]
  by_cases hcurrent : p.current = closing
  · rw [decide_eq_true hcurrent]
    exact keeps_advance (p := { p with depth := p.depth - 1 }) hp
  · rw [decide_eq_false hcurrent]
    exact .failed hp

theorem keeps_expect (t : Token) (hp : p.ahead.Continues stream) :
    (expect t p).Keeps stream p.depth := by
  rw [expect, looksAt_bind]
  by_cases hcurrent : p.current = t
  · rw [decide_eq_true hcurrent]
    exact keeps_advance hp
  · rw [decide_eq_false hcurrent]
    exact .failed hp

theorem keeps_separator (last between : Token) (hp : p.ahead.Continues stream) :
    (separator last between p).Keeps stream p.depth := by
  by_cases hcurrent : p.current = last
  · rw [separator_of_eq hcurrent]
    exact .done rfl hp
  · rw [separator_of_ne hcurrent]
    exact keeps_expect between hp

theorem keeps_fieldName (hp : p.ahead.Continues stream) : (fieldName p).Keeps stream p.depth := by
  cases hname : p.current.fieldName? with
  | some name =>
    rw [fieldName_eq hname]
    exact .done rfl hp
  | none =>
    rw [fieldName_other hname]
    exact .failed hp

/-! ## Terms -/

/-- What a term can start with. -/
theorem startsTerm_cases (t : Token) :
    (∃ v, t.literal? = some v) ∨ (∃ name, t = .identifier name) ∨ t = .openBracket ∨
      t = .openBrace ∨ t = .openParen ∨ t.startsTerm = false := by
  cases t <;> simp [Token.literal?, Token.startsTerm]

/-- What a reference can go on with. -/
theorem extendsTerm_cases (t : Token) :
    t = .dot ∨ t = .openBracket ∨ t = .openParen ∨ t.extendsTerm = false := by
  cases t <;> simp [Token.extendsTerm]

/-- The functions for terms settle with the given fuel.  The elements of a bracket come with the
closing one, whose opening one has been counted before. -/
structure SettlesAt (fuel : Nat) : Prop where
  term {stream : TokenStream} {p : Parser} : p.ahead.Continues stream →
    (termWith fuel p).Settles stream p.depth (termWith (fuel + 1) p)
  elements {stream : TokenStream} {p : Parser} (closing : Token) : p.ahead.Continues stream →
    (elementsWith fuel closing p).Settles stream (p.depth - 1) (elementsWith (fuel + 1) closing p)
  suffix {stream : TokenStream} {p : Parser} : p.ahead.Continues stream →
    (suffixWith fuel p).Settles stream p.depth (suffixWith (fuel + 1) p)

namespace SettlesAt

variable {fuel : Nat}

theorem zero : SettlesAt 0 where
  term _ := .exhausted
  elements _ _ := .exhausted
  suffix _ := .exhausted

/-- Elements between brackets. -/
theorem between (ih : SettlesAt fuel) {enter : Step Unit} (closing : Token)
    (build : List Term → α) (henter : (enter p).Keeps stream (p.depth + 1)) :
    ((do enter; let es ← elementsWith fuel closing; pure (build es) : Step α) p).Settles stream
      p.depth
      ((do enter; let es ← elementsWith (fuel + 1) closing; pure (build es) : Step α) p) := by
  refine henter.bind fun _ q hdepth hq => (ih.elements closing hq).bind fun es q' hdepth' hq' => ?_
  exact .done (by rw [hdepth', hdepth, Nat.add_sub_cancel]) hq'

/-- A term between brackets. -/
theorem inside (ih : SettlesAt fuel) {enter : Step Unit} (closing : Token) {f f' : Term → Step α}
    (henter : (enter p).Keeps stream (p.depth + 1))
    (hf : ∀ t q, q.depth = p.depth → q.ahead.Continues stream →
      (f t q).Settles stream depth' (f' t q)) :
    ((do enter; let t ← termWith fuel; leave closing; f t : Step α) p).Settles stream depth'
      ((do enter; let t ← termWith (fuel + 1); leave closing; f' t : Step α) p) := by
  refine henter.bind fun _ q hdepth hq => (ih.term hq).bind fun t q' hdepth' hq' =>
    (keeps_leave closing hq').bind fun _ q'' hdepth'' hq'' => hf t q'' ?_ hq''
  rw [hdepth'', hdepth', hdepth, Nat.add_sub_cancel]

theorem term_succ (ih : SettlesAt fuel) (hp : p.ahead.Continues stream) :
    (termWith (fuel + 1) p).Settles stream p.depth (termWith (fuel + 2) p) := by
  rcases startsTerm_cases p.current with
    ⟨v, hcurrent⟩ | ⟨name, hcurrent⟩ | hcurrent | hcurrent | hcurrent | hcurrent
  · rw [termWith_literal hcurrent rfl, termWith_literal hcurrent rfl]
    exact (keeps_taking_advance hp).bind fun _ q hdepth hq => .done hdepth hq
  · rw [termWith_identifier hcurrent, termWith_identifier hcurrent]
    refine (keeps_taking_advance hp).bind fun _ q hdepth hq =>
      (ih.suffix hq).bind fun _ q' hdepth' hq' => ?_
    exact .done (hdepth'.trans hdepth) hq'
  · rw [termWith_openBracket hcurrent, termWith_openBracket hcurrent]
    exact ih.between .closeBracket Term.array (keeps_taking_enter hp)
  · rw [termWith_openBrace hcurrent, termWith_openBrace hcurrent]
    exact ih.between .closeBrace Term.set (keeps_taking_enter hp)
  · rw [termWith_openParen hcurrent, termWith_openParen hcurrent]
    exact ih.inside .closeParen (keeps_taking_enter hp) fun t q hdepth hq => .done hdepth hq
  · rw [termWith_other hcurrent, termWith_other hcurrent]
    exact .failed hp

theorem elements_succ (ih : SettlesAt fuel) (closing : Token) (hp : p.ahead.Continues stream) :
    (elementsWith (fuel + 1) closing p).Settles stream (p.depth - 1)
      (elementsWith (fuel + 2) closing p) := by
  by_cases hcurrent : p.current = closing
  · rw [elementsWith_closing hcurrent, elementsWith_closing hcurrent]
    exact (keeps_leave closing hp).bind fun _ q hdepth hq => .done hdepth hq
  · rw [elementsWith_more hcurrent, elementsWith_more hcurrent]
    refine (ih.term hp).bind fun t q hdepth hq =>
      (keeps_separator closing .comma hq).bind fun _ q' hdepth' hq' =>
        (ih.elements closing hq').bind fun ts q'' hdepth'' hq'' => ?_
    exact .done (by rw [hdepth'', hdepth', hdepth]) hq''

theorem suffix_succ (ih : SettlesAt fuel) (hp : p.ahead.Continues stream) :
    (suffixWith (fuel + 1) p).Settles stream p.depth (suffixWith (fuel + 2) p) := by
  rcases extendsTerm_cases p.current with hcurrent | hcurrent | hcurrent | hcurrent
  · rw [suffixWith_dot hcurrent, suffixWith_dot hcurrent]
    refine (keeps_advance hp).bind fun _ q hdepth hq =>
      (keeps_fieldName hq).bind fun name q₁ hdepth₁ hq₁ =>
        (keeps_advance hq₁).bind fun _ q₂ hdepth₂ hq₂ =>
          (ih.suffix hq₂).bind fun _ q₃ hdepth₃ hq₃ => ?_
    exact .done (by rw [hdepth₃, hdepth₂, hdepth₁, hdepth]) hq₃
  · rw [suffixWith_openBracket hcurrent, suffixWith_openBracket hcurrent]
    refine ih.inside .closeBracket (keeps_enter hp) fun key q hdepth hq =>
      (ih.suffix hq).bind fun _ q' hdepth' hq' => ?_
    exact .done (hdepth'.trans hdepth) hq'
  · rw [suffixWith_openParen hcurrent, suffixWith_openParen hcurrent]
    exact ih.between .closeParen (fun arguments => ([], some arguments)) (keeps_enter hp)
  · rw [suffixWith_other hcurrent, suffixWith_other hcurrent]
    exact .done rfl hp

end SettlesAt

theorem settlesAt (fuel : Nat) : SettlesAt fuel := by
  induction fuel with
  | zero => exact .zero
  | succ fuel ih => exact ⟨ih.term_succ, ih.elements_succ, ih.suffix_succ⟩

/-! ## Expressions, queries and residuals -/

theorem settles_operation (fuel : Nat) (negated : Bool) (left : Term)
    (hp : p.ahead.Continues stream) :
    (operation fuel negated left p).Settles stream p.depth
      (operation (fuel + 1) negated left p) := by
  cases hsign : p.current.operator? with
  | none =>
    rw [operation_none hsign, operation_none hsign]
    exact .done rfl hp
  | some operator =>
    rw [operation_some hsign, operation_some hsign]
    refine (keeps_advance hp).bind fun _ q hdepth hq =>
      ((settlesAt fuel).term hq).bind fun right q' hdepth' hq' => ?_
    exact .done (hdepth'.trans hdepth) hq'

theorem settles_expression (fuel : Nat) (hp : p.ahead.Continues stream) :
    (expressionWith fuel p).Settles stream p.depth (expressionWith (fuel + 1) p) := by
  have hleft : ∀ (negated : Bool) {q : Parser}, q.ahead.Continues stream →
      ((do let left ← termWith fuel; operation fuel negated left : Step Expression) q).Settles
        stream q.depth
        ((do let left ← termWith (fuel + 1); operation (fuel + 1) negated left :
          Step Expression) q) := by
    intro negated q hq
    refine ((settlesAt fuel).term hq).bind fun left q' hdepth hq' => ?_
    rw [← hdepth]
    exact settles_operation fuel negated left hq'
  by_cases hcurrent : p.current = .not
  · rw [expressionWith_not hcurrent, expressionWith_not hcurrent]
    refine (keeps_advance hp).bind fun _ q hdepth hq => ?_
    rw [← hdepth]
    exact hleft true hq
  · rw [expressionWith_other hcurrent, expressionWith_other hcurrent]
    exact hleft false hp

/-- A query settles if what follows its first expression does. -/
theorem settles_query_of_more {fuel : Nat}
    (hmore : ∀ {q : Parser}, q.ahead.Continues stream →
      (moreExpressionsWith fuel q).Settles stream q.depth (moreExpressionsWith (fuel + 1) q))
    (hp : p.ahead.Continues stream) :
    (queryWith fuel p).Settles stream p.depth (queryWith (fuel + 1) p) := by
  refine (settles_expression fuel hp).bind fun e q hdepth hq =>
    (hmore hq).bind fun es q' hdepth' hq' => ?_
  exact .done (hdepth'.trans hdepth) hq'

theorem settles_more (fuel : Nat) (hp : p.ahead.Continues stream) :
    (moreExpressionsWith fuel p).Settles stream p.depth (moreExpressionsWith (fuel + 1) p) := by
  induction fuel generalizing p with
  | zero => exact .exhausted
  | succ fuel ih =>
    by_cases hcurrent : p.current = .semicolon
    · rw [moreExpressionsWith_semicolon hcurrent, moreExpressionsWith_semicolon hcurrent]
      refine (keeps_advance hp).bind fun _ q hdepth hq => ?_
      rw [afterSemicolon, afterSemicolon, ← hdepth]
      split
      · exact .done rfl hq
      · exact settles_query_of_more ih hq
    · rw [moreExpressionsWith_other hcurrent, moreExpressionsWith_other hcurrent]
      exact .done rfl hp

theorem settles_query (fuel : Nat) (hp : p.ahead.Continues stream) :
    (queryWith fuel p).Settles stream p.depth (queryWith (fuel + 1) p) :=
  settles_query_of_more (settles_more fuel) hp

theorem settles_newlines (fuel : Nat) (hp : p.ahead.Continues stream) :
    (skipNewlines fuel p).Settles stream p.depth (skipNewlines (fuel + 1) p) := by
  induction fuel generalizing p with
  | zero => exact .exhausted
  | succ fuel ih =>
    by_cases hcurrent : p.current = .newline
    · rw [skipNewlines_newline hcurrent, skipNewlines_newline hcurrent]
      refine (keeps_advance hp).bind fun _ q hdepth hq => ?_
      rw [← hdepth]
      exact ih hq
    · rw [skipNewlines_other hcurrent, skipNewlines_other hcurrent]
      exact .done rfl hp

theorem settles_queries (fuel : Nat) (hp : p.ahead.Continues stream) :
    (queriesWith fuel p).Settles stream p.depth (queriesWith (fuel + 1) p) := by
  induction fuel generalizing p with
  | zero => exact .exhausted
  | succ fuel ih =>
    by_cases hcurrent : p.current = .endOfInput
    · rw [queriesWith_end hcurrent, queriesWith_end hcurrent]
      exact .done rfl hp
    · rw [queriesWith_more hcurrent, queriesWith_more hcurrent]
      refine (settles_query fuel hp).bind fun query q hdepth hq =>
        (keeps_separator .endOfInput .newline hq).bind fun _ q₁ hdepth₁ hq₁ =>
          (settles_newlines fuel hq₁).bind fun _ q₂ hdepth₂ hq₂ =>
            (ih hq₂).bind fun queries q₃ hdepth₃ hq₃ => ?_
      exact .done (by rw [hdepth₃, hdepth₂, hdepth₁, hdepth]) hq₃

theorem settles_residual (fuel : Nat) (hp : p.ahead.Continues stream) :
    (residualWith fuel p).Settles stream p.depth (residualWith (fuel + 1) p) := by
  refine (settles_newlines fuel hp).bind fun _ q hdepth hq => ?_
  rw [← hdepth]
  exact settles_queries fuel hq

/-! ## Any amount of fuel -/

/-- **A step that does not use up its fuel never needs more.** -/
theorem eq_of_settles {step : Nat → Step α} {fuel fuel' : Nat} (hle : fuel ≤ fuel')
    (hsettles : ∀ n, (step n p).Settles stream depth (step (n + 1) p))
    (hne : step fuel p ≠ .exhausted) : step fuel' p = step fuel p := by
  induction fuel', hle using Nat.le_induction with
  | base => rfl
  | succ n _ ih =>
    have hn := hsettles n
    rw [ih] at hn
    generalize step (n + 1) p = outcome at hn ⊢
    generalize step fuel p = outcome' at hn hne
    cases hn with
    | done => rfl
    | failed => rfl
    | exhausted => exact absurd rfl hne

end Parser

end RowFilter
