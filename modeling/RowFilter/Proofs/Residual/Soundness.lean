import RowFilter.Proofs.Residual.Lookahead

/-!
# The parser follows the grammar

What the functions of the grammar take for a term, an expression, a query or a residual is one by
the rules of `RowFilter.Proofs.Residual.Grammar`.  The functions for terms call each other, so their
statements are proved together, by induction on the fuel (`SoundAt`).

* `soundAt`, `accepts_expression`, `accepts_query` — the tokens that a function takes spell what it
  answers.
* `spells_of_residual` — the tokens of a whole text do, and there is no error among them.
-/

set_option autoImplicit false

namespace RowFilter.Parser

open Grammar

/-! ## References -/

/-- The tokens that spell what follows the head of a reference. -/
inductive SpellsSuffix : List Token → List Term × Option (List Term) → Prop
  | plain {ts : List Token} {segments : List Term} : SpellsSegments ts segments →
      SpellsSuffix ts (segments, none)
  | applied {ts us : List Token} {segments arguments : List Term} : SpellsSegments ts segments →
      SpellsElements us arguments →
      SpellsSuffix (ts ++ .openParen :: (us ++ [.closeParen])) (segments, some arguments)

namespace SpellsSuffix

variable {ts us : List Token} {segments : List Term} {arguments : Option (List Term)}

theorem field {token : Token} {name : String} (htoken : token.fieldName? = some name)
    (h : SpellsSuffix ts (segments, arguments)) :
    SpellsSuffix (.dot :: token :: ts) (.string name :: segments, arguments) := by
  cases h with
  | plain h => exact .plain (.field htoken h)
  | applied h h' => exact .applied (.field htoken h) h'

theorem key {t : Term} (ht : SpellsTerm us t) (h : SpellsSuffix ts (segments, arguments)) :
    SpellsSuffix (.openBracket :: (us ++ .closeBracket :: ts)) (t :: segments, arguments) := by
  cases h with
  | plain h => exact .plain (.key ht h)
  | applied h h' => simpa using SpellsSuffix.applied (.key ht h) h'

/-- What a head and its suffix denote is spelled by them. -/
theorem term (name : String) (h : SpellsSuffix ts (segments, arguments)) :
    SpellsTerm (.identifier name :: ts) (reference name segments arguments) := by
  cases h with
  | plain h =>
    cases segments with
    | nil => cases h; exact .variable name
    | cons segment segments => exact .reference name h (List.cons_ne_nil _ _)
  | @applied ts us _ arguments h h' =>
    by_cases hset : name = "set" ∧ segments = [] ∧ arguments = []
    · obtain ⟨rfl, rfl, rfl⟩ := hset
      cases h
      cases h'
      exact .emptySet
    · rw [reference_applied hset]
      exact .call name h h' hset

end SpellsSuffix

/-! ## Terms -/

/-- The tokens that spell elements, with the closing bracket behind them. -/
def SpellsClosed (closing : Token) (ts : List Token) (es : List Term) : Prop :=
  ∃ us, ts = us ++ [closing] ∧ SpellsElements us es

theorem ne_endOfInput_of_isClosing {t : Token} (h : t.isClosing = true) : t ≠ .endOfInput := by
  rintro rfl
  cases h

theorem of_leave {closing : Token} {p p' : Parser} {ts : List Token} {ending : Option ScanError}
    (hclosing : closing.isClosing = true) (hp : p.Sees ts ending)
    (h : leave closing p = .done () p') : ∃ us, ts = closing :: us ∧ p'.Sees us ending := by
  by_cases hcurrent : p.current = closing
  · exact (shifts_leave (Token.depthAfter_of_isClosing hclosing)).of_done
      (ne_endOfInput_of_isClosing hclosing) hcurrent hp h
  · rw [leave, looksAt_bind, decide_eq_false hcurrent] at h
    cases h

theorem of_expect {t : Token} {p p' : Parser} {ts : List Token} {ending : Option ScanError}
    (ht : t ≠ .endOfInput) (hdepth : ∀ depth, t.depthAfter depth = depth) (hp : p.Sees ts ending)
    (h : expect t p = .done () p') : ∃ us, ts = t :: us ∧ p'.Sees us ending := by
  by_cases hcurrent : p.current = t
  · exact (shifts_expect hdepth).of_done ht hcurrent hp h
  · rw [expect, looksAt_bind, decide_eq_false hcurrent] at h
    cases h

/-- What the functions for terms take is a term, if they have the given fuel. -/
structure SoundAt (fuel : Nat) : Prop where
  term : Accepts (termWith fuel) SpellsTerm
  elements {closing : Token} : closing.isClosing = true →
    Accepts (elementsWith fuel closing) (SpellsClosed closing)
  suffix : Accepts (suffixWith fuel) SpellsSuffix

namespace SoundAt

variable {fuel : Nat} {p p' : Parser} {ts : List Token} {ending : Option ScanError}
  {closing : Token}

theorem zero : SoundAt 0 where
  term _ h := by cases h
  elements _ _ _ _ _ _ _ h := by cases h
  suffix _ h := by cases h

/-- Elements between brackets, of which the opening one is the current token. -/
theorem between (ih : SoundAt fuel) {opening : Token} {enter : Step Unit} {α : Type}
    {build : List Term → α} {a : α} (hopening : Shifts opening enter)
    (hne : opening ≠ .endOfInput) (hclosing : closing.isClosing = true)
    (hp : p.Sees ts ending) (hcurrent : p.current = opening)
    (h : (do enter; let es ← elementsWith fuel closing; pure (build es) : Step α) p = .done a p') :
    ∃ us es vs, ts = (opening :: (us ++ [closing])) ++ vs ∧ SpellsElements us es ∧ a = build es ∧
      p'.Sees vs ending := by
  obtain ⟨ts, p₁, rfl, hp₁, h⟩ := hopening.of_bind hne hcurrent hp h
  obtain ⟨es, _, vs, p₂, rfl, ⟨us, rfl, hes⟩, hp₂, h⟩ :=
    Accepts.of_bind (ih.elements hclosing) hp₁ h
  cases h
  exact ⟨us, es, vs, rfl, hes, rfl, hp₂⟩

theorem term_succ (ih : SoundAt fuel) : Accepts (termWith (fuel + 1)) SpellsTerm := by
  intro p p' ts ending t hp h
  cases hstarts : p.current.startsTerm with
  | false =>
    rw [termWith_other hstarts] at h
    cases h
  | true =>
  cases hliteral : p.current.literal? with
  | some t' =>
    rw [termWith_literal hliteral rfl] at h
    have hplain := Token.isPlain_of_literal hliteral
    obtain ⟨vs, p₁, rfl, hp₁, h⟩ := (shifts_advance (Token.depthAfter_of_isPlain hplain)).2.of_bind
      (fun hend => by rw [hend] at hliteral; cases hliteral) rfl hp h
    cases h
    exact ⟨[p.current], vs, rfl, .literal hliteral, hp₁⟩
  | none =>
  cases hcurrent : p.current with
  | identifier name =>
    rw [termWith_identifier hcurrent] at h
    obtain ⟨vs, p₁, rfl, hp₁, h⟩ := (shifts_advance fun _ => rfl).2.of_bind (by simp) hcurrent hp h
    obtain ⟨⟨segments, arguments⟩, us, vs, p₂, rfl, hspells, hp₂, h⟩ :=
      Accepts.of_bind ih.suffix hp₁ h
    cases h
    exact ⟨_, vs, rfl, hspells.term name, hp₂⟩
  | openBracket =>
    rw [termWith_openBracket hcurrent] at h
    obtain ⟨us, es, vs, rfl, hes, rfl, hp'⟩ :=
      ih.between (shifts_enter fun _ => rfl).2 (by decide) rfl hp hcurrent h
    exact ⟨_, vs, rfl, .array hes, hp'⟩
  | openBrace =>
    rw [termWith_openBrace hcurrent] at h
    obtain ⟨us, es, vs, rfl, hes, rfl, hp'⟩ :=
      ih.between (shifts_enter fun _ => rfl).2 (by decide) rfl hp hcurrent h
    exact ⟨_, vs, rfl, .set hes, hp'⟩
  | openParen =>
    rw [termWith_openParen hcurrent] at h
    obtain ⟨vs, p₁, rfl, hp₁, h⟩ := (shifts_enter fun _ => rfl).2.of_bind (by decide) hcurrent hp h
    obtain ⟨t', us, vs, p₂, rfl, hspells, hp₂, h⟩ := Accepts.of_bind ih.term hp₁ h
    obtain ⟨_, p₃, hleave, h⟩ := bind_eq_done h
    obtain ⟨vs, rfl, hp₃⟩ := of_leave rfl hp₂ hleave
    cases h
    exact ⟨_, vs, by simp, .parens hspells, hp₃⟩
  | number _ | string _ | boolean _ | null => rw [hcurrent] at hliteral; cases hliteral
  | _ => rw [hcurrent] at hstarts; cases hstarts

theorem elements_closing (hclosing : closing.isClosing = true) (hp : p.Sees ts ending)
    (hcurrent : p.current = closing) {es : List Term}
    (h : elementsWith fuel closing p = .done es p') :
    es = [] ∧ ∃ us, ts = closing :: us ∧ p'.Sees us ending := by
  cases fuel with
  | zero => cases h
  | succ fuel =>
    rw [elementsWith_closing hcurrent] at h
    obtain ⟨_, p₁, hleave, h⟩ := bind_eq_done h
    obtain ⟨us, rfl, hp₁⟩ := of_leave hclosing hp hleave
    cases h
    exact ⟨rfl, us, rfl, hp₁⟩

theorem elements_succ (ih : SoundAt fuel) (hclosing : closing.isClosing = true) :
    Accepts (elementsWith (fuel + 1) closing) (SpellsClosed closing) := by
  intro p p' ts ending es hp h
  by_cases hcurrent : p.current = closing
  · obtain ⟨rfl, us, rfl, hp'⟩ := elements_closing hclosing hp hcurrent h
    exact ⟨[closing], us, rfl, ⟨[], rfl, .none⟩, hp'⟩
  · rw [elementsWith_more hcurrent] at h
    obtain ⟨t, us, vs, p₁, rfl, ht, hp₁, h⟩ := Accepts.of_bind ih.term hp h
    obtain ⟨_, p₂, hseparator, h⟩ := bind_eq_done h
    obtain ⟨es, p₃, helements, h⟩ := bind_eq_done h
    cases h
    by_cases hlast : p₁.current = closing
    · rw [separator_of_eq hlast] at hseparator
      cases hseparator
      obtain ⟨rfl, ws, rfl, hp₃⟩ := elements_closing hclosing hp₁ hlast helements
      exact ⟨us ++ [closing], ws, by simp, ⟨us, rfl, .last ht⟩, hp₃⟩
    · rw [separator_of_ne hlast] at hseparator
      obtain ⟨vs, rfl, hp₂⟩ := of_expect (by decide) (fun _ => rfl) hp₁ hseparator
      obtain ⟨_, ws, rfl, ⟨vs, rfl, hes⟩, hp₃⟩ := ih.elements hclosing hp₂ helements
      exact ⟨us ++ .comma :: (vs ++ [closing]), ws, by simp,
        ⟨us ++ .comma :: vs, by simp, .more ht hes⟩, hp₃⟩

theorem suffix_succ (ih : SoundAt fuel) : Accepts (suffixWith (fuel + 1)) SpellsSuffix := by
  intro p p' ts ending suffix hp h
  cases hextends : p.current.extendsTerm with
  | false =>
    rw [suffixWith_other hextends] at h
    cases h
    exact ⟨[], ts, rfl, .plain .none, hp⟩
  | true =>
  cases hcurrent : p.current with
  | dot =>
    rw [suffixWith_dot hcurrent] at h
    obtain ⟨vs, p₁, rfl, hp₁, h⟩ :=
      (shifts_advance fun _ => rfl).1.of_bind (by decide) hcurrent hp h
    obtain ⟨name, p₂, hname, h⟩ := bind_eq_done h
    cases htoken : p₁.current.fieldName? with
    | none =>
      rw [fieldName_other htoken] at hname
      cases hname
    | some name' =>
      cases (fieldName_eq htoken).symm.trans hname
      have hplain := Token.isPlain_of_fieldName htoken
      obtain ⟨vs, p₃, rfl, hp₃, h⟩ :=
        (shifts_advance (Token.depthAfter_of_isPlain hplain)).1.of_bind
          (fun hend => by rw [hend] at htoken; cases htoken) rfl hp₁ h
      obtain ⟨⟨segments, arguments⟩, us, vs, p₄, rfl, hspells, hp₄, h⟩ :=
        Accepts.of_bind ih.suffix hp₃ h
      cases h
      exact ⟨_, vs, rfl, hspells.field htoken, hp₄⟩
  | openBracket =>
    rw [suffixWith_openBracket hcurrent] at h
    obtain ⟨vs, p₁, rfl, hp₁, h⟩ := (shifts_enter fun _ => rfl).1.of_bind (by decide) hcurrent hp h
    obtain ⟨key, us, vs, p₂, rfl, hspells, hp₂, h⟩ := Accepts.of_bind ih.term hp₁ h
    obtain ⟨_, p₃, hleave, h⟩ := bind_eq_done h
    obtain ⟨vs, rfl, hp₃⟩ := of_leave rfl hp₂ hleave
    obtain ⟨⟨segments, arguments⟩, ws, vs, p₄, rfl, hspells', hp₄, h⟩ :=
      Accepts.of_bind ih.suffix hp₃ h
    cases h
    exact ⟨_, vs, by simp, hspells'.key hspells, hp₄⟩
  | openParen =>
    rw [suffixWith_openParen hcurrent] at h
    obtain ⟨us, es, vs, rfl, hes, rfl, hp'⟩ :=
      ih.between (shifts_enter fun _ => rfl).1 (by decide) rfl hp hcurrent h
    exact ⟨_, vs, rfl, .applied .none hes, hp'⟩
  | _ => rw [hcurrent] at hextends; cases hextends

end SoundAt

theorem soundAt (fuel : Nat) : SoundAt fuel := by
  induction fuel with
  | zero => exact .zero
  | succ fuel ih => exact ⟨ih.term_succ, ih.elements_succ, ih.suffix_succ⟩

/-! ## Expressions, queries and residuals -/

theorem accepts_operation (fuel : Nat) {ts : List Token} {left : Term} (negated : Bool)
    (hleft : SpellsTerm ts left) :
    Accepts (operation fuel negated left)
      fun us e => SpellsExpression (negation negated ++ (ts ++ us)) e := by
  intro p p' vs ending e hp h
  cases hsign : p.current.operator? with
  | none =>
    rw [operation_none hsign] at h
    cases h
    exact ⟨[], vs, rfl, by simpa using SpellsExpression.alone negated hleft, hp⟩
  | some operator =>
    rw [operation_some hsign] at h
    have hplain := Token.isPlain_of_operator hsign
    obtain ⟨vs, p₁, rfl, hp₁, h⟩ := (shifts_advance (Token.depthAfter_of_isPlain hplain)).1.of_bind
      (fun hend => by rw [hend] at hsign; cases hsign) rfl hp h
    obtain ⟨right, us, vs, p₂, rfl, hright, hp₂, h⟩ := Accepts.of_bind (soundAt fuel).term hp₁ h
    cases h
    exact ⟨_, vs, rfl, .comparison negated hleft hsign hright, hp₂⟩

theorem accepts_expression (fuel : Nat) : Accepts (expressionWith fuel) SpellsExpression := by
  intro p p' ts ending e hp h
  by_cases hcurrent : p.current = .not
  · rw [expressionWith_not hcurrent] at h
    obtain ⟨vs, p₁, rfl, hp₁, h⟩ :=
      (shifts_advance fun _ => rfl).1.of_bind (by decide) hcurrent hp h
    obtain ⟨left, us, vs, p₂, rfl, hleft, hp₂, h⟩ := Accepts.of_bind (soundAt fuel).term hp₁ h
    obtain ⟨ws, vs, rfl, he, hp'⟩ := accepts_operation fuel true hleft hp₂ h
    exact ⟨_, vs, by simp [negation], he, hp'⟩
  · rw [expressionWith_other hcurrent] at h
    obtain ⟨left, us, vs, p₁, rfl, hleft, hp₁, h⟩ := Accepts.of_bind (soundAt fuel).term hp h
    obtain ⟨ws, vs, rfl, he, hp'⟩ := accepts_operation fuel false hleft hp₁ h
    exact ⟨_, vs, by simp [negation], he, hp'⟩

/-- The tokens that spell what follows an expression in its query. -/
inductive SpellsMore : List Token → Query → Prop
  | none : SpellsMore [] []
  | trailing : SpellsMore [.semicolon] []
  | more {ts : List Token} {q : Query} : SpellsQuery ts q → SpellsMore (.semicolon :: ts) q

theorem SpellsMore.query {ts us : List Token} {e : Expression} {q : Query}
    (h : SpellsExpression ts e) (h' : SpellsMore us q) : SpellsQuery (ts ++ us) (e :: q) := by
  cases h' with
  | none => rw [List.append_nil]; exact .last h
  | trailing => exact .trailing h
  | more h' => exact .more h h'

theorem accepts_query_of_more {fuel : Nat} (hmore : Accepts (moreExpressionsWith fuel) SpellsMore)
    (fuel' : Nat) :
    Accepts (do
      let e ← expressionWith fuel'
      let es ← moreExpressionsWith fuel
      pure (e :: es) : Step Query) SpellsQuery := by
  intro p p' ts ending q hp h
  obtain ⟨e, us, vs, p₁, rfl, he, hp₁, h⟩ := Accepts.of_bind (accepts_expression _) hp h
  obtain ⟨es, ws, vs, p₂, rfl, hes, hp₂, h⟩ := Accepts.of_bind hmore hp₁ h
  cases h
  exact ⟨us ++ ws, vs, by simp, hes.query he, hp₂⟩

theorem accepts_more (fuel : Nat) : Accepts (moreExpressionsWith fuel) SpellsMore := by
  induction fuel with
  | zero => intro p p' ts ending es hp h; cases h
  | succ fuel ih =>
    intro p p' ts ending es hp h
    by_cases hcurrent : p.current = .semicolon
    · rw [moreExpressionsWith_semicolon hcurrent] at h
      obtain ⟨vs, p₁, rfl, hp₁, h⟩ :=
        (shifts_advance fun _ => rfl).1.of_bind (by decide) hcurrent hp h
      rw [afterSemicolon] at h
      split at h
      · cases h
        exact ⟨[.semicolon], vs, rfl, .trailing, hp₁⟩
      · obtain ⟨us, vs, rfl, hq, hp'⟩ := accepts_query_of_more ih fuel hp₁ h
        exact ⟨.semicolon :: us, vs, rfl, .more hq, hp'⟩
    · rw [moreExpressionsWith_other hcurrent] at h
      cases h
      exact ⟨[], ts, rfl, .none, hp⟩

theorem accepts_query (fuel : Nat) : Accepts (queryWith fuel) SpellsQuery :=
  accepts_query_of_more (accepts_more fuel) fuel

theorem accepts_newlines (fuel : Nat) :
    Accepts (skipNewlines fuel) fun ts _ => ∃ blanks, ts = List.replicate blanks .newline := by
  induction fuel with
  | zero => intro p p' ts ending _ hp h; cases h
  | succ fuel ih =>
    intro p p' ts ending _ hp h
    by_cases hcurrent : p.current = .newline
    · rw [skipNewlines_newline hcurrent] at h
      obtain ⟨vs, p₁, rfl, hp₁, h⟩ :=
        (shifts_advance fun _ => rfl).1.of_bind (by decide) hcurrent hp h
      obtain ⟨_, vs, rfl, ⟨blanks, rfl⟩, hp'⟩ := ih hp₁ h
      exact ⟨List.replicate (blanks + 1) .newline, vs, rfl, ⟨blanks + 1, rfl⟩, hp'⟩
    · rw [skipNewlines_other hcurrent] at h
      cases h
      exact ⟨[], ts, rfl, ⟨0, rfl⟩, hp⟩

theorem queries_end {fuel : Nat} {p p' : Parser} {r : Residual} (hp : p.current = .endOfInput)
    (h : queriesWith fuel p = .done r p') : r = [] := by
  cases fuel with
  | zero => cases h
  | succ fuel =>
    rw [queriesWith_end hp] at h
    cases h
    rfl

/-- Queries are read to the end of the text, and there is no error on the way. -/
theorem spells_of_queries {fuel : Nat} {p p' : Parser} {ts : List Token}
    {ending : Option ScanError} {r : Residual} (hp : p.Sees ts ending)
    (h : queriesWith fuel p = .done r p') :
    ending = none ∧ (ts = [] ∧ r = [] ∨ SpellsQueries ts r) := by
  induction fuel generalizing p ts r with
  | zero => cases h
  | succ fuel ih =>
    by_cases hcurrent : p.current = .endOfInput
    · obtain ⟨rfl, rfl⟩ := hp.eq_nil hcurrent
      exact ⟨rfl, .inl ⟨rfl, queries_end hcurrent h⟩⟩
    · rw [queriesWith_more hcurrent] at h
      obtain ⟨q, us, vs, p₁, rfl, hq, hp₁, h⟩ := Accepts.of_bind (accepts_query fuel) hp h
      obtain ⟨_, p₂, hseparator, h⟩ := bind_eq_done h
      obtain ⟨_, p₃, hskip, h⟩ := bind_eq_done h
      obtain ⟨qs, p₄, hqueries, h⟩ := bind_eq_done h
      cases h
      by_cases hlast : p₁.current = .endOfInput
      · rw [separator_of_eq hlast] at hseparator
        cases hseparator
        obtain ⟨rfl, rfl⟩ := hp₁.eq_nil hlast
        obtain ⟨_, ws, hnil, -, hp₃⟩ := accepts_newlines fuel hp₁ hskip
        obtain ⟨-, rfl⟩ := List.append_eq_nil_iff.1 hnil.symm
        obtain rfl := queries_end hp₃.current_of_nil.1 hqueries
        exact ⟨rfl, .inr (.last 0 hq)⟩
      · rw [separator_of_ne hlast] at hseparator
        obtain ⟨vs, rfl, hp₂⟩ := of_expect (by decide) (fun _ => rfl) hp₁ hseparator
        obtain ⟨_, ws, rfl, ⟨blanks, rfl⟩, hp₃⟩ := accepts_newlines fuel hp₂ hskip
        obtain ⟨rfl, ⟨rfl, rfl⟩ | hqs⟩ := ih hp₃ hqueries
        · rw [List.append_nil]
          exact ⟨rfl, .inr (.last (blanks + 1) hq)⟩
        · exact ⟨rfl, .inr (.more blanks hq hqs)⟩

/-- **What is read for a residual is spelled by all the tokens**, and there is no error among
them. -/
theorem spells_of_residual {fuel : Nat} {p p' : Parser} {ts : List Token}
    {ending : Option ScanError} {r : Residual} (hp : p.Sees ts ending)
    (h : residualWith fuel p = .done r p') : ending = none ∧ SpellsResidual ts r := by
  obtain ⟨_, _, vs, p₁, rfl, ⟨blanks, rfl⟩, hp₁, h⟩ := Accepts.of_bind (accepts_newlines fuel) hp h
  obtain ⟨rfl, ⟨rfl, rfl⟩ | hr⟩ := spells_of_queries hp₁ h
  · rw [List.append_nil]
    exact ⟨rfl, .none blanks⟩
  · exact ⟨rfl, .queries blanks hr⟩

end RowFilter.Parser
