import RowFilter.Proofs.Residual.Balance
import RowFilter.Proofs.Residual.Completeness
import RowFilter.Proofs.Token.Stream

/-!
# Every call of a parser ends

The loops of the parser end on tokens that may never come: a closing bracket that is missing, or a
newline that is passed over because a failed call has left brackets open.  They end all the same,
since a round of a loop takes one of the tokens in sight, or else it fails and the call is over
(`Outcome.Takes`).  Twice as much fuel as there are tokens in sight is enough for that, and a text
has room for only so many tokens.

* `endsAt`, `takes_expression`, `takes_query`, `takes_residual` — the functions of the grammar, from
  any state.
* `roundsTake` — the rounds of their loops.
* `Reaches` — the states that a parser of a text comes into, by any calls.
* `calls_end` — the calls end there, and a call that is done leaves the brackets as it found them.
-/

set_option autoImplicit false

namespace RowFilter.Parser

variable {α β : Type} {p : Parser} {ts : List Token} {ending : Option ScanError}

/-! ## Taking tokens -/

/-- **The step has ended**: it has failed, or it is done and has taken at least `k` of the tokens
`ts`. -/
inductive Outcome.Takes (k : Nat) (ts : List Token) (ending : Option ScanError) :
    Outcome α → Prop
  | done {a : α} {p' : Parser} {us vs : List Token} (hts : ts = us ++ vs) (hk : k ≤ us.length)
      (hp' : p'.Sees vs ending) : Takes k ts ending (.done a p')
  | failed {e : ParseError} {p' : Parser} : Takes k ts ending (.failed e p')

namespace Outcome.Takes

variable {j k : Nat} {outcome : Outcome α}

theorem mono (hle : j ≤ k) (h : outcome.Takes k ts ending) : outcome.Takes j ts ending := by
  cases h with
  | done hts hk hp' => exact .done hts (hle.trans hk) hp'
  | failed => exact .failed

theorem ne_exhausted (h : outcome.Takes k ts ending) : outcome ≠ .exhausted := by
  rintro rfl
  cases h

theorem pure {a : α} (hp : p.Sees ts ending) : Outcome.Takes 0 ts ending (.done a p) :=
  .done (List.nil_append ts).symm (Nat.zero_le _) hp

/-- **Tokens are taken one step after the other.**  What the second step does has to be known only
where fewer tokens are in sight. -/
theorem bind {step : Step α} {f : α → Step β} (h : (step p).Takes k ts ending)
    (hf : ∀ a q vs, q.Sees vs ending → k + vs.length ≤ ts.length → (f a q).Takes j vs ending) :
    ((step >>= f) p).Takes (k + j) ts ending := by
  simp only [Bind.bind]
  generalize step p = outcome at h
  cases h with
  | failed => exact .failed
  | @done a q us vs hts hk hq =>
    have hlength := congrArg List.length hts
    rw [List.length_append] at hlength
    have hrest := hf a q vs hq (by omega)
    dsimp only
    generalize f a q = outcome' at hrest
    cases hrest with
    | failed => exact .failed
    | @done b q' us' vs' hvs hj hq' =>
      have hall : ts = us ++ us' ++ vs' := by rw [hts, hvs, List.append_assoc]
      exact .done hall (by rw [List.length_append]; omega) hq'

end Outcome.Takes

theorem Shifts.takes {t : Token} {step : Step Unit} (h : Shifts t step) (ht : t ≠ .endOfInput)
    (hcurrent : p.current = t) (hp : p.Sees ts ending) : (step p).Takes 1 ts ending := by
  obtain ⟨us, rfl, -⟩ := hp.eq_cons (hcurrent ▸ ht)
  rw [hcurrent] at hp
  rcases h.of_sees hp with ⟨p', hdone, hp'⟩ | ⟨e, p', -, -, hfailed⟩
  · rw [hdone, hcurrent]
    exact .done List.singleton_append.symm (Nat.le_refl 1) hp'
  · rw [hfailed]
    exact .failed

theorem ne_endOfInput_of_some {γ : Type} {f : Token → Option γ} (hend : f .endOfInput = none)
    {t : Token} {c : γ} (ht : f t = some c) : t ≠ .endOfInput := by
  rintro rfl
  cases hend.symm.trans ht

theorem takes_leave {closing : Token} (hclosing : closing.isClosing = true)
    (hp : p.Sees ts ending) : (leave closing p).Takes 1 ts ending := by
  by_cases hcurrent : p.current = closing
  · exact (shifts_leave (Token.depthAfter_of_isClosing hclosing)).takes
      (ne_endOfInput_of_isClosing hclosing) hcurrent hp
  · rw [leave, looksAt_bind, decide_eq_false hcurrent]
    exact .failed

theorem takes_separator {last between : Token} (hbetween : between ≠ .endOfInput)
    (hdepth : ∀ depth, between.depthAfter depth = depth) (hp : p.Sees ts ending) :
    (separator last between p).Takes 0 ts ending := by
  by_cases hlast : p.current = last
  · rw [separator_of_eq hlast]
    exact .pure hp
  · rw [separator_of_ne hlast]
    by_cases hcurrent : p.current = between
    · exact ((shifts_expect hdepth).takes hbetween hcurrent hp).mono (Nat.zero_le _)
    · rw [expect, looksAt_bind, decide_eq_false hcurrent]
      exact .failed

/-! ## The rounds of the loops

A loop of the grammar is a recursion, of which the part before the recursive call is a round. -/

theorem bind_assoc {γ : Type} (step : Step α) (f : α → Step β) (g : β → Step γ) (p : Parser) :
    ((step >>= f) >>= g) p = (step >>= fun a => f a >>= g) p := by
  simp only [Bind.bind]
  cases step p <;> rfl

/-- An element of an array, a set or a call, and the comma behind it. -/
def element (fuel : Nat) (closing : Token) : Step Term := do
  let t ← termWith fuel
  separator closing .comma
  pure t

/-- The elements behind the first one. -/
def moreElements (fuel : Nat) (closing : Token) (t : Term) : Step (List Term) := do
  let ts ← elementsWith fuel closing
  pure (t :: ts)

/-- A field of a reference, behind its dot. -/
def field : Step Term := do
  advance
  let name ← fieldName
  advance
  pure (.string name)

/-- A key of a reference, between its brackets. -/
def key (fuel : Nat) : Step Term := do
  enter
  let t ← termWith fuel
  leave .closeBracket
  pure t

/-- The segments behind the first one. -/
def moreSegments (fuel : Nat) (segment : Term) : Step (List Term × Option (List Term)) := do
  let (segments, arguments) ← suffixWith fuel
  pure (segment :: segments, arguments)

/-- A query on a line of its own, and the empty lines behind it. -/
def line (fuel : Nat) : Step Query := do
  let q ← queryWith fuel
  separator .endOfInput .newline
  skipNewlines fuel
  pure q

/-- The queries behind the first one. -/
def moreLines (fuel : Nat) (q : Query) : Step Residual := do
  let qs ← queriesWith fuel
  pure (q :: qs)

section Rounds

variable {fuel : Nat}

theorem elementsWith_round {closing : Token} (hp : p.current ≠ closing) :
    elementsWith (fuel + 1) closing p = (element fuel closing >>= moreElements fuel closing) p := by
  rw [elementsWith_more hp, element, bind_assoc]
  refine bind_congr (fun t q => ?_) p
  rw [bind_assoc]
  rfl

theorem suffixWith_field (hp : p.current = .dot) :
    suffixWith (fuel + 1) p = (field >>= moreSegments fuel) p := by
  rw [suffixWith_dot hp, field, bind_assoc]
  refine bind_congr (fun _ q => ?_) p
  rw [bind_assoc]
  refine bind_congr (fun name q => ?_) q
  rw [bind_assoc]
  rfl

theorem suffixWith_key (hp : p.current = .openBracket) :
    suffixWith (fuel + 1) p = (key fuel >>= moreSegments fuel) p := by
  rw [suffixWith_openBracket hp, key, bind_assoc]
  refine bind_congr (fun _ q => ?_) p
  rw [bind_assoc]
  refine bind_congr (fun t q => ?_) q
  rw [bind_assoc]
  rfl

theorem queriesWith_line (hp : p.current ≠ .endOfInput) :
    queriesWith (fuel + 1) p = (line fuel >>= moreLines fuel) p := by
  rw [queriesWith_more hp, line, bind_assoc]
  refine bind_congr (fun query q => ?_) p
  rw [bind_assoc]
  refine bind_congr (fun _ q => ?_) q
  rw [bind_assoc]
  rfl

/-- A newline inside of brackets is passed over. -/
theorem advance_newline {l : Lexeme} {ls : List Lexeme} (hfirst : p.ahead.first = l :: ls)
    (hdepth : 0 < p.depth) (hl : l.token = .ok .newline) :
    advance p = advance ⟨⟨ls, p.ahead.last⟩, .newline, l.start, p.depth⟩ := by
  rw [advance, hfirst, advanceThrough, hl]
  exact if_pos ⟨hdepth, rfl⟩

end Rounds

theorem takes_field (hcurrent : p.current = .dot) (hp : p.Sees ts ending) :
    (field p).Takes 1 ts ending := by
  refine Outcome.Takes.bind (j := 0) ((shifts_advance fun _ => rfl).1.takes (by decide) hcurrent hp)
    fun _ q us hq _ => ?_
  cases hname : q.current.fieldName? with
  | none =>
    rw [bind_failed (fieldName_other hname)]
    exact .failed
  | some name =>
    have hplain := Token.isPlain_of_fieldName hname
    have hne := ne_endOfInput_of_some (f := Token.fieldName?) rfl hname
    rw [bind_done (fieldName_eq hname)]
    have hadvance := (shifts_advance (Token.depthAfter_of_isPlain hplain)).1.takes hne rfl hq
    exact (hadvance.mono (Nat.zero_le _)).bind fun _ q' vs hq' _ => .pure hq'

/-! ## Terms -/

/-- The functions for terms end with the given fuel, if it is twice as much as the tokens in sight.
Elements need one more than the term that they start with, since no token is taken before it. -/
structure EndsAt (fuel : Nat) : Prop where
  term {p : Parser} {ts : List Token} {ending : Option ScanError} : p.Sees ts ending →
    2 * ts.length + 1 ≤ fuel → (termWith fuel p).Takes 1 ts ending
  elements {p : Parser} {ts : List Token} {ending : Option ScanError} {closing : Token} :
    closing.isClosing = true → p.Sees ts ending → 2 * ts.length + 2 ≤ fuel →
    (elementsWith fuel closing p).Takes 1 ts ending
  suffix {p : Parser} {ts : List Token} {ending : Option ScanError} : p.Sees ts ending →
    2 * ts.length + 1 ≤ fuel → (suffixWith fuel p).Takes 0 ts ending

namespace EndsAt

variable {fuel : Nat}

theorem zero : EndsAt 0 where
  term _ hfuel := by omega
  elements _ _ hfuel := by omega
  suffix _ hfuel := by omega

/-- Elements between brackets, of which the opening one is the current token. -/
theorem between (ih : EndsAt fuel) {opening closing : Token} {enter : Step Unit}
    (build : List Term → α) (hopening : Shifts opening enter) (hne : opening ≠ .endOfInput)
    (hclosing : closing.isClosing = true) (hcurrent : p.current = opening)
    (hp : p.Sees ts ending) (hfuel : 2 * ts.length ≤ fuel) :
    ((do enter; let es ← elementsWith fuel closing; pure (build es) : Step α) p).Takes 1 ts
      ending := by
  refine ((hopening.takes hne hcurrent hp).bind (j := 1) fun _ q us hq hlength => ?_).mono
    (by omega)
  exact (ih.elements hclosing hq (by omega)).bind fun es q' vs hq' _ => .pure hq'

/-- A term between brackets, of which the opening one is the current token. -/
theorem inside (ih : EndsAt fuel) {opening closing : Token} {enter : Step Unit}
    (hopening : Shifts opening enter) (hne : opening ≠ .endOfInput)
    (hclosing : closing.isClosing = true) (hcurrent : p.current = opening)
    (hp : p.Sees ts ending) (hfuel : 2 * ts.length ≤ fuel + 1) :
    ((do enter; let t ← termWith fuel; leave closing; pure t : Step Term) p).Takes 1 ts
      ending := by
  refine ((hopening.takes hne hcurrent hp).bind (j := 2) fun _ q us hq hlength => ?_).mono
    (by omega)
  exact (ih.term hq (by omega)).bind (j := 1) fun t q' vs hq' _ =>
    (takes_leave hclosing hq').bind fun _ q'' ws hq'' _ => .pure hq''

theorem takes_element (ih : EndsAt fuel) (closing : Token) (hp : p.Sees ts ending)
    (hfuel : 2 * ts.length + 1 ≤ fuel) : (element fuel closing p).Takes 1 ts ending :=
  (ih.term hp hfuel).bind (j := 0) fun t q us hq _ =>
    (takes_separator (by decide) (fun _ => rfl) hq).bind fun _ q' vs hq' _ => .pure hq'

theorem takes_key (ih : EndsAt fuel) (hcurrent : p.current = .openBracket) (hp : p.Sees ts ending)
    (hfuel : 2 * ts.length ≤ fuel + 1) : (key fuel p).Takes 1 ts ending :=
  ih.inside (shifts_enter fun _ => rfl).1 (by decide) rfl hcurrent hp hfuel

theorem term_succ (ih : EndsAt fuel) (hp : p.Sees ts ending)
    (hfuel : 2 * ts.length + 1 ≤ fuel + 1) : (termWith (fuel + 1) p).Takes 1 ts ending := by
  rcases startsTerm_cases p.current with
    ⟨v, hcurrent⟩ | ⟨name, hcurrent⟩ | hcurrent | hcurrent | hcurrent | hcurrent
  · have hplain := Token.isPlain_of_literal hcurrent
    have hne := ne_endOfInput_of_some (f := Token.literal?) rfl hcurrent
    rw [termWith_literal hcurrent rfl]
    exact ((shifts_advance (Token.depthAfter_of_isPlain hplain)).2.takes hne rfl hp).bind
      fun _ q us hq _ => .pure hq
  · rw [termWith_identifier hcurrent]
    refine ((shifts_advance fun _ => rfl).2.takes (by simp) hcurrent hp).bind (j := 0)
      fun _ q us hq hlength => ?_
    exact (ih.suffix hq (by omega)).bind fun _ q' vs hq' _ => .pure hq'
  · rw [termWith_openBracket hcurrent]
    exact ih.between Term.array (shifts_enter fun _ => rfl).2 (by decide) rfl hcurrent hp (by omega)
  · rw [termWith_openBrace hcurrent]
    exact ih.between Term.set (shifts_enter fun _ => rfl).2 (by decide) rfl hcurrent hp (by omega)
  · rw [termWith_openParen hcurrent]
    exact ih.inside (shifts_enter fun _ => rfl).2 (by decide) rfl hcurrent hp (by omega)
  · rw [termWith_other hcurrent]
    exact .failed

theorem elements_succ (ih : EndsAt fuel) {closing : Token} (hclosing : closing.isClosing = true)
    (hp : p.Sees ts ending) (hfuel : 2 * ts.length + 2 ≤ fuel + 1) :
    (elementsWith (fuel + 1) closing p).Takes 1 ts ending := by
  by_cases hcurrent : p.current = closing
  · rw [elementsWith_closing hcurrent]
    exact (takes_leave hclosing hp).bind fun _ q us hq _ => .pure hq
  · rw [elementsWith_round hcurrent]
    refine ((ih.takes_element closing hp (by omega)).bind (j := 1) fun t q us hq hlength => ?_).mono
      (by omega)
    exact (ih.elements hclosing hq (by omega)).bind fun _ q' vs hq' _ => .pure hq'

theorem suffix_succ (ih : EndsAt fuel) (hp : p.Sees ts ending)
    (hfuel : 2 * ts.length + 1 ≤ fuel + 1) : (suffixWith (fuel + 1) p).Takes 0 ts ending := by
  have hmore : ∀ {round : Step Term}, (round p).Takes 1 ts ending →
      ((round >>= moreSegments fuel) p).Takes 0 ts ending := by
    intro round hround
    refine (hround.bind (j := 0) fun segment q us hq hlength => ?_).mono (by omega)
    exact (ih.suffix hq (by omega)).bind fun _ q' vs hq' _ => .pure hq'
  rcases extendsTerm_cases p.current with hcurrent | hcurrent | hcurrent | hcurrent
  · rw [suffixWith_field hcurrent]
    exact hmore (takes_field hcurrent hp)
  · rw [suffixWith_key hcurrent]
    exact hmore (ih.takes_key hcurrent hp (by omega))
  · rw [suffixWith_openParen hcurrent]
    exact (ih.between (fun arguments => ([], some arguments)) (shifts_enter fun _ => rfl).1
      (by decide) rfl hcurrent hp (by omega)).mono (by omega)
  · rw [suffixWith_other hcurrent]
    exact .pure hp

end EndsAt

theorem endsAt (fuel : Nat) : EndsAt fuel := by
  induction fuel with
  | zero => exact .zero
  | succ fuel ih => exact ⟨ih.term_succ, ih.elements_succ, ih.suffix_succ⟩

/-! ## Expressions, queries and residuals -/

section Calls

variable {fuel : Nat}

theorem takes_operation (negated : Bool) (left : Term) (hp : p.Sees ts ending)
    (hfuel : 2 * ts.length + 1 ≤ fuel) : (operation fuel negated left p).Takes 0 ts ending := by
  cases hsign : p.current.operator? with
  | none =>
    rw [operation_none hsign]
    exact .pure hp
  | some operator =>
    have hplain := Token.isPlain_of_operator hsign
    have hne := ne_endOfInput_of_some (f := Token.operator?) rfl hsign
    rw [operation_some hsign]
    refine (((shifts_advance (Token.depthAfter_of_isPlain hplain)).1.takes hne rfl hp).bind
      (j := 1) fun _ q us hq hlength => ?_).mono (by omega)
    exact ((endsAt fuel).term hq (by omega)).bind fun right q' vs hq' _ => .pure hq'

theorem takes_expression (hp : p.Sees ts ending) (hfuel : 2 * ts.length + 1 ≤ fuel) :
    (expressionWith fuel p).Takes 1 ts ending := by
  have hleft : ∀ (negated : Bool) {q : Parser} {us : List Token}, q.Sees us ending →
      us.length ≤ ts.length →
      ((do let left ← termWith fuel; operation fuel negated left : Step Expression) q).Takes 1 us
        ending := by
    intro negated q us hq hle
    exact ((endsAt fuel).term hq (by omega)).bind fun left q' vs hq' hlength =>
      takes_operation negated left hq' (by omega)
  by_cases hcurrent : p.current = .not
  · rw [expressionWith_not hcurrent]
    refine (((shifts_advance fun _ => rfl).1.takes (by decide) hcurrent hp).bind
      fun _ q us hq hlength => hleft true hq (by omega)).mono (by omega)
  · rw [expressionWith_other hcurrent]
    exact hleft false hp (Nat.le_refl _)

/-- A query ends if what follows its first expression does. -/
theorem takes_query_of_more {n : Nat}
    (hmore : ∀ {q : Parser} {us : List Token}, q.Sees us ending → us.length + 1 ≤ n →
      (moreExpressionsWith fuel q).Takes 0 us ending)
    (hp : p.Sees ts ending) (hn : ts.length ≤ n) (hfuel : 2 * ts.length + 1 ≤ fuel) :
    (queryWith fuel p).Takes 1 ts ending :=
  (takes_expression hp hfuel).bind fun e q us hq hlength =>
    (hmore hq (by omega)).bind fun es q' vs hq' _ => .pure hq'

theorem takes_more (hp : p.Sees ts ending) (hfuel : 2 * ts.length + 1 ≤ fuel) :
    (moreExpressionsWith fuel p).Takes 0 ts ending := by
  induction fuel generalizing p ts with
  | zero => omega
  | succ fuel ih =>
    by_cases hcurrent : p.current = .semicolon
    · rw [moreExpressionsWith_semicolon hcurrent]
      refine (((shifts_advance fun _ => rfl).1.takes (by decide) hcurrent hp).bind (j := 0)
        fun _ q us hq hlength => ?_).mono (by omega)
      rw [afterSemicolon]
      split
      · exact .pure hq
      · refine (takes_query_of_more (n := us.length) (fun hq' hle => ih hq' ?_) hq
          (Nat.le_refl _) (by omega)).mono (by omega)
        omega
    · rw [moreExpressionsWith_other hcurrent]
      exact .pure hp

theorem takes_query (hp : p.Sees ts ending) (hfuel : 2 * ts.length + 1 ≤ fuel) :
    (queryWith fuel p).Takes 1 ts ending :=
  takes_query_of_more (n := ts.length) (fun hq hle => takes_more hq (by omega)) hp (Nat.le_refl _)
    hfuel

theorem takes_newlines (hp : p.Sees ts ending) (hfuel : ts.length + 1 ≤ fuel) :
    (skipNewlines fuel p).Takes 0 ts ending := by
  induction fuel generalizing p ts with
  | zero => omega
  | succ fuel ih =>
    by_cases hcurrent : p.current = .newline
    · rw [skipNewlines_newline hcurrent]
      exact (((shifts_advance fun _ => rfl).1.takes (by decide) hcurrent hp).bind
        fun _ q us hq hlength => ih hq (by omega)).mono (by omega)
    · rw [skipNewlines_other hcurrent]
      exact .pure hp

theorem takes_line (hp : p.Sees ts ending) (hfuel : 2 * ts.length + 1 ≤ fuel) :
    (line fuel p).Takes 1 ts ending :=
  (takes_query hp hfuel).bind (j := 0) fun query q us hq hlength =>
    (takes_separator (by decide) (fun _ => rfl) hq).bind (j := 0) fun _ q₁ vs hq₁ hlength₁ =>
      (takes_newlines hq₁ (by omega)).bind fun _ q₂ ws hq₂ _ => .pure hq₂

theorem takes_queries (hp : p.Sees ts ending) (hfuel : 2 * ts.length + 2 ≤ fuel) :
    (queriesWith fuel p).Takes 0 ts ending := by
  induction fuel generalizing p ts with
  | zero => omega
  | succ fuel ih =>
    by_cases hcurrent : p.current = .endOfInput
    · rw [queriesWith_end hcurrent]
      exact .pure hp
    · rw [queriesWith_line hcurrent]
      refine ((takes_line hp (by omega)).bind (j := 0) fun query q us hq hlength => ?_).mono
        (by omega)
      exact (ih hq (by omega)).bind fun queries q' vs hq' _ => .pure hq'

theorem takes_residual (hp : p.Sees ts ending) (hfuel : 2 * ts.length + 2 ≤ fuel) :
    (residualWith fuel p).Takes 0 ts ending :=
  (takes_newlines hp (by omega)).bind fun _ q us hq hlength => takes_queries hq (by omega)

end Calls

/-- **The loop goes one round**, which fails or takes a token, and then goes on with the rest. -/
structure GoesRound (loop : Step β) (round : Step α) (rest : α → Step β) (p : Parser)
    (ts : List Token) (ending : Option ScanError) : Prop where
  eq : loop p = (round >>= rest) p
  takes : (round p).Takes 1 ts ending

/-- **Terms, and the rounds of all loops, take a token or fail.**  Only the round that passes over a
newline inside of brackets takes no token in sight; it leaves one answer less ahead. -/
structure RoundsTake (fuel : Nat) (p : Parser) (ts : List Token) (ending : Option ScanError) :
    Prop where
  term : (termWith fuel p).Takes 1 ts ending
  element (closing : Token) : p.current ≠ closing →
    GoesRound (elementsWith (fuel + 1) closing) (element fuel closing) (moreElements fuel closing) p
      ts ending
  field : p.current = .dot →
    GoesRound (suffixWith (fuel + 1)) field (moreSegments fuel) p ts ending
  key : p.current = .openBracket →
    GoesRound (suffixWith (fuel + 1)) (key fuel) (moreSegments fuel) p ts ending
  semicolon : p.current = .semicolon →
    GoesRound (moreExpressionsWith (fuel + 1)) advance (fun _ => afterSemicolon fuel) p ts ending
  newline : p.current = .newline →
    GoesRound (skipNewlines (fuel + 1)) advance (fun _ => skipNewlines fuel) p ts ending
  line : p.current ≠ .endOfInput →
    GoesRound (queriesWith (fuel + 1)) (line fuel) (moreLines fuel) p ts ending
  passed {l : Lexeme} {ls : List Lexeme} : p.ahead.first = l :: ls → 0 < p.depth →
    l.token = .ok .newline →
    advance p = advance ⟨⟨ls, p.ahead.last⟩, .newline, l.start, p.depth⟩

theorem roundsTake {fuel : Nat} (hp : p.Sees ts ending) (hfuel : 2 * ts.length + 1 ≤ fuel) :
    RoundsTake fuel p ts ending where
  term := (endsAt fuel).term hp hfuel
  element closing hcurrent :=
    ⟨elementsWith_round hcurrent, (endsAt fuel).takes_element closing hp hfuel⟩
  field hcurrent := ⟨suffixWith_field hcurrent, takes_field hcurrent hp⟩
  key hcurrent := ⟨suffixWith_key hcurrent, (endsAt fuel).takes_key hcurrent hp (by omega)⟩
  semicolon hcurrent :=
    ⟨moreExpressionsWith_semicolon hcurrent,
      (shifts_advance fun _ => rfl).1.takes (by decide) hcurrent hp⟩
  newline hcurrent :=
    ⟨skipNewlines_newline hcurrent, (shifts_advance fun _ => rfl).1.takes (by decide) hcurrent hp⟩
  line hcurrent := ⟨queriesWith_line hcurrent, takes_line hp hfuel⟩
  passed := advance_newline

/-! ## Calls one after the other -/

/-- **The states that a parser of the text comes into**, by calls that are done and calls that
fail. -/
inductive Reaches (text : String) : Parser → Prop
  | start {p : Parser} : ofText text = .ok p → Reaches text p
  | term {p : Parser} : Reaches text p → Reaches text p.term.2
  | expression {p : Parser} : Reaches text p → Reaches text p.expression.2
  | query {p : Parser} : Reaches text p → Reaches text p.query.2
  | residual {p : Parser} : Reaches text p → Reaches text p.residual.2

theorem continues_ofText {text : String} (h : ofText text = .ok p) :
    p.ahead.Continues (TokenStream.ofText text) := by
  unfold ofText at h
  generalize TokenStream.ofText text = stream at h ⊢
  obtain ⟨first, last⟩ := stream
  cases first with
  | nil =>
    dsimp only at h
    split at h
    · cases h
      exact .refl _
    · cases h
  | cons l ls =>
    dsimp only at h
    split at h
    · cases h
      exact ⟨rfl, List.suffix_cons l ls⟩
    · cases h

theorem continues_run {stream : TokenStream} {step : Nat → Step α} {depth : Nat}
    (hp : p.ahead.Continues stream)
    (hsettles : ∀ fuel, (step fuel p).Settles stream depth (step (fuel + 1) p)) :
    (p.run step).2.ahead.Continues stream := by
  have hstep := hsettles p.fuel
  rw [run]
  generalize step p.fuel p = outcome, step (p.fuel + 1) p = outcome' at hstep
  cases hstep with
  | done _ hahead => exact hahead
  | failed hahead => exact hahead
  | exhausted => exact hp

theorem Reaches.continues {text : String} (h : Reaches text p) :
    p.ahead.Continues (TokenStream.ofText text) := by
  induction h with
  | start h => exact continues_ofText h
  | term _ ih => exact continues_run ih fun fuel => (settlesAt fuel).term ih
  | expression _ ih => exact continues_run ih fun fuel => settles_expression fuel ih
  | query _ ih => exact continues_run ih fun fuel => settles_query fuel ih
  | residual _ ih => exact continues_run ih fun fuel => settles_residual fuel ih

/-- A parser sees tokens, whatever its current token and its brackets are. -/
theorem exists_sees {s : Scanner} (h : TokenStream.Lists s p.ahead) :
    ∃ ts ending, p.Sees ts ending ∧ ts.length ≤ p.ahead.first.length + 1 := by
  obtain ⟨us, ending, hgives⟩ := h.exists_gives
  by_cases hcurrent : p.current = .endOfInput
  · exact ⟨[], none, .ended hcurrent, Nat.zero_le _⟩
  · refine ⟨_, ending, .token hcurrent ⟨us, hgives, rfl⟩, ?_⟩
    exact Nat.succ_le_succ ((length_significant_le _ us).trans hgives.length_le)

/-- **The call ends**: with a fuel of at least `bound` the step comes to what the call answers.  If
it is done, it has taken at least `least` tokens, and as many brackets are open as before. -/
inductive Ends (p : Parser) (ts : List Token) (ending : Option ScanError) (bound least : Nat)
    (step : Nat → Step α) : Except ParseError α × Parser → Prop
  | done {a : α} {p' : Parser} {us vs : List Token}
      (hstep : ∀ fuel, bound ≤ fuel → step fuel p = .done a p')
      (hahead : p'.ahead.Continues p.ahead) (hdepth : p'.depth = p.depth) (hts : ts = us ++ vs)
      (hleast : least ≤ us.length) (hp' : p'.Sees vs ending) :
      Ends p ts ending bound least step (.ok a, p')
  | failed {e : ParseError} {p' : Parser}
      (hstep : ∀ fuel, bound ≤ fuel → step fuel p = .failed e p')
      (hahead : p'.ahead.Continues p.ahead) : Ends p ts ending bound least step (.error e, p')

theorem ends_run {step : Nat → Step α} {bound least : Nat}
    (hsettles : ∀ fuel, (step fuel p).Settles p.ahead p.depth (step (fuel + 1) p))
    (htakes : ∀ fuel, 2 * ts.length + 2 ≤ fuel → (step fuel p).Takes least ts ending)
    (hlength : ts.length ≤ p.ahead.first.length + 1) (hbound : 2 * ts.length + 2 ≤ bound) :
    Ends p ts ending bound least step (p.run step) := by
  have henough : 2 * ts.length + 2 ≤ p.fuel := by
    rw [fuel]
    omega
  have htake := htakes _ henough
  have hsettle := hsettles p.fuel
  have hsame : ∀ fuel, bound ≤ fuel → step fuel p = step p.fuel p := by
    intro fuel hfuel
    have hne := (htakes _ (Nat.le_refl _)).ne_exhausted
    exact (eq_of_settles (hbound.trans hfuel) hsettles hne).trans
      (eq_of_settles henough hsettles hne).symm
  rw [run]
  generalize step p.fuel p = outcome, step (p.fuel + 1) p = outcome' at hsame htake hsettle
  cases hsettle with
  | done hdepth hahead =>
    cases htake with
    | done hts hleast hp' => exact .done hsame hahead hdepth hts hleast hp'
  | failed hahead => exact .failed hsame hahead
  | exhausted => exact absurd rfl htake.ne_exhausted

/-- What lies ahead of a parser of the text are the answers of its scanner, after some calls. -/
theorem Reaches.exists_lists {text : String} (h : Reaches text p) {q : Parser}
    (hq : q.ahead.Continues p.ahead) :
    (∃ n, TokenStream.Lists ((Scanner.ofText text).after n) q.ahead) ∧
      q.ahead.first.length ≤ text.length := by
  obtain ⟨hlast, hfirst⟩ := hq
  have hlists := TokenStream.lists_ofText text
  have hfirst := hfirst.trans h.continues.2
  refine ⟨?_, ?_⟩
  · obtain ⟨n, hn⟩ := hlists.suffix hfirst
    rw [← h.continues.1, ← hlast] at hn
    exact ⟨n, hn⟩
  · exact hfirst.length_le.trans (hlists.length_le.trans (Nat.le_of_eq String.length_toList))

/-- **Every call of a parser ends**, also if calls before it have failed.

Terms, and the rounds of all loops, fail or take one of the tokens in sight, whatever the state is.
In every state that a call passes through, with any current token and any number of open brackets,
what lies ahead are answers of the scanner, and no more tokens are in sight than the text has room
for.  So a fuel of twice its length and some to spare is never used up: a call comes to the same
answer with any more of it.  A call that is done leaves as many brackets open as it found, and has
taken a token if it was to read a term, an expression or a query. -/
theorem calls_end (text : String) {p : Parser} (hp : Reaches text p) :
    (∀ (q : Parser) (ts : List Token) (ending : Option ScanError) (fuel : Nat), q.Sees ts ending →
      2 * ts.length + 1 ≤ fuel → RoundsTake fuel q ts ending) ∧
    (∀ q : Parser, q.ahead.Continues p.ahead →
      (∃ n, TokenStream.Lists ((Scanner.ofText text).after n) q.ahead ∧
        ∀ m, q.ahead.answer m = (Scanner.ofText text).answer (n + m)) ∧
      ∃ ts ending, q.Sees ts ending ∧ ts.length ≤ text.length + 1) ∧
    ∃ ts ending, p.Sees ts ending ∧
      Ends p ts ending (2 * text.length + 4) 1 termWith p.term ∧
      Ends p ts ending (2 * text.length + 4) 1 expressionWith p.expression ∧
      Ends p ts ending (2 * text.length + 4) 1 queryWith p.query ∧
      Ends p ts ending (2 * text.length + 4) 0 residualWith p.residual := by
  refine ⟨fun q ts ending fuel => roundsTake, fun q hq => ?_, ?_⟩
  · obtain ⟨⟨n, hlists⟩, hle⟩ := hp.exists_lists hq
    obtain ⟨ts, ending, hsees, hlength⟩ := exists_sees hlists
    refine ⟨⟨n, hlists, fun m => ?_⟩, ts, ending, hsees, by omega⟩
    rw [hlists.answer_eq, Scanner.answer_add]
  · have hahead := TokenStream.Continues.refl p.ahead
    obtain ⟨⟨n, hlists⟩, hle⟩ := hp.exists_lists hahead
    obtain ⟨ts, ending, hsees, hlength⟩ := exists_sees hlists
    have hbound : 2 * ts.length + 2 ≤ 2 * text.length + 4 := by omega
    refine ⟨ts, ending, hsees, ?_, ?_, ?_, ?_⟩
    · exact ends_run (fun fuel => (settlesAt fuel).term hahead)
        (fun fuel hfuel => (endsAt fuel).term hsees (by omega)) hlength hbound
    · exact ends_run (fun fuel => settles_expression fuel hahead)
        (fun fuel hfuel => takes_expression hsees (by omega)) hlength hbound
    · exact ends_run (fun fuel => settles_query fuel hahead)
        (fun fuel hfuel => takes_query hsees (by omega)) hlength hbound
    · exact ends_run (fun fuel => settles_residual fuel hahead)
        (fun fuel hfuel => takes_residual hsees hfuel) hlength hbound

/-- A failed call can leave a bracket open, and no token to look at.  The calls after it end. -/
theorem calls_end_open_bracket :
    ∃ p, Reaches "a(]\nb" p ∧ p.depth = 1 ∧ p.current = .endOfInput ∧ p.ahead.first.length = 2 ∧
      ∃ ts ending, p.Sees ts ending ∧ Ends p ts ending 14 1 termWith p.term ∧
        Ends p ts ending 14 1 expressionWith p.expression ∧
        Ends p ts ending 14 1 queryWith p.query ∧
        Ends p ts ending 14 0 residualWith p.residual := by
  have hopen : (ofText "a(]\nb").toOption.any (fun p => decide (p.term.2.depth = 1 ∧
      p.term.2.current = .endOfInput ∧ p.term.2.ahead.first.length = 2)) = true := by
    decide +kernel
  cases hp : ofText "a(]\nb" with
  | error e =>
    rw [hp] at hopen
    cases hopen
  | ok p =>
    rw [hp] at hopen
    obtain ⟨hdepth, hcurrent, hlength⟩ := of_decide_eq_true hopen
    have hreaches : Reaches "a(]\nb" p.term.2 := .term (.start hp)
    exact ⟨_, hreaches, hdepth, hcurrent, hlength, (calls_end "a(]\nb" hreaches).2.2⟩

end RowFilter.Parser
