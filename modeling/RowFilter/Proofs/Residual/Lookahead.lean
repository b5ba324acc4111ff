import RowFilter.Proofs.Residual.Grammar
import RowFilter.Proofs.Token.Answers
import RowFilter.Residual.Parser

/-!
# What a parser sees

A parser looks at one token and has the answers of a scanner before it.  Together these are the
tokens that it sees (`Parser.Sees`): newlines inside of brackets are none of them, and there may be
an error behind the last one.  The steps of the grammar are described by what they do to the tokens
that are seen, and by nothing else of the state.

* `Parser.Shifts` — a step that moves past one token and keeps count of the brackets.
* `Parser.Accepts` — where a step is done, the tokens it took are related to its value.
* `Parser.Reads` — a step that comes upon given tokens takes them for a given value; where an error
  stands among them, the step fails with that error.

`Accepts` is composed along the steps of the parser, and `Reads` along the rules of the grammar.
-/

set_option autoImplicit false

namespace RowFilter.Parser

/-! ## Tokens in sight -/

/-- The tokens that the scanner has still to answer, if `depth` brackets are open. -/
def Ahead (p : Parser) (depth : Nat) (ts : List Token) (ending : Option ScanError) : Prop :=
  ∃ us, p.ahead.Gives us ending ∧ significant depth us = ts

/-- **The tokens that a parser sees**, the current one included, and the error behind them. -/
inductive Sees (p : Parser) : List Token → Option ScanError → Prop
  | ended : p.current = .endOfInput → Sees p [] none
  | token {ts : List Token} {ending : Option ScanError} : p.current ≠ .endOfInput →
      p.Ahead (p.current.depthAfter p.depth) ts ending → Sees p (p.current :: ts) ending

namespace Sees

variable {p : Parser} {ts : List Token} {ending : Option ScanError}

theorem current_eq {t : Token} (h : p.Sees (t :: ts) ending) : p.current = t := by
  cases h
  rfl

theorem current_of_nil (h : p.Sees [] ending) : p.current = .endOfInput ∧ ending = none := by
  cases h with
  | ended h => exact ⟨h, rfl⟩

theorem ne_nil {e : ScanError} (h : p.Sees ts (some e)) : ts ≠ [] := by
  rintro rfl
  cases h.current_of_nil.2

theorem eq_nil (h : p.Sees ts ending) (hcurrent : p.current = .endOfInput) :
    ts = [] ∧ ending = none := by
  cases h with
  | ended => exact ⟨rfl, rfl⟩
  | token hne => exact absurd hcurrent hne

theorem eq_cons (h : p.Sees ts ending) (hcurrent : p.current ≠ .endOfInput) :
    ∃ us, ts = p.current :: us ∧ p.Ahead (p.current.depthAfter p.depth) us ending := by
  cases h with
  | ended hended => exact absurd hended hcurrent
  | token _ hahead => exact ⟨_, rfl, hahead⟩

end Sees

/-- The parser moves on to the first token ahead, or meets the error that stands there. -/
theorem advance_of_ahead {p : Parser} {ts : List Token} {ending : Option ScanError}
    (h : p.Ahead p.depth ts ending) :
    (∃ p', advance p = .done () p' ∧ p'.Sees ts ending) ∨
      ∃ e p', ts = [] ∧ ending = some e ∧ advance p = .failed (.scan e) p' := by
  obtain ⟨us, hgives, rfl⟩ := h
  obtain ⟨stream, current, position, depth⟩ := p
  change (∃ p', advanceThrough ⟨stream, current, position, depth⟩ stream.first = _ ∧ _) ∨
    ∃ e p', _ ∧ _ ∧ advanceThrough ⟨stream, current, position, depth⟩ stream.first = _
  dsimp only at hgives ⊢
  induction hgives generalizing current position with
  | ended hlast =>
    refine .inl ⟨_, by rw [advanceThrough, hlast], .ended rfl⟩
  | stuck hlast => exact .inr ⟨_, _, rfl, rfl, by rw [advanceThrough, hlast]⟩
  | failed hl => exact .inr ⟨_, _, rfl, rfl, by rw [advanceThrough, hl]⟩
  | @more l last ls t ts ending hl ht hgives ih =>
    by_cases hskip : 0 < depth ∧ t = .newline
    · have hadvance : advanceThrough ⟨⟨l :: ls, last⟩, current, position, depth⟩ (l :: ls) =
          advanceThrough ⟨⟨ls, last⟩, t, l.start, depth⟩ ls := by
        rw [advanceThrough, hl]
        exact if_pos hskip
      rw [significant, if_pos hskip, hadvance]
      exact ih t l.start
    · have hadvance : advanceThrough ⟨⟨l :: ls, last⟩, current, position, depth⟩ (l :: ls) =
          .done () ⟨⟨ls, last⟩, t, l.start, depth⟩ := by
        rw [advanceThrough, hl]
        exact if_neg hskip
      rw [significant, if_neg hskip, hadvance]
      exact .inl ⟨_, rfl, .token ht ⟨ts, hgives, rfl⟩⟩

/-! ## Steps past one token -/

/-- **The step moves past the token `t`** and counts the brackets that `t` opens or closes. -/
def Shifts (t : Token) (step : Step Unit) : Prop :=
  ∀ p : Parser, p.current = t →
    ∃ current, step p = advance { p with current, depth := t.depthAfter p.depth }

theorem Shifts.of_sees {t : Token} {step : Step Unit} (h : Shifts t step) {p : Parser}
    {ts : List Token} {ending : Option ScanError} (hp : p.Sees (t :: ts) ending) :
    (∃ p', step p = .done () p' ∧ p'.Sees ts ending) ∨
      ∃ e p', ts = [] ∧ ending = some e ∧ step p = .failed (.scan e) p' := by
  cases hp with
  | token _ hahead =>
    obtain ⟨current, hstep⟩ := h p rfl
    rw [hstep]
    exact advance_of_ahead hahead

section Bind

variable {α β : Type} {step : Step α} {f : α → Step β} {p p' : Parser}

theorem bind_of_eq {step' : Step α} (h : step p = step' p) : (step >>= f) p = (step' >>= f) p := by
  simp only [bind, h]

theorem bind_done {a : α} (h : step p = .done a p') : (step >>= f) p = f a p' := by
  simp only [bind, h]

theorem bind_failed {e : ParseError} (h : step p = .failed e p') :
    (step >>= f) p = .failed e p' := by
  simp only [bind, h]

theorem bind_eq_done {b : β} {p'' : Parser} (h : (step >>= f) p = .done b p'') :
    ∃ a p', step p = .done a p' ∧ f a p' = .done b p'' := by
  cases hstep : step p with
  | done a p' => exact ⟨a, p', rfl, by rw [← h, bind_done hstep]⟩
  | failed e p' => rw [bind_failed hstep] at h; cases h
  | exhausted => simp only [bind, hstep] at h; cases h

end Bind

section Primitives

variable {α : Type} (p : Parser)

@[simp] theorem looksAt_bind (t : Token) (f : Bool → Step α) :
    (looksAt t >>= f) p = f (decide (p.current = t)) p := rfl

@[simp] theorem peek_bind (f : Token → Step α) : (peek >>= f) p = f p.current p := rfl

end Primitives

/-- The step, after the current token has been taken away. -/
def taking (step : Step Unit) : Step Unit :=
  fun p => step { p with current := .endOfInput }

theorem shifts_advance {t : Token} (h : ∀ depth, t.depthAfter depth = depth) :
    Shifts t advance ∧ Shifts t (taking advance) :=
  ⟨fun p _ => ⟨p.current, by rw [h]⟩, fun p _ => ⟨.endOfInput, by rw [h]; rfl⟩⟩

theorem shifts_enter {t : Token} (h : ∀ depth, t.depthAfter depth = depth + 1) :
    Shifts t enter ∧ Shifts t (taking enter) :=
  ⟨fun p _ => ⟨p.current, by rw [h]; rfl⟩, fun p _ => ⟨.endOfInput, by rw [h]; rfl⟩⟩

theorem shifts_leave {t : Token} (h : ∀ depth, t.depthAfter depth = depth - 1) :
    Shifts t (leave t) := by
  intro p hp
  refine ⟨p.current, ?_⟩
  rw [h, leave, looksAt_bind, decide_eq_true hp]
  rfl

theorem shifts_expect {t : Token} (h : ∀ depth, t.depthAfter depth = depth) :
    Shifts t (expect t) := by
  intro p hp
  refine ⟨p.current, ?_⟩
  rw [h, expect, looksAt_bind, decide_eq_true hp]
  rfl

/-! ## Taking tokens for a value -/

variable {α β : Type}

/-- **Where the step is done, the tokens it took are related to its value.** -/
def Accepts (step : Step α) (R : List Token → α → Prop) : Prop :=
  ∀ {p p' : Parser} {ts : List Token} {ending : Option ScanError} {a : α},
    p.Sees ts ending → step p = .done a p' →
    ∃ us vs, ts = us ++ vs ∧ R us a ∧ p'.Sees vs ending

theorem Accepts.of_bind {step : Step α} {R : List Token → α → Prop} (h : Accepts step R)
    {f : α → Step β} {p p' : Parser} {ts : List Token} {ending : Option ScanError} {b : β}
    (hp : p.Sees ts ending) (hbind : (step >>= f) p = .done b p') :
    ∃ a us vs q, ts = us ++ vs ∧ R us a ∧ q.Sees vs ending ∧ f a q = .done b p' := by
  obtain ⟨a, q, hstep, hf⟩ := bind_eq_done hbind
  obtain ⟨us, vs, hts, hR, hq⟩ := h hp hstep
  exact ⟨a, us, vs, q, hts, hR, hq, hf⟩

theorem Shifts.of_done {t : Token} {step : Step Unit} (h : Shifts t step) {p p' : Parser}
    {ts : List Token} {ending : Option ScanError} (ht : t ≠ .endOfInput) (hcurrent : p.current = t)
    (hp : p.Sees ts ending) (hstep : step p = .done () p') :
    ∃ us, ts = t :: us ∧ p'.Sees us ending := by
  obtain ⟨us, rfl, -⟩ := hp.eq_cons (hcurrent ▸ ht)
  refine ⟨us, by rw [hcurrent], ?_⟩
  rw [hcurrent] at hp
  rcases h.of_sees hp with ⟨p'', hdone, hsees⟩ | ⟨e, p'', -, -, hfailed⟩
  · cases hdone.symm.trans hstep
    exact hsees
  · cases hfailed.symm.trans hstep

theorem Shifts.of_bind {t : Token} {shift : Step Unit} (h : Shifts t shift) {step : Step β}
    {p p' : Parser} {ts : List Token} {ending : Option ScanError} {b : β} (ht : t ≠ .endOfInput)
    (hcurrent : p.current = t) (hp : p.Sees ts ending)
    (hbind : (shift >>= fun _ => step) p = .done b p') :
    ∃ us q, ts = t :: us ∧ q.Sees us ending ∧ step q = .done b p' := by
  obtain ⟨_, q, hshift, hstep⟩ := bind_eq_done hbind
  obtain ⟨us, hts, hq⟩ := h.of_done ht hcurrent hp hshift
  exact ⟨us, q, hts, hq, hstep⟩

/-- **A step that comes upon the tokens `ts` takes them for the value `a`**, if at most `n` tokens
are in sight and the first one behind `ts` satisfies `follows`.  Where an error stands among the
tokens, or right behind them, the step fails with it. -/
structure Reads (n : Nat) (step : Step α) (follows : Token → Bool) (ts : List Token) (a : α) :
    Prop where
  done {p : Parser} {rest : List Token} {ending : Option ScanError} : p.Sees (ts ++ rest) ending →
    (ts ++ rest).length ≤ n → (∀ t ∈ rest.head?, follows t = true) → (rest = [] → ending = none) →
    ∃ p', step p = .done a p' ∧ p'.Sees rest ending
  failed {p : Parser} {us : List Token} {e : ScanError} : p.Sees us (some e) → us.length ≤ n →
    us <+: ts → ∃ p', step p = .failed (.scan e) p'

namespace Reads

variable {n : Nat} {step : Step α} {follows : Token → Bool} {ts : List Token} {a : α}

/-- Nothing can be seen of tokens that are too many. -/
theorem zero (h : ts ≠ []) : Reads 0 step follows ts a where
  done hp hlength _ _ := by
    have hpos := List.length_pos_iff.2 h
    rw [List.length_append] at hlength
    omega
  failed hp hlength _ := by
    have hpos := List.length_pos_iff.2 hp.ne_nil
    omega

theorem mono {m : Nat} {follows' : Token → Bool} (h : Reads n step follows ts a) (hm : m ≤ n)
    (hfollows : ∀ t, follows' t = true → follows t = true) : Reads m step follows' ts a where
  done hp hlength hrest hending :=
    h.done hp (hlength.trans hm) (fun t ht => hfollows t (hrest t ht)) hending
  failed hp hlength hus := h.failed hp (hlength.trans hm) hus

/-- Steps that do the same at the current token read the same. -/
theorem congr {step' : Step α} {t : Token} (h : Reads n step' follows (t :: ts) a)
    (hstep : ∀ p : Parser, p.current = t → step p = step' p) :
    Reads n step follows (t :: ts) a where
  done hp hlength hrest hending := by
    rw [hstep _ hp.current_eq]
    exact h.done hp hlength hrest hending
  failed {p us e} hp hlength hus := by
    rcases us with _ | ⟨u, us⟩
    · exact absurd rfl hp.ne_nil
    · rw [hstep _ (hp.current_eq.trans (List.cons_prefix_cons.1 hus).1)]
      exact h.failed hp hlength hus

/-- A step that takes nothing is decided by the token behind. -/
theorem nil (h : ∀ p : Parser, (p.current = .endOfInput ∨ follows p.current = true) →
    step p = .done a p) : Reads n step follows [] a where
  done {p rest ending} hp _ hrest _ := by
    refine ⟨p, h p ?_, hp⟩
    cases hp with
    | ended hended => exact .inl hended
    | token => exact .inr (hrest _ rfl)
  failed hp _ hus := absurd (List.prefix_nil.1 hus) hp.ne_nil

theorem pure : Reads n (Pure.pure a) follows [] a :=
  nil fun _ _ => rfl

theorem shift {t : Token} {step : Step Unit} (h : Shifts t step) : Reads n step follows [t] () where
  done {p rest ending} hp _ _ hending := by
    rcases h.of_sees hp with hdone | ⟨e, p', hrest, hsome, -⟩
    · exact hdone
    · cases (hending hrest).symm.trans hsome
  failed {p us e} hp _ hus := by
    obtain rfl : us = [t] := by
      rcases us with _ | ⟨u, us⟩
      · exact absurd rfl hp.ne_nil
      · obtain ⟨rfl, hnil⟩ := List.cons_prefix_cons.1 hus
        rw [List.prefix_nil.1 hnil]
    rcases h.of_sees hp with ⟨p', -, hsees⟩ | ⟨e', p', -, hsome, hfailed⟩
    · exact absurd rfl hsees.ne_nil
    · cases hsome
      exact ⟨p', hfailed⟩

/-- **Tokens are read one part after the other**, if what follows the first part may follow it. -/
theorem bind {m : Nat} {f : α → Step β} {follows' : Token → Bool} {us : List Token} {b : β}
    (h : Reads n step follows ts a) (h' : Reads m (f a) follows' us b) (hm : n ≤ ts.length + m)
    (hfollows : ∀ t, t ∈ us.head? ∨ us = [] ∧ follows' t = true → follows t = true) :
    Reads n (step >>= f) follows' (ts ++ us) b where
  done {p rest ending} hp hlength hrest hending := by
    rw [List.append_assoc] at hp hlength
    have hfirst : ∀ t ∈ (us ++ rest).head?, follows t = true := by
      intro t ht
      cases us with
      | nil => exact hfollows t (.inr ⟨rfl, hrest t ht⟩)
      | cons u us => exact hfollows t (.inl ht)
    obtain ⟨p', hdone, hsees⟩ := h.done hp hlength hfirst
      fun hnil => hending (List.append_eq_nil_iff.1 hnil).2
    rw [bind_done hdone]
    rw [List.length_append] at hlength
    exact h'.done hsees (by omega) hrest hending
  failed {p vs e} hp hlength hvs := by
    rcases List.prefix_or_prefix_of_prefix hvs (List.prefix_append ts us) with hts | ⟨ws, rfl⟩
    · obtain ⟨p', hfailed⟩ := h.failed hp hlength hts
      exact ⟨p', bind_failed hfailed⟩
    · have hws : ws <+: us := (List.prefix_append_right_inj ts).1 hvs
      rcases ws with _ | ⟨w, ws⟩
      · obtain ⟨p', hfailed⟩ := h.failed hp hlength (by simp)
        exact ⟨p', bind_failed hfailed⟩
      · obtain ⟨us, rfl⟩ := hws
        obtain ⟨p', hdone, hsees⟩ := h.done hp hlength (fun t ht => hfollows t (.inl ht)) nofun
        rw [bind_done hdone]
        rw [List.length_append] at hlength
        exact h'.failed hsees (by omega) (List.prefix_append _ us)

theorem bind_cons {m : Nat} {f : α → Step β} {follows' : Token → Bool} {u : Token}
    {us : List Token} {b : β} (h : Reads n step follows ts a)
    (h' : Reads m (f a) follows' (u :: us) b) (hm : n ≤ ts.length + m) (hu : follows u = true) :
    Reads n (step >>= f) follows' (ts ++ u :: us) b := by
  refine h.bind h' hm ?_
  rintro t (ht | ⟨ht, -⟩)
  · cases ht
    exact hu
  · cases ht

theorem cons {m : Nat} {t : Token} {shift : Step Unit} (hshift : Shifts t shift)
    (h : Reads m step follows ts a) (hm : n ≤ m + 1) :
    Reads n (shift >>= fun _ => step) follows (t :: ts) a := by
  have hfirst : Reads n shift (fun _ => true) [t] () := .shift hshift
  exact hfirst.bind h (by rw [List.length_singleton]; omega) fun _ _ => rfl

theorem map {f : α → Step β} {b : β} (h : Reads n step follows ts a)
    (hf : f a = Pure.pure b) : Reads n (step >>= f) follows ts b := by
  rw [← List.append_nil ts]
  refine h.bind (hf ▸ .pure : Reads n (f a) follows [] b) (by omega) ?_
  rintro t (ht | ⟨-, ht⟩)
  · cases ht
  · exact ht

end Reads

/-! ## The functions of the grammar

What each function does at the current token, as a sequence of the steps above. -/

theorem bind_congr {step : Step α} {f g : α → Step β} (h : ∀ a p, f a p = g a p) (p : Parser) :
    (step >>= f) p = (step >>= g) p := by
  rw [show f = g from funext fun a => funext (h a)]

/-- Moves past a separator, unless the token `last` stands there. -/
def separator (last : Token) (between : Token) : Step Unit := do
  unless ← looksAt last do
    expect between

theorem separator_of_eq {last between : Token} {p : Parser} (h : p.current = last) :
    separator last between p = .done () p := by
  rw [separator, looksAt_bind, decide_eq_true h]
  rfl

theorem separator_of_ne {last between : Token} {p : Parser} (h : p.current ≠ last) :
    separator last between p = expect between p := by
  rw [separator, looksAt_bind, decide_eq_false h]
  rfl

theorem shifts_separator {last between : Token} (hne : between ≠ last)
    (h : ∀ depth, between.depthAfter depth = depth) : Shifts between (separator last between) := by
  intro p hp
  rw [separator_of_ne (hp ▸ hne)]
  exact shifts_expect h p hp

theorem separator_bind (last between : Token) (step : Step α) (p : Parser) :
    (separator last between >>= fun _ => step) p =
      (if decide (p.current = last) = true then step
        else expect between >>= fun _ => step) p := by
  by_cases h : p.current = last
  · rw [bind_done (separator_of_eq h), decide_eq_true h, if_pos rfl]
  · rw [decide_eq_false h, if_neg (by decide), bind_of_eq (separator_of_ne h)]

theorem reference_plain {segments : List Term} (h : segments ≠ []) (name : String) :
    reference name segments none = .ref (.var name :: segments) := by
  rw [reference, List.isEmpty_eq_false_iff.2 h]
  rfl

/-- Only the call `set()` denotes no call. -/
theorem reference_applied {name : String} {segments arguments : List Term}
    (h : ¬ (name = "set" ∧ segments = [] ∧ arguments = [])) :
    reference name segments (some arguments) =
      .call (.ref (.var name :: segments) :: arguments) := by
  rw [reference, if_neg]
  intro hset
  rw [Bool.and_eq_true, Bool.and_eq_true, List.isEmpty_iff, List.isEmpty_iff, beq_iff_eq] at hset
  exact h ⟨hset.2, hset.1.2, hset.1.1⟩

/-- What follows the first term of an expression. -/
def operation (fuel : Nat) (negated : Bool) (left : Term) : Step Expression := do
  match (← peek).operator? with
  | some operator => do
    advance
    let right ← termWith fuel
    pure ⟨.call [.ref [.var operator], left, right], negated⟩
  | none => pure ⟨Grammar.conditionOf left, negated⟩

/-- What follows a semicolon: another expression, unless the query ends there. -/
def afterSemicolon (fuel : Nat) : Step Query :=
  fun p => if p.current = .newline ∨ p.current = .endOfInput then .done [] p else queryWith fuel p

section Equations

variable {fuel : Nat} {p : Parser}

theorem termWith_literal {token : Token} {t : Term} (ht : token.literal? = some t)
    (hp : p.current = token) :
    termWith (fuel + 1) p = (do taking advance; pure t : Step Term) p := by
  obtain ⟨ahead, current, position, depth⟩ := p
  cases hp
  cases current <;> first | cases ht; rfl | cases ht

theorem termWith_identifier {name : String} (hp : p.current = .identifier name) :
    termWith (fuel + 1) p = (do
      taking advance
      let (segments, arguments) ← suffixWith fuel
      pure (reference name segments arguments) : Step Term) p := by
  obtain ⟨ahead, current, position, depth⟩ := p
  cases hp
  rfl

theorem termWith_openBracket (hp : p.current = .openBracket) :
    termWith (fuel + 1) p = (do
      taking enter
      let elements ← elementsWith fuel .closeBracket
      pure (.array elements) : Step Term) p := by
  obtain ⟨ahead, current, position, depth⟩ := p
  cases hp
  rfl

theorem termWith_openBrace (hp : p.current = .openBrace) :
    termWith (fuel + 1) p = (do
      taking enter
      let elements ← elementsWith fuel .closeBrace
      pure (.set elements) : Step Term) p := by
  obtain ⟨ahead, current, position, depth⟩ := p
  cases hp
  rfl

theorem termWith_openParen (hp : p.current = .openParen) :
    termWith (fuel + 1) p = (do
      taking enter
      let t ← termWith fuel
      leave .closeParen
      pure t : Step Term) p := by
  obtain ⟨ahead, current, position, depth⟩ := p
  cases hp
  rfl

theorem termWith_other (hp : p.current.startsTerm = false) :
    termWith (fuel + 1) p =
      .failed (.grammar (.unexpected p.current) p.position) { p with current := .endOfInput } := by
  obtain ⟨ahead, current, position, depth⟩ := p
  cases current <;> first | rfl | cases hp

theorem elementsWith_closing {closing : Token} (hp : p.current = closing) :
    elementsWith (fuel + 1) closing p = (do leave closing; pure [] : Step (List Term)) p := by
  rw [elementsWith, looksAt_bind, decide_eq_true hp, if_pos rfl]

theorem elementsWith_more {closing : Token} (hp : p.current ≠ closing) :
    elementsWith (fuel + 1) closing p = (do
      let t ← termWith fuel
      separator closing .comma
      let ts ← elementsWith fuel closing
      pure (t :: ts) : Step (List Term)) p := by
  rw [elementsWith, looksAt_bind, decide_eq_false hp, if_neg (by decide)]
  exact bind_congr (fun t p => (separator_bind closing .comma _ p).symm) p

theorem fieldName_eq {name : String} (hp : p.current.fieldName? = some name) :
    fieldName p = .done name p := by
  obtain ⟨ahead, current, position, depth⟩ := p
  cases current with
  | boolean value => cases value <;> cases hp <;> rfl
  | _ => first | cases hp; rfl | cases hp

theorem fieldName_other (hp : p.current.fieldName? = none) :
    fieldName p = .failed (.grammar (.fieldName p.current) p.position) p := by
  obtain ⟨ahead, current, position, depth⟩ := p
  cases current with
  | boolean value => cases value <;> cases hp
  | _ => first | rfl | cases hp

theorem suffixWith_dot (hp : p.current = .dot) :
    suffixWith (fuel + 1) p = (do
      advance
      let name ← fieldName
      advance
      let (segments, arguments) ← suffixWith fuel
      pure (.string name :: segments, arguments) : Step (List Term × Option (List Term))) p := by
  rw [suffixWith, peek_bind, hp]

theorem suffixWith_openBracket (hp : p.current = .openBracket) :
    suffixWith (fuel + 1) p = (do
      enter
      let key ← termWith fuel
      leave .closeBracket
      let (segments, arguments) ← suffixWith fuel
      pure (key :: segments, arguments) : Step (List Term × Option (List Term))) p := by
  rw [suffixWith, peek_bind, hp]

theorem suffixWith_openParen (hp : p.current = .openParen) :
    suffixWith (fuel + 1) p = (do
      enter
      let arguments ← elementsWith fuel .closeParen
      pure ([], some arguments) : Step (List Term × Option (List Term))) p := by
  rw [suffixWith, peek_bind, hp]

theorem suffixWith_other (hp : p.current.extendsTerm = false) :
    suffixWith (fuel + 1) p = .done ([], none) p := by
  obtain ⟨ahead, current, position, depth⟩ := p
  cases current <;> first | rfl | cases hp

theorem comparison_eq (sign : Token) : comparison sign = sign.operator? := by
  cases sign <;> rfl

theorem ofCall_of_operator {sign : Token} {operator : String} (h : sign.operator? = some operator)
    (terms : List Term) :
    Expression.ofCall operator terms = ⟨.call (.ref [.var operator] :: terms), false⟩ := by
  cases sign <;> cases h <;> rfl

theorem operation_eq (fuel : Nat) (negated : Bool) (left : Term) :
    operation fuel negated left = (do
      match comparison (← peek) with
      | some operator => do
        advance
        let right ← termWith fuel
        pure { Expression.ofCall operator [left, right] with negated }
      | none =>
        match left with
        | .call terms => pure { condition := .call terms, negated }
        | t => pure { condition := .term t, negated } : Step Expression) := by
  funext p
  rw [operation, peek_bind, peek_bind, comparison_eq]
  cases hoperator : p.current.operator? with
  | none => cases left <;> rfl
  | some operator => simp only [ofCall_of_operator hoperator]

theorem expressionWith_not (hp : p.current = .not) :
    expressionWith fuel p = (do
      advance
      let left ← termWith fuel
      operation fuel true left : Step Expression) p := by
  simp only [operation_eq]
  rewrite [expressionWith, looksAt_bind, decide_eq_true hp, if_pos rfl]
  rfl

theorem expressionWith_other (hp : p.current ≠ .not) :
    expressionWith fuel p = (do
      let left ← termWith fuel
      operation fuel false left : Step Expression) p := by
  simp only [operation_eq]
  rewrite [expressionWith, looksAt_bind, decide_eq_false hp, if_neg (by decide)]
  rfl

theorem operation_some {negated : Bool} {left : Term} {operator : String}
    (hp : p.current.operator? = some operator) :
    operation fuel negated left p = (do
      advance
      let right ← termWith fuel
      pure ⟨.call [.ref [.var operator], left, right], negated⟩ : Step Expression) p := by
  rw [operation, peek_bind, hp]

theorem operation_none {negated : Bool} {left : Term} (hp : p.current.operator? = none) :
    operation fuel negated left p = .done ⟨Grammar.conditionOf left, negated⟩ p := by
  rw [operation, peek_bind, hp]
  rfl

theorem moreExpressionsWith_semicolon (hp : p.current = .semicolon) :
    moreExpressionsWith (fuel + 1) p = (do advance; afterSemicolon fuel : Step Query) p := by
  rw [moreExpressionsWith, looksAt_bind, decide_eq_true hp, if_pos rfl]
  refine bind_congr (fun _ p => ?_) p
  rw [looksAt_bind, looksAt_bind, ← Bool.decide_or, afterSemicolon]
  by_cases hend : p.current = .newline ∨ p.current = .endOfInput
  · rw [decide_eq_true hend, if_pos rfl, if_pos hend]
    rfl
  · rw [decide_eq_false hend, if_neg (by decide), if_neg hend]
    rfl

theorem moreExpressionsWith_other (hp : p.current ≠ .semicolon) :
    moreExpressionsWith (fuel + 1) p = .done [] p := by
  rw [moreExpressionsWith, looksAt_bind, decide_eq_false hp]
  rfl

theorem skipNewlines_newline (hp : p.current = .newline) :
    skipNewlines (fuel + 1) p = (do advance; skipNewlines fuel : Step Unit) p := by
  rw [skipNewlines, looksAt_bind, decide_eq_true hp]
  rfl

theorem skipNewlines_other (hp : p.current ≠ .newline) :
    skipNewlines (fuel + 1) p = .done () p := by
  rw [skipNewlines, looksAt_bind, decide_eq_false hp]
  rfl

theorem queriesWith_end (hp : p.current = .endOfInput) :
    queriesWith (fuel + 1) p = .done [] p := by
  rw [queriesWith, looksAt_bind, decide_eq_true hp]
  rfl

theorem queriesWith_more (hp : p.current ≠ .endOfInput) :
    queriesWith (fuel + 1) p = (do
      let q ← queryWith fuel
      separator .endOfInput .newline
      skipNewlines fuel
      let qs ← queriesWith fuel
      pure (q :: qs) : Step Residual) p := by
  rw [queriesWith, looksAt_bind, decide_eq_false hp, if_neg (by decide)]
  exact bind_congr (fun q p => (separator_bind .endOfInput .newline _ p).symm) p

end Equations

end RowFilter.Parser
