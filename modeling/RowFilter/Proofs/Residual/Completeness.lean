import RowFilter.Proofs.Residual.Soundness

/-!
# The parser knows the whole grammar

Tokens that spell a term, an expression, a query or a residual are taken for it.  The proofs follow
the derivations.  A phrase is read alike whatever stands behind it, as long as that does not go on
with the phrase: a term ends where no dot and no opening bracket follows, an expression where no
comparison follows either, and a query at the end of its line.

The fuel is measured by the tokens in sight.  Terms need twice as much, and what calls a term before
it has moved on needs one more.

* `SpellsTerm.reads`, `SpellsExpression.reads`, `SpellsQuery.reads`, `SpellsResidual.reads` — what
  the grammar derives is read.
* `Residual.parse_iff_spells` — a text is parsed to exactly what its tokens spell.
-/

set_option autoImplicit false

namespace RowFilter

namespace Parser

open Grammar

variable {ts us : List Token}

/-! ## Terms -/

/-- Whether a term ends before the token. -/
def endsTerm (t : Token) : Bool :=
  !t.extendsTerm

/-- The tokens are read as a term, with fuel for all that is in sight. -/
def ReadsTerm (ts : List Token) (t : Term) : Prop :=
  ∀ n fuel : Nat, 2 * n ≤ fuel → Reads n (termWith fuel) endsTerm ts t

/-- The tokens are read as elements, if a closing bracket stands behind them. -/
def ReadsElements (ts : List Token) (es : List Term) : Prop :=
  ∀ closing : Token, closing.isClosing = true → ∀ (n fuel : Nat) (follows : Token → Bool),
    2 * n + 1 ≤ fuel → Reads n (elementsWith fuel closing) follows (ts ++ [closing]) es

/-- The tokens are read as what follows the head of a reference. -/
def ReadsSuffix (follows : Token → Bool) (ts : List Token)
    (suffix : List Term × Option (List Term)) : Prop :=
  ∀ n fuel : Nat, 2 * n + 1 ≤ fuel → Reads n (suffixWith fuel) follows ts suffix

/-- The tokens are read as segments, whatever follows them in the reference. -/
def ReadsSegments (ts : List Token) (segments : List Term) : Prop :=
  ∀ (follows : Token → Bool) (us : List Token) (arguments : Option (List Term)),
    ReadsSuffix follows us ([], arguments) →
    ReadsSuffix follows (ts ++ us) (segments, arguments)

/-- A term is read by its first token and what follows that. -/
theorem ReadsTerm.intro {token : Token} {t : Term} {shift : Step Unit} {rest : Nat → Step Term}
    (hshift : Shifts token shift)
    (heq : ∀ {fuel : Nat} {p : Parser}, p.current = token →
      termWith (fuel + 1) p = (shift >>= fun _ => rest fuel) p)
    (hrest : ∀ n fuel : Nat, 2 * n + 1 ≤ fuel → Reads n (rest fuel) endsTerm ts t) :
    ReadsTerm (token :: ts) t := by
  intro n fuel hfuel
  cases n with
  | zero => exact .zero (List.cons_ne_nil _ _)
  | succ n =>
    obtain ⟨fuel, rfl⟩ : ∃ f, fuel = f + 1 := ⟨fuel - 1, by omega⟩
    exact (Reads.cons hshift (hrest n fuel (by omega)) (Nat.le_refl _)).congr fun p hp => heq hp

/-- A suffix is read by its first token and what follows that. -/
theorem ReadsSuffix.intro {token : Token} {follows : Token → Bool}
    {suffix : List Term × Option (List Term)} {shift : Step Unit}
    {rest : Nat → Step (List Term × Option (List Term))} (hshift : Shifts token shift)
    (heq : ∀ {fuel : Nat} {p : Parser}, p.current = token →
      suffixWith (fuel + 1) p = (shift >>= fun _ => rest fuel) p)
    (hrest : ∀ n fuel : Nat, 2 * n + 1 ≤ fuel → Reads n (rest fuel) follows ts suffix) :
    ReadsSuffix follows (token :: ts) suffix := by
  intro n fuel hfuel
  cases n with
  | zero => exact .zero (List.cons_ne_nil _ _)
  | succ n =>
    obtain ⟨fuel, rfl⟩ : ∃ f, fuel = f + 1 := ⟨fuel - 1, by omega⟩
    exact (Reads.cons hshift (hrest n fuel (by omega)) (Nat.le_refl _)).congr fun p hp => heq hp

theorem reads_literal {token : Token} {t : Term} (h : token.literal? = some t) :
    ReadsTerm [token] t :=
  .intro (shifts_advance (Token.depthAfter_of_isPlain (Token.isPlain_of_literal h))).2
    (fun hp => termWith_literal h hp) fun _ _ _ => .pure

theorem reads_array {es : List Term} (h : ReadsElements ts es) :
    ReadsTerm (.openBracket :: (ts ++ [.closeBracket])) (.array es) :=
  .intro (shifts_enter fun _ => rfl).2 (fun hp => termWith_openBracket hp)
    fun n fuel hfuel => (h _ rfl n fuel _ hfuel).map rfl

theorem reads_set {es : List Term} (h : ReadsElements ts es) :
    ReadsTerm (.openBrace :: (ts ++ [.closeBrace])) (.set es) :=
  .intro (shifts_enter fun _ => rfl).2 (fun hp => termWith_openBrace hp)
    fun n fuel hfuel => (h _ rfl n fuel _ hfuel).map rfl

theorem reads_leave {n : Nat} {closing : Token} {α : Type} {step : Step α}
    {follows : Token → Bool} {a : α} (hclosing : closing.isClosing = true)
    (h : Reads n step follows ts a) :
    Reads n (leave closing >>= fun _ => step) follows (closing :: ts) a :=
  .cons (shifts_leave (Token.depthAfter_of_isClosing hclosing)) h (by omega)

theorem endsTerm_of_isClosing {t : Token} (h : t.isClosing = true) : endsTerm t = true := by
  cases t <;> first | rfl | cases h

theorem reads_parens {t : Term} (h : ReadsTerm ts t) :
    ReadsTerm (.openParen :: (ts ++ [.closeParen])) t := by
  refine .intro (shifts_enter fun _ => rfl).2 (fun hp => termWith_openParen hp)
    fun n fuel hfuel => ?_
  have hclose : Reads n (leave .closeParen >>= fun _ => (pure t : Step Term)) endsTerm
    [.closeParen] t := reads_leave rfl .pure
  exact (h n fuel (by omega)).bind_cons hclose (by omega) rfl

theorem reads_noSuffix : ReadsSuffix endsTerm [] ([], none) := by
  intro n fuel hfuel
  obtain ⟨fuel, rfl⟩ : ∃ f, fuel = f + 1 := ⟨fuel - 1, by omega⟩
  refine .nil fun p hp => suffixWith_other ?_
  rcases hp with hp | hp
  · rw [hp]
    rfl
  · simpa [endsTerm] using hp

theorem reads_arguments {es : List Term} {follows : Token → Bool} (h : ReadsElements ts es) :
    ReadsSuffix follows (.openParen :: (ts ++ [.closeParen])) ([], some es) :=
  .intro (shifts_enter fun _ => rfl).1 (fun hp => suffixWith_openParen hp)
    fun n fuel hfuel => (h _ rfl n fuel _ hfuel).map rfl

theorem reads_reference (name : String) {segments : List Term} {arguments : Option (List Term)}
    (h : ReadsSuffix endsTerm ts (segments, arguments)) :
    ReadsTerm (.identifier name :: ts) (reference name segments arguments) :=
  .intro (shifts_advance fun _ => rfl).2 (fun hp => termWith_identifier hp)
    fun n fuel hfuel => (h n fuel hfuel).map rfl

theorem reads_field {token : Token} {name : String} {segments : List Term}
    (htoken : token.fieldName? = some name) (h : ReadsSegments ts segments) :
    ReadsSegments (.dot :: token :: ts) (.string name :: segments) := by
  intro follows us arguments hus
  refine .intro (shifts_advance fun _ => rfl).1 (fun hp => suffixWith_dot hp) fun n fuel hfuel => ?_
  have hplain := Token.isPlain_of_fieldName htoken
  have hrest : Reads n (suffixWith fuel) follows (ts ++ us) (segments, arguments) :=
    h _ _ _ hus n fuel hfuel
  refine .congr ?_ fun p hp => bind_done (fieldName_eq (hp ▸ htoken))
  exact .cons (shifts_advance (Token.depthAfter_of_isPlain hplain)).1 (hrest.map rfl) (by omega)

theorem reads_key {t : Term} {segments : List Term} (ht : ReadsTerm ts t)
    (h : ReadsSegments us segments) :
    ReadsSegments (.openBracket :: (ts ++ .closeBracket :: us)) (t :: segments) := by
  intro follows vs arguments hvs
  rw [List.cons_append, List.append_assoc, List.cons_append]
  refine .intro (shifts_enter fun _ => rfl).1 (fun hp => suffixWith_openBracket hp)
    fun n fuel hfuel => ?_
  have hrest : Reads n (suffixWith fuel) follows (us ++ vs) (segments, arguments) :=
    h _ _ _ hvs n fuel hfuel
  exact (ht n fuel (by omega)).bind_cons (reads_leave rfl (hrest.map rfl)) (by omega) rfl

theorem reads_noElements : ReadsElements [] [] := by
  intro closing hclosing n fuel follows hfuel
  obtain ⟨fuel, rfl⟩ : ∃ f, fuel = f + 1 := ⟨fuel - 1, by omega⟩
  exact (reads_leave hclosing .pure).congr fun p hp => elementsWith_closing hp

/-- An element is read, and then the rest of the elements with what separates them. -/
theorem reads_element {n fuel : Nat} {closing u : Token} {follows : Token → Bool} {t : Term}
    {es : List Term} (hclosing : closing.isClosing = true) (hstarts : SpellsTerm ts t)
    (ht : ReadsTerm ts t) (hfuel : 2 * n ≤ fuel)
    (hfollows : endsTerm u = true)
    (hrest : ∀ m, m < n → Reads m (do
      separator closing .comma
      let es ← elementsWith fuel closing
      pure (t :: es)) follows (u :: us) (t :: es)) :
    Reads n (elementsWith (fuel + 1) closing) follows (ts ++ u :: us) (t :: es) := by
  obtain ⟨token, vs, rfl, htoken⟩ := hstarts.starts
  have hcurrent : ∀ p : Parser, p.current = token → p.current ≠ closing := by
    rintro p rfl heq
    rw [heq, Token.startsTerm_of_isClosing hclosing] at htoken
    cases htoken
  cases n with
  | zero => exact .zero (List.cons_ne_nil _ _)
  | succ n =>
    refine .congr ?_ fun p hp => elementsWith_more (hcurrent p hp)
    exact (ht (n + 1) fuel hfuel).bind_cons (hrest n (Nat.lt_succ_self n))
      (by rw [List.length_cons]; omega) hfollows

theorem reads_lastElement {t : Term} (hspells : SpellsTerm ts t) (h : ReadsTerm ts t) :
    ReadsElements ts [t] := by
  intro closing hclosing n fuel follows hfuel
  obtain ⟨fuel, rfl⟩ : ∃ f, fuel = f + 1 := ⟨fuel - 1, by omega⟩
  refine reads_element hclosing hspells h (by omega) (endsTerm_of_isClosing hclosing) fun m hm => ?_
  refine .congr ?_ fun p hp => bind_done (separator_of_eq hp)
  exact (reads_noElements closing hclosing m fuel follows (by omega)).map rfl

theorem reads_moreElements {t : Term} {es : List Term} (hspells : SpellsTerm ts t)
    (h : ReadsTerm ts t) (h' : ReadsElements us es) :
    ReadsElements (ts ++ .comma :: us) (t :: es) := by
  intro closing hclosing n fuel follows hfuel
  obtain ⟨fuel, rfl⟩ : ∃ f, fuel = f + 1 := ⟨fuel - 1, by omega⟩
  rw [List.append_assoc]
  refine reads_element hclosing hspells h (by omega) rfl fun m hm => ?_
  have hne : Token.comma ≠ closing := by
    rintro rfl
    cases hclosing
  exact .cons (shifts_separator hne fun _ => rfl)
    ((h' closing hclosing m fuel follows (by omega)).map rfl) (by omega)

end Parser

namespace Grammar

open RowFilter.Parser

mutual

/-- **What spells a term is read as that term.** -/
theorem SpellsTerm.reads {ts : List Token} {t : Term} : SpellsTerm ts t → ReadsTerm ts t
  | .literal h => reads_literal h
  | .array h => reads_array h.reads
  | .set h => reads_set h.reads
  | .parens h => reads_parens h.reads
  | .variable name => reads_reference name reads_noSuffix
  | .reference name h hne => by
    have hread := reads_reference name (h.reads _ _ _ reads_noSuffix)
    rwa [List.append_nil, reference_plain hne] at hread
  | .emptySet => reads_reference "set" (reads_arguments reads_noElements)
  | .call name h h' hset => by
    have hread := reads_reference name (h.reads _ _ _ (reads_arguments h'.reads))
    rwa [reference_applied hset] at hread

theorem SpellsElements.reads {ts : List Token} {es : List Term} :
    SpellsElements ts es → ReadsElements ts es
  | .none => reads_noElements
  | .last h => reads_lastElement h h.reads
  | .more h h' => reads_moreElements h h.reads h'.reads

theorem SpellsSegments.reads {ts : List Token} {segments : List Term} :
    SpellsSegments ts segments → ReadsSegments ts segments
  | .none => fun _ _ _ hus => hus
  | .field h h' => reads_field h h'.reads
  | .key h h' => reads_key h.reads h'.reads

end

end Grammar

/-! ## Expressions and queries -/

namespace Parser

open Grammar

/-- Whether an expression ends before the token. -/
def endsExpression (t : Token) : Bool :=
  !t.extendsTerm && t.operator?.isNone

/-- Whether a query ends before the token. -/
def endsQuery (t : Token) : Bool :=
  decide (t = .newline)

theorem endsTerm_of_operator {sign : Token} {operator : String}
    (h : sign.operator? = some operator) : endsTerm sign = true := by
  cases sign <;> first | rfl | cases h

theorem endsExpression_of_endsQuery {t : Token} (h : endsQuery t = true) :
    endsExpression t = true := by
  obtain rfl : t = .newline := of_decide_eq_true h
  rfl

/-- A term, and what follows it in its expression. -/
def statement (fuel : Nat) (negated : Bool) : Step Expression := do
  let left ← termWith fuel
  operation fuel negated left

theorem reads_alone {n fuel : Nat} {ts : List Token} {t : Term} (negated : Bool)
    (h : SpellsTerm ts t) (hfuel : 2 * n ≤ fuel) :
    Reads n (statement fuel negated) endsExpression ts ⟨conditionOf t, negated⟩ := by
  have hend : Reads n (operation fuel negated t) endsExpression [] ⟨conditionOf t, negated⟩ := by
    refine .nil fun p hp => operation_none ?_
    rcases hp with hp | hp
    · rw [hp]
      rfl
    · exact Option.isNone_iff_eq_none.1 (Bool.and_eq_true_iff.1 hp).2
  rw [← List.append_nil ts]
  refine (h.reads n fuel hfuel).bind hend (by omega) ?_
  rintro u (hu | ⟨-, hu⟩)
  · cases hu
  · exact (Bool.and_eq_true_iff.1 hu).1

theorem reads_comparison {n fuel : Nat} {ts us : List Token} {left right : Term} {sign : Token}
    {operator : String} (negated : Bool) (hleft : SpellsTerm ts left)
    (hsign : sign.operator? = some operator) (hright : SpellsTerm us right)
    (hfuel : 2 * n ≤ fuel) :
    Reads n (statement fuel negated) endsExpression (ts ++ sign :: us)
      ⟨.call [.ref [.var operator], left, right], negated⟩ := by
  have hplain := Token.isPlain_of_operator hsign
  have hterm : Reads n (termWith fuel) endsExpression us right :=
    (hright.reads n fuel hfuel).mono (Nat.le_refl n) fun t ht => (Bool.and_eq_true_iff.1 ht).1
  have hrest : Reads n (operation fuel negated left) endsExpression (sign :: us)
      ⟨.call [.ref [.var operator], left, right], negated⟩ := by
    refine .congr ?_ fun p hp => operation_some (hp ▸ hsign)
    exact .cons (shifts_advance (Token.depthAfter_of_isPlain hplain)).1 (hterm.map rfl) (by omega)
  exact (hleft.reads n fuel hfuel).bind_cons hrest (by omega) (endsTerm_of_operator hsign)

theorem reads_negation {n fuel : Nat} {ts : List Token} {e : Expression} {token : Token}
    {us : List Token} (negated : Bool) (hts : ts = token :: us) (htoken : token.startsTerm = true)
    (h : Reads n (statement fuel negated) endsExpression ts e) :
    Reads n (expressionWith fuel) endsExpression (negation negated ++ ts) e := by
  cases negated with
  | true =>
    refine .congr ?_ fun p hp => expressionWith_not hp
    exact .cons (shifts_advance fun _ => rfl).1 h (by omega)
  | false =>
    subst hts
    refine .congr h fun p hp => expressionWith_other ?_
    rintro hnot
    rw [← hp, hnot] at htoken
    cases htoken

end Parser

namespace Grammar

open RowFilter.Parser

/-- **What spells an expression is read as that expression.** -/
theorem SpellsExpression.reads {ts : List Token} {e : Expression} (h : SpellsExpression ts e)
    {n fuel : Nat} (hfuel : 2 * n ≤ fuel) : Reads n (expressionWith fuel) endsExpression ts e := by
  cases h with
  | alone negated h =>
    obtain ⟨token, us, hts, htoken⟩ := h.starts
    exact reads_negation negated hts htoken (reads_alone negated h hfuel)
  | comparison negated h hsign h' =>
    obtain ⟨token, us, rfl, htoken⟩ := h.starts
    exact reads_negation negated rfl htoken (reads_comparison negated h hsign h' hfuel)

theorem reads_query {n fuel : Nat} {ts us : List Token} {e : Expression} {es : Query}
    (h : SpellsExpression ts e) (hfuel : 2 * n ≤ fuel)
    (hus : ∀ u ∈ us.head?, u = .semicolon)
    (hrest : Reads n (moreExpressionsWith fuel) endsQuery us es) :
    Reads n (queryWith fuel) endsQuery (ts ++ us) (e :: es) := by
  refine (h.reads hfuel).bind (hrest.map rfl) (by omega) ?_
  rintro u (hu | ⟨-, hu⟩)
  · rw [hus u hu]
    rfl
  · exact endsExpression_of_endsQuery hu

/-- **What spells a query is read as that query.** -/
theorem SpellsQuery.reads {ts : List Token} {q : Query} (h : SpellsQuery ts q) :
    ∀ n fuel : Nat, 2 * n + 1 ≤ fuel → Reads n (queryWith fuel) endsQuery ts q := by
  induction h with
  | @last ts e h =>
    intro n fuel hfuel
    obtain ⟨fuel, rfl⟩ : ∃ f, fuel = f + 1 := ⟨fuel - 1, by omega⟩
    rw [← List.append_nil ts]
    refine reads_query h (by omega) (by simp) (.nil fun p hp => moreExpressionsWith_other ?_)
    rintro hsemicolon
    rw [hsemicolon] at hp
    rcases hp with hp | hp <;> cases hp
  | @trailing ts e h =>
    intro n fuel hfuel
    obtain ⟨fuel, rfl⟩ : ∃ f, fuel = f + 1 := ⟨fuel - 1, by omega⟩
    refine reads_query h (by omega) (by simp) ?_
    refine .congr ?_ fun p hp => moreExpressionsWith_semicolon hp
    refine .cons (shifts_advance fun _ => rfl).1 (m := n) (.nil fun p hp => ?_) (by omega)
    rw [afterSemicolon, if_pos]
    exact hp.symm.imp_left of_decide_eq_true
  | @more ts us e q h h' ih =>
    intro n fuel hfuel
    obtain ⟨fuel, rfl⟩ : ∃ f, fuel = f + 1 := ⟨fuel - 1, by omega⟩
    obtain ⟨token, vs, rfl, hnewline, hend⟩ := h'.starts
    refine reads_query h (by omega) (by simp) ?_
    cases n with
    | zero => exact .zero (List.cons_ne_nil _ _)
    | succ n =>
      refine .congr ?_ fun p hp => moreExpressionsWith_semicolon hp
      refine .cons (shifts_advance fun _ => rfl).1 (m := n) ?_ (Nat.le_refl _)
      refine .congr (ih n fuel (by omega)) fun p hp => ?_
      rw [afterSemicolon, if_neg]
      rw [hp]
      exact fun hor => hor.elim hnewline hend

/-! ## Residuals -/

theorem reads_newlines (blanks : Nat) : ∀ n fuel : Nat, n + 1 ≤ fuel →
    Reads n (skipNewlines fuel) (fun t => decide (t ≠ .newline))
      (List.replicate blanks .newline) () := by
  induction blanks with
  | zero =>
    intro n fuel hfuel
    obtain ⟨fuel, rfl⟩ : ∃ f, fuel = f + 1 := ⟨fuel - 1, by omega⟩
    refine .nil fun p hp => skipNewlines_other ?_
    rcases hp with hp | hp
    · rw [hp]
      decide
    · exact of_decide_eq_true hp
  | succ blanks ih =>
    intro n fuel hfuel
    obtain ⟨fuel, rfl⟩ : ∃ f, fuel = f + 1 := ⟨fuel - 1, by omega⟩
    cases n with
    | zero => exact .zero (List.cons_ne_nil _ _)
    | succ n =>
      refine .congr ?_ fun p hp => skipNewlines_newline hp
      exact .cons (shifts_advance fun _ => rfl).1 (ih n fuel (by omega)) (Nat.le_refl _)

theorem reads_noQueries {n fuel : Nat} (hfuel : 1 ≤ fuel) :
    Reads n (queriesWith fuel) (fun _ => false) [] [] := by
  obtain ⟨fuel, rfl⟩ : ∃ f, fuel = f + 1 := ⟨fuel - 1, by omega⟩
  refine .nil fun p hp => ?_
  rcases hp with hp | hp
  · exact queriesWith_end hp
  · cases hp

/-- What follows a query: the end of its line, empty lines, and the other queries. -/
def afterQuery (fuel : Nat) (q : Query) : Step Residual := do
  separator .endOfInput .newline
  skipNewlines fuel
  let qs ← queriesWith fuel
  pure (q :: qs)

theorem reads_afterQuery {n fuel : Nat} {us : List Token} {r : Residual} (q : Query) (blanks : Nat)
    (hus : ∀ u ∈ us.head?, u ≠ .newline) (hfuel : n + 1 ≤ fuel)
    (h : Reads n (queriesWith fuel) (fun _ => false) us r) :
    Reads n (afterQuery fuel q) (fun _ => false) (List.replicate (blanks + 1) .newline ++ us)
      (q :: r) := by
  have hrest : Reads n (do skipNewlines fuel; let qs ← queriesWith fuel; pure (q :: qs))
      (fun _ => false) (List.replicate blanks .newline ++ us) (q :: r) := by
    refine (reads_newlines blanks n fuel hfuel).bind (h.map rfl) (by omega) ?_
    rintro u (hu | ⟨-, hu⟩)
    · exact decide_eq_true (hus u hu)
    · cases hu
  exact .cons (shifts_separator (by decide) fun _ => rfl) hrest (by omega)

theorem reads_lastQuery {n fuel : Nat} (q : Query) (hfuel : 1 ≤ fuel) :
    Reads n (afterQuery fuel q) (fun _ => false) [] [q] := by
  obtain ⟨fuel, rfl⟩ : ∃ f, fuel = f + 1 := ⟨fuel - 1, by omega⟩
  refine .nil fun p hp => ?_
  rcases hp with hp | hp
  · rw [afterQuery, bind_done (separator_of_eq hp),
      bind_done (skipNewlines_other (by rw [hp]; decide)), bind_done (queriesWith_end hp)]
    rfl
  · cases hp

theorem reads_firstQuery {n fuel : Nat} {ts us : List Token} {q : Query} {r : Residual}
    (h : SpellsQuery ts q) (hfuel : 2 * n + 1 ≤ fuel) (hus : ∀ u ∈ us.head?, u = .newline)
    (hrest : ∀ m, m < n → Reads m (afterQuery fuel q) (fun _ => false) us (q :: r)) :
    Reads n (queriesWith (fuel + 1)) (fun _ => false) (ts ++ us) (q :: r) := by
  have hread := h.reads n fuel hfuel
  obtain ⟨token, vs, rfl, -, hend⟩ := h.starts
  cases n with
  | zero => exact .zero (List.cons_ne_nil _ _)
  | succ n =>
    refine .congr ?_ fun p hp => queriesWith_more (hp ▸ hend)
    refine hread.bind (hrest n (Nat.lt_succ_self n)) (by rw [List.length_cons]; omega) ?_
    rintro u (hu | ⟨-, hu⟩)
    · exact decide_eq_true (hus u hu)
    · cases hu

theorem SpellsQueries.reads {ts : List Token} {r : Residual} (h : SpellsQueries ts r) :
    ∀ n fuel : Nat, 2 * n + 2 ≤ fuel → Reads n (queriesWith fuel) (fun _ => false) ts r := by
  induction h with
  | @last ts q blanks h =>
    intro n fuel hfuel
    obtain ⟨fuel, rfl⟩ : ∃ f, fuel = f + 1 := ⟨fuel - 1, by omega⟩
    cases blanks with
    | zero => exact reads_firstQuery h (by omega) nofun fun m hm => reads_lastQuery q (by omega)
    | succ blanks =>
      rw [← List.append_nil (List.replicate _ _)]
      exact reads_firstQuery h (by omega) (by simp [List.replicate_succ]) fun m hm =>
        reads_afterQuery q blanks nofun (by omega) (reads_noQueries (by omega))
  | @more ts us q r blanks h h' ih =>
    intro n fuel hfuel
    obtain ⟨fuel, rfl⟩ : ∃ f, fuel = f + 1 := ⟨fuel - 1, by omega⟩
    obtain ⟨token, vs, rfl, htoken⟩ := h'.starts
    refine reads_firstQuery h (by omega) (by simp [List.replicate_succ]) fun m hm => ?_
    exact reads_afterQuery q blanks (by simpa using htoken) (by omega) (ih m fuel (by omega))

/-- **What spells a residual is read as that residual.** -/
theorem SpellsResidual.reads {ts : List Token} {r : Residual} (h : SpellsResidual ts r)
    {n fuel : Nat} (hfuel : 2 * n + 2 ≤ fuel) :
    Reads n (residualWith fuel) (fun _ => false) ts r := by
  cases h with
  | none blanks =>
    rw [← List.append_nil (List.replicate _ _)]
    have hnone : Reads n (queriesWith fuel) (fun _ => false) [] [] := reads_noQueries (by omega)
    refine (reads_newlines blanks n fuel (by omega)).bind hnone (by omega) ?_
    rintro u (hu | ⟨-, hu⟩) <;> cases hu
  | @queries ts r blanks h =>
    have hread := h.reads n fuel hfuel
    obtain ⟨token, vs, rfl, htoken⟩ := h.starts
    exact (reads_newlines blanks n fuel (by omega)).bind_cons hread (by omega)
      (decide_eq_true htoken)

end Grammar

/-! ## Texts -/

theorem length_significant_le (depth : Nat) (ts : List Token) :
    (significant depth ts).length ≤ ts.length := by
  induction ts generalizing depth with
  | nil => exact Nat.le_refl _
  | cons t ts ih =>
    rw [significant]
    split
    · exact (ih depth).trans (Nat.le_succ _)
    · exact Nat.succ_le_succ (ih _)

namespace Parser

/-- The parser at the start of a text sees its tokens, unless there is an error right at the
start. -/
theorem ofText_of_yields {text : String} {ts : List Token} {ending : Option ScanError}
    (h : (Scanner.ofText text).Yields ts ending) :
    (∃ p, ofText text = .ok p ∧ p.Sees (significant 0 ts) ending ∧
      (significant 0 ts).length ≤ p.ahead.first.length + 1) ∨
      ∃ e, ending = some e ∧ ofText text = .error (.scan e) := by
  have hgives := TokenStream.gives_ofText h
  have hlength := length_significant_le 0 ts
  unfold ofText
  generalize TokenStream.ofText text = stream at hgives
  cases hgives with
  | @ended last hlast =>
    exact .inl ⟨⟨⟨[], last⟩, .endOfInput, last.start, 0⟩, by dsimp only; rw [hlast], .ended rfl,
      Nat.zero_le _⟩
  | stuck hlast => exact .inr ⟨_, rfl, by dsimp only; rw [hlast]⟩
  | failed hl => exact .inr ⟨_, rfl, by dsimp only; rw [hl]⟩
  | @more l last ls t ts ending hl ht hgives =>
    refine .inl ⟨⟨⟨ls, last⟩, t, l.start, 0⟩, by dsimp only; rw [hl], ?_, ?_⟩
    · rw [significant, if_neg fun h => Nat.lt_irrefl 0 h.1]
      exact .token ht ⟨ts, hgives, rfl⟩
    · exact hlength.trans (Nat.succ_le_succ hgives.length_le)

end Parser

namespace Residual

open Grammar

theorem parse_of_ofText {text : String} {p : Parser} (h : Parser.ofText text = .ok p) :
    parse text = p.residual.1 := by
  rw [parse, h]
  rfl

theorem parse_of_ofText_error {text : String} {e : ParseError}
    (h : Parser.ofText text = .error e) : parse text = .error e := by
  rw [parse, h]
  rfl

/-- The fuel of a parser is enough for all the tokens in sight. -/
theorem reads_residual {ts : List Token} {r : Residual} (h : SpellsResidual ts r) {p : Parser} :
    Parser.Reads (p.ahead.first.length + 1) (Parser.residualWith p.fuel) (fun _ => false) ts r :=
  h.reads (by rw [Parser.fuel]; omega)

/-- **Tokens that spell a residual are parsed to it.** -/
theorem parse_of_spells {text : String} {ts : List Token} {r : Residual}
    (h : (Scanner.ofText text).Yields ts none) (hspells : SpellsResidual (significant 0 ts) r) :
    parse text = .ok r := by
  obtain ⟨p, hp, hsees, hlength⟩ | ⟨e, he, -⟩ := Parser.ofText_of_yields h
  · rw [← List.append_nil (significant 0 ts)] at hsees hlength
    obtain ⟨p', hdone, -⟩ := (reads_residual hspells).done hsees hlength nofun fun _ => rfl
    rw [parse_of_ofText hp, Parser.residual, Parser.run, hdone]
  · cases he

/-- **An error among tokens that start to spell a residual is met.** -/
theorem parse_of_error {text : String} {ts us : List Token} {e : ScanError} {r : Residual}
    (h : (Scanner.ofText text).Yields ts (some e)) (hts : significant 0 ts <+: us)
    (hspells : SpellsResidual us r) : parse text = .error (.scan e) := by
  obtain ⟨p, hp, hsees, hlength⟩ | ⟨e', he', hofText⟩ := Parser.ofText_of_yields h
  · obtain ⟨p', hfailed⟩ := (reads_residual hspells).failed hsees hlength hts
    rw [parse_of_ofText hp, Parser.residual, Parser.run, hfailed]
  · cases he'
    exact parse_of_ofText_error hofText

/-- **What a text is parsed to is spelled by its tokens**, and there is no error among them. -/
theorem spells_of_parse {text : String} {ts : List Token} {ending : Option ScanError}
    {r : Residual} (h : (Scanner.ofText text).Yields ts ending) (hparse : parse text = .ok r) :
    ending = none ∧ SpellsResidual (significant 0 ts) r := by
  obtain ⟨p, hp, hsees, -⟩ | ⟨e, -, hofText⟩ := Parser.ofText_of_yields h
  · rw [parse_of_ofText hp, Parser.residual, Parser.run] at hparse
    split at hparse
    · next r' p' hdone =>
      cases hparse
      exact Parser.spells_of_residual hsees hdone
    · cases hparse
    · cases hparse
  · rw [parse_of_ofText_error hofText] at hparse
    cases hparse

/-- **A text is parsed to exactly what its tokens spell.**  Every text has tokens up to its end or
up to an error.  If there is no error, the newlines inside of brackets are taken out of the tokens
and the rest has to be derived by the grammar; if there is one, no residual is read. -/
theorem parse_iff_spells (text : String) :
    (∃ ts ending, (Scanner.ofText text).Yields ts ending) ∧
      (∀ ts, (Scanner.ofText text).Yields ts none →
        ∀ r, parse text = .ok r ↔ SpellsResidual (significant 0 ts) r) ∧
      ∀ ts e, (Scanner.ofText text).Yields ts (some e) → ∃ e', parse text = .error e' := by
  refine ⟨Scanner.exists_yields _, fun ts h r => ?_, fun ts e h => ?_⟩
  · exact ⟨fun hparse => (spells_of_parse h hparse).2, parse_of_spells h⟩
  · cases hparse : parse text with
    | error e' => exact ⟨e', rfl⟩
    | ok r => cases (spells_of_parse h hparse).1

end Residual

end RowFilter
