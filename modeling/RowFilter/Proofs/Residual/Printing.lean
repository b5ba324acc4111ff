import RowFilter.Proofs.Residual.Order
import RowFilter.Proofs.Residual.WellFormed
import RowFilter.Proofs.Token.Writing

/-!
# Printing and parsing

What can be written is read back from its printed form.  The proof finds the tokens of the printed
form: they spell what was printed by the rules of the grammar, and its characters write them.  The
printer puts a blank, a comma or a bracket behind every term, and so no two words touch.

* `Term.printable`, `Residual.printable` — the tokens of what is printed.
* `Residual.parse_text` — a residual that can be written is parsed from its printed form, unless one
  of its strings cannot be read back.
-/

set_option autoImplicit false

namespace RowFilter

open Grammar Scanner

/-! ## Names -/

theorem isReadable_of_isIdentifier {name : String} (h : isIdentifier name = true) :
    IsReadable name := by
  have hmem : ∀ c ∈ name.toList, (isIdentifierStart c || isIdentifierRest c) = true := by
    intro c hc
    unfold isIdentifier at h
    split at h
    · cases h
    · next d ds hname =>
      rw [Bool.and_eq_true, Bool.and_eq_true] at h
      rw [hname] at hc
      rcases List.mem_cons.1 hc with rfl | hc
      · rw [h.1.1, Bool.true_or]
      · rw [List.all_eq_true.1 h.1.2 c hc, Bool.or_true]
  exact ⟨fun hc => absurd (hmem _ hc) (by decide), fun hc => absurd (hmem _ hc) (by decide)⟩

theorem ofWord_of_isIdentifier {name : String} (h : isIdentifier name = true) :
    Token.ofWord name = .identifier name := by
  have hkeyword : name ∉ keywords := by
    unfold isIdentifier at h
    split at h
    · cases h
    · rw [Bool.and_eq_true] at h
      simpa using h.2
  simp only [keywords, List.mem_cons, List.not_mem_nil, or_false, not_or] at hkeyword
  obtain ⟨htrue, hfalse, hnull, hnot⟩ := hkeyword
  rw [Token.ofWord, if_neg htrue, if_neg hfalse, if_neg hnull, if_neg hnot]

/-- An identifier is found where no character follows that could belong to it. -/
theorem writes_identifier {name : String} (h : isIdentifier name = true) :
    Writes name.toList (fun c => !isIdentifierRest c) [.identifier name] [] := by
  rw [← ofWord_of_isIdentifier h]
  unfold isIdentifier at h
  split at h
  · cases h
  · next c cs hname =>
    rw [Bool.and_eq_true, Bool.and_eq_true] at h
    rw [← String.ofList_toList (s := name), hname, String.toList_ofList]
    exact writes_word h.1.1 h.1.2

theorem isIdentifierRest_of_endsNumber {c : Char} (h : endsNumber c = true) :
    (!isIdentifierRest c) = true :=
  (Bool.and_eq_true_iff.1 h).1

/-! ## Terms -/

/-- Something between brackets. -/
theorem writes_between (opening closing : Char) {left right : Token} {cs : List Char}
    {ts : List Token} {ss : List String} {follows : Char → Bool}
    (hopening : single opening = some left) (hclosing : single closing = some right)
    (hends : endsNumber closing = true) (h : Writes cs endsNumber ts ss) :
    Writes (opening :: (cs ++ [closing])) follows (left :: (ts ++ [right])) ss := by
  have hfirst : Writes [opening] (fun _ => true) [left] [] := writes_single hopening
  have hlast : Writes [closing] follows [right] [] := writes_single hclosing
  simpa using hfirst.append (h.append_cons hlast hends) fun _ _ => rfl

/-- The tokens spell a term, and its printed form writes them. -/
structure PrintsTerm (t : Term) (ts : List Token) : Prop where
  spells : SpellsTerm ts t
  writes : Writes t.text.toList endsNumber ts t.strings

/-- The tokens spell terms with commas between them, and their printed form writes them. -/
structure PrintsElements (es : List Term) (ts : List Token) : Prop where
  spells : SpellsElements ts es
  writes : Writes (Term.listText es).toList endsNumber ts (Term.stringsOf es)

/-- The tokens spell the segments of a reference, and their printed form writes them.  It cannot be
taken for a part of the name before it. -/
structure PrintsSegments (segments : List Term) (ts : List Token) : Prop where
  spells : SpellsSegments ts segments
  writes : Writes (Term.segmentsText segments).toList endsNumber ts (Term.stringsOf segments)
  follows : ∀ c ∈ (Term.segmentsText segments).toList.head?, isIdentifierRest c = false

theorem prints_array {es : List Term} {ts : List Token} (h : PrintsElements es ts) :
    PrintsTerm (.array es) (.openBracket :: (ts ++ [.closeBracket])) where
  spells := .array h.spells
  writes := by
    simpa [Term.text, Term.strings] using writes_between '[' ']' rfl rfl (by decide) h.writes

theorem prints_set {e : Term} {es : List Term} {ts : List Token} (h : PrintsElements (e :: es) ts) :
    PrintsTerm (.set (e :: es)) (.openBrace :: (ts ++ [.closeBrace])) where
  spells := .set h.spells
  writes := by
    simpa [Term.text, Term.strings] using writes_between '\x7b' '\x7d' rfl rfl (by decide) h.writes

/-- A word that is a term by itself. -/
theorem prints_word (c : Char) (cs : List Char) {t : Term}
    (hc : isIdentifierStart c = true) (hcs : cs.all isIdentifierRest = true)
    (hliteral : (Token.ofWord (String.ofList (c :: cs))).literal? = some t)
    (htext : t.text = String.ofList (c :: cs)) (hstrings : t.strings = []) :
    PrintsTerm t [Token.ofWord (String.ofList (c :: cs))] where
  spells := .literal hliteral
  writes := by
    rw [htext, hstrings, String.toList_ofList]
    exact (writes_word hc hcs).mono fun _ => isIdentifierRest_of_endsNumber

/-- A name and the segments behind it. -/
theorem writes_head {name : String} {segments : List Term} {ts : List Token}
    (hname : isIdentifier name = true) (h : PrintsSegments segments ts) :
    Writes (name.toList ++ (Term.segmentsText segments).toList) endsNumber (.identifier name :: ts)
      (Term.stringsOf segments) := by
  refine (writes_identifier hname).append h.writes fun c hc => ?_
  rcases hc with hc | ⟨-, hc⟩
  · rw [h.follows c hc]
    rfl
  · exact isIdentifierRest_of_endsNumber hc

theorem prints_reference {name : String} {segments : List Term} {ts : List Token}
    (hname : isIdentifier name = true) (hne : segments ≠ []) (h : PrintsSegments segments ts) :
    PrintsTerm (.ref (.var name :: segments)) (.identifier name :: ts) where
  spells := .reference name h.spells hne
  writes := by
    simpa [Term.text, Term.refText, Term.strings, Term.stringsOf] using writes_head hname h

theorem prints_emptySet : PrintsTerm (.set []) [.identifier "set", .openParen, .closeParen] where
  spells := .emptySet
  writes := by
    have hparens : Writes ['(', ')'] endsNumber [.openParen, .closeParen] [] :=
      writes_between '(' ')' rfl rfl (by decide) .nil
    have hset : isIdentifier "set" = true := by decide
    exact (writes_identifier hset).append_cons hparens (by decide)

theorem prints_call {name : String} {segments arguments : List Term} {ts us : List Token}
    (hname : isIdentifier name = true)
    (hset : ¬ (name = "set" ∧ segments = [] ∧ arguments = []))
    (h : PrintsSegments segments ts) (h' : PrintsElements arguments us) :
    PrintsTerm (.call (.ref (.var name :: segments) :: arguments))
      (.identifier name :: (ts ++ .openParen :: (us ++ [.closeParen]))) where
  spells := .call name h.spells h'.spells hset
  writes := by
    have harguments : Writes ('(' :: ((Term.listText arguments).toList ++ [')'])) endsNumber
        (.openParen :: (us ++ [.closeParen])) (Term.stringsOf arguments) :=
      writes_between '(' ')' rfl rfl (by decide) h'.writes
    have hcall := (writes_head hname h).append_cons harguments (by decide)
    simpa [Term.text, Term.callText, Term.refText, Term.strings, Term.stringsOf] using hcall

/-! ### Segments -/

theorem prints_noSegments : PrintsSegments [] [] where
  spells := .none
  writes := .nil
  follows := nofun

theorem prints_field {name : String} {segments : List Term} {ts : List Token}
    (hname : isIdentifier name = true) (h : PrintsSegments segments ts) :
    PrintsSegments (.string name :: segments) (.dot :: .identifier name :: ts) := by
  have htext : (Term.segmentsText (.string name :: segments)).toList =
      ['.'] ++ (name.toList ++ (Term.segmentsText segments).toList) := by
    simp [Term.segmentsText, hname]
  refine ⟨.field rfl h.spells, ?_, ?_⟩
  · have hdot : Writes ['.'] (fun _ => true) [.dot] [] := writes_single rfl
    rw [htext]
    exact (hdot.append (writes_head hname h) fun _ _ => rfl).readable
      (isReadable_of_isIdentifier hname)
  · rw [htext]
    intro c hc
    cases hc
    decide

theorem prints_key {t : Term} {segments : List Term} {ts us : List Token}
    (htext : Term.segmentsText (t :: segments) =
      "[" ++ t.text ++ "]" ++ Term.segmentsText segments)
    (ht : PrintsTerm t ts) (h : PrintsSegments segments us) :
    PrintsSegments (t :: segments) (.openBracket :: (ts ++ .closeBracket :: us)) := by
  have hchars : (Term.segmentsText (t :: segments)).toList =
      '[' :: (t.text.toList ++ [']']) ++ (Term.segmentsText segments).toList := by
    simp [htext]
  refine ⟨.key ht.spells h.spells, ?_, ?_⟩
  · have hkey : Writes ('[' :: (t.text.toList ++ [']'])) (fun _ => true)
        (.openBracket :: (ts ++ [.closeBracket])) t.strings :=
      writes_between '[' ']' rfl rfl (by decide) ht.writes
    rw [hchars]
    simpa [Term.stringsOf] using hkey.append h.writes fun _ _ => rfl
  · rw [hchars]
    intro c hc
    cases hc
    decide

/-! ### Terms and their parts -/

/-- If the term can be written, there are tokens that its printed form writes. -/
def Printable (t : Term) : Prop :=
  t.isWellFormed = true → ∃ ts, PrintsTerm t ts

theorem prints_elements {es : List Term} (h : ∀ e ∈ es, Printable e)
    (hes : Term.areWellFormed es = true) : ∃ ts, PrintsElements es ts := by
  induction es with
  | nil => exact ⟨[], .none, .nil⟩
  | cons e es ih =>
    rw [Term.areWellFormed, Bool.and_eq_true] at hes
    obtain ⟨he, hes'⟩ := List.forall_mem_cons.1 h
    obtain ⟨ts, hts⟩ := he hes.1
    obtain ⟨us, hus⟩ := ih hes' hes.2
    cases es with
    | nil =>
      refine ⟨ts, .last hts.spells, ?_⟩
      rw [Term.stringsOf, Term.stringsOf, List.append_nil]
      exact hts.writes
    | cons e' es =>
      have hcomma : Writes [','] (fun _ => true) [.comma] [] := writes_single rfl
      have hblank : Writes [' '] (fun _ => true) [] [] := .blank
      have hrest := hcomma.append (hblank.append hus.writes fun _ _ => rfl) fun _ _ => rfl
      have hall := hts.writes.append_cons hrest (by decide)
      exact ⟨ts ++ .comma :: us, .more hts.spells hus.spells,
        by simpa [Term.listText, Term.stringsOf] using hall⟩

theorem prints_segments {segments : List Term} (h : ∀ t ∈ segments, Printable t)
    (hsegments : Term.areWellFormed segments = true) : ∃ ts, PrintsSegments segments ts := by
  induction segments with
  | nil => exact ⟨[], prints_noSegments⟩
  | cons t segments ih =>
    rw [Term.areWellFormed, Bool.and_eq_true] at hsegments
    obtain ⟨ht, hsegments'⟩ := List.forall_mem_cons.1 h
    obtain ⟨ts, hts⟩ := ht hsegments.1
    obtain ⟨us, hus⟩ := ih hsegments' hsegments.2
    by_cases hfield : ∃ name, t = .string name ∧ isIdentifier name = true
    · obtain ⟨name, rfl, hname⟩ := hfield
      exact ⟨_, prints_field hname hus⟩
    · refine ⟨_, prints_key ?_ hts hus⟩
      cases t with
      | string value =>
        have hvalue : ¬ isIdentifier value = true := fun hvalue => hfield ⟨value, rfl, hvalue⟩
        rw [Term.segmentsText, Term.text, if_neg hvalue]
      | _ => rfl

theorem exists_of_isWellFormed_ref {ts : List Term} (h : (Term.ref ts).isWellFormed = true) :
    ∃ name segments, ts = .var name :: segments ∧ isIdentifier name = true ∧ segments ≠ [] ∧
      Term.areWellFormed segments = true := by
  rcases ts with _ | ⟨t, ts⟩
  · cases h
  cases t with
  | var name =>
    rcases ts with _ | ⟨segment, segments⟩
    · cases h
    · rw [Term.isWellFormed, Bool.and_eq_true, Bool.and_eq_true] at h
      refine ⟨name, _, rfl, h.1.1, List.cons_ne_nil _ _, ?_⟩
      rw [Term.areWellFormed, h.1.2, h.2]
      rfl
  | _ => cases h

theorem exists_of_isWellFormed_call {ts : List Term} (h : (Term.call ts).isWellFormed = true) :
    ∃ name segments arguments, ts = .ref (.var name :: segments) :: arguments ∧
      isIdentifier name = true ∧ Term.areWellFormed segments = true ∧
      Term.areWellFormed arguments = true ∧
      ¬ (name = "set" ∧ segments = [] ∧ arguments = []) := by
  rcases ts with _ | ⟨t, arguments⟩
  · cases h
  cases t with
  | ref ts =>
    rcases ts with _ | ⟨t, segments⟩
    · cases h
    cases t with
    | var name =>
      rw [Term.isWellFormed, Bool.and_eq_true, Bool.and_eq_true, Bool.and_eq_true] at h
      refine ⟨name, segments, arguments, rfl, h.1.1.1, h.1.1.2, h.1.2, ?_⟩
      rintro ⟨rfl, rfl, rfl⟩
      exact absurd h.2 (by decide)
    | _ => cases h
  | _ => cases h

/-- **What can be written has tokens.**  The segments of an operator count as parts of its call, so
they come along with what is proved of the operator. -/
theorem Term.printable (t : Term) : Printable t := by
  suffices h : Printable t ∧ ∀ ts, t = .ref ts → ∀ s ∈ ts, Printable s from h.1
  induction t using Term.inductParts with
  | null =>
    refine ⟨fun _ => ?_, nofun⟩
    exact ⟨_, prints_word 'n' ['u', 'l', 'l'] (by decide) (by decide) rfl rfl rfl⟩
  | boolean b =>
    refine ⟨fun _ => ?_, nofun⟩
    cases b with
    | true => exact ⟨_, prints_word 't' ['r', 'u', 'e'] (by decide) (by decide) rfl rfl rfl⟩
    | false => exact ⟨_, prints_word 'f' ['a', 'l', 's', 'e'] (by decide) (by decide) rfl rfl rfl⟩
  | number text => exact ⟨fun h => ⟨_, .literal rfl, writes_number h⟩, nofun⟩
  | string value => exact ⟨fun _ => ⟨_, .literal rfl, writes_string value⟩, nofun⟩
  | var name =>
    exact ⟨fun h => ⟨_, .variable name,
      (writes_identifier h).mono fun _ => isIdentifierRest_of_endsNumber⟩, nofun⟩
  | ref ts ih =>
    refine ⟨fun h => ?_, fun us hus s hs => (ih s (Term.ref.inj hus ▸ hs)).1⟩
    obtain ⟨name, segments, rfl, hname, hne, hsegments⟩ := exists_of_isWellFormed_ref h
    obtain ⟨us, hus⟩ := prints_segments (fun t ht => (ih t (List.mem_cons_of_mem _ ht)).1) hsegments
    exact ⟨_, prints_reference hname hne hus⟩
  | array ts ih =>
    refine ⟨fun h => ?_, nofun⟩
    obtain ⟨us, hus⟩ := prints_elements (fun t ht => (ih t ht).1) h
    exact ⟨_, prints_array hus⟩
  | set ts ih =>
    refine ⟨fun h => ?_, nofun⟩
    cases ts with
    | nil => exact ⟨_, prints_emptySet⟩
    | cons t ts =>
      obtain ⟨us, hus⟩ := prints_elements (fun t ht => (ih t ht).1) h
      exact ⟨_, prints_set hus⟩
  | object es _ => exact ⟨nofun, nofun⟩
  | call ts ih =>
    refine ⟨fun h => ?_, nofun⟩
    obtain ⟨name, segments, arguments, rfl, hname, hsegments, harguments, hset⟩ :=
      exists_of_isWellFormed_call h
    obtain ⟨hoperator, hrest⟩ := List.forall_mem_cons.1 ih
    have hparts := (List.forall_mem_cons.1 (hoperator.2 _ rfl)).2
    obtain ⟨us, hus⟩ := prints_segments hparts hsegments
    obtain ⟨vs, hvs⟩ := prints_elements (fun t ht => (hrest t ht).1) harguments
    exact ⟨_, prints_call hname hset hus hvs⟩

/-! ## Expressions -/

/-- The tokens spell an expression, and its printed form writes them. -/
structure PrintsExpression (e : Expression) (ts : List Token) : Prop where
  spells : SpellsExpression ts e
  writes : Writes e.text.toList endsNumber ts e.condition.strings

theorem fieldNames_eq_nil {segments : List Term} (h : Term.fieldNames segments = some []) :
    segments = [] := by
  rcases segments with _ | ⟨t, segments⟩
  · rfl
  · cases t with
    | string value =>
      rw [Term.fieldNames, Option.map_eq_some_iff] at h
      obtain ⟨names, -, hnames⟩ := h
      cases hnames
    | _ => cases h

/-- A name without dots is the name of an operator without further segments. -/
theorem operatorName_eq {name operator : String} {segments : List Term}
    (hoperator : '.' ∉ operator.toList)
    (h : Term.operatorName (.ref (.var name :: segments)) = some operator) :
    segments = [] ∧ name = operator := by
  rw [Term.operatorName, Option.map_eq_some_iff] at h
  obtain ⟨names, hnames, hjoined⟩ := h
  cases names with
  | nil => exact ⟨fieldNames_eq_nil hnames, hjoined⟩
  | cons field names =>
    refine absurd ?_ hoperator
    rw [← hjoined, Text.joined_cons_cons]
    simp

/-- A comparison sign is written with a blank on each side. -/
theorem writes_comparison {name sign : String} {segments : List Term}
    (h : Expression.comparisonSign (.ref (.var name :: segments)) = some sign) :
    segments = [] ∧ ∃ token : Token, token.operator? = some name ∧
      Writes (' ' :: (sign.toList ++ [' '])) (fun _ => true) [token] [] := by
  have hblank : Writes [' '] (fun _ => true) [] [] := .blank
  have hsign : ∀ {cs : List Char} {token : Token},
      Writes cs (fun c => decide (c = ' ')) [token] [] →
      Writes (' ' :: (cs ++ [' '])) (fun _ => true) [token] [] := by
    intro cs token hwrites
    exact hblank.append (hwrites.append_cons hblank rfl) fun _ _ => rfl
  unfold Expression.comparisonSign at h
  split at h
  · next hname =>
    obtain ⟨rfl, rfl⟩ := operatorName_eq (by decide) hname
    cases h
    exact ⟨rfl, .equals, rfl, hsign writes_equals⟩
  · next hname =>
    obtain ⟨rfl, rfl⟩ := operatorName_eq (by decide) hname
    cases h
    exact ⟨rfl, .doubleEquals, rfl, hsign writes_doubleEquals⟩
  · next hname =>
    obtain ⟨rfl, rfl⟩ := operatorName_eq (by decide) hname
    cases h
    exact ⟨rfl, .notEquals, rfl, hsign writes_notEquals⟩
  · cases h

theorem writes_negation (negated : Bool) {cs : List Char} {ts : List Token} {ss : List String}
    (h : Writes cs endsNumber ts ss) :
    Writes ((if negated then "not " else "").toList ++ cs) endsNumber (negation negated ++ ts)
      ss := by
  cases negated with
  | false => exact h
  | true =>
    have hblank : Writes [' '] (fun _ => true) [] [] := .blank
    have hword : Writes ['n', 'o', 't'] (fun d => !isIdentifierRest d) [.not] [] :=
      writes_word (by decide) (by decide)
    exact (hword.append_cons hblank (by decide)).append h fun _ _ => rfl

theorem prints_comparison (negated : Bool) {name sign : String} {left right : Term}
    {ts us : List Token}
    (hsign : Expression.comparisonSign (.ref [.var name]) = some sign)
    (hleft : PrintsTerm left ts) (hright : PrintsTerm right us) :
    ∃ vs, PrintsExpression ⟨.call [.ref [.var name], left, right], negated⟩ vs := by
  obtain ⟨-, token, htoken, hwrites⟩ := writes_comparison hsign
  have hrest := hwrites.append hright.writes fun _ _ => rfl
  have hboth := hleft.writes.append_cons hrest (by decide)
  refine ⟨_, .comparison negated hleft.spells htoken hright.spells, ?_⟩
  have htext := writes_negation negated hboth
  simpa [Expression.text, Expression.callText, hsign, Condition.strings, Term.stringsOf,
    Term.strings] using htext

theorem Expression.printable {e : Expression} (h : e.condition.isWellFormed = true) :
    ∃ ts, PrintsExpression e ts := by
  obtain ⟨condition, negated⟩ := e
  cases condition with
  | term t =>
    have hcall : conditionOf t = .term t ∧ t.isWellFormed = true := by
      cases t with
      | call ts => cases h
      | _ => exact ⟨rfl, h⟩
    obtain ⟨ts, hts⟩ := t.printable hcall.2
    refine ⟨_, hcall.1 ▸ SpellsExpression.alone negated hts.spells, ?_⟩
    simpa [Expression.text, Condition.strings] using writes_negation negated hts.writes
  | call terms =>
    by_cases hsign : ∃ operator left right sign, terms = [operator, left, right] ∧
        Expression.comparisonSign operator = some sign
    · obtain ⟨operator, left, right, sign, rfl, hsign⟩ := hsign
      obtain ⟨name, segments, arguments, hterms, -, -, harguments, -⟩ :=
        exists_of_isWellFormed_call h
      cases hterms
      obtain ⟨rfl, -⟩ := writes_comparison hsign
      rw [Term.areWellFormed, Term.areWellFormed, Bool.and_eq_true, Bool.and_eq_true] at harguments
      obtain ⟨ts, hts⟩ := left.printable harguments.1
      obtain ⟨us, hus⟩ := right.printable harguments.2.1
      exact prints_comparison negated hsign hts hus
    · have htext : Expression.callText terms = Term.text (.call terms) := by
        unfold Expression.callText
        split
        · next operator left right =>
          split
          · next sign heq => exact absurd ⟨operator, left, right, sign, rfl, heq⟩ hsign
          · rfl
        · rfl
      obtain ⟨ts, hts⟩ := (Term.call terms).printable h
      refine ⟨_, .alone negated hts.spells, ?_⟩
      simpa [Expression.text, htext, Condition.strings, Term.strings]
        using writes_negation negated hts.writes

/-! ## Queries and residuals -/

/-- The tokens spell a query, and its printed form writes them. -/
structure PrintsQuery (q : Query) (ts : List Token) : Prop where
  spells : SpellsQuery ts q
  writes : Writes (Query.text q).toList endsNumber ts (Query.strings q)

theorem Query.printable {q : Query} (h : Query.isWellFormed q = true) :
    ∃ ts, PrintsQuery q ts := by
  rw [Query.isWellFormed, Bool.and_eq_true] at h
  obtain ⟨hne, hall⟩ := h
  induction q with
  | nil => cases hne
  | cons e q ih =>
    rw [List.all_cons, Bool.and_eq_true] at hall
    obtain ⟨ts, hts⟩ := Expression.printable hall.1
    cases q with
    | nil =>
      refine ⟨ts, .last hts.spells, ?_⟩
      simpa [Query.text, Query.strings] using hts.writes
    | cons e' q =>
      obtain ⟨us, hus⟩ := ih rfl hall.2
      have hsemicolon : Writes [';'] (fun _ => true) [.semicolon] [] := writes_single rfl
      have hblank : Writes [' '] (fun _ => true) [] [] := .blank
      have hrest := hsemicolon.append (hblank.append hus.writes fun _ _ => rfl) fun _ _ => rfl
      refine ⟨_, .more hts.spells hus.spells, ?_⟩
      simpa [Query.text, Query.strings] using hts.writes.append_cons hrest (by decide)

/-- The tokens spell a residual, and its printed form writes them. -/
structure PrintsResidual (r : Residual) (ts : List Token) : Prop where
  spells : SpellsResidual ts r
  writes : Writes r.text.toList endsNumber ts r.strings

theorem Residual.printable {r : Residual} (h : r.isWellFormed = true) :
    ∃ ts, PrintsResidual r ts := by
  have hqueries : ∀ {q : Query} {r : Residual}, Residual.isWellFormed (q :: r) = true →
      ∃ ts, SpellsQueries ts (q :: r) ∧
        Writes (Residual.text (q :: r)).toList endsNumber ts (Residual.strings (q :: r)) := by
    intro q r h
    induction r generalizing q with
    | nil =>
      rw [Residual.isWellFormed, List.all_cons, Bool.and_eq_true] at h
      obtain ⟨ts, hts⟩ := Query.printable h.1
      refine ⟨_, .last 0 hts.spells, ?_⟩
      simpa [Residual.text, Residual.strings] using hts.writes
    | cons q' r ih =>
      rw [Residual.isWellFormed, List.all_cons, Bool.and_eq_true] at h
      obtain ⟨ts, hts⟩ := Query.printable h.1
      obtain ⟨us, hspells, hwrites⟩ := ih h.2
      have hnewline : Writes ['\n'] (fun _ => true) [.newline] [] := writes_newline
      have hrest := hnewline.append hwrites fun _ _ => rfl
      refine ⟨_, .more 0 hts.spells hspells, ?_⟩
      simpa [Residual.text, Residual.strings] using hts.writes.append_cons hrest (by decide)
  cases r with
  | nil => exact ⟨_, .none 0, .nil⟩
  | cons q r =>
    obtain ⟨ts, hspells, hwrites⟩ := hqueries h
    exact ⟨_, .queries 0 hspells, hwrites⟩

/-! ## Reading back -/

theorem significant_isPrefix_of_isPrefix {ts us : List Token} (h : us <+: ts) (depth : Nat) :
    significant depth us <+: significant depth ts := by
  induction us generalizing ts depth with
  | nil => exact List.nil_prefix
  | cons u us ih =>
    obtain ⟨vs, rfl⟩ := h
    rw [List.cons_append, significant, significant]
    split
    · exact ih (List.prefix_append us vs) depth
    · exact (List.prefix_cons_inj u).2 (ih (List.prefix_append us vs) _)

namespace Residual

/-- A residual whose strings are readable is parsed from its printed form. -/
theorem parse_of_isReadable {r : Residual} (h : r.isWellFormed = true)
    (hstrings : ∀ s ∈ r.strings, IsReadable s) : parse r.text = .ok r := by
  obtain ⟨ts, hts⟩ := Residual.printable h
  have hdone : ∃ here, ∀ us ending, (⟨[], here⟩ : Scanner).Yields us ending →
      (⟨r.text.toList ++ [], {}⟩ : Scanner).Yields (ts ++ us) ending :=
    hts.writes.done {} nofun hstrings
  obtain ⟨here, hyields⟩ := hdone
  have htext := hyields [] none (.ended rfl rfl)
  rw [List.append_nil, List.append_nil] at htext
  refine parse_of_spells htext ?_
  rw [hts.spells.significant_eq]
  exact hts.spells

/-- A residual with another string is not. -/
theorem parse_of_not_isReadable {r : Residual} (h : r.isWellFormed = true)
    (hstrings : ¬ ∀ s ∈ r.strings, IsReadable s) : ∃ e, parse r.text = .error (.scan e) := by
  obtain ⟨ts, hts⟩ := Residual.printable h
  have hfailed : ∃ us e, us <+: ts ∧
      (⟨r.text.toList ++ [], {}⟩ : Scanner).Yields us (some e) :=
    hts.writes.failed {} nofun hstrings
  rw [List.append_nil] at hfailed
  obtain ⟨us, e, hus, hyields⟩ := hfailed
  have hfront := significant_isPrefix_of_isPrefix hus 0
  rw [hts.spells.significant_eq] at hfront
  exact ⟨e, parse_of_error hyields hfront hts.spells⟩

/-- **Printing and parsing are inverse to each other on what can be written.**  Whatever a text is
parsed to can be written.  A residual that can be written is parsed from its printed form if and
only if none of its strings contains a backspace or a form feed; otherwise the scanner meets an
error. -/
theorem parse_text :
    (∀ (text : String) (r : Residual), parse text = .ok r → r.isWellFormed = true) ∧
      ∀ r : Residual, r.isWellFormed = true →
        (parse r.text = .ok r ↔ ∀ s ∈ r.strings, '\x08' ∉ s.toList ∧ '\x0c' ∉ s.toList) ∧
          ((∃ s ∈ r.strings, '\x08' ∈ s.toList ∨ '\x0c' ∈ s.toList) →
            ∃ e, parse r.text = .error (.scan e)) := by
  refine ⟨fun _ _ => isWellFormed_of_parse, fun r h => ⟨⟨fun hparse => ?_, ?_⟩, ?_⟩⟩
  · by_contra hstrings
    obtain ⟨e, herror⟩ := parse_of_not_isReadable h hstrings
    rw [herror] at hparse
    cases hparse
  · exact parse_of_isReadable h
  · rintro ⟨s, hs, hmem⟩
    refine parse_of_not_isReadable h fun hall => ?_
    obtain ⟨hbackspace, hfeed⟩ := hall s hs
    exact hmem.elim hbackspace hfeed

end Residual

end RowFilter
