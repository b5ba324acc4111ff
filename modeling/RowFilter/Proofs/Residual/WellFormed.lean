import RowFilter.Proofs.Residual.Completeness

/-!
# Residuals that can be written

Not every residual has a text.  A residual may come from another source than text, and then its
names need not be identifiers, its numbers need not be numerals, and its queries may be empty.
`Residual.isWellFormed` says what a text can spell; nothing else is ever parsed.

* `Term.isWellFormed`, `Residual.isWellFormed` — what can be written.
* `Term.strings`, `Residual.strings` — the strings of a residual, in the order they are written in.
* `Residual.isWellFormed_of_parse` — what a text is parsed to can be written.  In particular no
  query is empty, so that no text is ever parsed to a residual that holds always.
-/

set_option autoImplicit false

namespace RowFilter

/-! ## Terms -/

namespace Term

mutual

/-- **Whether the term can be written.**  Numbers are numerals, names of variables are identifiers,
references have a head and go on behind it, operators have a head, and there are no objects.  The
call `set()` is none of an operator, since it is the notation of the empty set. -/
def isWellFormed : Term → Bool
  | null => true
  | boolean _ => true
  | number text => Number.isNumeral text.toList
  | string _ => true
  | var name => isIdentifier name
  | ref (var name :: segment :: segments) =>
    isIdentifier name && segment.isWellFormed && areWellFormed segments
  | ref _ => false
  | array elements => areWellFormed elements
  | set elements => areWellFormed elements
  | object _ => false
  | call (ref (var name :: segments) :: arguments) =>
    isIdentifier name && areWellFormed segments && areWellFormed arguments &&
      !(name == "set" && segments.isEmpty && arguments.isEmpty)
  | call _ => false

/-- Whether all the terms can be written. -/
def areWellFormed : List Term → Bool
  | [] => true
  | t :: ts => t.isWellFormed && areWellFormed ts

end

mutual

/-- The strings of a term, those of its parts included. -/
def strings : Term → List String
  | string value => [value]
  | ref segments => stringsOf segments
  | array elements => stringsOf elements
  | set elements => stringsOf elements
  | object entries => entryStrings entries
  | call terms => stringsOf terms
  | _ => []

/-- The strings of terms. -/
def stringsOf : List Term → List String
  | [] => []
  | t :: ts => t.strings ++ stringsOf ts

/-- The strings of keys and values. -/
def entryStrings : List (Term × Term) → List String
  | [] => []
  | (k, v) :: es => k.strings ++ v.strings ++ entryStrings es

end

end Term

/-! ## Residuals -/

namespace Condition

/-- Whether the condition can be written.  A call that stands alone is a call and not a term. -/
def isWellFormed : Condition → Bool
  | call terms => (Term.call terms).isWellFormed
  | term (.call _) => false
  | term t => t.isWellFormed

/-- The strings of a condition. -/
def strings : Condition → List String
  | call terms => Term.stringsOf terms
  | term t => t.strings

end Condition

/-- Whether the query can be written: it has an expression, and all of them can. -/
def Query.isWellFormed (q : Query) : Bool :=
  !q.isEmpty && q.all fun e => e.condition.isWellFormed

/-- The strings of a query. -/
def Query.strings (q : Query) : List String :=
  q.flatMap fun e => e.condition.strings

/-- **Whether the residual can be written.** -/
def Residual.isWellFormed (r : Residual) : Bool :=
  r.all Query.isWellFormed

/-- The strings of a residual. -/
def Residual.strings (r : Residual) : List String :=
  r.flatMap Query.strings

/-! ## What tokens spell -/

/-- All the tokens stand for characters of a text. -/
def AreProper (ts : List Token) : Prop :=
  ∀ t ∈ ts, t.isProper = true

theorem AreProper.append {ts us : List Token} (h : AreProper (ts ++ us)) :
    AreProper ts ∧ AreProper us :=
  List.forall_mem_append.1 h

theorem AreProper.cons {t : Token} {ts : List Token} (h : AreProper (t :: ts)) :
    t.isProper = true ∧ AreProper ts :=
  List.forall_mem_cons.1 h

namespace Grammar

theorem isWellFormed_of_literal {token : Token} {t : Term} (h : token.literal? = some t)
    (hproper : token.isProper = true) : t.isWellFormed = true := by
  cases token <;> cases h <;> first | rfl | exact hproper

mutual

theorem SpellsTerm.isWellFormed {ts : List Token} {t : Term} :
    SpellsTerm ts t → AreProper ts → t.isWellFormed = true
  | .literal h, hts => isWellFormed_of_literal h hts.cons.1
  | .array h, hts => h.areWellFormed hts.cons.2.append.1
  | .set h, hts => h.areWellFormed hts.cons.2.append.1
  | .parens h, hts => h.isWellFormed hts.cons.2.append.1
  | .variable _, hts => hts.cons.1
  | @SpellsTerm.reference name ts segments h hne, hts => by
    have hsegments := h.areWellFormed hts.cons.2
    have hname : isIdentifier name = true := hts.cons.1
    cases segments with
    | nil => exact absurd rfl hne
    | cons segment segments =>
      rw [Term.areWellFormed, Bool.and_eq_true] at hsegments
      rw [Term.isWellFormed, hname, hsegments.1, hsegments.2]
      rfl
  | .emptySet, _ => rfl
  | @SpellsTerm.call name ts us segments arguments h h' hset, hts => by
    have hname : isIdentifier name = true := hts.cons.1
    have hsegments := h.areWellFormed hts.cons.2.append.1
    have harguments := h'.areWellFormed hts.cons.2.append.2.cons.2.append.1
    have hnot : (name == "set" && segments.isEmpty && arguments.isEmpty) = false := by
      rw [Bool.eq_false_iff]
      intro hall
      rw [Bool.and_eq_true, Bool.and_eq_true, beq_iff_eq, List.isEmpty_iff,
        List.isEmpty_iff] at hall
      exact hset ⟨hall.1.1, hall.1.2, hall.2⟩
    rw [Term.isWellFormed, hname, hsegments, harguments, hnot]
    rfl

theorem SpellsElements.areWellFormed {ts : List Token} {es : List Term} :
    SpellsElements ts es → AreProper ts → Term.areWellFormed es = true
  | .none, _ => rfl
  | .last h, hts => by
    rw [Term.areWellFormed, h.isWellFormed hts]
    rfl
  | .more h h', hts => by
    rw [Term.areWellFormed, h.isWellFormed hts.append.1, h'.areWellFormed hts.append.2.cons.2]
    rfl

theorem SpellsSegments.areWellFormed {ts : List Token} {segments : List Term} :
    SpellsSegments ts segments → AreProper ts → Term.areWellFormed segments = true
  | .none, _ => rfl
  | .field _ h, hts => h.areWellFormed hts.cons.2.cons.2
  | .key h h', hts => by
    rw [Term.areWellFormed, h.isWellFormed hts.cons.2.append.1,
      h'.areWellFormed hts.cons.2.append.2.cons.2]
    rfl

end

theorem SpellsExpression.isWellFormed {ts : List Token} {e : Expression}
    (h : SpellsExpression ts e) (hts : AreProper ts) : e.condition.isWellFormed = true := by
  cases h with
  | @alone negated ts t h =>
    have ht := h.isWellFormed hts.append.2
    cases t <;> exact ht
  | @comparison negated ts us left right sign operator h hsign h' =>
    have hleft := h.isWellFormed hts.append.2.append.1
    have hright := h'.isWellFormed hts.append.2.append.2.cons.2
    have hoperator : isIdentifier operator = true ∧ operator ≠ "set" := by
      cases sign <;> cases hsign <;> decide
    simp [Condition.isWellFormed, Term.isWellFormed, Term.areWellFormed, hleft, hright,
      hoperator.1]

theorem SpellsQuery.isWellFormed {ts : List Token} {q : Query} (h : SpellsQuery ts q)
    (hts : AreProper ts) : Query.isWellFormed q = true := by
  induction h with
  | last h => simp [Query.isWellFormed, h.isWellFormed hts]
  | trailing h => simp [Query.isWellFormed, h.isWellFormed hts.append.1]
  | more h _ ih =>
    have hq := ih hts.append.2.cons.2
    rw [Query.isWellFormed, Bool.and_eq_true] at hq
    rw [Query.isWellFormed, List.all_cons, h.isWellFormed hts.append.1, hq.2]
    rfl

theorem SpellsQueries.isWellFormed {ts : List Token} {r : Residual} (h : SpellsQueries ts r)
    (hts : AreProper ts) : r.isWellFormed = true := by
  induction h with
  | last blanks h => simp [Residual.isWellFormed, h.isWellFormed hts.append.1]
  | more blanks h _ ih =>
    rw [Residual.isWellFormed, List.all_cons, h.isWellFormed hts.append.1, Bool.true_and]
    exact ih hts.append.2.append.2

theorem SpellsResidual.isWellFormed {ts : List Token} {r : Residual} (h : SpellsResidual ts r)
    (hts : AreProper ts) : r.isWellFormed = true := by
  cases h with
  | none blanks => rfl
  | queries blanks h => exact h.isWellFormed hts.append.2

end Grammar

theorem mem_of_mem_significant {t : Token} {ts : List Token} {depth : Nat}
    (h : t ∈ significant depth ts) : t ∈ ts := by
  induction ts generalizing depth with
  | nil => exact h
  | cons u ts ih =>
    rw [significant] at h
    split at h
    · exact List.mem_cons_of_mem _ (ih h)
    · rcases List.mem_cons.1 h with rfl | h
      · exact List.mem_cons_self
      · exact List.mem_cons_of_mem _ (ih h)

/-- **What a text is parsed to can be written.** -/
theorem Residual.isWellFormed_of_parse {text : String} {r : Residual} (h : parse text = .ok r) :
    r.isWellFormed = true := by
  obtain ⟨ts, ending, hyields⟩ := Scanner.exists_yields (Scanner.ofText text)
  obtain ⟨-, hspells⟩ := spells_of_parse hyields h
  exact hspells.isWellFormed fun t ht => hyields.isProper t (mem_of_mem_significant ht)

end RowFilter
