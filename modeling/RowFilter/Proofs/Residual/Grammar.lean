import RowFilter.Residual.Query
import RowFilter.Token.Basic

/-!
# The grammar of residuals

What tokens spell is said here without the parser: as relations between lists of tokens and what
they stand for, one for each kind of phrase and with one rule for each way to write it.

```text
residual   = NL* [query (NL+ query)* NL*]
query      = expression (";" expression)* [";"]
expression = ["not"] term [("=" | "==" | "!=") term]
term       = literal | "[" elements "]" | "{" elements "}" | "(" term ")" | reference
elements   = [term ("," term)* [","]]
reference  = identifier ("." name | "[" term "]")* ["(" elements ")"]
```

Newlines inside of brackets mean nothing, and the grammar does not know them.  They are taken out of
the tokens of a text beforehand (`significant`).

* `SpellsTerm`, `SpellsExpression`, `SpellsQuery`, `SpellsResidual` — the grammar.
* `significant` — tokens without the newlines inside of brackets.
* `SpellsResidual.significant_eq` — every phrase closes the brackets that it opens.
-/

set_option autoImplicit false

namespace RowFilter

/-! ## Tokens -/

namespace Token

/-- The term that a token stands for by itself. -/
def literal? : Token → Option Term
  | number text => some (.number text)
  | string value => some (.string value)
  | boolean value => some (.boolean value)
  | null => some .null
  | _ => none

/-- The name that a token is after a dot, where keywords are names. -/
def fieldName? : Token → Option String
  | identifier name => some name
  | boolean true => some "true"
  | boolean false => some "false"
  | null => some "null"
  | not => some "not"
  | _ => none

/-- The operator that a token stands for between two terms. -/
def operator? : Token → Option String
  | equals => some "eq"
  | doubleEquals => some "equal"
  | notEquals => some "neq"
  | _ => none

/-- Whether a term can start with the token. -/
def startsTerm : Token → Bool
  | number _ => true
  | string _ => true
  | boolean _ => true
  | null => true
  | identifier _ => true
  | openBracket => true
  | openBrace => true
  | openParen => true
  | _ => false

/-- Whether the token goes on with the reference before it. -/
def extendsTerm : Token → Bool
  | dot => true
  | openBracket => true
  | openParen => true
  | _ => false

/-- Whether the token is a closing bracket. -/
def isClosing : Token → Bool
  | closeParen => true
  | closeBracket => true
  | closeBrace => true
  | _ => false

/-- How many brackets are open behind a token, if `depth` are open before it. -/
def depthAfter (depth : Nat) : Token → Nat
  | openParen => depth + 1
  | openBracket => depth + 1
  | openBrace => depth + 1
  | closeParen => depth - 1
  | closeBracket => depth - 1
  | closeBrace => depth - 1
  | _ => depth

/-- Whether the token is no newline and no bracket. -/
def isPlain : Token → Bool
  | newline => false
  | openParen => false
  | openBracket => false
  | openBrace => false
  | closeParen => false
  | closeBracket => false
  | closeBrace => false
  | _ => true

theorem ne_newline_of_isPlain {t : Token} (h : t.isPlain = true) : t ≠ newline := by
  rintro rfl
  cases h

theorem depthAfter_of_isPlain {t : Token} (h : t.isPlain = true) (depth : Nat) :
    t.depthAfter depth = depth := by
  cases t <;> first | rfl | cases h

theorem depthAfter_of_isClosing {t : Token} (h : t.isClosing = true) (depth : Nat) :
    t.depthAfter depth = depth - 1 := by
  cases t <;> first | rfl | cases h

theorem startsTerm_of_isClosing {t : Token} (h : t.isClosing = true) : t.startsTerm = false := by
  cases t <;> first | rfl | cases h

theorem isPlain_of_literal {token : Token} {t : Term} (h : token.literal? = some t) :
    token.isPlain = true := by
  cases token <;> first | rfl | cases h

theorem startsTerm_of_literal {token : Token} {t : Term} (h : token.literal? = some t) :
    token.startsTerm = true := by
  cases token <;> first | rfl | cases h

theorem isPlain_of_fieldName {token : Token} {name : String} (h : token.fieldName? = some name) :
    token.isPlain = true := by
  cases token <;> first | rfl | cases h

theorem isPlain_of_operator {sign : Token} {operator : String}
    (h : sign.operator? = some operator) : sign.isPlain = true := by
  cases sign <;> first | rfl | cases h

end Token

/-- The tokens without the newlines inside of brackets, of which `depth` are open at first. -/
def significant (depth : Nat) : List Token → List Token
  | [] => []
  | t :: ts =>
    if 0 < depth ∧ t = .newline then significant depth ts
    else t :: significant (t.depthAfter depth) ts

namespace Grammar

/-! ## Terms -/

mutual

/-- **The tokens that spell a term.** -/
inductive SpellsTerm : List Token → Term → Prop
  | literal {token : Token} {t : Term} : token.literal? = some t → SpellsTerm [token] t
  | array {ts : List Token} {es : List Term} : SpellsElements ts es →
      SpellsTerm (.openBracket :: (ts ++ [.closeBracket])) (.array es)
  | set {ts : List Token} {es : List Term} : SpellsElements ts es →
      SpellsTerm (.openBrace :: (ts ++ [.closeBrace])) (.set es)
  | parens {ts : List Token} {t : Term} : SpellsTerm ts t →
      SpellsTerm (.openParen :: (ts ++ [.closeParen])) t
  | variable (name : String) : SpellsTerm [.identifier name] (.var name)
  | reference (name : String) {ts : List Token} {segments : List Term} :
      SpellsSegments ts segments → segments ≠ [] →
      SpellsTerm (.identifier name :: ts) (.ref (.var name :: segments))
  | emptySet : SpellsTerm [.identifier "set", .openParen, .closeParen] (.set [])
  | call (name : String) {ts us : List Token} {segments arguments : List Term} :
      SpellsSegments ts segments → SpellsElements us arguments →
      ¬ (name = "set" ∧ segments = [] ∧ arguments = []) →
      SpellsTerm (.identifier name :: (ts ++ .openParen :: (us ++ [.closeParen])))
        (.call (.ref (.var name :: segments) :: arguments))

/-- The tokens that spell terms with commas between them, and perhaps one behind them. -/
inductive SpellsElements : List Token → List Term → Prop
  | none : SpellsElements [] []
  | last {ts : List Token} {t : Term} : SpellsTerm ts t → SpellsElements ts [t]
  | more {ts us : List Token} {t : Term} {es : List Term} :
      SpellsTerm ts t → SpellsElements us es → SpellsElements (ts ++ .comma :: us) (t :: es)

/-- The tokens that spell the segments of a reference behind its head. -/
inductive SpellsSegments : List Token → List Term → Prop
  | none : SpellsSegments [] []
  | field {token : Token} {name : String} {ts : List Token} {segments : List Term} :
      token.fieldName? = some name → SpellsSegments ts segments →
      SpellsSegments (.dot :: token :: ts) (.string name :: segments)
  | key {ts us : List Token} {t : Term} {segments : List Term} :
      SpellsTerm ts t → SpellsSegments us segments →
      SpellsSegments (.openBracket :: (ts ++ .closeBracket :: us)) (t :: segments)

end

theorem SpellsTerm.starts {ts : List Token} {t : Term} (h : SpellsTerm ts t) :
    ∃ token us, ts = token :: us ∧ token.startsTerm = true := by
  cases h with
  | @literal token t h => exact ⟨token, [], rfl, Token.startsTerm_of_literal h⟩
  | _ => exact ⟨_, _, rfl, rfl⟩

/-! ## Expressions, queries and residuals -/

/-- What is stated by a term that stands alone. -/
def conditionOf : Term → Condition
  | .call terms => .call terms
  | t => .term t

/-- The token before an expression that is negated. -/
def negation (negated : Bool) : List Token :=
  if negated then [.not] else []

/-- **The tokens that spell an expression.** -/
inductive SpellsExpression : List Token → Expression → Prop
  | alone (negated : Bool) {ts : List Token} {t : Term} : SpellsTerm ts t →
      SpellsExpression (negation negated ++ ts) ⟨conditionOf t, negated⟩
  | comparison (negated : Bool) {ts us : List Token} {left right : Term} {sign : Token}
      {operator : String} : SpellsTerm ts left → sign.operator? = some operator →
      SpellsTerm us right →
      SpellsExpression (negation negated ++ (ts ++ sign :: us))
        ⟨.call [.ref [.var operator], left, right], negated⟩

/-- **The tokens that spell a query.** -/
inductive SpellsQuery : List Token → Query → Prop
  | last {ts : List Token} {e : Expression} : SpellsExpression ts e → SpellsQuery ts [e]
  | trailing {ts : List Token} {e : Expression} : SpellsExpression ts e →
      SpellsQuery (ts ++ [.semicolon]) [e]
  | more {ts us : List Token} {e : Expression} {q : Query} :
      SpellsExpression ts e → SpellsQuery us q → SpellsQuery (ts ++ .semicolon :: us) (e :: q)

/-- The tokens that spell queries, of which there is at least one. -/
inductive SpellsQueries : List Token → Residual → Prop
  | last {ts : List Token} {q : Query} (blanks : Nat) : SpellsQuery ts q →
      SpellsQueries (ts ++ List.replicate blanks .newline) [q]
  | more {ts us : List Token} {q : Query} {r : Residual} (blanks : Nat) :
      SpellsQuery ts q → SpellsQueries us r →
      SpellsQueries (ts ++ (List.replicate (blanks + 1) .newline ++ us)) (q :: r)

/-- **The tokens that spell a residual.** -/
inductive SpellsResidual : List Token → Residual → Prop
  | none (blanks : Nat) : SpellsResidual (List.replicate blanks .newline) []
  | queries {ts : List Token} {r : Residual} (blanks : Nat) : SpellsQueries ts r →
      SpellsResidual (List.replicate blanks .newline ++ ts) r

theorem SpellsExpression.starts {ts : List Token} {e : Expression} (h : SpellsExpression ts e) :
    ∃ token us, ts = token :: us ∧ (token = .not ∨ token.startsTerm = true) := by
  rcases h with ⟨_ | _, hterm⟩ | ⟨_ | _, hterm, -, -⟩
  · obtain ⟨token, us, rfl, htoken⟩ := hterm.starts
    exact ⟨token, us, rfl, .inr htoken⟩
  · exact ⟨.not, _, rfl, .inl rfl⟩
  · obtain ⟨token, us, rfl, htoken⟩ := hterm.starts
    exact ⟨token, _, rfl, .inr htoken⟩
  · exact ⟨.not, _, rfl, .inl rfl⟩

/-- A query starts on its own line. -/
theorem SpellsQuery.starts {ts : List Token} {q : Query} (h : SpellsQuery ts q) :
    ∃ token us, ts = token :: us ∧ token ≠ .newline ∧ token ≠ .endOfInput := by
  have hexpression : ∀ {us e}, SpellsExpression us e →
      ∃ token vs, us = token :: vs ∧ token ≠ .newline ∧ token ≠ .endOfInput := by
    intro us e h
    obtain ⟨token, vs, rfl, htoken⟩ := h.starts
    refine ⟨token, vs, rfl, ?_⟩
    constructor <;> rintro rfl <;> rcases htoken with htoken | htoken <;> cases htoken
  cases h with
  | last h => exact hexpression h
  | trailing h =>
    obtain ⟨token, vs, rfl, htoken⟩ := hexpression h
    exact ⟨token, _, rfl, htoken⟩
  | more h _ =>
    obtain ⟨token, vs, rfl, htoken⟩ := hexpression h
    exact ⟨token, _, rfl, htoken⟩

theorem SpellsQueries.starts {ts : List Token} {r : Residual} (h : SpellsQueries ts r) :
    ∃ token us, ts = token :: us ∧ token ≠ .newline := by
  cases h with
  | last blanks h =>
    obtain ⟨token, vs, rfl, htoken, -⟩ := h.starts
    exact ⟨token, _, rfl, htoken⟩
  | more blanks h _ =>
    obtain ⟨token, vs, rfl, htoken, -⟩ := h.starts
    exact ⟨token, _, rfl, htoken⟩

/-! ## Brackets -/

/-- Tokens that close the brackets they open and hold no newline. -/
def Balanced (ts : List Token) : Prop :=
  ∀ depth rest, significant depth (ts ++ rest) = ts ++ significant depth rest

namespace Balanced

variable {ts us : List Token}

theorem nil : Balanced [] := fun _ _ => rfl

theorem append (hts : Balanced ts) (hus : Balanced us) : Balanced (ts ++ us) := by
  intro depth rest
  rw [List.append_assoc, hts, hus, List.append_assoc]

theorem cons {t : Token} (ht : t.isPlain = true) (hts : Balanced ts) : Balanced (t :: ts) := by
  intro depth rest
  rw [List.cons_append, significant, if_neg fun h => Token.ne_newline_of_isPlain ht h.2,
    Token.depthAfter_of_isPlain ht, hts, List.cons_append]

theorem brackets {opening closing : Token} (hopening : opening ≠ .newline)
    (hclosing : closing ≠ .newline) (hopen : ∀ depth, opening.depthAfter depth = depth + 1)
    (hclose : ∀ depth, closing.depthAfter (depth + 1) = depth) (hts : Balanced ts) :
    Balanced (opening :: (ts ++ [closing])) := by
  intro depth rest
  rw [List.cons_append, significant, if_neg fun h => hopening h.2, hopen, List.append_assoc, hts,
    List.singleton_append, significant, if_neg fun h => hclosing h.2, hclose, List.cons_append,
    List.append_assoc, List.singleton_append]

end Balanced

mutual

theorem SpellsTerm.balanced {ts : List Token} {t : Term} : SpellsTerm ts t → Balanced ts
  | .literal h => .cons (Token.isPlain_of_literal h) .nil
  | .array h => .brackets (by decide) (by decide) (fun _ => rfl) (fun _ => rfl) h.balanced
  | .set h => .brackets (by decide) (by decide) (fun _ => rfl) (fun _ => rfl) h.balanced
  | .parens h => .brackets (by decide) (by decide) (fun _ => rfl) (fun _ => rfl) h.balanced
  | .variable _ => .cons rfl .nil
  | .reference _ h _ => .cons rfl h.balanced
  | .emptySet => .cons rfl
    (.brackets (by decide) (by decide) (fun _ => rfl) (fun _ => rfl) .nil)
  | .call _ h h' _ => .cons rfl (h.balanced.append
    (.brackets (by decide) (by decide) (fun _ => rfl) (fun _ => rfl) h'.balanced))

theorem SpellsElements.balanced {ts : List Token} {es : List Term} :
    SpellsElements ts es → Balanced ts
  | .none => .nil
  | .last h => h.balanced
  | .more h h' => h.balanced.append (.cons rfl h'.balanced)

theorem SpellsSegments.balanced {ts : List Token} {segments : List Term} :
    SpellsSegments ts segments → Balanced ts
  | .none => .nil
  | .field h h' => .cons rfl (.cons (Token.isPlain_of_fieldName h) h'.balanced)
  | @SpellsSegments.key ts _ _ _ h h' => by
    have hkey : Balanced (.openBracket :: (ts ++ [.closeBracket])) :=
      .brackets (by decide) (by decide) (fun _ => rfl) (fun _ => rfl) h.balanced
    simpa using hkey.append h'.balanced

end

theorem SpellsExpression.balanced {ts : List Token} {e : Expression} (h : SpellsExpression ts e) :
    Balanced ts := by
  have hnegation : ∀ negated, Balanced (negation negated) := by
    rintro (_ | _)
    · exact .nil
    · exact .cons rfl .nil
  cases h with
  | alone negated h => exact (hnegation negated).append h.balanced
  | @comparison negated ts us left right sign operator h hsign h' =>
    exact (hnegation negated).append
      (h.balanced.append (.cons (Token.isPlain_of_operator hsign) h'.balanced))

theorem SpellsQuery.balanced {ts : List Token} {q : Query} (h : SpellsQuery ts q) :
    Balanced ts := by
  induction h with
  | last h => exact h.balanced
  | trailing h => exact h.balanced.append (.cons rfl .nil)
  | more h _ ih => exact h.balanced.append (.cons rfl ih)

theorem significant_newlines (blanks : Nat) (ts : List Token) :
    significant 0 (List.replicate blanks .newline ++ ts) =
      List.replicate blanks .newline ++ significant 0 ts := by
  induction blanks with
  | zero => rfl
  | succ blanks ih =>
    rw [List.replicate_succ, List.cons_append, significant, if_neg fun h => Nat.lt_irrefl 0 h.1,
      show Token.newline.depthAfter 0 = 0 from rfl, ih, List.cons_append]

/-- **Tokens that spell a residual have no newlines inside of brackets.** -/
theorem SpellsResidual.significant_eq {ts : List Token} {r : Residual} (h : SpellsResidual ts r) :
    significant 0 ts = ts := by
  have hblanks : ∀ blanks, significant 0 (List.replicate blanks .newline) =
      List.replicate blanks .newline := by
    intro blanks
    simpa [significant] using significant_newlines blanks []
  have hqueries : ∀ {us r}, SpellsQueries us r → significant 0 us = us := by
    intro us r h
    induction h with
    | last blanks h => rw [h.balanced, hblanks]
    | more blanks h _ ih => rw [h.balanced, significant_newlines, ih]
  cases h with
  | none blanks => exact hblanks blanks
  | queries blanks h => rw [significant_newlines, hqueries h]

end Grammar

end RowFilter
