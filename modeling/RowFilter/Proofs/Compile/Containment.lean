import RowFilter.Proofs.Compile.References
import RowFilter.Proofs.Resolver.ColumnForm
import RowFilter.Proofs.Sql.Alike
import RowFilter.Proofs.Sql.Strings

/-!
# Strings of a residual stay inside literals

Whoever sends a request may choose strings, keys of maps and groups of access lists.  They reach the
SQL of a residual, where each of them has to stay inside a literal of its own.  This file cuts the
SQL at its literals, by the rule for quotes alone, and says what is found inside and outside.

Every lexeme is made of pieces, literals and code (`Compile.IsMadeOf`), and so is the whole text.
Code has no quotes in it, and between two literals there is some code, so that the cut finds the
pieces again.

* `Compile.IsCode` — what may stand outside of literals.
* `Compile.SameColumn` — columns that differ in nothing but a key.
* `Compile.sql_contained` — the main result.
-/

set_option autoImplicit false

namespace RowFilter.Compile

open Sql (Node Piece)

variable {s : Settings}

/-! ## Code -/

/-- The keywords and signs that SQL is rendered with, and those that lead to a value beyond a
configured column. -/
def signs : List String :=
  ["true", "false", "ARRAY[", "]", "ANY(", "(", ")", ", ", " = ", " != ", " && ", " AND ", " OR ",
    "->>", "->", ")::boolean", ")::numeric", "ARRAY(SELECT jsonb_array_elements_text(", "))"]

/-- **What may stand outside of literals**: configured texts, numbers, subscripts, keywords and
signs. -/
inductive IsCode (s : Settings) : String → Prop
  | column {text : String} (h : text ∈ s.columnTexts) : IsCode s text
  | number {text : String} (h : Number.isValid text = true) : IsCode s text
  | subscript (i : Nat) : IsCode s ("[" ++ toString (i + 1) ++ "]")
  | sign {text : String} (h : text ∈ signs) : IsCode s text

theorem quote_notMem_number {text : String} (h : Number.isValid text = true) :
    '\x27' ∉ text.toList := by
  obtain ⟨c, cs, htext, hc, _, hcs⟩ := Sql.isNumber_spec h
  rw [htext]
  intro hmem
  have hall : ∀ d ∈ c :: cs, Sql.isNumberChar d = true := by
    rw [List.forall_mem_cons]
    exact ⟨hc, List.all_eq_true.1 hcs⟩
  exact absurd (hall _ hmem) (by decide)

theorem quote_notMem_toString (n : Nat) : '\x27' ∉ (toString n).toList := by
  intro hmem
  rw [Nat.toString_eq_repr, Nat.toList_repr] at hmem
  exact absurd (Nat.isDigit_of_mem_toDigits (by decide) (by decide) hmem) (by decide)

/-- **Code has no quotes in it.** -/
theorem IsCode.quote_notMem (hsafe : s.isQuoteFree = true) {text : String} (h : IsCode s text) :
    '\x27' ∉ text.toList := by
  cases h with
  | column h =>
    rw [Settings.isQuoteFree, Bool.and_eq_true] at hsafe
    simpa using List.all_eq_true.1 hsafe.2 _ h
  | number h => exact quote_notMem_number h
  | subscript i =>
    have hi := quote_notMem_toString (i + 1)
    simp only [String.toList_append, List.mem_append, not_or]
    exact ⟨⟨by decide, hi⟩, by decide⟩
  | sign h =>
    have hsigns : ∀ sign ∈ signs, '\x27' ∉ sign.toList := by decide
    exact hsigns text h

/-! ## The pieces of a lexeme -/

/-- **The pieces that a lexeme is made of**: a string is a literal, a column is made of a configured
text and perhaps a key, and all else is code. -/
inductive IsMadeOf (s : Settings) : Sql.Lexeme → List Piece → Prop
  | fixed {l : Sql.Lexeme} (h : l.isFixed = true) : IsMadeOf s l [.code l.text]
  | number {text : String} (h : Number.isValid text = true) :
      IsMadeOf s (.number text) [.code text]
  | string (value : String) : IsMadeOf s (.string value) [.literal value]
  | column {name : String} (h : name ∈ s.columnTexts) (key : String) (shape : ColumnShape) :
      IsMadeOf s (.column (shape.text name key)) (shape.pieces name key)

theorem text_mem_signs {l : Sql.Lexeme} (h : l.isFixed = true) : l.text ∈ signs := by
  cases l with
  | boolean b => cases b <;> decide
  | equality negate => cases negate <;> decide
  | string value => cases h
  | number text => cases h
  | column text => cases h
  | _ => decide

theorem isCode_of_shape {name key text : String} (hname : name ∈ s.columnTexts)
    {shape : ColumnShape} (h : .code text ∈ shape.pieces name key) : IsCode s text := by
  have hsigns : ∀ sign ∈ ["(", "->>", "->", ")::boolean", ")::numeric",
      "ARRAY(SELECT jsonb_array_elements_text(", "))"], sign ∈ signs := by decide
  have hcases : text = name ∨ (∃ i : Nat, text = "[" ++ toString (i + 1) ++ "]") ∨
      text ∈ ["(", "->>", "->", ")::boolean", ")::numeric",
        "ARRAY(SELECT jsonb_array_elements_text(", "))"] := by
    cases shape with
    | entry value => cases value <;> simp [ColumnShape.pieces] at h ⊢ <;> tauto
    | subscript i =>
      simp only [ColumnShape.pieces, List.mem_cons, Piece.code.injEq, List.not_mem_nil,
        or_false] at h
      exact h.imp_right fun htext => .inl ⟨i, htext⟩
    | plain => simp [ColumnShape.pieces] at h ⊢; tauto
    | group => simp [ColumnShape.pieces] at h ⊢; tauto
  rcases hcases with rfl | ⟨i, rfl⟩ | hsign
  · exact .column hname
  · exact .subscript i
  · exact .sign (hsigns text hsign)

namespace IsMadeOf

variable {l : Sql.Lexeme} {ps : List Piece}

theorem text_eq (h : IsMadeOf s l ps) : Sql.joinedText ps = l.text := by
  cases h with
  | fixed h => simp [Sql.joinedText, Piece.text]
  | number h => simp [Sql.joinedText, Piece.text, Sql.Lexeme.text]
  | string value => simp [Sql.joinedText, Piece.text, Sql.Lexeme.text]
  | column h key shape => rfl

theorem isCode (h : IsMadeOf s l ps) {text : String} (hp : .code text ∈ ps) : IsCode s text := by
  cases h with
  | fixed h =>
    cases List.mem_singleton.1 hp
    exact .sign (text_mem_signs h)
  | number h =>
    cases List.mem_singleton.1 hp
    exact .number h
  | string value => cases List.mem_singleton.1 hp
  | column h key shape => exact isCode_of_shape h hp

theorem isChain (h : IsMadeOf s l ps) : ps.IsChain Piece.Apart := by
  cases h with
  | column h key shape => exact shape.isChain_pieces _ key
  | _ => exact List.isChain_singleton _

/-- A sign that may follow an operand is code, of which there is some. -/
theorem of_isBreak (h : IsMadeOf s l ps) (hbreak : l.isBreak = true) :
    ps = [.code l.text] ∧ l.text ≠ "" := by
  cases h with
  | fixed h =>
    refine ⟨rfl, ?_⟩
    cases l with
    | equality negate => cases negate <;> decide
    | closeArray => decide
    | closeParen => decide
    | comma => decide
    | overlap => decide
    | and => decide
    | or => decide
    | _ => cases hbreak
  | _ => cases hbreak

/-- What is no operand is code. -/
theorem of_not_isAtom (h : IsMadeOf s l ps) (hatom : l.isAtom = false) :
    ps = [.code l.text] := by
  cases h with
  | fixed h => rfl
  | _ => cases hatom

end IsMadeOf

/-! ## The cut of a text -/

section Cut

variable {ls : List Sql.Lexeme} {pss : List (List Piece)}

theorem textOf_flatten (h : List.Forall₂ (IsMadeOf s) ls pss) :
    Sql.textOf pss.flatten = (Sql.spelling ls).toList := by
  induction h with
  | nil => rfl
  | @cons l ps ls pss hl _ ih =>
    rw [List.flatten_cons, Sql.textOf, List.flatMap_append, ← Sql.textOf, ← Sql.textOf, ih,
      ← Sql.toList_joinedText, hl.text_eq, Sql.spelling_cons, String.toList_append]

theorem isCode_of_mem_flatten (h : List.Forall₂ (IsMadeOf s) ls pss) {text : String}
    (hp : .code text ∈ pss.flatten) : IsCode s text := by
  obtain ⟨ps, hps, hmem⟩ := List.mem_flatten.1 hp
  obtain ⟨l, _, hl⟩ := exists_of_mem_right h hps
  exact hl.isCode hmem

/-- The pieces of lexemes that fit together have no two literals side by side. -/
theorem isChain_flatten (h : List.Forall₂ (IsMadeOf s) ls pss)
    (hfits : ls.IsChain Sql.Lexeme.Fits) : pss.flatten.IsChain Piece.Apart := by
  induction h with
  | nil => exact .nil
  | @cons l ps ls pss hl hrest ih =>
    rw [List.flatten_cons, List.isChain_append]
    refine ⟨hl.isChain, ih hfits.tail, fun p hp q hq hliteral => ?_⟩
    cases hatom : l.isAtom with
    | false =>
      -- a sign is code, behind which anything may stand
      rw [hl.of_not_isAtom hatom] at hp
      simp only [List.getLast?_singleton, Option.mem_some_iff] at hp
      rw [← hp] at hliteral
      cases hliteral
    | true =>
      cases hrest with
      | nil => cases hq
      | @cons m ps' ms pss' hm _ =>
        rw [List.isChain_cons_cons] at hfits
        obtain ⟨rfl, htext⟩ := hm.of_isBreak (hfits.1 hatom)
        simp only [List.flatten_cons, List.singleton_append, List.head?_cons,
          Option.mem_some_iff] at hq
        exact ⟨m.text, hq.symm, htext⟩

/-- **The text of lexemes is cut into their pieces.** -/
theorem cutLiterals_spelling (hsafe : s.isQuoteFree = true)
    (h : List.Forall₂ (IsMadeOf s) ls pss) (hfits : ls.IsChain Sql.Lexeme.Fits) :
    Sql.cutLiterals (Sql.spelling ls).toList =
      some { outside := pss.flatten.flatMap Piece.outside,
             literals := pss.flatten.filterMap Piece.value? } := by
  rw [← textOf_flatten h]
  refine Sql.cutLiterals_pieces (fun p hp => ?_) (isChain_flatten h hfits)
  cases p with
  | code text => exact (isCode_of_mem_flatten h hp).quote_notMem hsafe
  | literal value => trivial

/-- The keys in the text of a column. -/
def keysIn (column : String) : List String :=
  ((Sql.cutLiterals column.toList).map Sql.Cut.literals).getD []

theorem keysIn_text (hsafe : s.isQuoteFree = true) {name : String} (hname : name ∈ s.columnTexts)
    (key : String) (shape : ColumnShape) : keysIn (shape.text name key) = shape.quoted key := by
  have hcut := cutLiterals_spelling hsafe (.cons (.column hname key shape) .nil)
    (List.isChain_singleton _)
  rw [Sql.spelling_cons, Sql.spelling_nil, String.append_empty] at hcut
  rw [keysIn, show (shape.text name key).toList =
    (Sql.Lexeme.column (shape.text name key)).text.toList from rfl, hcut]
  simp [shape.quoted_eq name key]

/-- The literals of a text are the strings of its lexemes. -/
theorem literals_flatten (hsafe : s.isQuoteFree = true) (h : List.Forall₂ (IsMadeOf s) ls pss) :
    pss.flatten.filterMap Piece.value? = ls.flatMap (Sql.Lexeme.strings keysIn) := by
  induction h with
  | nil => rfl
  | @cons l ps ls pss hl _ ih =>
    rw [List.flatten_cons, List.filterMap_append, List.flatMap_cons, ih]
    congr 1
    cases hl with
    | fixed h => exact (Sql.strings_of_isFixed keysIn h).symm
    | number h => rfl
    | string value => rfl
    | @column name h key shape =>
      exact (shape.quoted_eq name key).symm.trans (keysIn_text hsafe h key shape).symm

end Cut

/-! ## Residuals -/

/-- The lexemes of a compiled residual are made of pieces. -/
theorem isMadeOf_of_predicate (hsafe : s.isQuoteFree = true) {r : Residual} {n : Node}
    (hn : predicate s r = .ok n) :
    ∃ pss, List.Forall₂ (IsMadeOf s) n.lexemes pss := by
  have hall : ∀ l ∈ n.lexemes, ∃ ps, IsMadeOf s l ps := by
    intro l hl
    rcases Node.mem_lexemes hl with hfixed | hleaf
    · exact ⟨_, .fixed hfixed⟩
    · have hleaf := isLeafOf_of_predicate hn hleaf
      cases l with
      | string value => exact ⟨_, .string value⟩
      | number text => exact ⟨_, .number hleaf⟩
      | column sql =>
        obtain ⟨segments, _, type, scope, hreference⟩ := hleaf
        obtain ⟨name, hname, key, shape, rfl, _⟩ := form_of_reference hsafe hreference
        exact ⟨_, .column hname key shape⟩
      | _ => cases hleaf
  exact exists_forall₂ hall

/-- **Columns that differ in nothing but a key**: they are made in the same way of the same
configured text. -/
def SameColumn (s : Settings) (c d : String) : Prop :=
  ∃ name ∈ s.columnTexts, ∃ (shape : ColumnShape) (key key' : String),
    c = shape.text name key ∧ d = shape.text name key'

/-- Lexemes that are alike are made of pieces that agree outside of the literals. -/
theorem outside_of_alike {l l' : Sql.Lexeme} {ps : List Piece} (hl : IsMadeOf s l ps)
    (h : l.Alike (SameColumn s) l') :
    ∃ qs qs', IsMadeOf s l qs ∧ IsMadeOf s l' qs' ∧
      qs.flatMap Piece.outside = qs'.flatMap Piece.outside := by
  cases h with
  | same l hfixed => exact ⟨_, _, .fixed hfixed, .fixed hfixed, rfl⟩
  | number text => exact ⟨_, _, hl, hl, rfl⟩
  | string v w => exact ⟨_, _, .string v, .string w, rfl⟩
  | column hcd =>
    obtain ⟨name, hname, shape, key, key', rfl, rfl⟩ := hcd
    exact ⟨_, _, .column hname key shape, .column hname key' shape,
      shape.outside_pieces name key key'⟩

theorem outside_of_lexemesAlike {ls ls' : List Sql.Lexeme} {pss : List (List Piece)}
    (hls : List.Forall₂ (IsMadeOf s) ls pss) (h : Sql.LexemesAlike (SameColumn s) ls ls') :
    ∃ qss qss', List.Forall₂ (IsMadeOf s) ls qss ∧ List.Forall₂ (IsMadeOf s) ls' qss' ∧
      qss.flatten.flatMap Piece.outside = qss'.flatten.flatMap Piece.outside := by
  induction h generalizing pss with
  | nil => exact ⟨[], [], .nil, .nil, rfl⟩
  | @cons l l' ls ls' hll' _ ih =>
    cases hls with
    | @cons _ ps _ pss hl hls =>
      obtain ⟨qs, qs', hqs, hqs', heq⟩ := outside_of_alike hl hll'
      obtain ⟨qss, qss', hqss, hqss', htail⟩ := ih hls
      refine ⟨qs :: qss, qs' :: qss', .cons hqs hqss, .cons hqs' hqss', ?_⟩
      rw [List.flatten_cons, List.flatten_cons, List.flatMap_append, List.flatMap_append, heq,
        htail]

/-- **Strings of a residual stay inside literals.**  If no configured text has a quote in it, then
the SQL of a residual ends outside of all literals.  The literals are the strings of the condition
and the keys of its columns, in their order.  Outside of them there is only code, and it stays the
same if the strings and the keys are exchanged for others. -/
theorem sql_contained {r : Residual} {text : String} (hsafe : s.isQuoteFree = true)
    (h : sql s r = .ok text) :
    ∃ n cut, predicate s r = .ok n ∧ Sql.cutLiterals text.toList = some cut ∧
      (∃ keys : String → List String,
        (∀ segments ∈ r.references, ∀ column type scope,
          reference s segments = .ok (.column column type scope) →
          keys column = quotedKeys s segments) ∧
        cut.literals = n.toExpr.strings keys) ∧
      (∃ ps : List Piece, cut.outside = ps.flatMap Piece.outside ∧
        ∀ code, .code code ∈ ps → IsCode s code) ∧
      ∀ r' n', predicate s r' = .ok n' → n.Alike (SameColumn s) n' →
        ∃ text' cut', sql s r' = .ok text' ∧ Sql.cutLiterals text'.toList = some cut' ∧
          cut'.outside = cut.outside := by
  obtain ⟨n, hn, hfaults, rfl⟩ := sql_eq_ok h
  obtain ⟨pss, hpss⟩ := isMadeOf_of_predicate hsafe hn
  have hderives := (Node.derivable hfaults).condition
  have hcut := cutLiterals_spelling hsafe hpss hderives.isChain
  rw [Node.spelling_lexemes hfaults] at hcut
  refine ⟨n, _, hn, hcut, ⟨keysIn, ?_, ?_⟩,
    ⟨pss.flatten, rfl, fun code hcode => isCode_of_mem_flatten hpss hcode⟩, ?_⟩
  · intro segments _ column type scope hreference
    obtain ⟨name, hname, key, shape, rfl, hkeys⟩ := form_of_reference hsafe hreference
    rw [keysIn_text hsafe hname, hkeys]
  · exact (literals_flatten hsafe hpss).trans (hderives.strings_eq keysIn)
  · intro r' n' hn' halike
    obtain ⟨_, hfaults', hlexemes⟩ := halike.renderedAlike
    have hnone := hfaults' hfaults
    obtain ⟨qss, qss', hqss, hqss', houtside⟩ := outside_of_lexemesAlike hpss hlexemes
    have hcut' := cutLiterals_spelling hsafe hqss' (Node.derivable hnone).condition.isChain
    have hsame := cutLiterals_spelling hsafe hqss hderives.isChain
    rw [Node.spelling_lexemes hnone] at hcut'
    rw [Node.spelling_lexemes hfaults, hcut, Option.some_inj, Sql.Cut.mk.injEq] at hsame
    exact ⟨_, _, sql_of_predicate hn' hnone, hcut', (hsame.1.trans houtside).symm⟩

/-- A string, a key of a map and a group that all have quotes in them, and others in their place
that try to end the literal: the SQL is the same outside of the literals. -/
theorem sql_contained_quotes :
    ∃ (s : Settings) (r r' : Residual) (cut cut' : Sql.Cut) (text' : String),
      s.isQuoteFree = true ∧
      sql s r = .ok ("labels->>'it''s' = 'O''Neil' AND " ++
        "'x' = ANY(ARRAY(SELECT jsonb_array_elements_text(acl->'a''b')))") ∧
      Sql.cutLiterals ("labels->>'it''s' = 'O''Neil' AND " ++
        "'x' = ANY(ARRAY(SELECT jsonb_array_elements_text(acl->'a''b')))").toList = some cut ∧
      cut.literals = ["it's", "O'Neil", "x", "a'b"] ∧
      sql s r' = .ok text' ∧ Sql.cutLiterals text'.toList = some cut' ∧
      cut'.outside = cut.outside := by
  let labels : Trie := .node (some { type := .map .string, namer := .fixed "labels" }) [] none
  let s : Settings :=
    { resolvers := some
        [.accessList [.field "input", .field "acl"] "acl",
          .catalog { root := .node none [("input", .node none [("labels", labels)] none)] none }] }
  let residual (key value element group : String) : Residual :=
    [[{ condition := .call
          [.var "eq", .ref [.var "input", .string "labels", .string key], .string value] },
      { condition := .call [.ref [.var "internal", .string "member_2"], .string element,
          .ref [.var "input", .string "acl", .string group]] }]]
  have hpredicate (key value element group : String) :
      ∃ source source', predicate s (residual key value element group) =
        .ok (.disjunction source [.conjunction source'
          [.equality false
              (.column (ColumnShape.text "labels" key (.entry .string)) .string .whole)
              (.string value),
            .member (.string element)
              (.column (ColumnShape.text "acl" group .group) (.array .string) .whole)]]) := by
    rw [ColumnShape.text_entry, ColumnShape.text_group]
    exact ⟨_, _, rfl⟩
  have hsafe : s.isQuoteFree = true := by decide
  have hsql : sql s (residual "it's" "O'Neil" "x" "a'b") =
      .ok ("labels->>'it''s' = 'O''Neil' AND " ++
        "'x' = ANY(ARRAY(SELECT jsonb_array_elements_text(acl->'a''b')))") := rfl
  obtain ⟨n, cut, hn, hcut, ⟨keys, hkeys, hliterals⟩, _, halike⟩ := sql_contained hsafe hsql
  obtain ⟨source, source', hn'⟩ := hpredicate "it's" "O'Neil" "x" "a'b"
  obtain ⟨other, other', hother⟩ := hpredicate "' OR true --" "'" "" "''"
  obtain rfl := Except.ok.inj (hn.symm.trans hn')
  obtain ⟨text', cut', htext', hcut', houtside⟩ := halike _ _ hother
    ⟨⟨⟨rfl, ⟨⟨"labels", by decide, _, _, _, rfl, rfl⟩, rfl, rfl⟩, trivial⟩,
      ⟨trivial, ⟨"acl", by decide, _, _, _, rfl, rfl⟩, rfl, rfl⟩, trivial⟩, trivial⟩
  refine ⟨s, _, _, cut, cut', text', hsafe, hsql, hcut, ?_, htext', hcut', houtside⟩
  have hlabels : keys (ColumnShape.text "labels" "it's" (.entry .string)) = ["it's"] :=
    hkeys _ List.mem_cons_self _ .string .whole (by rw [ColumnShape.text_entry]; rfl)
  have hgroup : keys (ColumnShape.text "acl" "a'b" .group) = ["a'b"] :=
    hkeys _ (List.mem_cons_of_mem _ List.mem_cons_self) _ (.array .string) .whole
      (by rw [ColumnShape.text_group]; rfl)
  rw [hliterals]
  show keys _ ++ ["O'Neil"] ++ (["x"] ++ keys _ ++ []) = _
  rw [hlabels, hgroup]
  rfl

end RowFilter.Compile
