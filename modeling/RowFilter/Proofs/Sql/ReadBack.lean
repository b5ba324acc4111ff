import RowFilter.Proofs.Sql.Form
import RowFilter.Proofs.Sql.Reader
import RowFilter.Proofs.Sql.Scanner

/-!
# Reading rendered predicates back

A predicate is translated to a condition of SQL node by node (`Node.toExpr`): conjunctions and
disjunctions become `AND` and `OR` of their translated children, an equality becomes a comparison of
its operands in the order in which they are written, and so on.  This file shows that rendering it
and reading the text gives the same condition.  So parentheses stand wherever the precedence of SQL
needs them, and nothing that strings hold is mistaken for a part of the condition.

* `Node.lexemes` — the lexemes that a predicate is rendered as; they spell its text
  (`Node.spelling_lexemes`) and derive its translation (`Node.derivable`).
* `parse` — the condition that a text spells.
* `Node.parse_render` — the main result.
-/

set_option autoImplicit false

namespace RowFilter.Sql

/-! ## Translation -/

namespace Expr

/-- The conjunction of translated children: chains of `AND` are flattened, a single child stands for
itself, and the conjunction of nothing is true. -/
def conjoined : List Expr → Expr
  | [] => boolean true
  | [e] => e
  | es => conjunction (es.flatMap conjuncts)

/-- The disjunction of translated children: chains of `OR` are flattened, a single child stands for
itself, and the disjunction of nothing is false. -/
def disjoined : List Expr → Expr
  | [] => boolean false
  | [e] => e
  | es => disjunction (es.flatMap disjuncts)

end Expr

/-- The condition that a form makes of its operands, in the order in which they are written. -/
def Form.toExpr (negate : Bool) (l r : Expr) : Form → Expr
  | any => .compareAny negate l r
  | _ => .compare negate l r

/-- The condition that a membership test is written as. -/
def Membership.toExpr (x c : Expr) : Membership → Expr
  | never => .boolean false
  | overlap => .overlap x c
  | any => .compareAny false x c

namespace Node

mutual

/-- **The translation of a predicate.**  Operands that SQL cannot compare have none, and what stands
here for them does not matter. -/
def toExpr : Node → Expr
  | boolean b => .boolean b
  | string s => .string s
  | number t => .number t
  | array _ es => .array (toExprs es)
  | equality negate l r =>
    match Form.ofEquality l r with
    | some (false, f) => f.toExpr negate l.toExpr r.toExpr
    | some (true, f) => f.toExpr negate r.toExpr l.toExpr
    | none => .boolean false
  | member x c =>
    match Membership.ofNodes x c with
    | some m => m.toExpr x.toExpr c.toExpr
    | none => .boolean false
  | conjunction _ cs => .conjoined (toExprs cs)
  | disjunction _ cs => .disjoined (toExprs cs)
  | column sql _ _ => .column sql

/-- The translations of a list of predicates. -/
def toExprs : List Node → List Expr
  | [] => []
  | n :: ns => n.toExpr :: toExprs ns

end

theorem toExprs_eq (ns : List Node) : toExprs ns = ns.map toExpr := by
  induction ns with
  | nil => rfl
  | cons n ns ih => rw [toExprs, ih, List.map_cons]

end Node

/-! ## Lexemes -/

/-- The lexemes of some parts, with a sign between each two. -/
def joinedLexemes (sign : Lexeme) : List (List Lexeme) → List Lexeme
  | [] => []
  | [ls] => ls
  | ls :: rest => ls ++ sign :: joinedLexemes sign rest

theorem spelling_joinedLexemes (sign : Lexeme) (parts : List (List Lexeme)) :
    spelling (joinedLexemes sign parts) = Text.joined sign.text (parts.map spelling) := by
  induction parts with
  | nil => rfl
  | cons ls parts ih =>
    cases parts with
    | nil => rfl
    | cons ms parts =>
      rw [joinedLexemes, spelling_append, spelling_cons, ih, ← String.append_assoc]
      · rfl
      · simp

/-- Lexemes between parentheses. -/
def parenLexemes (ls : List Lexeme) : List Lexeme :=
  .openParen :: (ls ++ [.closeParen])

/-- The lexemes of a comparison. -/
def Form.lexemes (negate : Bool) (ls ms : List Lexeme) : Form → List Lexeme
  | plain => ls ++ .equality negate :: ms
  | firstParens => parenLexemes ls ++ .equality negate :: ms
  | bothParens => parenLexemes ls ++ .equality negate :: parenLexemes ms
  | any => ls ++ .equality negate :: .openAny :: (ms ++ [.closeParen])

/-- The lexemes of a membership test. -/
def Membership.lexemes (element : Node) (ls ms : List Lexeme) : Membership → List Lexeme
  | never => [.boolean false]
  | overlap => ls ++ .overlap :: ms
  | any =>
    (if element.kind = .predicate then parenLexemes ls else ls) ++
      .equality false :: .openAny :: (ms ++ [.closeParen])

namespace Node

mutual

/-- **The lexemes that a predicate is rendered as.** -/
def lexemes : Node → List Lexeme
  | boolean b => [.boolean b]
  | string s => [.string s]
  | number t => [.number t]
  | array _ es => .openArray :: (joinedLexemes .comma (lexemesAll es) ++ [.closeArray])
  | equality negate l r =>
    match Form.ofEquality l r with
    | some (false, f) => f.lexemes negate l.lexemes r.lexemes
    | some (true, f) => f.lexemes negate r.lexemes l.lexemes
    | none => []
  | member x c =>
    match Membership.ofNodes x c with
    | some m => m.lexemes x x.lexemes c.lexemes
    | none => []
  | conjunction _ [] => [.boolean true]
  | conjunction _ [only] => only.lexemes
  | conjunction _ (c :: cs) => joinedLexemes .and (conjunctLexemes (c :: cs))
  | disjunction _ [] => [.boolean false]
  | disjunction _ [only] => only.lexemes
  | disjunction _ (c :: cs) => joinedLexemes .or (lexemesAll (c :: cs))
  | column sql _ _ => [.column sql]

/-- The lexemes of each of some predicates. -/
def lexemesAll : List Node → List (List Lexeme)
  | [] => []
  | n :: ns => n.lexemes :: lexemesAll ns

/-- The lexemes of each of the children of a conjunction. -/
def conjunctLexemes : List Node → List (List Lexeme)
  | [] => []
  | n :: ns => (if n.needsParens then parenLexemes n.lexemes else n.lexemes) :: conjunctLexemes ns

end

theorem lexemesAll_eq (ns : List Node) : lexemesAll ns = ns.map lexemes := by
  induction ns with
  | nil => rfl
  | cons n ns ih => rw [lexemesAll, ih, List.map_cons]

theorem conjunctLexemes_eq (ns : List Node) :
    conjunctLexemes ns =
      ns.map fun n => if n.needsParens then parenLexemes n.lexemes else n.lexemes := by
  induction ns with
  | nil => rfl
  | cons n ns ih => rw [conjunctLexemes, ih, List.map_cons]

theorem lexemes_conjunction_cons_cons (source : String) (c d : Node) (cs : List Node) :
    (conjunction source (c :: d :: cs)).lexemes =
      joinedLexemes .and ((c :: d :: cs).map fun n =>
        if n.needsParens then parenLexemes n.lexemes else n.lexemes) := by
  rw [← conjunctLexemes_eq, lexemes]
  simp

theorem lexemes_disjunction_cons_cons (source : String) (c d : Node) (cs : List Node) :
    (disjunction source (c :: d :: cs)).lexemes =
      joinedLexemes .or ((c :: d :: cs).map lexemes) := by
  rw [← lexemesAll_eq, lexemes]
  simp

end Node

/-! ### The lexemes spell the text -/

theorem spelling_parenLexemes (ls : List Lexeme) :
    spelling (parenLexemes ls) = "(" ++ spelling ls ++ ")" := by
  simp [parenLexemes, Lexeme.text, String.append_assoc]

theorem Form.spelling_lexemes (f : Form) {negate : Bool} {ls ms : List Lexeme} {a b : Rendered}
    (ha : spelling ls = a.text) (hb : spelling ms = b.text) :
    spelling (f.lexemes negate ls ms) = (f.write negate a b).text := by
  cases f <;>
    simp [Form.lexemes, Form.write, spelling_parenLexemes, Lexeme.text, ha, hb,
      String.append_assoc, -String.reduceAppend]

theorem Membership.spelling_lexemes (m : Membership) {element : Node} {ls ms : List Lexeme}
    {a b : Rendered} (h : m ≠ .never → spelling ls = a.text ∧ spelling ms = b.text) :
    spelling (m.lexemes element ls ms) = (m.write element a b).text := by
  cases m with
  | never => rfl
  | overlap =>
    obtain ⟨ha, hb⟩ := h (by simp)
    simp [Membership.lexemes, Membership.write, Lexeme.text, ha, hb, String.append_assoc]
  | any =>
    obtain ⟨ha, hb⟩ := h (by simp)
    have hsign : " = ANY(" = " " ++ (equalitySign false ++ (" " ++ "ANY(")) := by decide
    rw [Membership.lexemes, Membership.write, Membership.value]
    split <;>
      simp [spelling_parenLexemes, Lexeme.text, ha, hb, hsign, String.append_assoc,
        -String.reduceAppend]

namespace Node

/-- **The lexemes of a predicate spell its text.** -/
theorem spelling_lexemes {n : Node} (h : n.render.faults = []) :
    spelling n.lexemes = n.render.text := by
  induction n using Node.induct with
  | boolean b => cases b <;> rfl
  | string s => simp [lexemes, render, Lexeme.text]
  | number t => simp [lexemes, render, Lexeme.text]
  | column sql type scope => simp [lexemes, render, Lexeme.text]
  | array source es ih =>
    have hparts : es.map (spelling ∘ lexemes) = es.map (Rendered.text ∘ render) :=
      List.map_congr_left fun e he => ih e he (faults_array_iff.1 h e he)
    simp [lexemes, render, lexemesAll_eq, renderAll_eq, spelling_joinedLexemes, hparts, Lexeme.text,
      String.append_assoc]
  | equality negate l r ihl ihr =>
    obtain ⟨⟨exchanged, f, hf⟩, hl, hr⟩ := form_of_equality h
    rw [lexemes, render, equalityOf_eq, hf]
    cases exchanged with
    | false => exact f.spelling_lexemes (ihl hl) (ihr hr)
    | true => exact f.spelling_lexemes (ihr hr) (ihl hl)
  | member x c ihx ihc =>
    obtain ⟨m, hm, hc, hx⟩ := form_of_member h
    rw [lexemes, render, membershipOf_eq, hm]
    exact m.spelling_lexemes fun hne => ⟨ihx (hx hne), ihc hc⟩
  | conjunction source cs ih =>
    rcases cs with _ | ⟨c, _ | ⟨d, cs⟩⟩
    · rfl
    · exact ih c List.mem_cons_self (faults_conjunction_iff.1 h c List.mem_cons_self)
    · rw [lexemes_conjunction_cons_cons, render_conjunction_cons_cons, spelling_joinedLexemes,
        Rendered.text_joined, List.map_map, List.map_map]
      refine congrArg _ (List.map_congr_left fun n hn => ?_)
      have hn' := ih n hn (faults_conjunction_iff.1 h n hn)
      simp only [Function.comp]
      split
      · rw [spelling_parenLexemes, Rendered.text_parenthesized, hn']
      · exact hn'
  | disjunction source cs ih =>
    rcases cs with _ | ⟨c, _ | ⟨d, cs⟩⟩
    · rfl
    · exact ih c List.mem_cons_self (faults_disjunction_iff.1 h c List.mem_cons_self)
    · rw [lexemes_disjunction_cons_cons, render_disjunction_cons_cons, spelling_joinedLexemes,
        Rendered.text_joined, List.map_map, List.map_map]
      exact congrArg _ (List.map_congr_left fun n hn => ih n hn (faults_disjunction_iff.1 h n hn))

end Node

/-! ## The lexemes derive the translation -/

/-! ### Chains -/

namespace Derives

/-- Chains of `AND` are put together by `AND`. -/
theorem conjuncts_append {es fs : List Expr} {ls ms : List Lexeme}
    (hl : Derives (.conjuncts es) ls) (hm : Derives (.conjuncts fs) ms) :
    Derives (.conjuncts (es ++ fs)) (ls ++ .and :: ms) := by
  generalize hp : Phrase.conjuncts es = p at hl
  induction hl generalizing es with
  | conjunct h _ =>
    cases hp
    exact .moreConjuncts h hm
  | @moreConjuncts e es' ls ms' h _ _ ih =>
    cases hp
    rw [List.append_assoc, List.cons_append, List.cons_append]
    exact .moreConjuncts h (ih rfl)
  | _ => cases hp

/-- Chains of `OR` are put together by `OR`. -/
theorem disjuncts_append {ds es : List Expr} {ls ms : List Lexeme}
    (hl : Derives (.disjuncts ds) ls) (hm : Derives (.disjuncts es) ms) :
    Derives (.disjuncts (ds ++ es)) (ls ++ .or :: ms) := by
  generalize hp : Phrase.disjuncts ds = p at hl
  induction hl generalizing ds with
  | disjunct h _ =>
    cases hp
    exact .moreDisjuncts h hm
  | moreDisjuncts h _ _ ih =>
    cases hp
    rw [List.append_assoc, List.cons_append, List.cons_append]
    exact .moreDisjuncts h (ih rfl)
  | _ => cases hp

/-- Lists of elements are put together by a comma. -/
theorem elements_append {es fs : List Expr} {ls ms : List Lexeme}
    (hl : Derives (.elements es) ls) (hm : Derives (.elements fs) ms) :
    Derives (.elements (es ++ fs)) (ls ++ .comma :: ms) := by
  generalize hp : Phrase.elements es = p at hl
  induction hl generalizing es with
  | element h _ =>
    cases hp
    exact .moreElements h hm
  | moreElements h _ _ ih =>
    cases hp
    rw [List.append_assoc, List.cons_append, List.cons_append]
    exact .moreElements h (ih rfl)
  | _ => cases hp

/-- **Phrases that a sign puts together** are derived from all of their parts with that sign between
each two. -/
theorem joined {α : Type} {P : List Expr → Phrase} {sign : Lexeme}
    (happend : ∀ {es fs : List Expr} {ls ms : List Lexeme}, Derives (P es) ls → Derives (P fs) ms →
      Derives (P (es ++ fs)) (ls ++ sign :: ms))
    {f : α → List Expr} {g : α → List Lexeme} {x : α} {xs : List α}
    (h : ∀ y ∈ x :: xs, Derives (P (f y)) (g y)) :
    Derives (P ((x :: xs).flatMap f)) (joinedLexemes sign ((x :: xs).map g)) := by
  induction xs generalizing x with
  | nil => simpa [joinedLexemes] using h x List.mem_cons_self
  | cons y ys ih =>
    rw [List.flatMap_cons, List.map_cons, List.map_cons, joinedLexemes]
    · exact happend (h x List.mem_cons_self) (ih fun z hz => h z (List.mem_cons_of_mem _ hz))
    · simp

end Derives

/-! ### Flat expressions -/

namespace Expr

/-- A chain has at least two parts. -/
def IsFlat : Expr → Prop
  | conjunction es => 2 ≤ es.length
  | disjunction es => 2 ≤ es.length
  | _ => True

/-- Whether the expression is a chain of `OR`. -/
def isDisjunction : Expr → Bool
  | disjunction _ => true
  | _ => false

theorem IsFlat.allOf_conjuncts {e : Expr} (h : e.IsFlat) : allOf e.conjuncts = e := by
  cases e with
  | conjunction es =>
    match es, h with
    | _ :: _ :: _, _ => rfl
  | _ => rfl

theorem IsFlat.oneOf_disjuncts {e : Expr} (h : e.IsFlat) : oneOf e.disjuncts = e := by
  cases e with
  | disjunction es =>
    match es, h with
    | _ :: _ :: _, _ => rfl
  | _ => rfl

theorem IsFlat.one_le_conjuncts {e : Expr} (h : e.IsFlat) : 1 ≤ e.conjuncts.length := by
  cases e with
  | conjunction es => exact Nat.le_of_succ_le h
  | _ => exact Nat.le_refl 1

theorem IsFlat.one_le_disjuncts {e : Expr} (h : e.IsFlat) : 1 ≤ e.disjuncts.length := by
  cases e with
  | disjunction es => exact Nat.le_of_succ_le h
  | _ => exact Nat.le_refl 1

theorem isFlat_conjoined {es : List Expr} (h : ∀ e ∈ es, e.IsFlat) : (conjoined es).IsFlat := by
  match es, h with
  | [], _ => trivial
  | [e], h => exact h e List.mem_cons_self
  | d :: e :: es, h =>
    have hd := (h d (by simp)).one_le_conjuncts
    have he := (h e (by simp)).one_le_conjuncts
    simp only [conjoined, IsFlat, List.flatMap_cons, List.length_append]
    omega

theorem isFlat_disjoined {es : List Expr} (h : ∀ e ∈ es, e.IsFlat) : (disjoined es).IsFlat := by
  match es, h with
  | [], _ => trivial
  | [e], h => exact h e List.mem_cons_self
  | d :: e :: es, h =>
    have hd := (h d (by simp)).one_le_disjuncts
    have he := (h e (by simp)).one_le_disjuncts
    simp only [disjoined, IsFlat, List.flatMap_cons, List.length_append]
    omega

theorem conjuncts_of_isDisjunction {e : Expr} (h : e.isDisjunction = true) :
    e.conjuncts = [e] := by
  cases e with
  | disjunction es => rfl
  | _ => cases h

theorem disjuncts_of_isDisjunction_eq_false {e : Expr} (h : e.isDisjunction = false) :
    e.disjuncts = [e] := by
  cases e with
  | disjunction es => cases h
  | _ => rfl

end Expr

namespace Node

theorem isFlat_toExpr (n : Node) : n.toExpr.IsFlat := by
  induction n using Node.induct with
  | equality negate l r _ _ =>
    rw [toExpr]
    split
    · next f _ => cases f <;> trivial
    · next f _ => cases f <;> trivial
    · trivial
  | member x c _ _ =>
    rw [toExpr]
    split
    · next m _ => cases m <;> trivial
    · trivial
  | conjunction source cs ih =>
    rw [toExpr, toExprs_eq]
    exact Expr.isFlat_conjoined (by simpa using ih)
  | disjunction source cs ih =>
    rw [toExpr, toExprs_eq]
    exact Expr.isFlat_disjoined (by simpa using ih)
  | _ => trivial

/-- **Parentheses stand in a conjunction exactly around chains of `OR`.** -/
theorem needsParens_eq (n : Node) : n.needsParens = n.toExpr.isDisjunction := by
  induction n using Node.induct with
  | equality negate l r _ _ =>
    rw [toExpr]
    split
    · next f _ => cases f <;> rfl
    · next f _ => cases f <;> rfl
    · rfl
  | member x c _ _ =>
    rw [toExpr]
    split
    · next m _ => cases m <;> rfl
    · rfl
  | conjunction source cs ih =>
    match cs, ih with
    | [], _ => rfl
    | [c], ih => exact ih c List.mem_cons_self
    | c :: d :: cs, _ => rfl
  | disjunction source cs ih =>
    match cs, ih with
    | [], _ => rfl
    | [c], ih => exact ih c List.mem_cons_self
    | c :: d :: cs, _ => simp [needsParens, toExpr, toExprs, Expr.disjoined, Expr.isDisjunction]
  | _ => rfl

/-- What the lexemes of a predicate are in the grammar. -/
structure Derivable (n : Node) : Prop where
  /-- An operand, unless it is a predicate. -/
  operand : n.kind ≠ .predicate → Derives (.operand n.toExpr) n.lexemes
  /-- A chain of `AND`, if it may stand in one without parentheses. -/
  conjuncts : n.needsParens = false → Derives (.conjuncts n.toExpr.conjuncts) n.lexemes
  /-- A chain of `OR` in any case. -/
  disjuncts : Derives (.disjuncts n.toExpr.disjuncts) n.lexemes

namespace Derivable

variable {n : Node}

theorem condition (h : n.Derivable) : Derives (.condition n.toExpr) n.lexemes := by
  have hcondition := Derives.condition h.disjuncts
  rwa [n.isFlat_toExpr.oneOf_disjuncts] at hcondition

theorem parens (h : n.Derivable) : Derives (.operand n.toExpr) (parenLexemes n.lexemes) :=
  .parens h.condition

/-- What is a chain of `AND` is a chain of `OR` with one part. -/
theorem of_conjuncts (hoperand : n.kind ≠ .predicate → Derives (.operand n.toExpr) n.lexemes)
    (hparens : n.needsParens = false)
    (h : Derives (.conjuncts n.toExpr.conjuncts) n.lexemes) : n.Derivable where
  operand := hoperand
  conjuncts _ := h
  disjuncts := by
    rw [needsParens_eq] at hparens
    rw [Expr.disjuncts_of_isDisjunction_eq_false hparens]
    have hdisjunct := Derives.disjunct h
    rwa [n.isFlat_toExpr.allOf_conjuncts] at hdisjunct

/-- The children of a conjunction, with parentheses where they are needed. -/
theorem inConjunction (h : n.Derivable) :
    Derives (.conjuncts n.toExpr.conjuncts)
      (if n.needsParens then parenLexemes n.lexemes else n.lexemes) := by
  split
  · next hparens =>
    rw [needsParens_eq] at hparens
    rw [Expr.conjuncts_of_isDisjunction hparens]
    exact .conjunct (.bare h.parens)
  · next hparens => exact h.conjuncts (by simpa using hparens)

end Derivable

end Node

theorem Form.derives {f : Form} {negate : Bool} {l r : Node} (hf : f.Suits l.kind r.kind)
    (hl : l.Derivable) (hr : r.Derivable) :
    Derives (.comparison (f.toExpr negate l.toExpr r.toExpr))
      (f.lexemes negate l.lexemes r.lexemes) := by
  cases f with
  | plain =>
    obtain ⟨hkinds, hkind⟩ := hf
    refine .compare (hl.operand ?_) (hr.operand ?_)
    · rcases hkind with h | h | h | h <;> simp [h]
    · rcases hkind with h | h | h | h <;> simp [← hkinds, h]
  | firstParens => exact .compare hl.parens (hr.operand (by simp [hf.2]))
  | bothParens => exact .compare hl.parens hr.parens
  | any => exact .compareAny (hl.operand (by rcases hf.1 with h | h | h <;> simp [h])) hr.condition

theorem Membership.derives {m : Membership} {x c : Node} (hm : m.Suits x c)
    (h : m ≠ .never → x.Derivable ∧ c.Derivable) :
    Derives (.comparison (m.toExpr x.toExpr c.toExpr)) (m.lexemes x x.lexemes c.lexemes) := by
  cases m with
  | never => exact .bare (.boolean false)
  | overlap =>
    obtain ⟨hx, hc⟩ := h (by simp)
    obtain ⟨harray, source, es, rfl⟩ := hm
    obtain ⟨sql, element, scope, rfl⟩ := eq_column_of_isDeclaredArray harray
    exact .overlap (hx.operand (by cases scope <;> simp [Node.kind, Kind.ofType]))
      (hc.operand (by simp [Node.kind]))
  | any =>
    obtain ⟨hx, hc⟩ := h (by simp)
    rw [Membership.lexemes]
    split
    · exact .compareAny hx.parens hc.condition
    · next hkind => exact .compareAny (hx.operand hkind) hc.condition

namespace Node

/-- A comparison is a chain of `AND` with one part. -/
theorem Derivable.of_comparison {n : Node} (hkind : n.kind = .predicate)
    (hparens : n.needsParens = false) (hconjuncts : n.toExpr.conjuncts = [n.toExpr])
    (h : Derives (.comparison n.toExpr) n.lexemes) : n.Derivable :=
  .of_conjuncts (fun hne => absurd hkind hne) hparens (hconjuncts ▸ .conjunct h)

theorem Derivable.of_operand {n : Node}
    (hparens : n.needsParens = false) (hconjuncts : n.toExpr.conjuncts = [n.toExpr])
    (h : Derives (.operand n.toExpr) n.lexemes) : n.Derivable :=
  .of_conjuncts (fun _ => h) hparens (hconjuncts ▸ .conjunct (.bare h))

/-- **The lexemes of a predicate derive its translation.** -/
theorem derivable {n : Node} (h : n.render.faults = []) : n.Derivable := by
  induction n using Node.induct with
  | boolean b => exact .of_operand rfl rfl (.boolean b)
  | string s => exact .of_operand rfl rfl (.string s)
  | number t => exact .of_operand rfl rfl (.number t)
  | column sql type scope => exact .of_operand rfl rfl (.column sql)
  | array source es ih =>
    have hes : ∀ e ∈ es, Derives (.elements [e.toExpr]) e.lexemes := fun e he =>
      .element (ih e he (faults_array_iff.1 h e he)).condition
    refine .of_operand rfl rfl ?_
    rw [toExpr, toExprs_eq, lexemes, lexemesAll_eq]
    cases es with
    | nil => exact .emptyArray
    | cons e es =>
      have hjoined := Derives.joined Derives.elements_append hes
      rw [← List.map_eq_flatMap] at hjoined
      exact .array hjoined
  | equality negate l r ihl ihr =>
    obtain ⟨⟨exchanged, f, hf⟩, hl, hr⟩ := form_of_equality h
    have hsuits := Form.suits_of_ofEquality hf
    refine .of_comparison rfl rfl ?_ ?_
    · rw [toExpr, hf]
      cases exchanged <;> cases f <;> rfl
    · rw [toExpr, lexemes, hf]
      cases exchanged with
      | false => exact Form.derives hsuits (ihl hl) (ihr hr)
      | true => exact Form.derives hsuits (ihr hr) (ihl hl)
  | member x c ihx ihc =>
    obtain ⟨m, hm, hc, hx⟩ := form_of_member h
    refine .of_comparison rfl rfl ?_ ?_
    · rw [toExpr, hm]
      cases m <;> rfl
    · rw [toExpr, lexemes, hm]
      exact Membership.derives (Membership.suits_of_ofNodes hm)
        fun hne => ⟨ihx (hx hne), ihc hc⟩
  | conjunction source cs ih =>
    have hcs : ∀ c ∈ cs, c.Derivable := fun c hc => ih c hc (faults_conjunction_iff.1 h c hc)
    match cs, hcs with
    | [], _ => exact .of_conjuncts (by simp [kind]) rfl (.conjunct (.bare (.boolean true)))
    | [c], hcs =>
      have hc := hcs c List.mem_cons_self
      exact ⟨fun hne => absurd rfl hne, hc.conjuncts, hc.disjuncts⟩
    | c :: d :: cs, hcs =>
      refine .of_conjuncts (by simp [kind]) rfl ?_
      have hjoined := Derives.joined Derives.conjuncts_append fun n hn => (hcs n hn).inConjunction
      rw [lexemes_conjunction_cons_cons]
      simpa [toExpr, toExprs_eq, Expr.conjoined, Expr.conjuncts, List.flatMap_map] using hjoined
  | disjunction source cs ih =>
    have hcs : ∀ c ∈ cs, c.Derivable := fun c hc => ih c hc (faults_disjunction_iff.1 h c hc)
    match cs, hcs with
    | [], _ => exact .of_conjuncts (by simp [kind]) rfl (.conjunct (.bare (.boolean false)))
    | [c], hcs =>
      have hc := hcs c List.mem_cons_self
      exact ⟨fun hne => absurd rfl hne, hc.conjuncts, hc.disjuncts⟩
    | c :: d :: cs, hcs =>
      refine ⟨by simp [kind], by simp [needsParens], ?_⟩
      have hjoined := Derives.joined Derives.disjuncts_append fun n hn => (hcs n hn).disjuncts
      rw [lexemes_disjunction_cons_cons]
      simpa [toExpr, toExprs_eq, Expr.disjoined, Expr.disjuncts, List.flatMap_map] using hjoined

end Node

/-! ## Reading the text -/

/-- **The condition that a text spells**, if it spells one. -/
def parse (text : String) : Option Expr :=
  (scan text.toList).bind read

/-- Whether the lexeme is a keyword or a sign, which every text may hold. -/
def Lexeme.isFixed : Lexeme → Bool
  | string _ => false
  | number _ => false
  | column _ => false
  | _ => true

namespace Node

mutual

/-- The strings, numbers and columns of a predicate. -/
def leaves : Node → List Lexeme
  | boolean _ => []
  | string s => [.string s]
  | number t => [.number t]
  | array _ es => leavesAll es
  | equality _ l r => l.leaves ++ r.leaves
  | member x c => x.leaves ++ c.leaves
  | conjunction _ cs => leavesAll cs
  | disjunction _ cs => leavesAll cs
  | column sql _ _ => [.column sql]

/-- The strings, numbers and columns of some predicates. -/
def leavesAll : List Node → List Lexeme
  | [] => []
  | n :: ns => n.leaves ++ leavesAll ns

end

theorem leavesAll_eq (ns : List Node) : leavesAll ns = ns.flatMap leaves := by
  induction ns with
  | nil => rfl
  | cons n ns ih => rw [leavesAll, ih, List.flatMap_cons]

/-- Whether the text tells the columns and numbers of a predicate from everything else: columns are
words and no keywords, numbers are numbers. -/
def isPlain (n : Node) : Bool :=
  n.leaves.all Lexeme.isPlain

end Node

theorem mem_joinedLexemes {sign l : Lexeme} {parts : List (List Lexeme)}
    (h : l ∈ joinedLexemes sign parts) : l = sign ∨ ∃ part ∈ parts, l ∈ part := by
  induction parts with
  | nil => cases h
  | cons part parts ih =>
    cases parts with
    | nil => exact .inr ⟨part, by simp, h⟩
    | cons next parts =>
      rw [joinedLexemes, List.mem_append, List.mem_cons] at h
      · rcases h with h | h | h
        · exact .inr ⟨part, by simp, h⟩
        · exact .inl h
        · rcases ih h with rfl | ⟨p, hp, hl⟩
          · exact .inl rfl
          · exact .inr ⟨p, List.mem_cons_of_mem _ hp, hl⟩
      · simp

theorem mem_parenLexemes {l : Lexeme} {ls : List Lexeme} (h : l ∈ parenLexemes ls) :
    l.isFixed = true ∨ l ∈ ls := by
  simp only [parenLexemes, List.mem_cons, List.mem_append, List.not_mem_nil, or_false] at h
  rcases h with rfl | h | rfl
  · exact .inl rfl
  · exact .inr h
  · exact .inl rfl

theorem Form.mem_lexemes {f : Form} {negate : Bool} {l : Lexeme} {ls ms : List Lexeme}
    (h : l ∈ f.lexemes negate ls ms) : l.isFixed = true ∨ l ∈ ls ∨ l ∈ ms := by
  have hparens := @mem_parenLexemes l
  cases f <;> simp only [Form.lexemes, List.mem_append, List.mem_cons, List.not_mem_nil] at h <;>
    grind [Lexeme.isFixed]

theorem Membership.mem_lexemes {m : Membership} {element : Node} {l : Lexeme} {ls ms : List Lexeme}
    (h : l ∈ m.lexemes element ls ms) : l.isFixed = true ∨ l ∈ ls ∨ l ∈ ms := by
  have hparens := @mem_parenLexemes l
  cases m <;>
    simp only [Membership.lexemes, List.mem_append, List.mem_cons, List.not_mem_nil] at h <;>
    grind [Lexeme.isFixed]

/-- **A predicate is rendered with keywords, signs, and what it holds.** -/
theorem Node.mem_lexemes {n : Node} {l : Lexeme} (h : l ∈ n.lexemes) :
    l.isFixed = true ∨ l ∈ n.leaves := by
  induction n using Node.induct with
  | boolean b => exact .inl (by rw [List.mem_singleton.1 h]; rfl)
  | string s => exact .inr h
  | number t => exact .inr h
  | column sql type scope => exact .inr h
  | array source es ih =>
    simp only [lexemes, lexemesAll_eq, List.mem_cons, List.mem_append, List.not_mem_nil,
      or_false] at h
    rcases h with rfl | h | rfl
    · exact .inl rfl
    · rcases mem_joinedLexemes h with rfl | ⟨part, hpart, hl⟩
      · exact .inl rfl
      · obtain ⟨e, he, rfl⟩ := List.mem_map.1 hpart
        refine (ih e he hl).imp_right fun hleaf => ?_
        rw [leaves, leavesAll_eq]
        exact List.mem_flatMap_of_mem he hleaf
    · exact .inl rfl
  | equality negate left right ihl ihr =>
    rw [leaves, List.mem_append]
    rw [lexemes] at h
    split at h
    · rcases Form.mem_lexemes h with h | h | h <;> grind
    · rcases Form.mem_lexemes h with h | h | h <;> grind
    · cases h
  | member x c ihx ihc =>
    rw [leaves, List.mem_append]
    rw [lexemes] at h
    split at h
    · rcases Membership.mem_lexemes h with h | h | h <;> grind
    · cases h
  | conjunction source cs ih =>
    rw [leaves, leavesAll_eq]
    match cs, ih, h with
    | [], _, h => exact .inl (by rw [List.mem_singleton.1 h]; rfl)
    | [c], ih, h => simpa using ih c List.mem_cons_self h
    | c :: d :: cs, ih, h =>
      rw [lexemes_conjunction_cons_cons] at h
      rcases mem_joinedLexemes h with rfl | ⟨part, hpart, hl⟩
      · exact .inl rfl
      · obtain ⟨n, hn, rfl⟩ := List.mem_map.1 hpart
        have hl' : l.isFixed = true ∨ l ∈ n.lexemes := by
          split at hl
          · exact mem_parenLexemes hl
          · exact .inr hl
        rcases hl' with hfixed | hl'
        · exact .inl hfixed
        · exact (ih n hn hl').imp_right (List.mem_flatMap_of_mem hn)
  | disjunction source cs ih =>
    rw [leaves, leavesAll_eq]
    match cs, ih, h with
    | [], _, h => exact .inl (by rw [List.mem_singleton.1 h]; rfl)
    | [c], ih, h => simpa using ih c List.mem_cons_self h
    | c :: d :: cs, ih, h =>
      rw [lexemes_disjunction_cons_cons] at h
      rcases mem_joinedLexemes h with rfl | ⟨part, hpart, hl⟩
      · exact .inl rfl
      · obtain ⟨n, hn, rfl⟩ := List.mem_map.1 hpart
        exact (ih n hn hl).imp_right (List.mem_flatMap_of_mem hn)

theorem Lexeme.isPlain_of_isFixed {l : Lexeme} (h : l.isFixed = true) : l.isPlain = true := by
  cases l with
  | number t => cases h
  | column text => cases h
  | _ => rfl

/-- The text of a predicate is scanned as its lexemes. -/
theorem Node.scan_render {n : Node} (hplain : n.isPlain = true) (hfaults : n.render.faults = []) :
    scan n.render.text.toList = some n.lexemes := by
  rw [← spelling_lexemes hfaults]
  refine scan_spelling (fun l hl => ?_) (derivable hfaults).condition.isChain
  rcases mem_lexemes hl with hfixed | hleaf
  · exact Lexeme.isPlain_of_isFixed hfixed
  · exact List.all_eq_true.1 hplain l hleaf

/-- **The text of a predicate reads as its translation**, and as nothing else: whatever the grammar
derives from the lexemes of the text is the translation. -/
theorem Node.parse_render {n : Node} (hplain : n.isPlain = true) (hfaults : n.render.faults = []) :
    parse n.render.text = some n.toExpr ∧
      ∀ ls e, scan n.render.text.toList = some ls → Derives (.condition e) ls → e = n.toExpr := by
  have hscan := scan_render hplain hfaults
  have hread := (derivable hfaults).condition.read_eq_some
  refine ⟨by rw [parse, hscan, Option.bind_some, hread], fun ls e hls he => ?_⟩
  rw [hscan, Option.some_inj] at hls
  rw [← hls, ← read_eq_some_iff, hread, Option.some_inj] at he
  exact he.symm

/-- A disjunction inside conjunctions and disjunctions of one child, beside a membership test whose
literals hold quotes, keywords and brackets. -/
theorem Node.parse_render_nested :
    ∃ n : Node, n.isPlain = true ∧ n.render.faults = [] ∧
      n.render.text = "(name = 'x'' AND ''y' OR size != -1.5e3 AND (ok) = true) AND " ++
        "name = ANY(ARRAY['it''s', ') OR (true']) AND 'b' = ANY(tags)" ∧
      parse n.render.text = some (.conjunction
        [.disjunction [.compare false (.column "name") (.string "x' AND 'y"),
          .conjunction [.compare true (.column "size") (.number "-1.5e3"),
            .compare false (.column "ok") (.boolean true)]],
        .compareAny false (.column "name") (.array [.string "it's", .string ") OR (true"]),
        .compareAny false (.string "b") (.column "tags")]) :=
  ⟨.conjunction ""
    [.disjunction "" [.conjunction "" [.disjunction ""
      [.equality false (.string "x' AND 'y") (.column "name" .string .whole),
        .conjunction "" [.equality true (.column "size" .number .whole) (.number "-1.5e3"),
          .equality false (.boolean true) (.column "ok" .boolean .whole)]]]],
      .conjunction ""
        [.member (.column "name" .string .whole)
          (.array "" [.string "it's", .string ") OR (true"]),
        .equality false (.column "tags" (.array .string) .anyElement) (.string "b")]],
    by decide, by decide, by decide, (Node.parse_render (by decide) (by decide)).1⟩

end RowFilter.Sql
