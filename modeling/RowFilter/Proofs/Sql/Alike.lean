import Mathlib.Data.List.Forall2
import RowFilter.Proofs.Sql.ReadBack

/-!
# Predicates of the same structure

Two predicates are alike if they differ in nothing but the contents of strings.  Which columns count
as alike is left open: it is a relation on their SQL texts.  How operands are compared depends on
the structure alone, so predicates that are alike are rendered in the same way, string by string and
column by column.

* `Node.Alike` — predicates of the same structure.
* `Node.Alike.renderedAlike` — if one can be rendered without faults, then so can the other, and
  their lexemes are the same, up to strings and columns.
-/

set_option autoImplicit false

namespace RowFilter.Sql

variable {C : String → String → Prop}

/-- Lexemes that are the same, up to the contents of strings and up to columns. -/
inductive Lexeme.Alike (C : String → String → Prop) : Lexeme → Lexeme → Prop
  | same (l : Lexeme) : l.isFixed = true → Alike C l l
  | number (text : String) : Alike C (.number text) (.number text)
  | string (s t : String) : Alike C (.string s) (.string t)
  | column {c d : String} : C c d → Alike C (.column c) (.column d)

namespace Node

mutual

/-- **Predicates of the same structure**, whose columns are related by `C`. -/
def Alike (C : String → String → Prop) : Node → Node → Prop
  | boolean a, boolean b => a = b
  | string _, string _ => True
  | number a, number b => a = b
  | array _ es, array _ fs => AllAlike C es fs
  | equality m a b, equality n c d => m = n ∧ Alike C a c ∧ Alike C b d
  | member a b, member c d => Alike C a c ∧ Alike C b d
  | conjunction _ as, conjunction _ bs => AllAlike C as bs
  | disjunction _ as, disjunction _ bs => AllAlike C as bs
  | column a t p, column b u q => C a b ∧ t = u ∧ p = q
  | _, _ => False

/-- Lists of predicates of the same structure. -/
def AllAlike (C : String → String → Prop) : List Node → List Node → Prop
  | [], [] => True
  | n :: ns, m :: ms => Alike C n m ∧ AllAlike C ns ms
  | _, _ => False

end

theorem allAlike_iff {ns ms : List Node} :
    AllAlike C ns ms ↔ List.Forall₂ (Alike C) ns ms := by
  induction ns generalizing ms with
  | nil => cases ms <;> simp [AllAlike]
  | cons n ns ih => cases ms <;> simp [AllAlike, ih]

namespace Alike

theorem forall₂_of_mem {P : Node → Node → Prop} {ns ms : List Node}
    (h : List.Forall₂ (Alike C) ns ms) (hP : ∀ n ∈ ns, ∀ m, Alike C n m → P n m) :
    List.Forall₂ P ns ms :=
  ((List.forall₂_and_left _ _).2 ⟨hP, h⟩).imp fun _ m hnm => hnm.1 m hnm.2

/-- Induction on two predicates of the same structure. -/
@[elab_as_elim]
theorem pairInduct {P : Node → Node → Prop}
    (boolean : ∀ b, P (boolean b) (boolean b)) (string : ∀ s t, P (string s) (string t))
    (number : ∀ t, P (number t) (number t))
    (array : ∀ s t es fs, List.Forall₂ P es fs → P (array s es) (array t fs))
    (equality : ∀ negate a b c d, P a c → P b d → P (equality negate a b) (equality negate c d))
    (member : ∀ a b c d, P a c → P b d → P (member a b) (member c d))
    (conjunction : ∀ s t as bs, List.Forall₂ P as bs → P (conjunction s as) (conjunction t bs))
    (disjunction : ∀ s t as bs, List.Forall₂ P as bs → P (disjunction s as) (disjunction t bs))
    (column : ∀ c d type scope, C c d → P (column c type scope) (column d type scope))
    {n m : Node} (h : Alike C n m) : P n m := by
  induction n using Node.induct generalizing m with
  | boolean a =>
    cases m with
    | boolean b => cases h; exact boolean a
    | _ => cases h
  | string s =>
    cases m with
    | string t => exact string s t
    | _ => cases h
  | number s =>
    cases m with
    | number t => cases h; exact number s
    | _ => cases h
  | array s es ih =>
    cases m with
    | array t fs => exact array s t es fs (forall₂_of_mem (allAlike_iff.1 h) fun e he _ => ih e he)
    | _ => cases h
  | equality negate a b iha ihb =>
    cases m with
    | equality negate' c d =>
      obtain ⟨rfl, hac, hbd⟩ := h
      exact equality negate a b c d (iha hac) (ihb hbd)
    | _ => cases h
  | member a b iha ihb =>
    cases m with
    | member c d => exact member a b c d (iha h.1) (ihb h.2)
    | _ => cases h
  | conjunction s as ih =>
    cases m with
    | conjunction t bs =>
      exact conjunction s t as bs (forall₂_of_mem (allAlike_iff.1 h) fun e he _ => ih e he)
    | _ => cases h
  | disjunction s as ih =>
    cases m with
    | disjunction t bs =>
      exact disjunction s t as bs (forall₂_of_mem (allAlike_iff.1 h) fun e he _ => ih e he)
    | _ => cases h
  | column c type scope =>
    cases m with
    | column d type' scope' =>
      obtain ⟨hcd, rfl, rfl⟩ := h
      exact column c d type scope hcd
    | _ => cases h

/-! ## The same forms -/

variable {n m : Node}

/-- Whatever decides how a predicate is compared is the same. -/
theorem traits_eq (h : Alike C n m) :
    n.kind = m.kind ∧ n.isLiteral = m.isLiteral ∧ n.declaredType = m.declaredType ∧
      n.needsParens = m.needsParens := by
  refine h.pairInduct ?boolean ?string ?number ?array ?equality ?member ?conjunction ?disjunction
    ?column
  case conjunction =>
    rintro s t as bs has
    refine ⟨rfl, rfl, rfl, ?_⟩
    match as, bs, has with
    | [], [], _ => rfl
    | [a], [b], .cons hab .nil => exact hab.2.2.2
    | _ :: _ :: _, _ :: _ :: _, _ => rfl
  case disjunction =>
    rintro s t as bs has
    refine ⟨rfl, rfl, rfl, ?_⟩
    match as, bs, has with
    | [], [], _ => rfl
    | [a], [b], .cons hab .nil => exact hab.2.2.2
    | _ :: _ :: _, _ :: _ :: _, _ => simp [needsParens]
  case column =>
    intro c d type scope _
    cases scope <;> exact ⟨rfl, rfl, rfl, rfl⟩
  all_goals
    intros
    exact ⟨rfl, rfl, rfl, rfl⟩

theorem kind_eq (h : Alike C n m) : n.kind = m.kind := h.traits_eq.1

theorem needsParens_eq (h : Alike C n m) : n.needsParens = m.needsParens := h.traits_eq.2.2.2

theorem ofEquality_eq {l r l' r' : Node} (hl : Alike C l l') (hr : Alike C r r') :
    Form.ofEquality l r = Form.ofEquality l' r' := by
  obtain ⟨hlkind, hlliteral, _⟩ := hl.traits_eq
  obtain ⟨hrkind, hrliteral, _⟩ := hr.traits_eq
  rw [Form.ofEquality, Form.ofEquality, hlkind, hrkind, hlliteral, hrliteral]

theorem ofNodes_eq {x c x' c' : Node} (hx : Alike C x x') (hc : Alike C c c') :
    Membership.ofNodes x c = Membership.ofNodes x' c' := by
  obtain ⟨hkind, _, hdeclared, _⟩ := hx.traits_eq
  have harray : isDeclaredArray x = isDeclaredArray x' := by
    rw [isDeclaredArray, isDeclaredArray, hdeclared]
  have hsingle : Membership.isSingle x = Membership.isSingle x' := by
    rw [Membership.isSingle, Membership.isSingle, hkind, harray]
  refine hc.pairInduct ?boolean ?string ?number ?array ?equality ?member ?conjunction ?disjunction
    ?column
  case array =>
    intro s t es fs hes
    cases hes <;> simp only [Membership.ofNodes, harray, hsingle]
  case column =>
    intro c d type scope _
    simp only [Membership.ofNodes, hsingle]
    cases scope <;> rfl
  all_goals
    intros
    rfl

end Alike

end Node

/-! ## The same lexemes -/

/-- Lists of lexemes that are the same, up to the contents of strings and up to columns. -/
abbrev LexemesAlike (C : String → String → Prop) : List Lexeme → List Lexeme → Prop :=
  List.Forall₂ (Lexeme.Alike C)

theorem LexemesAlike.join {sign : Lexeme} (hsign : sign.isFixed = true)
    {ps qs : List (List Lexeme)} (h : List.Forall₂ (LexemesAlike C) ps qs) :
    LexemesAlike C (joinedLexemes sign ps) (joinedLexemes sign qs) := by
  induction h with
  | nil => exact .nil
  | @cons p q ps qs hpq hrest ih =>
    match ps, qs, hrest with
    | [], [], _ => exact hpq
    | _ :: _, _ :: _, _ => exact List.rel_append hpq (.cons (.same sign hsign) ih)

theorem LexemesAlike.parens {ls ms : List Lexeme} (h : LexemesAlike C ls ms) :
    LexemesAlike C (parenLexemes ls) (parenLexemes ms) :=
  .cons (.same _ rfl) (List.rel_append h (.cons (.same _ rfl) .nil))

theorem LexemesAlike.form (f : Form) {negate : Bool} {ls ms ls' ms' : List Lexeme}
    (hl : LexemesAlike C ls ls') (hm : LexemesAlike C ms ms') :
    LexemesAlike C (f.lexemes negate ls ms) (f.lexemes negate ls' ms') := by
  have hsign : Lexeme.Alike C (.equality negate) (.equality negate) := .same _ rfl
  cases f with
  | plain => exact List.rel_append hl (.cons hsign hm)
  | firstParens => exact List.rel_append hl.parens (.cons hsign hm)
  | bothParens => exact List.rel_append hl.parens (.cons hsign hm.parens)
  | any =>
    exact List.rel_append hl (.cons hsign (.cons (.same _ rfl)
      (List.rel_append hm (.cons (.same _ rfl) .nil))))

theorem LexemesAlike.membership (m : Membership) {x x' : Node} {ls ms ls' ms' : List Lexeme}
    (hkind : x.kind = x'.kind) (hl : LexemesAlike C ls ls') (hm : LexemesAlike C ms ms') :
    LexemesAlike C (m.lexemes x ls ms) (m.lexemes x' ls' ms') := by
  cases m with
  | never => exact .cons (.same _ rfl) .nil
  | overlap => exact List.rel_append hl (.cons (.same _ rfl) hm)
  | any =>
    have hvalue : LexemesAlike C (if x.kind = .predicate then parenLexemes ls else ls)
        (if x'.kind = .predicate then parenLexemes ls' else ls') := by
      rw [hkind]
      split
      · exact hl.parens
      · exact hl
    exact List.rel_append hvalue (.cons (.same _ rfl) (.cons (.same _ rfl)
      (List.rel_append hm (.cons (.same _ rfl) .nil))))

/-- Predicates of the same structure that are rendered in the same way. -/
structure Node.RenderedAlike (C : String → String → Prop) (n m : Node) : Prop where
  /-- The predicates are alike. -/
  alike : Alike C n m
  /-- The second has no faults if the first has none. -/
  faults : n.render.faults = [] → m.render.faults = []
  /-- Their lexemes are alike. -/
  lexemes : LexemesAlike C n.lexemes m.lexemes

namespace Node.RenderedAlike

theorem all_alike {ns ms : List Node} (h : List.Forall₂ (RenderedAlike C) ns ms) :
    AllAlike C ns ms :=
  allAlike_iff.2 (h.imp fun _ _ hnm => hnm.alike)

theorem all_faults {ns ms : List Node} (h : List.Forall₂ (RenderedAlike C) ns ms)
    (hns : ∀ n ∈ ns, n.render.faults = []) : ∀ m ∈ ms, m.render.faults = [] := by
  induction h with
  | nil => exact hns
  | @cons n m ns ms hnm _ ih =>
    rw [List.forall_mem_cons] at hns ⊢
    exact ⟨hnm.faults hns.1, ih hns.2⟩

theorem all_lexemes {ns ms : List Node} (h : List.Forall₂ (RenderedAlike C) ns ms) :
    List.Forall₂ (LexemesAlike C) (ns.map Node.lexemes) (ms.map Node.lexemes) := by
  rw [List.forall₂_map_left_iff, List.forall₂_map_right_iff]
  exact h.imp fun _ _ hnm => hnm.lexemes

theorem array {s t : String} {es fs : List Node} (h : List.Forall₂ (RenderedAlike C) es fs) :
    RenderedAlike C (.array s es) (.array t fs) where
  alike := all_alike h
  faults hfaults := faults_array_iff.2 (all_faults h (faults_array_iff.1 hfaults))
  lexemes := by
    rw [Node.lexemes, Node.lexemes, lexemesAll_eq, lexemesAll_eq]
    exact .cons (.same _ rfl)
      (List.rel_append (LexemesAlike.join rfl (all_lexemes h)) (.cons (.same _ rfl) .nil))

theorem equality {negate : Bool} {a b c d : Node} (hac : RenderedAlike C a c)
    (hbd : RenderedAlike C b d) :
    RenderedAlike C (.equality negate a b) (.equality negate c d) where
  alike := ⟨rfl, hac.alike, hbd.alike⟩
  faults hfaults := by
    obtain ⟨⟨exchanged, f, hf⟩, ha, hb⟩ := form_of_equality hfaults
    rw [hac.alike.ofEquality_eq hbd.alike] at hf
    rw [render, equalityOf_eq, hf]
    cases exchanged <;>
      simp only [Form.faults_write, hac.faults ha, hbd.faults hb, List.append_nil]
  lexemes := by
    rw [Node.lexemes, Node.lexemes, hac.alike.ofEquality_eq hbd.alike]
    split
    · exact .form _ hac.lexemes hbd.lexemes
    · exact .form _ hbd.lexemes hac.lexemes
    · exact .nil

theorem member {a b c d : Node} (hac : RenderedAlike C a c) (hbd : RenderedAlike C b d) :
    RenderedAlike C (.member a b) (.member c d) where
  alike := ⟨hac.alike, hbd.alike⟩
  faults hfaults := by
    obtain ⟨m, hm, hb, ha⟩ := form_of_member hfaults
    rw [hac.alike.ofNodes_eq hbd.alike] at hm
    rw [render, membershipOf_eq, hm]
    cases m with
    | never => rfl
    | overlap => simp [Membership.write, hac.faults (ha (by simp)), hbd.faults hb]
    | any => simp [Membership.write, hac.faults (ha (by simp)), hbd.faults hb]
  lexemes := by
    rw [Node.lexemes, Node.lexemes, hac.alike.ofNodes_eq hbd.alike]
    split
    · exact .membership _ hac.alike.kind_eq hac.lexemes hbd.lexemes
    · exact .nil

theorem inConjunction {n m : Node} (h : RenderedAlike C n m) :
    LexemesAlike C (if n.needsParens then parenLexemes n.lexemes else n.lexemes)
      (if m.needsParens then parenLexemes m.lexemes else m.lexemes) := by
  rw [h.alike.needsParens_eq]
  split
  · exact h.lexemes.parens
  · exact h.lexemes

theorem conjunction {s t : String} {as bs : List Node}
    (h : List.Forall₂ (RenderedAlike C) as bs) :
    RenderedAlike C (.conjunction s as) (.conjunction t bs) where
  alike := all_alike h
  faults hfaults := faults_conjunction_iff.2 (all_faults h (faults_conjunction_iff.1 hfaults))
  lexemes := by
    match as, bs, h with
    | [], [], _ => exact .cons (.same _ rfl) .nil
    | [a], [b], .cons hab .nil => exact hab.lexemes
    | _ :: _ :: _, _ :: _ :: _, h =>
      rw [lexemes_conjunction_cons_cons, lexemes_conjunction_cons_cons]
      refine LexemesAlike.join rfl ?_
      rw [List.forall₂_map_left_iff, List.forall₂_map_right_iff]
      exact h.imp fun _ _ hnm => hnm.inConjunction

theorem disjunction {s t : String} {as bs : List Node}
    (h : List.Forall₂ (RenderedAlike C) as bs) :
    RenderedAlike C (.disjunction s as) (.disjunction t bs) where
  alike := all_alike h
  faults hfaults := faults_disjunction_iff.2 (all_faults h (faults_disjunction_iff.1 hfaults))
  lexemes := by
    match as, bs, h with
    | [], [], _ => exact .cons (.same _ rfl) .nil
    | [a], [b], .cons hab .nil => exact hab.lexemes
    | _ :: _ :: _, _ :: _ :: _, h =>
      rw [lexemes_disjunction_cons_cons, lexemes_disjunction_cons_cons]
      exact LexemesAlike.join rfl (all_lexemes h)

end Node.RenderedAlike

/-- **Predicates of the same structure are rendered in the same way.** -/
theorem Node.Alike.renderedAlike {n m : Node} (h : Alike C n m) : RenderedAlike C n m := by
  refine h.pairInduct ?boolean ?string ?number ?array ?equality ?member ?conjunction ?disjunction
    ?column
  case boolean =>
    intro b
    exact ⟨rfl, id, .cons (.same _ rfl) .nil⟩
  case string =>
    intro s t
    exact ⟨trivial, fun _ => rfl, .cons (.string s t) .nil⟩
  case number =>
    intro t
    exact ⟨rfl, id, .cons (.number t) .nil⟩
  case array =>
    intro s t es fs hes
    exact .array hes
  case equality =>
    intro negate a b c d hac hbd
    exact .equality hac hbd
  case member =>
    intro a b c d hac hbd
    exact .member hac hbd
  case conjunction =>
    intro s t as bs has
    exact .conjunction has
  case disjunction =>
    intro s t as bs has
    exact .disjunction has
  case column =>
    intro c d type scope hcd
    exact ⟨⟨hcd, rfl, rfl⟩, fun _ => rfl, .cons (.column hcd) .nil⟩

end RowFilter.Sql
