import RowFilter.Sql.Rendering

/-!
# The forms of comparisons

Rendering decides how two operands are written from their kinds, and from which of them is a
literal.  This file takes the decision apart from the writing.  A comparison has one of four forms,
a membership test one of three; whatever is proved about the text, the tree or the meaning of a
predicate is then proved once for each form, not for each pair of kinds.

* `Form.ofKinds`, `comparison_eq` — the form of a comparison of two operands as they stand.
* `Form.ofEquality`, `equalityOf_eq` — that of an equality, which may exchange its operands.
* `Membership.ofNodes`, `membershipOf_eq` — that of a membership test.
* `Node.induct` — induction on predicates, with the hypothesis for all children at once.
-/

set_option autoImplicit false

namespace RowFilter.Sql

/-! ## Texts with faults -/

namespace Rendered

@[simp] theorem text_append (a b : Rendered) : (a ++ b).text = a.text ++ b.text := rfl

@[simp] theorem faults_append (a b : Rendered) : (a ++ b).faults = a.faults ++ b.faults := rfl

@[simp] theorem text_parenthesized (r : Rendered) :
    r.parenthesized.text = "(" ++ r.text ++ ")" := rfl

@[simp] theorem faults_parenthesized (r : Rendered) : r.parenthesized.faults = r.faults := rfl

@[simp] theorem text_joined (separator : String) (rs : List Rendered) :
    (joined separator rs).text = Text.joined separator (rs.map text) := rfl

@[simp] theorem faults_joined (separator : String) (rs : List Rendered) :
    (joined separator rs).faults = rs.flatMap faults := rfl

end Rendered

/-! ## Texts of several predicates -/

namespace Node

theorem renderAll_eq (ns : List Node) : renderAll ns = ns.map render := by
  induction ns with
  | nil => rfl
  | cons n ns ih => rw [renderAll, ih, List.map_cons]

theorem renderConjuncts_eq (ns : List Node) :
    renderConjuncts ns =
      ns.map fun n => if n.needsParens then n.render.parenthesized else n.render := by
  induction ns with
  | nil => rfl
  | cons n ns ih => rw [renderConjuncts, ih, List.map_cons]

theorem render_conjunction_cons_cons (source : String) (c d : Node) (cs : List Node) :
    (conjunction source (c :: d :: cs)).render =
      Rendered.joined " AND " ((c :: d :: cs).map fun n =>
        if n.needsParens then n.render.parenthesized else n.render) := by
  rw [← renderConjuncts_eq, render]
  simp

theorem render_disjunction_cons_cons (source : String) (c d : Node) (cs : List Node) :
    (disjunction source (c :: d :: cs)).render =
      Rendered.joined " OR " ((c :: d :: cs).map render) := by
  rw [← renderAll_eq, render]
  simp

end Node

/-! ## Equality -/

/-- How two operands are compared. -/
inductive Form where
  /-- As they are. -/
  | plain
  /-- With the first one between parentheses. -/
  | firstParens
  /-- With both between parentheses. -/
  | bothParens
  /-- The first one with any element of the second. -/
  | any
deriving Repr, DecidableEq

namespace Form

/-- The form of a comparison, by the kinds of the operands. -/
def ofKinds : Kind → Kind → Option Form
  | .number, .number => some plain
  | .string, .string => some plain
  | .boolean, .boolean => some plain
  | .array, .array => some plain
  | .predicate, .boolean => some firstParens
  | .predicate, .predicate => some bothParens
  | .string, .anyElement => some any
  | .number, .anyElement => some any
  | .boolean, .anyElement => some any
  | _, _ => none

/-- The text of a comparison. -/
def write (f : Form) (negate : Bool) (a b : Rendered) : Rendered :=
  let sign : Rendered := ((" " ++ equalitySign negate ++ " " : String) : Rendered)
  match f with
  | plain => a ++ sign ++ b
  | firstParens => a.parenthesized ++ sign ++ b
  | bothParens => a.parenthesized ++ sign ++ b.parenthesized
  | any => a ++ sign ++ ("ANY(" : Rendered) ++ b ++ (")" : Rendered)

/-- What the form of a comparison says about the operands. -/
def Suits (a b : Kind) : Form → Prop
  | plain => a = b ∧ (a = .number ∨ a = .string ∨ a = .boolean ∨ a = .array)
  | firstParens => a = .predicate ∧ b = .boolean
  | bothParens => a = .predicate ∧ b = .predicate
  | any => (a = .number ∨ a = .string ∨ a = .boolean) ∧ b = .anyElement

theorem suits_of_ofKinds {a b : Kind} {f : Form} (h : ofKinds a b = some f) : f.Suits a b := by
  cases a <;> cases b <;> cases h <;> simp [Suits]

theorem faults_write (f : Form) (negate : Bool) (a b : Rendered) :
    (f.write negate a b).faults = a.faults ++ b.faults := by
  cases f <;> simp [write]

/-- The form of an equality, and whether its operands are exchanged.  A literal is moved behind what
is no literal; apart from that, the operands are exchanged only where they do not compare as they
stand. -/
def ofEquality (left right : Node) : Option (Bool × Form) :=
  let straight := (ofKinds left.kind right.kind).map (false, ·)
  let exchanged := (ofKinds right.kind left.kind).map (true, ·)
  if left.isLiteral && !right.isLiteral then exchanged.or straight else straight.or exchanged

end Form

theorem comparison_eq (negate : Bool) (a b : Operand) :
    comparison negate a b =
      (Form.ofKinds a.node.kind b.node.kind).map fun f =>
        f.write negate a.rendered b.rendered := by
  rw [comparison]
  cases a.node.kind <;> cases b.node.kind <;> rfl

/-- **The text of an equality**, or the fault that its operands cannot be compared. -/
theorem equalityOf_eq (negate : Bool) (left right : Operand) :
    equalityOf negate left right =
      match Form.ofEquality left.node right.node with
      | some (false, f) => f.write negate left.rendered right.rendered
      | some (true, f) => f.write negate right.rendered left.rendered
      | none =>
        { text := "EqualityError",
          faults := [.equality negate left.node.describe right.node.describe] } := by
  rw [equalityOf, Form.ofEquality]
  cases left.node.isLiteral && !right.node.isLiteral with
  | true =>
    simp only [if_true, comparison_eq]
    cases Form.ofKinds right.node.kind left.node.kind <;>
      cases Form.ofKinds left.node.kind right.node.kind <;> rfl
  | false =>
    simp only [Bool.false_eq_true, if_false, comparison_eq]
    cases Form.ofKinds left.node.kind right.node.kind <;>
      cases Form.ofKinds right.node.kind left.node.kind <;> rfl

/-- The operands of an equality suit its form, in the order in which they are written. -/
theorem Form.suits_of_ofEquality {left right : Node} {exchanged : Bool} {f : Form}
    (h : ofEquality left right = some (exchanged, f)) :
    if exchanged then f.Suits right.kind left.kind else f.Suits left.kind right.kind := by
  have key : ∀ o : Option (Bool × Form), o = some (exchanged, f) →
      o = (ofKinds left.kind right.kind).map (false, ·) ∨
        o = (ofKinds right.kind left.kind).map (true, ·) →
      if exchanged then f.Suits right.kind left.kind else f.Suits left.kind right.kind := by
    rintro o ho (rfl | rfl)
    · obtain ⟨g, hg, heq⟩ := Option.map_eq_some_iff.1 ho
      cases heq
      exact suits_of_ofKinds hg
    · obtain ⟨g, hg, heq⟩ := Option.map_eq_some_iff.1 ho
      cases heq
      exact suits_of_ofKinds hg
  refine key _ h ?_
  rw [ofEquality]
  cases left.isLiteral && !right.isLiteral <;>
    cases ofKinds left.kind right.kind <;> cases ofKinds right.kind left.kind <;> simp

/-! ## Membership -/

/-- Only columns are declared. -/
theorem eq_column_of_isDeclaredArray {n : Node} (h : isDeclaredArray n = true) :
    ∃ sql element scope, n = .column sql (.array element) scope := by
  cases n with
  | column sql type scope =>
    cases type with
    | array element => exact ⟨sql, element, scope, rfl⟩
    | _ => cases h
  | _ => cases h

/-- How a membership test is written. -/
inductive Membership where
  /-- As `false`: there is nothing in the collection. -/
  | never
  /-- As an overlap of arrays. -/
  | overlap
  /-- As the equality of a value with any element. -/
  | any
deriving Repr, DecidableEq

namespace Membership

/-- Whether an element is a single value. -/
def isSingle (element : Node) : Bool :=
  element.kind.isScalar && !isDeclaredArray element

/-- The form of a membership test. -/
def ofNodes (element collection : Node) : Option Membership :=
  match collection with
  | .array _ [] => if isDeclaredArray element || isSingle element then some never else none
  | .array _ (_ :: _) =>
    if isDeclaredArray element then some overlap else if isSingle element then some any else none
  | .column _ _ _ => if collection.kind = .array && isSingle element then some any else none
  | _ => none

/-- The text of a value that is compared with any element: a predicate stands between
parentheses. -/
def value (element : Node) (r : Rendered) : Rendered :=
  if element.kind = .predicate then r.parenthesized else r

/-- The text of a membership test. -/
def write (m : Membership) (element : Node) (a b : Rendered) : Rendered :=
  match m with
  | never => "false"
  | overlap => a ++ (" && " : Rendered) ++ b
  | any => value element a ++ (" = ANY(" : Rendered) ++ b ++ (")" : Rendered)

@[simp] theorem faults_value (element : Node) (r : Rendered) :
    (value element r).faults = r.faults := by
  rw [value]
  split <;> rfl

/-- What the form of a membership test says about the element and the collection. -/
def Suits (element collection : Node) : Membership → Prop
  | never => ∃ source, collection = .array source []
  | overlap => isDeclaredArray element = true ∧ ∃ source es, collection = .array source es
  | any => isSingle element = true ∧ collection.kind = .array

theorem suits_of_ofNodes {element collection : Node} {m : Membership}
    (h : ofNodes element collection = some m) : m.Suits element collection := by
  unfold ofNodes at h
  split at h
  · next source =>
    obtain ⟨_, ⟨⟩⟩ := Option.ite_none_right_eq_some.1 h
    exact ⟨source, rfl⟩
  · next source e es =>
    split at h
    · next harray => cases h; exact ⟨harray, source, e :: es, rfl⟩
    · obtain ⟨hsingle, ⟨⟩⟩ := Option.ite_none_right_eq_some.1 h
      exact ⟨hsingle, rfl⟩
  · obtain ⟨hsingle, ⟨⟩⟩ := Option.ite_none_right_eq_some.1 h
    rw [Bool.and_eq_true, decide_eq_true_eq] at hsingle
    exact ⟨hsingle.2, hsingle.1⟩
  · cases h

end Membership

/-- **The text of a membership test**, or the fault that the element cannot be looked up in the
collection. -/
theorem membershipOf_eq (element collection : Operand) :
    membershipOf element collection =
      match Membership.ofNodes element.node collection.node with
      | some m => m.write element.node element.rendered collection.rendered
      | none =>
        { text := "MemberOfError",
          faults := [.membership element.node.describe collection.node.describe] } := by
  have hsingle : (element.node.kind.isScalar && !isDeclaredArray element.node) =
      Membership.isSingle element.node := rfl
  rw [membershipOf, hsingle]
  unfold Membership.ofNodes
  cases collection.node with
  | array source es =>
    cases es <;> cases isDeclaredArray element.node <;> cases Membership.isSingle element.node <;>
      rfl
  | column sql type scope =>
    simp only
    split <;> rfl
  | _ => rfl

/-! ## Induction on predicates -/

namespace Node

/-- Induction on predicates, where the hypothesis holds for all children of a node. -/
@[elab_as_elim]
theorem induct {P : Node → Prop}
    (boolean : ∀ b, P (boolean b)) (string : ∀ s, P (string s)) (number : ∀ t, P (number t))
    (array : ∀ source es, (∀ e ∈ es, P e) → P (array source es))
    (equality : ∀ negate l r, P l → P r → P (equality negate l r))
    (member : ∀ x c, P x → P c → P (member x c))
    (conjunction : ∀ source cs, (∀ c ∈ cs, P c) → P (conjunction source cs))
    (disjunction : ∀ source cs, (∀ c ∈ cs, P c) → P (disjunction source cs))
    (column : ∀ sql type scope, P (column sql type scope)) (n : Node) : P n :=
  @Node.rec P (fun ns => ∀ n ∈ ns, P n) boolean string number array equality member conjunction
    disjunction column (fun _ h => by cases h)
    (fun _ _ hn hns _ hm => by
      rcases List.mem_cons.1 hm with rfl | hm
      · exact hn
      · exact hns _ hm) n

/-! ### Where there are no faults -/

theorem faults_array_iff {source : String} {es : List Node} :
    (array source es).render.faults = [] ↔ ∀ e ∈ es, e.render.faults = [] := by
  simp [render, renderAll_eq]

theorem faults_conjunction_iff {source : String} {cs : List Node} :
    (conjunction source cs).render.faults = [] ↔ ∀ c ∈ cs, c.render.faults = [] := by
  match cs with
  | [] => simp [render]
  | [c] => simp [render]
  | c :: d :: cs =>
    rw [render_conjunction_cons_cons, Rendered.faults_joined, List.flatMap_eq_nil_iff,
      List.forall_mem_map]
    refine forall_congr' fun n => forall_congr' fun _ => ?_
    split <;> rfl

theorem faults_disjunction_iff {source : String} {cs : List Node} :
    (disjunction source cs).render.faults = [] ↔ ∀ c ∈ cs, c.render.faults = [] := by
  match cs with
  | [] => simp [render]
  | [c] => simp [render]
  | c :: d :: cs =>
    rw [render_disjunction_cons_cons, Rendered.faults_joined, List.flatMap_eq_nil_iff,
      List.forall_mem_map]

/-- An equality without faults has a form, and operands without faults. -/
theorem form_of_equality {negate : Bool} {l r : Node}
    (h : (equality negate l r).render.faults = []) :
    (∃ exchanged f, Form.ofEquality l r = some (exchanged, f)) ∧
      l.render.faults = [] ∧ r.render.faults = [] := by
  rw [render, equalityOf_eq] at h
  split at h
  · next f hf =>
    rw [Form.faults_write, List.append_eq_nil_iff] at h
    exact ⟨⟨_, _, hf⟩, h⟩
  · next f hf =>
    rw [Form.faults_write, List.append_eq_nil_iff] at h
    exact ⟨⟨_, _, hf⟩, h.symm⟩
  · cases h

/-- A membership test without faults has a form, and a collection without faults.  The element has
none either, unless the test is written as `false`. -/
theorem form_of_member {x c : Node} (h : (member x c).render.faults = []) :
    ∃ m, Membership.ofNodes x c = some m ∧ c.render.faults = [] ∧
      (m ≠ .never → x.render.faults = []) := by
  rw [render, membershipOf_eq] at h
  split at h
  · next m hm =>
    refine ⟨m, hm, ?_⟩
    cases m with
    | never =>
      obtain ⟨source, rfl⟩ := Membership.suits_of_ofNodes hm
      exact ⟨rfl, fun hne => absurd rfl hne⟩
    | overlap =>
      rw [Membership.write] at h
      simp only [Rendered.faults_append, List.append_eq_nil_iff] at h
      exact ⟨h.2, fun _ => h.1.1⟩
    | any =>
      rw [Membership.write] at h
      simp only [Rendered.faults_append, Membership.faults_value, List.append_eq_nil_iff] at h
      exact ⟨h.1.2, fun _ => h.1.1.1⟩
  · cases h

end Node

end RowFilter.Sql
