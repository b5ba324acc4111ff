import Mathlib.Data.List.Forall2
import RowFilter.Proofs.Sql.Outline

/-!
# The order of operands

Equality is symmetric, so the operands of any equalities of a predicate can be exchanged.  What that
does to the text is said on the text's *wording*: the text with the two sides of every equality kept
apart, each marked with the place of the equality that it comes from.

* Where the order of the sides is settled by what the operands are, exchanging the operands changes
  nothing: a literal goes behind what is none, and any element of an array comes last.
* Everywhere else exchanging the operands exchanges the two sides of the sign.
* An equality without a form stays one, and its fault names the operands in the order given.

Nothing else of the text depends on the order of operands, at any depth: the kind of a predicate,
and so the form of whatever it is an operand of, does not.

* `Node.exchanged` — the predicate with the operands of chosen equalities exchanged.
* `Node.wording`, `Node.rendered_wording` — the wording of a predicate, and its text.
* `Node.render_exchanged` — what becomes of the text and of the faults.
-/

set_option autoImplicit false

namespace RowFilter.Sql

/-- Where a predicate stands within another one: the numbers of the children that lead to it, the
last one first. -/
abbrev Place := List Nat

/-! ## Exchanging operands -/

/-- The fault with its operands exchanged. -/
def Fault.turned : Fault → Fault
  | equality negate left right => equality negate right left
  | membership element collection => membership element collection

namespace Node

mutual

/-- **The predicate with the operands of the chosen equalities exchanged.** -/
def exchanged (chosen : Place → Bool) : Place → Node → Node
  | place, array source elements => array source (exchangedAll chosen place 0 elements)
  | place, equality negate left right =>
    if chosen place then
      equality negate (right.exchanged chosen (1 :: place)) (left.exchanged chosen (0 :: place))
    else
      equality negate (left.exchanged chosen (0 :: place)) (right.exchanged chosen (1 :: place))
  | place, member element collection =>
    member (element.exchanged chosen (0 :: place)) (collection.exchanged chosen (1 :: place))
  | place, conjunction source children => conjunction source (exchangedAll chosen place 0 children)
  | place, disjunction source children => disjunction source (exchangedAll chosen place 0 children)
  | _, boolean value => boolean value
  | _, string value => string value
  | _, number text => number text
  | _, column sql type scope => column sql type scope

/-- The same for the children of a predicate, from the one of the given number on. -/
def exchangedAll (chosen : Place → Bool) : Place → Nat → List Node → List Node
  | _, _, [] => []
  | place, i, n :: ns => n.exchanged chosen (i :: place) :: exchangedAll chosen place (i + 1) ns

end

variable (chosen : Place → Bool) (place : Place)

/-- Whatever decides how a predicate is compared, or is said of it in faults, stays the same. -/
theorem traits_exchanged (n : Node) :
    (n.exchanged chosen place).kind = n.kind ∧
      (n.exchanged chosen place).isLiteral = n.isLiteral ∧
      (n.exchanged chosen place).describe = n.describe ∧
      isDeclaredArray (n.exchanged chosen place) = isDeclaredArray n := by
  cases n with
  | equality negate l r =>
    rw [exchanged]
    split <;> exact ⟨rfl, rfl, rfl, rfl⟩
  | _ => exact ⟨rfl, rfl, rfl, rfl⟩

@[simp] theorem kind_exchanged (n : Node) : (n.exchanged chosen place).kind = n.kind :=
  (n.traits_exchanged chosen place).1

@[simp] theorem isLiteral_exchanged (n : Node) :
    (n.exchanged chosen place).isLiteral = n.isLiteral :=
  (n.traits_exchanged chosen place).2.1

@[simp] theorem describe_exchanged (n : Node) :
    (n.exchanged chosen place).describe = n.describe :=
  (n.traits_exchanged chosen place).2.2.1

@[simp] theorem isDeclaredArray_exchanged (n : Node) :
    isDeclaredArray (n.exchanged chosen place) = isDeclaredArray n :=
  (n.traits_exchanged chosen place).2.2.2

theorem needsParens_exchanged (n : Node) :
    (n.exchanged chosen place).needsParens = n.needsParens := by
  induction n using Node.induct generalizing place with
  | equality negate l r _ _ => rw [exchanged]; split <;> rfl
  | conjunction source cs ih =>
    rcases cs with _ | ⟨c, _ | ⟨d, cs⟩⟩
    · rfl
    · exact ih c List.mem_cons_self _
    · rfl
  | disjunction source cs ih =>
    rcases cs with _ | ⟨c, _ | ⟨d, cs⟩⟩
    · rfl
    · exact ih c List.mem_cons_self _
    · rfl
  | _ => rfl

theorem ofNodes_exchanged (x c : Node) (place' : Place) :
    Membership.ofNodes (x.exchanged chosen place) (c.exchanged chosen place') =
      Membership.ofNodes x c := by
  have hsingle : Membership.isSingle (x.exchanged chosen place) = Membership.isSingle x := by
    simp only [Membership.isSingle, kind_exchanged, isDeclaredArray_exchanged]
  cases c with
  | array source es =>
    cases es <;>
      simp only [exchanged, exchangedAll, Membership.ofNodes, isDeclaredArray_exchanged, hsingle]
  | equality negate l r =>
    rw [exchanged]
    split <;> rfl
  | column sql type scope =>
    simp only [exchanged, Membership.ofNodes, hsingle]
    rfl
  | _ => rfl

end Node

/-! ## Wordings -/

/-- A text in which the two sides of every equality are kept apart. -/
inductive Wording where
  /-- A text. -/
  | word (text : String)
  /-- The placeholder of a fault of the predicate at the given place. -/
  | placeholder (place : Place) (fault : Fault)
  /-- The equality at the given place, by its two sides; `settled` says that their order does not
  depend on the order of the operands. -/
  | sides (place : Place) (settled negate : Bool) (first second : Wording)
  /-- A wording between two texts. -/
  | enclosed (before : String) (inside : Wording) (after : String)
  /-- Wordings with a text between each two. -/
  | joined (separator : String) (parts : List Wording)

namespace Wording

/-- Induction on wordings, where the hypothesis holds for all parts. -/
@[elab_as_elim]
theorem induct {P : Wording → Prop} (word : ∀ text, P (word text))
    (placeholder : ∀ place fault, P (placeholder place fault))
    (sides : ∀ place settled negate a b, P a → P b → P (sides place settled negate a b))
    (enclosed : ∀ before p after, P p → P (enclosed before p after))
    (joined : ∀ separator ps, (∀ p ∈ ps, P p) → P (joined separator ps)) (p : Wording) : P p :=
  @Wording.rec P (fun ps => ∀ p ∈ ps, P p) word placeholder sides enclosed joined
    (fun _ h => by cases h) (fun _ _ hp hps => List.forall_mem_cons.2 ⟨hp, hps⟩) p

mutual

/-- The text of a wording, and its faults. -/
def rendered : Wording → Rendered
  | word text => text
  | placeholder _ fault => { text := fault.placeholder, faults := [fault] }
  | sides _ _ negate first second =>
    first.rendered ++ ((" " ++ equalitySign negate ++ " " : String) : Rendered) ++ second.rendered
  | enclosed before inside after => (before : Rendered) ++ inside.rendered ++ (after : Rendered)
  | joined separator parts => Rendered.joined separator (renderedAll parts)

/-- The texts of wordings. -/
def renderedAll : List Wording → List Rendered
  | [] => []
  | p :: ps => p.rendered :: renderedAll ps

end

mutual

/-- **The wording with the sides of the chosen equalities exchanged**, unless their order is
settled. -/
def exchanged (chosen : Place → Bool) : Wording → Wording
  | word text => word text
  | placeholder place fault => placeholder place (if chosen place then fault.turned else fault)
  | sides place settled negate first second =>
    if chosen place && !settled then
      sides place settled negate (second.exchanged chosen) (first.exchanged chosen)
    else sides place settled negate (first.exchanged chosen) (second.exchanged chosen)
  | enclosed before inside after => enclosed before (inside.exchanged chosen) after
  | joined separator parts => joined separator (exchangedAll chosen parts)

/-- The same for several wordings. -/
def exchangedAll (chosen : Place → Bool) : List Wording → List Wording
  | [] => []
  | p :: ps => p.exchanged chosen :: exchangedAll chosen ps

end

theorem renderedAll_eq (ps : List Wording) : renderedAll ps = ps.map rendered := by
  induction ps with
  | nil => rfl
  | cons p ps ih => rw [renderedAll, ih, List.map_cons]

theorem exchangedAll_eq (chosen : Place → Bool) (ps : List Wording) :
    exchangedAll chosen ps = ps.map (exchanged chosen) := by
  induction ps with
  | nil => rfl
  | cons p ps ih => rw [exchangedAll, ih, List.map_cons]

/-- The wording between parentheses, if it has to be. -/
def parenthesized (parens : Bool) (p : Wording) : Wording :=
  if parens then enclosed "(" p ")" else p

theorem rendered_parenthesized (parens : Bool) (p : Wording) :
    (parenthesized parens p).rendered =
      if parens then p.rendered.parenthesized else p.rendered := by
  cases parens with
  | false => rfl
  | true => exact (Rendered.parenthesized_eq p.rendered).symm

theorem exchanged_parenthesized (chosen : Place → Bool) (parens : Bool) (p : Wording) :
    (parenthesized parens p).exchanged chosen = parenthesized parens (p.exchanged chosen) := by
  cases parens <;> rfl

end Wording

/-! ## The wording of a predicate -/

namespace Form

/-- The first side of a comparison. -/
def first (f : Form) (p : Wording) : Wording :=
  Wording.parenthesized (f = firstParens || f = bothParens) p

/-- The second side of a comparison. -/
def second (f : Form) (p : Wording) : Wording :=
  if f = any then .enclosed "ANY(" p ")" else Wording.parenthesized (f = bothParens) p

/-- Whether the order of the sides is settled by what the operands are: one of them is a literal and
the other is not, or one of them is any element of an array. -/
def isSettled (left right : Node) : Bool :=
  left.isLiteral != right.isLiteral || left.kind = .anyElement || right.kind = .anyElement

end Form

/-- The wording of an equality, given those of its operands. -/
def Wording.ofEquality (place : Place) (negate : Bool) (left right : Node) (p q : Wording) :
    Wording :=
  match Form.ofEquality left right with
  | some (false, f) => .sides place (Form.isSettled left right) negate (f.first p) (f.second q)
  | some (true, f) => .sides place (Form.isSettled left right) negate (f.first q) (f.second p)
  | none => .placeholder place (.equality negate left.describe right.describe)

/-- The wording of a membership test, given those of the element and of the collection. -/
def Wording.ofMember (place : Place) (element collection : Node) (p q : Wording) : Wording :=
  match Membership.ofNodes element collection with
  | some .never => .word "false"
  | some .overlap => .joined " && " [p, q]
  | some .any =>
    .enclosed "" (.joined " = ANY(" [parenthesized (element.kind = .predicate) p, q]) ")"
  | none => .placeholder place (.membership element.describe collection.describe)

namespace Node

mutual

/-- **The wording of a predicate** at the given place. -/
def wording : Place → Node → Wording
  | _, boolean true => .word "true"
  | _, boolean false => .word "false"
  | _, string value => .word (literal value)
  | _, number text => .word text
  | place, array _ elements => .enclosed "ARRAY[" (.joined ", " (wordings place 0 elements)) "]"
  | place, equality negate left right =>
    .ofEquality place negate left right (left.wording (0 :: place)) (right.wording (1 :: place))
  | place, member element collection =>
    .ofMember place element collection (element.wording (0 :: place))
      (collection.wording (1 :: place))
  | _, conjunction _ [] => .word "true"
  | place, conjunction _ [only] => only.wording (0 :: place)
  | place, conjunction _ (c :: cs) => .joined " AND " (conjunctWordings place 0 (c :: cs))
  | _, disjunction _ [] => .word "false"
  | place, disjunction _ [only] => only.wording (0 :: place)
  | place, disjunction _ (c :: cs) => .joined " OR " (wordings place 0 (c :: cs))
  | _, column sql _ _ => .word sql

/-- The wordings of the children of a predicate, from the one of the given number on. -/
def wordings : Place → Nat → List Node → List Wording
  | _, _, [] => []
  | place, i, n :: ns => n.wording (i :: place) :: wordings place (i + 1) ns

/-- The wordings of the children of a conjunction, from the one of the given number on. -/
def conjunctWordings : Place → Nat → List Node → List Wording
  | _, _, [] => []
  | place, i, n :: ns =>
    Wording.parenthesized n.needsParens (n.wording (i :: place)) ::
      conjunctWordings place (i + 1) ns

end

end Node

/-! ## Settled orders -/

namespace Form

/-- Operands that compare in both orders are of one kind, and both orders have one form, in which
both sides are written alike. -/
theorem ofKinds_both {a b : Kind} {f g : Form} (hf : ofKinds a b = some f)
    (hg : ofKinds b a = some g) : f = g ∧ (f = plain ∨ f = bothParens) := by
  cases a <;> cases b <;> cases hf <;> cases hg <;> simp

theorem isLiteral_of_kind {n : Node} :
    (n.kind = .boolean → n.isLiteral = true) ∧ (n.kind = .predicate → n.isLiteral = false) := by
  cases n with
  | column sql type scope => cases scope <;> cases type <;> simp [Node.kind, Kind.ofType,
      Node.isLiteral]
  | _ => simp [Node.kind, Node.isLiteral]

theorem isSettled_comm (l r : Node) : isSettled l r = isSettled r l := by
  have hne : (l.isLiteral != r.isLiteral) = (r.isLiteral != l.isLiteral) := bne_comm
  rw [isSettled, isSettled, hne, Bool.or_right_comm]

/-- Operands that compare in one order only have a settled order. -/
theorem isSettled_of_ofKinds {l r : Node} {f : Form} (hf : ofKinds l.kind r.kind = some f)
    (hnone : ofKinds r.kind l.kind = none) : isSettled l r = true := by
  have hsuits := suits_of_ofKinds hf
  cases f with
  | plain =>
    rw [hsuits.1] at hf hnone
    cases hnone.symm.trans hf
  | firstParens =>
    have hl := isLiteral_of_kind.2 hsuits.1
    have hr := isLiteral_of_kind.1 hsuits.2
    simp [isSettled, hl, hr]
  | bothParens =>
    rw [hsuits.1, hsuits.2] at hf hnone
    cases hnone.symm.trans hf
  | any => simp [isSettled, hsuits.2]

/-- Operands that compare in one order only are written in that order. -/
theorem ofEquality_of_one {l r : Node} {f : Form} (hf : ofKinds l.kind r.kind = some f)
    (hnone : ofKinds r.kind l.kind = none) :
    ofEquality l r = some (false, f) ∧ ofEquality r l = some (true, f) := by
  simp [ofEquality, hf, hnone]

/-- Operands that compare in both orders are written as they stand, except that a literal is moved
behind what is no literal. -/
theorem ofEquality_of_both {l r : Node} {f : Form} (hf : ofKinds l.kind r.kind = some f)
    (hg : ofKinds r.kind l.kind = some f) :
    ofEquality l r = some (l.isLiteral && !r.isLiteral, f) := by
  cases hswap : l.isLiteral && !r.isLiteral <;> simp [ofEquality, hf, hg, hswap]

theorem isSettled_of_both {l r : Node} {f g : Form} (hf : ofKinds l.kind r.kind = some f)
    (hg : ofKinds r.kind l.kind = some g) : isSettled l r = (l.isLiteral != r.isLiteral) := by
  have hl : l.kind ≠ .anyElement := fun h => by rw [h] at hf; cases hf
  have hr : r.kind ≠ .anyElement := fun h => by rw [h] at hg; cases hg
  simp [isSettled, hl, hr]

/-- **The order of the sides when the operands are exchanged.**  If it is settled then the operands
are put back into it.  If it is not, then they are written as they stand in either order, and alike
on both sides. -/
theorem ofEquality_comm (l r : Node) :
    (isSettled l r = true →
      ofEquality r l = (ofEquality l r).map fun form => (!form.1, form.2)) ∧
    (isSettled l r = false → ofEquality r l = ofEquality l r ∧
      ∀ exchanged f, ofEquality l r = some (exchanged, f) →
        exchanged = false ∧ (f = plain ∨ f = bothParens)) := by
  cases hlr : ofKinds l.kind r.kind with
  | none =>
    cases hrl : ofKinds r.kind l.kind with
    | none => simp [ofEquality, hlr, hrl]
    | some g =>
      obtain ⟨hstraight, hexchanged⟩ := ofEquality_of_one hrl hlr
      have hsettled := isSettled_of_ofKinds hrl hlr
      rw [isSettled_comm] at hsettled
      simp [hstraight, hexchanged, hsettled]
  | some f =>
    cases hrl : ofKinds r.kind l.kind with
    | none =>
      obtain ⟨hstraight, hexchanged⟩ := ofEquality_of_one hlr hrl
      simp [hstraight, hexchanged, isSettled_of_ofKinds hlr hrl]
    | some g =>
      obtain ⟨rfl, halike⟩ := ofKinds_both hlr hrl
      rw [isSettled_of_both hlr hrl, ofEquality_of_both hlr hrl, ofEquality_of_both hrl hlr]
      cases l.isLiteral <;> cases r.isLiteral <;> simp [halike]

theorem first_eq_second {f : Form} (h : f = plain ∨ f = bothParens) (p : Wording) :
    f.first p = f.second p := by
  rcases h with rfl | rfl <;> rfl

theorem exchanged_first (f : Form) (chosen : Place → Bool) (p : Wording) :
    (f.first p).exchanged chosen = f.first (p.exchanged chosen) :=
  Wording.exchanged_parenthesized chosen _ p

theorem exchanged_second (f : Form) (chosen : Place → Bool) (p : Wording) :
    (f.second p).exchanged chosen = f.second (p.exchanged chosen) := by
  cases f <;> rfl

theorem rendered_sides (f : Form) (place : Place) (settled negate : Bool) (p q : Wording) :
    (Wording.sides place settled negate (f.first p) (f.second q)).rendered =
      f.write negate p.rendered q.rendered := by
  cases f <;>
    simp [Wording.rendered, first, second, write, Wording.parenthesized, Rendered.parenthesized_eq,
      Rendered.append_assoc]

end Form

/-! ## What becomes of a wording -/

namespace Wording

variable {chosen : Place → Bool} {place : Place} {negate : Bool} {l r x c : Node} {p q : Wording}

theorem rendered_ofEquality (hp : p.rendered = l.render) (hq : q.rendered = r.render) :
    (ofEquality place negate l r p q).rendered = (Node.equality negate l r).render := by
  rw [ofEquality, Node.render, equalityOf_eq]
  cases Form.ofEquality l r with
  | none => rfl
  | some form =>
    obtain ⟨_ | _, f⟩ := form
    · exact (f.rendered_sides ..).trans (by rw [hp, hq])
    · exact (f.rendered_sides ..).trans (by rw [hp, hq])

theorem rendered_ofMember (hp : p.rendered = x.render) (hq : q.rendered = c.render) :
    (ofMember place x c p q).rendered = (Node.member x c).render := by
  rw [ofMember, Node.render, membershipOf_eq]
  cases Membership.ofNodes x c with
  | none => rfl
  | some m =>
    cases m with
    | never => rfl
    | overlap =>
      simp [rendered, renderedAll, Membership.write, Rendered.joined_cons_cons,
        Rendered.joined_singleton, hp, hq]
    | any =>
      simp [rendered, renderedAll, Membership.write, Membership.value, Rendered.joined_cons_cons,
        Rendered.joined_singleton, rendered_parenthesized, Rendered.append_assoc, hp, hq]

/-- Where an equality is not chosen, only its operands change. -/
theorem exchanged_ofEquality_of_not (h : chosen place = false) :
    (ofEquality place negate l r p q).exchanged chosen =
      ofEquality place negate l r (p.exchanged chosen) (q.exchanged chosen) := by
  rw [ofEquality, ofEquality]
  cases Form.ofEquality l r with
  | none => simp [exchanged, h]
  | some form =>
    obtain ⟨_ | _, f⟩ := form <;>
      simp [exchanged, h, f.exchanged_first, f.exchanged_second]

/-- **Where an equality is chosen, its wording is that of the exchanged operands.** -/
theorem exchanged_ofEquality (h : chosen place = true) :
    (ofEquality place negate l r p q).exchanged chosen =
      ofEquality place negate r l (q.exchanged chosen) (p.exchanged chosen) := by
  obtain ⟨hsettled, hfree⟩ := Form.ofEquality_comm l r
  rw [ofEquality, ofEquality, Form.isSettled_comm r l]
  cases his : Form.isSettled l r with
  | true =>
    rw [hsettled his]
    cases Form.ofEquality l r with
    | none => simp [exchanged, h, Fault.turned]
    | some form =>
      obtain ⟨_ | _, f⟩ := form <;>
        simp [exchanged, h, f.exchanged_first, f.exchanged_second]
  | false =>
    obtain ⟨hcomm, halike⟩ := hfree his
    rw [hcomm]
    cases hform : Form.ofEquality l r with
    | none => simp [exchanged, h, Fault.turned]
    | some form =>
      obtain ⟨exchanges, f⟩ := form
      obtain ⟨rfl, hf⟩ := halike exchanges f hform
      simp [exchanged, h, f.exchanged_second, Form.first_eq_second hf]

theorem exchanged_ofMember :
    (ofMember place x c p q).exchanged chosen =
      ofMember place x c (p.exchanged chosen) (q.exchanged chosen) := by
  rw [ofMember, ofMember]
  cases Membership.ofNodes x c with
  | none => simp [exchanged, Fault.turned]
  | some m => cases m <;> simp [exchanged, exchangedAll, exchanged_parenthesized]

end Wording

namespace Node

variable {chosen : Place → Bool}

section Children

variable {ns : List Node} (h : ∀ n ∈ ns, ∀ place,
  ((n.wording place).exchanged chosen).rendered = (n.exchanged chosen place).render)

include h

theorem renderedAll_wordings (place : Place) (i : Nat) :
    Wording.renderedAll (Wording.exchangedAll chosen (wordings place i ns)) =
      renderAll (exchangedAll chosen place i ns) := by
  induction ns generalizing i with
  | nil => rfl
  | cons n ns ih =>
    rw [List.forall_mem_cons] at h
    rw [wordings, Wording.exchangedAll, Wording.renderedAll, h.1, ih h.2, exchangedAll, renderAll]

theorem renderedAll_conjunctWordings (place : Place) (i : Nat) :
    Wording.renderedAll (Wording.exchangedAll chosen (conjunctWordings place i ns)) =
      renderConjuncts (exchangedAll chosen place i ns) := by
  induction ns generalizing i with
  | nil => rfl
  | cons n ns ih =>
    rw [List.forall_mem_cons] at h
    rw [conjunctWordings, Wording.exchangedAll, Wording.renderedAll, ih h.2, exchangedAll,
      renderConjuncts, needsParens_exchanged, Wording.exchanged_parenthesized,
      Wording.rendered_parenthesized, h.1]

end Children

/-- **Exchanging operands of a predicate exchanges the sides of its wording**, by induction on the
predicate: an operand of an equality keeps whatever decides about the form of the equality. -/
theorem rendered_exchanged (n : Node) (place : Place) :
    ((n.wording place).exchanged chosen).rendered = (n.exchanged chosen place).render := by
  induction n using Node.induct generalizing place with
  | boolean b => cases b <;> rfl
  | string value => rfl
  | number text => rfl
  | array source es ih =>
    rw [wording, Wording.exchanged, Wording.exchanged, Wording.rendered, Wording.rendered,
      renderedAll_wordings ih, exchanged, render]
  | equality negate l r ihl ihr =>
    have hcongr (l r : Node) (i j : Place) (p q : Wording) :
        Wording.ofEquality place negate (l.exchanged chosen i) (r.exchanged chosen j) p q =
          Wording.ofEquality place negate l r p q := by
      simp [Wording.ofEquality, Form.ofEquality, Form.isSettled]
    rw [wording, exchanged]
    cases hchosen : chosen place with
    | false =>
      rw [Wording.exchanged_ofEquality_of_not hchosen, ← hcongr l r (0 :: place) (1 :: place)]
      exact Wording.rendered_ofEquality (ihl _) (ihr _)
    | true =>
      rw [Wording.exchanged_ofEquality hchosen, ← hcongr r l (1 :: place) (0 :: place)]
      exact Wording.rendered_ofEquality (ihr _) (ihl _)
  | member x c ihx ihc =>
    have hcongr (p q : Wording) :
        Wording.ofMember place (x.exchanged chosen (0 :: place)) (c.exchanged chosen (1 :: place))
          p q = Wording.ofMember place x c p q := by
      simp [Wording.ofMember, ofNodes_exchanged]
    rw [wording, exchanged, Wording.exchanged_ofMember, ← hcongr]
    exact Wording.rendered_ofMember (ihx _) (ihc _)
  | conjunction source cs ih =>
    rcases cs with _ | ⟨c, _ | ⟨d, cs⟩⟩
    · rfl
    · exact ih c List.mem_cons_self _
    · exact congrArg (Rendered.joined " AND ") (renderedAll_conjunctWordings ih place 0)
  | disjunction source cs ih =>
    rcases cs with _ | ⟨c, _ | ⟨d, cs⟩⟩
    · rfl
    · exact ih c List.mem_cons_self _
    · exact congrArg (Rendered.joined " OR ") (renderedAll_wordings ih place 0)
  | column sql type scope => rfl

theorem exchangedAll_none {ns : List Node}
    (h : ∀ n ∈ ns, ∀ place, n.exchanged (fun _ => false) place = n) (place : Place) (i : Nat) :
    exchangedAll (fun _ => false) place i ns = ns := by
  induction ns generalizing i with
  | nil => rfl
  | cons n ns ih =>
    rw [List.forall_mem_cons] at h
    rw [exchangedAll, h.1, ih h.2]

theorem exchanged_none (n : Node) (place : Place) : n.exchanged (fun _ => false) place = n := by
  induction n using Node.induct generalizing place with
  | array source es ih => rw [exchanged, exchangedAll_none ih]
  | equality negate l r ihl ihr =>
    rw [exchanged, ihl, ihr]
    rfl
  | member x c ihx ihc => rw [exchanged, ihx, ihc]
  | conjunction source cs ih => rw [exchanged, exchangedAll_none ih]
  | disjunction source cs ih => rw [exchanged, exchangedAll_none ih]
  | _ => rfl

end Node

namespace Wording

theorem exchanged_none (p : Wording) : p.exchanged (fun _ => false) = p := by
  induction p using Wording.induct with
  | word text => rfl
  | placeholder place fault => rfl
  | sides place settled negate a b iha ihb => simp [exchanged, iha, ihb]
  | enclosed before p after ih => rw [exchanged, ih]
  | joined separator ps ih =>
    rw [exchanged, exchangedAll_eq, List.map_congr_left ih, List.map_id']

end Wording

/-- **The text of a predicate is that of its wording.** -/
theorem Node.rendered_wording (n : Node) (place : Place) :
    (n.wording place).rendered = n.render := by
  rw [← (n.wording place).exchanged_none, rendered_exchanged, exchanged_none]

/-! ## Faults -/

/-- The same faults, up to their order and to the order of their operands. -/
def SameFaults (fs gs : List Fault) : Prop :=
  ∃ hs, List.Forall₂ (fun f h => h = f ∨ h = f.turned) fs hs ∧ hs.Perm gs

namespace SameFaults

variable {fs fs' gs gs' : List Fault}

theorem nil : SameFaults [] [] := ⟨[], .nil, .nil⟩

theorem append (h : SameFaults fs gs) (h' : SameFaults fs' gs') :
    SameFaults (fs ++ fs') (gs ++ gs') := by
  obtain ⟨hs, hforall, hperm⟩ := h
  obtain ⟨hs', hforall', hperm'⟩ := h'
  exact ⟨hs ++ hs', List.rel_append hforall hforall', hperm.append hperm'⟩

theorem append_comm (h : SameFaults fs gs) (h' : SameFaults fs' gs') :
    SameFaults (fs ++ fs') (gs' ++ gs) := by
  obtain ⟨hs, hforall, hperm⟩ := h.append h'
  exact ⟨hs, hforall, hperm.trans List.perm_append_comm⟩

theorem length_eq (h : SameFaults fs gs) : fs.length = gs.length := by
  obtain ⟨hs, hforall, hperm⟩ := h
  exact hforall.length_eq.trans hperm.length_eq

end SameFaults

/-- **Exchanging sides keeps the faults**, up to their order and that of their operands. -/
theorem Wording.sameFaults_exchanged (chosen : Place → Bool) (p : Wording) :
    SameFaults p.rendered.faults (p.exchanged chosen).rendered.faults := by
  induction p using Wording.induct with
  | word text => exact .nil
  | placeholder place fault =>
    refine ⟨_, .cons ?_ .nil, .refl _⟩
    split
    · exact .inr rfl
    · exact .inl rfl
  | sides place settled negate a b iha ihb =>
    have hfaults (a b : Wording) (settled : Bool) :
        (sides place settled negate a b).rendered.faults =
          a.rendered.faults ++ b.rendered.faults := by
      simp [rendered]
    rw [exchanged]
    split
    · rw [hfaults, hfaults]
      exact iha.append_comm ihb
    · rw [hfaults, hfaults]
      exact iha.append ihb
  | enclosed before p after ih => simpa [exchanged, rendered] using ih
  | joined separator ps ih =>
    simp only [exchanged, rendered, exchangedAll_eq, renderedAll_eq, Rendered.faults_joined]
    induction ps with
    | nil => exact .nil
    | cons p ps ihps =>
      rw [List.forall_mem_cons] at ih
      simpa using ih.1.append (ihps ih.2)

/-! ## The order of operands does not matter -/

/-- Where the order of the sides is settled, an equality has one text. -/
theorem Form.text_comm {l r : Node} (h : isSettled l r = true) (negate : Bool) :
    (Node.equality negate l r).render.text = (Node.equality negate r l).render.text := by
  rw [Node.render, Node.render, equalityOf_eq, equalityOf_eq, (ofEquality_comm l r).1 h]
  cases Form.ofEquality l r with
  | none => rfl
  | some form => obtain ⟨_ | _, f⟩ := form <;> rfl

/-- **Equality does not depend on the order of its operands, anywhere in a predicate.**  Exchanging
the operands of chosen equalities exchanges the sides of their signs in the text, and turns their
faults, and changes nothing else; so there are as many faults as before, and they are the same up to
their order and that of their operands.  If one operand of an equality is a literal and the other is
not, or if one of them is any element of an array, then the text of the equality is the same in
either order. -/
theorem Node.render_exchanged (n : Node) (chosen : Place → Bool) :
    (n.wording []).rendered = n.render ∧
    (n.exchanged chosen []).render = ((n.wording []).exchanged chosen).rendered ∧
    n.render.faults.length = (n.exchanged chosen []).render.faults.length ∧
    (∃ turned, List.Forall₂ (fun f g => g = f ∨ g = f.turned) n.render.faults turned ∧
      turned.Perm (n.exchanged chosen []).render.faults) ∧
    ∀ (negate : Bool) (l r : Node),
      (l.isLiteral ≠ r.isLiteral ∨ l.kind = .anyElement ∨ r.kind = .anyElement) →
        (equality negate l r).render.text = (equality negate r l).render.text := by
  have hfaults : SameFaults n.render.faults (n.exchanged chosen []).render.faults := by
    rw [← n.rendered_wording [], ← rendered_exchanged]
    exact (n.wording []).sameFaults_exchanged chosen
  refine ⟨n.rendered_wording [], (n.rendered_exchanged []).symm, hfaults.length_eq, hfaults,
    fun negate l r h => Form.text_comm ?_ negate⟩
  simpa [Form.isSettled, or_assoc] using h

/-- Two names that are both compared with each other and with a literal. -/
def Node.twoNames : Node :=
  let name : Node := .column "name" .string .whole
  let label : Node := .column "label" .string .whole
  .conjunction "" [.equality false name (.string "a"), .equality true name label]

/-- With the operands of all equalities exchanged, only the names change their order; and a literal
goes behind a name in either order. -/
theorem Node.render_exchanged_names :
    twoNames.render.text = "name = 'a' AND name != label" ∧
    (twoNames.exchanged (fun _ => true) []).render.text = "name = 'a' AND label != name" ∧
    (Node.string "a").isLiteral ≠ (Node.column "name" .string .whole).isLiteral ∧
    (equality false (.string "a") (.column "name" .string .whole)).render.text =
      (equality false (.column "name" .string .whole) (.string "a")).render.text := by
  obtain ⟨hwording, hexchanged, -, -, hsettled⟩ := render_exchanged twoNames fun _ => true
  have hliteral : (Node.string "a").isLiteral ≠ (Node.column "name" .string .whole).isLiteral := by
    decide
  refine ⟨?_, ?_, hliteral, hsettled false _ _ (.inl hliteral)⟩
  · rw [← hwording]
    rfl
  · rw [hexchanged]
    rfl

end RowFilter.Sql
