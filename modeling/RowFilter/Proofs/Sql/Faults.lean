import RowFilter.Proofs.Sql.Outline

/-!
# Faults

The faults of a predicate are those of the predicates rendered on the way.  Each of these has at
most one: an equality whose operands compare in neither order, or a membership test without a form.
A predicate with a fault of its own is a placeholder from end to end, so that nothing below it is
rendered.

Rendering can also be done in one walk that carries along the faults found so far.  It tries the
operands of an equality in one order, then in the other, and notes a fault where both attempts fail.
Whatever was found before, it writes the same text and adds the same faults.

* `Node.fault?`, `Node.faults_render` — the faults, predicate by predicate.
* `Node.renderInto`, `Node.writes_renderInto` — rendering in one walk.
-/

set_option autoImplicit false

namespace RowFilter.Sql

/-! ## Where a pair of operands has no form -/

theorem Node.compare?_eq_none {negate : Bool} {this other : Node} :
    this.compare? negate other = none ↔ Form.ofKinds this.kind other.kind = none := by
  rw [Node.compare?, comparison_eq, Option.map_eq_none_iff]
  rfl

theorem Form.ofEquality_eq_none {left right : Node} :
    ofEquality left right = none ↔
      ofKinds left.kind right.kind = none ∧ ofKinds right.kind left.kind = none := by
  rw [ofEquality]
  cases left.isLiteral && !right.isLiteral <;> simp [and_comm]

namespace Node

/-- The fault of a predicate itself, operands in the order in which they were given. -/
def fault? : Node → Option Fault
  | equality negate left right =>
    if (left.compare? negate right).isNone && (right.compare? negate left).isNone then
      some (.equality negate left.describe right.describe)
    else none
  | member element collection =>
    if (Membership.ofNodes element collection).isNone then
      some (.membership element.describe collection.describe)
    else none
  | _ => none

theorem fault?_equality (negate : Bool) (l r : Node) :
    (equality negate l r).fault? =
      match Form.ofEquality l r with
      | some _ => none
      | none => some (.equality negate l.describe r.describe) := by
  have hiff : ((l.compare? negate r).isNone && (r.compare? negate l).isNone) = true ↔
      Form.ofEquality l r = none := by
    rw [Form.ofEquality_eq_none, Bool.and_eq_true, Option.isNone_iff_eq_none,
      Option.isNone_iff_eq_none, compare?_eq_none, compare?_eq_none]
  rw [fault?]
  cases hform : Form.ofEquality l r with
  | none => rw [if_pos (hiff.2 hform)]
  | some form =>
    rw [if_neg]
    intro h
    cases hform.symm.trans (hiff.1 h)

theorem fault?_member (x c : Node) :
    (member x c).fault? =
      match Membership.ofNodes x c with
      | some _ => none
      | none => some (.membership x.describe c.describe) := by
  rw [fault?]
  cases Membership.ofNodes x c <;> rfl

/-- A predicate with a fault of its own is a placeholder and nothing else. -/
theorem outline_of_fault {n : Node} {f : Fault} (h : n.fault? = some f) :
    n.outline = [.chunk (.placeholder f)] := by
  cases n with
  | equality negate l r =>
    rw [fault?_equality] at h
    rw [outline]
    cases hform : Form.ofEquality l r with
    | none => rw [hform] at h; cases h; rfl
    | some form => rw [hform] at h; cases h
  | member x c =>
    rw [fault?_member] at h
    rw [outline]
    cases hform : Membership.ofNodes x c with
    | none => rw [hform] at h; cases h; rfl
    | some m => rw [hform] at h; cases h
  | _ => cases h

end Node

/-! ## Faults, predicate by predicate -/

/-- The fault of an item itself. -/
def Item.fault? : Item → Option Fault
  | chunk c => c.fault?
  | operand _ => none

/-- Whether none of the items is a placeholder. -/
def Item.arePlain (items : List Item) : Bool :=
  items.all fun i => i.fault?.isNone

namespace Item

@[simp] theorem arePlain_nil : arePlain [] = true := rfl

@[simp] theorem arePlain_cons (i : Item) (is : List Item) :
    arePlain (i :: is) = (i.fault?.isNone && arePlain is) := rfl

@[simp] theorem arePlain_append (is js : List Item) :
    arePlain (is ++ js) = (arePlain is && arePlain js) := List.all_append

@[simp] theorem isNone_fault?_operand (n : Node) : (operand n).fault?.isNone = true := rfl

@[simp] theorem isNone_fault?_text (s : String) : (chunk (.text s)).fault?.isNone = true := rfl

@[simp] theorem arePlain_enclosed (parens : Bool) (n : Node) :
    arePlain (enclosed parens n) = true := by
  cases parens <;> rfl

theorem arePlain_separated (separator : String) {f : Node → List Item}
    (hf : ∀ n, arePlain (f n) = true) (ns : List Node) :
    arePlain (separated separator (ns.map f)) = true := by
  induction ns with
  | nil => rfl
  | cons n rest ih =>
    cases rest with
    | nil => exact hf n
    | cons next rest =>
      rw [List.map_cons, List.map_cons, separated_cons_cons, ← List.map_cons, arePlain_append,
        arePlain_cons, hf, ih]
      rfl

/-- Plain items have the faults of their operands. -/
theorem faults_written {items : List Item} (h : arePlain items = true) :
    (written items).faults = (operands items).flatMap fun m => m.render.faults := by
  induction items with
  | nil => rfl
  | cons i is ih =>
    rw [arePlain_cons, Bool.and_eq_true] at h
    rw [written_cons, Rendered.faults_append, ih h.2]
    cases i with
    | operand m => rfl
    | chunk c =>
      cases c with
      | text s => rfl
      | placeholder f => cases h.1

end Item

namespace Node

theorem arePlain_outline {n : Node} (h : n.fault? = none) : Item.arePlain n.outline = true := by
  cases n with
  | boolean b => cases b <;> rfl
  | array source es =>
    rw [outline, Item.arePlain_cons, Item.arePlain_append,
      Item.arePlain_separated _ fun _ => rfl]
    rfl
  | equality negate l r =>
    rw [fault?_equality] at h
    rw [outline]
    cases hform : Form.ofEquality l r with
    | none => rw [hform] at h; cases h
    | some form => obtain ⟨_ | _, f⟩ := form <;> cases f <;> rfl
  | member x c =>
    rw [fault?_member] at h
    rw [outline]
    cases hform : Membership.ofNodes x c with
    | none => rw [hform] at h; cases h
    | some m => cases m <;> simp [Membership.outline]
  | conjunction source cs =>
    rcases cs with _ | ⟨c, _ | ⟨d, cs⟩⟩
    · rfl
    · rfl
    · exact Item.arePlain_separated _ (fun n => Item.arePlain_enclosed _ n) _
  | disjunction source cs =>
    rcases cs with _ | ⟨c, _ | ⟨d, cs⟩⟩
    · rfl
    · rfl
    · exact Item.arePlain_separated _ (fun _ => rfl) _
  | _ => rfl

/-- One step: a predicate has its own fault, then those of the operands that are written. -/
theorem faults_render_step (n : Node) :
    n.render.faults = n.fault?.toList ++ n.operands.flatMap fun m => m.render.faults := by
  rw [render_eq, operands]
  cases h : n.fault? with
  | none => exact Item.faults_written (arePlain_outline h)
  | some f =>
    rw [outline_of_fault h]
    rfl

/-- **The faults of a predicate** are those of the predicates rendered on the way. -/
theorem faults_render (n : Node) : n.render.faults = n.visited.filterMap fault? := by
  induction n using inductOutline with
  | h n ih =>
    rw [faults_render_step, visited_eq, List.filterMap_cons, List.filterMap_flatMap]
    have hoperands : (n.operands.flatMap fun m => m.render.faults) =
        n.operands.flatMap fun m => m.visited.filterMap fault? := by
      rw [List.flatMap_def, List.flatMap_def, List.map_congr_left ih]
    rw [hoperands]
    cases n.fault? <;> rfl

theorem faults_eq_nil_iff {n : Node} : n.render.faults = [] ↔ ∀ p ∈ n.visited, p.fault? = none := by
  rw [faults_render, List.filterMap_eq_nil_iff]

/-- A predicate with a fault of its own is the only one that is rendered for its text. -/
theorem visited_of_fault {n : Node} {f : Fault} (h : n.fault? = some f) : n.visited = [n] := by
  rw [visited_eq, operands, outline_of_fault h]
  rfl

theorem layout_of_fault {n : Node} {f : Fault} (h : n.fault? = some f) :
    n.layout = [.placeholder f] := by
  rw [layout_eq, outline_of_fault h]
  rfl

/-- The faults stand in the order of the text. -/
theorem faults_render_eq_filterMap_layout (n : Node) :
    n.render.faults = n.layout.filterMap Chunk.fault? := by
  rw [render_eq_concat, Rendered.faults_concat, List.flatMap_map]
  induction n.layout with
  | nil => rfl
  | cons c cs ih =>
    rw [List.flatMap_cons, ih, Chunk.faults_rendered, List.filterMap_cons]
    cases c.fault? <;> rfl

/-- Nothing is rendered for a membership test in an empty array, unless it is a fault. -/
theorem outline_member_empty {x : Node} {source : String}
    (h : (member x (array source [])).fault? = none) :
    (member x (array source [])).outline = [.chunk (.text "false")] := by
  have hform : Membership.ofNodes x (array source []) = some .never := by
    rw [fault?_member, Membership.ofNodes] at h
    rw [Membership.ofNodes]
    split at h
    · next m hm =>
      obtain ⟨hx, ⟨⟩⟩ := Option.ite_none_right_eq_some.1 hm
      rw [if_pos hx]
    · cases h
  rw [outline, hform]
  rfl

end Node

/-! ## Rendering in one walk -/

/-- A computation that may add to the faults found so far. -/
abbrev Noting := StateM (List Fault)

/-- Adds a fault, and answers with its placeholder. -/
def note (f : Fault) : Noting String := do
  modify (· ++ [f])
  pure f.placeholder

/-- An operand whose text is still to be written. -/
structure Unwritten where
  /-- The operand. -/
  node : Node
  /-- Writing its text. -/
  write : Noting String

/-- One attempt at comparing two operands as they stand.  The operands are written only if their
kinds compare. -/
def attempt (negate : Bool) (a b : Unwritten) : Noting (Option String) :=
  match Form.ofKinds a.node.kind b.node.kind with
  | none => pure none
  | some f => do
    let s ← a.write
    let t ← b.write
    pure (some (f.write negate s t).text)

/-- One attempt, another one with the operands exchanged, and a fault if both fail. -/
def attemptBoth (negate : Bool) (first second : Unwritten) (f : Fault) : Noting String := do
  match ← attempt negate first second with
  | some text => pure text
  | none =>
    match ← attempt negate second first with
    | some text => pure text
    | none => note f

/-- Writes an equality.  A literal does not come first if the other operand is none. -/
def writeEquality (negate : Bool) (left right : Unwritten) : Noting String :=
  let f := Fault.equality negate left.node.describe right.node.describe
  if left.node.isLiteral && !right.node.isLiteral then attemptBoth negate right left f
  else attemptBoth negate left right f

/-- Writes a membership test.  Nothing is written of its operands if the collection is empty. -/
def writeMembership (element collection : Unwritten) : Noting String :=
  match Membership.ofNodes element.node collection.node with
  | some .never => pure "false"
  | some m => do
    let s ← element.write
    let t ← collection.write
    pure (m.write element.node s t).text
  | none => note (.membership element.node.describe collection.node.describe)

namespace Node

mutual

/-- Writes a predicate, and adds its faults to those found so far. -/
def renderInto : Node → Noting String
  | boolean true => pure "true"
  | boolean false => pure "false"
  | string value => pure (literal value)
  | number text => pure text
  | array _ elements => do
    let texts ← renderAllInto elements
    pure ("ARRAY[" ++ Text.joined ", " texts ++ "]")
  | equality negate left right =>
    writeEquality negate ⟨left, left.renderInto⟩ ⟨right, right.renderInto⟩
  | member element collection =>
    writeMembership ⟨element, element.renderInto⟩ ⟨collection, collection.renderInto⟩
  | conjunction _ [] => pure "true"
  | conjunction _ [only] => only.renderInto
  | conjunction _ (c :: cs) => do
    let texts ← renderConjunctsInto (c :: cs)
    pure (Text.joined " AND " texts)
  | disjunction _ [] => pure "false"
  | disjunction _ [only] => only.renderInto
  | disjunction _ (c :: cs) => do
    let texts ← renderAllInto (c :: cs)
    pure (Text.joined " OR " texts)
  | column sql _ _ => pure sql

/-- Writes the predicates of a list, one after the other. -/
def renderAllInto : List Node → Noting (List String)
  | [] => pure []
  | n :: ns => do
    let text ← n.renderInto
    let texts ← renderAllInto ns
    pure (text :: texts)

/-- Writes the children of a conjunction, one after the other. -/
def renderConjunctsInto : List Node → Noting (List String)
  | [] => pure []
  | n :: ns => do
    let text ← n.renderInto
    let texts ← renderConjunctsInto ns
    pure ((if n.needsParens then "(" ++ text ++ ")" else text) :: texts)

end

end Node

/-- Whatever was found before, the computation writes this text and adds these faults. -/
def Writes (w : Noting String) (r : Rendered) : Prop :=
  ∀ found, w.run found = (r.text, found ++ r.faults)

/-- The same for several texts. -/
def WritesAll (w : Noting (List String)) (rs : List Rendered) : Prop :=
  ∀ found, w.run found = (rs.map Rendered.text, found ++ rs.flatMap Rendered.faults)

theorem Writes.pure (s : String) : Writes (pure s) (s : Rendered) := fun found => by
  rw [List.append_nil]
  rfl

theorem writes_note (f : Fault) : Writes (note f) { text := f.placeholder, faults := [f] } :=
  fun _ => rfl

theorem Form.text_write (f : Form) (negate : Bool) (a b : Rendered) :
    (f.write negate a.text b.text).text = (f.write negate a b).text := by
  cases f <;> rfl

theorem Membership.text_write (m : Membership) (element : Node) (a b : Rendered) :
    (m.write element a.text b.text).text = (m.write element a b).text := by
  cases m with
  | never => rfl
  | overlap => rfl
  | any =>
    rw [write, write, value, value]
    split <;> rfl

/-- A computation goes on with what the one before it found. -/
theorem run_bind_of_run {α β : Type} {w : Noting α} {k : α → Noting β} {x : α}
    {found later : List Fault} (h : w.run found = (x, later)) :
    (w >>= k).run found = (k x).run later := by
  rw [StateT.run_bind, h]
  rfl

theorem Membership.faults_write {m : Membership} (hm : m ≠ .never) (element : Node)
    (a b : Rendered) : (m.write element a b).faults = a.faults ++ b.faults := by
  cases m with
  | never => exact absurd rfl hm
  | overlap => simp [write]
  | any => simp [write]

section

variable {a b : Unwritten} {ra rb : Rendered}

/-- An attempt that fails leaves no trace. -/
theorem run_attempt (negate : Bool) (ha : Writes a.write ra) (hb : Writes b.write rb)
    (found : List Fault) :
    (attempt negate a b).run found =
      match comparison negate ⟨a.node, ra⟩ ⟨b.node, rb⟩ with
      | some r => (some r.text, found ++ r.faults)
      | none => (none, found) := by
  rw [attempt, comparison_eq]
  cases Form.ofKinds a.node.kind b.node.kind with
  | none => rfl
  | some f =>
    show (a.write >>= _).run found = (some (f.write negate ra rb).text, _)
    rw [run_bind_of_run (ha found), run_bind_of_run (hb _), f.text_write, f.faults_write,
      ← List.append_assoc]
    rfl

theorem writes_attemptBoth (negate : Bool) (f : Fault) (ha : Writes a.write ra)
    (hb : Writes b.write rb) :
    Writes (attemptBoth negate a b f)
      (match comparison negate ⟨a.node, ra⟩ ⟨b.node, rb⟩ with
      | some r => r
      | none =>
        match comparison negate ⟨b.node, rb⟩ ⟨a.node, ra⟩ with
        | some r => r
        | none => { text := f.placeholder, faults := [f] }) := by
  intro found
  have hfirst := run_attempt negate ha hb found
  have hsecond := run_attempt negate hb ha found
  rw [attemptBoth]
  cases hab : comparison negate ⟨a.node, ra⟩ ⟨b.node, rb⟩ with
  | some r =>
    rw [hab] at hfirst
    exact run_bind_of_run hfirst
  | none =>
    rw [hab] at hfirst
    rw [run_bind_of_run hfirst]
    cases hba : comparison negate ⟨b.node, rb⟩ ⟨a.node, ra⟩ with
    | some r =>
      rw [hba] at hsecond
      exact run_bind_of_run hsecond
    | none =>
      rw [hba] at hsecond
      exact (run_bind_of_run hsecond).trans (writes_note f found)

theorem writes_writeEquality (negate : Bool) (ha : Writes a.write ra) (hb : Writes b.write rb) :
    Writes (writeEquality negate a b) (equalityOf negate ⟨a.node, ra⟩ ⟨b.node, rb⟩) := by
  rw [writeEquality, equalityOf]
  cases a.node.isLiteral && !b.node.isLiteral with
  | true => exact writes_attemptBoth negate _ hb ha
  | false => exact writes_attemptBoth negate _ ha hb

theorem writes_writeMembership (ha : Writes a.write ra) (hb : Writes b.write rb) :
    Writes (writeMembership a b) (membershipOf ⟨a.node, ra⟩ ⟨b.node, rb⟩) := by
  rw [writeMembership, membershipOf_eq]
  cases Membership.ofNodes a.node b.node with
  | none => exact writes_note _
  | some m =>
    -- both operands are written, unless the test is `false`
    have hboth : m ≠ .never → Writes (do
        let s ← a.write
        let t ← b.write
        pure (m.write a.node s t).text) (m.write a.node ra rb) := by
      intro hm found
      rw [run_bind_of_run (ha found), run_bind_of_run (hb _), Membership.text_write,
        Membership.faults_write hm, ← List.append_assoc]
      rfl
    cases m with
    | never => exact Writes.pure _
    | overlap => exact hboth (by decide)
    | any => exact hboth (by decide)

end

namespace Node

theorem writesAll_renderAllInto {ns : List Node} (h : ∀ n ∈ ns, Writes n.renderInto n.render) :
    WritesAll (renderAllInto ns) (renderAll ns) := by
  induction ns with
  | nil => exact fun found => congrArg (Prod.mk []) (List.append_nil found).symm
  | cons n ns ih =>
    intro found
    rw [List.forall_mem_cons] at h
    rw [renderAllInto, run_bind_of_run (h.1 found), run_bind_of_run (ih h.2 _), renderAll,
      List.flatMap_cons, ← List.append_assoc]
    rfl

theorem writesAll_renderConjunctsInto {ns : List Node}
    (h : ∀ n ∈ ns, Writes n.renderInto n.render) :
    WritesAll (renderConjunctsInto ns) (renderConjuncts ns) := by
  induction ns with
  | nil => exact fun found => congrArg (Prod.mk []) (List.append_nil found).symm
  | cons n ns ih =>
    intro found
    rw [List.forall_mem_cons] at h
    rw [renderConjunctsInto, run_bind_of_run (h.1 found), run_bind_of_run (ih h.2 _),
      renderConjuncts, List.flatMap_cons, ← List.append_assoc]
    cases n.needsParens <;> rfl

/-- **Rendering in one walk** writes the text of a predicate and adds its faults, whatever was found
before. -/
theorem writes_renderInto (n : Node) : Writes n.renderInto n.render := by
  induction n using Node.induct with
  | boolean b => cases b <;> exact Writes.pure _
  | string value => exact Writes.pure _
  | number text => exact Writes.pure _
  | array source es ih =>
    intro found
    rw [renderInto, run_bind_of_run (writesAll_renderAllInto ih found), render]
    simp only [Rendered.faults_append, Rendered.faults_joined, List.nil_append, List.append_nil]
    rfl
  | equality negate l r ihl ihr =>
    rw [renderInto, render]
    exact writes_writeEquality (a := ⟨l, l.renderInto⟩) (b := ⟨r, r.renderInto⟩) negate ihl ihr
  | member x c ihx ihc =>
    rw [renderInto, render]
    exact writes_writeMembership (a := ⟨x, x.renderInto⟩) (b := ⟨c, c.renderInto⟩) ihx ihc
  | conjunction source cs ih =>
    rcases cs with _ | ⟨c, _ | ⟨d, cs⟩⟩
    · exact Writes.pure _
    · exact ih c List.mem_cons_self
    · exact fun found => run_bind_of_run (writesAll_renderConjunctsInto ih found)
  | disjunction source cs ih =>
    rcases cs with _ | ⟨c, _ | ⟨d, cs⟩⟩
    · exact Writes.pure _
    · exact ih c List.mem_cons_self
    · exact fun found => run_bind_of_run (writesAll_renderAllInto ih found)
  | column sql type scope => exact Writes.pure _

end Node

end RowFilter.Sql
