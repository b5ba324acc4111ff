import RowFilter.Proofs.Sql.Form

/-!
# Outlines

Rendering a predicate writes some texts of its own and, at fixed places between them, the texts of
some of its operands.  The outline of a predicate is that row of items.  Not every operand has a
place in it: an equality or a membership test without a form is a single placeholder, and nothing of
the element is written where the collection is empty.

Everything about the text and the faults of a predicate follows from its outline alone
(`Node.render_eq`), with the same induction for all predicates (`Node.inductOutline`).

* `Node.outline` — the items of one predicate, operands left as they are.
* `Node.layout` — the chunks of its text, with the operands laid out as well.
* `Node.visited` — the predicates that are rendered on the way, each before its operands.
-/

set_option autoImplicit false

namespace RowFilter.Sql

/-! ## Items -/

/-- What stands in the text where a pair of operands has no form. -/
def Fault.placeholder : Fault → String
  | equality _ _ _ => "EqualityError"
  | membership _ _ => "MemberOfError"

/-- A part of the text of a predicate. -/
inductive Chunk where
  /-- A text that is meant. -/
  | text (s : String)
  /-- The placeholder of a fault. -/
  | placeholder (f : Fault)
deriving Repr, DecidableEq

namespace Chunk

/-- The text of a chunk, and its fault. -/
def rendered : Chunk → Rendered
  | text s => s
  | placeholder f => { text := f.placeholder, faults := [f] }

/-- The fault of a chunk. -/
def fault? : Chunk → Option Fault
  | text _ => none
  | placeholder f => some f

@[simp] theorem faults_rendered (c : Chunk) : c.rendered.faults = c.fault?.toList := by
  cases c <;> rfl

end Chunk

/-- A part of the outline of a predicate. -/
inductive Item where
  /-- A chunk of its own. -/
  | chunk (c : Chunk)
  /-- An operand, to be written here. -/
  | operand (n : Node)

namespace Item

/-- The items of an operand, between parentheses if it has to be. -/
def enclosed (parens : Bool) (n : Node) : List Item :=
  if parens then [chunk (.text "("), operand n, chunk (.text ")")] else [operand n]

/-- The rows of items with `separator` between each two. -/
def separated (separator : String) : List (List Item) → List Item
  | [] => []
  | [row] => row
  | row :: rest => row ++ chunk (.text separator) :: separated separator rest

theorem separated_cons_cons (separator : String) (row next : List Item) (rest : List (List Item)) :
    separated separator (row :: next :: rest) =
      row ++ chunk (.text separator) :: separated separator (next :: rest) := rfl

/-- The text of an item, and its faults. -/
def rendered : Item → Rendered
  | chunk c => c.rendered
  | operand n => n.render

/-- The operand that an item asks for. -/
def operand? : Item → Option Node
  | chunk _ => none
  | operand n => some n

theorem operand?_eq_some {i : Item} {n : Node} : i.operand? = some n ↔ i = operand n := by
  cases i <;> simp [operand?]

end Item

/-- The outline of a comparison. -/
def Form.outline (f : Form) (negate : Bool) (a b : Node) : List Item :=
  let sign := Item.chunk (.text (" " ++ equalitySign negate ++ " "))
  match f with
  | plain => [.operand a, sign, .operand b]
  | firstParens => Item.enclosed true a ++ [sign, .operand b]
  | bothParens => Item.enclosed true a ++ sign :: Item.enclosed true b
  | any => [.operand a, sign, .chunk (.text "ANY("), .operand b, .chunk (.text ")")]

/-- The outline of a membership test. -/
def Membership.outline (m : Membership) (element collection : Node) : List Item :=
  match m with
  | never => [.chunk (.text "false")]
  | overlap => [.operand element, .chunk (.text " && "), .operand collection]
  | any =>
    Item.enclosed (element.kind = .predicate) element ++
      [.chunk (.text " = ANY("), .operand collection, .chunk (.text ")")]

namespace Node

/-- The outline of a predicate. -/
def outline : Node → List Item
  | boolean true => [.chunk (.text "true")]
  | boolean false => [.chunk (.text "false")]
  | string value => [.chunk (.text (literal value))]
  | number text => [.chunk (.text text)]
  | array _ elements =>
    .chunk (.text "ARRAY[") ::
      (Item.separated ", " (elements.map fun e => [.operand e]) ++ [.chunk (.text "]")])
  | equality negate left right =>
    match Form.ofEquality left right with
    | some (false, f) => f.outline negate left right
    | some (true, f) => f.outline negate right left
    | none => [.chunk (.placeholder (.equality negate left.describe right.describe))]
  | member element collection =>
    match Membership.ofNodes element collection with
    | some m => m.outline element collection
    | none => [.chunk (.placeholder (.membership element.describe collection.describe))]
  | conjunction _ [] => [.chunk (.text "true")]
  | conjunction _ [only] => [.operand only]
  | conjunction _ (c :: cs) =>
    Item.separated " AND " ((c :: cs).map fun n => Item.enclosed n.needsParens n)
  | disjunction _ [] => [.chunk (.text "false")]
  | disjunction _ [only] => [.operand only]
  | disjunction _ (c :: cs) => Item.separated " OR " ((c :: cs).map fun n => [.operand n])
  | column sql _ _ => [.chunk (.text sql)]

end Node

/-! ## The text of an outline -/

namespace Rendered

theorem append_assoc (a b c : Rendered) : a ++ b ++ c = a ++ (b ++ c) := by
  show Rendered.mk _ _ = Rendered.mk _ _
  simp [String.append_assoc]

@[simp] theorem empty_append (a : Rendered) : ("" : Rendered) ++ a = a := by
  show Rendered.mk _ _ = a
  simp

@[simp] theorem append_empty (a : Rendered) : a ++ ("" : Rendered) = a := by
  show Rendered.mk _ _ = a
  simp

/-- The texts one after the other. -/
def concat : List Rendered → Rendered
  | [] => ""
  | r :: rs => r ++ concat rs

theorem concat_append (rs ts : List Rendered) : concat (rs ++ ts) = concat rs ++ concat ts := by
  induction rs with
  | nil => rw [List.nil_append, concat, empty_append]
  | cons r rs ih => rw [List.cons_append, concat, concat, ih, append_assoc]

theorem concat_singleton (r : Rendered) : concat [r] = r := append_empty r

theorem faults_concat (rs : List Rendered) : (concat rs).faults = rs.flatMap faults := by
  induction rs with
  | nil => rfl
  | cons r rs ih => rw [concat, faults_append, ih, List.flatMap_cons]

theorem joined_singleton (separator : String) (r : Rendered) : joined separator [r] = r := by
  show Rendered.mk _ _ = r
  simp

theorem joined_cons_cons (separator : String) (r t : Rendered) (rs : List Rendered) :
    joined separator (r :: t :: rs) =
      r ++ (separator : Rendered) ++ joined separator (t :: rs) := by
  show Rendered.mk _ _ = Rendered.mk _ _
  simp

theorem parenthesized_eq (r : Rendered) :
    r.parenthesized = ("(" : Rendered) ++ r ++ (")" : Rendered) := by
  show Rendered.mk _ _ = Rendered.mk _ _
  simp

end Rendered

/-- The text of a row of items, and its faults. -/
def Item.written (items : List Item) : Rendered :=
  Rendered.concat (items.map rendered)

namespace Item

theorem written_nil : written [] = ("" : Rendered) := rfl

theorem written_cons (i : Item) (is : List Item) : written (i :: is) = i.rendered ++ written is :=
  rfl

theorem written_append (is js : List Item) : written (is ++ js) = written is ++ written js := by
  rw [written, List.map_append, Rendered.concat_append, written, written]

theorem written_singleton (i : Item) : written [i] = i.rendered := Rendered.concat_singleton _

theorem written_enclosed (parens : Bool) (n : Node) :
    written (enclosed parens n) = if parens then n.render.parenthesized else n.render := by
  cases parens with
  | false => exact written_singleton _
  | true =>
    rw [enclosed, if_pos rfl, if_pos rfl, written_cons, written_cons, written_singleton,
      Rendered.parenthesized_eq, Rendered.append_assoc]
    rfl

theorem written_separated (separator : String) (rows : List (List Item)) :
    written (separated separator rows) = Rendered.joined separator (rows.map written) := by
  induction rows with
  | nil => rfl
  | cons row rest ih =>
    cases rest with
    | nil => rw [separated, List.map_singleton, Rendered.joined_singleton]
    | cons next rest =>
      rw [separated_cons_cons, written_append, written_cons, ih, List.map_cons, List.map_cons,
        List.map_cons, Rendered.joined_cons_cons, Rendered.append_assoc]
      rfl

end Item

theorem Form.written_outline (f : Form) (negate : Bool) (a b : Node) :
    Item.written (f.outline negate a b) = f.write negate a.render b.render := by
  cases f <;>
    simp only [outline, write, Item.written_append, Item.written_cons, Item.written_nil,
      Item.written_enclosed, Item.rendered, Chunk.rendered, Rendered.append_assoc,
      Rendered.append_empty, if_true]

theorem Membership.written_outline (m : Membership) (element collection : Node) :
    Item.written (m.outline element collection) =
      m.write element element.render collection.render := by
  cases m <;>
    simp only [outline, write, value, Item.written_append, Item.written_cons, Item.written_nil,
      Item.written_enclosed, Item.rendered, Chunk.rendered, Rendered.append_assoc,
      Rendered.append_empty, decide_eq_true_eq]

namespace Node

/-- **A predicate is written as its outline says**, with the texts of the operands in their
places. -/
theorem render_eq (n : Node) : n.render = Item.written n.outline := by
  cases n with
  | boolean b => cases b <;> rfl
  | string value => rw [render, outline, Item.written_singleton]; rfl
  | number text => rw [render, outline, Item.written_singleton]; rfl
  | array source es =>
    rw [outline, Item.written_cons, Item.written_append, Item.written_singleton,
      Item.written_separated, List.map_map, render, renderAll_eq, Rendered.append_assoc]
    simp only [Function.comp_def, Item.written_singleton]
    rfl
  | equality negate l r =>
    rw [render, equalityOf_eq, outline]
    cases Form.ofEquality l r with
    | none => rfl
    | some form =>
      obtain ⟨_ | _, f⟩ := form
      · exact (f.written_outline negate l r).symm
      · exact (f.written_outline negate r l).symm
  | member x c =>
    rw [render, membershipOf_eq, outline]
    cases Membership.ofNodes x c with
    | none => rfl
    | some m => exact (m.written_outline x c).symm
  | conjunction source cs =>
    rcases cs with _ | ⟨c, _ | ⟨d, cs⟩⟩
    · rfl
    · exact (Item.written_singleton (.operand c)).symm
    · rw [render_conjunction_cons_cons, outline, Item.written_separated, List.map_map]
      · simp only [Function.comp_def, Item.written_enclosed]
      · simp
  | disjunction source cs =>
    rcases cs with _ | ⟨c, _ | ⟨d, cs⟩⟩
    · rfl
    · exact (Item.written_singleton (.operand c)).symm
    · rw [render_disjunction_cons_cons, outline, Item.written_separated, List.map_map]
      · simp only [Function.comp_def, Item.written_singleton]
        rfl
      · simp
  | column sql type scope => rw [render, outline, Item.written_singleton]; rfl

end Node

/-! ## The operands of an outline -/

/-- The operands that a row of items asks for. -/
def Item.operands (items : List Item) : List Node :=
  items.filterMap operand?

namespace Item

@[simp] theorem operands_nil : operands [] = [] := rfl

@[simp] theorem operands_chunk_cons (c : Chunk) (is : List Item) :
    operands (chunk c :: is) = operands is := rfl

@[simp] theorem operands_operand_cons (n : Node) (is : List Item) :
    operands (operand n :: is) = n :: operands is := rfl

@[simp] theorem operands_append (is js : List Item) :
    operands (is ++ js) = operands is ++ operands js := List.filterMap_append

@[simp] theorem operands_enclosed (parens : Bool) (n : Node) :
    operands (enclosed parens n) = [n] := by
  cases parens <;> rfl

theorem operands_separated (separator : String) {f : Node → List Item}
    (hf : ∀ n, operands (f n) = [n]) (ns : List Node) :
    operands (separated separator (ns.map f)) = ns := by
  induction ns with
  | nil => rfl
  | cons n rest ih =>
    cases rest with
    | nil => exact hf n
    | cons next rest =>
      rw [List.map_cons, List.map_cons, separated_cons_cons, ← List.map_cons, operands_append,
        operands_chunk_cons, ih, hf, List.singleton_append]

end Item

namespace Node

/-- The operands that are written, in the order of the text. -/
def operands (n : Node) : List Node :=
  Item.operands n.outline

theorem mem_operands {n m : Node} : m ∈ n.operands ↔ Item.operand m ∈ n.outline := by
  simp [operands, Item.operands, Item.operand?_eq_some]

theorem operands_array (source : String) (es : List Node) : (array source es).operands = es := by
  rw [operands, outline, Item.operands_chunk_cons, Item.operands_append,
    Item.operands_separated _ fun _ => rfl, Item.operands_chunk_cons, Item.operands_nil,
    List.append_nil]

theorem operands_conjunction (source : String) (cs : List Node) :
    (conjunction source cs).operands = cs := by
  rcases cs with _ | ⟨c, _ | ⟨d, cs⟩⟩
  · rfl
  · rfl
  · exact Item.operands_separated _ (fun n => Item.operands_enclosed _ n) _

theorem operands_disjunction (source : String) (cs : List Node) :
    (disjunction source cs).operands = cs := by
  rcases cs with _ | ⟨c, _ | ⟨d, cs⟩⟩
  · rfl
  · rfl
  · exact Item.operands_separated _ (fun _ => rfl) _

/-- An equality without a form writes none of its operands. -/
theorem operands_equality (negate : Bool) (l r : Node) :
    (equality negate l r).operands =
      match Form.ofEquality l r with
      | some (false, _) => [l, r]
      | some (true, _) => [r, l]
      | none => [] := by
  rw [operands, outline]
  cases Form.ofEquality l r with
  | none => rfl
  | some form =>
    obtain ⟨_ | _, f⟩ := form <;> cases f <;> rfl

/-- A membership test without a form, or in an empty array, writes none of its operands. -/
theorem operands_member (x c : Node) :
    (member x c).operands =
      match Membership.ofNodes x c with
      | some .never => []
      | some _ => [x, c]
      | none => [] := by
  rw [operands, outline]
  cases Membership.ofNodes x c with
  | none => rfl
  | some m => cases m <;> simp [Membership.outline]

/-- The expressions that a predicate is made of, written or not. -/
def children : Node → List Node
  | array _ elements => elements
  | equality _ left right => [left, right]
  | member element collection => [element, collection]
  | conjunction _ children => children
  | disjunction _ children => children
  | _ => []

theorem operands_subset_children (n : Node) : n.operands ⊆ n.children := by
  intro m hm
  cases n with
  | array source es => rwa [operands_array] at hm
  | conjunction source cs => rwa [operands_conjunction] at hm
  | disjunction source cs => rwa [operands_disjunction] at hm
  | equality negate l r =>
    rw [operands_equality] at hm
    split at hm
    · exact hm
    · simpa [children, or_comm] using hm
    · cases hm
  | member x c =>
    rw [operands_member] at hm
    split at hm
    · cases hm
    · exact hm
    · cases hm
  | boolean b => cases b <;> cases hm
  | _ => cases hm

theorem sizeOf_lt_of_mem_children {n m : Node} (h : m ∈ n.children) : sizeOf m < sizeOf n := by
  cases n with
  | array source es =>
    have := List.sizeOf_lt_of_mem (show m ∈ es from h)
    simp only [array.sizeOf_spec]
    omega
  | conjunction source cs =>
    have := List.sizeOf_lt_of_mem (show m ∈ cs from h)
    simp only [conjunction.sizeOf_spec]
    omega
  | disjunction source cs =>
    have := List.sizeOf_lt_of_mem (show m ∈ cs from h)
    simp only [disjunction.sizeOf_spec]
    omega
  | equality negate l r =>
    have hm : m = l ∨ m = r := by simpa [children] using h
    simp only [equality.sizeOf_spec]
    rcases hm with rfl | rfl <;> omega
  | member x c =>
    have hm : m = x ∨ m = c := by simpa [children] using h
    simp only [member.sizeOf_spec]
    rcases hm with rfl | rfl <;> omega
  | _ => cases h

theorem sizeOf_lt_of_mem_operands {n m : Node} (h : m ∈ n.operands) : sizeOf m < sizeOf n :=
  sizeOf_lt_of_mem_children (operands_subset_children n h)

/-- Induction on predicates by what is written of them. -/
@[elab_as_elim]
theorem inductOutline {P : Node → Prop} (h : ∀ n : Node, (∀ m ∈ n.operands, P m) → P n) (n : Node) :
    P n :=
  h n fun m _ => inductOutline h m
termination_by sizeOf n
decreasing_by exact sizeOf_lt_of_mem_operands ‹_›

/-! ## Layouts and visits -/

/-- The chunks of the text of a predicate. -/
def layout (n : Node) : List Chunk :=
  n.outline.attach.flatMap fun
    | ⟨.chunk c, _⟩ => [c]
    | ⟨.operand m, _⟩ => layout m
termination_by sizeOf n
decreasing_by exact sizeOf_lt_of_mem_operands (mem_operands.2 ‹_›)

/-- The predicates that are rendered for the text of this one, in the order in which their
rendering starts. -/
def visited (n : Node) : List Node :=
  n :: n.operands.attach.flatMap fun m => visited m.1
termination_by sizeOf n
decreasing_by exact sizeOf_lt_of_mem_operands m.2

theorem visited_eq (n : Node) : n.visited = n :: n.operands.flatMap visited := by
  rw [visited, List.flatMap_subtype (g := visited) (fun _ _ => rfl), List.unattach_attach]

theorem mem_visited {n p : Node} : p ∈ n.visited ↔ p = n ∨ ∃ m ∈ n.operands, p ∈ m.visited := by
  rw [visited_eq, List.mem_cons, List.mem_flatMap]

theorem mem_visited_self (n : Node) : n ∈ n.visited := mem_visited.2 (.inl rfl)

/-- The operands of what is rendered are rendered as well. -/
theorem mem_visited_of_mem_operands {n p m : Node} (hp : p ∈ n.visited) (hm : m ∈ p.operands) :
    m ∈ n.visited := by
  induction n using inductOutline with
  | h n ih =>
    rw [mem_visited]
    rcases mem_visited.1 hp with rfl | ⟨k, hk, hp⟩
    · exact .inr ⟨m, hm, mem_visited_self m⟩
    · exact .inr ⟨k, hk, ih k hk hp⟩

end Node

/-- The chunks of an item. -/
def Item.layout : Item → List Chunk
  | chunk c => [c]
  | operand n => n.layout

namespace Node

theorem layout_eq (n : Node) : n.layout = n.outline.flatMap Item.layout := by
  rw [layout, List.flatMap_subtype (g := Item.layout), List.unattach_attach]
  rintro (c | m) _ <;> rfl

theorem written_eq_concat {items : List Item}
    (h : ∀ m ∈ Item.operands items, m.render = Rendered.concat (m.layout.map Chunk.rendered)) :
    Item.written items =
      Rendered.concat ((items.flatMap Item.layout).map Chunk.rendered) := by
  induction items with
  | nil => rfl
  | cons i is ih =>
    rw [Item.written_cons, List.flatMap_cons, List.map_append, Rendered.concat_append]
    cases i with
    | chunk c =>
      rw [ih h, Item.layout, List.map_singleton, Rendered.concat_singleton, Item.rendered]
    | operand m =>
      rw [Item.operands_operand_cons, List.forall_mem_cons] at h
      rw [ih h.2, Item.layout, ← h.1, Item.rendered]

/-- **The text of a predicate is that of its layout**, and so are its faults. -/
theorem render_eq_concat (n : Node) : n.render = Rendered.concat (n.layout.map Chunk.rendered) := by
  induction n using inductOutline with
  | h n ih => rw [render_eq, layout_eq, written_eq_concat ih]

theorem layout_infix_of_mem_operands {n m : Node} (h : m ∈ n.operands) :
    m.layout <:+: n.layout := by
  obtain ⟨before, after, hitems⟩ := List.append_of_mem (mem_operands.1 h)
  rw [layout_eq n, hitems, List.flatMap_append, List.flatMap_cons, ← List.append_assoc]
  exact ⟨_, _, rfl⟩

/-- What is rendered on the way stands in the text as one block. -/
theorem layout_infix_of_mem_visited {n p : Node} (h : p ∈ n.visited) : p.layout <:+: n.layout := by
  induction n using inductOutline with
  | h n ih =>
    rcases mem_visited.1 h with rfl | ⟨m, hm, hp⟩
    · exact List.infix_refl _
    · exact (ih m hm hp).trans (layout_infix_of_mem_operands hm)

end Node

end RowFilter.Sql
