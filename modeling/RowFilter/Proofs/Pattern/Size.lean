import RowFilter.Pattern.Footprint
import RowFilter.Proofs.Pattern.Escaping

/-!
# How large a pattern becomes

The size of a set of characters depends on what can be shared, and that on the numbers of states and
on a table of hashes.  A bound is easier to find: no state is counted twice, so that sharing only
makes the automaton smaller.  While rows are put in, the states that are still open are counted in
advance; a row then costs its own states and one more link at the place where it parts from the row
before.

* `bytes_forwardRows_le`, `bytes_backwardRows_le` — bounds for a set of characters.
* `fits_lineAfter` — a text with the rest of the line behind it is small enough, unless the text is
  very long.
-/

set_option autoImplicit false

namespace RowFilter.Pattern

open Text (CharSet)
open Encoding (Row)

theorem Extent.bytes_add (e : Extent) (states payload : Nat) :
    (e.add states payload).bytes = e.bytes + 32 * states + payload := by
  simp only [Extent.add, Extent.bytes]
  omega

theorem Sharing.bytes_state_le (s : Sharing) (key : List Nat) (links : List Link) (payload : Nat) :
    (s.state key links payload).2.extent.bytes ≤ s.extent.bytes + 32 + payload := by
  unfold Sharing.state
  dsimp only
  split
  · split
    · dsimp only
      omega
    · exact Nat.le_of_eq (Extent.bytes_add s.extent 1 payload)
  · dsimp only
    omega

/-! ## Sets of characters, forwards -/

/-- What the open states will take, if nothing is shared. -/
def pending : List OpenState → Nat
  | [] => 0
  | o :: deeper => 40 + 8 * o.links.length + pending deeper

theorem OpenState.length_close_le (o : OpenState) (target : Nat) :
    (o.close target).length ≤ o.links.length + 1 := by
  unfold OpenState.close
  split
  · exact Nat.le_refl _
  · exact Nat.le_succ _

theorem bytes_finish_le (stop : Nat) (os : List OpenState) (s : Sharing) :
    (finish stop os s).2.extent.bytes ≤ s.extent.bytes + pending os := by
  induction os with
  | nil => exact Nat.le_refl _
  | cons o deeper ih =>
    have hlinks := o.length_close_le (finish stop deeper s).1
    rw [finish, pending]
    refine Nat.le_trans (Sharing.bytes_state_le _ _ _ _) ?_
    rw [List.length_reverse]
    omega

theorem pending_map (row : Row) :
    pending (row.map fun span => ⟨[], some span⟩) = 40 * row.length := by
  induction row with
  | nil => rfl
  | cons span rest ih =>
    rw [List.map_cons, pending, ih, List.length_cons, List.length_nil]
    omega

/-- **A row costs its own states and one link.** -/
theorem insertRow_le (stop : Nat) (row : Row) (os : List OpenState) (s : Sharing) :
    (insertRow stop row os s).2.extent.bytes + pending (insertRow stop row os s).1 ≤
      s.extent.bytes + pending os + (8 + 40 * row.length) := by
  induction row generalizing os s with
  | nil => rw [insertRow] <;> simp
  | cons span rest ih =>
    cases os with
    | nil => rw [insertRow] <;> simp
    | cons o deeper =>
      rw [insertRow, List.length_cons]
      split
      · have hdeeper := ih deeper s
        simp only [pending]
        omega
      · have hfinish := bytes_finish_le stop deeper s
        have hlinks := o.length_close_le (finish stop deeper s).1
        simp only [pending, pending_map]
        omega

/-- What rows cost at most. -/
def rowsCost : List Row → Nat
  | [] => 0
  | row :: rest => 8 + 40 * row.length + rowsCost rest

/-- The open states and the automaton, when more rows have been put in. -/
def insertRows (stop : Nat) (rows : List Row) (p : List OpenState × Sharing) :
    List OpenState × Sharing :=
  rows.foldl (fun p row => insertRow stop row p.1 p.2) p

theorem insertRows_le (stop : Nat) (rows : List Row) (p : List OpenState × Sharing) :
    (insertRows stop rows p).2.extent.bytes + pending (insertRows stop rows p).1 ≤
      p.2.extent.bytes + pending p.1 + rowsCost rows := by
  induction rows generalizing p with
  | nil => exact Nat.le_refl _
  | cons row rest ih =>
    have hrow := insertRow_le stop row p.1 p.2
    have hrest := ih (insertRow stop row p.1 p.2)
    rw [insertRows, List.foldl_cons, ← insertRows, rowsCost]
    omega

theorem forwardRows_eq (rows : List Row) (e : Extent) :
    forwardRows rows e =
      (finish e.states (insertRows e.states rows ([{}], ⟨e.add 1 0, Table.ofSize 10000⟩)).1
        (insertRows e.states rows ([{}], ⟨e.add 1 0, Table.ofSize 10000⟩)).2).2.extent := rfl

/-- **A set of characters, read forwards, takes no more than its rows.** -/
theorem bytes_forwardRows_le (rows : List Row) (e : Extent) :
    (forwardRows rows e).bytes ≤ e.bytes + 72 + rowsCost rows := by
  have hrows := insertRows_le e.states rows ([{}], ⟨e.add 1 0, Table.ofSize 10000⟩)
  simp only [Extent.bytes_add, pending, List.length_nil] at hrows
  rw [forwardRows_eq]
  refine Nat.le_trans (bytes_finish_le _ _ _) ?_
  omega

/-! ## Sets of characters, backwards -/

theorem chain_cons (s : Sharing) (target : Nat) (span : Encoding.ByteSpan) (rest : Row) :
    chain s target (span :: rest) =
      chain (s.state [target, span.1, span.2] [⟨span, target⟩] 0).2
        (s.state [target, span.1, span.2] [⟨span, target⟩] 0).1 rest := by
  rw [chain]

theorem bytes_chain_le (s : Sharing) (target : Nat) (row : Row) :
    (chain s target row).extent.bytes ≤ s.extent.bytes + 32 * row.length := by
  induction row generalizing s target with
  | nil => exact Nat.le_refl _
  | cons span rest ih =>
    have hstate := s.bytes_state_le [target, span.1, span.2] [⟨span, target⟩] 0
    have hrest := ih (s.state [target, span.1, span.2] [⟨span, target⟩] 0).2
      (s.state [target, span.1, span.2] [⟨span, target⟩] 0).1
    rw [chain_cons, List.length_cons]
    omega

theorem bytes_foldl_chain_le (stop : Nat) (rows : List Row) (s : Sharing) :
    (rows.foldl (fun s row => chain s stop row) s).extent.bytes ≤
      s.extent.bytes + rowsCost rows := by
  induction rows generalizing s with
  | nil => exact Nat.le_refl _
  | cons row rest ih =>
    have hchain := bytes_chain_le s stop row
    have hrest := ih (chain s stop row)
    rw [List.foldl_cons, rowsCost]
    omega

/-- **The same for a set that is read backwards.** -/
theorem bytes_backwardRows_le (rows : List Row) (e : Extent) :
    (backwardRows rows e).bytes ≤ e.bytes + 64 + 4 * rows.length + rowsCost rows := by
  refine Nat.le_trans (bytes_foldl_chain_le _ _ _) ?_
  rw [Extent.bytes_add]

/-! ## A text with the rest of the line behind it -/

/-- The rows of the characters that a dot stands for. -/
theorem setRows_lineChars :
    Encoding.setRows lineChars =
      [[(0, 9)], [(11, 127)], [(194, 223), (128, 191)], [(224, 224), (160, 191), (128, 191)],
        [(225, 236), (128, 191), (128, 191)], [(237, 237), (128, 159), (128, 191)],
        [(238, 239), (128, 191), (128, 191)], [(240, 240), (144, 191), (128, 191), (128, 191)],
        [(241, 243), (128, 191), (128, 191), (128, 191)],
        [(244, 244), (128, 143), (128, 191), (128, 191)]] := by
  decide +kernel

/-- The growth takes at most the given number of bytes. -/
def Adds (g : Growth) (bytes : Nat) : Prop :=
  ∀ e : Extent, (g.apply e).bytes ≤ e.bytes + bytes

theorem adds_lineChars (backward : Bool) : Adds ((Regex.set lineChars).growth backward) 1304 := by
  have hascii : lineChars.isAscii = false := rfl
  have hcost : rowsCost (Encoding.setRows lineChars) = 1200 := by
    rw [setRows_lineChars]
    rfl
  have hlength : (Encoding.setRows lineChars).length = 10 := by
    rw [setRows_lineChars]
    rfl
  intro e
  have hforward := bytes_forwardRows_le (Encoding.setRows lineChars) e
  have hbackward := bytes_backwardRows_le (Encoding.setRows lineChars) e
  rw [Regex.growth]
  cases backward with
  | false =>
    simp only [hascii, Bool.false_eq_true, if_false]
    omega
  | true =>
    simp only [hascii, Bool.false_eq_true, if_false, if_true]
    omega

theorem adds_restOfLine (backward : Bool) : Adds (restOfLine.growth backward) 1344 := by
  intro e
  have hchars := adds_lineChars backward (e.add 1 8)
  rw [Extent.bytes_add] at hchars
  have hgrowth : (restOfLine.growth backward).apply e =
      ((Regex.set lineChars).growth backward).apply (e.add 1 8) := rfl
  rw [hgrowth]
  omega

theorem adds_literal (backward : Bool) (cs : List Char) :
    Adds ((Regex.literal cs).growth backward) (32 * (Encoding.ofChars cs).length) := by
  intro e
  rw [Regex.growth]
  exact Nat.le_of_eq (Extent.bytes_add e _ 0)

theorem Adds.group {backward : Bool} {r : Regex} {n : Nat} (h : Adds (r.growth backward) n)
    (index : Nat) : Adds ((Regex.group index r).growth backward) (n + 64) := by
  intro e
  rw [Regex.growth]
  cases backward with
  | false =>
    have hbody := h (e.add 1 0)
    rw [Extent.bytes_add] at hbody
    simp only [Bool.false_eq_true, if_false, Extent.bytes_add]
    omega
  | true =>
    have hbody := h e
    simp only [if_true]
    omega

theorem Adds.sequence {backward : Bool} {r q : Regex} {m n : Nat} (h : Adds (r.growth backward) m)
    (h' : Adds (q.growth backward) n) :
    Adds ((Regex.sequence [r, q]).growth backward) (m + n) := by
  intro e
  rw [Regex.growth]
  cases backward with
  | false =>
    have hfirst := h e
    have hsecond := h' ((r.growth false).apply e)
    exact Nat.le_trans hsecond (by omega)
  | true =>
    have hfirst := h' e
    have hsecond := h ((q.growth true).apply e)
    exact Nat.le_trans hsecond (by omega)

theorem bytes_footprint_le (backward : Bool) (lead : List Char) :
    ((lineAfter lead).footprint backward).bytes ≤
      32 * (Encoding.ofChars lead).length + 2000 := by
  have hadds := ((adds_literal backward lead).sequence ((adds_restOfLine backward).group 1)).group 0
  have hstart : ∀ anchored : Bool, (if anchored then ⟨1, 0⟩ else ⟨3, 16⟩ : Extent).bytes ≤ 112 := by
    decide
  unfold Regex.footprint
  dsimp only
  generalize (if backward then (lineAfter lead).endsAt .textEnd
    else (lineAfter lead).startsAt .textStart) = anchored
  have hbytes := hadds (if anchored then ⟨1, 0⟩ else ⟨3, 16⟩)
  have hbase := hstart anchored
  rw [Extent.bytes_add]
  rw [lineAfter]
  omega

/-- **A text with the rest of the line behind it is small enough**, unless the text is very long. -/
theorem fits_lineAfter {lead : List Char} (h : (Encoding.ofChars lead).length ≤ 300000) :
    (lineAfter lead).fits = true := by
  have hsmall : ∀ backward, ((lineAfter lead).footprint backward).isSmall = true := by
    intro backward
    have hbytes := bytes_footprint_le backward lead
    rw [Extent.isSmall, decide_eq_true_eq, Extent.limit]
    omega
  rw [Regex.fits, hsmall, hsmall]
  rfl

end RowFilter.Pattern
