import RowFilter.Pattern.Search
import RowFilter.Proofs.Pattern.Escaping

/-!
# Searching for the rest of a line

This file follows the search for a text with the rest of the line behind it.  A start where the text
does not stand is given up after as many steps as it has characters in common with the text, and
what has been entered until then is never met again by a later start: the pairs of an instruction
and a place that a start enters lie on a diagonal of its own.  So the first place where the text
stands is found, and from there the search takes characters up to the end of the line.

* `Search.Takes` — what some steps of a run lead to, whatever the bound on their number.
* `Search.Unentered` — the pairs that a run can count on.
* `Search.find_lineCode` — the match that is found.
-/

set_option autoImplicit false

namespace RowFilter.Pattern

open Text (CharSet)

/-! ## Steps of a run -/

namespace Search

variable {program : Code} {text : Array Char} {visited : Visited}

/-- Whether a pair of an instruction and a place has been entered. -/
def entered (text : Array Char) (visited : Visited) (address place : Nat) : Bool :=
  visited[address * (text.size + 1) + place]?.getD true

/-- The pairs that have been entered, and that of a thread. -/
def enter (text : Array Char) (visited : Visited) (t : Thread) : Visited :=
  visited.setIfInBounds (t.address * (text.size + 1) + t.place) true

/-- Pairs have entries of their own. -/
theorem entry_inj {n address address' place place' : Nat} (hplace : place ≤ n)
    (hplace' : place' ≤ n) (h : address * (n + 1) + place = address' * (n + 1) + place') :
    address = address' ∧ place = place' := by
  have hless : ∀ {a b x y : Nat}, a < b → x ≤ n → a * (n + 1) + x < b * (n + 1) + y := by
    intro a b x y hab hx
    have hrow : (a + 1) * (n + 1) ≤ b * (n + 1) := Nat.mul_le_mul_right (n + 1) hab
    rw [Nat.succ_mul] at hrow
    omega
  rcases Nat.lt_trichotomy address address' with hlt | rfl | hlt
  · exact absurd h (Nat.ne_of_lt (hless hlt hplace))
  · exact ⟨rfl, by omega⟩
  · exact absurd h.symm (Nat.ne_of_lt (hless hlt hplace'))

theorem entered_enter_of_ne {t : Thread} {address place : Nat} (ht : t.place ≤ text.size)
    (hplace : place ≤ text.size) (hne : address = t.address → place ≠ t.place) :
    entered text (enter text visited t) address place = entered text visited address place := by
  have hentry : t.address * (text.size + 1) + t.place ≠ address * (text.size + 1) + place := by
    intro heq
    obtain ⟨haddress, hplaces⟩ := entry_inj ht hplace heq
    exact hne haddress.symm hplaces.symm
  rw [entered, enter, Array.getElem?_setIfInBounds_ne hentry, entered]

/-- No pair for which `P` holds has been entered. -/
def Unentered (program : Code) (text : Array Char) (P : Nat → Nat → Prop) (visited : Visited) :
    Prop :=
  ∀ address place, address < program.size → place ≤ text.size → P address place →
    entered text visited address place = false

theorem unentered_unvisited (program : Code) (text : Array Char) (P : Nat → Nat → Prop) :
    Unentered program text P (unvisited program text) := by
  intro address place haddress hplace _
  have hlt : address * (text.size + 1) + place < pairs program text := by
    have hrow := Nat.mul_le_mul_right (text.size + 1) haddress
    rw [Nat.succ_mul] at hrow
    rw [pairs]
    omega
  rw [entered, unvisited, Array.getElem?_replicate, if_pos hlt]
  rfl

theorem Unentered.enter {P Q : Nat → Nat → Prop} {t : Thread}
    (h : Unentered program text P visited) (ht : t.place ≤ text.size)
    (hQ : ∀ address place, Q address place →
      P address place ∧ (address = t.address → place ≠ t.place)) :
    Unentered program text Q (enter text visited t) := by
  intro address place haddress hplace hq
  obtain ⟨hp, hne⟩ := hQ address place hq
  rw [entered_enter_of_ne ht hplace hne]
  exact h address place haddress hplace hp

theorem Unentered.mono {P Q : Nat → Nat → Prop} (h : Unentered program text P visited)
    (hQ : ∀ address place, Q address place → P address place) :
    Unentered program text Q visited :=
  fun address place haddress hplace hq => h address place haddress hplace (hQ _ _ hq)

/-- **A number of steps** leads from some threads to others, whatever the bound on their number. -/
def Takes (program : Code) (text : Array Char) (steps : Nat) (visited : Visited)
    (threads : List Thread) (visited' : Visited) (threads' : List Thread) : Prop :=
  ∀ fuel, run program text (fuel + steps) visited threads = run program text fuel visited' threads'

theorem Takes.trans {m n : Nat} {v₁ v₂ v₃ : Visited} {ts₁ ts₂ ts₃ : List Thread}
    (h : Takes program text m v₁ ts₁ v₂ ts₂) (h' : Takes program text n v₂ ts₂ v₃ ts₃) :
    Takes program text (m + n) v₁ ts₁ v₃ ts₃ := by
  intro fuel
  rw [Nat.add_comm m n, ← Nat.add_assoc, h, h']

/-- **One step**: a thread that has not been there gives way to its successors. -/
theorem takes_step {t : Thread} {rest : List Thread} {i : Instruction}
    (hnew : entered text visited t.address t.place = false) (hi : program[t.address]? = some i)
    (haccept : i ≠ .accept) :
    Takes program text 1 visited (t :: rest) (enter text visited t)
      (successors text t i ++ rest) := by
  intro fuel
  rw [run]
  simp only [entered] at hnew
  simp only [hnew, hi, Bool.false_eq_true, if_false]
  cases i with
  | accept => exact absurd rfl haccept
  | _ => rfl

theorem run_accept {t : Thread} {rest : List Thread} {fuel : Nat}
    (hnew : entered text visited t.address t.place = false)
    (hi : program[t.address]? = some .accept) :
    run program text (fuel + 1) visited (t :: rest) = .ok t.slots := by
  rw [run]
  simp only [entered] at hnew
  simp only [hnew, hi, Bool.false_eq_true, if_false]

/-- One step at a pair that can be counted on, and what can be counted on behind it. -/
theorem Unentered.step {P : Nat → Nat → Prop} {i : Instruction} {address : Nat}
    (h : Unentered program text P visited) (place : Nat) (slots : Slots) (rest : List Thread)
    (hi : program[address]? = some i) (haccept : i ≠ .accept) (hplace : place ≤ text.size)
    (hP : P address place) (Q : Nat → Nat → Prop)
    (hQ : ∀ a x, Q a x → P a x ∧ (a = address → x ≠ place)) :
    ∃ visited', Takes program text 1 visited (⟨address, place, slots⟩ :: rest) visited'
        (successors text ⟨address, place, slots⟩ i ++ rest) ∧
      Unentered program text Q visited' := by
  have haddress : address < program.size := (Array.getElem?_eq_some_iff.1 hi).1
  have hnew := h address place haddress hplace hP
  exact ⟨_, takes_step hnew hi haccept, h.enter hplace hQ⟩

theorem findFrom_of_ok {place : Nat} {slots : Slots} (more : Nat)
    (h : run program text (steps program text) visited [⟨0, place, []⟩] = .ok slots) :
    findFrom program text more place visited = some slots := by
  rw [findFrom.eq_def]
  simp only [h]

theorem findFrom_zero_of_error {place : Nat} {visited' : Visited}
    (h : run program text (steps program text) visited [⟨0, place, []⟩] = .error visited') :
    findFrom program text 0 place visited = none := by
  rw [findFrom.eq_def]
  simp only [h]

theorem findFrom_succ_of_error {place : Nat} {visited' : Visited} (more : Nat)
    (h : run program text (steps program text) visited [⟨0, place, []⟩] = .error visited') :
    findFrom program text (more + 1) place visited =
      findFrom program text more (place + 1) visited' := by
  rw [findFrom.eq_def]
  simp only [h]

end Search

/-! ## The program -/

/-- The code of the group with the rest of the line and of what follows, where `loop` is the address
of the branch. -/
def lineTail (loop : Nat) : List Instruction :=
  [.save 2, .split (loop + 1) (loop + 3), .consume lineChars, .jump loop, .save 3, .save 1, .accept]

/-- The code of a text with the rest of the line behind it. -/
def lineCode (lead : List Char) : Code :=
  (Instruction.save 0 :: (lead.map fun c => Instruction.consume (.one c)) ++
    lineTail (lead.length + 2)).toArray

theorem program_lineAfter (lead : List Char) : (lineAfter lead).program = lineCode lead := by
  have hbody : (Regex.set lineChars).mayBeEmpty = false := rfl
  apply Array.toList_inj.1
  simp [Regex.program, lineAfter, restOfLine, Regex.write, Regex.writeAll, hbody, Regex.length,
    Instruction.choice, lineCode, lineTail]

theorem size_lineCode (lead : List Char) : (lineCode lead).size = lead.length + 8 := by
  simp [lineCode, lineTail]

theorem lineCode_lead {lead : List Char} {j : Nat} {c : Char} (h : lead[j]? = some c) :
    (lineCode lead)[j + 1]? = some (.consume (.one c)) := by
  have hj : j < lead.length := (List.getElem?_eq_some_iff.1 h).1
  rw [lineCode, List.getElem?_toArray, List.cons_append, List.getElem?_cons_succ,
    List.getElem?_append_left (by simpa using hj), List.getElem?_map, h]
  rfl

theorem lineCode_tail (lead : List Char) (k : Nat) :
    (lineCode lead)[lead.length + 1 + k]? = (lineTail (lead.length + 2))[k]? := by
  rw [lineCode, List.getElem?_toArray, List.cons_append, Nat.add_right_comm,
    List.getElem?_cons_succ, List.getElem?_append_right (by simp)]
  simp

theorem contains_one (c d : Char) : (CharSet.one c).contains d = (d == c) := by
  rw [Bool.eq_iff_iff]
  simp [CharSet.contains, CharSet.holds, CharSet.one, CharSet.span, ← Char.toNat_inj]
  omega

theorem contains_lineChars (c : Char) : lineChars.contains c = (c != '\n') := by
  have hspans : lineChars.spans = [(0, 9), (11, 0x10ffff)] := rfl
  have hmax : c.toNat ≤ 0x10ffff := by
    have hvalid : c.val.toNat.isValidChar := c.valid
    have hcode : c.toNat = c.val.toNat := rfl
    rw [Nat.isValidChar] at hvalid
    omega
  rw [Bool.eq_iff_iff]
  simp [CharSet.contains, CharSet.holds, hspans, ← Char.toNat_inj]
  omega

namespace Search

variable {lead cs : List Char} {visited : Visited}

/-- A character is taken if it belongs to the set. -/
theorem successors_consume (chars : CharSet) (t : Thread) :
    successors cs.toArray t (.consume chars) =
      if (cs.drop t.place).head?.any chars.contains then
        [{ t with address := t.address + 1, place := t.place + 1 }]
      else [] := by
  rw [successors, List.getElem?_toArray, List.head?_drop]
  cases cs[t.place]? <;> rfl

theorem drop_succ_of_cons {ds : List Char} {place : Nat} {d : Char} (h : cs.drop place = d :: ds) :
    place < cs.length ∧ cs.drop (place + 1) = ds := by
  have hlength := congrArg List.length h
  rw [List.length_drop, List.length_cons] at hlength
  exact ⟨by omega, by rw [← List.tail_drop, h, List.tail_cons]⟩

/-! ## The rest of the line

The loop at the address `loop` takes one character a round, and tries to leave behind each of them
only once it cannot go on. -/

/-- The pairs of the loop and behind it that are not entered before the round at `place`: all at
later places, and at this one all but the jump that led here. -/
def AheadOnLine (loop place : Nat) : Nat → Nat → Prop :=
  fun a x => loop ≤ a ∧ (place < x ∨ x = place ∧ a ≠ loop + 2)

/-- What a match has noted: where the text starts, and where the rest of the line starts and
ends. -/
def lineSlots (start first stop : Nat) : Slots :=
  [(1, stop), (3, stop), (2, first), (0, start)]

/-- The whole match. -/
theorem span_lineSlots (start first stop : Nat) :
    span (lineSlots start first stop) 0 = some (start, stop) := rfl

section Line

variable {place : Nat} {slots : Slots} {rest : List Thread}

/-- A round that takes a character. -/
theorem takes_round (slots : Slots) (rest : List Thread) (hplace : place < cs.length)
    (hchar : ((cs.drop place).head?.any lineChars.contains) = true)
    (hnew : Unentered (lineCode lead) cs.toArray (AheadOnLine (lead.length + 2) place) visited) :
    ∃ visited' rest', Takes (lineCode lead) cs.toArray 3 visited
        (⟨lead.length + 2, place, slots⟩ :: rest) visited'
        (⟨lead.length + 2, place + 1, slots⟩ :: rest') ∧
      Unentered (lineCode lead) cs.toArray (AheadOnLine (lead.length + 2) (place + 1))
        visited' := by
  have hsize : cs.toArray.size = cs.length := List.size_toArray
  unfold AheadOnLine at hnew
  obtain ⟨_, hsplit, hnew⟩ := hnew.step place slots rest (lineCode_tail lead 1) (by simp) (by omega)
    (by omega) (fun a x => lead.length + 2 < a ∧ x = place ∧ a ≠ lead.length + 4 ∨
      lead.length + 2 ≤ a ∧ place < x) (by omega)
  obtain ⟨_, hconsume, hnew⟩ := hnew.step place slots (⟨lead.length + 5, place, slots⟩ :: rest)
    (lineCode_tail lead 2) (by simp) (by omega) (by omega)
    (fun a x => lead.length + 2 ≤ a ∧ place < x) (by omega)
  rw [successors_consume, if_pos hchar] at hconsume
  obtain ⟨_, hjump, hnew⟩ := hnew.step (place + 1) slots (⟨lead.length + 5, place, slots⟩ :: rest)
    (lineCode_tail lead 3) (by simp) (by omega) (by omega)
    (AheadOnLine (lead.length + 2) (place + 1)) (by unfold AheadOnLine; omega)
  exact ⟨_, _, (hsplit.trans hconsume).trans hjump, hnew⟩

/-- The round that leaves the loop. -/
theorem run_leave {fuel : Nat} (hplace : place ≤ cs.length)
    (hchar : ¬ ((cs.drop place).head?.any lineChars.contains) = true)
    (hnew : Unentered (lineCode lead) cs.toArray (AheadOnLine (lead.length + 2) place) visited) :
    run (lineCode lead) cs.toArray (fuel + 5) visited (⟨lead.length + 2, place, slots⟩ :: rest) =
      .ok ((1, place) :: (3, place) :: slots) := by
  have hsize : cs.toArray.size = cs.length := List.size_toArray
  unfold AheadOnLine at hnew
  obtain ⟨_, hsplit, hnew⟩ := hnew.step place slots rest (lineCode_tail lead 1) (by simp) (by omega)
    (by omega) (fun a x => x = place ∧ lead.length + 2 < a ∧ a ≠ lead.length + 4) (by omega)
  obtain ⟨_, hconsume, hnew⟩ := hnew.step place slots (⟨lead.length + 5, place, slots⟩ :: rest)
    (lineCode_tail lead 2) (by simp) (by omega) (by omega)
    (fun a x => x = place ∧ lead.length + 4 < a) (by omega)
  rw [successors_consume, if_neg hchar] at hconsume
  obtain ⟨_, hsave, hnew⟩ := hnew.step place slots rest (lineCode_tail lead 4) (by simp) (by omega)
    (by omega) (fun a x => x = place ∧ lead.length + 5 < a) (by omega)
  obtain ⟨_, hsave', hnew⟩ := hnew.step place ((3, place) :: slots) rest (lineCode_tail lead 5)
    (by simp) (by omega) (by omega) (fun a x => x = place ∧ lead.length + 6 < a) (by omega)
  have hsteps := ((hsplit.trans hconsume).trans hsave).trans hsave' (fuel + 1)
  have haccept := hnew (lead.length + 7) place (by rw [size_lineCode]; omega) (by omega) (by omega)
  exact hsteps.trans (run_accept haccept (lineCode_tail lead 6))

/-- **The rest of the line is taken**, as far as it goes. -/
theorem run_line {fuel : Nat} (hplace : place ≤ cs.length)
    (hnew : Unentered (lineCode lead) cs.toArray (AheadOnLine (lead.length + 2) place) visited) :
    run (lineCode lead) cs.toArray (fuel + 5 + 3 * (firstLine (cs.drop place)).length) visited
        (⟨lead.length + 2, place, slots⟩ :: rest) =
      .ok ((1, place + (firstLine (cs.drop place)).length) ::
        (3, place + (firstLine (cs.drop place)).length) :: slots) := by
  induction hds : cs.drop place generalizing place visited rest with
  | nil => exact run_leave hplace (by rw [hds]; decide) hnew
  | cons d ds ih =>
    obtain ⟨hlt, hdrop⟩ := drop_succ_of_cons hds
    have hhead : (cs.drop place).head?.any lineChars.contains = (d != '\n') := by
      rw [hds]
      exact contains_lineChars d
    rw [firstLine_cons]
    by_cases hd : d = '\n'
    · rw [if_pos hd]
      exact run_leave hplace (by rw [hhead, hd]; decide) hnew
    · obtain ⟨visited', rest', hround, hnew'⟩ :=
        takes_round slots rest hlt (hhead.trans (bne_iff_ne.2 hd)) hnew
      rw [if_neg hd, List.length_cons, Nat.mul_succ, ← Nat.add_assoc, hround, ih hlt hnew' hdrop,
        Nat.add_comm _ 1, ← Nat.add_assoc]

end Line

/-! ## One start

From a start the search enters one pair for each character of the text: with the start, the diagonal
moves.  So the pairs that earlier starts have entered in vain are not met again. -/

/-- The pairs that no start before `start` enters, for a text of `length` characters. -/
def Ahead (length start : Nat) : Nat → Nat → Prop :=
  fun a x => length < a ∨ start + (a - 1) ≤ x

/-- The pairs that are left when the search from `start` has taken `done` characters. -/
def AheadWithin (length start done : Nat) : Nat → Nat → Prop :=
  fun a x => length < a ∨ start + 1 + (a - 1) ≤ x ∨ done < a ∧ start + (a - 1) ≤ x

theorem Unentered.next {length start done : Nat}
    (h : Unentered (lineCode lead) cs.toArray (AheadWithin length start done) visited) :
    Unentered (lineCode lead) cs.toArray (Ahead length (start + 1)) visited :=
  h.mono fun a x hax => by unfold Ahead at hax; unfold AheadWithin; omega

section Start

variable {start : Nat}

/-- The text is taken character by character where it stands, and given up elsewhere. -/
theorem takes_lead {done : Nat} (slots : Slots) (rest : List Thread) (hdone : done ≤ lead.length)
    (hplace : start + done ≤ cs.length)
    (hnew : Unentered (lineCode lead) cs.toArray (AheadWithin lead.length start done) visited) :
    (lead.drop done <+: cs.drop (start + done) ∧ ∃ visited',
      Takes (lineCode lead) cs.toArray (lead.length - done) visited
        (⟨done + 1, start + done, slots⟩ :: rest) visited'
        (⟨lead.length + 1, start + lead.length, slots⟩ :: rest) ∧
      Unentered (lineCode lead) cs.toArray (AheadWithin lead.length start lead.length) visited') ∨
    (¬ lead.drop done <+: cs.drop (start + done) ∧ ∃ steps ≤ lead.length - done, ∃ visited',
      Takes (lineCode lead) cs.toArray steps visited (⟨done + 1, start + done, slots⟩ :: rest)
        visited' rest ∧
      Unentered (lineCode lead) cs.toArray (Ahead lead.length (start + 1)) visited') := by
  have hsize : cs.toArray.size = cs.length := List.size_toArray
  induction hls : lead.drop done generalizing done visited with
  | nil =>
    have hle : lead.length ≤ done := List.drop_eq_nil_iff.1 hls
    obtain rfl : done = lead.length := by omega
    exact .inl ⟨List.nil_prefix, visited, fun fuel => by rw [Nat.sub_self]; rfl, hnew⟩
  | cons c ls ih =>
    obtain ⟨hlt, hdrop⟩ := drop_succ_of_cons hls
    have hc : lead[done]? = some c := by rw [← List.head?_drop, hls]; rfl
    obtain ⟨visited₁, hconsume, hnew₁⟩ := hnew.step (start + done) slots rest (lineCode_lead hc)
      (by simp) (by omega) (by unfold AheadWithin; omega)
      (AheadWithin lead.length start (done + 1)) (by unfold AheadWithin; omega)
    rw [successors_consume] at hconsume
    have hsteps : lead.length - done = 1 + (lead.length - (done + 1)) := by omega
    by_cases hhead : (cs.drop (start + done)).head?.any (CharSet.one c).contains = true
    · rw [if_pos hhead] at hconsume
      obtain ⟨d, hd, hdc⟩ := (Option.any_eq_true _ _).1 hhead
      obtain ⟨ds, hds⟩ := List.head?_eq_some_iff.1 hd
      obtain rfl : d = c := by simpa [contains_one] using hdc
      obtain ⟨hplace', hrest⟩ := drop_succ_of_cons hds
      rw [hds, List.cons_prefix_cons, ← hrest]
      rcases ih hlt hplace' hnew₁ hdrop with
        ⟨hstands, visited', htakes, hnew'⟩ | ⟨hfails, steps, hle, visited', htakes, hnew'⟩
      · exact .inl ⟨⟨rfl, hstands⟩, visited', hsteps ▸ hconsume.trans htakes, hnew'⟩
      · exact .inr ⟨fun h => hfails h.2, 1 + steps, by omega, visited', hconsume.trans htakes,
          hnew'⟩
    · rw [if_neg hhead] at hconsume
      refine .inr ⟨?_, 1, by omega, visited₁, hconsume, hnew₁.next⟩
      rintro ⟨tail, htail⟩
      rw [← htail] at hhead
      exact hhead (by simp [contains_one])

/-- The bound on the number of steps of a run is never met. -/
theorem lineSteps_le (lead cs : List Char) :
    lead.length + 3 * cs.length + 7 ≤ steps (lineCode lead) cs.toArray := by
  rw [steps, pairs, size_lineCode, List.size_toArray, Nat.add_mul, Nat.mul_succ, Nat.mul_succ]
  omega

theorem takes_start (hplace : start ≤ cs.length)
    (hnew : Unentered (lineCode lead) cs.toArray (Ahead lead.length start) visited) :
    ∃ visited', Takes (lineCode lead) cs.toArray 1 visited [⟨0, start, []⟩] visited'
        [⟨1, start, [(0, start)]⟩] ∧
      Unentered (lineCode lead) cs.toArray (AheadWithin lead.length start 0) visited' :=
  hnew.step start [] [] (i := .save 0) rfl (by simp) (by rwa [List.size_toArray])
    (by unfold Ahead; omega) _ (by unfold Ahead AheadWithin; omega)

/-- **Where the text stands, the rest of the line is captured.** -/
theorem run_where_found (hstands : lead <+: cs.drop start) (hplace : start ≤ cs.length)
    (hnew : Unentered (lineCode lead) cs.toArray (Ahead lead.length start) visited) :
    run (lineCode lead) cs.toArray (steps (lineCode lead) cs.toArray) visited [⟨0, start, []⟩] =
      .ok (lineSlots start (start + lead.length)
        (start + lead.length + (firstLine (cs.drop (start + lead.length))).length)) := by
  have hlength := hstands.length_le
  have hline : (firstLine (cs.drop (start + lead.length))).length ≤ cs.length :=
    Nat.le_trans (List.takeWhile_sublist _).length_le (by rw [List.length_drop]; omega)
  rw [List.length_drop] at hlength
  obtain ⟨visited₁, hstart, hnew⟩ := takes_start hplace hnew
  rcases takes_lead [(0, start)] [] (Nat.zero_le _) hplace hnew with
    ⟨_, visited₂, hlead, hnew⟩ | ⟨hfails, _⟩
  · obtain ⟨visited₃, hgroup, hnew⟩ := hnew.step (start + lead.length) [(0, start)] []
      (lineCode_tail lead 0) (by simp) (by rw [List.size_toArray]; omega)
      (by unfold AheadWithin; omega) (AheadOnLine (lead.length + 2) (start + lead.length))
      (by unfold AheadWithin AheadOnLine; omega)
    have henough := lineSteps_le lead cs
    obtain ⟨fuel, hfuel⟩ : ∃ fuel, steps (lineCode lead) cs.toArray =
        fuel + 5 + 3 * (firstLine (cs.drop (start + lead.length))).length +
          (1 + (lead.length - 0) + 1) :=
      ⟨steps (lineCode lead) cs.toArray -
        (3 * (firstLine (cs.drop (start + lead.length))).length + lead.length + 7), by omega⟩
    rw [hfuel, (hstart.trans hlead).trans hgroup]
    exact run_line (by omega) hnew
  · exact absurd hstands hfails

/-- **Elsewhere the search goes on**, and a later start can count on all that it needs. -/
theorem run_where_absent (hfails : ¬ lead <+: cs.drop start) (hplace : start ≤ cs.length)
    (hnew : Unentered (lineCode lead) cs.toArray (Ahead lead.length start) visited) :
    ∃ visited', run (lineCode lead) cs.toArray (steps (lineCode lead) cs.toArray) visited
        [⟨0, start, []⟩] = .error visited' ∧
      Unentered (lineCode lead) cs.toArray (Ahead lead.length (start + 1)) visited' := by
  obtain ⟨visited₁, hstart, hnew⟩ := takes_start hplace hnew
  rcases takes_lead [(0, start)] [] (Nat.zero_le _) hplace hnew with
    ⟨hstands, _⟩ | ⟨_, taken, hle, visited₂, hlead, hnew⟩
  · exact absurd hstands hfails
  · have henough := lineSteps_le lead cs
    obtain ⟨fuel, hfuel⟩ : ∃ fuel, steps (lineCode lead) cs.toArray = fuel + (1 + taken) :=
      ⟨steps (lineCode lead) cs.toArray - (1 + taken), by omega⟩
    refine ⟨visited₂, ?_, hnew⟩
    rw [hfuel, hstart.trans hlead]
    cases fuel <;> rfl

end Start

/-! ## All starts -/

/-- **The first place where the text stands is found**, with the rest of the line behind it. -/
theorem findFrom_lineCode (hlead : lead ≠ []) {more start : Nat} (hplace : start + more = cs.length)
    (hnew : Unentered (lineCode lead) cs.toArray (Ahead lead.length start) visited) :
    findFrom (lineCode lead) cs.toArray more start visited =
      (Escape.cutAt lead (cs.drop start)).map fun r =>
        lineSlots (start + r.1.length) (start + r.1.length + lead.length)
          (start + r.1.length + lead.length + (firstLine r.2).length) := by
  induction more generalizing start visited with
  | zero =>
    have hnil : cs.drop start = [] := List.drop_eq_nil_iff.2 (by omega)
    have hfails : ¬ lead <+: cs.drop start := by rwa [hnil, List.prefix_nil]
    obtain ⟨visited', hrun, _⟩ := run_where_absent hfails (by omega) hnew
    rw [findFrom_zero_of_error hrun, hnil]
    rfl
  | succ more ih =>
    obtain ⟨d, ds, hds⟩ : ∃ d ds, cs.drop start = d :: ds := by
      apply List.exists_cons_of_ne_nil
      rw [Ne, List.drop_eq_nil_iff]
      omega
    obtain ⟨-, hdrop⟩ := drop_succ_of_cons hds
    by_cases hstands : lead <+: cs.drop start
    · have hcut : Escape.cutAt lead (cs.drop start) = some ([], cs.drop (start + lead.length)) := by
        rw [← List.drop_drop, hds, Escape.cutAt,
          if_pos (by rwa [List.isPrefixOf_iff_prefix, ← hds])]
      rw [findFrom_of_ok _ (run_where_found hstands (by omega) hnew), hcut]
      rfl
    · obtain ⟨visited', hrun, hnew'⟩ := run_where_absent hstands (by omega) hnew
      have hcut : Escape.cutAt lead (cs.drop start) =
          (Escape.cutAt lead (cs.drop (start + 1))).map fun r => (d :: r.1, r.2) := by
        rw [hds, Escape.cutAt, if_neg (by rwa [List.isPrefixOf_iff_prefix, ← hds]), hdrop]
      have hshift : ∀ r : List Char × List Char,
          start + 1 + r.1.length = start + (d :: r.1).length := by
        intro r
        rw [List.length_cons]
        omega
      rw [findFrom_succ_of_error _ hrun, hcut, Option.map_map, ih (by omega) hnew']
      simp only [hshift]
      rfl

theorem find_lineCode (hlead : lead ≠ []) (cs : List Char) :
    find (lineCode lead) cs.toArray =
      (Escape.cutAt lead cs).map fun r =>
        lineSlots r.1.length (r.1.length + lead.length)
          (r.1.length + lead.length + (firstLine r.2).length) := by
  have hnew := unentered_unvisited (lineCode lead) cs.toArray (Ahead lead.length 0)
  have hfind := findFrom_lineCode hlead (Nat.zero_add cs.length) hnew
  rw [find, List.size_toArray]
  simpa only [Nat.zero_add, List.drop_zero] using hfind

end Search

end RowFilter.Pattern
