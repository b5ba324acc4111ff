import Mathlib.Data.List.TakeWhile
import RowFilter.Pattern.Reader

/-!
# Texts that stand for themselves

A backslash before every character that has a meaning of its own makes a text into a pattern that
matches this text and nothing else.  This file reads such patterns with a group for the rest of the
line behind them, as in `a\.b\.(.*)`.

* `escaped` — the text as a pattern.
* `lineAfter` — the expression of a text with the rest of the line behind it.
* `Reader.read_lineAfter` — this is what the pattern spells.
-/

set_option autoImplicit false

namespace RowFilter.Pattern

open Text (CharSet)

/-- The text with a backslash before every character that has a meaning in patterns. -/
def escaped (cs : List Char) : List Char :=
  cs.flatMap fun c => if Escape.isMeta c then ['\\', c] else [c]

/-- The characters that a dot stands for: all but the line feed. -/
def lineChars : CharSet :=
  .compl (.one '\n')

/-- The rest of the line. -/
def restOfLine : Regex :=
  .rep (.set lineChars) 0 none true

/-- **A text, and behind it the rest of the line as a group.** -/
def lineAfter (lead : List Char) : Regex :=
  .sequence [.literal lead, .group 1 restOfLine]

/-- The characters before the first line feed. -/
def firstLine (cs : List Char) : List Char :=
  cs.takeWhile (· != '\n')

/-- The first line feed and what follows it. -/
def furtherLines (cs : List Char) : List Char :=
  cs.dropWhile (· != '\n')

theorem firstLine_cons (c : Char) (cs : List Char) :
    firstLine (c :: cs) = if c = '\n' then [] else c :: firstLine cs := by
  by_cases hc : c = '\n' <;> simp [firstLine, hc]

theorem firstLine_append (cs : List Char) : firstLine cs ++ furtherLines cs = cs :=
  List.takeWhile_append_dropWhile

theorem furtherLines_of_notMem {cs : List Char} (h : '\n' ∉ cs) : furtherLines cs = [] := by
  rw [furtherLines, List.dropWhile_eq_nil_iff]
  intro c hc
  exact bne_iff_ne.2 fun heq => h (heq ▸ hc)

theorem firstLine_of_notMem {cs : List Char} (h : '\n' ∉ cs) : firstLine cs = cs := by
  have hparts := firstLine_append cs
  rwa [furtherLines_of_notMem h, List.append_nil] at hparts

theorem furtherLines_of_mem {cs : List Char} (h : '\n' ∈ cs) :
    ∃ rest, furtherLines cs = '\n' :: rest := by
  induction cs with
  | nil => cases h
  | cons c cs ih =>
    by_cases hc : c = '\n'
    · exact ⟨cs, by simp [furtherLines, hc]⟩
    · have hmem : '\n' ∈ cs := (List.mem_cons.1 h).resolve_left (Ne.symm hc)
      obtain ⟨rest, hrest⟩ := ih hmem
      exact ⟨rest, by simpa [furtherLines, hc] using hrest⟩

theorem escaped_cons (c : Char) (cs : List Char) :
    escaped (c :: cs) = (if Escape.isMeta c then ['\\', c] else [c]) ++ escaped cs := rfl

theorem escaped_append (cs ds : List Char) : escaped (cs ++ ds) = escaped cs ++ escaped ds :=
  List.flatMap_append

theorem length_le_escaped (cs : List Char) : cs.length ≤ (escaped cs).length := by
  induction cs with
  | nil => exact Nat.le_refl 0
  | cons c cs ih =>
    rw [escaped_cons]
    split <;> simp <;> omega

namespace Reader

/-! ## Single characters -/

/-- The part of a character that stands for itself. -/
def charPart (c : Char) : Part :=
  .expression { regex := .literal [c] }

theorem character_eq (c : Char) : character {} c = .literal [c] := by
  have hsingle : (CharSet.one c).single? = some c := by
    simp only [CharSet.one, CharSet.span, CharSet.single?, if_true, Char.ofNat_toNat]
  simp only [character, Flags.close, Regex.ofSet, Bool.false_eq_true, if_false, hsingle]

/-- A backslash takes away the meaning of a character. -/
theorem read_escape {c : Char} (h : Escape.isMeta c = true) (rest : List Char) :
    Escape.read {} (c :: rest) = some (.literal c, rest) := by
  simp only [Escape.isMeta, List.contains_eq_mem, decide_eq_true_eq, List.mem_cons,
    List.not_mem_nil, or_false] at h
  rcases h with rfl | rfl | rfl | rfl | rfl | rfl | rfl | rfl | rfl | rfl | rfl | rfl | rfl | rfl |
    rfl | rfl | rfl | rfl <;> rfl

theorem alternatives_meta {c : Char} (h : Escape.isMeta c = true) (fuel : Nat) (parts : List Part)
    (before : List Nested) (rest : List Char) :
    alternatives (fuel + 1) {} parts before ('\\' :: c :: rest) =
      alternatives fuel {} (charPart c :: parts) before rest := by
  have hskip : ({} : Flags).skip ('\\' :: c :: rest) = '\\' :: c :: rest := rfl
  simp only [alternatives, hskip, read_escape h, primitive, character_eq]
  rfl

theorem alternatives_plain {c : Char} (h : ¬ Escape.isMeta c = true) (fuel : Nat)
    (parts : List Part) (before : List Nested) (rest : List Char) :
    alternatives (fuel + 1) {} parts before (c :: rest) =
      alternatives fuel {} (charPart c :: parts) before rest := by
  have hskip : ({} : Flags).skip (c :: rest) = c :: rest := rfl
  rw [alternatives, hskip]
  -- every sign that is read in another way is one that has to be escaped
  split <;> rename_i heq <;> cases heq
  case h_14 => rw [character_eq]; rfl
  all_goals exact absurd (by decide) h

/-- **An escaped text is read character by character.** -/
theorem alternatives_escaped (cs : List Char) (fuel : Nat) (parts : List Part)
    (before : List Nested) (rest : List Char) :
    alternatives (fuel + cs.length) {} parts before (escaped cs ++ rest) =
      alternatives fuel {} ((cs.map charPart).reverse ++ parts) before rest := by
  induction cs generalizing parts with
  | nil => rfl
  | cons c cs ih =>
    have hstep : alternatives (fuel + cs.length + 1) {} parts before (escaped (c :: cs) ++ rest) =
        alternatives (fuel + cs.length) {} (charPart c :: parts) before (escaped cs ++ rest) := by
      rw [escaped_cons]
      by_cases hc : Escape.isMeta c = true
      · rw [if_pos hc]
        exact alternatives_meta hc _ _ _ _
      · rw [if_neg hc]
        exact alternatives_plain hc _ _ _ _
    rw [List.length_cons, ← Nat.add_assoc, hstep, ih, List.map_cons, List.reverse_cons,
      List.append_assoc, List.singleton_append]

/-! ## The rest of the line -/

/-- The part of the group. -/
def linePart : Part :=
  .expression ⟨.group 1 restOfLine, 2⟩

theorem alternatives_line (fuel : Nat) (parts : List Part) :
    alternatives (fuel + 4) {} parts [] ['(', '.', '*', ')'] =
      (choiceOf [sequenceOf (linePart :: parts)]).map (·, { groups := 1 }, []) := rfl

/-- The parts that are read: one for each character, and the group. -/
def lineParts (lead : List Char) : List Regex :=
  (lead.map fun c => Regex.literal [c]) ++ [.group 1 restOfLine]

theorem flatMap_lineParts (lead : List Char) :
    (lineParts lead).flatMap Regex.sequenceParts = lineParts lead := by
  induction lead with
  | nil => rfl
  | cons c cs ih => exact congrArg (Regex.literal [c] :: ·) ih

/-- Neighbouring characters become one literal. -/
theorem foldr_lineParts {lead : List Char} (h : lead ≠ []) :
    (lineParts lead).foldr Regex.prepend [] = [.literal lead, .group 1 restOfLine] := by
  induction lead with
  | nil => exact absurd rfl h
  | cons c cs ih =>
    cases cs with
    | nil => rfl
    | cons d ds =>
      have hrest := ih (List.cons_ne_nil d ds)
      exact congrArg (Regex.prepend (.literal [c])) hrest

theorem ofSequence_lineParts {lead : List Char} (h : lead ≠ []) :
    Regex.ofSequence (lineParts lead) = lineAfter lead := by
  simp only [Regex.ofSequence, flatMap_lineParts, foldr_lineParts h, lineAfter]

/-- The group is nested by two, and single characters are not at all. -/
theorem depthOf_line {lead : List Char} (h : lead ≠ []) :
    depthOf ((linePart :: (lead.map charPart).reverse).map Part.depth) = 3 := by
  have hchars : (lead.map charPart).reverse.map Part.depth = List.replicate lead.length 0 := by
    simp [List.eq_replicate_iff, charPart, Part.depth]
  have hmax : ∀ n, (List.replicate n 0).foldl max 2 = 2 := by
    intro n
    induction n with
    | zero => rfl
    | succ n ih => exact ih
  obtain ⟨c, cs, rfl⟩ := List.exists_cons_of_ne_nil h
  rw [List.map_cons, hchars]
  exact congrArg (· + 1) (hmax cs.length)

/-- **The pattern of an escaped text with the rest of the line behind it.** -/
theorem read_lineAfter {lead : List Char} (h : lead ≠ []) :
    read (String.ofList (escaped lead ++ ['(', '.', '*', ')'])) = some (lineAfter lead, []) := by
  have hlength : (escaped lead ++ ['(', '.', '*', ')']).length = (escaped lead).length + 4 :=
    List.length_append
  have hfuel : 2 * ((escaped lead).length + 4) + 2 =
      (2 * (escaped lead).length - lead.length + 6) + 4 + lead.length := by
    have hle := length_le_escaped lead
    omega
  have hparts : (linePart :: (lead.map charPart).reverse).reverse.map Part.regex =
      lineParts lead := by
    simp [charPart, linePart, Part.regex, lineParts]
  have hsequence : sequenceOf (linePart :: (lead.map charPart).reverse) = ⟨lineAfter lead, 3⟩ := by
    rw [sequenceOf, hparts, ofSequence_lineParts h, depthOf_line h]
  simp only [read, String.toList_ofList, hlength, hfuel, alternatives_escaped, List.append_nil,
    alternatives_line, hsequence]
  rfl

end Reader

end RowFilter.Pattern
