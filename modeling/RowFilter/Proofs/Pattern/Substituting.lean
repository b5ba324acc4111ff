import RowFilter.Pattern.Substitution
import RowFilter.Proofs.Pattern.Searching
import RowFilter.Proofs.Pattern.Size

/-!
# Replacing a text and the rest of its line

A pattern that is a text followed by the rest of the line has its matches start with the text, which
is worth looking for, so that it is tried at one place after the other.  Replacing its match keeps
what stands before the text and what stands behind the line.

* `Regex.approach_lineAfter` — how such a pattern is approached.
* `Template.parts_quoted` — a template that puts the group between quotes.
* `replaceFirst_lineAfter` — the text that results.
-/

set_option autoImplicit false

namespace RowFilter.Pattern

/-! ## The approach -/

namespace Needles

theorem merged_singleton (n : Needle) : merged [n] = [n] := by
  rw [merged]

theorem cut_of_le {side : Side} {count : Nat} {n : Needle} (h : n.bytes.length ≤ count) :
    n.cut side count = n := by
  rw [Needle.cut, if_pos h]

/-- A single needle that is no whole match and not useless is worth looking for. -/
theorem refined_singleton {bytes : List Nat} (hbytes : bytes ≠ [])
    (huseful : Needle.isUseless ⟨bytes, false⟩ = false) :
    refined .front (some [⟨bytes, false⟩]) = some [⟨bytes, false⟩] := by
  have hpruned : pruned [⟨bytes, false⟩] = [⟨bytes, false⟩] := rfl
  have hcommon : common .front [⟨bytes, false⟩] = some bytes := rfl
  have hfocused : focused .front (some bytes) [⟨bytes, false⟩] = [⟨bytes, false⟩] := by
    unfold focused
    dsimp only
    split
    · have hcut : Needle.cut .front bytes.length ⟨bytes, false⟩ = ⟨bytes, false⟩ :=
        cut_of_le (Nat.le_refl _)
      rw [List.map_singleton, hcut, merged_singleton]
    · rfl
  have htrimmed : trimmed .front [⟨bytes, false⟩] = some [⟨bytes, false⟩] := by
    have hshort : shortened .front steps [⟨bytes, false⟩] = [⟨bytes, false⟩] := rfl
    simp only [trimmed, hshort, List.any_cons, List.any_nil, huseful]
    rfl
  simp [refined, hpruned, hcommon, hbytes, hfocused, htrimmed]

theorem cross_blank {n : Needle} (h : n.bytes.length ≤ maxBytes) :
    cross .front blank (some [n]) = some [n] := by
  simp [cross, blank, Needle.blank, maxCount, merged_singleton, cut_of_le h]

end Needles

namespace Regex

theorem needles_restOfLine : restOfLine.needles .front = none := rfl

/-- The matches start with the text, or with as much of it as a needle may have. -/
theorem needles_lineAfter {lead : List Char} (hlead : Encoding.ofChars lead ≠ []) :
    (lineAfter lead).needles .front =
      some [⟨(Encoding.ofChars lead).take Needles.maxBytes, false⟩] := by
  have hblank : Needles.blank.areLoose = false := rfl
  simp only [lineAfter, needles, needlesOfAll, needles_restOfLine, Needles.crossAll, if_true,
    List.foldl_cons, List.foldl_nil, hblank, Bool.false_eq_true, if_false]
  by_cases hshort : (Encoding.ofChars lead).length ≤ Needles.maxBytes
  · have hwhole : Needles.areLoose (some [⟨Encoding.ofChars lead, true⟩]) = false := rfl
    rw [Needles.cut_of_le hshort, Needles.cross_blank hshort, hwhole, List.take_of_length_le hshort]
    simp [Needles.cross, Needles.loose, Needle.loose, hlead]
  · have hcut : Needle.cut .front Needles.maxBytes ⟨Encoding.ofChars lead, true⟩ =
        ⟨(Encoding.ofChars lead).take Needles.maxBytes, false⟩ := by
      rw [Needle.cut, if_neg hshort]
      rfl
    have hloose : Needles.areLoose
        (some [⟨(Encoding.ofChars lead).take Needles.maxBytes, false⟩]) = true := rfl
    rw [hcut, Needles.cross_blank (List.length_take_le _ _), hloose, if_pos rfl]

/-- **A text that is worth looking for is approached directly.** -/
theorem approach_lineAfter {lead : List Char} (hlead : Encoding.ofChars lead ≠ [])
    (huseful : Needle.isUseless ⟨(Encoding.ofChars lead).take Needles.maxBytes, false⟩ = false) :
    (lineAfter lead).approach = .direct := by
  have hne : (Encoding.ofChars lead).take Needles.maxBytes ≠ [] := by
    simp [Needles.maxBytes, hlead]
  have hquick : Needles.areQuick
      (some [⟨(Encoding.ofChars lead).take Needles.maxBytes, false⟩]) = true := by
    simp [Needles.areQuick, Needles.maxBytes, hlead]
  have heasy : (lineAfter lead).hasEasyStart = true := by
    simp only [hasEasyStart, needles_lineAfter hlead, Needles.refined_singleton hne huseful, hquick,
      Bool.or_true, Bool.true_or]
  rw [approach, if_pos heasy]

/-- A text that ends with a dot is worth looking for: a dot is not a common byte, and two bytes are
enough. -/
theorem approach_dotted (cs : List Char) : (lineAfter (cs ++ ['.'])).approach = .direct := by
  have hbytes : Encoding.ofChars (cs ++ ['.']) = Encoding.ofChars cs ++ [0x2e] :=
    List.flatMap_append
  have hne : Encoding.ofChars (cs ++ ['.']) ≠ [] := by simp [hbytes]
  refine approach_lineAfter hne ?_
  rw [hbytes]
  rcases Encoding.ofChars cs with _ | ⟨b, _ | ⟨b', bs⟩⟩ <;> rfl

end Regex

/-! ## The template -/

namespace Template

theorem partsWith_plain {cs : List Char} (h : '$' ∉ cs) (n : Nat) (rest : List Char) :
    partsWith (n + cs.length) (cs ++ rest) = cs.map .char ++ partsWith n rest := by
  induction cs with
  | nil => rfl
  | cons c cs ih =>
    rw [List.mem_cons, not_or] at h
    rw [List.cons_append, List.length_cons, ← Nat.add_assoc, partsWith, ih h.2]
    · rfl
    · exact fun _ hc _ => h.1 hc.symm
    · exact fun hc => h.1 hc.symm

/-- The parts of a template that ends with the first group between quotes. -/
theorem parts_quoted {cs : List Char} (h : '$' ∉ cs) :
    parts (String.ofList (cs ++ ['\x27', '$', '1', '\x27'])) =
      cs.map .char ++ [.char '\x27', .group (.number 1), .char '\x27'] := by
  have hquote : '$' ∉ cs ++ ['\x27'] := by simpa using h
  have hlist : cs ++ ['\x27', '$', '1', '\x27'] = cs ++ ['\x27'] ++ ['$', '1', '\x27'] := by simp
  have hlength : (cs ++ ['\x27'] ++ ['$', '1', '\x27']).length = 3 + (cs ++ ['\x27']).length := by
    rw [List.length_append, Nat.add_comm]
    rfl
  have hgroup : partsWith 3 ['$', '1', '\x27'] = [.group (.number 1), .char '\x27'] := rfl
  rw [parts, String.toList_ofList, hlist, hlength, partsWith_plain hquote, hgroup]
  simp

end Template

/-! ## The result -/

theorem append_of_cutAt {mark cs before after : List Char}
    (h : Escape.cutAt mark cs = some (before, after)) : cs = before ++ mark ++ after := by
  induction cs generalizing before with
  | nil => cases h
  | cons c cs ih =>
    rw [Escape.cutAt] at h
    split at h
    · next hmark =>
      cases h
      obtain ⟨rest, hrest⟩ := List.isPrefixOf_iff_prefix.1 hmark
      rw [← hrest, List.drop_left, List.nil_append]
    · obtain ⟨⟨before', after'⟩, hcut, heq⟩ := Option.map_eq_some_iff.1 h
      cases heq
      rw [ih hcut, List.cons_append, List.cons_append]

theorem cutAt_append {mark : List Char} (h : mark ≠ []) (rest : List Char) :
    Escape.cutAt mark (mark ++ rest) = some ([], rest) := by
  obtain ⟨c, cs, rfl⟩ := List.exists_cons_of_ne_nil h
  have hstands : (c :: cs).isPrefixOf (c :: (cs ++ rest)) = true :=
    List.isPrefixOf_iff_prefix.2 (List.prefix_append (c :: cs) rest)
  rw [List.cons_append, Escape.cutAt, if_pos hstands, ← List.cons_append, List.drop_left]

/-- What the template becomes: the group stands between the quotes. -/
theorem expand_quoted (p : Pattern) (text : Array Char) (slots : Search.Slots)
    {template : List Char} (h : '$' ∉ template) :
    p.expand text slots (String.ofList (template ++ ['\x27', '$', '1', '\x27'])) =
      template ++ '\x27' :: (groupText p.names text slots (.number 1) ++ ['\x27']) := by
  rw [expand, Template.parts_quoted h, List.flatMap_append, List.flatMap_map]
  refine congr (congrArg _ (List.flatMap_singleton' template)) ?_
  simp

/-- The characters between two places are the part of a text that starts and ends there. -/
theorem between_eq {text as bs cs : List Char} {start stop : Nat} (h : text = as ++ (bs ++ cs))
    (hstart : start = as.length) (hstop : stop = start + bs.length) :
    between text.toArray start stop = bs := by
  subst h hstop hstart
  rw [between, List.toList_toArray, List.take_length_add_append, List.take_left, List.drop_left]

/-- **The match is replaced**: the text gives way to the template, in which the rest of its line
stands between quotes, and all that follows the line is kept. -/
theorem replaceFirst_lineAfter {p : Pattern} {lead template : List Char} (hlead : lead ≠ [])
    (hprogram : p.program = lineCode lead) (happroach : p.approach = .direct)
    (htemplate : '$' ∉ template) (text : String) :
    p.replaceFirst (String.ofList (template ++ ['\x27', '$', '1', '\x27'])) text =
      (Escape.cutAt lead text.toList).map fun r =>
        String.ofList (r.1 ++ (template ++ '\x27' :: (firstLine r.2 ++ ['\x27'])) ++
          furtherLines r.2) := by
  have hfind : p.approach.find p.program text.toList.toArray =
      Search.find (lineCode lead) text.toList.toArray := by
    rw [happroach, hprogram]
    rfl
  unfold replaceFirst
  simp only [hfind, Search.find_lineCode hlead]
  cases hcut : Escape.cutAt lead text.toList with
  | none => rfl
  | some r =>
    obtain ⟨before, after⟩ := r
    have htext : text.toList = before ++ (lead ++ (firstLine after ++ furtherLines after)) := by
      rw [firstLine_append, ← List.append_assoc]
      exact append_of_cutAt hcut
    have hwhole : text.toList = before ++ (lead ++ firstLine after) ++ (furtherLines after ++ []) :=
      htext.trans (by simp)
    have hbefore : between text.toList.toArray 0 before.length = before :=
      between_eq (show text.toList = [] ++ (before ++ _) from htext) rfl (Nat.zero_add _).symm
    have hline : between text.toList.toArray (before.length + lead.length)
        (before.length + lead.length + (firstLine after).length) = firstLine after :=
      between_eq (htext.trans (List.append_assoc ..).symm) (List.length_append ..).symm rfl
    have hrest : between text.toList.toArray
        (before.length + lead.length + (firstLine after).length) text.toList.toArray.size =
          furtherLines after := by
      refine between_eq hwhole ?_ ?_
      · simp [Nat.add_assoc]
      · simp [htext, Nat.add_assoc]
    have hgroup : groupText p.names text.toList.toArray
        (Search.lineSlots before.length (before.length + lead.length)
          (before.length + lead.length + (firstLine after).length)) (.number 1) =
            firstLine after := hline
    simp only [Option.map_some, Search.span_lineSlots, expand_quoted p _ _ htemplate, hgroup,
      hbefore, hrest]

/-- The pattern of such a text, unless it is too large. -/
theorem ofText?_lineAfter {lead : List Char} (hlead : lead ≠ []) :
    ofText? (String.ofList (escaped lead ++ ['(', '.', '*', ')'])) =
      if (lineAfter lead).fits then
        some { source := String.ofList (escaped lead ++ ['(', '.', '*', ')'])
               program := lineCode lead, approach := (lineAfter lead).approach, names := [] }
      else none := by
  simp only [ofText?, Reader.read_lineAfter hlead, program_lineAfter]

end RowFilter.Pattern
