import RowFilter.Path

/-!
# Dotted paths

A text is cut at its dots, and empty pieces are left out.  What such a text spells is a *plain*
path: its steps are fields with a name that is neither empty nor a star and has no dot in it, and
stars.  A plain path is read back from its dotted form, and each of its steps is known by its key.

* `Text.split_joined` — pieces without the separator are joined, and cut apart again.
* `Path.IsPlain` — the paths that dotted texts spell.
* `Path.ofDotted_dotted` — a plain path is read back from its dotted form.
-/

set_option autoImplicit false

namespace RowFilter

namespace Text

variable {separator : Char} {p : List Char}

/-! ## Cutting a text -/

theorem pieces_cons_of_ne {c : Char} (h : c ≠ separator) {cs p : List Char}
    {ps : List (List Char)} (hps : pieces separator cs = p :: ps) :
    pieces separator (c :: cs) = (c :: p) :: ps := by
  rw [pieces, if_neg h, hps]

theorem exists_pieces (separator : Char) (cs : List Char) :
    ∃ p ps, pieces separator cs = p :: ps := by
  cases cs with
  | nil => exact ⟨[], [], rfl⟩
  | cons c cs =>
    rw [pieces]
    split
    · exact ⟨_, _, rfl⟩
    · split <;> exact ⟨_, _, rfl⟩

/-- No piece holds the separator. -/
theorem not_mem_of_mem_pieces {cs : List Char} (h : p ∈ pieces separator cs) : separator ∉ p := by
  induction cs generalizing p with
  | nil =>
    rw [List.mem_singleton.1 h]
    exact List.not_mem_nil
  | cons c cs ih =>
    by_cases hc : c = separator
    · rw [pieces, if_pos hc] at h
      rcases List.mem_cons.1 h with rfl | h
      · exact List.not_mem_nil
      · exact ih h
    · obtain ⟨q, qs, hqs⟩ := exists_pieces separator cs
      rw [pieces_cons_of_ne hc hqs] at h
      rcases List.mem_cons.1 h with rfl | h
      · have hq : separator ∉ q := ih (hqs ▸ List.mem_cons_self)
        simp [Ne.symm hc, hq]
      · exact ih (hqs ▸ List.mem_cons_of_mem q h)

theorem pieces_of_not_mem (h : separator ∉ p) : pieces separator p = [p] := by
  induction p with
  | nil => rfl
  | cons c p ih =>
    rw [List.mem_cons, not_or] at h
    exact pieces_cons_of_ne (Ne.symm h.1) (ih h.2)

/-- The first piece ends at the first separator. -/
theorem pieces_append (h : separator ∉ p) (rest : List Char) :
    pieces separator (p ++ separator :: rest) = p :: pieces separator rest := by
  induction p with
  | nil => rw [List.nil_append, pieces, if_pos rfl]
  | cons c p ih =>
    rw [List.mem_cons, not_or] at h
    exact pieces_cons_of_ne (Ne.symm h.1) (ih h.2)

/-- **Pieces that are joined are found again.** -/
theorem split_joined {texts : List String} (hne : texts ≠ [])
    (h : ∀ t ∈ texts, '.' ∉ t.toList) : split '.' (joined "." texts) = texts := by
  induction texts with
  | nil => exact absurd rfl hne
  | cons t texts ih =>
    rw [List.forall_mem_cons] at h
    cases texts with
    | nil => rw [joined_singleton, split, pieces_of_not_mem h.1, List.map_singleton,
        String.ofList_toList]
    | cons u texts =>
      have hrest := ih (List.cons_ne_nil u texts) h.2
      have htext : (joined "." (t :: u :: texts)).toList =
          t.toList ++ '.' :: (joined "." (u :: texts)).toList := by
        rw [joined_cons_cons, String.toList_append, String.toList_append, List.append_assoc]
        rfl
      rw [split, htext, pieces_append h.1, List.map_cons, String.ofList_toList]
      exact congrArg (t :: ·) hrest

end Text

/-! ## Plain paths -/

/-- The step that a key stands for; without a key it is a star. -/
def Segment.ofKey : Option String → Segment
  | some key => field key
  | none => wildcard "*"

theorem Segment.text_ofPiece (piece : String) : (ofPiece piece).text = piece := by
  rw [ofPiece]
  split
  · next h => exact h.symm
  · rfl

theorem Segment.ofKey_ofPiece (piece : String) : ofKey (ofPiece piece).key = ofPiece piece := by
  rw [ofPiece]
  split <;> rfl

namespace Path

/-- **The path is spelled by a dotted text**, piece by piece. -/
def IsPlain (p : Path) : Prop :=
  ∃ texts : List String, (∀ t ∈ texts, t ≠ "" ∧ '.' ∉ t.toList) ∧ p = texts.map Segment.ofPiece

theorem isPlain_ofDotted (text : String) : (ofDotted text).IsPlain := by
  refine ⟨(Text.split '.' text).filter (· ≠ ""), fun t ht => ?_, rfl⟩
  obtain ⟨hpiece, hne⟩ := List.mem_filter.1 ht
  obtain ⟨cs, hcs, rfl⟩ := List.mem_map.1 hpiece
  refine ⟨by simpa using hne, ?_⟩
  rw [String.toList_ofList]
  exact Text.not_mem_of_mem_pieces hcs

variable {p : Path}

/-- **A plain path is read back from its dotted form.** -/
theorem ofDotted_dotted (h : p.IsPlain) : ofDotted p.dotted = p := by
  obtain ⟨texts, htexts, rfl⟩ := h
  have hdotted : dotted (texts.map Segment.ofPiece) = Text.joined "." texts := by
    rw [dotted, List.map_map]
    exact congrArg (Text.joined ".") ((List.map_congr_left fun t _ => Segment.text_ofPiece t).trans
      (List.map_id' texts))
  cases texts with
  | nil => rfl
  | cons t texts =>
    have hkept : (t :: texts).filter (· ≠ "") = t :: texts :=
      List.filter_eq_self.2 fun u hu => by simpa using (htexts u hu).1
    rw [hdotted, ofDotted, Text.split_joined (List.cons_ne_nil t texts) fun u hu => (htexts u hu).2,
      hkept]

/-- The steps of a plain path are known by their keys. -/
theorem map_ofKey (h : p.IsPlain) : (p.map Segment.key).map Segment.ofKey = p := by
  obtain ⟨texts, -, rfl⟩ := h
  rw [List.map_map, List.map_map]
  exact List.map_congr_left fun t _ => Segment.ofKey_ofPiece t

end Path

end RowFilter
