import Mathlib.Data.List.Forall2
import RowFilter.Command.Basic
import RowFilter.Proofs.Compile.Inversion
import RowFilter.Proofs.Json.Scanning
import RowFilter.Proofs.Residual.Printing

/-!
# Detecting the form of a residual

The command tries a text that starts with a bracket as JSON, and reads it as text only if it is no
JSON document at all.  A residual in text form that happens to be a document would then be taken for
something else.  There are such residuals, `[1, 2]` for one, but all of them are of one kind: a
collection that stands alone.  Nobody compiles these, for a collection is not a condition.

* `Command.looksLikeJson_of_parse` — a document starts with a bracket if it is a container.
* `Command.isCollection_of_parse` — a residual that is a document as well.
* `Command.readResidual_auto` — detection changes no residual that can be used.
-/

set_option autoImplicit false

namespace RowFilter

namespace Json

/-- The first character of a value tells whether it is a container. -/
theorem ReadsValue.head {fuel : Nat} {cs rest : List Char} {v : Json}
    (h : ReadsValue fuel cs v rest) :
    ∃ c tail, cs = c :: tail ∧ Text.isBlank c = false ∧
      v.isContainer = (c == '\x7b' || c == '[') := by
  cases h with
  | number hnumber =>
    obtain ⟨ns, rfl, hns⟩ := readNumber_eq_some hnumber
    obtain ⟨c, tail, rfl, hc⟩ := Scanner.exists_of_isNumeral hns
    refine ⟨c, tail ++ rest, rfl, ?_⟩
    rw [Bool.or_eq_true, Bool.and_eq_true, beq_iff_eq] at hc
    rcases hc with hdigit | ⟨rfl, -⟩
    · refine ⟨Text.isBlank_of_isDigit hdigit, ?_⟩
      have hbrace : c ≠ '\x7b' := by
        rintro rfl
        exact absurd hdigit (by decide)
      have hbracket : c ≠ '[' := by
        rintro rfl
        exact absurd hdigit (by decide)
      rw [beq_eq_false_iff_ne.2 hbrace, beq_eq_false_iff_ne.2 hbracket]
      rfl
    · exact ⟨by decide, rfl⟩
  | _ => exact ⟨_, _, rfl, by decide, rfl⟩

theorem dropWhile_skipSpace (cs : List Char) :
    (skipSpace cs).dropWhile Text.isBlank = cs.dropWhile Text.isBlank := by
  induction cs with
  | nil => rfl
  | cons c cs ih =>
    by_cases hspace : isSpace c = true
    · rw [skipSpace, List.dropWhile_cons_of_pos hspace,
        List.dropWhile_cons_of_pos (isBlank_of_isSpace hspace)]
      exact ih
    · rw [skipSpace, List.dropWhile_cons_of_neg hspace]

/-- A value without its marks is a container only if it is one with them. -/
theorem isContainer_of_unmarked {v w : Json} (h : v.unmarked = some w)
    (hw : w.isContainer = true) : v.isContainer = true := by
  cases v with
  | array items => rfl
  | object members => rfl
  | _ =>
    cases h
    exact hw

end Json

namespace Compile

/-- A collection is not a condition. -/
theorem sql_ne_ok_of_isCollection {s : Settings} {r : Residual} (h : r.IsCollection)
    (text : String) : sql s r ≠ .ok text := by
  obtain ⟨t, ⟨es, ht⟩, rfl⟩ := h
  have hterm : ∀ n, term s t = .ok n → n.isBoolean = false := by
    intro n hn
    rcases ht with rfl | rfl
    · obtain ⟨source, ns, rfl, -⟩ := term_array_eq_ok hn
      rfl
    · rw [term_set] at hn
      obtain ⟨source, ns, rfl, -⟩ := term_array_eq_ok hn
      rfl
  intro hsql
  obtain ⟨n, hn, -, -⟩ := sql_eq_ok hsql
  rcases predicate_eq_ok hn with ⟨⟨⟩, -⟩ | ⟨hmem, -⟩ | ⟨ns, -, hqueries⟩
  · simp at hmem
  · rw [List.forall₂_cons_left_iff] at hqueries
    obtain ⟨m, -, hquery, -⟩ := hqueries
    obtain ⟨ms, -, hexpressions⟩ := query_eq_ok hquery
    rw [List.forall₂_cons_left_iff] at hexpressions
    obtain ⟨k, -, hexpression, -⟩ := hexpressions
    obtain ⟨-, hcondition, hboolean⟩ := expression_eq_ok hexpression
    rw [hterm k hcondition] at hboolean
    cases hboolean

end Compile

namespace Command

/-! ## Documents that are text -/

/-- **A document looks like one if it is a container.** -/
theorem looksLikeJson_of_parse {input : String} {v : Json} (h : Json.parse input = some v) :
    looksLikeJson input = v.isContainer := by
  obtain ⟨fuel, depth, rest, hvalue, -⟩ := Json.parse_eq_some h
  obtain ⟨c, tail, hcs, hblank, hv⟩ := (Json.readsValue_of_valueWith hvalue).head
  have hfront : input.toList.dropWhile Text.isBlank = c :: tail := by
    rw [← Json.dropWhile_skipSpace, hcs, List.dropWhile_cons_of_neg (by simp [hblank])]
  rw [looksLikeJson, hfront, hv]
  split
  · next heq => cases heq; rfl
  · next heq => cases heq; rfl
  · next hbrace hbracket =>
    have hne : c ≠ '\x7b' ∧ c ≠ '[' := by
      constructor <;> rintro rfl
      · exact hbrace _ rfl
      · exact hbracket _ rfl
    rw [beq_eq_false_iff_ne.2 hne.1, beq_eq_false_iff_ne.2 hne.2]
    rfl

/-- **A text that is a container of JSON and a residual in text form is one collection.** -/
theorem isCollection_of_parse {input : String} {v : Json} {r : Residual}
    (hjson : Json.parse input = some v) (hv : v.isContainer = true)
    (htext : Residual.parse input = .ok r) : r.IsCollection := by
  obtain ⟨ts, ending, hts⟩ := Scanner.exists_yields (Scanner.ofText input)
  obtain ⟨rfl, hspells⟩ := Residual.spells_of_parse hts htext
  obtain ⟨us, blanks, hus, rfl⟩ := Json.tokens_of_parse hjson hts
  cases hus with
  | scalar _ hscalar _ => rw [hv] at hscalar; cases hscalar
  | container blanks' hopening hclosing hus =>
    rw [List.append_assoc, List.cons_append, List.append_assoc, List.singleton_append] at hspells
    exact hspells.isCollection hopening hclosing hus

/-! ## Reading -/

variable {input : String} {r : Residual}

theorem readJson_eq_ok (h : readJson input = .ok r) :
    ∃ v, Json.parse input = some v ∧ Residual.decode input = .ok r ∧ v.isContainer = true := by
  rw [readJson] at h
  split at h
  · next r' hdecode =>
    cases h
    have hvalue := hdecode
    rw [Residual.decode] at hvalue
    split at hvalue
    · cases hvalue
    · next w hw =>
      obtain ⟨v, hv, hunmarked⟩ := Option.bind_eq_some_iff.1 hw
      refine ⟨v, hv, hdecode, Json.isContainer_of_unmarked hunmarked ?_⟩
      cases w with
      | array items => rfl
      | object members => rfl
      | _ => cases hvalue
  · cases h

theorem readText_eq_ok (h : readText input = .ok r) : Residual.parse input = .ok r := by
  rw [readText] at h
  split at h
  · next hparse =>
    cases h
    exact hparse
  · cases h

/-- What a residual is printed as is read as text. -/
theorem readResidual_of_text (htext : r.text = input) (hr : r.isWellFormed = true)
    (hstrings : ∀ s ∈ r.strings, '\x08' ∉ s.toList ∧ '\x0c' ∉ s.toList) :
    readResidual input .text = .ok r := by
  rw [readResidual, readText, ← htext, Residual.parse_of_isReadable hr hstrings]

/-- **Detection keeps what is read as JSON.** -/
theorem readResidual_auto_of_json (h : readResidual input .json = .ok r) :
    readResidual input .auto = .ok r := by
  obtain ⟨v, hparse, hdecode, hv⟩ := readJson_eq_ok h
  rw [readResidual, looksLikeJson_of_parse hparse, if_pos hv, readEither, hdecode]

/-- **Detection keeps what is read as text**, unless it is one collection. -/
theorem readResidual_auto_of_text (h : readResidual input .text = .ok r) :
    readResidual input .auto = .ok r ∨ r.IsCollection := by
  have hparse : Residual.parse input = .ok r := readText_eq_ok h
  rw [readResidual]
  split
  · next hlooks =>
    cases hjson : Json.parse input with
    | none =>
      left
      rw [readEither, Residual.decode, Json.read, hjson]
      dsimp only [Option.bind_none]
      rw [hparse]
    | some v =>
      right
      rw [looksLikeJson_of_parse hjson] at hlooks
      exact isCollection_of_parse hjson hlooks hparse
  · exact .inl h

/-! ## Executing -/

/-- What the command answers once the residual has been read. -/
def answer (o : Options) (r : Residual) : Except CommandError Answer :=
  if o.syntaxOnly then .ok .syntaxValid
  else
    (settings o.config).bind fun s =>
      match Compile.sql s r with
      | .ok text => .ok (.sql text)
      | .error e => .error (.compile e)

theorem execute_eq {o : Options} (h : o.residual = some input) :
    execute o = (readResidual input o.format).bind (answer o) := by
  rw [execute, h]
  rfl

theorem answer_ne_sql (o : Options) (h : r.IsCollection) (text : String) :
    answer o r ≠ .ok (.sql text) := by
  intro hanswer
  rw [answer] at hanswer
  split at hanswer
  · cases hanswer
  · cases hs : settings o.config with
    | error e => rw [hs] at hanswer; cases hanswer
    | ok s =>
      rw [hs, Except.bind] at hanswer
      split at hanswer
      · next text' hsql => exact Compile.sql_ne_ok_of_isCollection h text' hsql
      · cases hanswer

/-- **Detection changes nothing that can be used.**  It keeps every residual that is read as JSON
and every one that is read as text, except for a collection that stands alone; so it keeps the SQL
of every text. -/
theorem auto_agrees :
    (∀ (input : String) (r : Residual),
      readResidual input .json = .ok r → readResidual input .auto = .ok r) ∧
    (∀ (input : String) (r : Residual),
      readResidual input .text = .ok r → ¬ r.IsCollection → readResidual input .auto = .ok r) ∧
    ∀ (o : Options) (text : String), execute { o with format := .text } = .ok (.sql text) →
      execute { o with format := .auto } = .ok (.sql text) := by
  refine ⟨fun _ _ => readResidual_auto_of_json,
    fun _ _ h hr => (readResidual_auto_of_text h).resolve_right hr, fun o text h => ?_⟩
  obtain ⟨residual, format, config, syntaxOnly⟩ := o
  cases residual with
  | none => cases h
  | some input =>
    rw [execute_eq rfl] at h ⊢
    cases hread : readResidual input .text with
    | error e => rw [hread] at h; cases h
    | ok r =>
      rw [hread] at h
      rcases readResidual_auto_of_text hread with hauto | hr
      · rw [hauto]
        exact h
      · exact absurd h (answer_ne_sql _ hr text)

/-- A document, a text that starts like one, and the SQL of such a text. -/
theorem auto_agrees_brackets :
    readResidual "[[]]" .auto = .ok [[]] ∧
      readResidual "[1] = [x]" .auto =
        .ok [[⟨.call [.ref [.var "eq"], .array [.number "1"], .array [.var "x"]], false⟩]] ∧
      execute { residual := some "[1] = [2]", format := .auto } =
        .ok (.sql "ARRAY[1] = ARRAY[2]") := by
  have hjson : readResidual "[[]]" .json = .ok [[]] := rfl
  have htext : readResidual "[1] = [x]" .text =
      .ok [[.ofCall "eq" [.array [.number "1"], .array [.var "x"]]]] :=
    readResidual_of_text (by decide +kernel) (by decide +kernel) (by decide)
  have hsql : execute { residual := some "[1] = [2]", format := .text } =
      .ok (.sql "ARRAY[1] = ARRAY[2]") := by
    have hread : readResidual "[1] = [2]" .text =
        .ok [[.ofCall "eq" [.array [.number "1"], .array [.number "2"]]]] :=
      readResidual_of_text (by decide +kernel) (by decide +kernel) (by decide)
    rw [execute_eq rfl, hread]
    rfl
  refine ⟨auto_agrees.1 _ _ hjson, auto_agrees.2.1 _ _ htext ?_,
    auto_agrees.2.2 { residual := some "[1] = [2]" } _ hsql⟩
  rintro ⟨t, -, h⟩
  cases h

end Command

end RowFilter
