import Mathlib.Data.List.Forall2
import RowFilter.Proofs.Compile.Inversion
import RowFilter.Residual.Decoder

/-!
# The JSON encoding of residuals

When a JSON value encodes a residual is said here without the decoder: as relations between values
and what they stand for, with one rule for each way to write it.

```text
residual    an array of queries | {"queries": array of queries, or null, or missing}
            | {"result": residual}
query       an array of expressions
expression  {"terms": array of terms, or a term, "negated": boolean, or null, or missing}
term        {"type": kind, "value": content}
            | {"type": "null", "value": anything, or missing}
```

Of members with the same name the last one counts, and members that are not named above do not
matter.  The decoder accepts exactly these values, and what it answers is what they encode.

* `Json.Holds`, `Json.Lacks` — the members of an object.
* `EncodesTerm`, `EncodesExpression`, `EncodesResidual` — the encoding.
* `Residual.toJson` — a value that encodes a residual.
* `Residual.ofJson_iff_encodes` — the decoder accepts exactly the encodings.
-/

set_option autoImplicit false

namespace RowFilter

/-! ## Members -/

namespace Json

/-- **The value is that of the last member of the given name.** -/
def Holds (members : List (String × Json)) (name : String) (value : Json) : Prop :=
  ∃ before after, members = before ++ (name, value) :: after ∧ ∀ m ∈ after, m.1 ≠ name

/-- There is no member of the given name. -/
def Lacks (members : List (String × Json)) (name : String) : Prop :=
  ∀ m ∈ members, m.1 ≠ name

variable {name : String} {value : Json} {members : List (String × Json)}

theorem lastMember_eq_none_iff : lastMember name members = none ↔ Lacks members name := by
  induction members with
  | nil => simp [lastMember, Lacks]
  | cons m members ih =>
    obtain ⟨key, v⟩ := m
    rw [lastMember, Lacks, List.forall_mem_cons, ← Lacks, ← ih]
    cases lastMember name members with
    | some v' => simp
    | none => simp

theorem lastMember_eq_some_iff :
    lastMember name members = some value ↔ Holds members name value := by
  constructor
  · intro h
    induction members with
    | nil => cases h
    | cons m members ih =>
      obtain ⟨key, v⟩ := m
      rw [lastMember] at h
      cases hrest : lastMember name members with
      | some v' =>
        rw [hrest] at h
        obtain ⟨before, after, rfl, hafter⟩ := ih (hrest.trans h)
        exact ⟨(key, v) :: before, after, rfl, hafter⟩
      | none =>
        rw [hrest] at h
        obtain ⟨rfl, ⟨⟩⟩ := Option.ite_none_right_eq_some.1 h
        exact ⟨[], members, rfl, lastMember_eq_none_iff.1 hrest⟩
  · rintro ⟨before, after, rfl, hafter⟩
    induction before with
    | nil => rw [List.nil_append, lastMember, lastMember_eq_none_iff.2 hafter, if_pos rfl]
    | cons m before ih => rw [List.cons_append, lastMember, ih]

theorem has_eq (name : String) (members : List (String × Json)) :
    has name members = (lastMember name members).isSome := by
  induction members with
  | nil => rfl
  | cons m members ih =>
    obtain ⟨key, v⟩ := m
    rw [has, List.any_cons, ← has, ih, lastMember]
    cases lastMember name members with
    | some v' => simp
    | none => by_cases hkey : key = name <;> simp [hkey]

/-- A member is smaller than its object. -/
theorem Holds.sizeOf_lt (h : Holds members name value) :
    sizeOf value < sizeOf (Json.object members) := by
  obtain ⟨before, after, rfl, -⟩ := h
  have hmem := List.sizeOf_lt_of_mem (List.mem_append_right before
    (List.mem_cons_self (a := (name, value)) (l := after)))
  simp only [Prod.mk.sizeOf_spec] at hmem
  simp only [Json.object.sizeOf_spec]
  omega

end Json

open Json (Holds Lacks)

/-! ## The encoding -/

mutual

/-- **The value encodes the term**: it names a kind, and has the content of a term of this kind.  A
missing content counts as null. -/
inductive EncodesTerm : Json → Term → Prop
  | given {members : List (String × Json)} {kind : String} {value : Json} {t : Term} :
      Holds members "type" (.string kind) → Holds members "value" value →
      EncodesContent kind value t → EncodesTerm (.object members) t
  | missing {members : List (String × Json)} {kind : String} {t : Term} :
      Holds members "type" (.string kind) → Lacks members "value" →
      EncodesContent kind .null t → EncodesTerm (.object members) t

/-- The value is the content of the term, which is of the given kind. -/
inductive EncodesContent : String → Json → Term → Prop
  | null (value : Json) : EncodesContent "null" value .null
  | boolean (b : Bool) : EncodesContent "boolean" (.boolean b) (.boolean b)
  | number (text : String) : EncodesContent "number" (.number text) (.number text)
  | string (s : String) : EncodesContent "string" (.string s) (.string s)
  | var (name : String) : EncodesContent "var" (.string name) (.var name)
  | ref {items : List Json} {ts : List Term} : EncodesTerms items ts →
      EncodesContent "ref" (.array items) (.ref ts)
  | array {items : List Json} {ts : List Term} : EncodesTerms items ts →
      EncodesContent "array" (.array items) (.array ts)
  | set {items : List Json} {ts : List Term} : EncodesTerms items ts →
      EncodesContent "set" (.array items) (.set ts)
  | call {items : List Json} {ts : List Term} : EncodesTerms items ts →
      EncodesContent "call" (.array items) (.call ts)
  | object {items : List Json} {es : List (Term × Term)} : EncodesEntries items es →
      EncodesContent "object" (.array items) (.object es)

/-- The values encode the terms, one by one. -/
inductive EncodesTerms : List Json → List Term → Prop
  | nil : EncodesTerms [] []
  | cons {item : Json} {items : List Json} {t : Term} {ts : List Term} :
      EncodesTerm item t → EncodesTerms items ts → EncodesTerms (item :: items) (t :: ts)

/-- The values encode the entries of an object, one by one, as pairs of a key and a value. -/
inductive EncodesEntries : List Json → List (Term × Term) → Prop
  | nil : EncodesEntries [] []
  | cons {key value : Json} {items : List Json} {k v : Term} {es : List (Term × Term)} :
      EncodesTerm key k → EncodesTerm value v → EncodesEntries items es →
      EncodesEntries (.array [key, value] :: items) ((k, v) :: es)

end

/-- The members say whether an expression is negated. -/
inductive EncodesNegated (members : List (String × Json)) : Bool → Prop
  | given (b : Bool) : Holds members "negated" (.boolean b) → EncodesNegated members b
  | null : Holds members "negated" .null → EncodesNegated members false
  | missing : Lacks members "negated" → EncodesNegated members false

/-- The members give the condition of an expression: a call by the array of its terms, a single term
by itself. -/
inductive EncodesCondition (members : List (String × Json)) : Condition → Prop
  | call {items : List Json} {ts : List Term} : Holds members "terms" (.array items) →
      EncodesTerms items ts → EncodesCondition members (.call ts)
  | term {fields : List (String × Json)} {t : Term} : Holds members "terms" (.object fields) →
      EncodesTerm (.object fields) t → EncodesCondition members (.term t)

/-- The value encodes the expression. -/
inductive EncodesExpression : Json → Expression → Prop
  | given {members : List (String × Json)} {condition : Condition} {negated : Bool} :
      EncodesNegated members negated → EncodesCondition members condition →
      EncodesExpression (.object members) ⟨condition, negated⟩

/-- The value encodes the query. -/
inductive EncodesQuery : Json → Query → Prop
  | list {items : List Json} {q : Query} : List.Forall₂ EncodesExpression items q →
      EncodesQuery (.array items) q

/-- **The value encodes the residual.** -/
inductive EncodesResidual : Json → Residual → Prop
  | list {items : List Json} {r : Residual} : List.Forall₂ EncodesQuery items r →
      EncodesResidual (.array items) r
  | queries {members : List (String × Json)} {items : List Json} {r : Residual} :
      Lacks members "result" → Holds members "queries" (.array items) →
      List.Forall₂ EncodesQuery items r → EncodesResidual (.object members) r
  | null {members : List (String × Json)} : Lacks members "result" →
      Holds members "queries" .null → EncodesResidual (.object members) []
  | missing {members : List (String × Json)} : Lacks members "result" →
      Lacks members "queries" → EncodesResidual (.object members) []
  | result {members : List (String × Json)} {value : Json} {r : Residual} :
      Holds members "result" value → EncodesResidual value r →
      EncodesResidual (.object members) r

namespace Decoder

/-! ## Terms -/

theorem memberContent_eq (kind : String) (members : List (String × Json)) :
    memberContent kind members =
      content kind ((Json.lastMember "value" members).getD .null) := by
  induction members with
  | nil => rfl
  | cons m members ih =>
    obtain ⟨key, value⟩ := m
    rw [memberContent, Json.lastMember, Json.has_eq, ih]
    cases Json.lastMember "value" members with
    | some v => simp
    | none => by_cases hkey : key = "value" <;> simp [hkey]

theorem term_of_kind {members : List (String × Json)} {kind : String}
    (h : Holds members "type" (.string kind)) :
    term (.object members) = content kind ((Json.lastMember "value" members).getD .null) := by
  rw [term, kindOf, Json.lastMember_eq_some_iff.2 h]
  exact memberContent_eq kind members

/-- Only an object that names its kind encodes a term. -/
theorem exists_kind_of_term {v : Json} {t : Term} (h : term v = .ok t) :
    ∃ members kind, v = .object members ∧ Holds members "type" (.string kind) := by
  cases v with
  | object members =>
    rw [term] at h
    split at h
    · cases h
    · next kind hkind =>
      rw [kindOf] at hkind
      split at hkind
      · cases hkind
      · next hk =>
        cases hkind
        exact ⟨members, kind, rfl, Json.lastMember_eq_some_iff.1 hk⟩
      · cases hkind
  | _ => cases h

theorem encodes_of_leaf {kind : String} {value : Json} {t : Term} (h : leaf kind value = .ok t) :
    EncodesContent kind value t := by
  unfold leaf at h
  split at h
  · cases h
    exact .null _
  · cases h
    exact .boolean _
  · cases h
    exact .number _
  · cases h
    exact .string _
  · cases h
    exact .var _
  · split at h <;> cases h

theorem terms_cons_eq_ok {item : Json} {items : List Json} {ts : List Term}
    (h : terms (item :: items) = .ok ts) :
    ∃ t us, ts = t :: us ∧ term item = .ok t ∧ terms items = .ok us := by
  rw [terms] at h
  cases ht : term item with
  | error e => rw [ht] at h; cases h
  | ok t =>
    cases hus : terms items with
    | error e => rw [ht, hus] at h; cases h
    | ok us =>
      rw [ht, hus] at h
      cases h
      exact ⟨t, us, rfl, rfl, rfl⟩

theorem entries_cons_eq_ok {item : Json} {items : List Json} {es : List (Term × Term)}
    (h : entries (item :: items) = .ok es) :
    ∃ key value k v fs, item = .array [key, value] ∧ es = (k, v) :: fs ∧ term key = .ok k ∧
      term value = .ok v ∧ entries items = .ok fs := by
  rw [entries.eq_def] at h
  dsimp only at h
  split at h
  · next key value =>
    cases hk : term key with
    | error e => rw [hk] at h; cases h
    | ok k =>
      cases hv : term value with
      | error e => rw [hk, hv] at h; cases h
      | ok v =>
        cases hfs : entries items with
        | error e => rw [hk, hv, hfs] at h; cases h
        | ok fs =>
          rw [hk, hv, hfs] at h
          cases h
          exact ⟨key, value, k, v, fs, rfl, rfl, hk, hv, rfl⟩
  · cases h

mutual

/-- **What is decoded as a term encodes it.** -/
theorem encodes_of_term {v : Json} {t : Term} (h : term v = .ok t) : EncodesTerm v t := by
  obtain ⟨members, kind, rfl, hkind⟩ := exists_kind_of_term h
  rw [term_of_kind hkind] at h
  cases hvalue : Json.lastMember "value" members with
  | none =>
    rw [hvalue] at h
    exact .missing hkind (Json.lastMember_eq_none_iff.1 hvalue) (encodes_of_leaf h)
  | some value =>
    rw [hvalue] at h
    have hholds := Json.lastMember_eq_some_iff.1 hvalue
    have hsize := hholds.sizeOf_lt
    exact .given hkind hholds (encodes_of_content h)
termination_by sizeOf v

theorem encodes_of_content {kind : String} {value : Json} {t : Term}
    (h : content kind value = .ok t) : EncodesContent kind value t := by
  cases value with
  | array items =>
    rw [content] at h
    split at h
    · next hkind =>
      obtain ⟨ts, hts, rfl⟩ := exists_of_map_eq_ok h
      exact hkind ▸ .ref (encodes_of_terms hts)
    split at h
    · next hkind =>
      obtain ⟨ts, hts, rfl⟩ := exists_of_map_eq_ok h
      exact hkind ▸ .array (encodes_of_terms hts)
    split at h
    · next hkind =>
      obtain ⟨ts, hts, rfl⟩ := exists_of_map_eq_ok h
      exact hkind ▸ .set (encodes_of_terms hts)
    split at h
    · next hkind =>
      obtain ⟨ts, hts, rfl⟩ := exists_of_map_eq_ok h
      exact hkind ▸ .call (encodes_of_terms hts)
    split at h
    · next hkind =>
      obtain ⟨es, hes, rfl⟩ := exists_of_map_eq_ok h
      exact hkind ▸ .object (encodes_of_entries hes)
    · exact encodes_of_leaf h
  | _ => exact encodes_of_leaf h
termination_by sizeOf value

theorem encodes_of_terms {items : List Json} {ts : List Term} (h : terms items = .ok ts) :
    EncodesTerms items ts := by
  cases items with
  | nil =>
    cases h
    exact .nil
  | cons item items =>
    obtain ⟨t, us, rfl, ht, hus⟩ := terms_cons_eq_ok h
    exact .cons (encodes_of_term ht) (encodes_of_terms hus)
termination_by sizeOf items

theorem encodes_of_entries {items : List Json} {es : List (Term × Term)}
    (h : entries items = .ok es) : EncodesEntries items es := by
  cases items with
  | nil =>
    cases h
    exact .nil
  | cons item items =>
    obtain ⟨key, value, k, v, fs, rfl, rfl, hk, hv, hfs⟩ := entries_cons_eq_ok h
    exact .cons (encodes_of_term hk) (encodes_of_term hv) (encodes_of_entries hfs)
termination_by sizeOf items

end

mutual

/-- **What encodes a term is decoded as it.** -/
theorem term_of_encodes {v : Json} {t : Term} : EncodesTerm v t → term v = .ok t
  | .given hkind hvalue hcontent => by
    rw [term_of_kind hkind, Json.lastMember_eq_some_iff.2 hvalue]
    exact content_of_encodes hcontent
  | .missing hkind hvalue hcontent => by
    rw [term_of_kind hkind, Json.lastMember_eq_none_iff.2 hvalue]
    exact content_of_encodes hcontent

theorem content_of_encodes {kind : String} {value : Json} {t : Term} :
    EncodesContent kind value t → content kind value = .ok t
  | .null value => by cases value <;> rfl
  | .boolean b => rfl
  | .number text => rfl
  | .string s => rfl
  | .var name => rfl
  | .ref hts => by
    rw [content, terms_of_encodes hts]
    rfl
  | .array hts => by
    rw [content, terms_of_encodes hts]
    rfl
  | .set hts => by
    rw [content, terms_of_encodes hts]
    rfl
  | .call hts => by
    rw [content, terms_of_encodes hts]
    rfl
  | .object hes => by
    rw [content, entries_of_encodes hes]
    rfl

theorem terms_of_encodes {items : List Json} {ts : List Term} :
    EncodesTerms items ts → terms items = .ok ts
  | .nil => rfl
  | .cons ht hts => by
    rw [terms, term_of_encodes ht, terms_of_encodes hts]
    rfl

theorem entries_of_encodes {items : List Json} {es : List (Term × Term)} :
    EncodesEntries items es → entries items = .ok es
  | .nil => rfl
  | .cons hk hv hes => by
    rw [entries.eq_def]
    dsimp only
    rw [term_of_encodes hk, term_of_encodes hv, entries_of_encodes hes]
    rfl

end

theorem term_eq_ok_iff {v : Json} {t : Term} : term v = .ok t ↔ EncodesTerm v t :=
  ⟨encodes_of_term, term_of_encodes⟩

theorem terms_eq_ok_iff {items : List Json} {ts : List Term} :
    terms items = .ok ts ↔ EncodesTerms items ts :=
  ⟨encodes_of_terms, terms_of_encodes⟩

/-! ## Expressions, queries and residuals -/

theorem negatedOf_eq_ok_iff {members : List (String × Json)} {negated : Bool} :
    negatedOf members = .ok negated ↔ EncodesNegated members negated := by
  constructor
  · intro h
    rw [negatedOf] at h
    split at h
    · next hlast =>
      cases h
      exact .missing (Json.lastMember_eq_none_iff.1 hlast)
    · next hlast =>
      cases h
      exact .null (Json.lastMember_eq_some_iff.1 hlast)
    · next hlast =>
      cases h
      exact .given _ (Json.lastMember_eq_some_iff.1 hlast)
    · cases h
  · intro h
    rw [negatedOf]
    cases h with
    | given b hlast => rw [Json.lastMember_eq_some_iff.2 hlast]
    | null hlast => rw [Json.lastMember_eq_some_iff.2 hlast]
    | missing hlast => rw [Json.lastMember_eq_none_iff.2 hlast]

theorem conditionOf_eq_ok_iff {members : List (String × Json)} {c : Condition} :
    conditionOf members = .ok c ↔ EncodesCondition members c := by
  constructor
  · intro h
    rw [conditionOf] at h
    split at h
    · cases h
    · next hlast =>
      obtain ⟨ts, hts, rfl⟩ := exists_of_map_eq_ok h
      exact .call (Json.lastMember_eq_some_iff.1 hlast) (terms_eq_ok_iff.1 hts)
    · next hlast =>
      obtain ⟨t, ht, rfl⟩ := exists_of_map_eq_ok h
      exact .term (Json.lastMember_eq_some_iff.1 hlast) (term_eq_ok_iff.1 ht)
    · cases h
  · intro h
    rw [conditionOf]
    cases h with
    | call hlast hts =>
      rw [Json.lastMember_eq_some_iff.2 hlast]
      dsimp only
      rw [terms_eq_ok_iff.2 hts]
      rfl
    | term hlast ht =>
      rw [Json.lastMember_eq_some_iff.2 hlast]
      dsimp only
      rw [term_eq_ok_iff.2 ht]
      rfl

theorem expression_eq_ok_iff {v : Json} {x : Expression} :
    expression v = .ok x ↔ EncodesExpression v x := by
  constructor
  · intro h
    cases v with
    | object members =>
      rw [expression] at h
      cases hnegated : negatedOf members with
      | error e => rw [hnegated] at h; cases h
      | ok negated =>
        cases hcondition : conditionOf members with
        | error e => rw [hnegated, hcondition] at h; cases h
        | ok condition =>
          rw [hnegated, hcondition] at h
          cases h
          exact .given (negatedOf_eq_ok_iff.1 hnegated) (conditionOf_eq_ok_iff.1 hcondition)
    | _ => cases h
  · intro h
    cases h with
    | given hnegated hcondition =>
      rw [expression, negatedOf_eq_ok_iff.2 hnegated, conditionOf_eq_ok_iff.2 hcondition]
      rfl

theorem query_eq_ok_iff {v : Json} {q : Query} : query v = .ok q ↔ EncodesQuery v q := by
  have hitems (items : List Json) :
      items.mapM expression = .ok q ↔ List.Forall₂ EncodesExpression items q := by
    simp only [mapM_eq_ok_iff, expression_eq_ok_iff]
  constructor
  · intro h
    cases v with
    | array items => exact .list ((hitems items).1 h)
    | _ => cases h
  · rintro ⟨h⟩
    exact (hitems _).2 h

/-- Only an array holds queries. -/
theorem queries_eq_ok_iff {v : Json} {r : Residual} :
    queries v = .ok r ↔ ∃ items, v = .array items ∧ List.Forall₂ EncodesQuery items r := by
  have hitems (items : List Json) :
      items.mapM query = .ok r ↔ List.Forall₂ EncodesQuery items r := by
    simp only [mapM_eq_ok_iff, query_eq_ok_iff]
  constructor
  · intro h
    cases v with
    | array items => exact ⟨items, rfl, (hitems items).1 h⟩
    | _ => cases h
  · rintro ⟨items, rfl, h⟩
    exact (hitems items).2 h

theorem wrapped_eq (members : List (String × Json)) :
    wrapped members = (Json.lastMember "result" members).map residual := by
  induction members with
  | nil => rfl
  | cons m members ih =>
    obtain ⟨key, value⟩ := m
    rw [wrapped, Json.lastMember, ih]
    cases Json.lastMember "result" members with
    | some v => rfl
    | none => by_cases hkey : key = "result" <;> simp [hkey]

theorem residual_array (items : List Json) :
    residual (.array items) = queries (.array items) := by
  simp only [residual]

theorem residual_of_result {members : List (String × Json)} {value : Json}
    (h : Holds members "result" value) : residual (.object members) = residual value := by
  rw [residual, wrapped_eq, Json.lastMember_eq_some_iff.2 h]
  rfl

theorem residual_of_lacks {members : List (String × Json)} (h : Lacks members "result") :
    residual (.object members) =
      match Json.lastMember "queries" members with
      | none => .ok []
      | some .null => .ok []
      | some value => queries value := by
  rw [residual, wrapped_eq, Json.lastMember_eq_none_iff.2 h]
  rfl

/-- **What is decoded as a residual encodes it.** -/
theorem encodes_of_residual {v : Json} {r : Residual} (h : residual v = .ok r) :
    EncodesResidual v r := by
  cases v with
  | array items =>
    rw [residual_array] at h
    obtain ⟨_, ⟨⟩, hitems⟩ := queries_eq_ok_iff.1 h
    exact .list hitems
  | object members =>
    cases hresult : Json.lastMember "result" members with
    | some value =>
      have hholds := Json.lastMember_eq_some_iff.1 hresult
      have hsize := hholds.sizeOf_lt
      rw [residual_of_result hholds] at h
      exact .result hholds (encodes_of_residual h)
    | none =>
      have hlacks := Json.lastMember_eq_none_iff.1 hresult
      rw [residual_of_lacks hlacks] at h
      split at h
      · next hqueries =>
        cases h
        exact .missing hlacks (Json.lastMember_eq_none_iff.1 hqueries)
      · next hqueries =>
        cases h
        exact .null hlacks (Json.lastMember_eq_some_iff.1 hqueries)
      · next hqueries =>
        obtain ⟨items, rfl, hitems⟩ := queries_eq_ok_iff.1 h
        exact .queries hlacks (Json.lastMember_eq_some_iff.1 hqueries) hitems
  | _ => cases h
termination_by sizeOf v

/-- **What encodes a residual is decoded as it.** -/
theorem residual_of_encodes {v : Json} {r : Residual} (h : EncodesResidual v r) :
    residual v = .ok r := by
  induction h with
  | list hitems =>
    rw [residual_array]
    exact queries_eq_ok_iff.2 ⟨_, rfl, hitems⟩
  | queries hlacks hqueries hitems =>
    rw [residual_of_lacks hlacks, Json.lastMember_eq_some_iff.2 hqueries]
    exact queries_eq_ok_iff.2 ⟨_, rfl, hitems⟩
  | null hlacks hqueries => rw [residual_of_lacks hlacks, Json.lastMember_eq_some_iff.2 hqueries]
  | missing hlacks hqueries => rw [residual_of_lacks hlacks, Json.lastMember_eq_none_iff.2 hqueries]
  | result hholds _ ih => rw [residual_of_result hholds, ih]

end Decoder

/-! ## An encoding of every residual -/

/-- The object with the given type and value. -/
def Json.typed (kind : String) (value : Json) : Json :=
  .object [("type", .string kind), ("value", value)]

theorem EncodesContent.typed {kind : String} {value : Json} {t : Term}
    (h : EncodesContent kind value t) : EncodesTerm (Json.typed kind value) t :=
  .given ⟨[], [("value", value)], rfl, by simp⟩ ⟨[("type", .string kind)], [], rfl, by simp⟩ h

namespace Term

mutual

/-- The content of a term. -/
def content : Term → Json
  | null => .null
  | boolean b => .boolean b
  | number text => .number text
  | string s => .string s
  | var name => .string name
  | ref ts => .array (listToJson ts)
  | array ts => .array (listToJson ts)
  | set ts => .array (listToJson ts)
  | object es => .array (entriesToJson es)
  | call ts => .array (listToJson ts)

/-- The encodings of the terms. -/
def listToJson : List Term → List Json
  | [] => []
  | t :: ts => .typed t.kindName t.content :: listToJson ts

/-- The encodings of the entries of an object. -/
def entriesToJson : List (Term × Term) → List Json
  | [] => []
  | (k, v) :: es =>
    .array [.typed k.kindName k.content, .typed v.kindName v.content] :: entriesToJson es

end

/-- The encoding of a term. -/
def toJson (t : Term) : Json :=
  .typed t.kindName t.content

mutual

theorem encodesContent_content : (t : Term) → EncodesContent t.kindName t.content t
  | null => .null .null
  | boolean b => .boolean b
  | number text => .number text
  | string s => .string s
  | var name => .var name
  | ref ts => .ref (encodesTerms_listToJson ts)
  | array ts => .array (encodesTerms_listToJson ts)
  | set ts => .set (encodesTerms_listToJson ts)
  | object es => .object (encodesEntries_entriesToJson es)
  | call ts => .call (encodesTerms_listToJson ts)

theorem encodesTerms_listToJson : (ts : List Term) → EncodesTerms (listToJson ts) ts
  | [] => .nil
  | t :: ts => .cons (encodesContent_content t).typed (encodesTerms_listToJson ts)

theorem encodesEntries_entriesToJson :
    (es : List (Term × Term)) → EncodesEntries (entriesToJson es) es
  | [] => .nil
  | (k, v) :: es =>
    .cons (encodesContent_content k).typed (encodesContent_content v).typed
      (encodesEntries_entriesToJson es)

end

end Term

/-- The encoding of a condition. -/
def Condition.toJson : Condition → Json
  | call ts => .array (Term.listToJson ts)
  | term t => t.toJson

/-- The encoding of an expression. -/
def Expression.toJson (x : Expression) : Json :=
  .object [("negated", .boolean x.negated), ("terms", x.condition.toJson)]

/-- The encoding of a query. -/
def Query.toJson (q : Query) : Json :=
  .array (q.map Expression.toJson)

/-- **The encoding of a residual.** -/
def Residual.toJson (r : Residual) : Json :=
  .object [("queries", .array (r.map Query.toJson))]

theorem Expression.encodes_toJson (x : Expression) : EncodesExpression x.toJson x := by
  obtain ⟨condition, negated⟩ := x
  refine .given (.given negated ⟨[], [("terms", condition.toJson)], rfl, by simp⟩) ?_
  have hterms : Holds [("negated", .boolean negated), ("terms", condition.toJson)] "terms"
      condition.toJson := ⟨[("negated", .boolean negated)], [], rfl, by simp⟩
  cases condition with
  | call ts => exact .call hterms (Term.encodesTerms_listToJson ts)
  | term t => exact .term hterms (Term.encodesContent_content t).typed

theorem Query.encodes_toJson (q : Query) : EncodesQuery q.toJson q :=
  .list (List.forall₂_map_left_iff.2 (List.forall₂_same.2 fun x _ => x.encodes_toJson))

theorem Residual.encodes_toJson (r : Residual) : EncodesResidual r.toJson r :=
  .queries (by simp [Lacks]) ⟨[], [], rfl, by simp⟩
    (List.forall₂_map_left_iff.2 (List.forall₂_same.2 fun q _ => Query.encodes_toJson q))

/-- **The decoder accepts exactly the encodings of residuals, and answers what they encode.**  Every
residual has an encoding, from which it is read back. -/
theorem Residual.ofJson_iff_encodes :
    (∀ (v : Json) (r : Residual), Residual.ofJson v = .ok r ↔ EncodesResidual v r) ∧
      ∀ r : Residual, Residual.ofJson r.toJson = .ok r :=
  ⟨fun _ _ => ⟨Decoder.encodes_of_residual, Decoder.residual_of_encodes⟩,
    fun r => Decoder.residual_of_encodes r.encodes_toJson⟩

end RowFilter
