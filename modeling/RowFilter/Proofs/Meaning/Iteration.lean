import Mathlib.Data.List.Nodup
import RowFilter.Proofs.Meaning.Residual

/-!
# Iteration by variables

A reference iterates over an array by the variable at its end.  Where the variable has a name, all
places of a query at which it stands mean the same index; only `_` means another one each time.
Compiled residuals do not know that: each call ranges over the elements by itself, as
`Term.values` has it.

This file says what a query means once an index has been chosen for every named variable, and
compares the two.  They agree on queries where each name iterates at one place only: if such a query
holds, then it does so for one choice of indices.

* `Choice` — an index for every variable.
* `Query.holdsAt` — whether a query holds at a choice.
* `Query.iterators` — the names that iterate in a query, once for each place.
* `Query.exists_choice` — a query holds at a choice if no name iterates at two places.
-/

set_option autoImplicit false

namespace RowFilter

open Compile (Settings reference)
open Sql (Node)

/-! ## The variable that iterates -/

section Iterators

variable {path : Path} {sql : String} {type : ValueType}

theorem Resolver.getLast?_of_wholeOrElement {sql' : String} {type' : ValueType} {rest : Path}
    (h : wholeOrElement sql' type' rest = some (.column sql type .anyElement)) :
    ∃ x, rest.getLast? = some (.wildcard x) := by
  unfold wholeOrElement at h
  split at h
  · cases h
  · exact ⟨_, rfl⟩
  · cases h

theorem Projection.getLast?_of_project {m : Catalog.Match}
    (h : project path m = some (.column sql type .anyElement)) :
    ∃ x, m.rest.getLast? = some (.wildcard x) := by
  have hiterates : m.rest.getLast?.any Segment.isWildcard = true := by
    by_contra hiterates
    simp only [project, hiterates] at h
    split at h
    · cases h
    · obtain ⟨-, hname⟩ := Option.ite_none_left_eq_some.1 h
      obtain ⟨_, -, ⟨⟩⟩ := Option.map_eq_some_iff.1 hname
  obtain ⟨last, hlast, hwildcard⟩ := (Option.any_eq_true _ _).1 hiterates
  cases last with
  | wildcard x => exact ⟨x, hlast⟩
  | _ => cases hwildcard

/-- Any element of a column is meant only by a path whose last step iterates. -/
theorem Resolver.getLast?_of_resolve {r : Resolver}
    (h : r.resolve path = some (.column sql type .anyElement)) :
    ∃ x, path.getLast? = some (.wildcard x) := by
  cases r with
  | column lead sql' type' =>
    obtain ⟨rest, hrest, h⟩ := Option.bind_eq_some_iff.1 h
    obtain ⟨x, hx⟩ := getLast?_of_wholeOrElement h
    refine ⟨x, ?_⟩
    rw [← List.append_eq_of_isPrefixOf?_eq_some hrest, List.getLast?_append, hx]
    rfl
  | accessList lead sql' =>
    simp only [resolve] at h
    split at h
    · next group rest hrest =>
      obtain ⟨x, hx⟩ := getLast?_of_wholeOrElement h
      refine ⟨x, ?_⟩
      rw [← List.append_eq_of_isPrefixOf?_eq_some hrest, List.getLast?_append,
        List.getLast?_cons, hx]
      rfl
    · cases h
  | catalog c =>
    obtain ⟨m, hm, h⟩ := Option.bind_eq_some_iff.1 h
    obtain ⟨f, -, rfl⟩ := Option.map_eq_some_iff.1 hm
    obtain ⟨x, hx⟩ := Projection.getLast?_of_project h
    rw [List.getLast?_drop] at hx
    exact ⟨x, (Option.ite_none_left_eq_some.1 hx).2⟩

theorem Path.segment_eq_wildcard {t : Term} {x : String} (h : segment t = .ok (.wildcard x)) :
    t = .var x := by
  cases t with
  | var y =>
    cases h
    rfl
  | number text =>
    simp only [segment] at h
    split at h
    · split at h <;> cases h
    · cases h
  | _ => cases h

theorem Path.getLast?_of_ofRef {segments : List Term} {x : String} (h : ofRef segments = .ok path)
    (hx : path.getLast? = some (.wildcard x)) : segments.getLast? = some (.var x) := by
  unfold ofRef at h
  split at h
  · cases h
  · next head rest =>
    cases hsteps : rest.mapM segment with
    | error e =>
      rw [hsteps] at h
      cases h
    | ok steps =>
      rw [hsteps] at h
      cases h
      have hforall := List.forall₂_reverse_iff.2 (mapM_eq_ok_iff.1 hsteps)
      rw [List.getLast?_eq_head?_reverse] at hx ⊢
      rw [List.reverse_cons, List.head?_append] at hx ⊢
      generalize rest.reverse = ts, steps.reverse = ws at hforall hx
      cases hforall with
      | nil => cases hx
      | cons hsegment _ =>
        cases hx
        rw [segment_eq_wildcard hsegment]
        rfl
  · cases h

/-- **A reference to any element ends with a variable.** -/
theorem Compile.exists_var_of_reference {s : Settings} {segments : List Term}
    (h : reference s segments = .ok (.column sql type .anyElement)) :
    ∃ x, segments.getLast? = some (.var x) := by
  obtain ⟨path, rs, r, hpath, -, hfirst⟩ := resolver_of_reference h
  obtain ⟨x, hx⟩ := Resolver.getLast?_of_resolve (Resolver.resolve_of_first hfirst).2
  exact ⟨x, Path.getLast?_of_ofRef hpath hx⟩

end Iterators

/-! ## Values at a choice -/

/-- An index for every variable. -/
abbrev Choice := String → Nat

variable (s : Settings) (ρ : Assignment)

namespace Term

mutual

/-- The values that a term may take, if its references may take those that `leaf` gives. -/
def valuesBy (leaf : List Term → List Value) : Term → List Value
  | null => []
  | boolean b => [.boolean b]
  | number text => [.number (Number.value text)]
  | string text => [.string text]
  | var _ => []
  | ref segments => leaf segments
  | array es => arraysOf (valuesOfBy leaf es)
  | set es => arraysOf ((valuesOfBy leaf es).mergeSort fun a b => (cmp a.1 b.1).isLE)
  | object _ => []
  | call ts => callValuesBy leaf ts

/-- The terms of a list, each with the values that it may take. -/
def valuesOfBy (leaf : List Term → List Value) : List Term → List (Term × List Value)
  | [] => []
  | t :: ts => (t, t.valuesBy leaf) :: valuesOfBy leaf ts

/-- The values that a call may take. -/
def callValuesBy (leaf : List Term → List Value) : List Term → List Value
  | [] => []
  | operator :: arguments => callValue s ρ operator (valuesOfBy leaf arguments)

end

/-- The values that a segment picks among those of the elements: all of them for `_`, and that at
the chosen index for a name. -/
def picked (ι : Choice) (vs : List Value) : Option Term → List Value
  | some (var x) => if x = "_" then vs else vs[ι x]?.toList
  | _ => []

/-- The values that a reference may take at a choice. -/
def referenceValuesAt (ι : Choice) (segments : List Term) : List Value :=
  if (ref segments).isElementwise s then
    picked ι (referenceValues s ρ segments) segments.getLast?
  else referenceValues s ρ segments

/-- **The values that a term may take at a choice.** -/
def valuesAt (ι : Choice) (t : Term) : List Value :=
  t.valuesBy s ρ (referenceValuesAt s ρ ι)

/-- The name by which a reference iterates. -/
def iteratorOf (segments : List Term) : List String :=
  if (ref segments).isElementwise s then
    match segments.getLast? with
    | some (var x) => if x = "_" then [] else [x]
    | _ => []
  else []

/-- The names by which the references of a term iterate, once for each place. -/
def iterators (t : Term) : List String :=
  t.references.flatMap (iteratorOf s)

end Term

/-- Whether an expression is true at a choice. -/
def Expression.holdsAt (ι : Choice) (e : Expression) : Bool :=
  decide (.boolean true ∈ e.condition.asserted.valuesAt s ρ ι) != e.negated

namespace Query

/-- **Whether all expressions of a query are true at a choice.** -/
def holdsAt (ι : Choice) (q : Query) : Bool :=
  q.all (Expression.holdsAt s ρ ι)

/-- The references of a query. -/
def references (q : Query) : List (List Term) :=
  q.flatMap fun e => e.condition.references

/-- **The names that iterate in a query**, once for each place. -/
def iterators (q : Query) : List String :=
  q.references.flatMap (Term.iteratorOf s)

end Query

/-- **Every reference that has a value has one at the choice**: the index lies within the array that
it iterates over, unless this is empty. -/
def Covers (ι : Choice) (references : List (List Term)) : Prop :=
  ∀ segments ∈ references, Term.referenceValues s ρ segments ≠ [] →
    Term.referenceValuesAt s ρ ι segments ≠ []

variable {s ρ}

namespace Term

variable {leaf leaf' : List Term → List Value}

theorem valuesOfBy_eq (ts : List Term) :
    valuesOfBy s ρ leaf ts = ts.map fun t => (t, t.valuesBy s ρ leaf) := by
  induction ts with
  | nil => rfl
  | cons t ts ih => rw [valuesOfBy, ih, List.map_cons]

theorem valuesBy_set (es : List Term) :
    valuesBy s ρ leaf (set es) = valuesBy s ρ leaf (array (sorted es)) := by
  rw [valuesBy, valuesBy, valuesOfBy_eq, valuesOfBy_eq, mergeSort_map_pair]

theorem valuesOfBy_congr {ts : List Term}
    (h : ∀ t ∈ ts, t.valuesBy s ρ leaf = t.valuesBy s ρ leaf') :
    valuesOfBy s ρ leaf ts = valuesOfBy s ρ leaf' ts := by
  rw [valuesOfBy_eq, valuesOfBy_eq]
  exact List.map_congr_left fun t ht => by rw [h t ht]

/-- **A term depends on its references only.** -/
theorem valuesBy_congr {t : Term} (h : ∀ segments ∈ t.references, leaf segments = leaf' segments) :
    t.valuesBy s ρ leaf = t.valuesBy s ρ leaf' := by
  induction t using Term.induct with
  | ref segments => exact h segments List.mem_cons_self
  | array es ih =>
    rw [valuesBy, valuesBy, valuesOfBy_congr fun e he => ih e he fun segments hsegments =>
      h segments (references_subset_of_mem he hsegments)]
  | set es ih =>
    rw [valuesBy, valuesBy, valuesOfBy_congr fun e he => ih e he fun segments hsegments =>
      h segments (references_subset_of_mem he hsegments)]
  | call ts ih =>
    cases ts with
    | nil => rfl
    | cons operator arguments =>
      rw [valuesBy, valuesBy, callValuesBy, callValuesBy, valuesOfBy_congr fun e he =>
        ih e (List.mem_cons_of_mem _ he) fun segments hsegments =>
          h segments (references_subset_of_mem he hsegments)]
  | _ => rfl

theorem values_eq (t : Term) : t.values s ρ = t.valuesBy s ρ (referenceValues s ρ) := by
  have hlist {ts : List Term}
      (h : ∀ t ∈ ts, t.values s ρ = t.valuesBy s ρ (referenceValues s ρ)) :
      valuesOf s ρ ts = valuesOfBy s ρ (referenceValues s ρ) ts := by
    rw [valuesOf_eq, valuesOfBy_eq]
    exact List.map_congr_left fun t ht => by rw [h t ht]
  induction t using Term.induct with
  | array es ih => rw [values, valuesBy, hlist ih]
  | set es ih => rw [values, valuesBy, hlist ih]
  | call ts ih =>
    cases ts with
    | nil => rfl
    | cons operator arguments =>
      rw [values, valuesBy, callValues, callValuesBy,
        hlist fun e he => ih e (List.mem_cons_of_mem _ he)]
  | _ => rfl

/-! ## Names that iterate at one place -/

/-- A reference depends on the index of the name by which it iterates. -/
theorem referenceValuesAt_congr {ι ι' : Choice} {segments : List Term}
    (h : ∀ x ∈ iteratorOf s segments, ι x = ι' x) :
    referenceValuesAt s ρ ι segments = referenceValuesAt s ρ ι' segments := by
  unfold referenceValuesAt
  unfold iteratorOf at h
  split
  · next helementwise =>
    rw [if_pos helementwise] at h
    unfold picked
    split
    · next x hlast =>
      rw [hlast] at h
      split
      · rfl
      · next hx =>
        simp only [if_neg hx, List.mem_singleton, forall_eq] at h
        rw [h]
    · rfl
  · rfl

theorem valuesAt_congr {ι ι' : Choice} {t : Term} (h : ∀ x ∈ t.iterators s, ι x = ι' x) :
    t.valuesAt s ρ ι = t.valuesAt s ρ ι' :=
  valuesBy_congr fun _ hsegments => referenceValuesAt_congr fun x hx =>
    h x (List.mem_flatMap_of_mem hsegments hx)

/-- **The choice realizes what the term may take**: it covers the references, and the term takes no
value at it that it may not take. -/
structure Realizes (s : Settings) (ρ : Assignment) (ι : Choice) (t : Term) : Prop where
  covers : Covers s ρ ι t.references
  subset : t.valuesAt s ρ ι ⊆ t.values s ρ

theorem Realizes.congr {ι ι' : Choice} {t : Term} (h : Realizes s ρ ι t)
    (heq : ∀ x ∈ t.iterators s, ι x = ι' x) : Realizes s ρ ι' t where
  covers segments hsegments := by
    rw [← referenceValuesAt_congr fun x hx => heq x (List.mem_flatMap_of_mem hsegments hx)]
    exact h.covers segments hsegments
  subset := valuesAt_congr heq ▸ h.subset

end Term

/-- **Choices for parts that share no name make one choice for all of them.** -/
theorem exists_common_choice {α : Type} {P : α → Choice → Prop} {names : α → List String}
    {xs : List α}
    (hnames : ∀ x ∈ xs, ∀ ι ι', (∀ y ∈ names x, ι y = ι' y) → P x ι → P x ι')
    (h : ∀ x ∈ xs, ∃ ι, P x ι) (hnodup : (xs.flatMap names).Nodup) : ∃ ι, ∀ x ∈ xs, P x ι := by
  induction xs with
  | nil => exact ⟨fun _ => 0, by simp⟩
  | cons x xs ih =>
    rw [List.flatMap_cons, List.nodup_append] at hnodup
    obtain ⟨-, hrest, hdisjoint⟩ := hnodup
    rw [List.forall_mem_cons] at h hnames
    obtain ⟨ι₁, h₁⟩ := h.1
    obtain ⟨ι₂, h₂⟩ := ih hnames.2 h.2 hrest
    refine ⟨fun y => if y ∈ names x then ι₁ y else ι₂ y, List.forall_mem_cons.2 ⟨?_, ?_⟩⟩
    · exact hnames.1 ι₁ _ (fun y hy => (if_pos hy).symm) h₁
    · intro x' hx'
      refine hnames.2 x' hx' ι₂ _ (fun y hy => (if_neg fun hy' => ?_).symm) (h₂ x' hx')
      exact hdisjoint y hy' y (List.mem_flatMap_of_mem hx' hy) rfl

namespace Term

/-- If no name iterates at two places of the term, then a value that is wanted from it is taken at
some choice that realizes what it may take.  There need not be such a value. -/
def Attains (s : Settings) (ρ : Assignment) (t : Term) : Prop :=
  (t.iterators s).Nodup → ∀ want : Option Value, (∀ v ∈ want, v ∈ t.values s ρ) →
    ∃ ι, Realizes s ρ ι t ∧ ∀ v ∈ want, v ∈ t.valuesAt s ρ ι

/-- What is wanted from several terms is taken at one choice. -/
theorem exists_choice_of_attains {zs : List (Term × Option Value)}
    (h : ∀ z ∈ zs, Attains s ρ z.1) (hwant : ∀ z ∈ zs, ∀ v ∈ z.2, v ∈ z.1.values s ρ)
    (hnodup : (zs.flatMap fun z => z.1.iterators s).Nodup) :
    ∃ ι, ∀ z ∈ zs, Realizes s ρ ι z.1 ∧ ∀ v ∈ z.2, v ∈ z.1.valuesAt s ρ ι := by
  refine exists_common_choice ?_ (fun z hz => ?_) hnodup
  · rintro z - ι ι' heq ⟨hrealizes, htaken⟩
    exact ⟨hrealizes.congr heq, @valuesAt_congr s ρ ι ι' z.1 heq ▸ htaken⟩
  · exact h z hz ((List.nodup_flatMap.1 hnodup).1 z hz) z.2 (hwant z hz)

/-! ### References -/

theorem exists_index {vs : List Value} {want : Option Value} (h : ∀ v ∈ want, v ∈ vs) :
    ∃ i : Nat, (vs ≠ [] → vs[i]?.toList ≠ []) ∧ ∀ v ∈ want, v ∈ vs[i]?.toList := by
  cases want with
  | none =>
    refine ⟨0, fun hne => ?_, by simp⟩
    cases vs with
    | nil => exact absurd rfl hne
    | cons v vs => simp
  | some v =>
    obtain ⟨i, hi⟩ := List.mem_iff_getElem?.1 (h v rfl)
    exact ⟨i, by simp [hi], by simp [hi]⟩

theorem attains_reference (segments : List Term) : Attains s ρ (ref segments) := by
  rintro - want hwant
  -- It is enough to find a choice for the reference alone.
  suffices h : ∃ ι, (referenceValues s ρ segments ≠ [] → referenceValuesAt s ρ ι segments ≠ []) ∧
      referenceValuesAt s ρ ι segments ⊆ referenceValues s ρ segments ∧
      ∀ v ∈ want, v ∈ referenceValuesAt s ρ ι segments by
    obtain ⟨ι, hcovers, hsubset, htaken⟩ := h
    refine ⟨ι, ⟨fun segments' hsegments' => ?_, hsubset⟩, htaken⟩
    rw [List.mem_singleton.1 hsegments']
    exact hcovers
  have hwant : ∀ v ∈ want, v ∈ referenceValues s ρ segments := hwant
  by_cases helementwise : (ref segments).isElementwise s = true
  · obtain ⟨x, hx⟩ : ∃ x, segments.getLast? = some (var x) := by
      rw [isElementwise] at helementwise
      split at helementwise
      · next hreference => exact Compile.exists_var_of_reference hreference
      · cases helementwise
    obtain ⟨i, hne, hi⟩ := exists_index hwant
    refine ⟨fun _ => i, ?_⟩
    rw [referenceValuesAt, if_pos helementwise, hx, picked]
    split
    · exact ⟨id, fun _ hv => hv, hwant⟩
    · refine ⟨hne, fun v hv => ?_, hi⟩
      exact List.mem_of_getElem? (Option.mem_toList.1 hv)
  · refine ⟨fun _ => 0, ?_⟩
    rw [referenceValuesAt, if_neg helementwise]
    exact ⟨id, fun _ hv => hv, hwant⟩

/-! ### Arrays and sets -/

theorem mem_valuesBy_array {leaf : List Term → List Value} {v : Value} {es : List Term} :
    v ∈ (array es).valuesBy s ρ leaf ↔
      ∃ vs, List.Forall₂ (fun e w => w ∈ valuesBy s ρ leaf e) es vs ∧ Value.array vs = v := by
  rw [valuesBy, valuesOfBy_eq, arraysOf, List.mem_map, List.map_map]
  refine exists_congr fun vs => and_congr_left fun _ => ?_
  rw [List.mem_sections, List.forall₂_map_right_iff]
  exact ⟨List.Forall₂.flip, List.Forall₂.flip⟩

theorem Realizes.array {ι : Choice} {es : List Term} (h : ∀ e ∈ es, Realizes s ρ ι e) :
    Realizes s ρ ι (array es) where
  covers segments hsegments := by
    rw [references, referencesOf_eq, List.mem_flatMap] at hsegments
    obtain ⟨e, he, hsegments⟩ := hsegments
    exact (h e he).covers segments hsegments
  subset v hv := by
    obtain ⟨vs, hvs, rfl⟩ := mem_valuesBy_array.1 hv
    rw [values_eq]
    refine mem_valuesBy_array.2 ⟨vs, ?_, rfl⟩
    refine ((List.forall₂_and_left es vs).2 ⟨h, hvs⟩).imp fun e w hw => ?_
    rw [← values_eq]
    exact hw.1.subset hw.2

/-- What is wanted from an array is wanted from its elements. -/
theorem exists_wants_of_array {es : List Term} {want : Option Value}
    (h : ∀ v ∈ want, v ∈ (array es).values s ρ) :
    ∃ zs : List (Term × Option Value), zs.map Prod.fst = es ∧
      (∀ z ∈ zs, ∀ v ∈ z.2, v ∈ z.1.values s ρ) ∧
      ∀ ι, (∀ z ∈ zs, ∀ v ∈ z.2, v ∈ z.1.valuesAt s ρ ι) →
        ∀ v ∈ want, v ∈ (array es).valuesAt s ρ ι := by
  cases want with
  | none => exact ⟨es.map fun e => (e, none), by simp [Function.comp_def], by simp, by simp⟩
  | some v =>
    have hv := h v rfl
    rw [values_eq] at hv
    obtain ⟨vs, hvs, rfl⟩ := mem_valuesBy_array.1 hv
    obtain ⟨hlength, hzip⟩ := List.forall₂_iff_zip.1 hvs
    refine ⟨(es.zip vs).map fun z => (z.1, some z.2), ?_, ?_, ?_⟩
    · rw [List.map_map]
      exact List.map_fst_zip (Nat.le_of_eq hlength)
    · rintro _ hz v hv
      obtain ⟨⟨e, w⟩, hmem, rfl⟩ := List.mem_map.1 hz
      cases hv
      rw [values_eq]
      exact hzip hmem
    · rintro ι htaken _ ⟨⟩
      refine mem_valuesBy_array.2 ⟨vs, List.forall₂_iff_zip.2 ⟨hlength, fun hmem => ?_⟩, rfl⟩
      exact htaken _ (List.mem_map_of_mem hmem) _ rfl

theorem attains_array {es : List Term} (h : ∀ e ∈ es, Attains s ρ e) : Attains s ρ (array es) := by
  intro hnodup want hwant
  obtain ⟨zs, rfl, hzs, hzsAt⟩ := exists_wants_of_array hwant
  have hnodup : (zs.flatMap fun z => z.1.iterators s).Nodup := by
    rwa [iterators, references, referencesOf_eq, List.flatMap_assoc, List.flatMap_map] at hnodup
  obtain ⟨ι, hι⟩ := exists_choice_of_attains (fun z hz => h z.1 (List.mem_map_of_mem hz)) hzs hnodup
  refine ⟨ι, .array fun e he => ?_, hzsAt ι fun z hz => (hι z hz).2⟩
  obtain ⟨z, hz, rfl⟩ := List.mem_map.1 he
  exact (hι z hz).1

theorem attains_set {es : List Term} (h : ∀ e ∈ es, Attains s ρ e) : Attains s ρ (set es) := by
  intro hnodup want hwant
  have hperm : ((array (sorted es)).iterators s).Perm ((set es).iterators s) := by
    simp only [iterators, references, referencesOf_eq]
    exact ((List.mergeSort_perm es _).flatMap_right _).flatMap_right _
  rw [values_set] at hwant
  obtain ⟨ι, hι, htaken⟩ := attains_array (fun e he => h e (mem_sorted.1 he))
    (hperm.nodup_iff.2 hnodup) want hwant
  refine ⟨ι, ⟨fun segments hsegments => ?_, ?_⟩, ?_⟩
  · exact hι.covers segments (mem_references_set.1 hsegments)
  · rw [values_set, valuesAt, valuesBy_set]
    exact hι.subset
  · rw [valuesAt, valuesBy_set]
    exact htaken

/-! ### Calls -/

theorem sought_cases (t : Term) :
    (∀ vs, t.sought s ρ vs = vs) ∨ ∃ ws, ∀ vs, t.sought s ρ vs = ws := by
  unfold sought
  split
  · split
    · exact .inr ⟨_, fun _ => rfl⟩
    · exact .inl fun _ => rfl
  · exact .inl fun _ => rfl

/-- An operator asks for two values that are related, one of which is sought or taken by the first
operand. -/
theorem operatorHolds_cases (name : String) :
    ∃ p : Value → Value → Bool,
      (∀ xs sought ys, operatorHolds name xs sought ys = xs.any fun x => ys.any (p x)) ∨
      ∀ xs sought ys, operatorHolds name xs sought ys = sought.any fun x => ys.any (p x) := by
  unfold operatorHolds
  split
  · exact ⟨fun x y => decide (x = y), .inl fun _ _ _ => rfl⟩
  split
  · exact ⟨fun x y => decide (x ≠ y), .inl fun _ _ _ => rfl⟩
  split
  · exact ⟨fun x collection => decide (x ∈ collection.elements), .inr fun _ _ _ => rfl⟩
  · exact ⟨fun _ _ => false, .inl fun _ _ _ => by simp⟩

/-- **An operator that holds of two operands holds because of one value of each**, or because of one
value of the second, if what it looks up does not depend on the first. -/
theorem exists_wants_of_operatorHolds {name : String} {t : Term} {xs ys : List Value}
    (h : operatorHolds name xs (t.sought s ρ xs) ys = true) :
    ∃ x y : Option Value, (∀ v ∈ x, v ∈ xs) ∧ (∀ v ∈ y, v ∈ ys) ∧
      ∀ xs' ys', (∀ v ∈ x, v ∈ xs') → (∀ v ∈ y, v ∈ ys') →
        operatorHolds name xs' (t.sought s ρ xs') ys' = true := by
  have hboth {p : Value → Value → Bool}
      (hp : ∀ xs ys, operatorHolds name xs (t.sought s ρ xs) ys = xs.any fun x => ys.any (p x)) :
      ∃ x y : Option Value, (∀ v ∈ x, v ∈ xs) ∧ (∀ v ∈ y, v ∈ ys) ∧
        ∀ xs' ys', (∀ v ∈ x, v ∈ xs') → (∀ v ∈ y, v ∈ ys') →
          operatorHolds name xs' (t.sought s ρ xs') ys' = true := by
    simp only [hp, List.any_eq_true] at h ⊢
    obtain ⟨x, hx, y, hy, hxy⟩ := h
    refine ⟨some x, some y, by simpa using hx, by simpa using hy, fun xs' ys' hx' hy' => ?_⟩
    exact ⟨x, hx' x rfl, y, hy' y rfl, hxy⟩
  obtain ⟨p, hp | hp⟩ := operatorHolds_cases name
  · exact hboth fun xs ys => hp xs _ ys
  · rcases @sought_cases s ρ t with hsought | ⟨ws, hws⟩
    · exact hboth fun xs ys => by rw [hp, hsought]
    · simp only [hp, hws, List.any_eq_true] at h ⊢
      obtain ⟨x, hx, y, hy, hxy⟩ := h
      refine ⟨none, some y, by simp, by simpa using hy, fun xs' ys' _ hy' => ?_⟩
      exact ⟨x, hx, y, hy' y rfl, hxy⟩

/-- Fewer values make an operator hold less often. -/
theorem operatorHolds_mono {name : String} {t : Term} {xs xs' ys ys' : List Value}
    (hxs : xs' ⊆ xs) (hys : ys' ⊆ ys)
    (h : operatorHolds name xs' (t.sought s ρ xs') ys' = true) :
    operatorHolds name xs (t.sought s ρ xs) ys = true := by
  obtain ⟨x, y, hx, hy, hwants⟩ := exists_wants_of_operatorHolds h
  exact hwants xs ys (fun v hv => hxs (hx v hv)) fun v hv => hys (hy v hv)

theorem valuesBy_call {leaf : List Term → List Value} {t l r : Term} {name : String}
    (h : t.operatorName = some name) :
    (call [t, l, r]).valuesBy s ρ leaf =
      [.boolean (operatorHolds name (l.valuesBy s ρ leaf) (l.sought s ρ (l.valuesBy s ρ leaf))
        (r.valuesBy s ρ leaf))] := by
  rw [valuesBy, callValuesBy, valuesOfBy, valuesOfBy, valuesOfBy, callValue, h]

/-- A call that is not of this shape has no value. -/
theorem valuesBy_call_eq_nil {ts : List Term}
    (h : ∀ t l r name, ts = [t, l, r] → t.operatorName ≠ some name)
    (leaf : List Term → List Value) : (call ts).valuesBy s ρ leaf = [] := by
  rw [valuesBy]
  match ts with
  | [] => rfl
  | [t] => rfl
  | [t, l] => rfl
  | [t, l, r] =>
    have hname : t.operatorName = none := by
      cases hname : t.operatorName with
      | none => rfl
      | some name => exact absurd hname (h t l r name rfl)
    rw [callValuesBy, valuesOfBy, valuesOfBy, valuesOfBy, callValue, hname]
  | t :: l :: r :: u :: us => rfl

/-- The value of a call is kept by fewer values of its operands, if they are the right ones. -/
theorem exists_wants_of_call (name : String) (t : Term) (xs ys : List Value) :
    ∃ x y : Option Value, (∀ v ∈ x, v ∈ xs) ∧ (∀ v ∈ y, v ∈ ys) ∧
      ∀ xs' ys', xs' ⊆ xs → ys' ⊆ ys → (∀ v ∈ x, v ∈ xs') → (∀ v ∈ y, v ∈ ys') →
        operatorHolds name xs' (t.sought s ρ xs') ys' =
          operatorHolds name xs (t.sought s ρ xs) ys := by
  cases h : operatorHolds name xs (t.sought s ρ xs) ys with
  | true =>
    obtain ⟨x, y, hx, hy, hwants⟩ := exists_wants_of_operatorHolds h
    exact ⟨x, y, hx, hy, fun xs' ys' _ _ hx' hy' => hwants xs' ys' hx' hy'⟩
  | false =>
    refine ⟨none, none, by simp, by simp, fun xs' ys' hxs hys _ _ => ?_⟩
    refine Bool.eq_false_iff.2 fun h' => ?_
    rw [operatorHolds_mono hxs hys h'] at h
    cases h

theorem attains_call {ts : List Term} (h : ∀ t ∈ ts, Attains s ρ t) : Attains s ρ (call ts) := by
  intro hnodup want hwant
  by_cases hshape : ∃ t l r name, ts = [t, l, r] ∧ t.operatorName = some name
  · obtain ⟨t, l, r, name, rfl, hname⟩ := hshape
    obtain ⟨x, y, hx, hy, hwants⟩ :=
      @exists_wants_of_call s ρ name l (l.values s ρ) (r.values s ρ)
    obtain ⟨ι, hι⟩ : ∃ ι, ∀ z ∈ [(l, x), (r, y)],
        Realizes s ρ ι z.1 ∧ ∀ v ∈ z.2, v ∈ z.1.valuesAt s ρ ι := by
      refine exists_choice_of_attains ?_ ?_ ?_
      · simpa using ⟨h l (by simp), h r (by simp)⟩
      · simpa using ⟨hx, hy⟩
      · simpa [iterators, references, argumentReferences, referencesOf] using hnodup
    simp only [List.forall_mem_cons, List.not_mem_nil, false_imp_iff, implies_true, and_true] at hι
    obtain ⟨⟨hl, hlwant⟩, hr, hrwant⟩ := hι
    have hvalues : (call [t, l, r]).valuesAt s ρ ι = (call [t, l, r]).values s ρ := by
      rw [valuesAt, valuesBy_call hname, values_call hname]
      exact congrArg (fun b => [Value.boolean b]) (hwants _ _ hl.subset hr.subset hlwant hrwant)
    have harguments : Realizes s ρ ι (array [l, r]) := .array (by simpa using ⟨hl, hr⟩)
    refine ⟨ι, ⟨harguments.covers, ?_⟩, ?_⟩
    · exact hvalues ▸ List.Subset.refl _
    · rwa [hvalues]
  · have hnil (leaf : List Term → List Value) : (call ts).valuesBy s ρ leaf = [] :=
      valuesBy_call_eq_nil (fun t l r name hts hname => hshape ⟨t, l, r, name, hts, hname⟩) leaf
    have hnone : want = none := by
      rw [values_eq, hnil] at hwant
      simpa [Option.eq_none_iff_forall_not_mem] using hwant
    -- Without a value, the choice only has to cover the references of the arguments.
    obtain ⟨ι, hι⟩ : ∃ ι, Covers s ρ ι (call ts).references := by
      cases ts with
      | nil => exact ⟨fun _ => 0, by simp [Covers, references, argumentReferences]⟩
      | cons operator arguments =>
        obtain ⟨ι, hι, -⟩ := attains_array (fun e he => h e (List.mem_cons_of_mem _ he)) hnodup none
          (by simp)
        exact ⟨ι, hι.covers⟩
    refine ⟨ι, ⟨hι, ?_⟩, by simp [hnone]⟩
    rw [valuesAt, hnil]
    exact List.nil_subset _

/-- **Every term attains what it may take**, if no name iterates at two places of it. -/
theorem attains (t : Term) : Attains s ρ t := by
  have hleaf {t : Term} (hreferences : t.references = [])
      (hvalues : ∀ leaf, t.valuesBy s ρ leaf = t.values s ρ) : Attains s ρ t := by
    rintro - want hwant
    refine ⟨fun _ => 0, ⟨by simp [Covers, hreferences], ?_⟩, ?_⟩
    · rw [valuesAt, hvalues]
      exact List.Subset.refl _
    · rwa [valuesAt, hvalues]
  induction t using Term.induct with
  | ref segments => exact attains_reference segments
  | array es ih => exact attains_array ih
  | set es ih => exact attains_set ih
  | call ts ih => exact attains_call ih
  | _ => exact hleaf rfl fun _ => rfl

end Term

/-! ## Queries -/

theorem Condition.values_asserted (c : Condition) : c.asserted.values s ρ = c.values s ρ := by
  cases c <;> rfl

theorem Condition.references_asserted (c : Condition) : c.asserted.references = c.references := by
  cases c <;> rfl

/-- What is wanted from the term that an expression asserts: that it is true, unless the expression
is negated. -/
def Expression.want (e : Expression) : Option Value :=
  if e.negated then none else some (.boolean true)

namespace Expression

variable {e : Expression} {v : Value}

theorem mem_values_of_holds (h : e.holds s ρ = true) (hv : v ∈ e.want) :
    v ∈ e.condition.asserted.values s ρ := by
  obtain ⟨hnegated, hv⟩ := Option.ite_none_left_eq_some.1 hv
  cases hv
  rw [holds, Bool.eq_false_iff.2 hnegated, ← Condition.values_asserted] at h
  simpa using h

theorem holdsAt_of_realizes {ι : Choice} (h : e.holds s ρ = true)
    (hrealizes : Term.Realizes s ρ ι e.condition.asserted)
    (hwant : ∀ v ∈ e.want, v ∈ e.condition.asserted.valuesAt s ρ ι) :
    e.holdsAt s ρ ι = true := by
  rw [holds, ← Condition.values_asserted] at h
  rw [holdsAt]
  cases hnegated : e.negated with
  | true =>
    have hfalse : Value.boolean true ∉ e.condition.asserted.values s ρ := by
      simpa [hnegated] using h
    simpa using fun htrue => hfalse (hrealizes.subset htrue)
  | false =>
    have htrue := hwant (.boolean true) (by simp [want, hnegated])
    simpa using htrue

end Expression

/-- **A query that holds does so at one choice of indices**, if no name iterates at two places of
it. -/
theorem Query.exists_choice {q : Query} (h : q.holds s ρ = true) (hnodup : (q.iterators s).Nodup) :
    ∃ ι, Covers s ρ ι q.references ∧ q.holdsAt s ρ ι = true := by
  have h : ∀ e ∈ q, e.holds s ρ = true := List.all_eq_true.1 h
  obtain ⟨ι, hι⟩ : ∃ ι, ∀ z ∈ q.map fun e => (e.condition.asserted, e.want),
      Term.Realizes s ρ ι z.1 ∧ ∀ v ∈ z.2, v ∈ z.1.valuesAt s ρ ι := by
    refine Term.exists_choice_of_attains (fun z _ => z.1.attains) ?_ ?_
    · rintro _ hz v hv
      obtain ⟨e, he, rfl⟩ := List.mem_map.1 hz
      exact Expression.mem_values_of_holds (h e he) hv
    · rw [iterators, references, List.flatMap_assoc] at hnodup
      rw [List.flatMap_map]
      simpa only [Term.iterators, Condition.references_asserted] using hnodup
  have hι (e : Expression) (he : e ∈ q) := hι _ (List.mem_map_of_mem he)
  refine ⟨ι, fun segments hsegments => ?_, List.all_eq_true.2 fun e he => ?_⟩
  · obtain ⟨e, he, hsegments⟩ := List.mem_flatMap.1 hsegments
    exact (hι e he).1.covers segments (e.condition.references_asserted ▸ hsegments)
  · exact Expression.holdsAt_of_realizes (h e he) (hι e he).1 (hι e he).2

end RowFilter
