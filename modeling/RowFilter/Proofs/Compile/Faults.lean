import RowFilter.Proofs.Compile.Inversion
import RowFilter.Proofs.Sql.Faults

/-!
# Faults of a residual

A residual has a text exactly if it becomes a predicate and that predicate is rendered without a
fault.  Otherwise the answer is an error, and it holds every fault.

* `Compile.sql_eq_ok_iff`, `Compile.sql_eq_generation` — which of the two it is.
* `Compile.sql_collects_faults` — what the faults are, and that a text shows no placeholder.
-/

set_option autoImplicit false

namespace RowFilter.Compile

open Sql

variable {s : Settings} {r : Residual}

theorem sql_eq_ok_iff {text : String} :
    sql s r = .ok text ↔
      ∃ n, predicate s r = .ok n ∧ n.render.faults = [] ∧ n.render.text = text := by
  constructor
  · exact sql_eq_ok
  · rintro ⟨n, hn, hfaults, rfl⟩
    exact sql_of_predicate hn hfaults

theorem sql_eq_generation {n : Node} (hn : predicate s r = .ok n) (h : n.render.faults ≠ []) :
    sql s r = .error (.generation n.render.faults) := by
  have hempty : n.render.faults.isEmpty = false := by
    rwa [← Bool.not_eq_true, List.isEmpty_iff]
  simp [sql, hn, hempty]

/-- A text without faults is made of meant chunks only. -/
theorem exists_text_of_mem_layout {n : Node} (h : n.render.faults = []) {c : Chunk}
    (hc : c ∈ n.layout) : ∃ t, c = .text t := by
  rw [Node.faults_render_eq_filterMap_layout, List.filterMap_eq_nil_iff] at h
  cases c with
  | text t => exact ⟨t, rfl⟩
  | placeholder f => cases h _ hc

/-- **Rendering collects every fault, and no text hides one.**

Rendered in one walk, a predicate has the same text whatever faults were found before, and adds its
own behind them.  These are one for each predicate rendered on the way whose operands have no form,
in the order of the text, where such a predicate is a placeholder and nothing below it is rendered;
neither is the element of a membership test in an empty array.

A residual has a text exactly if it becomes a predicate without faults, and then no placeholder is a
part of the text. -/
theorem sql_collects_faults :
    (∀ n : Node,
      (∀ found, n.renderInto.run found = (n.render.text, found ++ n.render.faults)) ∧
      n.render.faults = n.visited.filterMap Node.fault? ∧
      n.render = Rendered.concat (n.layout.map Chunk.rendered) ∧
      n.render.faults = n.layout.filterMap Chunk.fault? ∧
      (∀ p ∈ n.visited, p.layout <:+: n.layout) ∧
      (∀ p ∈ n.visited, ∀ f, p.fault? = some f →
        p.visited = [p] ∧ p.layout = [.placeholder f]) ∧
      (∀ x source, (Node.member x (.array source [])) ∈ n.visited →
        (Node.member x (.array source [])).fault? = none →
          (Node.member x (.array source [])).visited = [.member x (.array source [])] ∧
            (Node.member x (.array source [])).layout = [.text "false"])) ∧
    ∀ (s : Settings) (r : Residual),
      (∀ text, sql s r = .ok text ↔
        ∃ n, predicate s r = .ok n ∧ n.render.faults = [] ∧ n.render.text = text) ∧
      (∀ n, predicate s r = .ok n → n.render.faults ≠ [] →
        sql s r = .error (.generation n.render.faults)) ∧
      ∀ n text, predicate s r = .ok n → sql s r = .ok text →
        (∀ p ∈ n.visited, p.fault? = none) ∧ ∀ c ∈ n.layout, ∃ t, c = .text t := by
  constructor
  · intro n
    refine ⟨n.writes_renderInto, n.faults_render, n.render_eq_concat,
      n.faults_render_eq_filterMap_layout, fun p => Node.layout_infix_of_mem_visited,
      fun p _ f hf => ⟨Node.visited_of_fault hf, Node.layout_of_fault hf⟩,
      fun x source _ hnone => ?_⟩
    have houtline := Node.outline_member_empty hnone
    rw [Node.visited_eq, Node.operands, Node.layout_eq, houtline]
    exact ⟨rfl, rfl⟩
  · intro s r
    refine ⟨fun text => sql_eq_ok_iff, fun n => sql_eq_generation, fun n text hn htext => ?_⟩
    obtain ⟨m, hm, hfaults, -⟩ := sql_eq_ok htext
    cases hn.symm.trans hm
    exact ⟨Node.faults_eq_nil_iff.1 hfaults, fun c => exists_text_of_mem_layout hfaults⟩

end RowFilter.Compile
