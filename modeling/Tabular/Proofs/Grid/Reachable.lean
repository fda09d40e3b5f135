/-
Grids as they come about: made from rows, with or without labels, from CSV, JSON or a snapshot,
and then changed by any edits, failing ones included. All of them keep the invariant.
-/
import Tabular.Csv.Table
import Tabular.Grid.Edit
import Tabular.Json.Snapshot
import Tabular.Json.Table
import Tabular.Proofs.Grid.Access
import Tabular.Proofs.Grid.Preservation

namespace Tabular

/-! ## Making grids -/

namespace Grid

theorem length_le_width {row : List Cell} {rows : List (List Cell)} (h : row ∈ rows) :
    row.length ≤ rows.foldr (fun row width => max row.length width) 0 := by
  induction rows with
  | nil => cases h
  | cons first rows ih =>
    rw [List.foldr_cons]
    rcases List.mem_cons.1 h with rfl | h
    · exact Nat.le_max_left _ _
    · exact Nat.le_trans (ih h) (Nat.le_max_right _ _)

theorem ofRows_wf (rows : List (List Cell)) : (ofRows rows).WF := by
  refine ⟨?_, fun axis => ?_⟩
  · intro line hline
    obtain ⟨row, hrow, rfl⟩ := List.mem_map.1 hline
    have hle := length_le_width hrow
    show (row.rightpad _ .null).length = (List.replicate _ none).length
    rw [List.length_rightpad, List.length_replicate]
    omega
  · cases axis with
    | row =>
      have hlabels : (ofRows rows).labels .row = List.replicate rows.length none := by
        simp [labels, ofRows, Function.comp_def]
      rw [hlabels]
      exact uniqueLabels_replicate_none _
    | column => exact uniqueLabels_replicate_none _

theorem ofLabeledRows_wf {rows : List (List Cell)} {firstColumn firstRow : Bool} {g : Grid}
    (h : ofLabeledRows rows firstColumn firstRow = .ok g) : g.WF := by
  obtain ⟨labelled, hlabelled, h⟩ := bind_eq_ok_iff.1 h
  exact setLabelsIfAny_wf (setLabelsIfAny_wf (widen_wf _ (ofRows_wf _)) hlabelled) h

theorem ofCsv_wf {dialect : Csv.Dialect} {keep : CsvLabels} {infer : Bool} {bytes : List UInt8}
    {g : Grid} (h : ofCsv dialect keep infer bytes = .ok g) : g.WF := by
  unfold ofCsv at h
  split at h
  · cases h
  · exact ofLabeledRows_wf h

end Grid

theorem Json.toGrid_wf {keep : JsonLabels} {document : Json} {g : Grid}
    (h : document.toGrid keep = .ok g) : g.WF := by
  unfold Json.toGrid at h
  simp only at h
  split at h
  · cases h
  · obtain ⟨labelled, hlabelled, h⟩ := bind_eq_ok_iff.1 h
    have hwf : labelled.WF :=
      Grid.setLabelsIfAny_wf (Grid.widen_wf _ (Grid.ofRows_wf _)) hlabelled
    split at h
    · exact Grid.setLabels_wf hwf h
    · cases h
      exact hwf

theorem Snapshot.toGrid_wf {snapshot : Snapshot} {g : Grid} (h : snapshot.toGrid = .ok g) :
    g.WF := by
  obtain ⟨labelled, hlabelled, h⟩ := bind_eq_ok_iff.1 h
  exact Grid.setLabelsIfAny_wf (Grid.setLabelsIfAny_wf (Grid.ofRows_wf _) hlabelled) h

/-! ## Edits -/

namespace Edit

/-- An edit keeps the invariant. -/
theorem apply_wf {edit : Edit} {g changed : Grid} (hg : g.WF) (ho : ∀ other ∈ edit.others, other.WF)
    (h : edit.apply g = .ok changed) : changed.WF := by
  cases edit with
  | append | prepend => exact Grid.insert_wf hg h
  | update | clear => exact Grid.update_wf hg h
  | delete => exact Grid.delete_wf hg h
  | deleteEmpty | diff | intersect =>
    cases h
    exact Grid.discard_wf hg _ _
  | filter =>
    cases h
    exact Grid.filter_wf hg _ _
  | swap => exact (Grid.rearranged_of_swap h).wf hg
  | move => exact (Grid.rearranged_of_move h).wf hg
  | orderBy => exact (Grid.rearranged_of_orderBy h).wf hg
  | merge axis other =>
    cases h
    exact Grid.merge_wf hg axis (ho other List.mem_cons_self)
  | search => exact Grid.search_wf hg h
  | searchWith => exact Grid.searchWith_wf hg h
  | transpose =>
    cases h
    exact Grid.transpose_wf hg
  | setLabels => exact Grid.setLabels_wf hg h
  | rename => exact Grid.rename_wf hg h
  | clearLabel => exact Grid.clearLabel_wf hg h
  | swapLabels => exact Grid.swapLabels_wf hg h
  | moveLabel => exact Grid.moveLabel_wf hg h
  | setValue => exact Grid.setValue_wf hg h
  | setCell =>
    obtain ⟨k, _, h⟩ := bind_eq_ok_iff.1 h
    exact Grid.setCell_wf hg h

theorem applyOrKeep_wf {edit : Edit} {g : Grid} (hg : g.WF)
    (ho : ∀ other ∈ edit.others, other.WF) : (applyOrKeep g edit).WF := by
  unfold applyOrKeep
  split
  · rename_i changed h
    exact apply_wf hg ho h
  · exact hg

end Edit

/-! ## Reachable grids -/

namespace Grid

/-- Every grid that can be made, and every grid that edits lead to from there. -/
inductive Reachable : Grid → Prop
  | empty : Reachable .empty
  | ofRows (rows : List (List Cell)) : Reachable (.ofRows rows)
  | ofLabeledRows {rows : List (List Cell)} {firstColumn firstRow : Bool} {g : Grid} :
      Grid.ofLabeledRows rows firstColumn firstRow = .ok g → Reachable g
  | ofCsv {dialect : Csv.Dialect} {keep : CsvLabels} {infer : Bool} {bytes : List UInt8}
      {g : Grid} : Grid.ofCsv dialect keep infer bytes = .ok g → Reachable g
  | ofJson {keep : JsonLabels} {document : Json} {g : Grid} :
      document.toGrid keep = .ok g → Reachable g
  | ofSnapshot {snapshot : Snapshot} {g : Grid} : snapshot.toGrid = .ok g → Reachable g
  | edit {g : Grid} (edit : Edit) : Reachable g → (∀ other ∈ edit.others, Reachable other) →
      Reachable (edit.applyOrKeep g)
  | take {axis : Axis} {ref : LineRef} {cells : List Cell} {g rest : Grid} : Reachable g →
      g.take axis ref = .ok (cells, rest) → Reachable rest
  | setCells {axis : Axis} {ref : LineRef} {key : Nat} {g : Grid}
      (writes : List (LineRef × Cell)) : Reachable g → g.key axis ref = .ok key →
      Reachable (g.setCells axis key writes).1

/-- Every reachable grid has the invariant. -/
theorem Reachable.wf {g : Grid} (h : Reachable g) : g.WF := by
  induction h with
  | empty => exact empty_wf
  | ofRows rows => exact ofRows_wf rows
  | ofLabeledRows h => exact ofLabeledRows_wf h
  | ofCsv h => exact ofCsv_wf h
  | ofJson h => exact Json.toGrid_wf h
  | ofSnapshot h => exact Snapshot.toGrid_wf h
  | edit edit _ _ ih iho => exact Edit.applyOrKeep_wf ih iho
  | take _ h ih => exact take_wf ih h
  | setCells writes _ _ ih => exact setCells_wf ih _ _ writes

/-- A run of edits leads from a reachable grid to another. -/
theorem Reachable.run {g : Grid} (h : Reachable g) {edits : List Edit}
    (ho : ∀ edit ∈ edits, ∀ other ∈ edit.others, Reachable other) :
    Reachable (Edit.run edits g) := by
  induction edits generalizing g with
  | nil => exact h
  | cons edit edits ih =>
    exact ih (h.edit edit (ho edit List.mem_cons_self))
      fun e he => ho e (List.mem_cons_of_mem _ he)

theorem Reachable.ofSnapshotText {text : String} {g : Grid} (h : Snapshot.parse text = .ok g) :
    Reachable g := by
  unfold Snapshot.parse at h
  split at h
  · cases h
  · split at h
    · cases h
    · split at h
      · cases h
      · rename_i hgrid
        split at h
        · cases h
          exact .ofSnapshot hgrid
        · cases h

theorem Reachable.ofJsonText {keep : JsonLabels} {text : String} {g : Grid}
    (h : Grid.ofJsonText keep text = .ok g) : Reachable g := by
  unfold Grid.ofJsonText at h
  split at h
  · exact .ofJson h
  · cases h

end Grid

end Tabular
