/-
Reading a grid that keeps the invariant. A label and its position find each other, and a key that
has been found can be used on the cells: a line has one cell for each position of the cross axis,
which is the cell that the grid holds there.
-/
import Tabular.Proofs.Grid.WellFormed

namespace Tabular.Grid

variable {g : Grid} {axis : Axis}

/-! ## Labels -/

theorem key_label_eq_ok_iff {l : String} {k : Nat} :
    g.key axis (.label l) = .ok k ↔ g.find? axis l = some k := by
  unfold key
  cases h : g.find? axis l <;> simp [h]

/-- What a reference stands for depends on the labels alone. -/
theorem key_congr {h : Grid} (hlabels : g.labels axis = h.labels axis) (ref : LineRef) :
    g.key axis ref = h.key axis ref := by
  cases ref with
  | position n => rw [key, key, count, count, hlabels]
  | label l => rw [key, key, find?, find?, hlabels]

theorem key_position (axis : Axis) {k : Nat} (hk : k < g.count axis) :
    g.key axis (.position k) = .ok k := if_pos hk

theorem label_position_eq_ok_iff {label : Option String} {k : Nat} :
    g.label axis (.position k) = .ok label ↔ (g.labels axis)[k]? = some label := by
  unfold Grid.label key count
  by_cases hk : k < (g.labels axis).length
  · simp [hk, Except.map, List.getD_eq_getElem?_getD]
  · simp [hk, Except.map]

/-- A label leads to a position exactly when the position carries the label. -/
theorem WF.key_iff_label (hg : g.WF) {l : String} {k : Nat} :
    g.key axis (.label l) = .ok k ↔ g.label axis (.position k) = .ok (some l) := by
  rw [key_label_eq_ok_iff, label_position_eq_ok_iff, find?_eq_some_iff (hg.labels axis)]

/-! ## Cells -/

theorem length_rows (g : Grid) : g.rows.length = g.count .row := by
  rw [count, labels, List.length_map]

theorem cell?_eq_cells (g : Grid) (r c : Nat) : g.cell? .row r c = g.cells[r]?.bind (·[c]?) := by
  simp only [cell?, cells, List.getElem?_map]
  cases g.rows[r]? <;> rfl

/-- A cell is there exactly when both its positions are. -/
theorem WF.cell?_isSome_iff (hg : g.WF) {k c : Nat} :
    (g.cell? axis k c).isSome ↔ k < g.count axis ∧ c < g.count axis.cross := by
  have hrow : ∀ r c, (g.rows[r]?.bind (·.cells[c]?)).isSome ↔
      r < g.count .row ∧ c < g.count .column := by
    intro r c
    rw [← length_rows]
    by_cases hr : r < g.rows.length
    · have hwidth := hg.width g.rows[r] (List.getElem_mem hr)
      simp [hr, hwidth]
    · simp [hr]
  cases axis with
  | row => exact hrow k c
  | column => exact (hrow c k).trans And.comm

/-- The line at a position carries its label and holds the cells of the grid along it. -/
theorem WF.exists_line (hg : g.WF) {k : Nat} (hk : k < g.count axis) :
    ∃ line, (g.lines axis)[k]? = some line ∧ (g.labels axis)[k]? = some line.label ∧
      ∀ c, line.cells[c]? = g.cell? axis k c := by
  cases axis with
  | row =>
    rw [← length_rows] at hk
    refine ⟨g.rows[k], List.getElem?_eq_getElem hk, ?_, fun c => ?_⟩
    · simp [Grid.labels, hk]
    · simp [cell?, hk]
  | column =>
    have hk' : k < g.columnLabels.length := hk
    refine ⟨⟨g.columnLabels[k], g.rows.map fun row => row.cells.getD k .null⟩, ?_, ?_, fun c => ?_⟩
    · simp [lines, seenFrom, transpose, hk']
    · exact List.getElem?_eq_getElem hk'
    · -- every row reaches the column, so no cell is made up
      rw [List.getElem?_map, cell?]
      rcases hrow : g.rows[c]? with _ | row
      · rfl
      · have hwidth : row.cells.length = g.count .column :=
          hg.width row (List.mem_of_getElem? hrow)
        have hcell : k < row.cells.length := hwidth ▸ hk
        simp [List.getD_eq_getElem?_getD, hcell]

theorem WF.line_of_key (hg : g.WF) {ref : LineRef} {k : Nat} (h : g.key axis ref = .ok k) :
    ∃ line, g.line axis ref = .ok (k, line) ∧ g.label axis ref = .ok line.label ∧
      ∀ c, line.cells[c]? = g.cell? axis k c := by
  obtain ⟨line, hline, hlabel, hcells⟩ := hg.exists_line (lt_of_key h)
  refine ⟨line, ?_, ?_, hcells⟩
  · rw [Grid.line, h]
    show Except.ok (k, (g.lines axis).getD k ⟨none, []⟩) = .ok (k, line)
    rw [List.getD_eq_getElem?_getD, hline]
    rfl
  · rw [Grid.label, h]
    show Except.ok ((g.labels axis).getD k none) = .ok line.label
    rw [List.getD_eq_getElem?_getD, hlabel]
    rfl

theorem WF.value_of_keys (hg : g.WF) {row column : LineRef} {r c : Nat}
    (hr : g.key .row row = .ok r) (hc : g.key .column column = .ok c) :
    ∃ cell, g.cell? .row r c = some cell ∧ g.value row column = .ok cell := by
  obtain ⟨cell, hcell⟩ :=
    Option.isSome_iff_exists.1 (hg.cell?_isSome_iff.2 ⟨lt_of_key hr, lt_of_key hc⟩)
  refine ⟨cell, hcell, ?_⟩
  rw [value, hr, hc]
  show Except.ok ((g.cell? .row r c).getD .null) = .ok cell
  rw [hcell]
  rfl

end Tabular.Grid
