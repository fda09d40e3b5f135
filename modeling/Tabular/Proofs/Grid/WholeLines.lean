/-
Grids by their lines. The lines of an axis, with their labels and cells, and the labels of the cross
axis make up a grid, whichever axis that is. So what an edit along an axis does is told by what
becomes of these two lists, for rows and columns at once.
-/
import Tabular.Proofs.Grid.Mirror

namespace Tabular

/-- A line filled up with nulls. -/
def Line.padded (width : Nat) (line : Line) : Line :=
  { line with cells := line.cells.rightpad width .null }

@[simp] theorem Line.padded_label (width : Nat) (line : Line) :
    (line.padded width).label = line.label := rfl

@[simp] theorem Line.padded_cells (width : Nat) (line : Line) :
    (line.padded width).cells = line.cells.rightpad width .null := rfl

/-! ## Filling lists up -/

section

variable {α : Type}

theorem rightpad_eq_self {items : List α} {n : Nat} (h : n ≤ items.length) (a : α) :
    items.rightpad n a = items := by
  rw [List.rightpad, Nat.sub_eq_zero_of_le h, List.replicate_zero, List.append_nil]

/-- Filling up to more than the length is filling up to the larger of both. -/
theorem rightpad_max {items : List α} {n : Nat} (h : items.length = n) (m : Nat) (a : α) :
    items.rightpad (max n m) a = items.rightpad m a := by
  have hmore : max n m - items.length = m - items.length := by omega
  rw [List.rightpad, List.rightpad, hmore]

/-- Filling up in two steps is filling up at once. -/
theorem rightpad_rightpad_of_le {n m : Nat} (h : n ≤ m) (items : List α) (a : α) :
    (items.rightpad n a).rightpad m a = items.rightpad m a := by
  have hrest : n - items.length + (m - max n items.length) = m - items.length := by omega
  rw [List.rightpad, List.length_rightpad, List.rightpad, List.append_assoc,
    List.replicate_append_replicate, hrest, List.rightpad]

end

theorem Line.padded_padded {n m : Nat} (h : n ≤ m) (line : Line) :
    (line.padded n).padded m = line.padded m :=
  congrArg (Line.mk line.label) (rightpad_rightpad_of_le h line.cells .null)

theorem Line.map_padded_padded {n m : Nat} (h : n ≤ m) (lines : List Line) :
    (lines.map (·.padded n)).map (·.padded m) = lines.map (·.padded m) := by
  rw [List.map_map]
  exact List.map_congr_left fun line _ => padded_padded h line

theorem Line.padded_eq_self {line : Line} {width : Nat} (h : width ≤ line.cells.length) :
    line.padded width = line :=
  congrArg (Line.mk line.label) (rightpad_eq_self h .null)

namespace Grid

variable {g h : Grid} {axis : Axis}

/-! ## The two lists -/

theorem length_lines (axis : Axis) (g : Grid) : (g.lines axis).length = g.count axis :=
  count_seenFrom axis g

theorem WF.length_cells_of_mem_lines (hg : g.WF) {line : Line} (hline : line ∈ g.lines axis) :
    line.cells.length = g.count axis.cross := by
  rw [(seenFrom_wf axis hg).width line hline]
  cases axis with
  | row => rfl
  | column => exact count_transpose g .column

/-- The lines of a grid need no filling up. -/
theorem WF.map_padded_lines (hg : g.WF) (axis : Axis) :
    (g.lines axis).map (·.padded (g.count axis.cross)) = g.lines axis := by
  refine (List.map_congr_left fun line hline => ?_).trans (List.map_id _)
  exact Line.padded_eq_self (Nat.le_of_eq (hg.length_cells_of_mem_lines hline).symm)

theorem columnLabels_seenFrom (axis : Axis) (g : Grid) :
    (g.seenFrom axis).columnLabels = g.labels axis.cross := by
  cases axis <;> rfl

theorem WF.seenFrom_seenFrom (hg : g.WF) (axis : Axis) : (g.seenFrom axis).seenFrom axis = g := by
  cases axis with
  | row => rfl
  | column => exact hg.transpose_transpose

/-- The lines of an axis and the labels of the other make up a grid. -/
theorem WF.eq_of_lines (hg : g.WF) (hh : h.WF) (axis : Axis) (hlines : g.lines axis = h.lines axis)
    (hlabels : g.labels axis.cross = h.labels axis.cross) : g = h := by
  have hseen : g.seenFrom axis = h.seenFrom axis := by
    rw [← columnLabels_seenFrom, ← columnLabels_seenFrom] at hlabels
    calc g.seenFrom axis = ⟨g.lines axis, (g.seenFrom axis).columnLabels⟩ := rfl
      _ = ⟨h.lines axis, (h.seenFrom axis).columnLabels⟩ := by rw [hlines, hlabels]
      _ = h.seenFrom axis := rfl
  rw [← hg.seenFrom_seenFrom axis, hseen, hh.seenFrom_seenFrom axis]

/-- Lines are told apart by their cells and by the labels of both axes. -/
theorem WF.eq_of_map_cells_lines (hg : g.WF) (hh : h.WF) (axis : Axis)
    (hcells : (g.lines axis).map (·.cells) = (h.lines axis).map (·.cells))
    (hlabels : g.labels axis = h.labels axis)
    (hcross : g.labels axis.cross = h.labels axis.cross) : g = h := by
  have hparts : ∀ lines : List Line,
      lines = List.zipWith Line.mk (lines.map (·.label)) (lines.map (·.cells)) := by
    intro lines
    simp [List.zipWith_map, List.zipWith_self]
  refine hg.eq_of_lines hh axis ?_ hcross
  rw [hparts (g.lines axis), hparts (h.lines axis), map_label_lines, map_label_lines, hcells,
    hlabels]

/-- The lines of an axis are made of its labels and of the cells. -/
theorem lines_congr (hlabels : g.labels axis = h.labels axis) (hcells : g.cells = h.cells) :
    g.lines axis = h.lines axis := by
  cases axis with
  | row =>
    have hrows : (⟨g.rows, []⟩ : Grid) = ⟨h.rows, []⟩ :=
      eq_of_cells_of_labels hcells (forall_axis .row hlabels rfl)
    exact (Grid.mk.inj hrows).1
  | column =>
    have hcolumns : g.columnLabels = h.columnLabels := hlabels
    show g.transpose.rows = h.transpose.rows
    rw [transpose_eq, transpose_eq, hcolumns, hcells]

/-- The cells of the lines do not depend on the labels. -/
theorem map_cells_lines_congr (hcount : g.count axis = h.count axis) (hcells : g.cells = h.cells) :
    (g.lines axis).map (·.cells) = (h.lines axis).map (·.cells) := by
  cases axis with
  | row => exact hcells
  | column =>
    have hcolumns : ∀ x : Grid, (x.lines .column).map (·.cells) =
        (List.range (x.count .column)).map fun c => x.cells.map (·.getD c .null) := by
      intro x
      show x.transpose.rows.map (·.cells) = _
      have hkeys : List.range (x.count .column) = x.columnLabels.zipIdx.map (·.2) := by
        rw [List.zipIdx_map_snd, ← List.range_eq_range']
        rfl
      rw [transpose_eq, hkeys, List.map_map, List.map_map]
      rfl
    rw [hcolumns, hcolumns, hcount, hcells]

/-! ## Changes along an axis -/

theorem lines_along {change : Grid → Grid} (hchange : (change (g.seenFrom axis)).WF) :
    (g.along axis change).lines axis = (change (g.seenFrom axis)).rows :=
  congrArg rows (hchange.seenFrom_seenFrom axis)

theorem labels_cross_along (axis : Axis) (change : Grid → Grid) (g : Grid) :
    (g.along axis change).labels axis.cross = (change (g.seenFrom axis)).columnLabels := by
  cases axis with
  | row => rfl
  | column => exact labels_transpose _ .row

theorem count_column_seenFrom (axis : Axis) (g : Grid) :
    (g.seenFrom axis).count .column = g.count axis.cross := by
  rw [count, count, ← columnLabels_seenFrom]
  rfl

theorem length_columnLabels_widen (g : Grid) (width : Nat) :
    (g.widen width).columnLabels.length = max (g.count .column) width := by
  rw [widen, List.length_rightpad, Nat.max_comm]
  rfl

theorem WF.rows_widen (hg : g.WF) (width : Nat) :
    (g.widen width).rows = g.rows.map (·.padded (max (g.count .column) width)) := by
  refine List.map_congr_left fun row hrow => ?_
  exact congrArg (Line.mk row.label) (rightpad_max (hg.width row hrow) width .null).symm

/-- A line is put in as wide as it takes, and the other lines are filled up to that. -/
theorem WF.lines_insertLine (hg : g.WF) (index : Nat) {line : Line}
    (hf : Fresh line.label (g.labels axis)) :
    (g.insertLine axis index line).lines axis =
      ((g.lines axis).map (·.padded (max (g.count axis.cross) line.cells.length))).insertIdx index
        (line.padded (max (g.count axis.cross) line.cells.length)) := by
  have hseen := seenFrom_wf axis hg
  have hwf : (insertRow index line (g.seenFrom axis)).WF :=
    insertRow_wf hseen index (by rwa [labels_seenFrom])
  rw [hg.insertLine_eq, lines_along hwf, insertRow, hseen.rows_widen, length_columnLabels_widen,
    count_column_seenFrom]
  rfl

theorem WF.labels_cross_insertLine (hg : g.WF) (axis : Axis) (index : Nat) (line : Line) :
    (g.insertLine axis index line).labels axis.cross =
      (g.labels axis.cross).rightpad line.cells.length none := by
  rw [hg.insertLine_eq, labels_cross_along, ← columnLabels_seenFrom]
  rfl

theorem WF.lines_writeLine (hg : g.WF) (axis : Axis) (index : Nat) (cells : List Cell) :
    (g.writeLine axis index cells).lines axis =
      ((g.lines axis).map (·.padded (max (g.count axis.cross) cells.length))).modify index fun line =>
        { line with cells := cells.rightpad (max (g.count axis.cross) cells.length) .null } := by
  have hseen := seenFrom_wf axis hg
  rw [hg.writeLine_eq, lines_along (writeRow_wf hseen index cells), writeRow, hseen.rows_widen,
    length_columnLabels_widen, count_column_seenFrom]
  rfl

theorem WF.labels_cross_writeLine (hg : g.WF) (axis : Axis) (index : Nat) (cells : List Cell) :
    (g.writeLine axis index cells).labels axis.cross =
      (g.labels axis.cross).rightpad cells.length none := by
  rw [hg.writeLine_eq, labels_cross_along, ← columnLabels_seenFrom]
  rfl

theorem WF.lines_removeLine (hg : g.WF) (axis : Axis) (index : Nat) :
    (g.removeLine axis index).lines axis = (g.lines axis).eraseIdx index := by
  rw [hg.removeLine_eq, lines_along (removeRow_wf (seenFrom_wf axis hg) index)]
  rfl

theorem WF.labels_cross_removeLine (hg : g.WF) (axis : Axis) (index : Nat) :
    (g.removeLine axis index).labels axis.cross = g.labels axis.cross := by
  rw [hg.removeLine_eq, labels_cross_along, ← columnLabels_seenFrom]
  rfl

theorem WF.lines_pick (hg : g.WF) (axis : Axis) {keys : List Nat} {n : Nat}
    (hkeys : keys.Sublist (List.range n)) :
    (g.pick axis keys).lines axis = picked keys (g.lines axis) := by
  rw [hg.pick_eq, lines_along (pickRows_wf (seenFrom_wf axis hg) hkeys)]
  rfl

/-! ## Other labels -/

theorem lines_withLabels_cross {labels : List (Option String)}
    (hlen : labels.length = g.count axis.cross) :
    (g.withLabels axis.cross labels).lines axis = g.lines axis := by
  refine lines_congr ?_ (cells_withLabels hlen)
  have hcross := @labels_cross_withLabels g axis.cross labels
  rwa [Axis.cross_cross] at hcross

theorem map_cells_lines_withLabels {labels : List (Option String)}
    (hlen : labels.length = g.count axis) :
    ((g.withLabels axis labels).lines axis).map (·.cells) = (g.lines axis).map (·.cells) := by
  refine map_cells_lines_congr ?_ (cells_withLabels hlen)
  rw [count, labels_withLabels hlen, hlen]

/-! ## Rearranged lines -/

section

variable {rearrange : {α : Type} → List α → List α}

/-- Sticky labels: the lines are rearranged as wholes. -/
theorem WF.lines_arrange_sticky (hg : g.WF) (hr : Rearranges (g.count axis) rearrange) :
    (g.arrange axis true rearrange).lines axis = rearrange (g.lines axis) := by
  rw [hg.arrange_sticky_eq hr]
  exact lines_along (rows_perm_wf (seenFrom_wf axis hg) (hr.perm _ (count_seenFrom axis g)))

/-- The cells of the lines are rearranged whatever becomes of the labels. -/
theorem WF.map_cells_lines_arrange (hg : g.WF) (sticky : Bool)
    (hr : Rearranges (g.count axis) rearrange) :
    ((g.arrange axis sticky rearrange).lines axis).map (·.cells) =
      rearrange ((g.lines axis).map (·.cells)) := by
  rw [hr.map, ← hg.lines_arrange_sticky hr]
  cases sticky with
  | true => rfl
  | false =>
    rw [arrange_loose_eq hr]
    exact map_cells_lines_withLabels (hg.count_arrange hr).symm

theorem WF.labels_arrange (hg : g.WF) (sticky : Bool) (hr : Rearranges (g.count axis) rearrange) :
    (g.arrange axis sticky rearrange).labels axis =
      if sticky then rearrange (g.labels axis) else g.labels axis := by
  cases sticky with
  | true =>
    rw [← map_label_lines, hg.lines_arrange_sticky hr, ← hr.map, map_label_lines]
    rfl
  | false => exact labels_arrange_loose hr

theorem WF.count_arrange_axis (hg : g.WF) (sticky : Bool)
    (hr : Rearranges (g.count axis) rearrange) :
    (g.arrange axis sticky rearrange).count axis = g.count axis := by
  rw [count, hg.labels_arrange sticky hr]
  cases sticky with
  | true => exact (hr.perm (g.labels axis) rfl).length_eq
  | false => rfl

theorem WF.labels_cross_arrange (hg : g.WF) (sticky : Bool)
    (hr : Rearranges (g.count axis) rearrange) :
    (g.arrange axis sticky rearrange).labels axis.cross = g.labels axis.cross := by
  have hmoved : (g.arrange axis true rearrange).labels axis.cross = g.labels axis.cross := by
    rw [hg.arrange_sticky_eq hr, labels_cross_along, ← columnLabels_seenFrom]
    rfl
  cases sticky with
  | true => exact hmoved
  | false => rw [arrange_loose_eq hr, labels_cross_withLabels, hmoved]

end

end Grid

end Tabular
