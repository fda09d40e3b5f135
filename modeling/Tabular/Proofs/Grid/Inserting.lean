/-
Putting lines in and overwriting them. All lines are filled up with nulls to one width, and the
lines that the cross axis has more of then come last and have no label. Nothing else changes: the
other lines keep their order, their labels and their cells. Taking the new line out again leaves
the old grid with these lines of nulls.
-/
import Tabular.Proofs.Grid.InPlace
import Tabular.Proofs.Grid.WholeLines

namespace Tabular.Grid

variable {g changed : Grid} {axis : Axis}

/-! ## More lines -/

theorem WF.grow_wf (hg : g.WF) (axis : Axis) (n : Nat) : (g.grow axis n).WF := by
  cases axis with
  | row => exact hg.heighten_wf n
  | column => exact widen_wf n hg

/-- The lines that are added are null all through. -/
theorem WF.lines_grow (hg : g.WF) (axis : Axis) (n : Nat) :
    (g.grow axis n).lines axis = g.lines axis ++
      List.replicate (n - g.count axis) ⟨none, List.replicate (g.count axis.cross) .null⟩ := by
  have hrow : ∀ x : Grid, (x.heighten n).rows = x.rows ++
      List.replicate (n - x.count .row) ⟨none, List.replicate (x.count .column) .null⟩ := by
    intro x
    rw [← length_rows]
    rfl
  cases axis with
  | row => exact hrow g
  | column =>
    have hturned : (g.widen n).transpose = g.transpose.heighten n := by
      have hback := (transpose_wf hg).transpose_heighten n
      rw [hg.transpose_transpose] at hback
      rw [← hback, ((transpose_wf hg).heighten_wf n).transpose_transpose]
    show (g.widen n).transpose.rows = _
    rw [hturned, hrow, count_transpose, count_transpose]
    rfl

/-- The lines across them are filled up. -/
theorem WF.lines_cross_grow (hg : g.WF) (axis : Axis) (n : Nat) :
    (g.grow axis.cross n).lines axis =
      (g.lines axis).map (·.padded (max (g.count axis.cross) n)) := by
  cases axis with
  | row => exact hg.rows_widen n
  | column =>
    show (g.heighten n).transpose.rows = _
    rw [hg.transpose_heighten, (transpose_wf hg).rows_widen, count_transpose]
    rfl

theorem labels_grow (axis : Axis) (n : Nat) (g : Grid) :
    (g.grow axis n).labels axis = (g.labels axis).rightpad n none := by
  cases axis with
  | row => simp [grow, heighten, labels, List.rightpad]
  | column => rfl

theorem labels_cross_grow (axis : Axis) (n : Nat) (g : Grid) :
    (g.grow axis.cross n).labels axis = g.labels axis := by
  cases axis with
  | row => exact labels_widen_row n g
  | column => rfl

theorem WF.grow_eq_self (hg : g.WF) {n : Nat} (h : n ≤ g.count axis) : g.grow axis n = g := by
  have hcross := labels_cross_grow axis.cross n g
  rw [Axis.cross_cross] at hcross
  refine (hg.grow_wf axis n).eq_of_lines hg axis ?_ hcross
  rw [hg.lines_grow, Nat.sub_eq_zero_of_le h, List.replicate_zero, List.append_nil]

/-! ## Lines that are put in -/

theorem insertIdx_append_length {α : Type} (before after : List α) (a : α) :
    (before ++ after).insertIdx before.length a = before ++ a :: after := by
  induction before with
  | nil => rfl
  | cons b before ih => simp [ih]

/-- A line has been put in between the others. -/
structure LineInserted (axis : Axis) (before : List Line) (line : Line) (after : List Line)
    (g changed : Grid) : Prop where
  wf : changed.WF
  lines : changed.lines axis =
    (before ++ line :: after).map (·.padded (changed.count axis.cross))
  count_cross : changed.count axis.cross = max (g.count axis.cross) line.cells.length
  labels_cross : changed.labels axis.cross =
    g.labels axis.cross ++ List.replicate (line.cells.length - g.count axis.cross) none
  found : changed.key axis (.position before.length) = .ok before.length
  taken : ∀ ref, changed.key axis ref = .ok before.length → ∃ rest,
    changed.take axis ref = .ok (line.cells.rightpad (changed.count axis.cross) .null, rest) ∧
      rest.WF ∧ rest.labels axis = g.labels axis ∧
      rest.lines axis.cross = g.lines axis.cross ++
        List.replicate (line.cells.length - g.count axis.cross)
          ⟨none, List.replicate (g.count axis) .null⟩ ∧
      (line.cells.length ≤ g.count axis.cross → rest = g)

theorem take_eq_ok {ref : LineRef} {k : Nat} {line : Line} (hk : g.key axis ref = .ok k)
    (hline : (g.lines axis)[k]? = some line) :
    g.take axis ref = .ok (line.cells, g.removeLine axis k) := by
  rw [take, Grid.line, hk]
  show Except.ok (((g.lines axis).getD k ⟨none, []⟩).cells, _) = _
  rw [List.getD_eq_getElem?_getD, hline]
  rfl

/-- Taking out what has been put in leaves the grid with the room that was made. -/
theorem WF.removeLine_insertLine (hg : g.WF) (index : Nat) {line : Line}
    (hf : Fresh line.label (g.labels axis)) :
    (g.insertLine axis index line).removeLine axis index =
      g.grow axis.cross line.cells.length := by
  have hinserted := insertLine_wf hg index hf
  have hremoved : ((g.insertLine axis index line).removeLine axis index).WF := by
    rw [hinserted.removeLine_eq]
    exact along_wf hinserted fun hs => removeRow_wf hs index
  refine hremoved.eq_of_lines (hg.grow_wf axis.cross _) axis ?_ ?_
  · rw [hinserted.lines_removeLine, hg.lines_insertLine index hf, List.eraseIdx_insertIdx_self,
      hg.lines_cross_grow]
  · rw [hinserted.labels_cross_removeLine, hg.labels_cross_insertLine, labels_grow]

theorem WF.lineInserted (hg : g.WF) {before after : List Line} {line : Line}
    (hlines : g.lines axis = before ++ after) (hf : Fresh line.label (g.labels axis)) :
    LineInserted axis before line after g (g.insertLine axis before.length line) := by
  have hwf := insertLine_wf hg before.length hf
  have hcross := hg.labels_cross_insertLine axis before.length line
  have hcount : (g.insertLine axis before.length line).count axis.cross =
      max (g.count axis.cross) line.cells.length := by
    rw [count, hcross, List.length_rightpad, Nat.max_comm, count]
  have hnew : (g.insertLine axis before.length line).lines axis =
      (before ++ line :: after).map
        (·.padded ((g.insertLine axis before.length line).count axis.cross)) := by
    rw [hg.lines_insertLine before.length hf, hcount, ← List.map_insertIdx, hlines,
      insertIdx_append_length]
  have hat : before.length < (g.insertLine axis before.length line).count axis := by
    rw [← length_lines, hnew]
    simp
  refine ⟨hwf, hnew, hcount, hcross, key_position axis hat, fun ref href => ?_⟩
  have hline : ((g.insertLine axis before.length line).lines axis)[before.length]? =
      some (line.padded ((g.insertLine axis before.length line).count axis.cross)) := by
    rw [hnew]
    simp
  refine ⟨_, take_eq_ok href hline, ?_⟩
  rw [hg.removeLine_insertLine _ hf]
  refine ⟨hg.grow_wf _ _, labels_cross_grow axis _ g, ?_, hg.grow_eq_self⟩
  rw [hg.lines_grow, Axis.cross_cross]

/-! ## Lines that are overwritten -/

theorem modify_append {α : Type} {before : List α} {n : Nat} (hlen : before.length = n)
    (after : List α) (a : α) (change : α → α) :
    (before ++ a :: after).modify n change = before ++ change a :: after := by
  subst hlen
  induction before with
  | nil => rfl
  | cons b before ih => simp [ih]

/-- A line between the others has got other cells. -/
structure LineOverwritten (axis : Axis) (before : List Line) (line : Line) (after : List Line)
    (cells : List Cell) (g changed : Grid) : Prop where
  wf : changed.WF
  lines : changed.lines axis =
    (before ++ { line with cells := cells } :: after).map (·.padded (changed.count axis.cross))
  labels : changed.labels axis = g.labels axis
  count_cross : changed.count axis.cross = max (g.count axis.cross) cells.length
  labels_cross : changed.labels axis.cross =
    g.labels axis.cross ++ List.replicate (cells.length - g.count axis.cross) none

theorem WF.writeLine_wf (hg : g.WF) (axis : Axis) (index : Nat) (cells : List Cell) :
    (g.writeLine axis index cells).WF := by
  rw [hg.writeLine_eq]
  exact along_wf hg fun hs => writeRow_wf hs index cells

theorem WF.lineOverwritten (hg : g.WF) {before after : List Line} {line : Line}
    (hlines : g.lines axis = before ++ line :: after) (cells : List Cell) :
    LineOverwritten axis before line after cells g
      (g.writeLine axis before.length cells) := by
  have hcross := hg.labels_cross_writeLine axis before.length cells
  have hcount : (g.writeLine axis before.length cells).count axis.cross =
      max (g.count axis.cross) cells.length := by
    rw [count, hcross, List.length_rightpad, Nat.max_comm, count]
  have hnew : (g.writeLine axis before.length cells).lines axis =
      (before ++ { line with cells := cells } :: after).map
        (·.padded ((g.writeLine axis before.length cells).count axis.cross)) := by
    rw [hg.lines_writeLine, hcount, hlines, List.map_append, List.map_cons, List.map_append,
      List.map_cons, modify_append (List.length_map _)]
    rfl
  refine ⟨hg.writeLine_wf axis _ cells, hnew, ?_, hcount, hcross⟩
  rw [← map_label_lines, ← map_label_lines, hnew, hlines]
  simp [Function.comp_def]

/-! ## Reachable grids -/

/-- A label that is free is stored as it is, but for the empty text. -/
theorem eq_normalizeLabel_of_freeLabel {label stored : Option String} {owner : Option Nat}
    (h : g.freeLabel axis label owner = .ok stored) : stored = normalizeLabel label := by
  unfold freeLabel at h
  split at h
  · rename_i hnone
    cases h
    exact hnone.symm
  · rename_i l hl
    split at h
    · cases h
      exact hl.symm
    · split at h
      · cases h
        exact hl.symm
      · cases h

theorem WF.lineInserted_of_insert (hg : g.WF) {before after : List Line} {cells : List Cell}
    {label : Option String} (hlines : g.lines axis = before ++ after)
    (h : g.insert axis before.length cells label = .ok changed) :
    LineInserted axis before ⟨normalizeLabel label, cells⟩ after g changed := by
  obtain ⟨stored, hstored, rfl⟩ := map_eq_ok_iff.1 h
  rw [← eq_normalizeLabel_of_freeLabel hstored]
  exact hg.lineInserted hlines (fresh_of_freeLabel hstored)

theorem WF.lineOverwritten_of_update (hg : g.WF) {ref : LineRef} {cells : List Cell}
    (h : g.update axis ref cells = .ok changed) :
    ∃ before line after, g.lines axis = before ++ line :: after ∧
      g.key axis ref = .ok before.length ∧
      LineOverwritten axis before line after cells g changed := by
  obtain ⟨k, hk, rfl⟩ := map_eq_ok_iff.1 h
  have hlt : k < (g.lines axis).length := by
    rw [length_lines]
    exact lt_of_key hk
  obtain ⟨before, line, after, hlines, rfl, _⟩ := List.exists_of_modify id hlt
  exact ⟨before, line, after, hlines, hk, hg.lineOverwritten hlines cells⟩

/-- Adding a line to a reachable grid puts it last or first, and replacing the cells of a line, or
making them null, changes this line; all that there was besides stays as it is, filled up with nulls
where the cells reach further than the grid. -/
theorem Reachable.lines_inserted_overwritten (hg : g.Reachable) (axis : Axis)
    (cells : List Cell) :
    (∀ label changed, g.append axis cells label = .ok changed →
      LineInserted axis (g.lines axis) ⟨normalizeLabel label, cells⟩ [] g changed) ∧
    (∀ label changed, g.prepend axis cells label = .ok changed →
      LineInserted axis [] ⟨normalizeLabel label, cells⟩ (g.lines axis) g changed) ∧
    (∀ ref changed, g.update axis ref cells = .ok changed →
      ∃ before line after, g.lines axis = before ++ line :: after ∧
        g.key axis ref = .ok before.length ∧
        LineOverwritten axis before line after cells g changed) ∧
    ∀ ref changed, g.clear axis ref = .ok changed →
      ∃ before line after, g.lines axis = before ++ line :: after ∧
        g.key axis ref = .ok before.length ∧
        LineOverwritten axis before line after [] g changed := by
  refine ⟨fun label changed h => ?_, fun label changed h => ?_,
    fun ref changed h => hg.wf.lineOverwritten_of_update h,
    fun ref changed h => hg.wf.lineOverwritten_of_update h⟩
  · refine hg.wf.lineInserted_of_insert (List.append_nil _).symm ?_
    rwa [length_lines]
  · exact hg.wf.lineInserted_of_insert rfl h

/-- A grid without rows: a longer row makes it wider, and a column in front of the others gives it
two rows. -/
theorem lines_inserted_overwritten_without_rows :
    Reachable ⟨[], [some "a"]⟩ ∧
      LineInserted .row [] ⟨some "r", [.text "x", .text "y"]⟩ [] ⟨[], [some "a"]⟩
        ⟨[⟨some "r", [.text "x", .text "y"]⟩], [some "a", none]⟩ ∧
      LineInserted .column [] ⟨none, [.text "x", .text "y"]⟩ [⟨some "a", []⟩] ⟨[], [some "a"]⟩
        ⟨[⟨none, [.text "x", .null]⟩, ⟨none, [.text "y", .null]⟩], [none, some "a"]⟩ ∧
      LineOverwritten .column [] ⟨some "a", []⟩ [] [.text "x", .text "y"] ⟨[], [some "a"]⟩
        ⟨[⟨none, [.text "x"]⟩, ⟨none, [.text "y"]⟩], [some "a"]⟩ := by
  have hmade : ofLabeledRows [[.text "a"]] false true = .ok ⟨[], [some "a"]⟩ := rfl
  have hg : Reachable ⟨[], [some "a"]⟩ := .ofLabeledRows hmade
  have hrow := (hg.lines_inserted_overwritten .row [.text "x", .text "y"]).1
  obtain ⟨_, hcolumn, hupdate, _⟩ :=
    hg.lines_inserted_overwritten .column [.text "x", .text "y"]
  refine ⟨hg, hrow (some "r") _ rfl, hcolumn (some "") _ rfl, ?_⟩
  obtain ⟨before, line, after, hlines, hk, hover⟩ := hupdate (.label "a") _ rfl
  obtain rfl : before = [] := List.eq_nil_of_length_eq_zero (Except.ok.inj hk).symm
  cases hlines
  exact hover

end Tabular.Grid
