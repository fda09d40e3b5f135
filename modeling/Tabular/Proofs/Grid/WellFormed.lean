/-
The invariant of grids: every row has a cell for each column, and the labels of each axis are
unique. It does not depend on the axis that a grid is seen from, so a change along an axis keeps
it when the change of rows does.
-/
import Tabular.Proofs.Grid.UniqueLabels
import Tabular.Proofs.Outcome
import Tabular.Grid.Combine
import Tabular.Grid.Search

namespace Tabular.Grid

/-- The invariant of reachable grids. -/
structure WF (g : Grid) : Prop where
  width : ∀ row ∈ g.rows, row.cells.length = g.count .column
  labels : ∀ axis, UniqueLabels (g.labels axis)

theorem empty_wf : empty.WF := by
  refine ⟨nofun, fun axis => ?_⟩
  cases axis <;> exact uniqueLabels_nil

/-! ## Either axis -/

theorem labels_transpose (g : Grid) (axis : Axis) :
    g.transpose.labels axis = g.labels axis.cross := by
  cases axis with
  | row =>
    have hlabels : g.transpose.rows.map (·.label) = g.columnLabels.zipIdx.map Prod.fst := by
      simp [transpose, Function.comp_def]
    exact hlabels.trans (List.zipIdx_map_fst 0 _)
  | column => rfl

theorem transpose_wf {g : Grid} (hg : g.WF) : g.transpose.WF := by
  refine ⟨?_, fun axis => ?_⟩
  · intro row hrow
    obtain ⟨⟨label, column⟩, _, rfl⟩ := List.mem_map.1 hrow
    show (g.rows.map _).length = (g.rows.map (·.label)).length
    rw [List.length_map, List.length_map]
  · rw [labels_transpose]
    exact hg.labels axis.cross

/-- Changes the lines of an axis by a change of rows. -/
def along (axis : Axis) (change : Grid → Grid) (g : Grid) : Grid :=
  (change (g.seenFrom axis)).seenFrom axis

theorem seenFrom_wf (axis : Axis) {g : Grid} (hg : g.WF) : (g.seenFrom axis).WF := by
  cases axis with
  | row => exact hg
  | column => exact transpose_wf hg

theorem labels_seenFrom (axis : Axis) (g : Grid) : (g.seenFrom axis).labels .row = g.labels axis := by
  cases axis with
  | row => rfl
  | column => exact labels_transpose g .row

theorem labels_along (axis : Axis) (change : Grid → Grid) (g : Grid) :
    (g.along axis change).labels axis = (change (g.seenFrom axis)).labels .row := by
  cases axis with
  | row => rfl
  | column => exact labels_transpose _ .column

theorem along_wf {axis : Axis} {change : Grid → Grid} {g : Grid} (hg : g.WF)
    (hchange : (g.seenFrom axis).WF → (change (g.seenFrom axis)).WF) :
    (g.along axis change).WF :=
  seenFrom_wf axis (hchange (seenFrom_wf axis hg))

/-! ## Changes of rows -/

theorem WF.withRows {g : Grid} (hg : g.WF) {rows : List Line}
    (hwidth : ∀ row ∈ rows, row.cells.length = g.count .column)
    (hlabels : UniqueLabels (rows.map (·.label))) : WF { g with rows := rows } := by
  refine ⟨hwidth, fun axis => ?_⟩
  cases axis with
  | row => exact hlabels
  | column => exact hg.labels .column

theorem rows_sublist_wf {g : Grid} (hg : g.WF) {rows : List Line} (hs : rows.Sublist g.rows) :
    WF { g with rows := rows } :=
  hg.withRows (fun row hrow => hg.width row (hs.subset hrow))
    ((hg.labels .row).sublist (hs.map _))

theorem rows_perm_wf {g : Grid} (hg : g.WF) {rows : List Line} (hp : rows.Perm g.rows) :
    WF { g with rows := rows } :=
  hg.withRows (fun row hrow => hg.width row (hp.subset hrow)) ((hg.labels .row).perm (hp.map _))

/-- Changing one row needs its label kept and its width right. -/
theorem modify_wf {g : Grid} (hg : g.WF) (index : Nat) {change : Line → Line}
    (hlabel : ∀ row, (change row).label = row.label)
    (hwidth : ∀ row ∈ g.rows, (change row).cells.length = g.count .column) :
    WF { g with rows := g.rows.modify index change } := by
  by_cases hi : index < g.rows.length
  · obtain ⟨before, row, after, hrows, _, hmodify⟩ := List.exists_of_modify change hi
    rw [hmodify]
    refine hg.withRows ?_ ?_
    · intro r hr
      rcases List.mem_append.1 hr with hr | hr
      · exact hg.width r (by rw [hrows]; exact List.mem_append_left _ hr)
      · rcases List.mem_cons.1 hr with rfl | hr
        · exact hwidth row (by rw [hrows]; exact List.mem_append_right _ List.mem_cons_self)
        · exact hg.width r
            (by rw [hrows]; exact List.mem_append_right _ (List.mem_cons_of_mem _ hr))
    · have hlabels := hg.labels .row
      rw [labels, hrows, List.map_append, List.map_cons, ← hlabel row] at hlabels
      rwa [List.map_append, List.map_cons]
  · rw [List.modify_eq_self (Nat.le_of_not_lt hi)]
    exact hg

theorem labels_widen_row (width : Nat) (g : Grid) : (g.widen width).labels .row = g.labels .row := by
  simp [labels, widen, Function.comp_def]

theorem widen_wf (width : Nat) {g : Grid} (hg : g.WF) : (g.widen width).WF := by
  refine ⟨?_, fun axis => ?_⟩
  · intro row hrow
    obtain ⟨old, hold, rfl⟩ := List.mem_map.1 hrow
    have hwidth : old.cells.length = g.columnLabels.length := hg.width old hold
    simp [count, labels, widen, hwidth]
  · cases axis with
    | row =>
      rw [labels_widen_row]
      exact hg.labels .row
    | column => exact (hg.labels .column).rightpad_none width

/-- A grid widened for some cells has room for them. -/
theorem length_rightpad_widen (cells : List Cell) (g : Grid) :
    (cells.rightpad (g.widen cells.length).columnLabels.length .null).length =
      (g.widen cells.length).count .column := by
  simp only [count, labels, widen, List.length_rightpad]
  omega

theorem insertRow_wf {g : Grid} (hg : g.WF) (index : Nat) {row : Line}
    (hf : Fresh row.label (g.labels .row)) : (g.insertRow index row).WF := by
  refine (widen_wf row.cells.length hg).withRows ?_ ?_
  · intro r hr
    rcases List.eq_or_mem_of_mem_insertIdx hr with rfl | hr
    · exact length_rightpad_widen row.cells g
    · exact (widen_wf row.cells.length hg).width r hr
  · rw [List.map_insertIdx]
    refine UniqueLabels.insertIdx ?_ ?_ index
    · exact (widen_wf row.cells.length hg).labels .row
    · show Fresh row.label ((g.widen row.cells.length).labels .row)
      rw [labels_widen_row]
      exact hf

theorem writeRow_wf {g : Grid} (hg : g.WF) (index : Nat) (cells : List Cell) :
    (g.writeRow index cells).WF :=
  modify_wf (widen_wf cells.length hg) index (fun _ => rfl)
    fun _ _ => length_rightpad_widen cells g

theorem removeRow_wf {g : Grid} (hg : g.WF) (index : Nat) : (g.removeRow index).WF :=
  rows_sublist_wf hg (List.eraseIdx_sublist g.rows index)

/-- Keeps the rows that pass a test of their position and content. -/
def keepRows (test : Nat → Line → Bool) (g : Grid) : Grid :=
  { g with rows := (g.rows.zipIdx.filter fun (row, key) => test key row).map (·.1) }

theorem keepRows_wf {g : Grid} (hg : g.WF) (test : Nat → Line → Bool) : (g.keepRows test).WF := by
  refine rows_sublist_wf hg ((List.filter_sublist.map Prod.fst).trans ?_)
  rw [List.zipIdx_map_fst]

theorem filterMap_range_getElem? {α : Type} (items : List α) (n : Nat) :
    (List.range n).filterMap (items[·]?) = items.take n := by
  induction n with
  | zero => rfl
  | succ n ih =>
    rw [List.range_succ, List.filterMap_append, ih, List.take_add_one]
    cases h : items[n]? <;> simp [h]

/-- Positions that are picked in order and without repetition. -/
theorem pickRows_wf {g : Grid} (hg : g.WF) {keys : List Nat} {n : Nat}
    (hkeys : keys.Sublist (List.range n)) : (g.pickRows keys).WF := by
  have hs : (picked keys g.rows).Sublist ((List.range n).filterMap (g.rows[·]?)) :=
    hkeys.filterMap _
  rw [filterMap_range_getElem?] at hs
  exact rows_sublist_wf hg (hs.trans (List.take_sublist n g.rows))

end Tabular.Grid
