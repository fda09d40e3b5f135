/-
The grid of some lines of an axis. It has these lines, in the order in which they were picked, with
their labels and cells, and the cross axis is the same; so picking twice is picking once, and
rearranging whole lines is picking all of them. A query finds in it the fields that it finds in the
whole grid, and decides a line as it does there unless it asks for the position.
-/
import Tabular.Proofs.Grid.Access
import Tabular.Proofs.Grid.Transpose
import Tabular.Proofs.Query.Agreement

namespace Tabular

/-! ## Items at some positions -/

section

variable {α : Type} {positions : List Nat} {items : List α}

theorem picked_cons {p : Nat} (h : p < items.length) :
    picked (p :: positions) items = items[p] :: picked positions items := by
  rw [picked, List.filterMap_cons, List.getElem?_eq_getElem h]
  rfl

theorem length_picked (h : ∀ p ∈ positions, p < items.length) :
    (picked positions items).length = positions.length := by
  induction positions with
  | nil => rfl
  | cons p positions ih =>
    rw [List.forall_mem_cons] at h
    rw [picked_cons h.1, List.length_cons, List.length_cons, ih h.2]

theorem getElem?_picked (h : ∀ p ∈ positions, p < items.length) (i : Nat) :
    (picked positions items)[i]? = positions[i]?.bind (items[·]?) := by
  induction positions generalizing i with
  | nil => rfl
  | cons p positions ih =>
    rw [List.forall_mem_cons] at h
    rw [picked_cons h.1]
    cases i with
    | zero => exact (List.getElem?_eq_getElem h.1).symm
    | succ i => exact ih h.2 i

theorem mem_of_mem_picked {a : α} (h : a ∈ picked positions items) : a ∈ items := by
  obtain ⟨i, _, hi⟩ := List.mem_filterMap.1 h
  exact List.mem_of_getElem? hi

/-- Picking from what has been picked is picking at the positions picked from the positions. -/
theorem picked_picked (h : ∀ p ∈ positions, p < items.length) (more : List Nat) :
    picked more (picked positions items) = picked (picked more positions) items := by
  have hpick : (fun i => (picked positions items)[i]?) = fun i => positions[i]?.bind (items[·]?) :=
    funext (getElem?_picked h)
  rw [picked, hpick, picked, picked, List.filterMap_filterMap]

theorem picked_range {n : Nat} (h : items.length = n) : picked (List.range n) items = items := by
  rw [picked, Grid.filterMap_range_getElem?, List.take_of_length_le (Nat.le_of_eq h)]

theorem map_getElem?_range (items : List α) :
    (List.range items.length).map (items[·]?) = items.map some :=
  List.ext_getElem? fun i => by by_cases hi : i < items.length <;> simp [hi]

theorem picked_eq_of_map {found : List α} (h : positions.map (items[·]?) = found.map some) :
    picked positions items = found := by
  have hfound := congrArg (List.filterMap id) h
  rw [List.filterMap_map, List.filterMap_map] at hfound
  exact hfound.trans List.filterMap_some

/-- Picking the positions that pass a test is keeping the items that pass it. -/
theorem picked_filter_range {test : Nat → Bool} {keep : α → Bool}
    (h : ∀ i a, items[i]? = some a → test i = keep a) :
    picked ((List.range items.length).filter test) items = items.filter keep := by
  conv_rhs => rw [← picked_range (rfl : items.length = items.length)]
  rw [picked, picked, List.filterMap_filter, List.filter_filterMap]
  congr 1
  funext i
  cases ha : items[i]? with
  | none => simp
  | some a => simp [h i a ha, Option.filter_some]

end

namespace Grid

variable {g : Grid} {axis : Axis} {keys : List Nat}

/-! ## Picked lines -/

theorem labels_pick (g : Grid) (axis : Axis) (keys : List Nat) :
    (g.pick axis keys).labels axis = picked keys (g.labels axis) := by
  cases axis with
  | row => exact map_picked ..
  | column => rfl

theorem labels_cross_pick (g : Grid) (axis : Axis) (keys : List Nat) :
    (g.pick axis keys).labels axis.cross = g.labels axis.cross := by
  cases axis with
  | row => rfl
  | column => simp [pick, pickColumns, labels, Axis.cross, Function.comp_def]

theorem count_pick (hkeys : ∀ k ∈ keys, k < g.count axis) :
    (g.pick axis keys).count axis = keys.length := by
  rw [count, labels_pick, length_picked hkeys]

theorem WF.cell?_pick (hg : g.WF) (hkeys : ∀ k ∈ keys, k < g.count axis) (i c : Nat) :
    (g.pick axis keys).cell? axis i c = keys[i]?.bind fun k => g.cell? axis k c := by
  cases axis with
  | row =>
    have hrows : ∀ k ∈ keys, k < g.rows.length := by rwa [length_rows]
    rw [pick, cell?, pickRows, getElem?_picked hrows, Option.bind_assoc]
    rfl
  | column =>
    simp only [pick, cell?, pickColumns, List.getElem?_map]
    cases hrow : g.rows[c]? with
    | none => simp
    | some row =>
      -- every row reaches the columns that are picked
      have hcells : ∀ k ∈ keys, k < row.cells.length := by
        rwa [hg.width row (List.mem_of_getElem? hrow)]
      exact getElem?_picked hcells i

/-- Picking again is picking once. -/
theorem WF.pick_pick (hg : g.WF) (hkeys : ∀ k ∈ keys, k < g.count axis) (more : List Nat) :
    (g.pick axis keys).pick axis more = g.pick axis (picked more keys) := by
  cases axis with
  | row =>
    have hrows : ∀ k ∈ keys, k < g.rows.length := by rwa [length_rows]
    exact congrArg (Grid.mk · g.columnLabels) (picked_picked hrows more)
  | column =>
    refine eq_of_cells_of_labels ?_ fun axis => ?_
    · simp only [cells, pick, pickColumns, List.map_map]
      refine List.map_congr_left fun row hrow => picked_picked ?_ more
      rwa [hg.width row hrow]
    · cases axis with
      | row => simp [Grid.labels, pick, pickColumns, Function.comp_def]
      | column => exact picked_picked hkeys more

/-- Picking every line changes nothing. -/
theorem WF.pick_range (hg : g.WF) (axis : Axis) : g.pick axis (List.range (g.count axis)) = g := by
  cases axis with
  | row => exact congrArg (Grid.mk · g.columnLabels) (picked_range (length_rows g))
  | column =>
    refine eq_of_cells_of_labels ?_ fun axis => ?_
    · simp only [cells, pick, pickColumns, List.map_map]
      exact List.map_congr_left fun row hrow => picked_range (hg.width row hrow)
    · cases axis with
      | row => simp [Grid.labels, pick, pickColumns, Function.comp_def]
      | column => exact picked_range rfl

/-- Rearranging the lines with their labels is picking them in another order. -/
theorem WF.arrange_picked (hg : g.WF) {order : List Nat}
    (horder : order.Perm (List.range (g.count axis))) :
    g.arrange axis true (picked order) = g.pick axis order := by
  rw [hg.arrange_sticky_eq (rearranges_picked horder), hg.pick_eq]
  rfl

/-! ## Picked lines in a query -/

theorem fieldsAgree_pick (g : Grid) (axis : Axis) (keys : List Nat) :
    FieldsAgree (g.pick axis keys).view axis g.view axis := by
  have hlabels := labels_cross_pick g axis keys
  refine ⟨congrArg List.length hlabels, fun l => ?_⟩
  exact congrArg (fun labels : List (Option String) => labels.findIdx? (· == some l)) hlabels

theorem WF.linesAgree_pick (hg : g.WF) (hkeys : ∀ k ∈ keys, k < g.count axis) {i k : Nat}
    (hk : keys[i]? = some k) : LinesAgree (g.pick axis keys).view axis i g.view axis k := by
  refine ⟨?_, fun c => ?_⟩
  · show (((g.pick axis keys).labels axis)[i]?).join = ((g.labels axis)[k]?).join
    rw [labels_pick, getElem?_picked hkeys, hk]
    rfl
  · show Cell.Alike (((g.pick axis keys).cell? axis i c).getD .null) _
    rw [hg.cell?_pick hkeys, hk]
    exact .refl _

end Grid

end Tabular
