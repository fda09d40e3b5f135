/-
Rows and columns mirror each other. Transposing a grid twice gives it back, whatever its shape.
Each change of columns is the same change of the rows of the transpose, so a change along an axis
is a change of the rows of the grid seen from that axis, and a fact about rows holds along both.
-/
import Mathlib.Data.List.Induction
import Tabular.Proofs.Grid.WellFormed

namespace Tabular.Grid

variable {g h : Grid} {axis : Axis}

/-! ## A grid by its cells and labels -/

theorem eq_of_cells_of_labels (hcells : g.cells = h.cells)
    (hlabels : ∀ axis, g.labels axis = h.labels axis) : g = h := by
  have hline : ∀ {a b : Line}, a.label = b.label → a.cells = b.cells → a = b := by
    rintro ⟨_, _⟩ ⟨_, _⟩ rfl rfl
    rfl
  have hrows : g.rows = h.rows := by
    have hlen : g.rows.length = h.rows.length := by
      simpa [cells] using congrArg List.length hcells
    refine List.ext_getElem hlen fun i hi hj => hline ?_ ?_
    · simpa [labels, hi, hj] using congrArg (·[i]?) (hlabels .row)
    · simpa [cells, hi, hj] using congrArg (·[i]?) hcells
  obtain ⟨rows, columnLabels⟩ := g
  obtain ⟨rows', columnLabels'⟩ := h
  have hcolumns : columnLabels = columnLabels' := hlabels .column
  rw [hcolumns, show rows = rows' from hrows]

/-- A grid is a transpose when its labels are exchanged and each of its rows holds the cells of a
column. -/
theorem eq_transpose (hrow : g.labels .row = h.columnLabels) (hcolumn : g.columnLabels = h.labels .row)
    (hcells : ∀ r row, g.rows[r]? = some row → row.cells = h.rows.map (·.cells.getD r .null)) :
    g = h.transpose := by
  refine eq_of_cells_of_labels ?_ fun axis => ?_
  · have hlen : g.rows.length = h.columnLabels.length := by
      simpa [labels] using congrArg List.length hrow
    refine List.ext_getElem (by simp [cells, transpose, hlen]) fun r hr hr' => ?_
    have hr : r < g.rows.length := by simpa [cells] using hr
    simpa [cells, transpose] using hcells r g.rows[r] (List.getElem?_eq_getElem hr)
  · rw [labels_transpose]
    cases axis with
    | row => exact hrow
    | column => exact hcolumn

/-! ## Labels of an axis -/

theorem labels_withLabels {labels : List (Option String)} (hlen : labels.length = g.count axis) :
    (g.withLabels axis labels).labels axis = labels := by
  cases axis with
  | row =>
    have hrows : labels.length = g.rows.length := by simpa [count, Grid.labels] using hlen
    simp only [Grid.labels, withLabels, List.map_zipWith]
    exact List.ext_getElem (by simp [hrows]) (by simp)
  | column => rfl

theorem cells_withLabels {labels : List (Option String)} (hlen : labels.length = g.count axis) :
    (g.withLabels axis labels).cells = g.cells := by
  cases axis with
  | row =>
    have hrows : labels.length = g.rows.length := by simpa [count, Grid.labels] using hlen
    simp only [cells, withLabels, List.map_zipWith]
    exact List.ext_getElem (by simp [hrows]) (by simp)
  | column => rfl

theorem labels_cross_withLabels {labels : List (Option String)} :
    (g.withLabels axis labels).labels axis.cross = g.labels axis.cross := by
  cases axis <;> rfl

theorem forall_axis {p : Axis → Prop} (axis : Axis) (h : p axis) (hcross : p axis.cross) :
    ∀ a, p a := by
  intro a
  cases axis <;> cases a <;> assumption

theorem withLabels_self (axis : Axis) (g : Grid) : g.withLabels axis (g.labels axis) = g :=
  eq_of_cells_of_labels (cells_withLabels rfl)
    (forall_axis axis (labels_withLabels rfl) labels_cross_withLabels)

/-- Labels that have been replaced leave no trace. -/
theorem withLabels_withLabels {labels more : List (Option String)}
    (hlen : labels.length = g.count axis) (hmore : more.length = g.count axis) :
    (g.withLabels axis labels).withLabels axis more = g.withLabels axis more := by
  have hagain : more.length = (g.withLabels axis labels).count axis := by
    rw [count, labels_withLabels hlen, hlen, hmore]
  refine eq_of_cells_of_labels ?_ (forall_axis axis ?_ ?_)
  · rw [cells_withLabels hagain, cells_withLabels hlen, cells_withLabels hmore]
  · rw [labels_withLabels hagain, labels_withLabels hmore]
  · rw [labels_cross_withLabels, labels_cross_withLabels, labels_cross_withLabels]

/-- Labels that have been replaced can be put back. -/
theorem withLabels_labels {labels : List (Option String)} (hlen : labels.length = g.count axis) :
    (g.withLabels axis labels).withLabels axis (g.labels axis) = g := by
  rw [withLabels_withLabels hlen rfl, withLabels_self]

/-! ## Transposing -/

/-- The cells of a row are those of the columns of the transpose. -/
theorem WF.map_transpose_rows (hg : g.WF) {r : Nat} {row : Line} (h : g.rows[r]? = some row) :
    g.transpose.rows.map (·.cells.getD r .null) = row.cells := by
  have hwidth : row.cells.length = g.columnLabels.length := hg.width row (List.mem_of_getElem? h)
  refine List.ext_getElem (by simp [transpose, hwidth]) fun c _ hc => ?_
  simp [transpose, h, hc]

theorem WF.transpose_transpose (hg : g.WF) : g.transpose.transpose = g :=
  (eq_transpose rfl (labels_transpose g .row).symm fun _ _ hrow => (hg.map_transpose_rows hrow).symm).symm

theorem getElem?_transpose_rows (g : Grid) (c : Nat) :
    g.transpose.rows[c]? =
      g.columnLabels[c]?.map fun label => ⟨label, g.rows.map (·.cells.getD c .null)⟩ := by
  simp [transpose]
  rfl

theorem WF.cell?_transpose (hg : g.WF) (axis : Axis) (k c : Nat) :
    g.transpose.cell? axis k c = g.cell? axis.cross k c := by
  have hrow : ∀ k c, g.transpose.cell? .row k c = g.cell? .column k c := by
    intro k c
    rw [cell?, getElem?_transpose_rows, cell?]
    rcases hr : g.rows[c]? with _ | row
    · cases hl : g.columnLabels[k]? <;> simp [hr]
    · have hwidth : row.cells.length = g.columnLabels.length :=
        hg.width row (List.mem_of_getElem? hr)
      by_cases hk : k < g.columnLabels.length
      · have hk' : k < row.cells.length := hwidth ▸ hk
        simp [hr, hk, hk']
      · have hk' : ¬ k < row.cells.length := hwidth ▸ hk
        simp [hk, hk']
  cases axis with
  | row => exact hrow k c
  | column => exact hrow c k

/-- A change along an axis is the same change along the other axis of the transpose. -/
theorem WF.transpose_along (hg : g.WF) {change : Grid → Grid}
    (hchange : (change (g.seenFrom axis)).WF) :
    (g.along axis change).transpose = g.transpose.along axis.cross change := by
  cases axis with
  | row =>
    show (change g).transpose = (change g.transpose.transpose).transpose
    rw [hg.transpose_transpose]
  | column => exact hchange.transpose_transpose

/-! ## Changes of columns -/

theorem map_label_zipWith {α : Type} {rows : List Line} {items : List α}
    (hlen : rows.length = items.length) (f : Line → α → List Cell) :
    (List.zipWith (fun row item => { row with cells := f row item }) rows items).map (·.label) =
      rows.map (·.label) := by
  rw [List.map_zipWith]
  exact List.ext_getElem (by simp [hlen]) (by simp)

/-- Filling up is not seen by a lookup that answers the same where there is no item. -/
theorem getD_rightpad {α : Type} (items : List α) (n i : Nat) (a : α) :
    (items.rightpad n a).getD i a = items.getD i a := by
  rw [List.rightpad, List.getD_eq_getElem?_getD, List.getD_eq_getElem?_getD, List.getElem?_append]
  by_cases hi : i < items.length
  · rw [if_pos hi]
  · rw [if_neg hi, List.getElem?_replicate, List.getElem?_eq_none (Nat.le_of_not_lt hi)]
    split <;> rfl

theorem map_widen_rows (g : Grid) (width r : Nat) :
    (g.widen width).rows.map (·.cells.getD r .null) = g.rows.map (·.cells.getD r .null) := by
  simp only [widen, List.map_map, Function.comp_def, getD_rightpad]

theorem WF.heighten_eq (hg : g.WF) (height : Nat) :
    g.heighten height = (g.transpose.widen height).transpose := by
  refine eq_transpose ?_ ?_ ?_
  · simp [Grid.labels, heighten, widen, transpose, List.rightpad]
  · rw [labels_widen_row, labels_transpose]
    rfl
  · intro r row hrow
    rw [map_widen_rows]
    simp only [heighten, List.rightpad] at hrow
    by_cases hr : r < g.rows.length
    · rw [List.getElem?_append_left hr] at hrow
      exact (hg.map_transpose_rows hrow).symm
    · -- an added row, below the end of every column
      rw [List.getElem?_append_right (Nat.le_of_not_lt hr), List.getElem?_replicate] at hrow
      cases (Option.ite_none_right_eq_some.1 hrow).2
      refine (List.eq_replicate_iff.2 ⟨by simp [transpose], fun cell hcell => ?_⟩).symm
      obtain ⟨column, hcolumn, rfl⟩ := List.mem_map.1 hcell
      have hlen : column.cells.length = g.rows.length :=
        (transpose_wf hg).width column hcolumn |>.trans (List.length_map _)
      rw [List.getD_eq_getElem?_getD, List.getElem?_eq_none (hlen ▸ Nat.le_of_not_lt hr)]
      rfl

theorem WF.transpose_heighten (hg : g.WF) (height : Nat) :
    (g.heighten height).transpose = g.transpose.widen height := by
  rw [hg.heighten_eq, (widen_wf height (transpose_wf hg)).transpose_transpose]

theorem WF.heighten_wf (hg : g.WF) (height : Nat) : (g.heighten height).WF := by
  rw [hg.heighten_eq]
  exact transpose_wf (widen_wf height (transpose_wf hg))

theorem length_heighten (g : Grid) (height : Nat) :
    (g.heighten height).rows.length = max height g.rows.length := by
  simp only [heighten, List.length_rightpad]

/-- Giving each row its cell of a column changes the transpose in the way that it changes a row. -/
theorem WF.zipWith_rows_eq (hg : g.WF) {cells : List Cell} {columnLabels : List (Option String)}
    (change : List Cell → Cell → List Cell) (hlen : g.rows.length = cells.length)
    (hcolumn : columnLabels = h.labels .row) (hrow : g.labels .row = h.columnLabels)
    (hcells : ∀ r, h.rows.map (·.cells.getD r .null) =
      change (g.transpose.rows.map (·.cells.getD r .null)) (cells.getD r .null)) :
    ⟨List.zipWith (fun row cell => { row with cells := change row.cells cell }) g.rows cells,
      columnLabels⟩ = h.transpose := by
  refine eq_transpose ?_ hcolumn ?_
  · rw [← hrow]
    exact map_label_zipWith hlen fun row cell => change row.cells cell
  · intro r row hr
    obtain ⟨old, cell, hold, hcell, rfl⟩ := List.getElem?_zipWith_eq_some.1 hr
    rw [hcells, hg.map_transpose_rows hold, List.getD_eq_getElem?_getD, hcell]
    rfl

/-- Changing each row changes the transpose in the same way. -/
theorem WF.map_rows_eq (hg : g.WF) {columnLabels : List (Option String)}
    (change : List Cell → List Cell) (hcolumn : columnLabels = h.labels .row)
    (hrow : g.labels .row = h.columnLabels)
    (hcells : ∀ r, h.rows.map (·.cells.getD r .null) =
      change (g.transpose.rows.map (·.cells.getD r .null))) :
    ⟨g.rows.map fun row => { row with cells := change row.cells }, columnLabels⟩ =
      h.transpose := by
  refine eq_transpose ?_ hcolumn ?_
  · rw [← hrow, Grid.labels, List.map_map]
    rfl
  · intro r row hr
    rw [List.getElem?_map] at hr
    obtain ⟨old, hold, rfl⟩ := Option.map_eq_some_iff.1 hr
    rw [hcells, hg.map_transpose_rows hold]

/-- A grid made tall enough for some cells has a row for each. -/
theorem length_rightpad_heighten (cells : List Cell) (g : Grid) :
    (g.heighten cells.length).rows.length =
      (cells.rightpad (g.heighten cells.length).rows.length .null).length := by
  rw [List.length_rightpad, length_heighten]
  omega

theorem map_modify_of_eq {α β : Type} {f : α → β} {change : α → α} {b : β} (items : List α)
    (index : Nat) (hf : ∀ a, f (change a) = b) :
    (items.modify index change).map f = (items.map f).set index b := by
  refine List.ext_getElem (by simp) fun i hi hi' => ?_
  rw [List.getElem_map, List.getElem_modify, List.getElem_set, List.getElem_map]
  split
  · exact hf _
  · rfl

theorem map_modify_of_eq_self {α β : Type} {f : α → β} {change : α → α} (items : List α)
    (index : Nat) (hf : ∀ a, f (change a) = f a) :
    (items.modify index change).map f = items.map f := by
  refine List.ext_getElem (by simp) fun i hi hi' => ?_
  rw [List.getElem_map, List.getElem_modify, List.getElem_map]
  split
  · exact hf _
  · rfl

theorem WF.insertColumn_eq (hg : g.WF) (index : Nat) (column : Line) :
    g.insertColumn index column = (g.transpose.insertRow index column).transpose := by
  have htall := hg.transpose_heighten column.cells.length
  refine (hg.heighten_wf _).zipWith_rows_eq (fun cells cell => cells.insertIdx index cell)
    (length_rightpad_heighten column.cells g) ?_ (congrArg columnLabels htall) fun r => ?_
  · show g.columnLabels.insertIdx index column.label =
      ((g.transpose.widen _).rows.insertIdx index _).map (·.label)
    rw [List.map_insertIdx]
    exact congrArg (·.insertIdx index column.label)
      ((labels_widen_row _ g.transpose).trans (labels_transpose g .row)).symm
  · rw [insertRow, List.map_insertIdx, getD_rightpad, getD_rightpad, htall]

theorem WF.writeColumn_eq (hg : g.WF) (index : Nat) (cells : List Cell) :
    g.writeColumn index cells = (g.transpose.writeRow index cells).transpose := by
  have htall := hg.transpose_heighten cells.length
  refine (hg.heighten_wf _).zipWith_rows_eq (fun cells cell => cells.set index cell)
    (length_rightpad_heighten cells g) ?_ (congrArg columnLabels htall) fun r => ?_
  · show g.columnLabels = ((g.transpose.widen _).rows.modify index _).map (·.label)
    have hlabels := (labels_widen_row cells.length g.transpose).trans (labels_transpose g .row)
    refine (Eq.trans (map_modify_of_eq_self _ index ?_) hlabels).symm
    exact fun _ => rfl
  · rw [getD_rightpad, htall]
    exact map_modify_of_eq _ index fun _ => getD_rightpad ..

theorem WF.removeColumn_eq (hg : g.WF) (index : Nat) :
    g.removeColumn index = (g.transpose.removeRow index).transpose := by
  refine hg.map_rows_eq (·.eraseIdx index) ?_ rfl fun r => (List.eraseIdx_map ..).symm
  show g.columnLabels.eraseIdx index = (g.transpose.rows.eraseIdx index).map (·.label)
  rw [← List.eraseIdx_map]
  exact congrArg (·.eraseIdx index) (labels_transpose g .row).symm

theorem map_picked {α β : Type} (f : α → β) (positions : List Nat) (items : List α) :
    (picked positions items).map f = picked positions (items.map f) := by
  simp only [picked, List.map_filterMap, List.getElem?_map]

theorem WF.pickColumns_eq (hg : g.WF) (keys : List Nat) :
    g.pickColumns keys = (g.transpose.pickRows keys).transpose := by
  refine hg.map_rows_eq (picked keys) ?_ rfl fun r => map_picked ..
  show picked keys g.columnLabels = (picked keys g.transpose.rows).map (·.label)
  rw [map_picked]
  exact congrArg (picked keys) (labels_transpose g .row).symm

/-! ## Changes along an axis -/

theorem WF.insertLine_eq (hg : g.WF) (axis : Axis) (index : Nat) (line : Line) :
    g.insertLine axis index line = g.along axis (insertRow index line) := by
  cases axis with
  | row => rfl
  | column => exact hg.insertColumn_eq index line

theorem WF.writeLine_eq (hg : g.WF) (axis : Axis) (index : Nat) (cells : List Cell) :
    g.writeLine axis index cells = g.along axis (writeRow index cells) := by
  cases axis with
  | row => rfl
  | column => exact hg.writeColumn_eq index cells

theorem WF.removeLine_eq (hg : g.WF) (axis : Axis) (index : Nat) :
    g.removeLine axis index = g.along axis (removeRow index) := by
  cases axis with
  | row => rfl
  | column => exact hg.removeColumn_eq index

theorem WF.pick_eq (hg : g.WF) (axis : Axis) (keys : List Nat) :
    g.pick axis keys = g.along axis (pickRows keys) := by
  cases axis with
  | row => rfl
  | column => exact hg.pickColumns_eq keys

/-! ## Lines that pass a test -/

/-- Removing the rows that pass a test, from the `n`-th last to the first. -/
theorem foldr_discardLine_row (test : Line → Bool) (before after : List Line)
    (columnLabels : List (Option String)) :
    (List.range before.length).foldr (discardLine .row test) ⟨before ++ after, columnLabels⟩ =
      ⟨before.filter (!test ·) ++ after, columnLabels⟩ := by
  induction before using List.reverseRecOn generalizing after with
  | nil => rfl
  | append_singleton before row ih =>
    have hstep : discardLine .row test before.length ⟨before ++ [row] ++ after, columnLabels⟩ =
        ⟨before ++ ([row].filter (!test ·) ++ after), columnLabels⟩ := by
      rw [List.append_assoc, discardLine, lines, seenFrom, removeLine, removeRow]
      cases hrow : test row
      · simp [hrow]
      · simp [hrow, List.eraseIdx_append_of_length_le]
    rw [List.length_append, List.length_singleton, List.range_succ, List.foldr_append,
      List.foldr_cons, List.foldr_nil, hstep, ih, List.filter_append, List.append_assoc]

/-- A test that does not ask for the position is a test of the rows alone. -/
theorem keepRows_eq_filter (test : Line → Bool) (g : Grid) :
    g.keepRows (fun _ row => test row) = { g with rows := g.rows.filter test } := by
  have hrows : (g.rows.zipIdx.filter fun pair => test pair.1).map (·.1) = g.rows.filter test := by
    conv_rhs => rw [← List.zipIdx_map_fst 0 g.rows]
    exact (List.filter_map ..).symm
  exact congrArg (fun rows => { g with rows := rows }) hrows

theorem discard_row_eq (test : Line → Bool) (g : Grid) :
    g.discard .row test = g.keepRows fun _ row => !test row := by
  have hloop := foldr_discardLine_row test g.rows [] g.columnLabels
  rw [List.append_nil, List.append_nil] at hloop
  rw [discard, count, Grid.labels, List.length_map, keepRows_eq_filter]
  exact hloop

theorem discardLine_row_wf (hg : g.WF) (test : Line → Bool) (key : Nat) :
    (g.discardLine .row test key).WF := by
  unfold discardLine
  split
  · exact removeRow_wf hg key
  · exact hg

theorem WF.discardLine_column_eq (hg : g.WF) (test : Line → Bool) (key : Nat) :
    g.discardLine .column test key = (g.transpose.discardLine .row test key).transpose := by
  unfold discardLine
  rw [hg.removeLine_eq]
  show (if g.transpose.rows[key]?.any test then _ else g) =
    (if g.transpose.rows[key]?.any test then _ else g.transpose).transpose
  split
  · rfl
  · exact hg.transpose_transpose.symm

theorem WF.foldr_discardLine_column (hg : g.WF) (test : Line → Bool) (keys : List Nat) :
    keys.foldr (discardLine .column test) g =
      (keys.foldr (discardLine .row test) g.transpose).transpose := by
  have hwf : ∀ keys : List Nat, (keys.foldr (discardLine .row test) g.transpose).WF := by
    intro keys
    induction keys with
    | nil => exact transpose_wf hg
    | cons key keys ih => exact discardLine_row_wf ih test key
  induction keys with
  | nil => exact hg.transpose_transpose.symm
  | cons key keys ih =>
    rw [List.foldr_cons, List.foldr_cons, ih, (transpose_wf (hwf keys)).discardLine_column_eq,
      (hwf keys).transpose_transpose]

theorem count_transpose (g : Grid) (axis : Axis) : g.transpose.count axis = g.count axis.cross := by
  rw [count, labels_transpose, count]

/-- Discarding lines keeps the others. -/
theorem WF.discard_eq (hg : g.WF) (axis : Axis) (test : Line → Bool) :
    g.discard axis test = g.along axis (keepRows fun _ line => !test line) := by
  cases axis with
  | row => exact discard_row_eq test g
  | column =>
    show _ = (g.transpose.keepRows _).transpose
    rw [← discard_row_eq, discard, discard, hg.foldr_discardLine_column, count_transpose]
    rfl

theorem picked_of_getElem? {α : Type} {items : List α} {pairs : List (α × Nat)}
    (h : ∀ pair ∈ pairs, items[pair.2]? = some pair.1) :
    picked (pairs.map (·.2)) items = pairs.map (·.1) := by
  induction pairs with
  | nil => rfl
  | cons pair pairs ih =>
    rw [List.forall_mem_cons] at h
    simp only [picked, List.map_cons, List.filterMap_cons, h.1]
    exact congrArg _ (ih h.2)

/-- The grid of the lines that pass a test keeps these lines. -/
theorem WF.filter_eq (hg : g.WF) (axis : Axis) (test : Nat → Line → Bool) :
    g.filter axis test = g.along axis (keepRows test) := by
  rw [Grid.filter, hg.pick_eq, along, along, pickRows, keepRows, lines]
  refine congrArg (fun rows => seenFrom axis { g.seenFrom axis with rows := rows }) ?_
  exact picked_of_getElem? fun pair hpair =>
    List.mem_zipIdx_iff_getElem?.1 (List.mem_of_mem_filter hpair)

/-! ## Rearranged lines -/

/-- A rearrangement of lists that looks at positions only, and neither loses nor doubles an item of
a list of `n`. -/
structure Rearranges (n : Nat) (rearrange : {α : Type} → List α → List α) : Prop where
  map : ∀ {α β : Type} (f : α → β) (items : List α),
    rearrange (items.map f) = (rearrange items).map f
  perm : ∀ {α : Type} (items : List α), items.length = n → (rearrange items).Perm items

theorem rearranges_exchange (a b n : Nat) : Rearranges n (exchange a b) := by
  refine ⟨fun f items => ?_, fun items _ => exchange_perm a b items⟩
  unfold exchange
  rw [List.getElem?_map, List.getElem?_map]
  cases items[a]? <;> cases items[b]? <;> simp

theorem rearranges_picked {order : List Nat} {n : Nat} (h : order.Perm (List.range n)) :
    Rearranges n (picked order) := by
  refine ⟨fun f items => (map_picked f order items).symm, fun items hlen => ?_⟩
  have hp : (picked order items).Perm ((List.range n).filterMap (items[·]?)) := h.filterMap _
  rwa [filterMap_range_getElem?, List.take_of_length_le (Nat.le_of_eq hlen)] at hp

/-- Rearranging the rows as wholes. -/
def rearrangeRows (rearrange : {α : Type} → List α → List α) (g : Grid) : Grid :=
  { g with rows := rearrange g.rows }

section

variable {rearrange : {α : Type} → List α → List α}

theorem cells_withCells {cells : List (List Cell)} (hlen : cells.length = g.rows.length) :
    (g.withCells cells).cells = cells := by
  simp only [Grid.cells, withCells, List.map_zipWith]
  exact List.ext_getElem (by simp [hlen]) (by simp)

theorem labels_withCells {cells : List (List Cell)} (hlen : cells.length = g.rows.length)
    (axis : Axis) : (g.withCells cells).labels axis = g.labels axis := by
  cases axis with
  | row => exact map_label_zipWith hlen.symm fun _ cells => cells
  | column => rfl

theorem withCells_map (g : Grid) (f : List Cell → List Cell) :
    g.withCells (g.cells.map f) =
      { g with rows := g.rows.map fun row => { row with cells := f row.cells } } := by
  rw [withCells, Grid.cells, List.map_map, List.zipWith_map_right, List.zipWith_self]
  rfl

theorem Rearranges.length_cells (hr : Rearranges (g.count .row) rearrange) :
    (rearrange g.cells).length = g.rows.length := by
  have hlen : g.cells.length = g.count .row := by simp [Grid.cells, count, labels]
  rw [(hr.perm g.cells hlen).length_eq, Grid.cells, List.length_map]

/-- Sticky labels: the lines are rearranged as wholes. -/
theorem WF.arrange_sticky_eq (hg : g.WF) (hr : Rearranges (g.count axis) rearrange) :
    g.arrange axis true rearrange = g.along axis (rearrangeRows rearrange) := by
  cases axis with
  | row =>
    have hlen := hr.length_cells
    have hcount : (rearrange (g.labels .row)).length = (g.withCells (rearrange g.cells)).count .row := by
      rw [count, labels_withCells hlen, (hr.perm (g.labels .row) rfl).length_eq]
    refine eq_of_cells_of_labels ?_ fun axis => ?_
    · exact (cells_withLabels hcount).trans ((cells_withCells hlen).trans (hr.map ..))
    · cases axis with
      | row => exact (labels_withLabels hcount).trans (hr.map ..)
      | column => rfl
  | column =>
    have hlabels : rearrange g.columnLabels = (rearrange g.transpose.rows).map (·.label) := by
      rw [← hr.map]
      exact congrArg _ (labels_transpose g .row).symm
    rw [arrange, withCells_map]
    exact hg.map_rows_eq (fun cells => rearrange cells) hlabels rfl fun r => (hr.map ..).symm

/-- Labels that are not sticky stay where they are. -/
theorem labels_arrange_loose (hr : Rearranges (g.count axis) rearrange) :
    (g.arrange axis false rearrange).labels axis = g.labels axis := by
  cases axis with
  | row => exact labels_withCells hr.length_cells .row
  | column => rfl

/-- Labels that are not sticky are put back. -/
theorem arrange_loose_eq (hr : Rearranges (g.count axis) rearrange) :
    g.arrange axis false rearrange =
      (g.arrange axis true rearrange).withLabels axis (g.labels axis) := by
  have hkept := labels_arrange_loose hr
  have hlen : (rearrange (g.labels axis)).length = (g.arrange axis false rearrange).count axis := by
    rw [count, hkept, (hr.perm (g.labels axis) rfl).length_eq]
  rw [← hkept]
  exact (withLabels_labels hlen).symm

end

end Tabular.Grid
