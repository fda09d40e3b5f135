/-
Stores that hold a grid: the cells of its rows, their labels and the labels of the columns. Looking
something up in such a store, reading a line of it, growing an axis, and putting in, taking out,
overwriting or rearranging lines answer with what the grid answers, or with the store of the grid
that comes of it, as long as the positions exist.
-/
import Tabular.Proofs.Grid.Inserting
import Tabular.Proofs.Grid.Reachable
import Tabular.Proofs.Store.Aligned

namespace Tabular

namespace Store

/-- The three lists of a grid. -/
def ofGrid (g : Grid) : Store :=
  ⟨g.cells, g.labels .row, g.columnLabels⟩

variable {g : Grid} {s : Store} {axis : Axis}

theorem labels_ofGrid (axis : Axis) (g : Grid) : (ofGrid g).labels axis = g.labels axis := by
  cases axis <;> rfl

theorem count_ofGrid (axis : Axis) (g : Grid) : (ofGrid g).count axis = g.count axis := by
  rw [count, labels_ofGrid, Grid.count]

/-- A store holds a grid when the cells and the labels of both axes are those of the grid. -/
theorem eq_ofGrid (hdata : s.data = g.cells) (hlabels : ∀ axis, s.labels axis = g.labels axis) :
    s = ofGrid g := by
  obtain ⟨data, rowLabels, columnLabels⟩ := s
  have hrow : rowLabels = g.labels .row := hlabels .row
  have hcolumn : columnLabels = g.columnLabels := hlabels .column
  rw [ofGrid, ← hrow, ← hcolumn, ← show data = g.cells from hdata]

/-- The grid in three lists; a row without a label, or a label without a row, is no row of it. -/
def toGrid (s : Store) : Grid :=
  ⟨(s.rowLabels.zip s.data).map fun (label, cells) => ⟨label, cells⟩, s.columnLabels⟩

theorem toGrid_ofGrid (g : Grid) : (ofGrid g).toGrid = g := by
  simp [toGrid, ofGrid, Grid.labels, Grid.cells, List.zip_map', Function.comp_def]

/-- Nothing is lost where there are as many labels as rows. -/
theorem Aligned.ofGrid_toGrid (h : s.Aligned) : ofGrid s.toGrid = s := by
  have hlen : s.data.length = s.rowLabels.length := h.height
  refine (eq_ofGrid ?_ (Grid.forall_axis .row ?_ rfl)).symm
  · rw [toGrid, Grid.cells, List.map_map]
    exact (List.map_snd_zip (Nat.le_of_eq hlen)).symm
  · show s.rowLabels = List.map Line.label (List.map _ (s.rowLabels.zip s.data))
    rw [List.map_map]
    exact (List.map_fst_zip (Nat.le_of_eq hlen.symm)).symm

theorem aligned_ofGrid (hg : g.WF) : (ofGrid g).Aligned := by
  refine ⟨?_, fun row hrow => ?_⟩
  · exact (List.length_map _).trans (Grid.length_rows g)
  · obtain ⟨line, hline, rfl⟩ := List.mem_map.1 hrow
    exact hg.width line hline

theorem withLabels_ofGrid {labels : List (Option String)} (hlen : labels.length = g.count axis) :
    (ofGrid g).withLabels axis labels = ofGrid (g.withLabels axis labels) := by
  refine eq_ofGrid ?_ (Grid.forall_axis axis ?_ ?_)
  · rw [Grid.cells_withLabels hlen]
    cases axis <;> rfl
  · rw [labels_withLabels, Grid.labels_withLabels hlen]
  · rw [labels_cross_withLabels, Grid.labels_cross_withLabels, labels_ofGrid]

/-! ## Looking up -/

theorem find?_ofGrid (axis : Axis) (l : String) (g : Grid) :
    (ofGrid g).find? axis l = g.find? axis l := by
  rw [find?, labels_ofGrid, Grid.find?]

theorem hasLabel_ofGrid (axis : Axis) (l : String) (g : Grid) :
    (ofGrid g).hasLabel axis l = g.hasLabel axis l := by
  rw [hasLabel, find?_ofGrid, Grid.hasLabel]

theorem key_ofGrid (axis : Axis) (ref : LineRef) (g : Grid) :
    (ofGrid g).key axis ref = (g.key axis ref).mapError .refused := by
  cases ref with
  | position k =>
    rw [key, Grid.key, count_ofGrid]
    split <;> rfl
  | label l =>
    rw [key, Grid.key, find?_ofGrid]
    cases g.find? axis l <;> rfl

theorem label_ofGrid (axis : Axis) (ref : LineRef) (g : Grid) :
    (ofGrid g).label axis ref = (g.label axis ref).mapError .refused := by
  rw [label, key_ofGrid, Grid.label]
  cases hk : g.key axis ref with
  | error e => rfl
  | ok k =>
    have hlt : k < (g.labels axis).length := Grid.lt_of_key hk
    show Checked.get k ((ofGrid g).labels axis) = _
    rw [labels_ofGrid, Checked.get_of_lt hlt, Except.map, List.getD_eq_getElem?_getD,
      List.getElem?_eq_getElem hlt]
    rfl

theorem key_ofGrid_eq_ok_iff {ref : LineRef} {k : Nat} :
    (ofGrid g).key axis ref = .ok k ↔ g.key axis ref = .ok k := by
  rw [key_ofGrid]
  exact mapError_eq_ok_iff

theorem freeLabel_ofGrid (axis : Axis) (label : Option String) (owner : Option Nat) (g : Grid) :
    (ofGrid g).freeLabel axis label owner = (g.freeLabel axis label owner).mapError .refused := by
  unfold freeLabel Grid.freeLabel
  cases normalizeLabel label with
  | none => rfl
  | some l =>
    simp only [find?_ofGrid]
    cases g.find? axis l with
    | none => rfl
    | some k => by_cases ho : owner = some k <;> simp only [ho, reduceIte] <;> rfl

/-! ## Reading -/

theorem cellAt_ofGrid {k c : Nat} {cell : Cell} (h : g.cell? axis k c = some cell) :
    (ofGrid g).cellAt axis k c = .ok cell := by
  have hrow : ∀ r c, g.cell? .row r c = some cell →
      Checked.get r g.cells >>= Checked.get c = .ok cell := by
    intro r c hcell
    rw [Grid.cell?_eq_cells] at hcell
    obtain ⟨row, hrow, hcell⟩ := Option.bind_eq_some_iff.1 hcell
    rw [Checked.get_of_getElem? hrow]
    exact Checked.get_of_getElem? hcell
  cases axis with
  | row => exact hrow k c h
  | column => exact hrow c k h

theorem map_getD_range {α : Type} {items : List α} {n : Nat} (h : items.length = n) (d : α) :
    (List.range n).map (items.getD · d) = items := by
  subst h
  refine List.ext_getElem (by simp) fun i _ hi => ?_
  simp [List.getD_eq_getElem?_getD, hi]

theorem cellsAt_ofGrid (hg : g.WF) {k : Nat} {line : Line} (h : (g.lines axis)[k]? = some line) :
    (ofGrid g).cellsAt axis k = .ok line.cells := by
  have hk : k < g.count axis := by
    rw [← Grid.length_lines]
    exact (List.getElem?_eq_some_iff.1 h).1
  obtain ⟨found, hfound, -, hcells⟩ := hg.exists_line hk
  obtain rfl : found = line := Option.some.inj (hfound.symm.trans h)
  have hlen : found.cells.length = g.count axis.cross :=
    hg.length_cells_of_mem_lines (List.mem_of_getElem? h)
  rw [cellsAt, count_ofGrid]
  conv_rhs => rw [← map_getD_range hlen .null]
  refine Checked.mapM_of_forall fun c hc => cellAt_ofGrid ?_
  have hlt : c < found.cells.length := hlen ▸ List.mem_range.1 hc
  rw [← hcells, List.getD_eq_getElem?_getD, List.getElem?_eq_getElem hlt]
  rfl

theorem getElem?_labels_of_lines {k : Nat} {line : Line} (h : (g.lines axis)[k]? = some line) :
    (g.labels axis)[k]? = some line.label := by
  rw [← Grid.map_label_lines, List.getElem?_map, h]
  rfl

theorem lineAt_ofGrid (hg : g.WF) {k : Nat} {line : Line} (h : (g.lines axis)[k]? = some line) :
    (ofGrid g).lineAt axis k = .ok line := by
  rw [lineAt, labels_ofGrid, Checked.get_of_getElem? (getElem?_labels_of_lines h),
    cellsAt_ofGrid hg h]
  rfl

theorem lines_ofGrid (hg : g.WF) (axis : Axis) : (ofGrid g).lines axis = .ok (g.lines axis) := by
  rw [lines, count_ofGrid]
  conv_rhs => rw [← map_getD_range (Grid.length_lines axis g) ⟨none, []⟩]
  refine Checked.mapM_of_forall fun k hk => lineAt_ofGrid hg ?_
  have hlt : k < (g.lines axis).length := by
    rw [Grid.length_lines]
    exact List.mem_range.1 hk
  rw [List.getD_eq_getElem?_getD, List.getElem?_eq_getElem hlt]
  rfl

/-! ## Growing -/

theorem map_rightpad {α β : Type} (f : α → β) (n : Nat) (a : α) (items : List α) :
    (items.rightpad n a).map f = (items.map f).rightpad n (f a) := by
  rw [List.rightpad, List.rightpad, List.map_append, List.map_replicate, List.length_map]

theorem grow_ofGrid (hg : g.WF) (axis : Axis) (n : Nat) :
    (ofGrid g).grow axis n = ofGrid (g.grow axis n) := by
  unfold grow
  rw [count_ofGrid]
  split
  · rename_i hle
    rw [hg.grow_eq_self hle]
  · rename_i hlt
    have hle : g.count axis ≤ n := Nat.le_of_not_le hlt
    have hlabels : Checked.resize n none ((ofGrid g).labels axis) =
        (g.grow axis n).labels axis := by
      rw [labels_ofGrid, Checked.resize_of_le hle, Grid.labels_grow]
    refine eq_ofGrid ?_ (Grid.forall_axis axis ?_ ?_)
    · cases axis with
      | row =>
        have hrows : g.cells.length ≤ n := (aligned_ofGrid hg).height ▸ hle
        have hpadded := map_rightpad Line.cells n
          ⟨none, List.replicate g.columnLabels.length .null⟩ g.rows
        exact (Checked.resize_of_le hrows _).trans hpadded.symm
      | column =>
        show g.cells.map _ = (g.rows.map _).map _
        rw [Grid.cells, List.map_map, List.map_map]
        refine List.map_congr_left fun row hrow => Checked.resize_of_le ?_ _
        rw [hg.width row hrow]
        exact hle
    · rw [labels_withLabels, hlabels]
    · rw [labels_cross_withLabels]
      have hcross := Grid.labels_cross_grow axis.cross n g
      rw [Axis.cross_cross] at hcross
      exact (labels_ofGrid axis.cross g).trans hcross.symm

theorem fit_ofGrid (hg : g.WF) (axis : Axis) (cells : List Cell) :
    (ofGrid g).fit axis cells =
      (cells.rightpad ((g.grow axis.cross cells.length).count axis.cross) .null,
        ofGrid (g.grow axis.cross cells.length)) := by
  have hle : cells.length ≤ (g.grow axis.cross cells.length).count axis.cross := by
    rw [Grid.count, Grid.labels_grow, List.length_rightpad]
    exact Nat.le_max_left _ _
  unfold fit
  simp only [grow_ofGrid hg, count_ofGrid, Checked.resize_of_le hle]

/-! ## Lines put in and taken out -/

theorem relabel_ofGrid {change : List (Option String) → Answer (List (Option String))}
    {labels : List (Option String)} (h : change (g.labels axis) = .ok labels)
    (hlen : labels.length = g.count axis) :
    (ofGrid g).relabel axis change = .ok (ofGrid (g.withLabels axis labels)) := by
  rw [relabel, labels_ofGrid, h]
  exact congrArg Except.ok (withLabels_ofGrid hlen)

/-- New cells and labels of an axis that are those of another grid. -/
theorem withLabels_eq_ofGrid {data : List (List Cell)} {labels : List (Option String)}
    (hdata : data = g.cells) (hlabels : labels = g.labels axis)
    (hcross : s.labels axis.cross = g.labels axis.cross) :
    { s with data := data }.withLabels axis labels = ofGrid g := by
  refine eq_ofGrid ?_ (Grid.forall_axis axis ?_ ?_)
  · cases axis <;> exact hdata
  · rw [labels_withLabels, hlabels]
  · rw [labels_cross_withLabels]
    exact hcross

theorem insertCells_ofGrid (hg : g.WF) {index : Nat} (hi : index ≤ g.count axis) (line : Line) :
    insertCells axis index
        (line.cells.rightpad ((g.grow axis.cross line.cells.length).count axis.cross) .null)
        (g.grow axis.cross line.cells.length).cells =
      .ok (g.insertLine axis index line).cells := by
  have hroomy := aligned_ofGrid (hg.grow_wf axis.cross line.cells.length)
  rw [Grid.count, ← Grid.labels_cross_grow axis line.cells.length g, ← Grid.count,
    ← count_ofGrid] at hi
  cases axis with
  | row =>
    have hinserted := List.map_insertIdx Line.cells (g.widen line.cells.length).rows index
      { line with
        cells := line.cells.rightpad ((g.widen line.cells.length).count .column) .null }
    exact (Checked.insert_of_le (hroomy.height ▸ hi) _).trans
      (congrArg Except.ok hinserted.symm)
  | column =>
    have htall := Grid.length_rightpad_heighten line.cells g
    rw [Grid.length_rows] at htall
    have hrows : (g.heighten line.cells.length).cells.length ≤
        (line.cells.rightpad ((g.heighten line.cells.length).count .row) .null).length := by
      rw [← htall]
      exact Nat.le_of_eq (hroomy.height.trans (count_ofGrid ..))
    refine (Checked.zipEach_of_forall hrows fun row hrow cell =>
      Checked.insert_of_le (hroomy.width row hrow ▸ hi) cell).trans (congrArg Except.ok ?_)
    show _ = (List.zipWith _ _ _).map Line.cells
    rw [List.map_zipWith, Grid.cells, List.zipWith_map_left, Grid.length_rows]

theorem insertLine_ofGrid (hg : g.WF) {index : Nat} (hi : index ≤ g.count axis) (line : Line) :
    (ofGrid g).insertLine axis index line = .ok (ofGrid (g.insertLine axis index line)) := by
  have hlabels : (g.grow axis.cross line.cells.length).labels axis = g.labels axis :=
    Grid.labels_cross_grow axis line.cells.length g
  have hcross : (g.grow axis.cross line.cells.length).labels axis.cross =
      (g.insertLine axis index line).labels axis.cross := by
    rw [Grid.labels_grow, hg.labels_cross_insertLine]
  have hnew : Checked.insert index line.label (g.labels axis) =
      .ok ((g.insertLine axis index line).labels axis) := by
    rw [Grid.labels_insertLine]
    exact Checked.insert_of_le hi line.label
  rw [insertLine, fit_ofGrid hg]
  show insertCells axis index _ (g.grow axis.cross line.cells.length).cells >>= _ = _
  rw [insertCells_ofGrid hg hi]
  refine (relabel_of_eq_ok ?_).trans (congrArg Except.ok (withLabels_eq_ofGrid rfl rfl ?_))
  · rw [← hnew, ← hlabels, ← labels_ofGrid]
    rfl
  · rw [← hcross, ← labels_ofGrid]

theorem removeCells_ofGrid {k : Nat} {line : Line} (h : (g.lines axis)[k]? = some line)
    (hg : g.WF) :
    removeCells axis k g.cells = .ok (line.cells, (g.removeLine axis k).cells) := by
  cases axis with
  | row =>
    have hcells : g.cells[k]? = some line.cells := by
      rw [Grid.cells, List.getElem?_map, show g.rows[k]? = some line from h]
      rfl
    rw [removeCells, Checked.remove_of_getElem? hcells, Grid.cells, List.eraseIdx_map]
    rfl
  | column =>
    rw [Grid.lines, Grid.seenFrom, Grid.getElem?_transpose_rows] at h
    obtain ⟨label, hlabel, rfl⟩ := Option.map_eq_some_iff.1 h
    have hlt : ∀ row ∈ g.cells, k < row.length := by
      intro row hrow
      rw [(aligned_ofGrid hg).width row hrow, count_ofGrid]
      exact (List.getElem?_eq_some_iff.1 hlabel).1
    rw [removeCells, Checked.mapM_of_forall fun row hrow =>
      Checked.remove_of_lt (hlt row hrow) Cell.null]
    show Except.ok (List.unzip _) = _
    simp only [List.unzip_eq_map, Grid.cells, Grid.removeLine, Grid.removeColumn, List.map_map]
    rfl

theorem removeLine_ofGrid (hg : g.WF) {k : Nat} {line : Line}
    (h : (g.lines axis)[k]? = some line) :
    (ofGrid g).removeLine axis k = .ok (line, ofGrid (g.removeLine axis k)) := by
  have hlabel := getElem?_labels_of_lines h
  rw [removeLine, show (ofGrid g).data = g.cells from rfl, removeCells_ofGrid h hg, labels_ofGrid,
    Checked.remove_of_getElem? hlabel]
  refine congrArg (fun t => Except.ok (line, t)) (withLabels_eq_ofGrid rfl ?_ ?_)
  · cases axis with
    | row => exact List.eraseIdx_map ..
    | column => rfl
  · rw [hg.labels_cross_removeLine]
    exact labels_ofGrid ..

/-! ## Cells -/

theorem labels_putCell (axis : Axis) (k c : Nat) (value : Cell) (g : Grid) (a : Axis) :
    (g.putCell axis k c value).labels a = g.labels a := by
  cases a with
  | row => exact Grid.map_modify_of_eq_self _ _ fun _ => rfl
  | column => rfl

/-- Setting a cell of the data is setting it in the row that holds it. -/
theorem modify_set_ofGrid (hg : g.WF) {r c : Nat} (hr : r < g.count .row) (hc : c < g.count .column)
    (value : Cell) :
    Checked.modify r (Checked.set c value) g.cells = .ok (g.putCell .row r c value).cells := by
  have hlt : r < g.cells.length := (aligned_ofGrid hg).height ▸ count_ofGrid .row g ▸ hr
  have hwidth := (aligned_ofGrid hg).width _ (List.getElem_mem hlt)
  rw [count_ofGrid] at hwidth
  rw [Checked.modify_of_lt hlt (Checked.set_of_lt (hwidth ▸ hc) value)]
  have hlen : (g.cells.set r (g.cells[r].set c value)).length =
      (g.putCell .row r c value).cells.length := by
    simp [Grid.cells, Grid.putCell]
  refine congrArg Except.ok (List.ext_getElem hlen fun i hi hi' => ?_)
  simp only [Grid.cells, Grid.putCell, List.getElem_set, List.getElem_map, List.getElem_modify]
  split
  · rename_i hri
    subst hri
    rfl
  · rfl

theorem putCell_ofGrid (hg : g.WF) {k c : Nat} (hk : k < g.count axis)
    (hc : c < g.count axis.cross) (value : Cell) :
    (ofGrid g).putCell axis k c value = .ok (ofGrid (g.putCell axis k c value)) := by
  have hlabels : ∀ a, (ofGrid g).labels a = (g.putCell axis k c value).labels a := by
    intro a
    rw [labels_ofGrid, labels_putCell]
  cases axis with
  | row =>
    rw [putCell]
    show Checked.modify k (Checked.set c value) g.cells >>= _ = _
    rw [modify_set_ofGrid hg hk hc]
    exact congrArg Except.ok (eq_ofGrid rfl hlabels)
  | column =>
    rw [putCell]
    show Checked.modify c (Checked.set k value) g.cells >>= _ = _
    rw [modify_set_ofGrid hg hc hk]
    exact congrArg Except.ok (eq_ofGrid rfl hlabels)

/-- Writing cells one after the other into a row that has been written up to some position. -/
theorem foldlM_putCell_row {k : Nat} {cells before old : List Cell}
    (hrow : s.data[k]? = some (before ++ old)) (hlen : old.length = cells.length) :
    (cells.zipIdx before.length).foldlM (fun s (cell, cross) => s.putCell .row k cross cell) s =
      .ok { s with data := s.data.set k (before ++ cells) } := by
  induction cells generalizing s before old with
  | nil =>
    obtain rfl := List.eq_nil_of_length_eq_zero hlen
    obtain ⟨hk, he⟩ := List.getElem?_eq_some_iff.1 hrow
    rw [← he, List.set_getElem_self]
    rfl
  | cons cell cells ih =>
    obtain ⟨first, old, rfl⟩ := List.exists_cons_of_length_eq_add_one hlen
    obtain ⟨hk, he⟩ := List.getElem?_eq_some_iff.1 hrow
    have hset : Checked.set before.length cell s.data[k] = .ok (before ++ cell :: old) := by
      rw [he, Checked.set_of_lt (by simp)]
      simp
    have hput : s.putCell .row k before.length cell =
        .ok { s with data := s.data.set k (before ++ cell :: old) } := by
      rw [putCell]
      show Checked.modify k _ s.data >>= _ = _
      rw [Checked.modify_of_lt hk hset]
      rfl
    rw [List.zipIdx_cons, List.foldlM_cons]
    show s.putCell .row k before.length cell >>= _ = _
    rw [hput]
    have hnext : (s.data.set k (before ++ cell :: old))[k]? = some ((before ++ [cell]) ++ old) := by
      simp [hk]
    have hlength : before.length + 1 = (before ++ [cell]).length := by simp
    show (cells.zipIdx (before.length + 1)).foldlM _ _ = _
    rw [hlength, ih hnext (by simpa using hlen)]
    simp

/-- Writing cells one after the other into the rows that come after those written already. -/
theorem foldlM_putCell_column {k : Nat} {cells : List Cell} {before rows : List (List Cell)}
    (hdata : s.data = before ++ rows) (hlen : rows.length = cells.length)
    (hk : ∀ row ∈ rows, k < row.length) :
    (cells.zipIdx before.length).foldlM (fun s (cell, cross) => s.putCell .column k cross cell) s =
      .ok { s with
        data := before ++ List.zipWith (fun row cell => row.set k cell) rows cells } := by
  induction cells generalizing s before rows with
  | nil =>
    obtain rfl := List.eq_nil_of_length_eq_zero hlen
    rw [List.zipWith_nil_left, ← hdata]
    rfl
  | cons cell cells ih =>
    obtain ⟨row, rows, rfl⟩ := List.exists_cons_of_length_eq_add_one hlen
    rw [List.forall_mem_cons] at hk
    have hlt : before.length < s.data.length := by simp [hdata]
    have hset : Checked.set k cell s.data[before.length] = .ok (row.set k cell) := by
      have hrow : s.data[before.length] = row := by simp [hdata]
      rw [hrow, Checked.set_of_lt hk.1]
    have hput : s.putCell .column k before.length cell =
        .ok { s with data := before ++ row.set k cell :: rows } := by
      rw [putCell]
      show Checked.modify before.length _ s.data >>= _ = _
      rw [Checked.modify_of_lt hlt hset]
      simp [hdata, bind, Except.bind, pure, Except.pure]
    rw [List.zipIdx_cons, List.foldlM_cons]
    show s.putCell .column k before.length cell >>= _ = _
    rw [hput]
    have hlength : before.length + 1 = (before ++ [row.set k cell]).length := by simp
    show (cells.zipIdx (before.length + 1)).foldlM _ _ = _
    rw [hlength, ih (List.append_cons ..) (by simpa using hlen) hk.2]
    simp

theorem cells_writeRow (k : Nat) (cells : List Cell) (g : Grid) :
    (g.writeRow k cells).cells = (g.widen cells.length).cells.set k
      (cells.rightpad ((g.widen cells.length).count .column) .null) :=
  Grid.map_modify_of_eq _ k fun _ => rfl

theorem cells_writeColumn (k : Nat) (cells : List Cell) (g : Grid) :
    (g.writeColumn k cells).cells =
      List.zipWith (fun row cell => row.set k cell) (g.heighten cells.length).cells
        (cells.rightpad ((g.heighten cells.length).count .row) .null) := by
  show (List.zipWith _ _ _).map Line.cells = _
  rw [List.map_zipWith, Grid.length_rows, Grid.cells, List.zipWith_map_left]

theorem writeLine_ofGrid (hg : g.WF) {k : Nat} (hk : k < g.count axis) (cells : List Cell) :
    (ofGrid g).writeLine axis k cells = .ok (ofGrid (g.writeLine axis k cells)) := by
  have hroomy := aligned_ofGrid (hg.grow_wf axis.cross cells.length)
  have hlabels : ∀ a, (ofGrid (g.grow axis.cross cells.length)).labels a =
      (g.writeLine axis k cells).labels a := by
    refine Grid.forall_axis axis ?_ ?_
    · rw [labels_ofGrid, Grid.labels_cross_grow, Grid.labels_writeLine]
    · rw [labels_ofGrid, Grid.labels_grow, hg.labels_cross_writeLine]
  have hlt : k < (ofGrid (g.grow axis.cross cells.length)).count axis := by
    rw [count, hlabels, Grid.labels_writeLine]
    exact hk
  rw [writeLine, fit_ofGrid hg]
  cases axis with
  | row =>
    obtain ⟨row, hrow, hwidth⟩ := hroomy.exists_row hlt
    have hlen : row.length =
        (cells.rightpad ((g.widen cells.length).count .column) .null).length :=
      (hwidth.trans (count_ofGrid ..)).trans (Grid.length_rightpad_widen cells g).symm
    have hwritten := foldlM_putCell_row (s := ofGrid (g.widen cells.length))
      (show _ = some ([] ++ row) from hrow) hlen
    exact hwritten.trans (congrArg Except.ok (eq_ofGrid (cells_writeRow k cells g).symm hlabels))
  | column =>
    have htall := Grid.length_rightpad_heighten cells g
    rw [Grid.length_rows] at htall
    have hlen : (g.heighten cells.length).cells.length =
        (cells.rightpad ((g.heighten cells.length).count .row) .null).length :=
      (hroomy.height.trans (count_ofGrid ..)).trans htall
    have hwritten := foldlM_putCell_column (s := ofGrid (g.heighten cells.length))
      (List.nil_append _).symm hlen fun row hrow => hroomy.width row hrow ▸ hlt
    exact hwritten.trans (congrArg Except.ok (eq_ofGrid (cells_writeColumn k cells g).symm hlabels))

/-! ## Lines rearranged and picked -/

section

variable {rearrange : {α : Type} → List α → List α}

theorem cells_arrange_row (hr : Grid.Rearranges (g.count .row) rearrange) :
    (g.arrange .row false rearrange).cells = rearrange g.cells :=
  Grid.cells_withCells hr.length_cells

theorem length_map_cells (f : List Cell → List Cell) (g : Grid) :
    (g.cells.map f).length = g.rows.length := by
  simp [Grid.cells]

theorem cells_arrange_column (g : Grid) (rearrange : {α : Type} → List α → List α) :
    (g.arrange .column false rearrange).cells = g.cells.map rearrange :=
  Grid.cells_withCells (length_map_cells rearrange g)

/-- Where labels are not sticky, those of both axes stay. -/
theorem labels_arrange_loose (hr : Grid.Rearranges (g.count axis) rearrange) (a : Axis) :
    (g.arrange axis false rearrange).labels a = g.labels a := by
  cases axis with
  | row => exact Grid.labels_withCells hr.length_cells a
  | column => exact Grid.labels_withCells (length_map_cells rearrange g) a

/-- Sticky labels are rearranged after the cells. -/
theorem relabel_arrange_ofGrid (hr : Grid.Rearranges (g.count axis) rearrange)
    {change : List (Option String) → Answer (List (Option String))}
    (hchange : change (g.labels axis) = .ok (rearrange (g.labels axis))) :
    (ofGrid (g.arrange axis false rearrange)).relabel axis change =
      .ok (ofGrid (g.arrange axis true rearrange)) := by
  have hkept := Grid.labels_arrange_loose hr
  have hcount : (rearrange ((g.arrange axis false rearrange).labels axis)).length =
      (g.arrange axis false rearrange).count axis := by
    rw [Grid.count, hkept, (hr.perm (g.labels axis) rfl).length_eq]
  rw [← hkept] at hchange
  rw [relabel_ofGrid hchange hcount, ← Grid.relabel_arrange hr]
  rfl

end

theorem swapLines_ofGrid (hg : g.WF) {a b : Nat} (ha : a < g.count axis) (hb : b < g.count axis) :
    (ofGrid g).swapLines axis a b =
      .ok (ofGrid (g.arrange axis false (Grid.exchange a b))) := by
  have hr := Grid.rearranges_exchange a b (g.count axis)
  have haligned := aligned_ofGrid hg
  rw [← count_ofGrid] at ha hb
  have hcells : swapCells axis a b g.cells =
      .ok (g.arrange axis false (Grid.exchange a b)).cells := by
    cases axis with
    | row =>
      rw [cells_arrange_row hr]
      exact Checked.swap_of_lt (haligned.height ▸ ha) (haligned.height ▸ hb)
    | column =>
      rw [cells_arrange_column]
      exact Checked.mapM_of_forall fun row hrow =>
        Checked.swap_of_lt (haligned.width row hrow ▸ ha) (haligned.width row hrow ▸ hb)
  rw [swapLines, show (ofGrid g).data = g.cells from rfl, hcells]
  refine congrArg Except.ok (eq_ofGrid rfl fun a => ?_)
  rw [labels_arrange_loose hr]
  exact labels_ofGrid a g

theorem permute_ofGrid (hg : g.WF) {order : List Nat}
    (horder : order.Perm (List.range (g.count axis))) (sticky : Bool) :
    (ofGrid g).permute axis order sticky = .ok (ofGrid (g.arrange axis sticky (picked order))) := by
  have hr := Grid.rearranges_picked horder
  have haligned := aligned_ofGrid hg
  have hcells : permuteCells axis order g.cells =
      .ok (g.arrange axis false (picked order)).cells := by
    rw [← count_ofGrid] at horder
    cases axis with
    | row =>
      rw [cells_arrange_row hr]
      exact Checked.permute_of_perm horder haligned.height
    | column =>
      rw [cells_arrange_column]
      exact Checked.mapM_of_forall fun row hrow =>
        Checked.permute_of_perm horder (haligned.width row hrow)
  have hmoved : { ofGrid g with data := (g.arrange axis false (picked order)).cells } =
      ofGrid (g.arrange axis false (picked order)) := by
    refine eq_ofGrid rfl fun a => ?_
    rw [labels_arrange_loose hr]
    exact labels_ofGrid a g
  rw [permute, show (ofGrid g).data = g.cells from rfl, hcells]
  cases sticky with
  | false => exact congrArg Except.ok hmoved
  | true =>
    refine Eq.trans ?_ (relabel_arrange_ofGrid hr (Checked.permute_of_perm horder rfl))
    rw [← hmoved]
    rfl

theorem pick_ofGrid (hg : g.WF) {keys : List Nat} (hkeys : ∀ k ∈ keys, k < g.count axis) :
    (ofGrid g).pick axis keys = .ok (ofGrid (g.pick axis keys)) := by
  have haligned := aligned_ofGrid hg
  have hlabels : keys.mapM (Checked.get · ((ofGrid g).labels axis)) =
      .ok ((g.pick axis keys).labels axis) := by
    rw [labels_ofGrid, Grid.labels_pick]
    exact Checked.mapM_get hkeys
  have hcells : pickCells axis keys g.cells = .ok (g.pick axis keys).cells := by
    rw [← count_ofGrid] at hkeys
    cases axis with
    | row =>
      refine (Checked.mapM_get fun k hk => haligned.height ▸ hkeys k hk).trans ?_
      exact congrArg Except.ok (Grid.map_picked ..).symm
    | column =>
      refine (Checked.mapM_of_forall fun row hrow =>
        Checked.mapM_get fun k hk => haligned.width row hrow ▸ hkeys k hk).trans ?_
      simp only [Grid.cells, Grid.pick, Grid.pickColumns, List.map_map]
      rfl
  rw [pick, hlabels]
  show pickCells axis keys g.cells >>= _ = _
  rw [hcells]
  refine congrArg Except.ok (withLabels_eq_ofGrid rfl rfl ?_)
  rw [Grid.labels_cross_pick]
  exact labels_ofGrid axis.cross g

theorem transpose_ofGrid (hg : g.WF) : (ofGrid g).transpose = .ok (ofGrid g.transpose) := by
  have hwidth : ∀ row ∈ g.cells,
      row.length = (List.replicate g.columnLabels.length ([] : List Cell)).length := by
    intro row hrow
    rw [List.length_replicate]
    exact (aligned_ofGrid hg).width row hrow
  have hcells : (List.replicate g.columnLabels.length ([] : List Cell)).mapIdx
      (fun c column => column ++ g.cells.map (·.getD c .null)) = g.transpose.cells := by
    refine List.ext_getElem (by simp [Grid.cells, Grid.transpose]) fun c hc hc' => ?_
    simp [Grid.cells, Grid.transpose, Function.comp_def]
  rw [transpose]
  show g.cells.foldlM _ (List.replicate g.columnLabels.length []) >>= _ = _
  rw [foldlM_zipEach_push hwidth]
  refine congrArg Except.ok (eq_ofGrid hcells fun a => ?_)
  rw [Grid.labels_transpose]
  cases a <;> rfl

/-! ## Stores made from rows -/

theorem ofRows_eq_ofGrid (rows : List (List Cell)) : ofRows rows = ofGrid (Grid.ofRows rows) := by
  refine eq_ofGrid ?_ fun a => ?_
  · simp only [ofRows, Grid.cells, Grid.ofRows, List.map_map]
    exact List.map_congr_left fun row hrow =>
      Checked.resize_of_le (Grid.length_le_width hrow) .null
  · cases a with
    | row => simp [labels, ofRows, Grid.labels, Grid.ofRows, Function.comp_def]
    | column => rfl

end Store

end Tabular
