/-
The lists of a store fit together: there is a row for each row label, and each row has a cell for
each column label. Every operation on lines, cells and labels keeps this when the positions that it
is given exist, and then no index that it uses is out of range.
-/
import Tabular.Proofs.Store.Access
import Tabular.Store.Basic

namespace Tabular.Store

variable {s : Store} {axis : Axis} {size size' : Axis → Nat} {data : List (List Cell)}

/-- As many rows, all as wide, as the axes have lines. -/
structure Shaped (size : Axis → Nat) (data : List (List Cell)) : Prop where
  height : data.length = size .row
  width : ∀ row ∈ data, row.length = size .column

/-- There are a row for each row label and, in each row, a cell for each column label. -/
def Aligned (s : Store) : Prop :=
  Shaped (fun axis => s.count axis) s.data

theorem empty_aligned : empty.Aligned := ⟨rfl, List.forall_mem_nil _⟩

/-! ## Labels -/

theorem labels_withLabels (axis : Axis) (labels : List (Option String)) (s : Store) :
    (s.withLabels axis labels).labels axis = labels := by
  cases axis <;> rfl

theorem labels_cross_withLabels (axis : Axis) (labels : List (Option String)) (s : Store) :
    (s.withLabels axis labels).labels axis.cross = s.labels axis.cross := by
  cases axis <;> rfl

theorem count_withLabels (axis : Axis) (labels : List (Option String)) (s : Store) :
    (s.withLabels axis labels).count axis = labels.length := by
  rw [count, labels_withLabels]

theorem count_cross_withLabels (axis : Axis) (labels : List (Option String)) (s : Store) :
    (s.withLabels axis labels).count axis.cross = s.count axis.cross := by
  rw [count, labels_cross_withLabels, count]

theorem Aligned.withLabels (h : s.Aligned) {labels : List (Option String)}
    (hlen : labels.length = s.count axis) : (s.withLabels axis labels).Aligned := by
  cases axis with
  | row => exact ⟨h.height.trans hlen.symm, h.width⟩
  | column => exact ⟨h.height, fun row hrow => (h.width row hrow).trans hlen.symm⟩

theorem relabel_of_eq_ok {change : List (Option String) → Answer (List (Option String))}
    {labels : List (Option String)} (h : change (s.labels axis) = .ok labels) :
    s.relabel axis change = .ok (s.withLabels axis labels) := by
  rw [relabel, h]
  rfl

theorem Aligned.relabel (h : s.Aligned)
    {change : List (Option String) → Answer (List (Option String))}
    {labels : List (Option String)} (hchange : change (s.labels axis) = .ok labels)
    (hlen : labels.length = s.count axis) : Ensures Aligned (s.relabel axis change) := by
  rw [relabel_of_eq_ok hchange]
  exact h.withLabels hlen

theorem ensures_key (axis : Axis) (ref : LineRef) (s : Store) :
    Ensures (· < s.count axis) (s.key axis ref) := by
  cases ref with
  | position k =>
    rw [key]
    split
    · assumption
    · exact ensures_refused _
  | label l =>
    rw [key]
    cases hf : s.find? axis l with
    | none => exact ensures_refused _
    | some k =>
      obtain ⟨hk, _⟩ := List.findIdx?_eq_some_iff_getElem.1 hf
      exact hk

theorem ensures_freeLabel (axis : Axis) (label : Option String) (owner : Option Nat) (s : Store) :
    Ensures (fun _ => True) (s.freeLabel axis label owner) := by
  unfold freeLabel
  split
  · trivial
  · split
    · trivial
    · split
      · trivial
      · exact ensures_refused _

theorem Aligned.setLabels (h : s.Aligned) (axis : Axis) (labels : List (Option String)) :
    Ensures Aligned (s.setLabels axis labels) := by
  unfold Store.setLabels
  simp only
  split
  · exact ensures_refused _
  · split
    · exact ensures_refused _
    · split
      · exact ensures_refused _
      · exact h.withLabels (Checked.length_resize ..)

theorem Aligned.setLabelsIfAny (h : s.Aligned) (axis : Axis) (labels : List (Option String)) :
    Ensures Aligned (s.setLabelsIfAny axis labels) := by
  unfold Store.setLabelsIfAny
  split
  · exact h
  · exact h.setLabels axis labels

/-! ## Reading -/

theorem Shaped.exists_row (h : Shaped size data) {r : Nat} (hr : r < size .row) :
    ∃ row, data[r]? = some row ∧ row.length = size .column := by
  have hlt : r < data.length := h.height ▸ hr
  exact ⟨data[r], List.getElem?_eq_getElem hlt, h.width _ (List.getElem_mem hlt)⟩

theorem Shaped.get_cell (h : Shaped size data) {r c : Nat} (hr : r < size .row)
    (hc : c < size .column) : ∃ cell, Checked.get r data >>= Checked.get c = .ok cell := by
  obtain ⟨row, hrow, hwidth⟩ := h.exists_row hr
  have hlt : c < row.length := hwidth ▸ hc
  rw [Checked.get_of_getElem? hrow]
  exact ⟨row[c], Checked.get_of_lt hlt⟩

theorem Shaped.get_cell_eq_outOfRange_iff (h : Shaped size data) {r c : Nat} :
    Checked.get r data >>= Checked.get c = .error .outOfRange ↔
      size .row ≤ r ∨ size .column ≤ c := by
  by_cases hr : r < size .row
  · obtain ⟨row, hrow, hwidth⟩ := h.exists_row hr
    rw [Checked.get_of_getElem? hrow, ← hwidth, or_iff_right (Nat.not_le_of_lt hr)]
    exact Checked.get_eq_outOfRange_iff
  · have hout : Checked.get r data = .error .outOfRange :=
      Checked.get_eq_outOfRange_iff.2 (h.height ▸ Nat.le_of_not_lt hr)
    rw [hout]
    exact iff_of_true rfl (.inl (Nat.le_of_not_lt hr))

theorem Aligned.exists_cellAt (h : s.Aligned) {k c : Nat} (hk : k < s.count axis)
    (hc : c < s.count axis.cross) : ∃ cell, s.cellAt axis k c = .ok cell := by
  cases axis with
  | row => exact h.get_cell hk hc
  | column => exact h.get_cell hc hk

/-- The cell of a line is out of range exactly where one of the axes has ended. -/
theorem Aligned.cellAt_eq_outOfRange_iff (h : s.Aligned) {k c : Nat} :
    s.cellAt axis k c = .error .outOfRange ↔ s.count axis ≤ k ∨ s.count axis.cross ≤ c := by
  cases axis with
  | row => exact h.get_cell_eq_outOfRange_iff
  | column => exact h.get_cell_eq_outOfRange_iff.trans or_comm

/-- The cells of a line are those at the positions of the cross axis. -/
theorem Aligned.exists_cellsAt (h : s.Aligned) {k : Nat} (hk : k < s.count axis) :
    ∃ cells, s.cellsAt axis k = .ok cells ∧ cells.length = s.count axis.cross ∧
      ∀ c < s.count axis.cross, ∃ cell, cells[c]? = some cell ∧ s.cellAt axis k c = .ok cell := by
  have hread : ∀ c ∈ List.range (s.count axis.cross), ∃ cell, s.cellAt axis k c = .ok cell :=
    fun c hc => h.exists_cellAt hk (List.mem_range.1 hc)
  obtain ⟨cells, hcells, hall⟩ := Checked.exists_mapM_eq_ok hread
  have hlen : cells.length = s.count axis.cross := hall.length_eq.symm.trans List.length_range
  refine ⟨cells, hcells, hlen, fun c hc => ?_⟩
  have hlt : c < cells.length := hlen.symm ▸ hc
  have hcell := hall.get (List.length_range.symm ▸ hc) hlt
  rw [List.get_eq_getElem, List.getElem_range] at hcell
  exact ⟨cells[c], List.getElem?_eq_getElem hlt, hcell⟩

theorem Aligned.exists_lineAt (h : s.Aligned) {k : Nat} (hk : k < s.count axis) :
    ∃ line, s.lineAt axis k = .ok line ∧ Checked.get k (s.labels axis) = .ok line.label ∧
      s.cellsAt axis k = .ok line.cells := by
  obtain ⟨cells, hcells, -⟩ := h.exists_cellsAt hk
  rw [lineAt, Checked.get_of_lt hk, hcells]
  exact ⟨_, rfl, rfl, rfl⟩

theorem Aligned.exists_lines (h : s.Aligned) (axis : Axis) :
    ∃ lines, s.lines axis = .ok lines ∧ lines.length = s.count axis := by
  have hread : ∀ k ∈ List.range (s.count axis), ∃ line, s.lineAt axis k = .ok line := by
    intro k hk
    obtain ⟨line, hline, -⟩ := h.exists_lineAt (List.mem_range.1 hk)
    exact ⟨line, hline⟩
  obtain ⟨lines, hlines, hall⟩ := Checked.exists_mapM_eq_ok hread
  exact ⟨lines, hlines, hall.length_eq.symm.trans List.length_range⟩

/-! ## Changing cells -/

theorem Shaped.insertCells (h : Shaped size data) {index : Nat} {cells : List Cell}
    (hi : index ≤ size axis) (hlen : cells.length = size axis.cross)
    (hsize : size' axis = size axis + 1) (hcross : size' axis.cross = size axis.cross) :
    Ensures (Shaped size') (insertCells axis index cells data) := by
  cases axis with
  | row =>
    have hle : index ≤ data.length := h.height ▸ hi
    rw [Store.insertCells, Checked.insert_of_le hle]
    refine ⟨?_, fun row hrow => ?_⟩
    · rw [List.length_insertIdx_of_le_length hle, h.height, hsize]
    · rcases List.eq_or_mem_of_mem_insertIdx hrow with rfl | hrow
      · exact hlen.trans hcross.symm
      · exact (h.width row hrow).trans hcross.symm
  | column =>
    have hle : ∀ row ∈ data, index ≤ row.length := fun row hrow => h.width row hrow ▸ hi
    have hrows : cells.length = data.length := hlen.trans h.height.symm
    rw [Store.insertCells, Checked.zipEach_of_forall (Nat.le_of_eq hrows.symm)
      fun row hrow cell => Checked.insert_of_le (hle row hrow) cell]
    refine ⟨?_, fun row hrow => ?_⟩
    · rw [List.length_zipWith, hrows, Nat.min_self, h.height]
      exact hcross.symm
    · obtain ⟨old, hold, cell, rfl⟩ := Checked.exists_of_mem_zipWith hrow
      rw [List.length_insertIdx_of_le_length (hle old hold), h.width old hold, hsize]

theorem Shaped.removeCells (h : Shaped size data) {key : Nat} (hk : key < size axis)
    (hsize : size' axis + 1 = size axis) (hcross : size' axis.cross = size axis.cross) :
    Ensures (fun found => Shaped size' found.2) (removeCells axis key data) := by
  cases axis with
  | row =>
    have hlt : key < data.length := h.height ▸ hk
    rw [Store.removeCells, Checked.remove_of_lt hlt []]
    refine ⟨?_, fun row hrow => ?_⟩
    · rw [List.length_eraseIdx_of_lt hlt, h.height, ← hsize, Nat.add_sub_cancel]
    · exact (h.width row (List.mem_of_mem_eraseIdx hrow)).trans hcross.symm
  | column =>
    have hlt : ∀ row ∈ data, key < row.length := fun row hrow => h.width row hrow ▸ hk
    rw [Store.removeCells, Checked.mapM_of_forall fun row hrow =>
      Checked.remove_of_lt (hlt row hrow) Cell.null]
    show Shaped size' (List.unzip _).2
    rw [List.unzip_eq_map]
    show Shaped size' ((data.map _).map Prod.snd)
    rw [List.map_map]
    refine ⟨?_, fun row hrow => ?_⟩
    · rw [List.length_map, h.height]
      exact hcross.symm
    · obtain ⟨old, hold, rfl⟩ := List.mem_map.1 hrow
      show (old.eraseIdx key).length = _
      rw [List.length_eraseIdx_of_lt (hlt old hold), h.width old hold, ← hsize,
        Nat.add_sub_cancel]

/-- Rearranging the lines of an axis keeps the shape. -/
theorem Shaped.map_perm (h : Shaped size data) {f : List Cell → List Cell}
    (hf : ∀ row ∈ data, (f row).Perm row) : Shaped size (data.map f) := by
  refine ⟨(List.length_map _).trans h.height, fun row hrow => ?_⟩
  obtain ⟨old, hold, rfl⟩ := List.mem_map.1 hrow
  exact (hf old hold).length_eq.trans (h.width old hold)

theorem Shaped.perm (h : Shaped size data) {rows : List (List Cell)} (hp : rows.Perm data) :
    Shaped size rows :=
  ⟨hp.length_eq.trans h.height, fun row hrow => h.width row (hp.subset hrow)⟩

theorem Shaped.swapCells (h : Shaped size data) {a b : Nat} (ha : a < size axis)
    (hb : b < size axis) : Ensures (Shaped size) (swapCells axis a b data) := by
  cases axis with
  | row =>
    rw [Store.swapCells, Checked.swap_of_lt (h.height ▸ ha) (h.height ▸ hb)]
    exact h.perm (Grid.exchange_perm a b data)
  | column =>
    rw [Store.swapCells, Checked.mapM_of_forall fun row hrow =>
      Checked.swap_of_lt (h.width row hrow ▸ ha) (h.width row hrow ▸ hb)]
    exact h.map_perm fun row _ => Grid.exchange_perm a b row

theorem picked_perm {α : Type} {order : List Nat} {items : List α} {n : Nat}
    (horder : order.Perm (List.range n)) (hlen : items.length = n) :
    (picked order items).Perm items :=
  (Grid.rearranges_picked horder).perm items hlen

theorem Shaped.permuteCells (h : Shaped size data) {order : List Nat}
    (horder : order.Perm (List.range (size axis))) :
    Ensures (Shaped size) (permuteCells axis order data) := by
  cases axis with
  | row =>
    rw [Store.permuteCells, Checked.permute_of_perm horder h.height]
    exact h.perm (picked_perm horder h.height)
  | column =>
    rw [Store.permuteCells, Checked.mapM_of_forall fun row hrow =>
      Checked.permute_of_perm horder (h.width row hrow)]
    exact h.map_perm fun row hrow => picked_perm horder (h.width row hrow)

theorem Shaped.pickCells (h : Shaped size data) {keys : List Nat}
    (hkeys : ∀ k ∈ keys, k < size axis) (hsize : size' axis = keys.length)
    (hcross : size' axis.cross = size axis.cross) :
    Ensures (Shaped size') (pickCells axis keys data) := by
  cases axis with
  | row =>
    have hlt : ∀ k ∈ keys, k < data.length := by rwa [h.height]
    rw [Store.pickCells, Checked.mapM_get hlt]
    refine ⟨(length_picked hlt).trans hsize.symm, fun row hrow => ?_⟩
    exact (h.width row (mem_of_mem_picked hrow)).trans hcross.symm
  | column =>
    have hlt : ∀ row ∈ data, ∀ k ∈ keys, k < row.length := by
      intro row hrow
      rwa [h.width row hrow]
    rw [Store.pickCells, Checked.mapM_of_forall fun row hrow => Checked.mapM_get (hlt row hrow)]
    refine ⟨?_, fun row hrow => ?_⟩
    · exact ((List.length_map _).trans h.height).trans hcross.symm
    · obtain ⟨old, hold, rfl⟩ := List.mem_map.1 hrow
      exact (length_picked (hlt old hold)).trans hsize.symm

/-- Rows that add their cells to the ends of the columns. -/
theorem foldlM_zipEach_push {columns rows : List (List Cell)}
    (hwidth : ∀ row ∈ rows, row.length = columns.length) :
    rows.foldlM (Checked.zipEach fun column cell => pure (column ++ [cell])) columns =
      .ok (columns.mapIdx fun c column => column ++ rows.map (·.getD c .null)) := by
  induction rows generalizing columns with
  | nil =>
    simp only [List.map_nil, List.append_nil, List.mapIdx_eq_zipIdx_map, List.zipIdx_map_fst]
    rfl
  | cons row rows ih =>
    rw [List.forall_mem_cons] at hwidth
    have hpushed : Checked.zipEach (fun column cell => pure (column ++ [cell])) columns row =
        .ok (List.zipWith (fun column cell => column ++ [cell]) columns row) :=
      Checked.zipEach_of_forall (Nat.le_of_eq hwidth.1.symm) fun _ _ _ => rfl
    rw [List.foldlM_cons, hpushed]
    show rows.foldlM _ _ = _
    rw [ih (by simpa [hwidth.1] using hwidth.2)]
    refine congrArg Except.ok (List.ext_getElem (by simp [hwidth.1]) fun c hc hc' => ?_)
    have hcell : c < row.length := by simp_all
    simp [List.getD_eq_getElem?_getD, hcell]

/-! ## Changing lines -/

theorem Aligned.grow (h : s.Aligned) (axis : Axis) (n : Nat) : (s.grow axis n).Aligned := by
  unfold Store.grow
  split
  · exact h
  · cases axis with
    | row =>
      refine ⟨(Checked.length_resize ..).trans (Checked.length_resize ..).symm, fun row hrow => ?_⟩
      rcases Checked.mem_resize hrow with hrow | rfl
      · exact h.width row hrow
      · exact List.length_replicate
    | column =>
      refine ⟨(List.length_map _).trans h.height, fun row hrow => ?_⟩
      obtain ⟨old, _, rfl⟩ := List.mem_map.1 hrow
      exact (Checked.length_resize ..).trans (Checked.length_resize ..).symm

theorem labels_cross_grow (axis : Axis) (n : Nat) (s : Store) :
    (s.grow axis.cross n).labels axis = s.labels axis := by
  unfold grow
  split
  · rfl
  · cases axis <;> rfl

/-- Making room for some cells leaves the labels along the line alone. -/
theorem Aligned.exists_fit (h : s.Aligned) (axis : Axis) (cells : List Cell) :
    ∃ fitted roomy, s.fit axis cells = (fitted, roomy) ∧ roomy.Aligned ∧
      fitted.length = roomy.count axis.cross ∧ roomy.labels axis = s.labels axis :=
  ⟨_, _, rfl, h.grow axis.cross cells.length, Checked.length_resize .., labels_cross_grow axis _ s⟩

/-- Cells in the shape that new labels ask for. -/
theorem aligned_withLabels {labels : List (Option String)}
    (h : Shaped (fun a => (s.withLabels axis labels).count a) data) :
    ({ s with data := data }.withLabels axis labels).Aligned := by
  cases axis <;> exact ⟨h.height, h.width⟩

theorem Aligned.insertLine (h : s.Aligned) {index : Nat} (hi : index ≤ s.count axis) (line : Line) :
    Ensures (fun t => t.Aligned ∧ t.count axis = s.count axis + 1)
      (s.insertLine axis index line) := by
  obtain ⟨cells, roomy, hfit, hroomy, hlen, hlabels⟩ := h.exists_fit axis line.cells
  rw [count, ← hlabels] at hi ⊢
  have hnew := Checked.insert_of_le hi line.label
  have hgrown := List.length_insertIdx_of_le_length hi line.label
  have hcells : Ensures (Shaped fun a =>
      (roomy.withLabels axis ((roomy.labels axis).insertIdx index line.label)).count a)
      (insertCells axis index cells roomy.data) :=
    hroomy.insertCells hi hlen ((count_withLabels ..).trans hgrown) (count_cross_withLabels ..)
  rw [Store.insertLine, hfit]
  refine hcells.bind fun data hdata => ?_
  rw [relabel_of_eq_ok (s := { roomy with data := data }) hnew]
  exact ⟨aligned_withLabels hdata, (count_withLabels ..).trans hgrown⟩

theorem Aligned.removeLine (h : s.Aligned) {key : Nat} (hk : key < s.count axis) :
    Ensures (fun found => found.2.Aligned ∧ found.2.count axis + 1 = s.count axis)
      (s.removeLine axis key) := by
  have hremoved := Checked.remove_of_lt hk none
  have hshrunk : ((s.labels axis).eraseIdx key).length + 1 = s.count axis := by
    rw [List.length_eraseIdx_of_lt hk]
    exact Nat.sub_add_cancel (Nat.zero_lt_of_lt hk)
  have hcount := count_withLabels axis ((s.labels axis).eraseIdx key) s
  have hcells : Ensures (fun found => Shaped
      (fun a => (s.withLabels axis ((s.labels axis).eraseIdx key)).count a) found.2)
      (removeCells axis key s.data) :=
    h.removeCells hk (hcount ▸ hshrunk) (count_cross_withLabels ..)
  refine hcells.bind fun found hdata => ?_
  rw [hremoved]
  refine ⟨aligned_withLabels hdata, ?_⟩
  rw [count_withLabels]
  exact hshrunk

theorem Aligned.putCell (h : s.Aligned) {key cross : Nat} (hk : key < s.count axis)
    (hc : cross < s.count axis.cross) (value : Cell) :
    Ensures (fun t => t.Aligned ∧ ∀ a, t.labels a = s.labels a)
      (s.putCell axis key cross value) := by
  have hrow : ∀ r c, r < s.count .row → c < s.count .column →
      Ensures (Shaped fun a => s.count a) (Checked.modify r (Checked.set c value) s.data) := by
    intro r c hr hc
    have hlt : r < s.data.length := h.height ▸ hr
    have hwidth := h.width _ (List.getElem_mem hlt)
    rw [Checked.modify_of_lt hlt (Checked.set_of_lt (hwidth ▸ hc) value)]
    refine ⟨(List.length_set ..).trans h.height, fun row hrow => ?_⟩
    rcases List.mem_or_eq_of_mem_set hrow with hrow | rfl
    · exact h.width row hrow
    · exact (List.length_set ..).trans hwidth
  have hkept : ∀ data, Shaped (fun a => s.count a) data →
      ({ s with data := data } : Store).Aligned ∧
        ∀ a, ({ s with data := data } : Store).labels a = s.labels a :=
    fun data hdata => ⟨hdata, fun _ => rfl⟩
  cases axis with
  | row => exact (hrow key cross hk hc).bind hkept
  | column => exact (hrow cross key hc hk).bind hkept

/-- Writing the cells of a line one after the other stays within the line. -/
theorem Aligned.writeLine (h : s.Aligned) {key : Nat} (hk : key < s.count axis)
    (cells : List Cell) : Ensures Aligned (s.writeLine axis key cells) := by
  obtain ⟨fitted, roomy, hfit, hroomy, hlen, hlabels⟩ := h.exists_fit axis cells
  rw [count, ← hlabels] at hk
  rw [Store.writeLine, hfit]
  refine Ensures.imp (ensures_foldlM (p := fun t => t.Aligned ∧ ∀ a, t.labels a = roomy.labels a)
    ⟨hroomy, fun _ => rfl⟩ ?_) fun _ ht => ht.1
  rintro t ⟨cell, cross⟩ hmem ⟨ht, hkept⟩
  have hcross : cross < t.count axis.cross := by
    rw [count, hkept, ← count, ← hlen]
    exact List.snd_lt_of_mem_zipIdx hmem
  refine (ht.putCell (by rwa [count, hkept]) hcross cell).imp fun u hu => ⟨hu.1, fun a => ?_⟩
  exact (hu.2 a).trans (hkept a)

theorem Aligned.swapLines (h : s.Aligned) {a b : Nat} (ha : a < s.count axis)
    (hb : b < s.count axis) :
    Ensures (fun t => t.Aligned ∧ t.labels axis = s.labels axis) (s.swapLines axis a b) :=
  (h.swapCells ha hb).bind fun _ hdata => ⟨hdata, rfl⟩

theorem Aligned.permute (h : s.Aligned) {order : List Nat}
    (horder : order.Perm (List.range (s.count axis))) (sticky : Bool) :
    Ensures Aligned (s.permute axis order sticky) := by
  refine (h.permuteCells horder).bind fun data hdata => ?_
  have hmoved : ({ s with data := data } : Store).Aligned := hdata
  cases sticky with
  | false => exact hmoved
  | true =>
    exact hmoved.relabel (Checked.permute_of_perm horder rfl) (picked_perm horder rfl).length_eq

theorem Aligned.pick (h : s.Aligned) {keys : List Nat} (hkeys : ∀ k ∈ keys, k < s.count axis) :
    Ensures Aligned (s.pick axis keys) := by
  have hlen := length_picked hkeys
  have hcells : Ensures (Shaped fun a =>
      (s.withLabels axis (picked keys (s.labels axis))).count a) (pickCells axis keys s.data) :=
    h.pickCells hkeys ((count_withLabels ..).trans hlen) (count_cross_withLabels ..)
  rw [Store.pick, Checked.mapM_get hkeys]
  exact hcells.bind fun data hdata => aligned_withLabels hdata

theorem Aligned.transpose (h : s.Aligned) : Ensures Aligned s.transpose := by
  have hlen : (List.replicate s.columnLabels.length ([] : List Cell)).length = s.count .column :=
    List.length_replicate
  show Ensures Aligned (s.data.foldlM _ _ >>= _)
  rw [foldlM_zipEach_push fun row hrow => (h.width row hrow).trans hlen.symm]
  refine ⟨(List.length_mapIdx ..).trans hlen, fun column hcolumn => ?_⟩
  obtain ⟨c, hc, rfl⟩ := List.mem_mapIdx.1 hcolumn
  simp [h.height, count, labels]

/-! ## Making stores -/

theorem ofRows_aligned (rows : List (List Cell)) : (ofRows rows).Aligned := by
  refine ⟨by simp [ofRows, count, labels], fun row hrow => ?_⟩
  obtain ⟨old, _, rfl⟩ := List.mem_map.1 hrow
  exact (Checked.length_resize ..).trans List.length_replicate.symm

theorem ensures_ofLabeledRows (rows : List (List Cell)) (firstColumn firstRow : Bool) :
    Ensures Aligned (ofLabeledRows rows firstColumn firstRow) :=
  (((ofRows_aligned _).grow .column _).setLabelsIfAny .column _).bind
    fun _ h => h.setLabelsIfAny .row _

end Tabular.Store
