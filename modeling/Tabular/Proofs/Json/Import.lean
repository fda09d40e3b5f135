/-
A grid comes back from its document. The keys of a level tell labels from positions as long as
every line has a label and the labels are not the positions in order; then an axis whose labels
are kept gets them back, an axis whose labels are not kept has none, and the cells are the same.
The first row makes the columns known, and the rows after it find each of them under its key.
-/
import Tabular.Proofs.Json.Export
import Tabular.Proofs.Json.Placing
import Tabular.Proofs.Json.Snapshot

namespace Tabular

/-! ## Labels that are kept -/

/-- Whether a document keeps the labels of an axis. -/
def JsonLabels.of (keep : JsonLabels) : Axis → Bool
  | .row => keep.rows
  | .column => keep.columns

/-- The labels that come back. -/
def Json.readLabels (keep : Bool) (labels : List (Option String)) : List (Option String) :=
  if keep then labels else List.replicate labels.length none

namespace Grid

variable {g : Grid} {axis : Axis} {keep : Bool} {labels : List (Option String)}

/-- The grid without the labels of an axis, unless they are kept. -/
def keepOn (axis : Axis) (keep : Bool) (g : Grid) : Grid :=
  if keep then g else g.withLabels axis (List.replicate (g.count axis) none)

/-- The grid with only the labels that a document keeps. -/
def keepLabels (keep : JsonLabels) (g : Grid) : Grid :=
  (g.keepOn .row keep.rows).keepOn .column keep.columns

theorem cells_keepOn : (g.keepOn axis keep).cells = g.cells := by
  cases keep with
  | false => exact cells_withLabels List.length_replicate
  | true => rfl

theorem labels_keepOn : (g.keepOn axis keep).labels axis = Json.readLabels keep (g.labels axis) := by
  cases keep with
  | false => exact labels_withLabels List.length_replicate
  | true => rfl

theorem labels_cross_keepOn (axis : Axis) (keep : Bool) (g : Grid) :
    (g.keepOn axis keep).labels axis.cross = g.labels axis.cross := by
  cases keep with
  | false => exact labels_cross_withLabels
  | true => rfl

theorem cells_keepLabels (keep : JsonLabels) (g : Grid) : (g.keepLabels keep).cells = g.cells :=
  cells_keepOn.trans cells_keepOn

theorem labels_keepLabels (keep : JsonLabels) (g : Grid) (axis : Axis) :
    (g.keepLabels keep).labels axis = Json.readLabels (keep.of axis) (g.labels axis) := by
  have hrow : (g.keepOn .row keep.rows).labels .column = g.labels .column :=
    labels_cross_keepOn .row keep.rows g
  have hcolumn : (g.keepLabels keep).labels .row = (g.keepOn .row keep.rows).labels .row :=
    labels_cross_keepOn .column keep.columns _
  cases axis with
  | row => rw [hcolumn, labels_keepOn, JsonLabels.of]
  | column => rw [keepLabels, labels_keepOn, hrow, JsonLabels.of]

/-- An axis without labels gets those back that are kept. -/
theorem exists_setLabelsIfAny_kept (hu : UniqueLabels labels)
    (hblank : g.labels axis = List.replicate labels.length none) :
    ∃ changed, g.setLabelsIfAny axis (if keep then labels else []) = .ok changed ∧
      changed.cells = g.cells ∧ changed.labels axis = Json.readLabels keep labels ∧
      changed.labels axis.cross = g.labels axis.cross := by
  cases keep with
  | false => exact ⟨g, rfl, rfl, hblank, rfl⟩
  | true =>
    have hlen : labels.length = g.count axis := by rw [count, hblank, List.length_replicate]
    exact exists_setLabelsIfAny hu hlen

end Grid

namespace Json

variable {g : Grid} {keep : Bool} {labels : List (Option String)} {values : List Json}

/-- Labels that are kept and read back: all lines have one, and they are not the positions. -/
def Recoverable (keep : Bool) (labels : List (Option String)) : Prop :=
  keep = true → none ∉ labels ∧ (labels ≠ [] → labels ≠ (positions labels.length).map some)

instance (keep : Bool) (labels : List (Option String)) : Decidable (Recoverable keep labels) :=
  inferInstanceAs (Decidable (_ → _))

theorem levelKeys_false (labels : List (Option String)) :
    levelKeys false labels = positions labels.length := by
  refine List.ext_getElem? fun i => ?_
  rw [getElem?_levelKeys, positions, List.getElem?_map]
  by_cases hi : i < labels.length
  · rw [List.getElem?_eq_getElem hi, List.getElem?_range hi]
    rfl
  · have hle := Nat.le_of_not_lt hi
    rw [List.getElem?_eq_none hle, List.getElem?_eq_none (by rwa [List.length_range])]
    rfl

theorem map_some_levelKeys (h : none ∉ labels) : (levelKeys true labels).map some = labels := by
  refine List.ext_getElem? fun i => ?_
  rw [List.getElem?_map, getElem?_levelKeys, Option.map_map]
  cases hlabel : labels[i]? with
  | none => rfl
  | some label =>
    cases label with
    | none => exact absurd (List.mem_of_getElem? hlabel) h
    | some l => rfl

theorem Recoverable.not_clash (h : Recoverable keep labels) : ¬ Clash keep labels := by
  rintro ⟨hkeep, j, _, hnone⟩
  exact (h hkeep).1 (List.mem_of_getElem? hnone)

theorem Recoverable.levelKeys_eq_positions_iff (h : Recoverable keep labels) :
    levelKeys keep labels = positions labels.length ↔ ¬ (keep = true ∧ labels ≠ []) := by
  cases keep with
  | false => exact iff_of_true (levelKeys_false labels) fun hkept => nomatch hkept.1
  | true =>
    by_cases hempty : labels = []
    · subst hempty
      exact iff_of_true rfl fun hkept => hkept.2 rfl
    · refine iff_of_false (fun hpositions => (h rfl).2 hempty ?_) fun hnot => hnot ⟨rfl, hempty⟩
      rw [← hpositions, map_some_levelKeys (h rfl).1]

theorem Recoverable.nodup_keys (h : Recoverable keep labels) (hu : UniqueLabels labels)
    (hlen : labels.length = values.length) :
    (((levelKeys keep labels).zip values).map (·.1)).Nodup := by
  rw [map_fst_zip_levelKeys keep hlen]
  exact (nodup_levelKeys_iff hu).2 h.not_clash

/-- Labels that are kept make an object, others an array. -/
theorem Recoverable.level_eq (h : Recoverable keep labels) (hu : UniqueLabels labels)
    (hlen : labels.length = values.length) :
    level ((levelKeys keep labels).zip values) =
      if keep = true ∧ labels ≠ [] then .object ((levelKeys keep labels).zip values)
      else .array values := by
  rw [level_of_nodup (h.nodup_keys hu hlen), map_fst_zip_levelKeys keep hlen,
    map_snd_zip_levelKeys keep hlen, List.length_zip, length_levelKeys, ← hlen, Nat.min_self]
  simp only [h.levelKeys_eq_positions_iff, ite_not]

/-! ## Rows -/

theorem zip_replicate_none {n : Nat} (h : n = values.length) :
    (List.replicate n (none : Option String)).zip values = values.map fun value => (none, value) := by
  subst h
  induction values with
  | nil => rfl
  | cons value values ih => exact congrArg (_ :: ·) ih

/-- The rows are read with the labels that come back. -/
theorem Recoverable.topLevel_level (h : Recoverable keep labels) (hu : UniqueLabels labels)
    (hlen : labels.length = values.length) :
    topLevel (level ((levelKeys keep labels).zip values)) = (readLabels keep labels).zip values := by
  rw [h.level_eq hu hlen]
  split
  · rename_i hkept
    obtain ⟨rfl, -⟩ := hkept
    show ((levelKeys true labels).zip values).map _ = labels.zip values
    conv_rhs => rw [← map_some_levelKeys (h rfl).1, List.zip_map_left]
    rfl
  · -- an array, because the labels are dropped or because there are no rows
    rename_i hnot
    cases keep with
    | false => exact (zip_replicate_none hlen).symm
    | true =>
      have hempty : labels = [] := Decidable.byContradiction fun hne => hnot ⟨rfl, hne⟩
      subst hempty
      rw [List.eq_nil_of_length_eq_zero hlen.symm]
      rfl

/-! ## Rows under the labels of the columns -/

/-- The columns that a document makes known. -/
def readColumns (keep : Bool) (labels : List (Option String)) : List String :=
  if keep then levelKeys keep labels else []

/-- Whether a cell has a value in a document: all have one but infinities and what is no number. -/
def hasValue : Cell → Bool
  | .float d => d.isFinite
  | _ => true

theorem toCell_ofCell {cell : Cell} (h : hasValue cell) : (ofCell cell).toCell = cell := by
  cases cell with
  | null | bool | text => rfl
  | integer n => exact integerCell_toInt n
  | float d =>
    have hd : d.isFinite = true := h
    rw [ofCell, if_pos hd]
    rfl

theorem map_toCell_ofCell {cells : List Cell} (h : ∀ cell ∈ cells, hasValue cell) :
    (cells.map ofCell).map toCell = cells := by
  rw [List.map_map]
  conv_rhs => rw [← List.map_id cells]
  exact List.map_congr_left fun cell hcell => toCell_ofCell (h cell hcell)

theorem readColumns_eq_nil (h : ¬ (keep = true ∧ labels ≠ [])) : readColumns keep labels = [] := by
  cases keep with
  | false => rfl
  | true =>
    have hempty : labels = [] := Decidable.byContradiction fun hne => h ⟨rfl, hne⟩
    rw [hempty]
    rfl

/-- A row is read back, both as the first one and under the columns that the first makes known. -/
theorem Recoverable.rowCells_level {columns : List String} {cells : List Cell}
    (h : Recoverable keep labels) (hu : UniqueLabels labels) (hlen : labels.length = cells.length)
    (hvalue : ∀ cell ∈ cells, hasValue cell)
    (hcolumns : columns = [] ∨ columns = readColumns keep labels) :
    rowCells keep columns (level ((levelKeys keep labels).zip (cells.map ofCell))) =
      (readColumns keep labels, cells) := by
  have hlen' : labels.length = (cells.map ofCell).length := by rw [hlen, List.length_map]
  rw [h.level_eq hu hlen']
  split
  · rename_i hkept
    obtain ⟨rfl, -⟩ := hkept
    have hkeys := map_fst_zip_levelKeys true hlen'
    have hcells : ((levelKeys true labels).zip (cells.map ofCell)).map (·.2.toCell) = cells := by
      calc ((levelKeys true labels).zip (cells.map ofCell)).map (·.2.toCell)
          = (((levelKeys true labels).zip (cells.map ofCell)).map (·.2)).map toCell := by
            rw [List.map_map]
            rfl
        _ = (cells.map ofCell).map toCell := by rw [map_snd_zip_levelKeys true hlen']
        _ = cells := map_toCell_ofCell hvalue
    have hknown : columns = [] ∨
        columns = ((levelKeys true labels).zip (cells.map ofCell)).map (·.1) := by
      rwa [hkeys]
    have hread := foldl_placeMember_keys (h.nodup_keys hu hlen') hknown
    rwa [hkeys, hcells] at hread
  · rename_i hnot
    have hnone := readColumns_eq_nil hnot
    rw [hnone, or_self] at hcolumns
    rw [hcolumns, hnone]
    exact congrArg (Prod.mk []) (map_toCell_ofCell hvalue)

theorem allCells_cons {byKey : Bool} {columns known final : List String} {row : Json}
    {rows : List Json} {cells : List Cell} {rest : List (List Cell)}
    (hrow : rowCells byKey columns row = (known, cells))
    (hrows : allCells byKey known rows = (final, rest)) :
    allCells byKey columns (row :: rows) = (final, cells :: rest) := by
  simp only [allCells, hrow, hrows]

section

variable {rows : List (List Cell)} {kept : JsonLabels}

theorem rowCells_ofRow (hg : g.WF) (h : Recoverable kept.columns (g.labels .column))
    {columns : List String} {cells : List Cell} (hcells : cells ∈ g.cells)
    (hvalue : ∀ cell ∈ cells, hasValue cell)
    (hcolumns : columns = [] ∨ columns = readColumns kept.columns (g.labels .column)) :
    rowCells kept.columns columns (ofRow kept g cells) =
      (readColumns kept.columns (g.labels .column), cells) :=
  h.rowCells_level (hg.labels .column) (hg.cells_width cells hcells).symm hvalue hcolumns

/-- All rows are read back once the columns are known. -/
theorem allCells_known (hg : g.WF) (h : Recoverable kept.columns (g.labels .column))
    (hrows : ∀ cells ∈ rows, cells ∈ g.cells)
    (hvalue : ∀ cells ∈ rows, ∀ cell ∈ cells, hasValue cell) :
    allCells kept.columns (readColumns kept.columns (g.labels .column))
        (rows.map (ofRow kept g)) = (readColumns kept.columns (g.labels .column), rows) := by
  induction rows with
  | nil => rfl
  | cons cells rows ih =>
    rw [List.forall_mem_cons] at hrows hvalue
    exact allCells_cons (rowCells_ofRow hg h hrows.1 hvalue.1 (.inr rfl)) (ih hrows.2 hvalue.2)

/-- All rows are read back, and the first one makes the columns known. -/
theorem allCells_ofRow (hg : g.WF) (h : Recoverable kept.columns (g.labels .column))
    (hpos : 0 < g.count .row) (hvalue : ∀ cells ∈ g.cells, ∀ cell ∈ cells, hasValue cell) :
    allCells kept.columns [] (g.cells.map (ofRow kept g)) =
      (readColumns kept.columns (g.labels .column), g.cells) := by
  rw [← Grid.length_cells] at hpos
  obtain ⟨cells, rows, hcells⟩ := List.exists_cons_of_length_pos hpos
  have hmem : ∀ row ∈ cells :: rows, row ∈ g.cells := fun row hrow => hcells ▸ hrow
  rw [hcells, List.forall_mem_cons] at hvalue
  rw [List.forall_mem_cons] at hmem
  rw [hcells]
  exact allCells_cons (rowCells_ofRow hg h hmem.1 hvalue.1 (.inl rfl))
    (allCells_known hg h hmem.2 hvalue.2)

end

/-! ## Grids -/

/-- What becomes of a document is decided by its rows and their cells. -/
theorem toGrid_of_rows {keep : JsonLabels} {document : Json} {rows : List (Option String × Json)}
    {columns : List String} {cells : List (List Cell)} (hrows : topLevel document = rows)
    (hne : rows ≠ []) (hcells : allCells keep.columns [] (rows.map (·.2)) = (columns, cells)) :
    document.toGrid keep =
      ((Grid.ofRows cells).widen columns.length).setLabelsIfAny .column (columns.map some) >>=
        fun g => g.setLabelsIfAny .row (if keep.rows then rows.map (·.1) else []) := by
  subst hrows
  have hsome : (topLevel document).isEmpty = false := List.isEmpty_eq_false_iff.2 hne
  have hkeys : ((topLevel document).map (·.1)).isEmpty = false := by
    rwa [List.isEmpty_eq_false_iff, ne_eq, List.map_eq_nil_iff]
  simp only [toGrid, hsome, hcells, Bool.false_eq_true, if_false]
  refine congrArg (_ >>= ·) (funext fun g => ?_)
  cases keep.rows with
  | false => rfl
  | true =>
    rw [if_pos rfl, if_pos rfl, Grid.setLabelsIfAny, hkeys, if_neg Bool.false_ne_true]

/-- The columns that a document makes known are labelled as the document keeps them. -/
theorem Recoverable.map_some_readColumns (h : Recoverable keep labels) :
    (readColumns keep labels).map some = if keep then labels else [] := by
  cases keep with
  | false => rfl
  | true => exact map_some_levelKeys (h rfl).1

theorem length_readColumns_le (keep : Bool) (labels : List (Option String)) :
    (readColumns keep labels).length ≤ labels.length := by
  cases keep with
  | false => exact Nat.zero_le _
  | true => exact Nat.le_of_eq (length_levelKeys true labels)

theorem length_readLabels (keep : Bool) (labels : List (Option String)) :
    (readLabels keep labels).length = labels.length := by
  cases keep with
  | false => exact List.length_replicate
  | true => rfl

/-- The rows of the document of a grid come with the labels that are read back. -/
theorem topLevel_ofGrid {keep : JsonLabels} (hg : g.WF)
    (h : Recoverable keep.rows (g.labels .row)) : topLevel (ofGrid keep g) =
      (readLabels keep.rows (g.labels .row)).zip (g.cells.map (ofRow keep g)) :=
  h.topLevel_level (hg.labels .row) (length_labels_row keep g)

/-- The grid of the cells alone has the shape of the grid and no labels. -/
theorem labels_ofRows_cells (hg : g.WF) (hpos : 0 < g.count .row) (axis : Axis) :
    (Grid.ofRows g.cells).labels axis = List.replicate (g.labels axis).length none := by
  rw [← Grid.length_cells] at hpos
  cases axis with
  | row => rw [Grid.labels_ofRows_row, Grid.length_cells, Grid.count]
  | column =>
    refine Grid.labels_ofRows_column hg.cells_width fun hempty => ?_
    rw [hempty] at hpos
    cases hpos

/-- Reading the document of a grid sets the labels that are kept on the grid of its cells. -/
theorem toGrid_ofGrid_eq {keep : JsonLabels} (hg : g.WF) (hpos : 0 < g.count .row)
    (hvalue : ∀ cells ∈ g.cells, ∀ cell ∈ cells, hasValue cell)
    (hrows : Recoverable keep.rows (g.labels .row))
    (hcolumns : Recoverable keep.columns (g.labels .column)) : (ofGrid keep g).toGrid keep =
      (Grid.ofRows g.cells).setLabelsIfAny .column
          (if keep.columns then g.labels .column else []) >>=
        (·.setLabelsIfAny .row (if keep.rows then g.labels .row else [])) := by
  have hlen : (readLabels keep.rows (g.labels .row)).length =
      (g.cells.map (ofRow keep g)).length :=
    (length_readLabels keep.rows _).trans (length_labels_row keep g)
  have hkeys := List.map_fst_zip (Nat.le_of_eq hlen)
  have hvalues := List.map_snd_zip (Nat.le_of_eq hlen.symm)
  have hne : (readLabels keep.rows (g.labels .row)).zip (g.cells.map (ofRow keep g)) ≠ [] := by
    rw [← List.length_pos_iff, List.length_zip, ← hlen, Nat.min_self, length_readLabels]
    exact hpos
  have hcells := allCells_ofRow hg hcolumns hpos hvalue
  rw [← hvalues] at hcells
  have hwide : (Grid.ofRows g.cells).widen
      (readColumns keep.columns (g.labels .column)).length = Grid.ofRows g.cells := by
    refine (Grid.ofRows_wf _).widen_eq_self ?_
    rw [Grid.count, labels_ofRows_cells hg hpos, List.length_replicate]
    exact length_readColumns_le _ _
  have hkept : (if keep.rows then readLabels keep.rows (g.labels .row) else []) =
      if keep.rows then g.labels .row else [] := by
    cases keep.rows <;> rfl
  rw [toGrid_of_rows (topLevel_ofGrid hg hrows) hne hcells, hwide, hcolumns.map_some_readColumns,
    hkeys, hkept]

/-- A grid with a row comes back from its document, with the labels of the axes for which they are
kept, if the labels tell the lines there and every float has a value. -/
theorem document_reads_back (hg : g.WF) (keep : JsonLabels) (hpos : 0 < g.count .row)
    (hvalue : ∀ cells ∈ g.cells, ∀ cell ∈ cells, hasValue cell)
    (hlabels : ∀ axis, Recoverable (keep.of axis) (g.labels axis)) :
    (ofGrid keep g).toGrid keep = .ok (g.keepLabels keep) := by
  have hblank := labels_ofRows_cells hg hpos
  rw [toGrid_ofGrid_eq hg hpos hvalue (hlabels .row) (hlabels .column)]
  -- the columns are labelled first, which leaves the rows without labels
  obtain ⟨labelled, hset, hcells, hself, hcross⟩ :=
    Grid.exists_setLabelsIfAny_kept (hg.labels .column) (hblank .column)
  obtain ⟨full, hset', hcells', hself', hcross'⟩ :=
    Grid.exists_setLabelsIfAny_kept (hg.labels .row) (hcross.trans (hblank .row))
  have hfull : full = g.keepLabels keep := by
    refine Grid.eq_of_cells_of_labels ?_ fun axis => ?_
    · rw [hcells', hcells, Grid.cells_ofRows hg.cells_width, Grid.cells_keepLabels]
    · rw [Grid.labels_keepLabels]
      cases axis with
      | row => exact hself'
      | column => exact hcross'.trans hself
  exact bind_eq_ok_iff.2 ⟨labelled, hset, hfull ▸ hset'⟩

/-- Labels kept on one axis only, positions among them, and a cell of every kind. -/
theorem document_reads_back_columns :
    Grid.WF ⟨[⟨some "r", [.null, .bool true, .integer (-7)]⟩,
        ⟨none, [.text "", .float .zero, .null]⟩], [some "1", some "0", some "b"]⟩ ∧
      ofGrid ⟨false, true⟩ ⟨[⟨some "r", [.null, .bool true, .integer (-7)]⟩,
          ⟨none, [.text "", .float .zero, .null]⟩], [some "1", some "0", some "b"]⟩ =
        .array [.object [("1", .null), ("0", .bool true), ("b", .integer (-7))],
          .object [("1", .string ""), ("0", .float .zero), ("b", .null)]] ∧
      toGrid ⟨false, true⟩
          (.array [.object [("1", .null), ("0", .bool true), ("b", .integer (-7))],
            .object [("1", .string ""), ("0", .float .zero), ("b", .null)]]) =
        .ok ⟨[⟨none, [.null, .bool true, .integer (-7)]⟩,
          ⟨none, [.text "", .float .zero, .null]⟩], [some "1", some "0", some "b"]⟩ := by
  have hmade : Grid.ofLabeledRows [[.null, .text "1", .text "0", .text "b"],
      [.text "r", .null, .bool true, .integer (-7)], [.null, .text "", .float .zero, .null]]
        true true =
      .ok ⟨[⟨some "r", [.null, .bool true, .integer (-7)]⟩,
        ⟨none, [.text "", .float .zero, .null]⟩], [some "1", some "0", some "b"]⟩ := rfl
  have hwf := (Grid.Reachable.ofLabeledRows hmade).wf
  have hlabels : ∀ axis, Recoverable (JsonLabels.of ⟨false, true⟩ axis) (Grid.labels axis
      ⟨[⟨some "r", [.null, .bool true, .integer (-7)]⟩,
        ⟨none, [.text "", .float .zero, .null]⟩], [some "1", some "0", some "b"]⟩) :=
    Grid.forall_axis .row (by decide) (by decide)
  exact ⟨hwf, rfl, document_reads_back hwf ⟨false, true⟩ (by decide) (by decide) hlabels⟩

end Json

end Tabular
