/-
A grid comes back from its snapshot, unless it has columns but no rows: a snapshot keeps no
counts, the columns of the data are lost with the last row, and their labels are then refused.
This is so for the snapshot itself and for its text, where a grid without floats is concerned.
-/
import Tabular.Proofs.Grid.Labelling
import Tabular.Proofs.Json.RoundTrip

namespace Tabular

/-! ## Cells and labels as values -/

namespace Json

theorem integerCell_toInt (n : Int64) : integerCell n.toInt = .integer n := by
  rw [integerCell, if_pos ⟨n.minValue_le_toInt, n.toInt_le⟩, Int64.ofInt_toInt]

theorem scalarCell?_ofCell {cell : Cell} (h : ∀ d, cell ≠ .float d) :
    (ofCell cell).scalarCell? = some cell := by
  cases cell with
  | null | bool | text => rfl
  | integer n => exact congrArg some (integerCell_toInt n)
  | float d => exact absurd rfl (h d)

theorem nested_ofCell {depth : Nat} {cell : Cell} (h : ∀ d, cell ≠ .float d) :
    Nested depth (ofCell cell) := by
  cases cell with
  | null => exact .null
  | bool b => exact .bool b
  | integer n =>
    have hlow : -(Double.signWeight : Int) ≤ n.toInt := n.le_toInt
    have hhigh : n.toInt < Double.signWeight := n.toInt_lt
    have hlimit : Double.signWeight ≤ NumberText.significandLimit := by decide
    exact .integer hlow (by omega)
  | float d => exact absurd rfl (h d)
  | text s => exact .string s

end Json

namespace Snapshot

open Json Json.Lexeme

theorem label?_labelJson (label : Option String) : label? (labelJson label) = some label := by
  cases label <;> rfl

theorem nested_labelJson {depth : Nat} (label : Option String) :
    Nested depth (labelJson label) := by
  cases label with
  | none => exact .null
  | some l => exact .string l

/-! ## The members of a snapshot -/

def dataJson (rows : List (List Cell)) : Json :=
  .array (rows.map fun row => .array (row.map ofCell))

def labelsJson (labels : List (Option String)) : Json :=
  .array (labels.map labelJson)

/-- No cell is a float. -/
def FloatFree (rows : List (List Cell)) : Prop :=
  ∀ row ∈ rows, ∀ cell ∈ row, ∀ d, cell ≠ .float d

theorem cells?_dataJson {rows : List (List Cell)} (h : FloatFree rows) :
    cells? (dataJson rows) = some rows :=
  mapM_map_eq_some fun row hrow => mapM_map_eq_some fun cell hcell =>
    scalarCell?_ofCell (h row hrow cell hcell)

theorem labels?_labelsJson (labels : List (Option String)) :
    labels? (labelsJson labels) = some labels :=
  mapM_map_eq_some fun label _ => label?_labelJson label

theorem nested_dataJson {depth : Nat} {rows : List (List Cell)} (h : FloatFree rows) :
    Nested (depth + 2) (dataJson rows) := by
  refine .array fun v hv => ?_
  obtain ⟨row, hrow, rfl⟩ := List.mem_map.1 hv
  refine .array fun w hw => ?_
  obtain ⟨cell, hcell, rfl⟩ := List.mem_map.1 hw
  exact nested_ofCell (h row hrow cell hcell)

theorem nested_labelsJson {depth : Nat} (labels : List (Option String)) :
    Nested (depth + 1) (labelsJson labels) := by
  refine .array fun v hv => ?_
  obtain ⟨label, _, rfl⟩ := List.mem_map.1 hv
  exact nested_labelJson label

section

variable {parts parts' : Parts} {value : Json}

/-- What comes after the members up to here have been read. -/
def afterMember (parts : Parts) : List Lexeme → Option (Parts × List Lexeme)
  | .closeObject :: left => some (parts, left)
  | .comma :: left => members? parts left
  | _ => none

theorem members?_cons {key : List Char} {ls after : List Lexeme}
    (hread : Json.read (demand (String.ofList key)) ls = some (value, after))
    (hadd : parts.add? (String.ofList key) value = some parts') :
    members? parts (.string (some key) :: .colon :: ls) = afterMember parts' after := by
  rw [members?]
  split
  · rename_i hnone
    rw [hread] at hnone
    cases hnone
  · rename_i hsome
    rw [hread] at hsome
    cases hsome
    rw [hadd]
    rcases after with _ | ⟨l, left⟩
    · rfl
    · cases l <;> rfl

/-- A member is read from its text and added to the parts. -/
theorem members?_member {key : String} {rest : List Char} (hknown : Parts.isKnown key = true)
    (hvalue : Nested (maxDepth - 1) value) (hadd : parts.add? key value = some parts')
    (hrest : EndsValue rest) :
    members? parts (scan (quoted key ++ ':' :: (value.compactChars ++ rest))) =
      afterMember parts' (scan rest) := by
  have hread : Json.read (demand key) (scan (value.compactChars ++ rest)) =
      some (value, scan rest) := by
    rw [demand, if_pos hknown]
    exact read_compactChars hvalue hrest
  rw [scan_quoted, scan_punctuation rfl rfl]
  rw [← String.ofList_toList (s := key)] at hread hadd
  exact members?_cons hread hadd

end

/-- The members of a snapshot are read from its text. -/
theorem parts?_toJson (s : Snapshot) (h : FloatFree s.data) :
    parts? (scan s.toJson.compactChars) =
      some (⟨some s.data, some s.rowLabels, some s.columnLabels⟩, []) := by
  have htext : s.toJson.compactChars = '{' :: (quoted "data" ++ ':' ::
      ((dataJson s.data).compactChars ++ ',' :: (quoted "row_labels" ++ ':' ::
        ((labelsJson s.rowLabels).compactChars ++ ',' :: (quoted "column_labels" ++ ':' ::
          ((labelsJson s.columnLabels).compactChars ++ ['}'])))))) := by
    simp [toJson, compactChars, compactMembers, dataJson, labelsJson]
  have hopen : ∀ cs, parts? (scan ('{' :: (quoted "data" ++ cs))) =
      members? .none (scan (quoted "data" ++ cs)) := by
    intro cs
    rw [scan_punctuation rfl rfl, scan_quoted]
    rfl
  have hdata : Parts.none.add? "data" (dataJson s.data) = some ⟨some s.data, none, none⟩ := by
    simp [Parts.add?, Parts.none, cells?_dataJson h]
  have hrows : Parts.add? ⟨some s.data, none, none⟩ "row_labels" (labelsJson s.rowLabels) =
      some ⟨some s.data, some s.rowLabels, none⟩ := by
    simp [Parts.add?, labels?_labelsJson]
  have hcolumns : Parts.add? ⟨some s.data, some s.rowLabels, none⟩ "column_labels"
      (labelsJson s.columnLabels) =
        some ⟨some s.data, some s.rowLabels, some s.columnLabels⟩ := by
    simp [Parts.add?, labels?_labelsJson]
  rw [htext, hopen, members?_member rfl (nested_dataJson h) hdata (endsValue_cons (by decide) _),
    scan_punctuation rfl rfl, afterMember,
    members?_member rfl (nested_labelsJson _) hrows (endsValue_cons (by decide) _),
    scan_punctuation rfl rfl, afterMember,
    members?_member rfl (nested_labelsJson _) hcolumns (endsValue_cons (by decide) _),
    scan_punctuation rfl rfl, afterMember, scan_nil]

/-! ## Grids and their snapshots -/

variable {g : Grid}

/-- A grid whose labels cannot be given back: its columns are gone with its last row. -/
def LosesColumns (g : Grid) : Prop :=
  g.count .row = 0 ∧ 0 < g.count .column

instance (g : Grid) : Decidable (LosesColumns g) :=
  inferInstanceAs (Decidable (_ ∧ _))

/-- Without rows there are no columns to take the labels. -/
theorem toGrid_of_losesColumns (h : LosesColumns g) :
    (ofGrid g).toGrid = .error (.emptyAxis .column) := by
  obtain ⟨rows, columnLabels⟩ := g
  have hrows : rows = [] := List.eq_nil_of_length_eq_zero ((Grid.length_rows ⟨rows, _⟩).trans h.1)
  obtain ⟨label, labels, hlabels⟩ : ∃ label labels, columnLabels = label :: labels :=
    List.exists_cons_of_length_pos h.2
  subst hrows hlabels
  rfl

/-- A grid that keeps its columns comes back from its snapshot. -/
theorem toGrid_ofGrid (hg : g.WF) (h : ¬ LosesColumns g) : (ofGrid g).toGrid = .ok g := by
  have hempty : g.cells = [] → g.count .column = 0 := by
    intro hcells
    have hrow : g.count .row = 0 := by rw [← Grid.length_cells, hcells, List.length_nil]
    unfold LosesColumns at h
    omega
  have hrows : (g.labels .row).length = (Grid.ofRows g.cells).count .row := by
    rw [Grid.count, Grid.labels_ofRows_row, List.length_replicate, Grid.length_cells, Grid.count]
  obtain ⟨labelled, hset, hcells, hself, hcross⟩ :=
    Grid.exists_setLabelsIfAny (hg.labels .row) hrows
  have hcolumns : (g.labels .column).length = labelled.count .column := by
    have hblank := hcross.trans (Grid.labels_ofRows_column hg.cells_width hempty)
    rw [Grid.count, show labelled.labels .column = _ from hblank, List.length_replicate, Grid.count]
  obtain ⟨full, hset', hcells', hself', hcross'⟩ :=
    Grid.exists_setLabelsIfAny (hg.labels .column) hcolumns
  have hfull : full = g := by
    refine Grid.eq_of_cells_of_labels ?_ fun axis => ?_
    · exact hcells'.trans (hcells.trans (Grid.cells_ofRows hg.cells_width))
    · cases axis with
      | row => exact hcross'.trans hself
      | column => exact hself'
  show (Grid.ofRows g.cells).setLabelsIfAny .row (g.labels .row) >>=
    (·.setLabelsIfAny .column (g.labels .column)) = _
  rw [hset]
  exact hfull ▸ hset'

/-- What becomes of a text that is a snapshot is decided by the snapshot. -/
theorem parse_of_parts {text : String} {parts : Parts} {s : Snapshot}
    (hparts : parts? (scan text.toList) = some (parts, [])) (hs : parts.toSnapshot? = some s) :
    parse text = s.toGrid.mapError .rejected := by
  rw [parse, hparts]
  simp only [hs]
  cases s.toGrid <;> rfl

theorem parse_toSnapshotText (hfloat : FloatFree g.cells) :
    parse g.toSnapshotText = (ofGrid g).toGrid.mapError .rejected := by
  have hparts := parts?_toJson (ofGrid g) hfloat
  rw [← String.toList_ofList (l := (ofGrid g).toJson.compactChars)] at hparts
  exact parse_of_parts hparts rfl

/-- A reachable grid comes back from its snapshot, and one without floats from its snapshot text,
unless it has columns but no rows; then its column labels are refused. -/
theorem snapshot_comes_back (h : g.Reachable) :
    (ofGrid g).toGrid = (if LosesColumns g then .error (.emptyAxis .column) else .ok g) ∧
      (FloatFree g.cells → parse g.toSnapshotText =
        if LosesColumns g then .error (.rejected (.emptyAxis .column)) else .ok g) := by
  have hgrid : (ofGrid g).toGrid =
      if LosesColumns g then .error (.emptyAxis .column) else .ok g := by
    split
    · rename_i hloses
      exact toGrid_of_losesColumns hloses
    · rename_i hkeeps
      exact toGrid_ofGrid h.wf hkeeps
  refine ⟨hgrid, fun hfloat => ?_⟩
  rw [parse_toSnapshotText hfloat, hgrid]
  split <;> rfl

/-- Missing labels on both axes, and a label that has to be escaped. -/
theorem snapshot_comes_back_escaped :
    Grid.Reachable ⟨[⟨none, [.null, .bool true, .integer (-7)]⟩], [some "\"", none, none]⟩ ∧
      Grid.toSnapshotText ⟨[⟨none, [.null, .bool true, .integer (-7)]⟩],
          [some "\"", none, none]⟩ =
        "\x7b\"data\":[[null,true,-7]],\"row_labels\":[null],\"column_labels\":[\"\\\"\",null,null]\x7d" ∧
      parse
          "\x7b\"data\":[[null,true,-7]],\"row_labels\":[null],\"column_labels\":[\"\\\"\",null,null]\x7d" =
        .ok ⟨[⟨none, [.null, .bool true, .integer (-7)]⟩], [some "\"", none, none]⟩ := by
  have hmade : Grid.ofLabeledRows [[.text "\""], [.null, .bool true, .integer (-7)]] false true =
      .ok ⟨[⟨none, [.null, .bool true, .integer (-7)]⟩], [some "\"", none, none]⟩ := rfl
  have hreachable := Grid.Reachable.ofLabeledRows hmade
  have htext : Grid.toSnapshotText ⟨[⟨none, [.null, .bool true, .integer (-7)]⟩],
      [some "\"", none, none]⟩ =
        "\x7b\"data\":[[null,true,-7]],\"row_labels\":[null],\"column_labels\":[\"\\\"\",null,null]\x7d" := by
    decide +kernel
  have hfloat : FloatFree (Grid.cells ⟨[⟨none, [.null, .bool true, .integer (-7)]⟩],
      [some "\"", none, none]⟩) := by
    simp [FloatFree, Grid.cells]
  exact ⟨hreachable, htext, htext ▸ (snapshot_comes_back hreachable).2 hfloat⟩

/-- The grid of a header without rows does not come back. -/
theorem snapshot_header_only :
    Grid.Reachable ⟨[], [some "a"]⟩ ∧ FloatFree (Grid.cells ⟨[], [some "a"]⟩) ∧
      parse (Grid.toSnapshotText ⟨[], [some "a"]⟩) = .error (.rejected (.emptyAxis .column)) := by
  have hmade : Grid.ofLabeledRows [[.text "a"]] false true = .ok ⟨[], [some "a"]⟩ := rfl
  refine ⟨.ofLabeledRows hmade, nofun, ?_⟩
  decide +kernel

end Snapshot

end Tabular
