/-
Reading a grid's CSV text gives the grid back, up to what CSV does not tell: cells come back as
their texts, and labels that are not kept are missing. A label that is missing is written as an
empty field, which no label can be, so labels that are kept come back exactly.
-/
import Tabular.Proofs.Csv.Encoding
import Tabular.Proofs.Csv.Records
import Tabular.Proofs.Grid.Labelling

namespace Tabular

/-- Whether the labels of an axis are kept. -/
def CsvLabels.keeps (keep : CsvLabels) : Axis → Bool
  | .row => keep.rows
  | .column => keep.columns

namespace Csv

variable {l : Layout}

/-! ## What is written is a text -/

theorem isText_quoteField (hl : l.Readable) (s : String) :
    IsText (quoteField l.quote (encodeField s)) :=
  ((isText_doubled hl.quote_lt s).append (isText_ascii hl.quote_lt)).cons hl.quote_lt

theorem isText_writeField (hl : l.Readable) (s : String) :
    IsText (writeField l (encodeField s)) := by
  unfold writeField
  split
  · exact isText_quoteField hl s
  · exact isText_encodeField s

theorem isText_joinFields (hl : l.Readable) (record : List String) :
    IsText (joinFields l (record.map encodeField)) := by
  induction record with
  | nil => exact isText_nil
  | cons s record ih =>
    cases record with
    | nil => exact isText_writeField hl s
    | cons t record => exact (isText_writeField hl s).append (ih.cons hl.delimiter_lt)

theorem isText_terminator (hl : l.Readable) : IsText l.terminator.bytes := by
  rcases hl.terminator with h | h
  · rw [h]
    exact isText_ascii (by decide)
  · rw [h]
    exact (isText_ascii (by decide)).cons (by decide)

theorem isText_write (hl : l.Readable) (records : List (List String)) :
    IsText (write l (records.map (·.map encodeField))) := by
  rw [write, List.flatMap_map]
  refine IsText.flatMap fun record _ => ?_
  unfold writeRecord
  split
  · exact isText_nil
  · exact ((isText_terminator hl).cons hl.quote_lt).cons hl.quote_lt
  · exact (isText_joinFields hl record).append (isText_terminator hl)

/-- The texts of some records come back from what is written for them. -/
theorem exists_text_of_records (hl : l.Readable) {texts : List (List String)}
    (h : ∀ record ∈ texts, record ≠ []) :
    ∃ text, decodeField (write l (texts.map (·.map encodeField))) = some text ∧
      (text.toList.head? ≠ some '\ufeff' →
        decode (records l.dialect (encodeField text)) = some texts) := by
  obtain ⟨text, htext⟩ := isText_write hl texts
  refine ⟨text, htext ▸ decodeField_encodeField text, fun hmark => ?_⟩
  rw [records, dropMark_encodeField hmark, htext, readFrom_write hl, decode_encodeField]
  intro record hrecord
  obtain ⟨fields, hfields, rfl⟩ := List.mem_map.1 hrecord
  exact fun he => h fields hfields (List.map_eq_nil_iff.1 he)

end Csv

namespace Grid

open Csv

variable {g : Grid}

/-- The texts of the cells, as cells. -/
def texts (g : Grid) : List (List Cell) :=
  g.cells.map fun row => row.map fun cell => .text cell.asText

/-- The labels that a CSV text keeps of an axis. -/
def keptLabels (keep : CsvLabels) (axis : Axis) (g : Grid) : List (Option String) :=
  if keep.keeps axis then g.labels axis else []

/-- A missing label is written as the empty text, and read as missing. -/
theorem headerLabel_getD {label : Option String} (h : label ≠ some "") :
    headerLabel (.text (label.getD "")) = label := by
  cases label with
  | none => rfl
  | some l => exact normalizeLabel_eq_self h

/-- The records of a grid are taken apart as they were put together. -/
theorem ofLabeledRows_ofGrid (hg : g.WF) (keep : CsvLabels) :
    ofLabeledRows ((ofGrid keep g).map (·.map Cell.text)) keep.rows keep.columns =
      ((ofRows g.texts).widen (g.keptLabels keep .column).length).setLabelsIfAny .column
        (g.keptLabels keep .column) >>= (·.setLabelsIfAny .row (g.keptLabels keep .row)) := by
  have hrows : g.rows.map (fun row => headerLabel (.text (row.label.getD ""))) =
      g.rows.map (·.label) := by
    simpa [labels] using (hg.labels .row).map_eq_self fun _ => headerLabel_getD
  have hcolumns : g.columnLabels.map (fun label => headerLabel (.text (label.getD ""))) =
      g.columnLabels :=
    (hg.labels .column).map_eq_self fun _ => headerLabel_getD
  obtain ⟨rows, columns⟩ := keep
  cases rows <;> cases columns <;>
    simp [ofLabeledRows, ofGrid, rowTexts, header, keptLabels, CsvLabels.keeps, texts, cells,
      labels, Function.comp_def, hrows, hcolumns]

theorem WF.texts_width (hg : g.WF) : ∀ row ∈ g.texts, row.length = g.count .column := by
  intro row hrow
  obtain ⟨cells, hcells, rfl⟩ := List.mem_map.1 hrow
  rw [List.length_map]
  exact hg.cells_width cells hcells

theorem WF.mem_ofGrid_ne_nil (hg : g.WF) {keep : CsvLabels}
    (hkeep : keep.rows = true ∨ 0 < g.count .column) : ∀ record ∈ ofGrid keep g, record ≠ [] := by
  have hne : ∀ (label : String) (cells : List String), cells.length = g.count .column →
      (if keep.rows then [label] else []) ++ cells ≠ [] := by
    intro label cells hcells hnil
    obtain ⟨hlabel, rfl⟩ := List.append_eq_nil_iff.1 hnil
    rcases hkeep with hrows | hcolumn
    · rw [if_pos hrows] at hlabel
      cases hlabel
    · exact absurd hcells (Nat.ne_of_lt hcolumn)
  intro record hrecord
  rcases List.mem_append.1 hrecord with h | h
  · split at h
    · rw [List.mem_singleton.1 h]
      exact hne _ _ (List.length_map _)
    · cases h
  · obtain ⟨row, hrow, rfl⟩ := List.mem_map.1 h
    exact hne _ _ ((List.length_map _).trans (hg.width row hrow))

theorem WF.ofGrid_ne_nil (hg : g.WF) (keep : CsvLabels) (hcolumn : 0 < g.count .column) :
    ∀ record ∈ ofGrid keep g, record ≠ [] :=
  hg.mem_ofGrid_ne_nil (.inr hcolumn)

theorem length_texts : g.texts.length = g.count .row := by
  rw [texts, List.length_map, length_cells]

theorem exists_setLabels_kept (keep : CsvLabels) (axis : Axis) {h : Grid} (hg : g.WF)
    (hlabels : h.labels axis = List.replicate (g.count axis) none) :
    ∃ changed, h.setLabelsIfAny axis (g.keptLabels keep axis) = .ok changed ∧
      changed.cells = h.cells ∧ changed.labels axis.cross = h.labels axis.cross ∧
      changed.labels axis =
        if keep.keeps axis then g.labels axis else List.replicate (g.count axis) none := by
  unfold keptLabels
  split
  · have hlen : (g.labels axis).length = h.count axis := by
      rw [count, hlabels, List.length_replicate, count]
    obtain ⟨changed, hset, hcells, hself, hcross⟩ := exists_setLabelsIfAny (hg.labels axis) hlen
    exact ⟨changed, hset, hcells, hcross, hself⟩
  · exact ⟨h, rfl, rfl, rfl, hlabels⟩

/-- The texts of a grid take up its shape again; without rows, a kept header is as wide as it. -/
theorem WF.ofRows_texts (hg : g.WF) {keep : CsvLabels}
    (hkeep : 0 < g.count .row ∨ keep.columns = true) :
    ((ofRows g.texts).widen (g.keptLabels keep .column).length).cells = g.texts ∧
      ∀ axis, ((ofRows g.texts).widen (g.keptLabels keep .column).length).labels axis =
        List.replicate (g.count axis) none := by
  by_cases hne : g.texts = []
  · have hrow : g.count .row = 0 := by
      rw [← length_texts, hne]
      rfl
    have hcolumns : keep.columns = true := hkeep.resolve_left (by omega)
    have hwidth : (g.keptLabels keep .column).length = g.count .column := by
      rw [keptLabels, CsvLabels.keeps, if_pos hcolumns]
      rfl
    rw [hne, hwidth]
    refine ⟨rfl, fun axis => ?_⟩
    cases axis with
    | row =>
      rw [hrow]
      rfl
    | column => rfl
  · have hcolumns := labels_ofRows_column hg.texts_width fun h => absurd h hne
    have hwidth : (g.keptLabels keep .column).length ≤ (ofRows g.texts).count .column := by
      rw [count, hcolumns, List.length_replicate, keptLabels]
      split
      · exact Nat.le_refl _
      · exact Nat.zero_le _
    rw [(ofRows_wf _).widen_eq_self hwidth]
    refine ⟨cells_ofRows hg.texts_width, fun axis => ?_⟩
    cases axis with
    | row => exact length_texts (g := g) ▸ labels_ofRows_row
    | column => exact hcolumns

/-- The records of a grid make a grid of its texts, with the labels that are kept. -/
theorem exists_ofLabeledRows_kept (hg : g.WF) {keep : CsvLabels}
    (hkeep : 0 < g.count .row ∨ keep.columns = true) :
    ∃ h, ofLabeledRows ((ofGrid keep g).map (·.map Cell.text)) keep.rows keep.columns = .ok h ∧
      h.cells = g.texts ∧ ∀ axis, h.labels axis =
        if keep.keeps axis then g.labels axis else List.replicate (g.count axis) none := by
  obtain ⟨hmade, hbare⟩ := hg.ofRows_texts hkeep
  obtain ⟨labelled, hset, hcells, hcross, hself⟩ :=
    exists_setLabels_kept keep .column hg (hbare .column)
  obtain ⟨h, hset', hcells', hcross', hself'⟩ :=
    exists_setLabels_kept keep .row hg (hcross.trans (hbare .row))
  refine ⟨h, ?_, hcells'.trans (hcells.trans hmade), fun axis => ?_⟩
  · rw [ofLabeledRows_ofGrid hg, hset]
    exact hset'
  · cases axis with
    | row => exact hself'
    | column => exact hcross'.trans hself

theorem exists_ofLabeledRows_ofGrid (hg : g.WF) (keep : CsvLabels) (hrow : 0 < g.count .row) :
    ∃ h, ofLabeledRows ((ofGrid keep g).map (·.map Cell.text)) keep.rows keep.columns = .ok h ∧
      h.cells = g.texts ∧ ∀ axis, h.labels axis =
        if keep.keeps axis then g.labels axis else List.replicate (g.count axis) none :=
  exists_ofLabeledRows_kept hg (.inl hrow)

/-- A grid with rows and columns comes back from its CSV text, cells as their texts. -/
theorem ofCsv_toCsv {l : Layout} (hl : l.Readable) (keep : CsvLabels) (hg : g.WF)
    (hrow : 0 < g.count .row) (hcolumn : 0 < g.count .column) :
    ∃ text, g.toCsv l keep = .ok text ∧ (text.toList.head? ≠ some '\ufeff' →
      ∃ h, ofCsv l.dialect keep false (encodeField text) = .ok h ∧
        (∀ axis, h.count axis = g.count axis) ∧
        (∀ r c, h.cell? .row r c = (g.cell? .row r c).map fun cell => .text cell.asText) ∧
        ∀ axis, h.labels axis =
          if keep.keeps axis then g.labels axis else List.replicate (g.count axis) none) := by
  obtain ⟨text, hwritten, hread⟩ := exists_text_of_records hl (hg.ofGrid_ne_nil keep hcolumn)
  obtain ⟨h, hmade, hcells, hlabels⟩ := exists_ofLabeledRows_ofGrid hg keep hrow
  refine ⟨text, ?_, fun hmark => ⟨h, ?_, fun axis => ?_, fun r c => ?_, hlabels⟩⟩
  · rw [toCsv]
    simp only [hwritten]
  · rw [ofCsv, hread hmark]
    exact hmade
  · rw [count, hlabels, count]
    split
    · rfl
    · exact List.length_replicate
  · rw [cell?_eq_cells, cell?_eq_cells, hcells, texts, List.getElem?_map]
    cases g.cells[r]? <;> simp

/-- A label that holds the delimiter, a cell that holds the quote and a line end, and a null, a
truth value and missing labels, all under a header with an empty corner. -/
theorem ofCsv_toCsv_quoted :
    WF ⟨[⟨some "a,b", [.null, .text "\"\r\n"]⟩, ⟨none, [.integer 7, .bool true]⟩],
        [none, some "c"]⟩ ∧
      toCsv ⟨44, 34, .crlf⟩ ⟨true, true⟩
          ⟨[⟨some "a,b", [.null, .text "\"\r\n"]⟩, ⟨none, [.integer 7, .bool true]⟩],
            [none, some "c"]⟩ =
        .ok ",,c\r\n\"a,b\",,\"\"\"\r\n\"\r\n,7,1\r\n" ∧
      ∃ h, ofCsv ⟨44, 34, none⟩ ⟨true, true⟩ false
          (encodeField ",,c\r\n\"a,b\",,\"\"\"\r\n\"\r\n,7,1\r\n") = .ok h ∧
        h.count .row = 2 ∧ h.count .column = 2 ∧
        h.cell? .row 0 0 = some (.text "") ∧ h.cell? .row 0 1 = some (.text "\"\r\n") ∧
        h.cell? .row 1 0 = some (.text "7") ∧ h.cell? .row 1 1 = some (.text "1") ∧
        h.labels .row = [some "a,b", none] ∧ h.labels .column = [none, some "c"] := by
  have hparts : ofLabeledRows [[.null, .null, .text "c"], [.text "a,b", .null, .text "\"\r\n"],
      [.null, .integer 7, .bool true]] true true =
        .ok ⟨[⟨some "a,b", [.null, .text "\"\r\n"]⟩, ⟨none, [.integer 7, .bool true]⟩],
          [none, some "c"]⟩ := rfl
  have hwf := ofLabeledRows_wf hparts
  have hreadable : (⟨44, 34, .crlf⟩ : Layout).Readable :=
    ⟨by decide, by decide, by decide, by decide, by decide, .inr rfl⟩
  have htext : toCsv ⟨44, 34, .crlf⟩ ⟨true, true⟩
      ⟨[⟨some "a,b", [.null, .text "\"\r\n"]⟩, ⟨none, [.integer 7, .bool true]⟩],
        [none, some "c"]⟩ = .ok ",,c\r\n\"a,b\",,\"\"\"\r\n\"\r\n,7,1\r\n" := by
    decide +kernel
  obtain ⟨text, hwritten, hread⟩ :=
    ofCsv_toCsv hreadable ⟨true, true⟩ hwf (by decide) (by decide)
  rw [htext] at hwritten
  cases hwritten
  obtain ⟨h, hmade, hcount, hcells, hlabels⟩ := hread (by decide +kernel)
  exact ⟨hwf, htext, h, hmade, hcount .row, hcount .column, hcells 0 0, hcells 0 1,
    (hcells 1 0).trans (by decide +kernel), hcells 1 1, hlabels .row, hlabels .column⟩

end Grid

end Tabular
