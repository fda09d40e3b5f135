/-
Grids that their own CSV text gives back, as far as a query can tell. A grid that was read with a
header is one, and so is every grid of some of its rows: a null that fills up a short row comes
back as the empty text, and where row labels are not kept there are none. What comes back has the
same text, and a search that found the grid finds all of what comes back.
-/
import Tabular.Proofs.Csv.RoundTrip
import Tabular.Proofs.Grid.Searching

namespace Tabular

namespace Csv

/-! ## Records and their fields -/

theorem readFrom_ne_nil {d : Dialect} {s : State} {fields : Record} {field bytes : List UInt8} :
    ∀ record ∈ readFrom d s fields field bytes, record ≠ [] := by
  have hclose : ∀ fields field, closeRecord fields field ≠ [] := fun fields field => by
    simp [closeRecord]
  induction bytes generalizing s fields field with
  | nil =>
    intro record hrecord
    rw [readFrom] at hrecord
    split at hrecord
    · cases hrecord
    · rw [List.mem_singleton.1 hrecord]
      exact hclose _ _
  | cons b bytes ih =>
    rw [readFrom]
    split
    · exact ih
    · exact ih
    · exact ih
    · exact List.forall_mem_cons.2 ⟨hclose _ _, ih⟩

/-- Every record that is read has a field. -/
theorem ne_nil_of_decode {d : Dialect} {bytes : List UInt8} {texts : List (List String)}
    (h : decode (records d bytes) = some texts) : ∀ fields ∈ texts, fields ≠ [] := by
  intro fields hfields
  obtain ⟨record, hrecord, hdecode⟩ := exists_of_mem_mapM h hfields
  rintro rfl
  exact readFrom_ne_nil record hrecord
    (List.eq_nil_of_length_eq_zero (length_of_mapM_eq_some hdecode).symm)

end Csv

namespace Grid

open Csv

variable {g found back : Grid} {axis : Axis} {keep : CsvLabels} {l : Layout}

/-! ## Grids that come back -/

/-- A grid that its CSV text with a header gives back up to the texts of its cells, which no
operator tells from the cells. -/
structure Rereadable (keep : CsvLabels) (g : Grid) : Prop where
  wf : g.WF
  headed : keep.columns = true
  alike : ∀ cells ∈ g.cells, ∀ c ∈ cells, Cell.Alike c (.text c.asText)
  unlabelled : keep.rows = false → ∀ label ∈ g.labels .row, label = none
  shaped : (keep.rows = true ∨ 0 < g.count .column) ∨ keep.rows = false ∧ g = .empty

theorem mem_cells_widen_ofRows {rows : List (List Cell)} {n : Nat} {cells : List Cell}
    (hcells : cells ∈ ((ofRows rows).widen n).cells) {c : Cell} (hc : c ∈ cells) :
    c = .null ∨ ∃ row ∈ rows, c ∈ row := by
  simp only [Grid.cells, widen, ofRows, List.map_map, List.mem_map, Function.comp_def,
    List.rightpad] at hcells
  obtain ⟨row, hrow, rfl⟩ := hcells
  simp only [List.mem_append, List.mem_replicate] at hc
  rcases hc with (hc | hc) | hc
  · exact .inr ⟨row, hrow, hc⟩
  · exact .inl hc.2
  · exact .inl hc.2

/-- Under a header the rows that remain make the cells, at least as wide as the header; without a
column of labels the header is the whole first row, and no row has a label. -/
theorem exists_body_of_ofLabeledRows {rows : List (List Cell)} {firstColumn : Bool}
    (h : ofLabeledRows rows firstColumn true = .ok g) :
    ∃ (body : List (List Cell)) (n : Nat), (∀ cells ∈ body, ∃ row ∈ rows, cells ⊆ row) ∧
      g.cells = ((ofRows body).widen n).cells ∧ n ≤ g.count .column ∧
      (firstColumn = false →
        n = (rows.head?.getD []).length ∧ ∀ label ∈ g.labels .row, label = none) := by
  have hwide : ∀ (body : List (List Cell)) n, n ≤ ((ofRows body).widen n).count .column := by
    intro body n
    simp only [count, labels, widen, List.length_rightpad]
    exact Nat.le_max_left _ _
  have hbare : ∀ (body : List (List Cell)) n, ∀ label ∈ ((ofRows body).widen n).labels .row,
      label = none := by
    intro body n label hlabel
    rw [labels_widen_row, labels_ofRows_row] at hlabel
    exact (List.mem_replicate.1 hlabel).2
  obtain ⟨labelled, hheader, hheads⟩ := bind_eq_ok_iff.1 h
  obtain ⟨hcells, hcount, hcross⟩ := setLabelsIfAny_frame hheader
  obtain ⟨hcells', _, hcross'⟩ := setLabelsIfAny_frame hheads
  have hcolumns : g.count .column = labelled.count .column := congrArg List.length hcross'
  cases firstColumn with
  | false =>
    cases hheads
    refine ⟨rows.drop 1, _, fun cells hmem => ⟨cells, List.mem_of_mem_drop hmem, fun _ => id⟩,
      hcells, Nat.le_trans (hwide _ _) (Nat.le_of_eq hcount.symm), fun _ => ⟨rfl, ?_⟩⟩
    exact hcross ▸ hbare _ _
  | true =>
    refine ⟨_, _, ?_, hcells'.trans hcells,
      Nat.le_trans (hwide _ _) (Nat.le_of_eq (hcount.symm.trans hcolumns.symm)),
      fun h => absurd h.symm Bool.false_ne_true⟩
    intro cells hmem
    obtain ⟨row, hrow, rfl⟩ := List.mem_map.1 hmem
    exact ⟨row, List.mem_of_mem_drop hrow, List.drop_subset _ _⟩

/-- Reading with a header, and without inferring types, makes a grid that comes back. -/
theorem ofCsv_rereadable {dialect : Dialect} {bytes : List UInt8} (hkeep : keep.columns = true)
    (h : ofCsv dialect keep false bytes = .ok g) : Rereadable keep g := by
  have hwf := ofCsv_wf h
  unfold ofCsv at h
  split at h
  · cases h
  · rename_i texts hdecode
    rw [hkeep] at h
    obtain ⟨body, n, hbody, hcells, hwide, hbare⟩ := exists_body_of_ofLabeledRows h
    refine ⟨hwf, hkeep, ?_, fun hrows => (hbare hrows).2, ?_⟩
    · intro cells hmem c hc
      rw [hcells] at hmem
      rcases mem_cells_widen_ofRows hmem hc with rfl | ⟨row, hrow, hc⟩
      · exact Cell.alike_null_text
      · obtain ⟨fields, hfields, hsub⟩ := hbody row hrow
        obtain ⟨texts, _, rfl⟩ := List.mem_map.1 hfields
        obtain ⟨s, _, rfl⟩ := List.mem_map.1 (hsub hc)
        exact .refl _
    · cases hrows : keep.rows with
      | true => exact .inl (.inl rfl)
      | false =>
        cases texts with
        | nil =>
          -- without a first row there is nothing
          rw [hrows] at h
          cases h
          exact .inr ⟨rfl, rfl⟩
        | cons fields texts =>
          have hpos := List.length_pos_iff.2 (ne_nil_of_decode hdecode fields List.mem_cons_self)
          have hn : n = fields.length := (hbare hrows).1.trans (List.length_map _)
          exact .inl (.inr (by omega))

/-- A search picks rows, and the grid of some rows comes back as the whole grid does. -/
theorem Rereadable.searchWith (hg : Rereadable keep g) {q : Query}
    (h : g.searchWith q .row = .ok found) : Rereadable keep found := by
  have hwf := searchWith_wf hg.wf h
  obtain ⟨keys, n, _, rfl⟩ := exists_pick_of_searchWith h
  refine ⟨hwf, hg.headed, ?_, ?_, ?_⟩
  · intro cells hcells
    obtain ⟨row, hrow, rfl⟩ := List.mem_map.1 hcells
    exact hg.alike row.cells (List.mem_map_of_mem (mem_of_mem_picked hrow))
  · intro hrows label hlabel
    rw [labels_pick] at hlabel
    exact hg.unlabelled hrows label (mem_of_mem_picked hlabel)
  · refine hg.shaped.imp id (And.imp id ?_)
    rintro rfl
    simp [pick, pickRows, picked, empty]

/-! ## What comes back -/

/-- A grid with the labels of another and the texts of its cells. -/
structure Transcribes (back g : Grid) : Prop where
  cells : back.cells = g.texts
  labels : ∀ axis, back.labels axis = g.labels axis

/-- The text of a grid is read as a transcript of it. -/
theorem Rereadable.exists_transcript (hg : Rereadable keep g) (hl : l.Readable) :
    ∃ text, g.toCsv l keep = .ok text ∧ (text.toList.head? ≠ some '\ufeff' →
      ∃ back, ofCsv l.dialect keep false (encodeField text) = .ok back ∧ back.Transcribes g) := by
  rcases hg.shaped with hrecords | ⟨hrows, rfl⟩
  · obtain ⟨text, hwritten, hread⟩ := exists_text_of_records hl (hg.wf.mem_ofGrid_ne_nil hrecords)
    obtain ⟨back, hmade, hcells, hlabels⟩ := exists_ofLabeledRows_kept hg.wf (.inr hg.headed)
    refine ⟨text, ?_, fun hmark => ⟨back, ?_, hcells, fun axis => ?_⟩⟩
    · rw [toCsv]
      simp only [hwritten]
    · rw [ofCsv, hread hmark]
      exact hmade
    · rw [hlabels]
      cases axis with
      | row =>
        split
        · rfl
        · rename_i hrows
          exact (List.eq_replicate_iff.2 ⟨rfl, hg.unlabelled (Bool.not_eq_true _ ▸ hrows)⟩).symm
      | column => exact if_pos hg.headed
  · -- the header has no field, so it is not written and nothing is read
    obtain ⟨_, _⟩ := keep
    cases hrows
    cases hg.headed
    have hnothing : encodeField "" = [] := by decide +kernel
    have hdecode : decodeField [] = some "" := hnothing ▸ decodeField_encodeField ""
    refine ⟨"", ?_, fun _ => ⟨.empty, ?_, rfl, fun axis => ?_⟩⟩
    · have hbytes : write l ((ofGrid ⟨false, true⟩ .empty).map (·.map encodeField)) = [] := rfl
      rw [toCsv]
      simp only [hbytes, hdecode]
    · rw [hnothing]
      rfl
    · rfl

/-- A transcript has the text of the grid. -/
theorem Transcribes.toCsv_eq (h : back.Transcribes g) (l : Layout) (keep : CsvLabels) :
    back.toCsv l keep = g.toCsv l keep := by
  have hrows : ∀ g : Grid, g.rows.map (rowTexts keep) =
      List.zipWith (fun label cells => (if keep.rows then [label.getD ""] else []) ++
        cells.map Cell.asText) (g.labels .row) g.cells := by
    intro g
    rw [Grid.labels, Grid.cells, List.zipWith_map, List.zipWith_self]
    rfl
  have htexts : ∀ cells : List Cell, (cells.map fun cell => Cell.text cell.asText).map Cell.asText =
      cells.map Cell.asText := fun cells => List.map_map
  have hrecords : ofGrid keep back = ofGrid keep g := by
    rw [ofGrid, ofGrid, hrows, hrows, header, header, h.labels, h.labels, h.cells, texts,
      List.zipWith_map_right]
    simp only [htexts]
  rw [toCsv, toCsv, hrecords]

theorem Transcribes.cell?_eq (h : back.Transcribes g) (axis : Axis) (k c : Nat) :
    back.cell? axis k c = (g.cell? axis k c).map fun cell => .text cell.asText := by
  have hrow : ∀ r c, back.cell? .row r c = (g.cell? .row r c).map fun cell => .text cell.asText := by
    intro r c
    rw [cell?_eq_cells, cell?_eq_cells, h.cells, texts, List.getElem?_map]
    cases g.cells[r]? <;> simp
  cases axis with
  | row => exact hrow k c
  | column => exact hrow c k

theorem Transcribes.fieldsAgree (h : back.Transcribes g) (axis : Axis) :
    FieldsAgree g.view axis back.view axis := by
  have hlabels := h.labels axis.cross
  refine ⟨congrArg List.length hlabels.symm, fun l => ?_⟩
  exact congrArg (fun labels : List (Option String) => labels.findIdx? (· == some l)) hlabels.symm

theorem exists_mem_cells {k c : Nat} {cell : Cell} (h : g.cell? axis k c = some cell) :
    ∃ cells ∈ g.cells, cell ∈ cells := by
  have hrow : ∀ r c, g.cell? .row r c = some cell → ∃ cells ∈ g.cells, cell ∈ cells := by
    intro r c h
    rw [cell?_eq_cells] at h
    obtain ⟨cells, hcells, h⟩ := Option.bind_eq_some_iff.1 h
    exact ⟨cells, List.mem_of_getElem? hcells, List.mem_of_getElem? h⟩
  cases axis with
  | row => exact hrow k c h
  | column => exact hrow c k h

theorem Rereadable.linesAgree (hg : Rereadable keep g) (h : back.Transcribes g) (axis : Axis)
    (k : Nat) : LinesAgree g.view axis k back.view axis k := by
  refine ⟨?_, fun c => ?_⟩
  · show ((g.labels axis)[k]?).join = ((back.labels axis)[k]?).join
    rw [h.labels]
  · show Cell.Alike ((g.cell? axis k c).getD .null) ((back.cell? axis k c).getD .null)
    rw [h.cell?_eq]
    cases hcell : g.cell? axis k c with
    | none => exact .refl _
    | some cell =>
      obtain ⟨cells, hcells, hmem⟩ := exists_mem_cells hcell
      exact hg.alike cells hcells cell hmem

/-- A search that found a grid finds all of its transcript. -/
theorem Rereadable.searchWith_transcript (hfound : Rereadable keep found)
    (hback : back.Transcribes found) (hwf : back.WF) (hg : g.WF) {limit : Option Nat}
    {source : String} {q : Query} (hq : Query.parseWith limit source = .ok q) (hfree : q.KeyFree)
    (h : g.searchWith q axis = .ok found) : back.searchWith q axis = .ok back := by
  obtain ⟨b, hb, hall⟩ := hg.keeps_found hq hfree h
  have hfields := hback.fieldsAgree axis
  have hbback := (Query.bind_of_agree hfields q).symm.trans hb
  refine hwf.searchWith_eq_self hbback fun k hk => ?_
  rw [count, hback.labels] at hk
  rw [← BoundQuery.keeps_of_agree hq hb hbback hfields (hfound.linesAgree hback axis k) (.inl rfl)]
  exact hall k hk

end Grid

end Tabular
