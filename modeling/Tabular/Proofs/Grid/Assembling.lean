/-
Grids put together from a body of rows of any lengths and the texts that are to label their lines.
The body is filled up with nulls to the longest of its rows and of the labels, and then the columns
and the rows are labelled. With no more labels than rows this fails only when a text is there twice,
and otherwise each cell and each label is in its place. Rows that hold labels themselves, in the
first row or in the first cells, are taken apart into these pieces.
-/
import Mathlib.Data.List.Nodup
import Tabular.Proofs.Grid.Failure
import Tabular.Proofs.Grid.WholeLines

namespace Tabular

theorem getElem?_rightpad_of_lt {α : Type} {items : List α} {n j : Nat} (a : α)
    (hj : j < (items.rightpad n a).length) :
    (items.rightpad n a)[j]? = some (items[j]?.getD a) := by
  rw [← List.getD_eq_getElem?_getD, ← Grid.getD_rightpad items n j a, List.getD_eq_getElem?_getD,
    List.getElem?_eq_getElem hj]
  rfl

theorem normalizeLabel_normalizeLabel (label : Option String) :
    normalizeLabel (normalizeLabel label) = normalizeLabel label :=
  normalizeLabel_eq_self (normalizeLabel_ne_empty label)

namespace Grid

variable {g changed : Grid} {axis : Axis} {labels columns rows : List (Option String)}
  {body : List (List Cell)} {e : GridError}

/-! ## Texts that are there twice -/

/-- A text other than the empty one is there twice. -/
def Repeats (labels : List (Option String)) : Prop :=
  ∃ (j k : Nat) (l : String), j < k ∧ labels[j]? = some (some l) ∧
    labels[k]? = some (some l) ∧ l ≠ ""

theorem FirstRepeated.repeats {l : String} (h : FirstRepeated labels l) : Repeats labels := by
  obtain ⟨before, after, rfl, hne, hl, -⟩ := h
  obtain ⟨j, hj⟩ := List.mem_iff_getElem?.1 hl
  have hlt := (List.getElem?_eq_some_iff.1 hj).1
  refine ⟨j, before.length, l, hlt, ?_, ?_, hne⟩
  · rw [List.getElem?_append_left hlt, hj]
  · rw [List.getElem?_append_right (Nat.le_refl _), Nat.sub_self]
    rfl

theorem repeats_iff : Repeats labels ↔ ∃ l, FirstRepeated labels l := by
  refine ⟨?_, fun ⟨_, hl⟩ => hl.repeats⟩
  rintro ⟨j, k, l, hlt, hj, hk, hne⟩
  cases hfirst : firstRepeated [] ((labels.map normalizeLabel).filterMap id) with
  | some l => exact ⟨l, firstRepeated_stored_iff.1 hfirst⟩
  | none =>
    have hstored : ∀ i : Nat, labels[i]? = some (some l) →
        (labels.map normalizeLabel)[i]? = some (some l) := by
      intro i hi
      rw [List.getElem?_map, hi]
      exact congrArg some (normalizeLabel_eq_some_iff.2 ⟨rfl, hne⟩)
    have hunique := uniqueLabels_of_firstRepeated hfirst
    exact absurd (hunique.position_inj (hstored j hj) (hstored k hk)) (Nat.ne_of_lt hlt)

theorem repeats_iff_isSome :
    Repeats labels ↔ (firstRepeated [] ((labels.map normalizeLabel).filterMap id)).isSome := by
  simp only [repeats_iff, Option.isSome_iff_exists, firstRepeated_stored_iff]

instance (labels : List (Option String)) : Decidable (Repeats labels) :=
  decidable_of_iff _ repeats_iff_isSome.symm

theorem not_repeats_of_none (h : ∀ label ∈ labels, label = none) : ¬ Repeats labels := by
  rintro ⟨j, _, l, _, hj, _⟩
  cases h _ (List.mem_of_getElem? hj)

theorem not_repeats_nil : ¬ Repeats [] :=
  not_repeats_of_none (List.forall_mem_nil _)

theorem not_repeats_map_some {texts : List String} (h : texts.Nodup) :
    ¬ Repeats (texts.map some) := by
  rintro ⟨j, k, l, hlt, hj, hk, -⟩
  have hn : (texts.map some).Nodup := h.map fun _ _ => Option.some.inj
  have hj' := (List.getElem?_eq_some_iff.1 hj).1
  exact Nat.ne_of_lt hlt ((List.getElem?_inj hj' hn).1 (hj.trans hk.symm))

/-! ## Labels that fit -/

theorem setLabelsIfAny_map_normalizeLabel (axis : Axis) (labels : List (Option String))
    (g : Grid) : g.setLabelsIfAny axis (labels.map normalizeLabel) =
      g.setLabelsIfAny axis labels := by
  have hstored : (labels.map normalizeLabel).map normalizeLabel = labels.map normalizeLabel := by
    rw [List.map_map]
    exact List.map_congr_left fun label _ => normalizeLabel_normalizeLabel label
  rw [setLabelsIfAny, setLabelsIfAny, setLabels, setLabels, hstored, List.isEmpty_map]

/-- Of the reasons why labels cannot be set only one is left. -/
theorem setLabelsIfAny_eq_error_iff (hfit : labels.length ≤ g.count axis) :
    g.setLabelsIfAny axis labels = .error e ↔
      ∃ l, FirstRepeated labels l ∧ e = .duplicateLabel axis l := by
  by_cases hempty : labels = []
  · subst hempty
    exact iff_of_false nofun fun ⟨_, hl, _⟩ => not_repeats_nil hl.repeats
  · have hpos := Nat.lt_of_lt_of_le (List.length_pos_iff.2 hempty) hfit
    rw [setLabelsIfAny, if_neg (by rwa [List.isEmpty_iff]), setLabels_eq_error_iff]
    constructor
    · rintro (hzero | ⟨_, hmany⟩ | ⟨_, _, hl⟩)
      · exact absurd hzero (Nat.ne_of_gt hpos)
      · exact absurd hmany (Nat.not_lt.2 hfit)
      · exact ⟨_, hl, rfl⟩
    · rintro ⟨l, hl, rfl⟩
      exact .repeated hpos hfit hl

/-- Lines without labels get theirs, from the first line on. -/
theorem labels_setLabelsIfAny (hblank : g.labels axis = List.replicate (g.count axis) none)
    (h : g.setLabelsIfAny axis labels = .ok changed) :
    changed.labels axis = (labels.map normalizeLabel).rightpad (g.count axis) none := by
  by_cases hempty : labels = []
  · subst hempty
    cases h
    exact hblank
  · rw [setLabelsIfAny, if_neg (by rwa [List.isEmpty_iff])] at h
    unfold setLabels at h
    simp only at h
    split at h
    · cases h
    · split at h
      · cases h
      · rename_i hfit
        split at h
        · cases h
        · cases h
          refine labels_withLabels ?_
          rw [List.length_rightpad]
          omega

/-! ## Putting together -/

/-- The grid of a body with labels for its columns and rows. -/
def assemble (columns rows : List (Option String)) (body : List (List Cell)) :
    Except GridError Grid :=
  ((ofRows body).widen columns.length).setLabelsIfAny .column columns >>=
    (·.setLabelsIfAny .row rows)

/-- Why a body cannot get its labels. The columns come first. -/
inductive Refused (columns rows : List (Option String)) : GridError → Prop
  | column {l : String} : FirstRepeated columns l → Refused columns rows (.duplicateLabel .column l)
  | row {l : String} : ¬ Repeats columns → FirstRepeated rows l →
      Refused columns rows (.duplicateLabel .row l)

/-- Every cell of a body and every label is in its place. -/
structure Assembled (columns rows : List (Option String)) (body : List (List Cell)) (g : Grid) :
    Prop where
  wf : g.WF
  count_row : g.count .row = body.length
  count_column : (columns.length :: body.map List.length).max? = some (g.count .column)
  cell : ∀ i j, i < g.count .row → j < g.count .column →
    g.cell? .row i j = some ((body[i]?.bind (·[j]?)).getD .null)
  label_row : ∀ i, i < g.count .row → (g.labels .row)[i]? = some (rows[i]?.bind normalizeLabel)
  label_column : ∀ j, j < g.count .column →
    (g.labels .column)[j]? = some (columns[j]?.bind normalizeLabel)

theorem max?_lengths (n : Nat) (body : List (List Cell)) :
    (n :: body.map List.length).max? =
      some (max n (body.foldr (fun row width => max row.length width) 0)) := by
  rw [List.max?_cons']
  refine congrArg some ?_
  induction body generalizing n with
  | nil => exact (Nat.max_zero n).symm
  | cons row body ih => rw [List.map_cons, List.foldl_cons, ih, List.foldr_cons, Nat.max_assoc]

/-- Filling the rows up to the number of the labels does not change which length is the greatest. -/
theorem max?_lengths_rightpad (n : Nat) (body : List (List Cell)) :
    (n :: (body.map (·.rightpad n .null)).map List.length).max? =
      (n :: body.map List.length).max? := by
  rw [max?_lengths, max?_lengths]
  refine congrArg some ?_
  induction body with
  | nil => rfl
  | cons row body ih =>
    rw [List.map_cons, List.foldr_cons, List.foldr_cons, List.length_rightpad]
    omega

theorem labels_widen_ofRows (n : Nat) (body : List (List Cell)) (axis : Axis) :
    ((ofRows body).widen n).labels axis =
      List.replicate (((ofRows body).widen n).count axis) none := by
  refine List.eq_replicate_iff.2 ⟨rfl, fun label hlabel => ?_⟩
  cases axis with
  | row =>
    rw [labels_widen_row, labels_ofRows_row] at hlabel
    exact List.eq_of_mem_replicate hlabel
  | column =>
    rcases List.mem_append.1 hlabel with hlabel | hlabel <;> exact List.eq_of_mem_replicate hlabel

theorem count_widen_ofRows_row (n : Nat) (body : List (List Cell)) :
    ((ofRows body).widen n).count .row = body.length := by
  rw [count, labels_widen_row, labels_ofRows_row, List.length_replicate]

theorem count_widen_ofRows_column (n : Nat) (body : List (List Cell)) :
    (n :: body.map List.length).max? = some (((ofRows body).widen n).count .column) := by
  have hcount : ((ofRows body).widen n).count .column =
      max n (body.foldr (fun row width => max row.length width) 0) := by
    rw [count, labels, widen, ofRows, List.length_rightpad, List.length_replicate]
  rw [max?_lengths, hcount]

/-- The cells of a body, where nulls fill its rows up. -/
theorem cell?_widen_ofRows {n i j : Nat} (hi : i < body.length)
    (hj : j < ((ofRows body).widen n).count .column) :
    ((ofRows body).widen n).cell? .row i j = some ((body[i]?.bind (·[j]?)).getD .null) := by
  have hwf := widen_wf n (ofRows_wf body)
  have hrow : ((ofRows body).widen n).rows[i]? = some ⟨none, (body[i].rightpad
      (body.foldr (fun row width => max row.length width) 0) .null).rightpad n .null⟩ := by
    simp [widen, ofRows, hi]
  rw [← hwf.width _ (List.mem_of_getElem? hrow)] at hj
  simp only [cell?, hrow, List.getElem?_eq_getElem hi, Option.bind_some] at hj ⊢
  rw [getElem?_rightpad_of_lt Cell.null hj, ← List.getD_eq_getElem?_getD, getD_rightpad,
    List.getD_eq_getElem?_getD]

theorem getElem?_map_normalizeLabel {texts : List (Option String)} {n k : Nat}
    (hk : k < ((texts.map normalizeLabel).rightpad n none).length) :
    ((texts.map normalizeLabel).rightpad n none)[k]? = some (texts[k]?.bind normalizeLabel) := by
  rw [getElem?_rightpad_of_lt none hk, List.getElem?_map]
  cases texts[k]? <;> rfl

/-- Labelling leaves the cells as they are, and the labels of each axis alone for the other. -/
theorem parts_of_assemble (h : assemble columns rows body = .ok g) :
    g.WF ∧ g.cells = ((ofRows body).widen columns.length).cells ∧
      g.labels .row = (rows.map normalizeLabel).rightpad body.length none ∧
      g.labels .column = (columns.map normalizeLabel).rightpad
        (((ofRows body).widen columns.length).count .column) none := by
  obtain ⟨labelled, hcolumns, hrows⟩ := bind_eq_ok_iff.1 h
  have hwf := setLabelsIfAny_wf (widen_wf columns.length (ofRows_wf body)) hcolumns
  have hblank := labels_widen_ofRows columns.length body
  obtain ⟨hcells, -, hcross⟩ := setLabelsIfAny_frame hcolumns
  obtain ⟨hcells', -, hcross'⟩ := setLabelsIfAny_frame hrows
  have hother : labelled.labels .row = List.replicate body.length none := by
    rw [← count_widen_ofRows_row columns.length body]
    exact hcross.trans (hblank .row)
  have hcount : labelled.count .row = body.length := by
    rw [count, hother, List.length_replicate]
  refine ⟨setLabelsIfAny_wf hwf hrows, hcells'.trans hcells, ?_,
    hcross'.trans (labels_setLabelsIfAny (hblank .column) hcolumns)⟩
  rw [labels_setLabelsIfAny (by rwa [hcount]) hrows, hcount]

theorem assembled_of_assemble (hrows : rows.length ≤ body.length)
    (h : assemble columns rows body = .ok g) : Assembled columns rows body g := by
  obtain ⟨hwf, hcells, hrow, hcolumn⟩ := parts_of_assemble h
  have hwidth := count_widen_ofRows_column columns.length body
  have hcolumns := (List.max?_eq_some_iff.1 hwidth).2 _ List.mem_cons_self
  have hcountRow : g.count .row = body.length := by
    rw [count, hrow, List.length_rightpad, List.length_map, Nat.max_eq_left hrows]
  have hcountColumn : g.count .column = ((ofRows body).widen columns.length).count .column := by
    rw [count, hcolumn, List.length_rightpad, List.length_map, Nat.max_eq_left hcolumns]
  refine ⟨hwf, hcountRow, hcountColumn ▸ hwidth, ?_, ?_, ?_⟩
  · intro i j hi hj
    rw [hcountRow] at hi
    rw [hcountColumn] at hj
    rw [cell?_eq_cells, hcells, ← cell?_eq_cells]
    exact cell?_widen_ofRows hi hj
  · intro i hi
    rw [count, hrow] at hi
    rw [hrow]
    exact getElem?_map_normalizeLabel hi
  · intro j hj
    rw [count, hcolumn] at hj
    rw [hcolumn]
    exact getElem?_map_normalizeLabel hj

theorem Assembled.length_columns_le (h : Assembled columns rows body g) :
    columns.length ≤ g.count .column :=
  (List.max?_eq_some_iff.1 h.count_column).2 _ List.mem_cons_self

theorem Assembled.length_row_le (h : Assembled columns rows body g) {row : List Cell}
    (hrow : row ∈ body) : row.length ≤ g.count .column :=
  (List.max?_eq_some_iff.1 h.count_column).2 _ (List.mem_cons_of_mem _ (List.mem_map_of_mem hrow))

theorem Assembled.labels_column (h : Assembled columns rows body g) :
    g.labels .column = (columns.map normalizeLabel).rightpad (g.count .column) none := by
  have hlen : ((columns.map normalizeLabel).rightpad (g.count .column) none).length =
      g.count .column := by
    rw [List.length_rightpad, List.length_map, Nat.max_eq_left h.length_columns_le]
  refine List.ext_getElem? fun j => ?_
  by_cases hj : j < g.count .column
  · rw [h.label_column j hj, getElem?_map_normalizeLabel (hlen.symm ▸ hj)]
  · have hle := Nat.le_of_not_lt hj
    rw [List.getElem?_eq_none hle, List.getElem?_eq_none (hlen.symm ▸ hle)]

/-- Nulls at the end of the rows make no difference as long as the labels reach as far. -/
theorem Assembled.congr {body' : List (List Cell)} (h : Assembled columns rows body g)
    (hbody : body.map (·.rightpad columns.length .null) =
      body'.map (·.rightpad columns.length .null)) : Assembled columns rows body' g := by
  have hcell : ∀ (body : List (List Cell)) (i j : Nat),
      ((body.map (·.rightpad columns.length .null))[i]?.bind (·[j]?)).getD .null =
        (body[i]?.bind (·[j]?)).getD .null := by
    intro body i j
    rw [List.getElem?_map]
    cases body[i]? with
    | none => rfl
    | some row =>
      rw [Option.map_some, Option.bind_some, Option.bind_some, ← List.getD_eq_getElem?_getD,
        getD_rightpad, List.getD_eq_getElem?_getD]
  refine ⟨h.wf, ?_, ?_, ?_, h.label_row, h.label_column⟩
  · have hlen := congrArg List.length hbody
    rw [List.length_map, List.length_map] at hlen
    exact h.count_row.trans hlen
  · rw [← h.count_column, ← max?_lengths_rightpad columns.length body, hbody,
      max?_lengths_rightpad]
  · intro i j hi hj
    rw [h.cell i j hi hj, ← hcell body, hbody, hcell]

theorem assemble_eq_error_iff (hrows : rows.length ≤ body.length) :
    assemble columns rows body = .error e ↔ Refused columns rows e := by
  have hfit : columns.length ≤ ((ofRows body).widen columns.length).count .column := by
    have hmax := List.max?_eq_some_iff.1 (count_widen_ofRows_column columns.length body)
    exact hmax.2 _ List.mem_cons_self
  have hfit' : ∀ {labelled : Grid},
      ((ofRows body).widen columns.length).setLabelsIfAny .column columns = .ok labelled →
        rows.length ≤ labelled.count .row := by
    intro labelled hlabelled
    have hcross : labelled.labels .row = ((ofRows body).widen columns.length).labels .row :=
      (setLabelsIfAny_frame hlabelled).2.2
    rwa [count, hcross, ← count, count_widen_ofRows_row]
  rw [assemble, bind_eq_error_iff, setLabelsIfAny_eq_error_iff hfit]
  constructor
  · rintro (⟨l, hl, rfl⟩ | ⟨labelled, hlabelled, h⟩)
    · exact .column hl
    · obtain ⟨l, hl, rfl⟩ := (setLabelsIfAny_eq_error_iff (hfit' hlabelled)).1 h
      refine .row (fun hcolumns => ?_) hl
      -- a repeated column would have been refused before
      obtain ⟨m, hm⟩ := repeats_iff.1 hcolumns
      have herror := (setLabelsIfAny_eq_error_iff hfit).2 ⟨m, hm, rfl⟩
      rw [hlabelled] at herror
      cases herror
  · rintro (hl | ⟨hcolumns, hl⟩)
    · exact .inl ⟨_, hl, rfl⟩
    · cases hset : ((ofRows body).widen columns.length).setLabelsIfAny .column columns with
      | error e =>
        obtain ⟨m, hm, -⟩ := (setLabelsIfAny_eq_error_iff hfit).1 hset
        exact absurd hm.repeats hcolumns
      | ok labelled =>
        exact .inr ⟨labelled, rfl, (setLabelsIfAny_eq_error_iff (hfit' hset)).2 ⟨_, hl, rfl⟩⟩

theorem exists_refused_iff : (∃ e, Refused columns rows e) ↔ Repeats columns ∨ Repeats rows := by
  constructor
  · rintro ⟨_, hl | ⟨_, hl⟩⟩
    · exact .inl hl.repeats
    · exact .inr hl.repeats
  · intro h
    by_cases hcolumns : Repeats columns
    · obtain ⟨l, hl⟩ := repeats_iff.1 hcolumns
      exact ⟨_, .column hl⟩
    · obtain ⟨l, hl⟩ := repeats_iff.1 (h.resolve_left hcolumns)
      exact ⟨_, .row hcolumns hl⟩

/-- Without a repetition there is a grid. -/
theorem exists_assembled (hrows : rows.length ≤ body.length) (hcolumns : ¬ Repeats columns)
    (hdistinct : ¬ Repeats rows) :
    ∃ g, assemble columns rows body = .ok g ∧ Assembled columns rows body g := by
  cases h : assemble columns rows body with
  | ok g => exact ⟨g, rfl, assembled_of_assemble hrows h⟩
  | error e =>
    have hrefused := exists_refused_iff.1 ⟨e, (assemble_eq_error_iff hrows).1 h⟩
    exact (hrefused.elim hcolumns hdistinct).elim

/-! ## Rows that hold labels -/

/-- A row without its first cell, if the first column holds labels. -/
def unheaded (firstColumn : Bool) (row : List Cell) : List Cell :=
  if firstColumn then row.tail else row

/-- The first row, if it holds labels. -/
def headerCells (firstColumn firstRow : Bool) : List (List Cell) → List Cell
  | [] => []
  | first :: _ => if firstRow then unheaded firstColumn first else []

/-- The rows below the header, if there is one. -/
def rowsBelow (firstRow : Bool) : List (List Cell) → List (List Cell)
  | [] => []
  | first :: rest => if firstRow then rest else first :: rest

/-- What the header says for each column. -/
def columnHeads (firstColumn firstRow : Bool) (rows : List (List Cell)) : List (Option String) :=
  (headerCells firstColumn firstRow rows).map fun cell => some cell.asText

/-- What the first cells say for the rows below the header. A row without cells has none. -/
def rowHeads (firstColumn firstRow : Bool) (rows : List (List Cell)) : List (Option String) :=
  if firstColumn then (rowsBelow firstRow rows).map fun row => row.head?.map Cell.asText else []

/-- The cells that are no labels. -/
def bodyRows (firstColumn firstRow : Bool) (rows : List (List Cell)) : List (List Cell) :=
  (rowsBelow firstRow rows).map (unheaded firstColumn)

section

variable {firstColumn firstRow : Bool} {rows : List (List Cell)}

theorem length_rowHeads_le :
    (rowHeads firstColumn firstRow rows).length ≤ (bodyRows firstColumn firstRow rows).length := by
  rw [bodyRows, List.length_map, rowHeads]
  split
  · exact Nat.le_of_eq (List.length_map _)
  · exact Nat.zero_le _

/-- A cell that is not there labels as an empty one does. -/
theorem headerLabel_head? (row : List Cell) :
    headerLabel (row.head?.getD .null) = normalizeLabel (row.head?.map Cell.asText) := by
  cases row <;> rfl

theorem ofLabeledRows_eq_assemble (rows : List (List Cell)) (firstColumn firstRow : Bool) :
    ofLabeledRows rows firstColumn firstRow =
      assemble (columnHeads firstColumn firstRow rows) (rowHeads firstColumn firstRow rows)
        (bodyRows firstColumn firstRow rows) := by
  -- the pieces as they are cut off step by step
  have hbelow : (if firstRow then rows.drop 1 else rows) = rowsBelow firstRow rows := by
    cases firstRow <;> cases rows <;> rfl
  have hheader : (if firstColumn then (if firstRow then rows.head?.getD [] else []).drop 1
      else if firstRow then rows.head?.getD [] else []) =
        headerCells firstColumn firstRow rows := by
    cases firstColumn <;> cases firstRow <;> cases rows <;> simp [headerCells, unheaded]
  have hbody : (if firstColumn then (rowsBelow firstRow rows).map (·.drop 1)
      else rowsBelow firstRow rows) = bodyRows firstColumn firstRow rows := by
    cases firstColumn with
    | false => exact (List.map_id _).symm
    | true => simp [bodyRows, unheaded]
  have hcolumns : (headerCells firstColumn firstRow rows).map headerLabel =
      (columnHeads firstColumn firstRow rows).map normalizeLabel := List.map_map.symm
  have hrows : (if firstColumn then (rowsBelow firstRow rows).map fun row => row.head?.getD .null
      else []).map headerLabel = (rowHeads firstColumn firstRow rows).map normalizeLabel := by
    cases firstColumn with
    | false => rfl
    | true =>
      simp only [rowHeads, if_true, List.map_map]
      exact List.map_congr_left fun row _ => headerLabel_head? row
  have hlen : (headerCells firstColumn firstRow rows).length =
      (columnHeads firstColumn firstRow rows).length := (List.length_map _).symm
  unfold ofLabeledRows
  simp only [hbelow, hheader, hbody, hcolumns, hrows, setLabelsIfAny_map_normalizeLabel, hlen]
  rfl

/-- A grid of rows of any lengths is made unless a label is there twice, among the columns or among
the rows, and the first of these is the error. Otherwise every cell that is no label is in its
place, with null where a row has ended, and so is every label. -/
theorem ofLabeledRows_in_place (rows : List (List Cell)) (firstColumn firstRow : Bool) :
    (∀ e, ofLabeledRows rows firstColumn firstRow = .error e ↔
        Refused (columnHeads firstColumn firstRow rows) (rowHeads firstColumn firstRow rows) e) ∧
      ((∃ e, ofLabeledRows rows firstColumn firstRow = .error e) ↔
        Repeats (columnHeads firstColumn firstRow rows) ∨
          Repeats (rowHeads firstColumn firstRow rows)) ∧
      (¬ Repeats (columnHeads firstColumn firstRow rows) →
        ¬ Repeats (rowHeads firstColumn firstRow rows) →
          ∃ g, ofLabeledRows rows firstColumn firstRow = .ok g ∧
            Assembled (columnHeads firstColumn firstRow rows) (rowHeads firstColumn firstRow rows)
              (bodyRows firstColumn firstRow rows) g) := by
  have herror := fun e => @assemble_eq_error_iff (columnHeads firstColumn firstRow rows) _ _ e
    (@length_rowHeads_le firstColumn firstRow rows)
  rw [ofLabeledRows_eq_assemble]
  exact ⟨herror, (exists_congr herror).trans exists_refused_iff,
    exists_assembled length_rowHeads_le⟩

/-- The header is longer than the rows, and a row has no cells at all. -/
theorem ofLabeledRows_in_place_ragged :
    (∃ g, ofLabeledRows [[.text "corner", .text "a", .null, .integer 7], [.text "x", .text "1"], [],
        [.text "", .text "2", .text "3"]] true true = .ok g ∧
      Assembled [some "a", some "", some "7"] [some "x", none, some ""]
        [[.text "1"], [], [.text "2", .text "3"]] g) ∧
      ofLabeledRows [[.text "a"], [.text "a"]] true false = .error (.duplicateLabel .row "a") := by
  have hcolumns : ¬ Repeats (columnHeads true true [[.text "corner", .text "a", .null, .integer 7],
      [.text "x", .text "1"], [], [.text "", .text "2", .text "3"]]) := by
    decide
  have hrows : ¬ Repeats (rowHeads true true [[.text "corner", .text "a", .null, .integer 7],
      [.text "x", .text "1"], [], [.text "", .text "2", .text "3"]]) := by
    decide
  obtain ⟨_, _, hmade⟩ := ofLabeledRows_in_place [[.text "corner", .text "a", .null, .integer 7],
    [.text "x", .text "1"], [], [.text "", .text "2", .text "3"]] true true
  have hfirst : FirstRepeated (rowHeads true false [[.text "a"], [.text "a"]]) "a" :=
    firstRepeated_stored_iff.1 rfl
  have hrefused := (ofLabeledRows_in_place [[.text "a"], [.text "a"]] true false).1
  exact ⟨hmade hcolumns hrows, (hrefused _).2 (.row not_repeats_nil hfirst)⟩

end

end Grid

end Tabular
