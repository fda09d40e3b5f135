/-
Stores as they come about: made from rows, with or without labels, from CSV, JSON or a snapshot, and
then changed in any way, refused changes included. Their lists fit together after every run, which
is seen on the lists alone, and each of them holds a grid that comes about in the same way. So what
callers rely on holds in each: labels and positions determine each other, a key that has been found
is in range wherever it is used, and no request is out of range but that of a cell of a line by an
index that the line does not have.
-/
import Tabular.Proofs.Store.Simulation

namespace Tabular

/-! ## Changes with other tables -/

namespace Change

variable {Table Other : Type} {change : Change Table}

theorem others_map (turn : Table → Other) (change : Change Table) :
    (change.map turn).others = change.others.map turn := by
  cases change <;> rfl

theorem map_map (turn : Table → Other) (back : Other → Table) (change : Change Table) :
    (change.map turn).map back = change.map (back ∘ turn) := by
  cases change <;> rfl

/-- Only the other tables are turned. -/
theorem map_eq_self {turn : Table → Table} (h : ∀ other ∈ change.others, turn other = other) :
    change.map turn = change := by
  cases change with
  | merge axis other => exact congrArg (Change.merge axis) (h other List.mem_cons_self)
  | diff axis other => exact congrArg (Change.diff axis) (h other List.mem_cons_self)
  | intersect axis other => exact congrArg (Change.intersect axis) (h other List.mem_cons_self)
  | _ => rfl

end Change

namespace Store

/-! ## Reachable stores -/

/-- Every store that can be made, and every store that changes lead to from there. -/
inductive Reachable : Store → Prop
  | empty : Reachable .empty
  | ofRows (rows : List (List Cell)) : Reachable (.ofRows rows)
  | ofLabeledRows {rows : List (List Cell)} {firstColumn firstRow : Bool} {s : Store} :
      Store.ofLabeledRows rows firstColumn firstRow = .ok s → Reachable s
  | ofCsv {dialect : Csv.Dialect} {keep : CsvLabels} {infer : Bool} {bytes : List UInt8}
      {s : Store} : Store.ofCsv dialect keep infer bytes = .ok s → Reachable s
  | ofJson {keep : JsonLabels} {document : Json} {s : Store} :
      document.toStore keep = .ok s → Reachable s
  | ofSnapshot {snapshot : Snapshot} {s : Store} : snapshot.toStore = .ok s → Reachable s
  | change {s : Store} (change : Change Store) : Reachable s →
      (∀ other ∈ change.others, Reachable other) → Reachable (s.applyOrKeep change)
  | take {axis : Axis} {ref : LineRef} {cells : List Cell} {s rest : Store} : Reachable s →
      s.take axis ref = .ok (cells, rest) → Reachable rest
  | setCells {axis : Axis} {ref : LineRef} {key : Nat} {s : Store}
      (writes : List (LineRef × Cell)) : Reachable s → s.key axis ref = .ok key →
      Reachable (s.setCells axis key writes).1

namespace Reachable

variable {s : Store}

/-- A run of changes leads from a reachable store to another. -/
theorem run (h : s.Reachable) {changes : List (Change Store)}
    (ho : ∀ change ∈ changes, ∀ other ∈ change.others, other.Reachable) :
    (s.run changes).Reachable := by
  induction changes generalizing s with
  | nil => exact h
  | cons change changes ih =>
    exact ih (h.change change (ho change List.mem_cons_self))
      fun c hc => ho c (List.mem_cons_of_mem _ hc)

/-- The lists of every reachable store fit together. -/
theorem aligned (h : s.Reachable) : s.Aligned := by
  induction h with
  | empty => exact empty_aligned
  | ofRows rows => exact ofRows_aligned rows
  | ofLabeledRows h => exact (ensures_ofLabeledRows ..).of_eq_ok h
  | ofCsv h => exact (ensures_ofCsv ..).of_eq_ok h
  | ofJson h => exact (Json.ensures_toStore ..).of_eq_ok h
  | ofSnapshot h => exact (Snapshot.ensures_toStore _).of_eq_ok h
  | change change _ _ ih iho => exact ih.applyOrKeep change iho
  | take _ h ih => exact (ih.take ..).of_eq_ok h
  | setCells writes _ hk ih => exact (ih.setCells ((ensures_key ..).of_eq_ok hk) writes).1

end Reachable

/-! ## Grids in reachable stores -/

theorem answer_eq_ok_iff {x : Except GridError Grid} {s : Store} :
    answer x = .ok s ↔ ∃ g, x = .ok g ∧ ofGrid g = s := by
  rw [answer, mapError_eq_ok_iff, map_eq_ok_iff]

/-- The grid in a reachable store comes about as the store does. -/
theorem Reachable.toGrid {s : Store} (h : s.Reachable) : s.toGrid.Reachable := by
  -- where a grid is made in the same way, it is the grid in the store
  have hmade : ∀ {x : Except GridError Grid} {s : Store}, (∀ g, x = .ok g → g.Reachable) →
      answer x = .ok s → s.toGrid.Reachable := by
    intro x s hx hs
    obtain ⟨g, hg, rfl⟩ := answer_eq_ok_iff.1 hs
    rw [toGrid_ofGrid]
    exact hx g hg
  induction h with
  | empty => exact .empty
  | ofRows rows =>
    rw [ofRows_eq_ofGrid, toGrid_ofGrid]
    exact .ofRows rows
  | ofLabeledRows h => exact hmade (fun g => .ofLabeledRows) (ofLabeledRows_eq_answer .. ▸ h)
  | ofCsv h => exact hmade (fun g => .ofCsv) (ofCsv_eq_answer .. ▸ h)
  | ofJson h => exact hmade (fun g => .ofJson) (Json.toStore_eq_answer .. ▸ h)
  | ofSnapshot h => exact hmade (fun g => .ofSnapshot) (Snapshot.toStore_eq_answer _ ▸ h)
  | @change s change hs ho ih iho =>
    have hedit : (change.map Store.toGrid).map ofGrid = change := by
      rw [Change.map_map]
      exact Change.map_eq_self fun other hother => (ho other hother).aligned.ofGrid_toGrid
    have hothers : ∀ other ∈ (change.map Store.toGrid).others, other.Reachable := by
      rw [Change.others_map]
      exact List.forall_mem_map.2 iho
    have happly := applyOrKeep_ofGrid (change.map Store.toGrid) ih.wf fun g hg => (hothers g hg).wf
    rw [hedit, hs.aligned.ofGrid_toGrid] at happly
    rw [happly, toGrid_ofGrid]
    exact ih.edit _ hothers
  | @take axis ref cells s rest hs h ih =>
    rw [← hs.aligned.ofGrid_toGrid, take_ofGrid ih.wf, mapError_eq_ok_iff] at h
    obtain ⟨⟨cells, g⟩, htake, h⟩ := map_eq_ok_iff.1 h
    cases h
    rw [toGrid_ofGrid]
    exact ih.take htake
  | @setCells axis ref key s writes hs hk ih =>
    rw [← hs.aligned.ofGrid_toGrid, key_ofGrid_eq_ok_iff] at hk
    rw [← hs.aligned.ofGrid_toGrid, setCells_ofGrid ih.wf (Grid.lt_of_key hk), toGrid_ofGrid]
    exact ih.setCells writes hk

/-- The store of a reachable grid comes about as the grid does. -/
theorem ofGrid_reachable {g : Grid} (h : g.Reachable) : (ofGrid g).Reachable := by
  have hmade : ∀ {x : Except GridError Grid} {g : Grid}, x = .ok g → answer x = .ok (ofGrid g) :=
    fun hx => answer_eq_ok_iff.2 ⟨_, hx, rfl⟩
  induction h with
  | empty => exact .empty
  | ofRows rows => exact ofRows_eq_ofGrid rows ▸ .ofRows rows
  | ofLabeledRows h => exact .ofLabeledRows ((ofLabeledRows_eq_answer ..).trans (hmade h))
  | ofCsv h => exact .ofCsv ((ofCsv_eq_answer ..).trans (hmade h))
  | ofJson h => exact .ofJson ((Json.toStore_eq_answer ..).trans (hmade h))
  | ofSnapshot h => exact .ofSnapshot ((Snapshot.toStore_eq_answer _).trans (hmade h))
  | edit edit hg ho ih iho =>
    rw [← applyOrKeep_ofGrid edit hg.wf fun other hother => (ho other hother).wf]
    refine ih.change _ ?_
    rw [Change.others_map]
    exact List.forall_mem_map.2 iho
  | @take axis ref cells g rest hg h ih =>
    have htake : (ofGrid g).take axis ref = .ok (cells, ofGrid rest) := by
      rw [take_ofGrid hg.wf, h]
      rfl
    exact ih.take htake
  | @setCells axis ref key g writes hg hk ih =>
    have hset := ih.setCells writes (key_ofGrid_eq_ok_iff.2 hk)
    rw [setCells_ofGrid hg.wf (Grid.lt_of_key hk)] at hset
    exact hset

/-- The reachable stores are those of the reachable grids. -/
theorem reachable_iff {s : Store} : s.Reachable ↔ ∃ g : Grid, g.Reachable ∧ s = ofGrid g := by
  constructor
  · intro h
    exact ⟨s.toGrid, h.toGrid, h.aligned.ofGrid_toGrid.symm⟩
  · rintro ⟨g, hg, rfl⟩
    exact ofGrid_reachable hg

/-! ## What callers rely on -/

/-- The lists fit together, a label and its position find each other, and a key that has been found
gives access to the cells. Nothing that is asked of the store is out of range, whatever the
arguments, apart from the cell of a line at an index that the cross axis does not have. -/
structure Consistent (s : Store) : Prop where
  labelled : s.data.length = s.rowLabels.length
  rectangular : ∀ row ∈ s.data, row.length = s.columnLabels.length
  named : ∀ axis, some "" ∉ s.labels axis
  unique : ∀ (axis : Axis) (j k : Nat) (l : String), (s.labels axis)[j]? = some (some l) →
    (s.labels axis)[k]? = some (some l) → j = k
  lookup : ∀ (axis : Axis) (l : String) (k : Nat),
    s.key axis (.label l) = .ok k ↔ s.label axis (.position k) = .ok (some l)
  value : ∀ row column r c, s.key .row row = .ok r → s.key .column column = .ok c →
    ∃ cell, s.data[r]?.bind (·[c]?) = some cell ∧ s.value row column = .ok cell
  line : ∀ axis ref k, s.key axis ref = .ok k → ∃ line, s.line axis ref = .ok (k, line) ∧
    s.label axis ref = .ok line.label ∧ line.cells.length = s.count axis.cross ∧
      ∀ cross c, s.key axis.cross cross = .ok c →
        ∃ cell, line.cells[c]? = some cell ∧ s.cell axis k cross = .ok cell
  index : ∀ axis ref k c, s.key axis ref = .ok k →
    (s.cellAt axis k c = .error .outOfRange ↔ s.count axis.cross ≤ c)
  labels : ∀ axis ref, s.label axis ref ≠ .error .outOfRange
  lines : ∀ axis ref, s.line axis ref ≠ .error .outOfRange
  values : ∀ row column, s.value row column ≠ .error .outOfRange
  cells : ∀ axis ref k cross, s.key axis ref = .ok k → s.cell axis k cross ≠ .error .outOfRange
  changing : ∀ change : Change Store, (∀ other ∈ change.others, other.Reachable) →
    s.apply change ≠ .error .outOfRange
  taking : ∀ axis ref, s.take axis ref ≠ .error .outOfRange
  writing : ∀ axis ref k writes, s.key axis ref = .ok k →
    (s.setCells axis k writes).2 ≠ some .outOfRange

section

variable {s : Store} {axis : Axis} {ref : LineRef} {k : Nat}

theorem lt_of_key (h : s.key axis ref = .ok k) : k < s.count axis :=
  (ensures_key axis ref s).of_eq_ok h

theorem Aligned.value_of_keys (h : s.Aligned) {row column : LineRef} {r c : Nat}
    (hr : s.key .row row = .ok r) (hc : s.key .column column = .ok c) :
    ∃ cell, s.data[r]?.bind (·[c]?) = some cell ∧ s.value row column = .ok cell := by
  obtain ⟨cells, hrow, hwidth⟩ := h.exists_row (lt_of_key hr)
  have hlt : c < cells.length := hwidth ▸ lt_of_key hc
  refine ⟨cells[c], ?_, ?_⟩
  · rw [hrow]
    exact List.getElem?_eq_getElem hlt
  · rw [value, hr, hc]
    show Checked.get r s.data >>= Checked.get c = _
    rw [Checked.get_of_getElem? hrow]
    exact Checked.get_of_lt hlt

theorem Aligned.line_of_key (h : s.Aligned) (hk : s.key axis ref = .ok k) :
    ∃ line, s.line axis ref = .ok (k, line) ∧ s.label axis ref = .ok line.label ∧
      line.cells.length = s.count axis.cross ∧
        ∀ cross c, s.key axis.cross cross = .ok c →
          ∃ cell, line.cells[c]? = some cell ∧ s.cell axis k cross = .ok cell := by
  obtain ⟨line, hline, hlabel, hcells⟩ := h.exists_lineAt (lt_of_key hk)
  obtain ⟨cells, hfound, hlen, hcell⟩ := h.exists_cellsAt (lt_of_key hk)
  obtain rfl : line.cells = cells := Except.ok.inj (hcells.symm.trans hfound)
  refine ⟨line, ?_, ?_, hlen, fun cross c hc => ?_⟩
  · rw [Store.line, hk]
    show s.lineAt axis k >>= _ = _
    rw [hline]
    rfl
  · rw [Store.label, hk]
    exact hlabel
  · obtain ⟨cell, hget, hat⟩ := hcell c (lt_of_key hc)
    refine ⟨cell, hget, ?_⟩
    rw [Store.cell, hc]
    exact hat

/-! What is read under references is there, or a reference is refused. -/

theorem label_ne_outOfRange (axis : Axis) (ref : LineRef) (s : Store) :
    s.label axis ref ≠ .error .outOfRange := by
  refine ((ensures_key axis ref s).bind (r := fun _ => True) fun k hk => ?_).ne_outOfRange
  rw [Checked.get_of_lt hk]
  trivial

theorem Aligned.line_ne_outOfRange (h : s.Aligned) (axis : Axis) (ref : LineRef) :
    s.line axis ref ≠ .error .outOfRange := by
  refine ((ensures_key axis ref s).bind (r := fun _ => True) fun k hk => ?_).ne_outOfRange
  obtain ⟨line, hline, -⟩ := h.exists_lineAt hk
  rw [hline]
  trivial

theorem Aligned.cell_ne_outOfRange (h : s.Aligned) (hk : k < s.count axis) (cross : LineRef) :
    s.cell axis k cross ≠ .error .outOfRange := by
  refine ((ensures_key axis.cross cross s).bind (r := fun _ => True) fun c hc => ?_).ne_outOfRange
  obtain ⟨cell, hcell⟩ := h.exists_cellAt hk hc
  rw [hcell]
  trivial

theorem Aligned.value_ne_outOfRange (h : s.Aligned) (row column : LineRef) :
    s.value row column ≠ .error .outOfRange := by
  rw [value]
  cases hr : s.key .row row with
  | ok r => exact h.cell_ne_outOfRange (lt_of_key hr) column
  | error e =>
    have hrefused := ensures_key .row row s
    rw [hr] at hrefused
    exact fun hout => hrefused (Except.error.inj hout)

end

/-- Every reachable store is consistent. -/
theorem Reachable.consistent {s : Store} (h : s.Reachable) : s.Consistent := by
  have haligned := h.aligned
  have hwf := h.toGrid.wf
  have hlabels : ∀ axis, UniqueLabels (s.labels axis) := by
    intro axis
    rw [← haligned.ofGrid_toGrid, labels_ofGrid]
    exact hwf.labels axis
  constructor
  case labelled => exact haligned.height
  case rectangular => exact haligned.width
  case named => exact fun axis => (hlabels axis).named
  case unique => exact fun axis j k l hj hk => (hlabels axis).position_inj hj hk
  case lookup =>
    intro axis l k
    rw [← haligned.ofGrid_toGrid, key_ofGrid_eq_ok_iff, label_ofGrid, mapError_eq_ok_iff]
    exact hwf.key_iff_label
  case value => exact fun row column r c hr hc => haligned.value_of_keys hr hc
  case line => exact fun axis ref k hk => haligned.line_of_key hk
  case index =>
    intro axis ref k c hk
    rw [haligned.cellAt_eq_outOfRange_iff, or_iff_right (Nat.not_le_of_lt (lt_of_key hk))]
  case labels => exact fun axis ref => label_ne_outOfRange axis ref s
  case lines => exact haligned.line_ne_outOfRange
  case values => exact haligned.value_ne_outOfRange
  case cells => exact fun axis ref k cross hk => haligned.cell_ne_outOfRange (lt_of_key hk) cross
  case changing =>
    intro change ho
    exact (haligned.apply change fun other hother => (ho other hother).aligned).ne_outOfRange
  case taking => exact fun axis ref => (haligned.take axis ref).ne_outOfRange
  case writing => exact fun axis ref k writes hk => (haligned.setCells (lt_of_key hk) writes).2

/-- A run in which a change is refused, because its label is taken, and a merge adds a row, a column
and the label of that column. -/
theorem consistent_after_merge :
    run [.append .column [.text "1"] (some "a"), .append .column [] (some "a"),
          .merge .row ⟨[[.null, .text "2"]], [some "x"], [some "a", some "b"]⟩, .transpose] .empty =
        ⟨[[.text "1", .null], [.null, .text "2"]], [some "a", some "b"], [none, some "x"]⟩ ∧
      Consistent
        ⟨[[.text "1", .null], [.null, .text "2"]], [some "a", some "b"], [none, some "x"]⟩ := by
  have hmade : Store.ofLabeledRows [[.null, .text "a", .text "b"], [.text "x", .null, .text "2"]]
      true true = .ok ⟨[[.null, .text "2"]], [some "x"], [some "a", some "b"]⟩ := rfl
  have hrun : run [.append .column [.text "1"] (some "a"), .append .column [] (some "a"),
      .merge .row ⟨[[.null, .text "2"]], [some "x"], [some "a", some "b"]⟩, .transpose] .empty =
        ⟨[[.text "1", .null], [.null, .text "2"]], [some "a", some "b"], [none, some "x"]⟩ := rfl
  refine ⟨hrun, hrun ▸ Reachable.consistent (Reachable.empty.run ?_)⟩
  simp only [List.forall_mem_cons, Change.others]
  exact ⟨List.forall_mem_nil _, List.forall_mem_nil _,
    ⟨.ofLabeledRows hmade, List.forall_mem_nil _⟩, List.forall_mem_nil _, List.forall_mem_nil _⟩

end Store

end Tabular
