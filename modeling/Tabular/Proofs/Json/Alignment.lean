/-
Reading a document into a grid puts the members of its rows under their keys. The columns are the
keys in the order in which they are first met, and a row of members becomes the row of the values
under these columns, with null where it has none; what comes in later rows only adds columns on the
right. Rows without keys stand as they are, from the first column on. The labels never repeat, so
only a document without rows is refused.
-/
import Tabular.Proofs.Grid.Assembling
import Tabular.Proofs.Json.DistinctKeys
import Tabular.Proofs.Json.Import

namespace Tabular

namespace Json

variable {members : List (String × Json)} {columns past : List String} {key : String}
  {byKey : Bool} {row v : Json} {rows : List Json}

/-! ## Rows -/

/-- The cells of a row without regard to its keys. -/
def inOrder : Json → List Cell
  | .object members => members.map fun (_, v) => v.toCell
  | .array items => items.map toCell
  | scalar => [scalar.toCell]

/-- The cells of a row, where members are under their keys if they are to be. -/
def cellsOf (byKey : Bool) (columns : List String) : Json → List Cell
  | .object members => if byKey then cellsUnder members columns else inOrder (.object members)
  | row => inOrder row

/-- The keys that a row makes known. -/
def keysOf (byKey : Bool) : Json → List String
  | .object members => if byKey then members.map (·.1) else []
  | _ => []

theorem rowCells_eq (hrow : row.DistinctKeys) :
    rowCells byKey past.eraseDups row = ((past ++ keysOf byKey row).eraseDups,
      cellsOf byKey (past ++ keysOf byKey row).eraseDups row) := by
  cases row with
  | object members =>
    cases byKey with
    | false => simp [rowCells, keysOf, cellsOf, inOrder]
    | true =>
      have hfold := @foldl_placeMember members [] past hrow.nodup
      rwa [cellsUnder_nil] at hfold
  | null | bool | integer | float | string | array =>
    simp only [keysOf, List.append_nil, rowCells, cellsOf, inOrder]

/-! ## Columns that are added later -/

/-- Under more columns members are what they were, followed by nulls. -/
theorem cellsUnder_append_of_disjoint {more : List String}
    (h : ∀ column ∈ more, column ∉ members.map (·.1)) :
    cellsUnder members (columns ++ more) =
      (cellsUnder members columns).rightpad (columns ++ more).length .null := by
  have hmore : (columns ++ more).length - (cellsUnder members columns).length = more.length := by
    rw [cellsUnder, List.length_map, List.length_append, Nat.add_sub_cancel_left]
  rw [cellsUnder_append, cellsUnder_of_disjoint h, List.rightpad, hmore]

/-- Under columns that come after its keys a row is what it was, but for nulls after it. -/
theorem rightpad_cellsOf {added : List String} (h : ∀ column ∈ added, column ∉ keysOf byKey row) :
    (cellsOf byKey columns row).rightpad (columns ++ added).length .null =
      (cellsOf byKey (columns ++ added) row).rightpad (columns ++ added).length .null := by
  cases row with
  | object members =>
    cases byKey with
    | false => rfl
    | true =>
      have hcells : cellsOf true (columns ++ added) (.object members) =
          (cellsOf true columns (.object members)).rightpad (columns ++ added).length .null :=
        cellsUnder_append_of_disjoint h
      rw [hcells, rightpad_rightpad_of_le (Nat.le_refl _)]
  | null | bool | integer | float | string | array => rfl

/-- All rows are placed; the columns are the keys that were known before or are met in them. -/
theorem allCells_eq (hrows : ∀ row ∈ rows, row.DistinctKeys) :
    ∃ cells, allCells byKey past.eraseDups rows =
        ((past ++ rows.flatMap (keysOf byKey)).eraseDups, cells) ∧
      cells.map (·.rightpad (past ++ rows.flatMap (keysOf byKey)).eraseDups.length .null) =
        (rows.map (cellsOf byKey (past ++ rows.flatMap (keysOf byKey)).eraseDups)).map
          (·.rightpad (past ++ rows.flatMap (keysOf byKey)).eraseDups.length .null) := by
  induction rows generalizing past with
  | nil => exact ⟨[], by rw [List.flatMap_nil, List.append_nil]; rfl, rfl⟩
  | cons row rows ih =>
    rw [List.forall_mem_cons] at hrows
    obtain ⟨cells, hcells, hpad⟩ := @ih (past ++ keysOf byKey row) hrows.2
    rw [List.flatMap_cons, ← List.append_assoc]
    refine ⟨_, allCells_cons (rowCells_eq hrows.1) hcells, ?_⟩
    obtain ⟨added, hfinal, hnew⟩ :=
      exists_eraseDups_append (past ++ keysOf byKey row) (rows.flatMap (keysOf byKey))
    have hrow := @rightpad_cellsOf (past ++ keysOf byKey row).eraseDups byKey row added
      fun column hcolumn hkey => hnew column hcolumn (List.mem_append_right past hkey)
    rw [List.map_cons, List.map_cons, List.map_cons, hpad, hfinal, hrow]

/-! ## Grids of documents -/

/-- A document without rows. -/
def Blank (v : Json) : Prop :=
  v = .null ∨ v = .array [] ∨ v = .object []

theorem topLevel_eq_nil_iff : topLevel v = [] ↔ v.Blank := by
  cases v <;> simp [topLevel, Blank]

/-- The keys of some rows, in the order in which they are first met. -/
def keysMet (byKey : Bool) (rows : List Json) : List String :=
  (rows.flatMap (keysOf byKey)).eraseDups

theorem mem_keysMet_iff : key ∈ keysMet byKey rows ↔ ∃ row ∈ rows, key ∈ keysOf byKey row := by
  rw [keysMet, List.mem_eraseDups, List.mem_flatMap]

theorem keysMet_false (rows : List Json) : keysMet false rows = [] := by
  refine List.eq_nil_iff_forall_not_mem.2 fun key hkey => ?_
  obtain ⟨row, _, hkey⟩ := mem_keysMet_iff.1 hkey
  cases row <;> cases hkey

/-- The rows of a document. -/
def rowsOf (v : Json) : List Json :=
  (topLevel v).map (·.2)

theorem DistinctKeys.of_mem_topLevel (hv : v.DistinctKeys) {entry : Option String × Json}
    (h : entry ∈ topLevel v) : entry.2.DistinctKeys := by
  cases v with
  | null => cases h
  | array items =>
    obtain ⟨item, hitem, rfl⟩ := List.mem_map.1 h
    exact hv.of_mem_items hitem
  | object members =>
    obtain ⟨member, hmember, rfl⟩ := List.mem_map.1 h
    exact hv.of_mem_members hmember
  | bool | integer | float | string =>
    obtain rfl := List.mem_singleton.1 h
    exact hv

theorem DistinctKeys.of_mem_rowsOf (hv : v.DistinctKeys) : ∀ row ∈ v.rowsOf, row.DistinctKeys :=
  List.forall_mem_map.2 fun _ => hv.of_mem_topLevel

/-- The keys of the rows never repeat: those of an object are distinct, and others have none. -/
theorem DistinctKeys.not_repeats_topLevel (hv : v.DistinctKeys) :
    ¬ Grid.Repeats ((topLevel v).map (·.1)) := by
  cases v with
  | object members =>
    have hkeys : (topLevel (.object members)).map (·.1) = (members.map (·.1)).map some := by
      rw [topLevel, List.map_map, List.map_map]
      rfl
    rw [hkeys]
    exact Grid.not_repeats_map_some hv.nodup
  | array items =>
    refine Grid.not_repeats_of_none ?_
    rw [topLevel, List.map_map]
    exact List.forall_mem_map.2 fun _ _ => rfl
  | null => exact Grid.not_repeats_nil
  | bool | integer | float | string =>
    exact Grid.not_repeats_of_none (List.forall_mem_singleton.2 rfl)

/-- A document with rows becomes the grid of its rows under the keys that are met in them. -/
theorem exists_assembled_toGrid (keep : JsonLabels) (hv : v.DistinctKeys) (hrows : ¬ v.Blank) :
    ∃ g, v.toGrid keep = .ok g ∧
      Grid.Assembled ((keysMet keep.columns v.rowsOf).map some)
        (if keep.rows then (topLevel v).map (·.1) else [])
        (v.rowsOf.map (cellsOf keep.columns (keysMet keep.columns v.rowsOf))) g := by
  obtain ⟨cells, hcells, hpad⟩ := @allCells_eq [] keep.columns v.rowsOf hv.of_mem_rowsOf
  have hgrid := toGrid_of_rows rfl (fun hnil => hrows (topLevel_eq_nil_iff.1 hnil)) hcells
  have hcount : cells.length = (topLevel v).length := by
    simpa [rowsOf] using congrArg List.length hpad
  have hlen : (if keep.rows then (topLevel v).map (·.1) else []).length ≤ cells.length := by
    split
    · exact Nat.le_of_eq ((List.length_map _).trans hcount.symm)
    · exact Nat.zero_le _
  have hkeys : ¬ Grid.Repeats (if keep.rows then (topLevel v).map (·.1) else []) := by
    split
    · exact hv.not_repeats_topLevel
    · exact Grid.not_repeats_nil
  have hcolumns : ¬ Grid.Repeats ((keysMet keep.columns v.rowsOf).map some) :=
    Grid.not_repeats_map_some (nodup_eraseDups _)
  obtain ⟨g, hg, hassembled⟩ := Grid.exists_assembled hlen hcolumns hkeys
  rw [Grid.assemble, List.length_map] at hg
  refine ⟨g, hgrid.trans hg, hassembled.congr ?_⟩
  rw [List.length_map]
  exact hpad

/-! ## What is where -/

/-- Every row of a document is a row of the grid, under its key if the keys of the rows are kept.
Where the keys of the columns are kept, members are under their labels, which stand in the order in
which they are first met, and there is null under every other label; other rows are read from the
first column on. -/
structure Imported (keep : JsonLabels) (entries : List (Option String × Json)) (g : Grid) :
    Prop where
  wf : g.WF
  count_row : g.count .row = entries.length
  member : keep.columns = true → ∀ (i : Nat) (rowKey : Option String)
    (members : List (String × Json)) (k : String) (x : Json),
    entries[i]? = some (rowKey, .object members) → (k, x) ∈ members → k ≠ "" →
      g.value (.position i) (.label k) = .ok x.toCell
  missing : keep.columns = true → ∀ (i : Nat) (rowKey : Option String)
    (members : List (String × Json)) (k : String),
    entries[i]? = some (rowKey, .object members) → some k ∈ g.labels .column →
      k ∉ members.map (·.1) → g.value (.position i) (.label k) = .ok .null
  positional : ∀ (i : Nat) (rowKey : Option String) (row : Json), entries[i]? = some (rowKey, row) →
    (keep.columns = true → ∀ members, row ≠ .object members) →
      row.inOrder.length ≤ g.count .column ∧
        ∀ j, j < g.count .column → g.cell? .row i j = some (row.inOrder[j]?.getD .null)
  labels_column : (g.labels .column).filterMap id =
    (keysMet keep.columns (entries.map (·.2))).filter (· ≠ "")
  unlabelled : keep.columns = false → ∀ label ∈ g.labels .column, label = none
  label_row : ∀ (i : Nat) (rowKey : Option String) (row : Json), entries[i]? = some (rowKey, row) →
    (g.labels .row)[i]? = some (if keep.rows then normalizeLabel rowKey else none)

section

variable {g : Grid} {texts : List (Option String)} {keep : JsonLabels}
  {entries : List (Option String × Json)} {i j : Nat}

theorem cellsOf_eq_inOrder (h : byKey = true → ∀ members, row ≠ .object members) :
    cellsOf byKey columns row = row.inOrder := by
  cases row with
  | object members =>
    cases byKey with
    | false => rfl
    | true => exact absurd rfl (h rfl members)
  | null | bool | integer | float | string | array => rfl

theorem filterMap_stored (columns : List String) :
    ((columns.map some).map normalizeLabel).filterMap id = columns.filter (· ≠ "") := by
  rw [List.filterMap_map, List.filterMap_map, ← List.filterMap_eq_filter]
  refine List.filterMap_congr fun column _ => ?_
  simp [normalizeLabel, Option.filter, Option.guard]

/-- The columns carry their keys, except for the empty one. -/
theorem getElem?_labels_column_iff {body : List (List Cell)}
    (h : Grid.Assembled (columns.map some) texts body g) :
    (g.labels .column)[j]? = some (some key) ↔ columns[j]? = some key ∧ key ≠ "" := by
  have hlabel : j < g.count .column → ((g.labels .column)[j]? = some (some key) ↔
      columns[j]? = some key ∧ key ≠ "") := by
    intro hj
    rw [h.label_column j hj, List.getElem?_map]
    cases columns[j]? with
    | none => simp
    | some column => simp [normalizeLabel_eq_some_iff]
  constructor
  · intro hj
    exact (hlabel (List.getElem?_eq_some_iff.1 hj).1).1 hj
  · intro hj
    have hle := h.length_columns_le
    rw [List.length_map] at hle
    exact (hlabel (Nat.lt_of_lt_of_le (List.getElem?_eq_some_iff.1 hj.1).1 hle)).2 hj

/-- A row of members holds under every label the value that it has there, and null if it has
none. -/
theorem value_of_assembled
    (h : Grid.Assembled (columns.map some) texts (rows.map (cellsOf true columns)) g)
    (hi : rows[i]? = some (.object members)) (hj : (g.labels .column)[j]? = some (some key)) :
    g.value (.position i) (.label key) = .ok (((members.lookup key).map toCell).getD .null) := by
  have hrow : i < g.count .row := by
    rw [h.count_row, List.length_map]
    exact (List.getElem?_eq_some_iff.1 hi).1
  have hcolumn := ((getElem?_labels_column_iff h).1 hj).1
  have hkey : g.key .column (.label key) = .ok j := h.wf.key_eq_ok_iff.2 hj
  obtain ⟨cell, hcell, hvalue⟩ := h.wf.value_of_keys (Grid.key_position .row hrow) hkey
  rw [h.cell i j hrow (List.getElem?_eq_some_iff.1 hj).1, List.getElem?_map, hi] at hcell
  rw [hvalue, ← Option.some.inj hcell]
  simp [cellsOf, cellsUnder, hcolumn]

theorem getElem?_rows {rowKey : Option String} (h : entries[i]? = some (rowKey, row)) :
    (entries.map (·.2))[i]? = some row := by
  rw [List.getElem?_map, h]
  rfl

theorem lt_count_of_assembled {cells : Json → List Cell} {entry : Option String × Json}
    (h : Grid.Assembled (columns.map some) texts ((entries.map (·.2)).map cells) g)
    (hi : entries[i]? = some entry) : i < g.count .row := by
  rw [h.count_row, List.length_map, List.length_map]
  exact (List.getElem?_eq_some_iff.1 hi).1

theorem imported_of_assembled (hrows : ∀ row ∈ entries.map (·.2), row.DistinctKeys)
    (h : Grid.Assembled ((keysMet keep.columns (entries.map (·.2))).map some)
      (if keep.rows then entries.map (·.1) else [])
      ((entries.map (·.2)).map
        (cellsOf keep.columns (keysMet keep.columns (entries.map (·.2))))) g) :
    Imported keep entries g where
  wf := h.wf
  count_row := by rw [h.count_row, List.length_map, List.length_map]
  member := by
    intro hkeep i rowKey members k x hi hx hne
    rw [hkeep] at h
    have hmem := List.mem_of_getElem? (getElem?_rows hi)
    have hkey : k ∈ keysMet true (entries.map (·.2)) :=
      mem_keysMet_iff.2 ⟨_, hmem, List.mem_map_of_mem hx⟩
    obtain ⟨j, hj⟩ := List.mem_iff_getElem?.1 hkey
    have hlabel := (getElem?_labels_column_iff h).2 ⟨hj, hne⟩
    rw [value_of_assembled h (getElem?_rows hi) hlabel, lookup_eq_some (hrows _ hmem).nodup hx]
    rfl
  missing := by
    intro hkeep i rowKey members k hi hk hnew
    rw [hkeep] at h
    obtain ⟨j, hj⟩ := List.mem_iff_getElem?.1 hk
    rw [value_of_assembled h (getElem?_rows hi) hj, lookup_eq_none hnew]
    rfl
  positional := by
    intro i rowKey row hi hpositional
    have hbody : ((entries.map (·.2)).map (cellsOf keep.columns
        (keysMet keep.columns (entries.map (·.2)))))[i]? = some row.inOrder := by
      rw [List.getElem?_map, getElem?_rows hi, Option.map_some, cellsOf_eq_inOrder hpositional]
    refine ⟨h.length_row_le (List.mem_of_getElem? hbody), fun j hj => ?_⟩
    rw [h.cell i j (lt_count_of_assembled h hi) hj, hbody]
    rfl
  labels_column := by
    -- the columns that fill the axis up have no label
    rw [h.labels_column, List.rightpad, List.filterMap_append, filterMap_stored,
      List.filterMap_replicate_of_none rfl, List.append_nil]
  unlabelled := by
    intro hkeep label hlabel
    rw [h.labels_column, hkeep, keysMet_false] at hlabel
    exact List.eq_of_mem_replicate hlabel
  label_row := by
    intro i rowKey row hi
    rw [h.label_row i (lt_count_of_assembled h hi)]
    cases keep.rows with
    | false => rfl
    | true =>
      rw [if_pos rfl, if_pos rfl, List.getElem?_map, hi]
      rfl

theorem toGrid_of_blank (h : v.Blank) : v.toGrid keep = .error .noData := by
  rw [toGrid, topLevel_eq_nil_iff.2 h]
  rfl

/-- A document with rows is imported. -/
theorem exists_imported (keep : JsonLabels) (hv : v.DistinctKeys) (hrows : ¬ v.Blank) :
    ∃ g, v.toGrid keep = .ok g ∧ Imported keep (topLevel v) g := by
  obtain ⟨g, hg, hassembled⟩ := exists_assembled_toGrid keep hv hrows
  exact ⟨g, hg, imported_of_assembled hv.of_mem_rowsOf hassembled⟩

/-- Only a document without rows is refused, and with the error that says so. Every other one
becomes a grid in which the members of the rows are aligned by their keys. -/
theorem toGrid_aligns (keep : JsonLabels) (hv : v.DistinctKeys) :
    (∀ e, v.toGrid keep = .error e ↔ v.Blank ∧ e = .noData) ∧
      (¬ v.Blank → ∃ g, v.toGrid keep = .ok g ∧ Imported keep (topLevel v) g) := by
  refine ⟨fun e => ?_, exists_imported keep hv⟩
  by_cases hblank : v.Blank
  · rw [toGrid_of_blank hblank, Except.error.injEq]
    exact ⟨fun h => ⟨hblank, h.symm⟩, fun h => h.2.symm⟩
  · obtain ⟨g, hg, -⟩ := exists_imported keep hv hblank
    rw [hg]
    exact iff_of_false nofun fun h => hblank h.1

/-- A row of an array and a row of a number stand between two rows of members, the second of which
has another key and has the known one later. The empty key makes a column without a label. -/
theorem toGrid_aligns_mixed_rows :
    toGrid ⟨true, true⟩ (.object [("r", .object [("a", .string "1"), ("", .bool true)]),
        ("", .array [.string "x"]), ("s", .string "y"),
        ("t", .object [("b", .string "2"), ("a", .string "3")])]) =
      .ok ⟨[⟨some "r", [.text "1", .bool true, .null]⟩, ⟨none, [.text "x", .null, .null]⟩,
        ⟨some "s", [.text "y", .null, .null]⟩, ⟨some "t", [.text "3", .null, .text "2"]⟩],
          [some "a", none, some "b"]⟩ ∧
      Imported ⟨true, true⟩ [(some "r", .object [("a", .string "1"), ("", .bool true)]),
        (some "", .array [.string "x"]), (some "s", .string "y"),
        (some "t", .object [("b", .string "2"), ("a", .string "3")])]
        ⟨[⟨some "r", [.text "1", .bool true, .null]⟩, ⟨none, [.text "x", .null, .null]⟩,
          ⟨some "s", [.text "y", .null, .null]⟩, ⟨some "t", [.text "3", .null, .text "2"]⟩],
            [some "a", none, some "b"]⟩ := by
  have hmade : toGrid ⟨true, true⟩ (.object [("r", .object [("a", .string "1"), ("", .bool true)]),
      ("", .array [.string "x"]), ("s", .string "y"),
      ("t", .object [("b", .string "2"), ("a", .string "3")])]) =
    .ok ⟨[⟨some "r", [.text "1", .bool true, .null]⟩, ⟨none, [.text "x", .null, .null]⟩,
      ⟨some "s", [.text "y", .null, .null]⟩, ⟨some "t", [.text "3", .null, .text "2"]⟩],
        [some "a", none, some "b"]⟩ := rfl
  have hv : DistinctKeys (.object [("r", .object [("a", .string "1"), ("", .bool true)]),
      ("", .array [.string "x"]), ("s", .string "y"),
      ("t", .object [("b", .string "2"), ("a", .string "3")])]) := by
    refine .object (by decide) ?_
    simp only [List.forall_mem_cons]
    refine ⟨.object (by decide) ?_, .array ?_, .string _, .object (by decide) ?_, nofun⟩
    · simp only [List.forall_mem_cons]
      exact ⟨.string _, .bool _, nofun⟩
    · exact List.forall_mem_singleton.2 (.string _)
    · simp only [List.forall_mem_cons]
      exact ⟨.string _, .string _, nofun⟩
  obtain ⟨g, hg, himported⟩ := (toGrid_aligns ⟨true, true⟩ hv).2 (by simp [Blank])
  obtain rfl := Except.ok.inj (hg.symm.trans hmade)
  exact ⟨hmade, himported⟩

/-- The text of a document is read the same way, as it has no other keys than distinct ones. -/
theorem exists_imported_of_parse? {text : String} (keep : JsonLabels)
    (h : parse? text = some v) (hrows : ¬ v.Blank) :
    ∃ g, Grid.ofJsonText keep text = .ok g ∧ Imported keep (topLevel v) g := by
  rw [Grid.ofJsonText, h]
  exact exists_imported keep (distinctKeys_of_parse? h) hrows

end

end Json

end Tabular
