/-
What the document of a grid holds of it: every cell, in the place of its row and its column, as
long as no label that is kept is the position of an unlabelled line. A row label that is such a
position takes the place of the other row, which is lost, and a column label does so in every row.
-/
import Tabular.Proofs.Grid.Labelling
import Tabular.Proofs.Json.Level

namespace Tabular.Json

variable {g : Grid} {keep : JsonLabels}

/-- The values of a document, row by row. -/
def fields? (document : Json) : Option (List (List Json)) :=
  document.values?.bind (·.mapM values?)

/-- The value of a row of a grid. -/
def ofRow (keep : JsonLabels) (g : Grid) (cells : List Cell) : Json :=
  level ((levelKeys keep.columns (g.labels .column)).zip (cells.map ofCell))

theorem ofGrid_eq (keep : JsonLabels) (g : Grid) : ofGrid keep g =
    level ((levelKeys keep.rows (g.labels .row)).zip (g.cells.map (ofRow keep g))) := rfl

theorem length_labels_row (keep : JsonLabels) (g : Grid) :
    (g.labels .row).length = (g.cells.map (ofRow keep g)).length := by
  rw [List.length_map, Grid.length_cells, Grid.count]

theorem length_labels_column (hg : g.WF) {cells : List Cell} (hcells : cells ∈ g.cells) :
    (g.labels .column).length = (cells.map ofCell).length := by
  rw [List.length_map, hg.cells_width cells hcells, Grid.count]

theorem values?_ofRow_eq_some_iff (hg : g.WF) {cells : List Cell} (hcells : cells ∈ g.cells) :
    (ofRow keep g cells).values? = some (cells.map ofCell) ↔
      ¬ Clash keep.columns (g.labels .column) := by
  have hlen := length_labels_column hg hcells
  rw [← nodup_levelKeys_iff (hg.labels .column), ← map_fst_zip_levelKeys keep.columns hlen,
    ← values?_level_eq_some_iff, map_snd_zip_levelKeys keep.columns hlen]
  rfl

theorem forall_values?_ofRow_iff (hg : g.WF) :
    (∀ cells ∈ g.cells, (ofRow keep g cells).values? = some (cells.map ofCell)) ↔
      (0 < g.count .row → ¬ Clash keep.columns (g.labels .column)) := by
  constructor
  · intro hall hpos
    rw [← Grid.length_cells] at hpos
    have hfirst := List.getElem_mem hpos
    exact (values?_ofRow_eq_some_iff hg hfirst).1 (hall _ hfirst)
  · intro hclear cells hcells
    refine (values?_ofRow_eq_some_iff hg hcells).2 (hclear ?_)
    rw [← Grid.length_cells]
    exact List.length_pos_of_mem hcells

/-- The document of a grid holds the value of every cell, row by row in the order of the columns,
unless a row label or, where there are rows, a column label clashes with a position. -/
theorem ofGrid_holds_cells_iff (hg : g.WF) (keep : JsonLabels) :
    (ofGrid keep g).fields? = some (g.cells.map (·.map ofCell)) ↔
      ¬ Clash keep.rows (g.labels .row) ∧
        (0 < g.count .row → ¬ Clash keep.columns (g.labels .column)) := by
  have hlen := length_labels_row keep g
  have hkeys := map_fst_zip_levelKeys keep.rows hlen
  have hvalues := map_snd_zip_levelKeys keep.rows hlen
  rw [← nodup_levelKeys_iff (hg.labels .row), ← forall_values?_ofRow_iff hg,
    ← mapM_map_eq_some_map_iff, fields?, ofGrid_eq]
  constructor
  · intro hfields
    obtain ⟨values, hlevel, hfields⟩ := Option.bind_eq_some_iff.1 hfields
    have hnodup : (levelKeys keep.rows (g.labels .row)).Nodup := by
      by_contra hrepeated
      -- a key that comes again leaves fewer rows than the grid has
      rw [← hkeys] at hrepeated
      obtain ⟨fewer, hfewer, hlt⟩ := exists_values?_level hrepeated
      obtain rfl := Option.some.inj (hfewer.symm.trans hlevel)
      have hcount := length_of_mapM_eq_some hfields
      rw [List.length_zip, length_levelKeys, hlen, Nat.min_self, List.length_map] at hlt
      rw [List.length_map] at hcount
      omega
    rw [values?_level_of_nodup (hkeys.symm ▸ hnodup), hvalues] at hlevel
    exact ⟨hnodup, Option.some.inj hlevel ▸ hfields⟩
  · rintro ⟨hnodup, hfields⟩
    rw [values?_level_of_nodup (hkeys.symm ▸ hnodup), hvalues]
    exact hfields

/-- Labels that are the positions of labelled lines, or of none, stand in nobody's way. -/
theorem ofGrid_holds_cells_numbered :
    Grid.WF ⟨[⟨some "1", [.integer 1, .null]⟩, ⟨some "0", [.text "x", .bool true]⟩],
        [none, some "2"]⟩ ∧
      (ofGrid ⟨true, true⟩ ⟨[⟨some "1", [.integer 1, .null]⟩, ⟨some "0", [.text "x", .bool true]⟩],
          [none, some "2"]⟩).fields? =
        some [[.integer 1, .null], [.string "x", .bool true]] := by
  have hmade : Grid.ofLabeledRows [[.null, .null, .text "2"], [.text "1", .integer 1, .null],
      [.text "0", .text "x", .bool true]] true true =
        .ok ⟨[⟨some "1", [.integer 1, .null]⟩, ⟨some "0", [.text "x", .bool true]⟩],
          [none, some "2"]⟩ := rfl
  have hwf := (Grid.Reachable.ofLabeledRows hmade).wf
  exact ⟨hwf, (ofGrid_holds_cells_iff hwf ⟨true, true⟩).2 (by decide)⟩

/-- The second row, under its position, takes the place of the first, under its label. -/
theorem ofGrid_loses_row :
    Grid.Reachable ⟨[⟨some "1", [.integer 1]⟩, ⟨none, [.integer 2]⟩], [none]⟩ ∧
      (ofGrid ⟨true, false⟩ ⟨[⟨some "1", [.integer 1]⟩, ⟨none, [.integer 2]⟩], [none]⟩).fields? =
        some [[.integer 2]] := by
  have hmade : Grid.ofLabeledRows [[.text "1", .integer 1], [.null, .integer 2]] true false =
      .ok ⟨[⟨some "1", [.integer 1]⟩, ⟨none, [.integer 2]⟩], [none]⟩ := rfl
  exact ⟨.ofLabeledRows hmade, rfl⟩

end Tabular.Json
