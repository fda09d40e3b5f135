/-
Leaving out the lines without a value. On either axis exactly the lines stay that hold a cell other
than null. This does not change which lines of the other axis hold one, so it makes no difference
which axis comes first, and what is left is made of the rows and columns that are filled: each cell
other than null is still there, under the labels of its row and its column.
-/
import Tabular.Proofs.Grid.Discarding
import Tabular.Proofs.Grid.Picking

namespace Tabular

/-- A line holds a cell other than null. -/
def Line.Filled (line : Line) : Prop :=
  ∃ cell ∈ line.cells, cell ≠ .null

instance (line : Line) : Decidable line.Filled :=
  inferInstanceAs (Decidable (∃ cell ∈ line.cells, cell ≠ .null))

theorem Line.all_isNull_iff (line : Line) : line.cells.all Cell.isNull = true ↔ ¬ line.Filled := by
  have hnull : ∀ cell : Cell, cell.isNull = true ↔ cell = .null := by
    intro cell
    cases cell <;> simp [Cell.isNull]
  simp only [List.all_eq_true, hnull, Filled, not_exists, not_and, not_not]

namespace Grid

variable {g : Grid} {axis : Axis} {k c : Nat} {x : Cell}

/-! ## Lines along one axis -/

theorem WF.linesLeft_deleteEmpty (hg : g.WF) (axis : Axis) :
    LinesLeft axis (fun line => line.Filled) g (g.deleteEmpty axis) := by
  have hleft := hg.linesLeft_discard axis fun line => line.cells.all Cell.isNull
  have hkeep : ∀ line : Line, (!line.cells.all Cell.isNull) = decide line.Filled := by
    intro line
    rw [Bool.eq_iff_iff, Bool.not_eq_true', decide_eq_true_iff, ← Bool.not_eq_true,
      line.all_isNull_iff, not_not]
  rwa [funext hkeep] at hleft

/-- The positions of the lines that hold a cell other than null. -/
def filledKeys (axis : Axis) (g : Grid) : List Nat :=
  (List.range (g.count axis)).filter fun k => (g.lines axis)[k]?.any fun line => line.Filled

theorem filledKeys_sublist (axis : Axis) (g : Grid) :
    (g.filledKeys axis).Sublist (List.range (g.count axis)) :=
  List.filter_sublist

theorem lt_of_mem_filledKeys (hk : k ∈ g.filledKeys axis) : k < g.count axis :=
  List.mem_range.1 ((filledKeys_sublist axis g).subset hk)

/-- The positions are known by which they are, as they stand in order. -/
theorem filledKeys_congr {g' : Grid} (hcount : g'.count axis = g.count axis)
    (h : ∀ k, k ∈ g'.filledKeys axis ↔ k ∈ g.filledKeys axis) :
    g'.filledKeys axis = g.filledKeys axis := by
  simp only [filledKeys, hcount, List.mem_filter] at h ⊢
  exact List.filter_congr fun k hk => Bool.eq_iff_iff.2 (and_congr_right_iff.1 (h k) hk)

theorem WF.mem_filledKeys_iff (hg : g.WF) :
    k ∈ g.filledKeys axis ↔ ∃ c x, g.cell? axis k c = some x ∧ x ≠ .null := by
  rw [filledKeys, List.mem_filter, List.mem_range, Option.any_eq_true]
  constructor
  · rintro ⟨hlt, line, hline, hfilled⟩
    obtain ⟨line', hline', _, hcells⟩ := hg.exists_line hlt
    obtain rfl := Option.some.inj (hline.symm.trans hline')
    obtain ⟨x, hx, hne⟩ := of_decide_eq_true hfilled
    obtain ⟨c, hc⟩ := List.mem_iff_getElem?.1 hx
    exact ⟨c, x, (hcells c).symm.trans hc, hne⟩
  · rintro ⟨c, x, hx, hne⟩
    have hlt := (hg.cell?_isSome_iff.1 (Option.isSome_of_eq_some hx)).1
    obtain ⟨line, hline, _, hcells⟩ := hg.exists_line hlt
    have hmem := List.mem_of_getElem? ((hcells c).trans hx)
    exact ⟨hlt, line, hline, decide_eq_true ⟨x, hmem, hne⟩⟩

theorem WF.deleteEmpty_eq_pick (hg : g.WF) (axis : Axis) :
    g.deleteEmpty axis = g.pick axis (g.filledKeys axis) := by
  have hleft := hg.linesLeft_deleteEmpty axis
  have hsublist := filledKeys_sublist axis g
  refine hleft.wf.eq_of_lines (pick_wf hg axis hsublist) axis ?_ ?_
  · rw [hleft.lines, hg.lines_pick axis hsublist, filledKeys, ← length_lines]
    exact (picked_filter_range fun i line hline => by rw [hline]; rfl).symm
  · rw [hleft.labels_cross, labels_cross_pick]

/-! ## One axis after the other -/

/-- A cell has its place on both axes. -/
theorem cell?_cross (axis : Axis) (k c : Nat) (g : Grid) :
    g.cell? axis.cross c k = g.cell? axis k c := by
  cases axis <;> rfl

/-- Lines of both axes may be picked in either order. -/
theorem pick_pick_cross (axis : Axis) (keys others : List Nat) (g : Grid) :
    (g.pick axis keys).pick axis.cross others = (g.pick axis.cross others).pick axis keys := by
  have hrows : ∀ keys others, (g.pickRows keys).pickColumns others =
      (g.pickColumns others).pickRows keys := fun keys others =>
    congrArg (Grid.mk · _) (map_picked ..)
  cases axis with
  | row => exact hrows keys others
  | column => exact (hrows others keys).symm

/-- Lines without a value add none to the lines across them. -/
theorem WF.filledKeys_cross_deleteEmpty (hg : g.WF) (axis : Axis) :
    (g.deleteEmpty axis).filledKeys axis.cross = g.filledKeys axis.cross := by
  have hleft := hg.linesLeft_deleteEmpty axis
  refine filledKeys_congr hleft.count_cross fun c => ?_
  rw [hleft.wf.mem_filledKeys_iff, hg.mem_filledKeys_iff]
  simp only [cell?_cross]
  rw [hg.deleteEmpty_eq_pick]
  simp only [hg.cell?_pick fun _ => lt_of_mem_filledKeys, Option.bind_eq_some_iff]
  constructor
  · rintro ⟨_, x, ⟨k, _, hx⟩, hne⟩
    exact ⟨k, x, hx, hne⟩
  · rintro ⟨k, x, hx, hne⟩
    obtain ⟨i, hi⟩ := List.mem_iff_getElem?.1 (hg.mem_filledKeys_iff.2 ⟨c, x, hx, hne⟩)
    exact ⟨i, x, ⟨k, hi, hx⟩, hne⟩

theorem WF.deleteEmpty_cross_eq_pick (hg : g.WF) (axis : Axis) :
    (g.deleteEmpty axis).deleteEmpty axis.cross =
      (g.pick axis (g.filledKeys axis)).pick axis.cross (g.filledKeys axis.cross) := by
  rw [(hg.linesLeft_deleteEmpty axis).wf.deleteEmpty_eq_pick, hg.filledKeys_cross_deleteEmpty,
    hg.deleteEmpty_eq_pick]

/-- It makes no difference which axis comes first. -/
theorem WF.deleteEmpty_comm (hg : g.WF) (axis : Axis) :
    (g.deleteEmpty axis).deleteEmpty axis.cross = (g.deleteEmpty axis.cross).deleteEmpty axis := by
  have hcross := hg.deleteEmpty_cross_eq_pick axis.cross
  rw [Axis.cross_cross] at hcross
  rw [hg.deleteEmpty_cross_eq_pick, hcross, pick_pick_cross]

/-! ## Cells that stay -/

/-- The positions of a cell in what is left are those of its lines among the filled ones. -/
theorem WF.cell?_deleteEmpty_cross (hg : g.WF) (axis : Axis) (i j : Nat) :
    ((g.deleteEmpty axis).deleteEmpty axis.cross).cell? axis i j =
      (g.filledKeys axis)[i]?.bind fun k =>
        (g.filledKeys axis.cross)[j]?.bind fun c => g.cell? axis k c := by
  have hcount : ∀ c ∈ g.filledKeys axis.cross,
      c < (g.pick axis (g.filledKeys axis)).count axis.cross := by
    rw [count, labels_cross_pick]
    exact fun c => lt_of_mem_filledKeys
  have hpick := pick_wf hg axis (filledKeys_sublist axis g)
  rw [hg.deleteEmpty_cross_eq_pick, ← cell?_cross, hpick.cell?_pick hcount]
  simp only [cell?_cross, hg.cell?_pick fun _ => lt_of_mem_filledKeys]
  cases (g.filledKeys axis)[i]? <;> cases (g.filledKeys axis.cross)[j]? <;> rfl

theorem WF.getElem?_labels_deleteEmpty_cross (hg : g.WF) (axis : Axis) (i : Nat) :
    (((g.deleteEmpty axis).deleteEmpty axis.cross).labels axis)[i]? =
      (g.filledKeys axis)[i]?.bind ((g.labels axis)[·]?) := by
  have hcross := labels_cross_pick (g.pick axis (g.filledKeys axis)) axis.cross
    (g.filledKeys axis.cross)
  rw [Axis.cross_cross] at hcross
  rw [hg.deleteEmpty_cross_eq_pick, hcross, labels_pick,
    getElem?_picked fun _ => lt_of_mem_filledKeys]

/-- A cell other than null stays, under the labels of its two lines. -/
theorem WF.exists_cell?_deleteEmpty_cross (hg : g.WF) (hx : g.cell? axis k c = some x)
    (hne : x ≠ .null) :
    ∃ i j, (g.filledKeys axis)[i]? = some k ∧ (g.filledKeys axis.cross)[j]? = some c ∧
      ((g.deleteEmpty axis).deleteEmpty axis.cross).cell? axis i j = some x ∧
      (((g.deleteEmpty axis).deleteEmpty axis.cross).labels axis)[i]? = (g.labels axis)[k]? ∧
      (((g.deleteEmpty axis).deleteEmpty axis.cross).labels axis.cross)[j]? =
        (g.labels axis.cross)[c]? := by
  have hk := hg.mem_filledKeys_iff.2 ⟨c, x, hx, hne⟩
  have hc := hg.mem_filledKeys_iff.2 ⟨k, x, (cell?_cross ..).trans hx, hne⟩
  obtain ⟨i, hi⟩ := List.mem_iff_getElem?.1 hk
  obtain ⟨j, hj⟩ := List.mem_iff_getElem?.1 hc
  have hlabel := hg.getElem?_labels_deleteEmpty_cross axis.cross j
  rw [Axis.cross_cross, ← hg.deleteEmpty_comm] at hlabel
  refine ⟨i, j, hi, hj, ?_, ?_, ?_⟩
  · rw [hg.cell?_deleteEmpty_cross, hi, hj]
    exact hx
  · rw [hg.getElem?_labels_deleteEmpty_cross, hi]
    rfl
  · rw [hlabel, hj]
    rfl

/-- Leaving out the lines of a reachable grid that hold no value keeps the others as they are and
makes no difference the second time. On both axes it may be done in either order, and every cell
other than null stays with its two labels. -/
theorem Reachable.deleteEmpty_either_order (hg : g.Reachable) :
    (∀ axis, LinesLeft axis (fun line => line.Filled) g (g.deleteEmpty axis) ∧
        (g.deleteEmpty axis).deleteEmpty axis = g.deleteEmpty axis) ∧
      (g.deleteEmpty .row).deleteEmpty .column = (g.deleteEmpty .column).deleteEmpty .row ∧
      ∀ r c x, g.cell? .row r c = some x → x ≠ .null →
        ∃ i j, (g.filledKeys .row)[i]? = some r ∧ (g.filledKeys .column)[j]? = some c ∧
          ((g.deleteEmpty .row).deleteEmpty .column).cell? .row i j = some x ∧
          (((g.deleteEmpty .row).deleteEmpty .column).labels .row)[i]? = (g.labels .row)[r]? ∧
          (((g.deleteEmpty .row).deleteEmpty .column).labels .column)[j]? =
            (g.labels .column)[c]? := by
  refine ⟨fun axis => ?_, hg.wf.deleteEmpty_comm .row, fun r c x hx hne => ?_⟩
  · have hleft := hg.wf.linesLeft_deleteEmpty axis
    exact ⟨hleft, hleft.again (hleft.wf.linesLeft_deleteEmpty axis)⟩
  · exact hg.wf.exists_cell?_deleteEmpty_cross hx hne

/-- Of three rows and two columns the row and the column without a value go, labels and all. -/
theorem deleteEmpty_either_order_three_rows :
    Reachable ⟨[⟨some "x", [.null, .text "1"]⟩, ⟨some "y", [.null, .null]⟩,
        ⟨none, [.null, .text "3"]⟩], [some "a", some "b"]⟩ ∧
      (deleteEmpty .row ⟨[⟨some "x", [.null, .text "1"]⟩, ⟨some "y", [.null, .null]⟩,
        ⟨none, [.null, .text "3"]⟩], [some "a", some "b"]⟩).deleteEmpty .column =
          ⟨[⟨some "x", [.text "1"]⟩, ⟨none, [.text "3"]⟩], [some "b"]⟩ ∧
      (deleteEmpty .column ⟨[⟨some "x", [.null, .text "1"]⟩, ⟨some "y", [.null, .null]⟩,
        ⟨none, [.null, .text "3"]⟩], [some "a", some "b"]⟩).deleteEmpty .row =
          ⟨[⟨some "x", [.text "1"]⟩, ⟨none, [.text "3"]⟩], [some "b"]⟩ := by
  have hmade : ofLabeledRows [[.null, .text "a", .text "b"], [.text "x", .null, .text "1"],
      [.text "y"], [.null, .null, .text "3"]] true true =
        .ok ⟨[⟨some "x", [.null, .text "1"]⟩, ⟨some "y", [.null, .null]⟩,
          ⟨none, [.null, .text "3"]⟩], [some "a", some "b"]⟩ := rfl
  have hg := Reachable.ofLabeledRows hmade
  obtain ⟨_, hcomm, _⟩ := hg.deleteEmpty_either_order
  have hleft : (deleteEmpty .row ⟨[⟨some "x", [.null, .text "1"]⟩, ⟨some "y", [.null, .null]⟩,
      ⟨none, [.null, .text "3"]⟩], [some "a", some "b"]⟩).deleteEmpty .column =
        ⟨[⟨some "x", [.text "1"]⟩, ⟨none, [.text "3"]⟩], [some "b"]⟩ := rfl
  exact ⟨hg, hleft, hcomm.symm.trans hleft⟩

end Grid

end Tabular
