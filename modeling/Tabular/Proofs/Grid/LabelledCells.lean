/-
Cells by their labels. Edits of whole lines shift positions, and some make the grid grow, but a
cell stays with the labels of its row and its column: as long as both labels are there, whatever
has been added, removed or moved meanwhile, they lead to the same cell.
-/
import Tabular.Proofs.Grid.Merging

namespace Tabular

namespace Grid

variable {g h k other changed : Grid} {axis : Axis} {r c : String} {x y : Cell}

/-! ## Labelled cells -/

/-- The row with one label has a cell in the column with the other. -/
def HoldsAt (g : Grid) (r c : String) (x : Cell) : Prop :=
  ∃ i j, (g.labels .row)[i]? = some (some r) ∧ (g.labels .column)[j]? = some (some c) ∧
    g.cell? .row i j = some x

theorem holdsAt_iff_row : HoldsAt g r c x ↔ ∃ row ∈ g.rows, row.label = some r ∧
    ∃ j : Nat, g.columnLabels[j]? = some (some c) ∧ row.cells[j]? = some x := by
  constructor
  · rintro ⟨i, j, hr, hc, hx⟩
    obtain ⟨row, hrow, hcell⟩ := Option.bind_eq_some_iff.1 hx
    refine ⟨row, List.mem_of_getElem? hrow, ?_, j, hc, hcell⟩
    simpa [labels, hrow] using hr
  · rintro ⟨row, hrow, hr, j, hc, hx⟩
    obtain ⟨i, hi⟩ := List.mem_iff_getElem?.1 hrow
    exact ⟨i, j, by simp [labels, hi, hr], hc, by simp [cell?, hi, hx]⟩

theorem WF.holdsAt_transpose (hg : g.WF) : HoldsAt g.transpose c r x ↔ HoldsAt g r c x := by
  simp only [HoldsAt, labels_transpose, hg.cell?_transpose]
  constructor
  · rintro ⟨j, i, hc, hr, hx⟩
    exact ⟨i, j, hr, hc, hx⟩
  · rintro ⟨i, j, hr, hc, hx⟩
    exact ⟨j, i, hc, hr, hx⟩

/-- The labels lead to the cell they hold, and to no other. -/
theorem WF.value_eq_ok_iff (hg : g.WF) :
    g.value (.label r) (.label c) = .ok x ↔ HoldsAt g r c x := by
  have hkeys : HoldsAt g r c x ↔ ∃ i j, g.key .row (.label r) = .ok i ∧
      g.key .column (.label c) = .ok j ∧ g.cell? .row i j = some x := by
    simp only [HoldsAt, key_label_eq_ok_iff, find?_eq_some_iff (hg.labels _)]
  rw [hkeys]
  constructor
  · intro hvalue
    obtain ⟨i, hi, hvalue⟩ := bind_eq_ok_iff.1 hvalue
    obtain ⟨j, hj, hvalue⟩ := bind_eq_ok_iff.1 hvalue
    obtain ⟨cell, hcell, _⟩ := hg.value_of_keys hi hj
    rw [hcell] at hvalue
    cases hvalue
    exact ⟨i, j, hi, hj, hcell⟩
  · rintro ⟨i, j, hi, hj, hx⟩
    obtain ⟨cell, hcell, hvalue⟩ := hg.value_of_keys hi hj
    rw [hvalue, Option.some.inj (hcell.symm.trans hx)]

theorem WF.exists_holdsAt (hg : g.WF) (hr : g.hasLabel .row r) (hc : g.hasLabel .column c) :
    ∃ x, HoldsAt g r c x := by
  obtain ⟨i, hi⟩ := Option.isSome_iff_exists.1 hr
  obtain ⟨j, hj⟩ := Option.isSome_iff_exists.1 hc
  obtain ⟨x, _, hx⟩ := hg.value_of_keys (key_label_eq_ok_iff.2 hi) (key_label_eq_ok_iff.2 hj)
  exact ⟨x, hg.value_eq_ok_iff.1 hx⟩

theorem WF.holdsAt_unique (hg : g.WF) (hx : HoldsAt g r c x) (hy : HoldsAt g r c y) : x = y := by
  have hvalue := (hg.value_eq_ok_iff.2 hx).symm.trans (hg.value_eq_ok_iff.2 hy)
  cases hvalue
  rfl

/-! ## Keeping labelled cells -/

/-- Every labelled cell of one grid is one of the other. -/
def Keeps (g h : Grid) : Prop :=
  ∀ r c x, HoldsAt g r c x → HoldsAt h r c x

theorem Keeps.refl (g : Grid) : Keeps g g := fun _ _ _ hx => hx

theorem Keeps.transpose (hg : g.WF) (hh : h.WF) (hkeeps : Keeps g h) :
    Keeps g.transpose h.transpose :=
  fun _ _ _ hx => hh.holdsAt_transpose.2 (hkeeps _ _ _ (hg.holdsAt_transpose.1 hx))

/-- What is kept of the rows of two grids as seen from an axis is kept. -/
theorem keeps_of_seenFrom (hg : g.WF) (hh : h.WF) (axis : Axis)
    (hkeeps : Keeps (g.seenFrom axis) (h.seenFrom axis)) : Keeps g h := by
  cases axis with
  | row => exact hkeeps
  | column =>
    have hback := hkeeps.transpose (transpose_wf hg) (transpose_wf hh)
    rwa [hg.transpose_transpose, hh.transpose_transpose] at hback

/-- A change along an axis leaves what the change of rows leaves. -/
theorem along_keeps {change : Grid → Grid} (hg : g.WF) (hwf : (change (g.seenFrom axis)).WF)
    (hkeeps : Keeps (change (g.seenFrom axis)) (g.seenFrom axis)) : Keeps (g.along axis change) g := by
  refine keeps_of_seenFrom (along_wf hg fun _ => hwf) hg axis ?_
  rwa [along, hwf.seenFrom_seenFrom]

theorem withRows_keeps {rows : List Line} (hrows : ∀ row ∈ rows, row ∈ g.rows) :
    Keeps { g with rows := rows } g := by
  intro r c x hx
  obtain ⟨row, hrow, hcell⟩ := holdsAt_iff_row.1 hx
  exact holdsAt_iff_row.2 ⟨row, hrows row hrow, hcell⟩

/-! ## Lines that are left or rearranged -/

theorem removeLine_keeps (hg : g.WF) (axis : Axis) (index : Nat) :
    Keeps (g.removeLine axis index) g := by
  rw [hg.removeLine_eq]
  exact along_keeps hg (removeRow_wf (seenFrom_wf axis hg) index)
    (withRows_keeps fun _ => List.mem_of_mem_eraseIdx)

theorem take_keeps (hg : g.WF) {ref : LineRef} {cells : List Cell}
    (h : g.take axis ref = .ok (cells, changed)) : Keeps changed g := by
  obtain ⟨⟨k, line⟩, _, he⟩ := map_eq_ok_iff.1 h
  cases he
  exact removeLine_keeps hg axis k

theorem keepRows_keeps (test : Nat → Line → Bool) (g : Grid) : Keeps (g.keepRows test) g := by
  refine withRows_keeps fun row hrow => ?_
  obtain ⟨⟨row, key⟩, hpair, rfl⟩ := List.mem_map.1 hrow
  exact List.fst_mem_of_mem_zipIdx (List.mem_of_mem_filter hpair)

theorem discard_keeps (hg : g.WF) (axis : Axis) (test : Line → Bool) :
    Keeps (g.discard axis test) g := by
  rw [hg.discard_eq]
  exact along_keeps hg (keepRows_wf (seenFrom_wf axis hg) _) (keepRows_keeps _ _)

theorem filter_keeps (hg : g.WF) (axis : Axis) (test : Nat → Line → Bool) :
    Keeps (g.filter axis test) g := by
  rw [hg.filter_eq]
  exact along_keeps hg (keepRows_wf (seenFrom_wf axis hg) test) (keepRows_keeps _ _)

theorem pick_keeps (hg : g.WF) (axis : Axis) {keys : List Nat} {n : Nat}
    (hkeys : keys.Sublist (List.range n)) : Keeps (g.pick axis keys) g := by
  rw [hg.pick_eq]
  refine along_keeps hg (pickRows_wf (seenFrom_wf axis hg) hkeys) (withRows_keeps fun row hrow => ?_)
  obtain ⟨key, _, hkey⟩ := List.mem_filterMap.1 hrow
  exact List.mem_of_getElem? hkey

theorem Rearranged.keeps (h : Rearranged axis true g changed) (hg : g.WF) : Keeps changed g := by
  obtain ⟨rearrange, hr, rfl⟩ := h
  have hperm := hr.perm _ (count_seenFrom axis g)
  rw [hg.arrange_sticky_eq hr]
  exact along_keeps hg (rows_perm_wf (seenFrom_wf axis hg) hperm)
    (withRows_keeps fun _ => hperm.mem_iff.1)

theorem searchWith_keeps (hg : g.WF) {query : Query} (h : g.searchWith query axis = .ok changed) :
    Keeps changed g := by
  obtain ⟨keys, n, hkeys, rfl⟩ := exists_pick_of_searchWith h
  exact pick_keeps hg axis hkeys

theorem search_keeps (hg : g.WF) {source : String} (h : g.search source axis = .ok changed) :
    Keeps changed g := by
  rcases search_eq_ok h with rfl | ⟨query, h⟩
  · exact .refl _
  · exact searchWith_keeps hg h

/-! ## Lines that are added -/

theorem getElem?_rightpad {α : Type} {items : List α} {i : Nat} {a : α} (n : Nat) (pad : α)
    (hi : items[i]? = some a) : (items.rightpad n pad)[i]? = some a := by
  rw [List.rightpad, List.getElem?_append_left (List.getElem?_eq_some_iff.1 hi).1, hi]

/-- Lines may be filled up, and labels added where there are none. -/
theorem keeps_of_lines (hg : g.WF) (hh : h.WF) (axis : Axis)
    (hlines : ∀ line ∈ g.lines axis, ∃ width, line.padded width ∈ h.lines axis)
    (hlabels : ∀ (j : Nat) l, (g.labels axis.cross)[j]? = some (some l) →
      (h.labels axis.cross)[j]? = some (some l)) : Keeps g h := by
  refine keeps_of_seenFrom hg hh axis fun r c x hx => ?_
  obtain ⟨line, hline, hr, j, hc, hx⟩ := holdsAt_iff_row.1 hx
  obtain ⟨width, hpadded⟩ := hlines line hline
  refine holdsAt_iff_row.2 ⟨line.padded width, hpadded, hr, j, ?_, getElem?_rightpad _ _ hx⟩
  rw [columnLabels_seenFrom] at hc ⊢
  exact hlabels j c hc

theorem keeps_insertLine (hg : g.WF) (index : Nat) {line : Line}
    (hf : Fresh line.label (g.labels axis)) : Keeps g (g.insertLine axis index line) := by
  refine keeps_of_lines hg (insertLine_wf hg index hf) axis
    (fun old hold => ⟨max (g.count axis.cross) line.cells.length, ?_⟩) fun j l hj => ?_
  · rw [hg.lines_insertLine index hf]
    exact List.subset_insertIdx _ _ _ (List.mem_map_of_mem hold)
  · rw [hg.labels_cross_insertLine]
    exact getElem?_rightpad _ _ hj

theorem keeps_insert (hg : g.WF) {index : Nat} {cells : List Cell} {label : Option String}
    (h : g.insert axis index cells label = .ok changed) : Keeps g changed := by
  obtain ⟨stored, hstored, rfl⟩ := map_eq_ok_iff.1 h
  exact keeps_insertLine hg index (fresh_of_freeLabel hstored)

theorem keeps_merge (hg : g.WF) (axis : Axis) (ho : other.WF) : Keeps g (g.merge axis other) := by
  have hmerged := hg.merged_merge ho axis
  refine keeps_of_lines hg hmerged.wf axis
    (fun line hline => ⟨(g.merge axis other).count axis.cross, ?_⟩) fun j l hj => ?_
  · rw [hmerged.lines]
    exact List.mem_map_of_mem (List.mem_append_left _ hline)
  · rw [hmerged.labels_cross]
    split
    · exact hj
    · exact (List.getElem?_append_left (List.getElem?_eq_some_iff.1 hj).1).trans hj

end Grid

/-! ## Edits of whole lines -/

/-- Whether an edit adds, removes or rearranges lines together with their labels. -/
def Edit.ofWholeLines : Edit → Bool
  | .append .. | .prepend .. | .delete .. | .deleteEmpty .. | .merge .. | .diff .. | .intersect ..
  | .filter .. | .search .. | .searchWith .. => true
  | .swap _ _ _ sticky | .move _ _ _ sticky | .orderBy _ _ _ sticky => sticky
  | _ => false

/-- An edit of whole lines adds labelled cells or removes some, and changes none. -/
theorem Edit.apply_keeps {edit : Edit} {g changed : Grid} (hg : g.WF)
    (ho : ∀ other ∈ edit.others, other.WF) (he : edit.ofWholeLines)
    (h : edit.apply g = .ok changed) : g.Keeps changed ∨ changed.Keeps g := by
  cases edit with
  | append | prepend => exact .inl (Grid.keeps_insert hg h)
  | delete =>
    obtain ⟨⟨cells, rest⟩, htake, rfl⟩ := map_eq_ok_iff.1 h
    exact .inr (Grid.take_keeps hg htake)
  | deleteEmpty | diff | intersect =>
    cases h
    exact .inr (Grid.discard_keeps hg _ _)
  | filter =>
    cases h
    exact .inr (Grid.filter_keeps hg _ _)
  | search => exact .inr (Grid.search_keeps hg h)
  | searchWith => exact .inr (Grid.searchWith_keeps hg h)
  | merge axis other =>
    cases h
    exact .inl (Grid.keeps_merge hg axis (ho other List.mem_cons_self))
  | swap axis a b sticky =>
    obtain rfl : sticky = true := he
    exact .inr ((Grid.rearranged_of_swap h).keeps hg)
  | move axis source target sticky =>
    obtain rfl : sticky = true := he
    exact .inr ((Grid.rearranged_of_move h).keeps hg)
  | orderBy axis ref direction sticky =>
    obtain rfl : sticky = true := he
    exact .inr ((Grid.rearranged_of_orderBy h).keeps hg)
  | _ => cases he

namespace Grid

/-- A grid comes from another by edits of whole lines, failing ones included, and the row label and
the column label have been there all along. -/
inductive Followed (r c : String) (g : Grid) : Grid → Prop
  | start : g.hasLabel .row r → g.hasLabel .column c → Followed r c g g
  | edit {h : Grid} (edit : Edit) : Followed r c g h → edit.ofWholeLines →
      (∀ other ∈ edit.others, other.Reachable) → (edit.applyOrKeep h).hasLabel .row r →
      (edit.applyOrKeep h).hasLabel .column c → Followed r c g (edit.applyOrKeep h)
  | take {axis : Axis} {ref : LineRef} {cells : List Cell} {h rest : Grid} : Followed r c g h →
      h.take axis ref = .ok (cells, rest) → rest.hasLabel .row r → rest.hasLabel .column c →
      Followed r c g rest

/-- A labelled cell is the same after a step that only adds or only removes labelled cells. -/
theorem WF.holdsAt_of_keeps (hg : g.WF) (hh : h.WF) (hkeeps : Keeps g h ∨ Keeps h g)
    (hr : h.hasLabel .row r) (hc : h.hasLabel .column c) (hx : HoldsAt g r c x) :
    HoldsAt h r c x := by
  rcases hkeeps with hadds | hremoves
  · exact hadds r c x hx
  · -- the labels are still there, and the cell they hold now they held before
    obtain ⟨y, hy⟩ := hh.exists_holdsAt hr hc
    rwa [hg.holdsAt_unique hx (hremoves r c y hy)]

theorem Followed.holdsAt (hfollowed : Followed r c g h) (hg : g.WF) :
    h.WF ∧ ∃ x, HoldsAt g r c x ∧ HoldsAt h r c x := by
  -- the invariant of the current grid is carried along, since each step needs it
  induction hfollowed with
  | start hr hc =>
    obtain ⟨x, hx⟩ := hg.exists_holdsAt hr hc
    exact ⟨hg, x, hx, hx⟩
  | @edit h edit _ he ho hr hc ih =>
    obtain ⟨hh, x, hx, hxh⟩ := ih
    have hother : ∀ other ∈ edit.others, other.WF := fun other hmem => (ho other hmem).wf
    have hwf : (edit.applyOrKeep h).WF := Edit.applyOrKeep_wf hh hother
    refine ⟨hwf, x, hx, hh.holdsAt_of_keeps hwf ?_ hr hc hxh⟩
    unfold Edit.applyOrKeep
    split
    · rename_i changed happly
      exact Edit.apply_keeps hh hother he happly
    · exact .inl (.refl h)
  | take _ htake hr hc ih =>
    obtain ⟨hh, x, hx, hxh⟩ := ih
    have hwf := take_wf hh htake
    exact ⟨hwf, x, hx, hh.holdsAt_of_keeps hwf (.inr (take_keeps hh htake)) hr hc hxh⟩

/-- The cell at two labels of a reachable grid stays the same under edits of whole lines, as long as
the two labels stay. -/
theorem Reachable.value_followed (hg : g.Reachable) (hfollowed : Followed r c g h) :
    ∃ x, g.value (.label r) (.label c) = .ok x ∧ h.value (.label r) (.label c) = .ok x := by
  obtain ⟨hh, x, hx, hxh⟩ := hfollowed.holdsAt hg.wf
  exact ⟨x, hg.wf.value_eq_ok_iff.2 hx, hh.value_eq_ok_iff.2 hxh⟩

/-- The cell of `r` and `c` while a row and a column are added before them, the rows are exchanged, a
taken label is refused, another grid brings a row and a column, and a row is taken out. -/
theorem value_followed_merge :
    Reachable ⟨[⟨some "r", [.text "x"]⟩], [some "c"]⟩ ∧
      Followed "r" "c" ⟨[⟨some "r", [.text "x"]⟩], [some "c"]⟩
        ⟨[⟨some "r", [.null, .text "x", .null]⟩, ⟨some "q", [.integer 2, .null, .text "w"]⟩],
          [some "b", some "c", some "d"]⟩ ∧
      value (.label "r") (.label "c") ⟨[⟨some "r", [.null, .text "x", .null]⟩,
          ⟨some "q", [.integer 2, .null, .text "w"]⟩], [some "b", some "c", some "d"]⟩ =
        .ok (.text "x") := by
  have hmade : ofLabeledRows [[.null, .text "c"], [.text "r", .text "x"]] true true =
      .ok ⟨[⟨some "r", [.text "x"]⟩], [some "c"]⟩ := rfl
  have hother : ofLabeledRows [[.null, .text "r", .text "c", .text "d"],
      [.text "q", .integer 2, .null, .text "w"]] true true =
        .ok ⟨[⟨some "q", [.integer 2, .null, .text "w"]⟩], [some "r", some "c", some "d"]⟩ := rfl
  have hadded : Followed "r" "c" ⟨[⟨some "r", [.text "x"]⟩], [some "c"]⟩
      ⟨[⟨some "p", [.text "z", .text "y"]⟩, ⟨some "r", [.null, .text "x"]⟩], [some "b", some "c"]⟩ :=
    ((Followed.start rfl rfl).edit (.prepend .row [.text "y"] (some "p")) rfl nofun rfl rfl).edit
      (.prepend .column [.text "z"] (some "b")) rfl nofun rfl rfl
  have hmoved : Followed "r" "c" ⟨[⟨some "r", [.text "x"]⟩], [some "c"]⟩
      ⟨[⟨some "r", [.null, .text "x"]⟩, ⟨some "p", [.text "z", .text "y"]⟩], [some "b", some "c"]⟩ :=
    (hadded.edit (.swap .row (.label "r") (.position 0) true) rfl nofun rfl rfl).edit
      (.append .column [] (some "c")) rfl nofun rfl rfl
  have hmerged : Followed "r" "c" ⟨[⟨some "r", [.text "x"]⟩], [some "c"]⟩
      ⟨[⟨some "r", [.null, .text "x", .null]⟩, ⟨some "p", [.text "z", .text "y", .null]⟩,
        ⟨some "q", [.integer 2, .null, .text "w"]⟩], [some "b", some "c", some "d"]⟩ :=
    hmoved.edit (.merge .row
      ⟨[⟨some "q", [.integer 2, .null, .text "w"]⟩], [some "r", some "c", some "d"]⟩) rfl
      (List.forall_mem_singleton.2 (.ofLabeledRows hother)) rfl rfl
  have htaken : Followed "r" "c" ⟨[⟨some "r", [.text "x"]⟩], [some "c"]⟩
      ⟨[⟨some "r", [.null, .text "x", .null]⟩, ⟨some "q", [.integer 2, .null, .text "w"]⟩],
        [some "b", some "c", some "d"]⟩ :=
    @Followed.take "r" "c" _ .row (.label "p") [.text "z", .text "y", .null] _ _ hmerged rfl rfl rfl
  have hg : Reachable ⟨[⟨some "r", [.text "x"]⟩], [some "c"]⟩ := .ofLabeledRows hmade
  obtain ⟨x, hx, hfollowed⟩ := hg.value_followed htaken
  cases hx
  exact ⟨hg, htaken, hfollowed⟩

end Grid

end Tabular
