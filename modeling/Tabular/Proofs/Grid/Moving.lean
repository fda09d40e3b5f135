/-
Moving and exchanging lines. A line that is moved stands at its new position while the others keep
their order, and two lines that are exchanged stand at each other's position; so it is undone by
moving the line back, or by exchanging the two again. Sticky labels follow their lines as if they
were moved or exchanged by themselves afterwards.
-/
import Tabular.Proofs.Grid.InPlace

namespace Tabular

/-! ## Items that are moved or exchanged -/

/-- An item has been moved to another position, and the others have kept their order. -/
structure MovedTo {α : Type} (source target : Nat) (items moved : List α) : Prop where
  perm : moved.Perm items
  item : moved[target]? = items[source]?
  others : moved.eraseIdx target = items.eraseIdx source

/-- The items at two positions have been exchanged, and the others have stayed. -/
structure Exchanged {α : Type} (a b : Nat) (items swapped : List α) : Prop where
  perm : swapped.Perm items
  first : swapped[a]? = items[b]?
  second : swapped[b]? = items[a]?
  others : ∀ i : Nat, i ≠ a → i ≠ b → swapped[i]? = items[i]?

section

variable {α : Type} {source target a b : Nat} {items moved moved' swapped swapped' : List α}

theorem MovedTo.symm (h : MovedTo source target items moved) :
    MovedTo target source moved items :=
  ⟨h.perm.symm, h.item.symm, h.others.symm⟩

/-- The item is put in between the others in one way only. -/
theorem MovedTo.unique (h : MovedTo source target items moved)
    (h' : MovedTo source target items moved') (ht : target < items.length) : moved = moved' := by
  have hlt : target < moved.length := by rwa [h.perm.length_eq]
  have hlt' : target < moved'.length := by rwa [h'.perm.length_eq]
  have hitem : moved[target] = moved'[target] := by
    refine Option.some.inj ?_
    rw [← List.getElem?_eq_getElem hlt, ← List.getElem?_eq_getElem hlt', h.item, h'.item]
  rw [← List.insertIdx_eraseIdx_getElem hlt, ← List.insertIdx_eraseIdx_getElem hlt', h.others,
    h'.others, hitem]

theorem Exchanged.symm (h : Exchanged a b items swapped) : Exchanged a b swapped items :=
  ⟨h.perm.symm, h.second.symm, h.first.symm, fun i ha hb => (h.others i ha hb).symm⟩

theorem Exchanged.unique (h : Exchanged a b items swapped) (h' : Exchanged a b items swapped') :
    swapped = swapped' := by
  refine List.ext_getElem? fun i => ?_
  by_cases ha : i = a
  · rw [ha, h.first, h'.first]
  · by_cases hb : i = b
    · rw [hb, h.second, h'.second]
    · rw [h.others i ha hb, h'.others i ha hb]

end

namespace Grid

section

variable {α : Type} {source target a b n : Nat} {items : List α}

theorem movedTo_relocate (hs : source < items.length) (ht : target < items.length) :
    MovedTo source target items (relocate source target items) := by
  refine ⟨relocate_perm source ht, ?_, ?_⟩
  · have hle : target ≤ (items.eraseIdx source).length := by
      rw [List.length_eraseIdx_of_lt hs]
      omega
    rw [relocate, List.getElem?_eq_getElem hs]
    exact List.getElem?_insertIdx_self.trans (if_pos hle)
  · rw [relocate, List.getElem?_eq_getElem hs]
    exact List.eraseIdx_insertIdx_self _

theorem relocate_relocate (hs : source < items.length) (ht : target < items.length) :
    relocate target source (relocate source target items) = items := by
  have hmoved := movedTo_relocate hs ht
  have hlen := hmoved.perm.length_eq
  rw [← hlen] at hs ht
  exact (movedTo_relocate ht hs).unique hmoved.symm hs

theorem exchanged_exchange (ha : a < items.length) (hb : b < items.length) :
    Exchanged a b items (exchange a b items) := by
  have hswapped : exchange a b items = (items.set a items[b]).set b items[a] := by
    rw [exchange, List.getElem?_eq_getElem ha, List.getElem?_eq_getElem hb]
  refine ⟨exchange_perm a b items, ?_, ?_, fun i hia hib => ?_⟩
  · by_cases hab : b = a
    · subst hab
      simp [hswapped, ha]
    · simp [hswapped, ha, hb, hab]
  · simp [hswapped, ha, hb]
  · rw [hswapped, List.getElem?_set_ne (Ne.symm hib), List.getElem?_set_ne (Ne.symm hia)]

theorem exchange_exchange (ha : a < items.length) (hb : b < items.length) :
    exchange a b (exchange a b items) = items := by
  have hswapped := exchanged_exchange ha hb
  have hlen := hswapped.perm.length_eq
  rw [← hlen] at ha hb
  exact (exchanged_exchange ha hb).unique hswapped.symm

theorem rearranges_relocate (source : Nat) (ht : target < n) :
    Rearranges n (relocate source target) := by
  refine ⟨fun f items => ?_, fun items hlen => relocate_perm source (by rwa [hlen])⟩
  unfold relocate
  rw [List.getElem?_map]
  cases items[source]? with
  | none => rfl
  | some x => simp [List.eraseIdx_map, List.map_insertIdx]

/-- A list is rearranged by picking its items in the order of the rearranged positions. -/
theorem Rearranges.picked_range {rearrange : {α : Type} → List α → List α}
    (hr : Rearranges n rearrange) (hlen : items.length = n) :
    picked (rearrange (List.range n)) items = rearrange items := by
  refine picked_eq_of_map ?_
  rw [← hr.map, ← hr.map, ← hlen, map_getElem?_range]

end

/-- A rearrangement that brings the items of a list of `n` back to where another took them from. -/
structure Undoes (n : Nat) (back rearrange : {α : Type} → List α → List α) : Prop where
  change : Rearranges n rearrange
  restore : Rearranges n back
  cancel : ∀ {α : Type} (items : List α), items.length = n → back (rearrange items) = items

theorem undoes_relocate {n source target : Nat} (hs : source < n) (ht : target < n) :
    Undoes n (relocate target source) (relocate source target) := by
  refine ⟨rearranges_relocate source ht, rearranges_relocate target hs, ?_⟩
  rintro α items rfl
  exact relocate_relocate hs ht

theorem undoes_exchange {n a b : Nat} (ha : a < n) (hb : b < n) :
    Undoes n (exchange a b) (exchange a b) := by
  refine ⟨rearranges_exchange a b n, rearranges_exchange a b n, ?_⟩
  rintro α items rfl
  exact exchange_exchange ha hb

/-! ## Rearranged lines -/

variable {g : Grid} {axis : Axis} {rearrange back : {α : Type} → List α → List α}

/-- The lines of an axis have been rearranged, with their labels or without. -/
structure LinesArranged (axis : Axis) (sticky : Bool)
    (arranged : {α : Type} → List α → List α → Prop) (g changed : Grid) : Prop where
  wf : changed.WF
  cells : arranged ((g.lines axis).map (·.cells)) ((changed.lines axis).map (·.cells))
  lines : sticky = true → arranged (g.lines axis) (changed.lines axis)
  labels : sticky = false → changed.labels axis = g.labels axis
  labels_cross : changed.labels axis.cross = g.labels axis.cross

/-- The labels of an axis have been rearranged and nothing else. -/
structure LabelsArranged (axis : Axis) (arranged : {α : Type} → List α → List α → Prop)
    (g changed : Grid) : Prop where
  wf : changed.WF
  labels : arranged (g.labels axis) (changed.labels axis)
  cells : changed.cells = g.cells
  labels_cross : changed.labels axis.cross = g.labels axis.cross

theorem WF.linesArranged (hg : g.WF) (sticky : Bool) (hr : Rearranges (g.count axis) rearrange)
    {arranged : {α : Type} → List α → List α → Prop}
    (h : ∀ {α : Type} (items : List α), items.length = g.count axis →
      arranged items (rearrange items)) :
    LinesArranged axis sticky arranged g (g.arrange axis sticky rearrange) := by
  refine ⟨arrange_wf hg sticky hr, ?_, ?_, ?_, hg.labels_cross_arrange sticky hr⟩
  · rw [hg.map_cells_lines_arrange sticky hr]
    exact h _ (by rw [List.length_map, length_lines])
  · rintro rfl
    rw [hg.lines_arrange_sticky hr]
    exact h _ (length_lines axis g)
  · rintro rfl
    exact labels_arrange_loose hr

/-- Only what becomes of lists that are as long as the axis matters. -/
theorem WF.arrange_congr (hg : g.WF) (sticky : Bool)
    (h : ∀ {α : Type} (items : List α), items.length = g.count axis →
      rearrange items = back items) :
    g.arrange axis sticky rearrange = g.arrange axis sticky back := by
  have hlabels := h (g.labels axis) rfl
  cases axis with
  | row =>
    have hcells := h g.cells (by rw [cells, List.length_map, length_rows])
    simp only [arrange, hcells, hlabels]
  | column =>
    have hcells : g.cells.map rearrange = g.cells.map back := by
      refine List.map_congr_left fun cells hcells => h cells ?_
      obtain ⟨row, hrow, rfl⟩ := List.mem_map.1 hcells
      exact hg.width row hrow
    simp only [arrange, hcells, hlabels]

/-- Lines that are put back where they were leave the grid as it was. -/
theorem WF.arrange_arrange (hg : g.WF) (sticky : Bool) (h : Undoes (g.count axis) back rearrange) :
    (g.arrange axis sticky rearrange).arrange axis sticky back = g := by
  have hmoved := arrange_wf hg sticky h.change
  have hback := h.restore
  rw [← hg.count_arrange_axis sticky h.change] at hback
  refine (arrange_wf hmoved sticky hback).eq_of_map_cells_lines hg axis ?_ ?_ ?_
  · rw [hmoved.map_cells_lines_arrange sticky hback, hg.map_cells_lines_arrange sticky h.change]
    exact h.cancel _ (by rw [List.length_map, length_lines])
  · rw [hmoved.labels_arrange sticky hback, hg.labels_arrange sticky h.change]
    cases sticky with
    | true => exact h.cancel (g.labels axis) rfl
    | false => rfl
  · rw [hmoved.labels_cross_arrange sticky hback, hg.labels_cross_arrange sticky h.change]

theorem length_rearranged (hr : Rearranges (g.count axis) rearrange) :
    (rearrange (g.labels axis)).length = g.count axis :=
  (hr.perm (g.labels axis) rfl).length_eq

theorem WF.labelsArranged (hg : g.WF) (hr : Rearranges (g.count axis) rearrange)
    {arranged : {α : Type} → List α → List α → Prop}
    (h : arranged (g.labels axis) (rearrange (g.labels axis))) :
    LabelsArranged axis arranged g (g.relabel axis rearrange) := by
  have hlen := length_rearranged hr
  refine ⟨withLabels_wf hg ((hg.labels axis).perm (hr.perm _ rfl)) hlen, ?_, cells_withLabels hlen,
    labels_cross_withLabels⟩
  rwa [relabel, labels_withLabels hlen]

theorem count_relabel (hr : Rearranges (g.count axis) rearrange) :
    (g.relabel axis rearrange).count axis = g.count axis := by
  rw [count, relabel, labels_withLabels (length_rearranged hr), length_rearranged hr]

theorem relabel_relabel (h : Undoes (g.count axis) back rearrange) :
    (g.relabel axis rearrange).relabel axis back = g := by
  have hlen := length_rearranged h.change
  rw [relabel, relabel, labels_withLabels hlen, h.cancel _ rfl, withLabels_labels hlen]

/-! ## Moves and exchanges -/

variable {source target : LineRef} {a b : Nat}

theorem WF.move_eq (hg : g.WF) (ha : g.key axis source = .ok a) (hb : g.key axis target = .ok b)
    (sticky : Bool) :
    g.move axis source target sticky = .ok (g.arrange axis sticky (relocate a b)) := by
  rw [move, ha, hb]
  refine congrArg Except.ok (hg.arrange_congr sticky fun items hlen => ?_)
  exact (rearranges_relocate a (lt_of_key hb)).picked_range hlen

theorem swap_eq (ha : g.key axis source = .ok a) (hb : g.key axis target = .ok b)
    (sticky : Bool) :
    g.swap axis source target sticky = .ok (g.arrange axis sticky (exchange a b)) := by
  rw [swap, ha, hb]
  rfl

theorem moveLabel_eq (ha : g.key axis source = .ok a) (hb : g.key axis target = .ok b) :
    g.moveLabel axis source target = .ok (g.relabel axis (relocate a b)) := by
  rw [moveLabel, ha, hb]
  rfl

theorem swapLabels_eq (ha : g.key axis source = .ok a) (hb : g.key axis target = .ok b) :
    g.swapLabels axis source target = .ok (g.relabel axis (exchange a b)) := by
  rw [swapLabels, ha, hb]
  rfl

/-- A line that is moved is moved back by exchanging source and target. -/
theorem WF.move_undone (hg : g.WF) (ha : g.key axis source = .ok a)
    (hb : g.key axis target = .ok b) (sticky : Bool) :
    ∃ moved, g.move axis source target sticky = .ok moved ∧
      LinesArranged axis sticky (MovedTo a b) g moved ∧
      moved.move axis (.position b) (.position a) sticky = .ok g := by
  have halt := lt_of_key ha
  have hblt := lt_of_key hb
  have hundo := undoes_relocate halt hblt
  have hmoved := arrange_wf hg sticky hundo.change
  refine ⟨_, hg.move_eq ha hb sticky, hg.linesArranged sticky hundo.change ?_, ?_⟩
  · rintro α items hlen
    rw [← hlen] at halt hblt
    exact movedTo_relocate halt hblt
  · rw [← hg.count_arrange_axis sticky hundo.change] at halt hblt
    rw [hmoved.move_eq (key_position axis hblt) (key_position axis halt),
      hg.arrange_arrange sticky hundo]

/-- Two lines that are exchanged are exchanged back in the same way. -/
theorem WF.swap_undone (hg : g.WF) (ha : g.key axis source = .ok a)
    (hb : g.key axis target = .ok b) (sticky : Bool) :
    ∃ swapped, g.swap axis source target sticky = .ok swapped ∧
      LinesArranged axis sticky (Exchanged a b) g swapped ∧
      swapped.swap axis (.position a) (.position b) sticky = .ok g := by
  have halt := lt_of_key ha
  have hblt := lt_of_key hb
  have hundo := undoes_exchange halt hblt
  refine ⟨_, swap_eq ha hb sticky, hg.linesArranged sticky hundo.change ?_, ?_⟩
  · rintro α items hlen
    rw [← hlen] at halt hblt
    exact exchanged_exchange halt hblt
  · rw [← hg.count_arrange_axis sticky hundo.change] at halt hblt
    rw [swap_eq (key_position axis halt) (key_position axis hblt),
      hg.arrange_arrange sticky hundo]

theorem WF.moveLabel_undone (hg : g.WF) (ha : g.key axis source = .ok a)
    (hb : g.key axis target = .ok b) :
    ∃ moved, g.moveLabel axis source target = .ok moved ∧
      LabelsArranged axis (MovedTo a b) g moved ∧
      moved.moveLabel axis (.position b) (.position a) = .ok g := by
  have halt := lt_of_key ha
  have hblt := lt_of_key hb
  have hundo := undoes_relocate halt hblt
  refine ⟨_, moveLabel_eq ha hb, hg.labelsArranged hundo.change (movedTo_relocate halt hblt), ?_⟩
  rw [← count_relabel hundo.change] at halt hblt
  rw [moveLabel_eq (key_position axis hblt) (key_position axis halt), relabel_relabel hundo]

theorem WF.swapLabels_undone (hg : g.WF) (ha : g.key axis source = .ok a)
    (hb : g.key axis target = .ok b) :
    ∃ swapped, g.swapLabels axis source target = .ok swapped ∧
      LabelsArranged axis (Exchanged a b) g swapped ∧
      swapped.swapLabels axis (.position a) (.position b) = .ok g := by
  have halt := lt_of_key ha
  have hblt := lt_of_key hb
  have hundo := undoes_exchange halt hblt
  refine ⟨_, swapLabels_eq ha hb, hg.labelsArranged hundo.change (exchanged_exchange halt hblt), ?_⟩
  rw [← count_relabel hundo.change] at halt hblt
  rw [swapLabels_eq (key_position axis halt) (key_position axis hblt), relabel_relabel hundo]

/-- Sticky labels are moved like their lines. -/
theorem WF.move_sticky_eq (hg : g.WF) (ha : g.key axis source = .ok a)
    (hb : g.key axis target = .ok b) :
    g.move axis source target true =
      g.move axis source target false >>= moveLabel axis source target := by
  have hr := rearranges_relocate a (lt_of_key hb)
  have hkept := labels_arrange_loose hr
  rw [hg.move_eq ha hb, hg.move_eq ha hb, ← relabel_arrange hr]
  exact (moveLabel_eq ((key_congr hkept source).trans ha) ((key_congr hkept target).trans hb)).symm

theorem swap_sticky_eq (ha : g.key axis source = .ok a) (hb : g.key axis target = .ok b) :
    g.swap axis source target true =
      g.swap axis source target false >>= swapLabels axis source target := by
  have hr := rearranges_exchange a b (g.count axis)
  have hkept := labels_arrange_loose hr
  rw [swap_eq ha hb, swap_eq ha hb, ← relabel_arrange hr]
  exact (swapLabels_eq ((key_congr hkept source).trans ha) ((key_congr hkept target).trans hb)).symm

/-- Moving a line of a reachable grid puts it where it is to stand, exchanging two lines puts each
in the place of the other, and all other lines keep their order; moving back and exchanging again
restore the grid. So do the same changes of the labels alone, and with sticky labels a move or an
exchange is the one without followed by that of the labels. -/
theorem Reachable.moves_undone (hg : g.Reachable) (ha : g.key axis source = .ok a)
    (hb : g.key axis target = .ok b) (sticky : Bool) :
    (∃ moved, g.move axis source target sticky = .ok moved ∧
      LinesArranged axis sticky (MovedTo a b) g moved ∧
      moved.move axis (.position b) (.position a) sticky = .ok g) ∧
    (∃ swapped, g.swap axis source target sticky = .ok swapped ∧
      LinesArranged axis sticky (Exchanged a b) g swapped ∧
      swapped.swap axis (.position a) (.position b) sticky = .ok g) ∧
    (∃ moved, g.moveLabel axis source target = .ok moved ∧
      LabelsArranged axis (MovedTo a b) g moved ∧
      moved.moveLabel axis (.position b) (.position a) = .ok g) ∧
    (∃ swapped, g.swapLabels axis source target = .ok swapped ∧
      LabelsArranged axis (Exchanged a b) g swapped ∧
      swapped.swapLabels axis (.position a) (.position b) = .ok g) ∧
    g.move axis source target true =
      g.move axis source target false >>= moveLabel axis source target ∧
    g.swap axis source target true =
      g.swap axis source target false >>= swapLabels axis source target :=
  ⟨hg.wf.move_undone ha hb sticky, hg.wf.swap_undone ha hb sticky, hg.wf.moveLabel_undone ha hb,
    hg.wf.swapLabels_undone ha hb, hg.wf.move_sticky_eq ha hb, swap_sticky_eq ha hb⟩

/-- The first of three columns is moved behind the others with its label, and moved back. -/
theorem moves_undone_first_column :
    Reachable ⟨[⟨none, [.text "1", .text "2", .text "3"]⟩], [some "a", none, some "c"]⟩ ∧
      LinesArranged .column true (MovedTo 0 2)
        ⟨[⟨none, [.text "1", .text "2", .text "3"]⟩], [some "a", none, some "c"]⟩
        ⟨[⟨none, [.text "2", .text "3", .text "1"]⟩], [none, some "c", some "a"]⟩ ∧
      move .column (.position 2) (.position 0) true
          ⟨[⟨none, [.text "2", .text "3", .text "1"]⟩], [none, some "c", some "a"]⟩ =
        .ok ⟨[⟨none, [.text "1", .text "2", .text "3"]⟩], [some "a", none, some "c"]⟩ := by
  have hmade : ofLabeledRows [[.text "a", .null, .text "c"], [.text "1", .text "2", .text "3"]]
      false true =
        .ok ⟨[⟨none, [.text "1", .text "2", .text "3"]⟩], [some "a", none, some "c"]⟩ := rfl
  have hg := Reachable.ofLabeledRows hmade
  have hk : key .column (.label "a")
      ⟨[⟨none, [.text "1", .text "2", .text "3"]⟩], [some "a", none, some "c"]⟩ = .ok 0 := rfl
  have htarget : key .column (.position 2)
      ⟨[⟨none, [.text "1", .text "2", .text "3"]⟩], [some "a", none, some "c"]⟩ = .ok 2 := rfl
  obtain ⟨⟨moved, hmoved, harranged, hback⟩, _⟩ := hg.moves_undone hk htarget true
  cases hmoved
  exact ⟨hg, harranged, hback⟩

end Grid

end Tabular
