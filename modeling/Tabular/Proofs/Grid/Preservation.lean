/-
Every operation on a grid keeps the invariant, whatever its arguments. One lemma per operation;
those that can fail are stated for the grid they answer with. Merging needs the invariant of the
other grid too, since it takes labels from there.
-/
import Tabular.Proofs.Grid.Transpose

namespace Tabular.Grid

variable {g changed other : Grid} {axis : Axis}

/-! ## Whole lines -/

theorem insertLine_wf (hg : g.WF) (index : Nat) {line : Line}
    (hf : Fresh line.label (g.labels axis)) : (g.insertLine axis index line).WF := by
  rw [hg.insertLine_eq]
  refine along_wf hg fun hs => insertRow_wf hs index ?_
  rwa [labels_seenFrom]

theorem pick_wf (hg : g.WF) (axis : Axis) {keys : List Nat} {n : Nat}
    (hkeys : keys.Sublist (List.range n)) : (g.pick axis keys).WF := by
  rw [hg.pick_eq]
  exact along_wf hg fun hs => pickRows_wf hs hkeys

theorem removeLine_wf (hg : g.WF) (axis : Axis) (k : Nat) : (g.removeLine axis k).WF := by
  rw [hg.removeLine_eq]
  exact along_wf hg fun hs => removeRow_wf hs k

theorem discardLine_wf (hg : g.WF) (axis : Axis) (test : Line → Bool) (k : Nat) :
    (g.discardLine axis test k).WF := by
  unfold discardLine
  split
  · exact removeLine_wf hg axis k
  · exact hg

theorem discard_wf (hg : g.WF) (axis : Axis) (test : Line → Bool) : (g.discard axis test).WF := by
  rw [hg.discard_eq]
  exact along_wf hg fun hs => keepRows_wf hs _

/-- A label that is free for a new line can be added. -/
theorem fresh_of_freeLabel {label stored : Option String}
    (h : g.freeLabel axis label none = .ok stored) : Fresh stored (g.labels axis) := by
  rcases freeLabel_eq_ok h with hf | ⟨k, hk, _⟩
  · exact hf
  · -- a new line owns no label yet
    cases hk

theorem insert_wf (hg : g.WF) {index : Nat} {cells : List Cell} {label : Option String}
    (h : g.insert axis index cells label = .ok changed) : changed.WF := by
  obtain ⟨stored, hstored, rfl⟩ := map_eq_ok_iff.1 h
  exact insertLine_wf hg index (fresh_of_freeLabel hstored)

theorem update_wf (hg : g.WF) {ref : LineRef} {cells : List Cell}
    (h : g.update axis ref cells = .ok changed) : changed.WF := by
  obtain ⟨k, _, rfl⟩ := map_eq_ok_iff.1 h
  rw [hg.writeLine_eq]
  exact along_wf hg fun hs => writeRow_wf hs k cells

theorem take_wf (hg : g.WF) {ref : LineRef} {cells : List Cell}
    (h : g.take axis ref = .ok (cells, changed)) : changed.WF := by
  obtain ⟨⟨k, line⟩, _, he⟩ := map_eq_ok_iff.1 h
  cases he
  exact removeLine_wf hg axis k

theorem delete_wf (hg : g.WF) {ref : LineRef} (h : g.delete axis ref = .ok changed) :
    changed.WF := by
  obtain ⟨⟨cells, rest⟩, htake, rfl⟩ := map_eq_ok_iff.1 h
  exact take_wf hg htake

theorem filter_wf (hg : g.WF) (axis : Axis) (test : Nat → Line → Bool) :
    (g.filter axis test).WF := by
  rw [hg.filter_eq]
  exact along_wf hg fun hs => keepRows_wf hs test

/-- A search picks lines in their order. -/
theorem exists_pick_of_searchWith {query : Query} (h : g.searchWith query axis = .ok changed) :
    ∃ keys n, List.Sublist keys (List.range n) ∧ changed = g.pick axis keys := by
  obtain ⟨keys, hkeys, rfl⟩ := map_eq_ok_iff.1 h
  obtain ⟨bound, _, rfl⟩ := map_eq_ok_iff.1 (mapError_eq_ok_iff.1 hkeys)
  exact ⟨_, _, List.filter_sublist, rfl⟩

theorem searchWith_wf (hg : g.WF) {query : Query} (h : g.searchWith query axis = .ok changed) :
    changed.WF := by
  obtain ⟨keys, n, hkeys, rfl⟩ := exists_pick_of_searchWith h
  exact pick_wf hg axis hkeys

/-- A search by a text leaves the grid as it is or is a search by a query. -/
theorem search_eq_ok {source : String} (h : g.search source axis = .ok changed) :
    changed = g ∨ ∃ query, g.searchWith query axis = .ok changed := by
  unfold search at h
  split at h
  · cases h
    exact .inl rfl
  · obtain ⟨query, _, h⟩ := bind_eq_ok_iff.1 h
    exact .inr ⟨query, h⟩

theorem search_wf (hg : g.WF) {source : String} (h : g.search source axis = .ok changed) :
    changed.WF := by
  rcases search_eq_ok h with rfl | ⟨query, h⟩
  · exact hg
  · exact searchWith_wf hg h

/-! ## Single cells -/

theorem putCell_wf (hg : g.WF) (axis : Axis) (key cross : Nat) (value : Cell) :
    (g.putCell axis key cross value).WF := by
  refine modify_wf hg _ (fun _ => rfl) fun row hrow => ?_
  rw [List.length_set]
  exact hg.width row hrow

theorem setValue_wf (hg : g.WF) {row column : LineRef} {value : Cell}
    (h : g.setValue row column value = .ok changed) : changed.WF := by
  obtain ⟨r, _, h⟩ := bind_eq_ok_iff.1 h
  obtain ⟨c, _, h⟩ := bind_eq_ok_iff.1 h
  cases h
  exact putCell_wf hg .row r c value

theorem setCell_wf (hg : g.WF) {key : Nat} {cross : LineRef} {value : Cell}
    (h : g.setCell axis key cross value = .ok changed) : changed.WF := by
  obtain ⟨c, _, rfl⟩ := map_eq_ok_iff.1 h
  exact putCell_wf hg axis key c value

theorem setCells_wf (hg : g.WF) (axis : Axis) (key : Nat) (writes : List (LineRef × Cell)) :
    (g.setCells axis key writes).1.WF := by
  induction writes generalizing g with
  | nil => exact hg
  | cons write writes ih =>
    unfold setCells
    split
    · rename_i changed hset
      exact ih (setCell_wf hg hset)
    · exact hg

/-! ## Labels -/

theorem withLabels_wf (hg : g.WF) {labels : List (Option String)} (hlabels : UniqueLabels labels)
    (hlen : labels.length = g.count axis) : (g.withLabels axis labels).WF := by
  have hself := labels_withLabels hlen
  cases axis with
  | row =>
    refine hg.withRows ?_ ?_
    · intro row hrow
      obtain ⟨i, hi, rfl⟩ := List.getElem_of_mem hrow
      have hlt : i < g.rows.length := by
        rw [List.length_zipWith] at hi
        omega
      rw [List.getElem_zipWith]
      exact hg.width g.rows[i] (List.getElem_mem hlt)
    · show UniqueLabels ((g.withLabels .row labels).labels .row)
      rw [hself]
      exact hlabels
  | column =>
    refine ⟨?_, fun axis => ?_⟩
    · intro row hrow
      exact (hg.width row hrow).trans hlen.symm
    · cases axis with
      | row => exact hg.labels .row
      | column => exact hlabels

theorem rename_wf (hg : g.WF) {ref : LineRef} {label : Option String}
    (h : g.rename axis ref label = .ok changed) : changed.WF := by
  obtain ⟨k, hk, h⟩ := bind_eq_ok_iff.1 h
  obtain ⟨stored, hstored, h⟩ := bind_eq_ok_iff.1 h
  cases h
  refine withLabels_wf hg ?_ (List.length_set ..)
  rcases freeLabel_eq_ok hstored with hf | ⟨j, hj, hat⟩
  · exact (hg.labels axis).set hf k
  · -- the line carries the label already
    cases hj
    obtain ⟨hlt, rfl⟩ := List.getElem?_eq_some_iff.1 hat
    rw [List.set_getElem_self]
    exact hg.labels axis

theorem clearLabel_wf (hg : g.WF) {ref : LineRef} (h : g.clearLabel axis ref = .ok changed) :
    changed.WF := by
  obtain ⟨k, _, rfl⟩ := map_eq_ok_iff.1 h
  exact withLabels_wf hg ((hg.labels axis).set (fresh_none _) k) (List.length_set ..)

theorem swapLabels_wf (hg : g.WF) {a b : LineRef} (h : g.swapLabels axis a b = .ok changed) :
    changed.WF := by
  obtain ⟨a, _, h⟩ := bind_eq_ok_iff.1 h
  obtain ⟨b, _, h⟩ := bind_eq_ok_iff.1 h
  cases h
  have hp := exchange_perm a b (g.labels axis)
  exact withLabels_wf hg ((hg.labels axis).perm hp) hp.length_eq

theorem moveLabel_wf (hg : g.WF) {source target : LineRef}
    (h : g.moveLabel axis source target = .ok changed) : changed.WF := by
  obtain ⟨b, hb, h⟩ := bind_eq_ok_iff.1 h
  obtain ⟨a, _, h⟩ := bind_eq_ok_iff.1 h
  cases h
  have hp := relocate_perm a (lt_of_key hb)
  exact withLabels_wf hg ((hg.labels axis).perm hp) hp.length_eq

/-- Labels that are set are unique and as many as the lines. -/
theorem exists_withLabels_of_setLabels {labels : List (Option String)}
    (h : g.setLabels axis labels = .ok changed) :
    ∃ stored, changed = g.withLabels axis stored ∧ stored.length = g.count axis ∧
      UniqueLabels stored := by
  unfold setLabels at h
  simp only at h
  split at h
  · cases h
  · split at h
    · cases h
    · rename_i hlen
      split at h
      · cases h
      · rename_i hrepeated
        cases h
        refine ⟨_, rfl, ?_, (uniqueLabels_of_firstRepeated hrepeated).rightpad_none _⟩
        rw [List.length_rightpad]
        omega

theorem setLabels_wf (hg : g.WF) {labels : List (Option String)}
    (h : g.setLabels axis labels = .ok changed) : changed.WF := by
  obtain ⟨stored, rfl, hlen, hunique⟩ := exists_withLabels_of_setLabels h
  exact withLabels_wf hg hunique hlen

theorem setLabelsIfAny_wf (hg : g.WF) {labels : List (Option String)}
    (h : g.setLabelsIfAny axis labels = .ok changed) : changed.WF := by
  unfold setLabelsIfAny at h
  split at h
  · cases h
    exact hg
  · exact setLabels_wf hg h

/-- Setting labels changes neither the cells nor the other axis. -/
theorem setLabelsIfAny_frame {labels : List (Option String)}
    (h : g.setLabelsIfAny axis labels = .ok changed) :
    changed.cells = g.cells ∧ changed.count axis = g.count axis ∧
      changed.labels axis.cross = g.labels axis.cross := by
  unfold setLabelsIfAny at h
  split at h
  · cases h
    exact ⟨rfl, rfl, rfl⟩
  · obtain ⟨stored, rfl, hlen, _⟩ := exists_withLabels_of_setLabels h
    refine ⟨cells_withLabels hlen, ?_, labels_cross_withLabels⟩
    rw [count, labels_withLabels hlen, hlen]

/-! ## Rearranging -/

theorem count_seenFrom (axis : Axis) (g : Grid) : (g.seenFrom axis).rows.length = g.count axis := by
  rw [count, ← labels_seenFrom, labels, List.length_map]

theorem WF.count_arrange (hg : g.WF) {rearrange : {α : Type} → List α → List α}
    (hr : Rearranges (g.count axis) rearrange) :
    (g.arrange axis true rearrange).count axis = g.count axis := by
  rw [count, hg.arrange_sticky_eq hr, labels_along]
  show ((rearrange (g.seenFrom axis).rows).map (·.label)).length = g.count axis
  rw [List.length_map, (hr.perm _ (count_seenFrom axis g)).length_eq, count_seenFrom]

/-- Rearranging the lines keeps the invariant. -/
theorem arrange_wf (hg : g.WF) (sticky : Bool) {rearrange : {α : Type} → List α → List α}
    (hr : Rearranges (g.count axis) rearrange) : (g.arrange axis sticky rearrange).WF := by
  have hmoved : (g.arrange axis true rearrange).WF := by
    rw [hg.arrange_sticky_eq hr]
    exact along_wf hg fun hs => rows_perm_wf hs (hr.perm _ (count_seenFrom axis g))
  cases sticky with
  | true => exact hmoved
  | false =>
    -- the labels stay where they were, and there are as many lines as before
    rw [arrange_loose_eq hr]
    exact withLabels_wf hmoved (hg.labels axis) (hg.count_arrange hr).symm

/-- The order of the lines after one is moved. -/
theorem relocate_range_perm (source : Nat) {target n : Nat} (h : target < n) :
    (relocate source target (List.range n)).Perm (List.range n) :=
  relocate_perm source (by rwa [List.length_range])

/-- One grid comes from another by rearranging the lines of an axis. -/
def Rearranged (axis : Axis) (sticky : Bool) (g changed : Grid) : Prop :=
  ∃ rearrange : {α : Type} → List α → List α,
    Rearranges (g.count axis) rearrange ∧ changed = g.arrange axis sticky rearrange

theorem rearranged_of_swap {a b : LineRef} {sticky : Bool}
    (h : g.swap axis a b sticky = .ok changed) : Rearranged axis sticky g changed := by
  obtain ⟨a, _, h⟩ := bind_eq_ok_iff.1 h
  obtain ⟨b, _, h⟩ := bind_eq_ok_iff.1 h
  cases h
  exact ⟨_, rearranges_exchange a b _, rfl⟩

theorem rearranged_of_move {source target : LineRef} {sticky : Bool}
    (h : g.move axis source target sticky = .ok changed) : Rearranged axis sticky g changed := by
  obtain ⟨a, _, h⟩ := bind_eq_ok_iff.1 h
  obtain ⟨b, hb, h⟩ := bind_eq_ok_iff.1 h
  cases h
  exact ⟨_, rearranges_picked (relocate_range_perm a (lt_of_key hb)), rfl⟩

theorem rearranged_of_orderBy {ref : LineRef} {direction : Direction} {sticky : Bool}
    (h : g.orderBy axis ref direction sticky = .ok changed) :
    Rearranged axis sticky g changed := by
  obtain ⟨k, _, rfl⟩ := map_eq_ok_iff.1 h
  exact ⟨_, rearranges_picked (List.mergeSort_perm _ _), rfl⟩

theorem Rearranged.wf {sticky : Bool} (h : Rearranged axis sticky g changed) (hg : g.WF) :
    changed.WF := by
  obtain ⟨rearrange, hr, rfl⟩ := h
  exact arrange_wf hg sticky hr

/-! ## Two grids -/

/-- A label that is not taken can be added. -/
theorem fresh_of_not_taken {label : Option String} (hlabel : label ≠ some "")
    (hfree : ¬ label.any (g.hasLabel axis ·)) : Fresh label (g.labels axis) := by
  rcases label with _ | l
  · exact fresh_none _
  · refine .inr ⟨hlabel, find?_eq_none_iff.1 ?_⟩
    simpa [hasLabel] using hfree

theorem addLine_wf (hg : g.WF) {line : Line} (hline : line.label ≠ some "") :
    (g.addLine axis line).WF := by
  unfold addLine
  split
  · exact hg
  · rename_i hfree
    exact insertLine_wf hg _ (fresh_of_not_taken hline hfree)

theorem adoptLabel_wf (hg : g.WF) (axis : Axis) (key : Nat) {label : Option String}
    (hlabel : label ≠ some "") : (g.adoptLabel axis key label).WF := by
  unfold adoptLabel
  split
  · split
    · exact hg
    · rename_i hfree
      exact withLabels_wf hg ((hg.labels axis).set (fresh_of_not_taken hlabel hfree) key)
        (List.length_set ..)
  · exact hg

/-- A fold keeps the invariant when every step with an item of the list does. -/
theorem foldl_wf {α : Type} {step : Grid → α → Grid} {items : List α} (hg : g.WF)
    (hstep : ∀ g, ∀ item ∈ items, g.WF → (step g item).WF) : (items.foldl step g).WF := by
  induction items generalizing g with
  | nil => exact hg
  | cons item items ih =>
    exact ih (hstep g item List.mem_cons_self hg)
      fun g i hi => hstep g i (List.mem_cons_of_mem _ hi)

/-- The lines of an axis carry its labels. -/
theorem map_label_lines (axis : Axis) (g : Grid) :
    (g.lines axis).map (·.label) = g.labels axis :=
  labels_seenFrom axis g

/-- No line of a grid is labelled by the empty text. -/
theorem WF.line_named (hg : g.WF) {line : Line} (hline : line ∈ g.lines axis) :
    line.label ≠ some "" := by
  intro hempty
  refine (hg.labels axis).named ?_
  rw [← map_label_lines]
  exact List.mem_map.2 ⟨line, hline, hempty⟩

theorem WF.name_named (hg : g.WF) {before added key : Nat} {label : Option String}
    (hname : (label, key) ∈ ((g.labels axis).zipIdx.drop before).take added) :
    label ≠ some "" := by
  have hmem := List.fst_mem_of_mem_zipIdx (List.mem_of_mem_drop (List.mem_of_mem_take hname))
  rintro rfl
  exact (hg.labels axis).named hmem

theorem merge_wf (hg : g.WF) (axis : Axis) (ho : other.WF) : (g.merge axis other).WF := by
  refine foldl_wf (foldl_wf hg fun g line hline hg => addLine_wf hg (ho.line_named hline)) ?_
  rintro g ⟨label, key⟩ hname hg
  exact adoptLabel_wf hg axis.cross key (ho.name_named hname)

end Tabular.Grid
