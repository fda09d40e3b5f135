/-
Putting a grid together again from its cells and its labels. The two determine it; labels that
could stand on an axis are accepted when they are as many as its lines, and then change nothing
else. A grid made from rows of one width has these rows for cells.
-/
import Tabular.Proofs.Grid.Reachable

namespace Tabular

/-! ## Labels that are accepted -/

theorem normalizeLabel_eq_self {label : Option String} (h : label ≠ some "") :
    normalizeLabel label = label := by
  cases label with
  | none => rfl
  | some l =>
    have hl : (l != "") = true := bne_iff_ne.2 fun he => h (congrArg some he)
    exact Option.filter_some_pos hl

/-- What changes at most the empty text changes none of the labels. -/
theorem UniqueLabels.map_eq_self {labels : List (Option String)} (h : UniqueLabels labels)
    {f : Option String → Option String} (hf : ∀ label, label ≠ some "" → f label = label) :
    labels.map f = labels := by
  conv_rhs => rw [← List.map_id labels]
  refine List.map_congr_left fun label hlabel => hf label ?_
  rintro rfl
  exact h.named hlabel

/-- Texts without a repetition are only remembered. -/
theorem firstRepeated_append {seen texts : List String} (rest : List String) (hn : texts.Nodup)
    (hseen : ∀ s ∈ texts, s ∉ seen) :
    Grid.firstRepeated seen (texts ++ rest) = Grid.firstRepeated (texts.reverse ++ seen) rest := by
  induction texts generalizing seen with
  | nil => rfl
  | cons s texts ih =>
    obtain ⟨hs, hn⟩ := List.nodup_cons.1 hn
    have hfirst : seen.contains s = false := by
      simpa using hseen s List.mem_cons_self
    have hrest : ∀ t ∈ texts, t ∉ s :: seen := by
      intro t ht
      rw [List.mem_cons, not_or]
      refine ⟨?_, hseen t (List.mem_cons_of_mem _ ht)⟩
      rintro rfl
      exact hs ht
    rw [List.cons_append, Grid.firstRepeated, hfirst, if_neg Bool.false_ne_true, ih hn hrest,
      List.reverse_cons, List.append_assoc, List.singleton_append]

theorem firstRepeated_of_nodup {seen texts : List String} (hn : texts.Nodup)
    (hseen : ∀ s ∈ texts, s ∉ seen) : Grid.firstRepeated seen texts = none := by
  have happend := firstRepeated_append [] hn hseen
  rwa [List.append_nil] at happend

theorem UniqueLabels.firstRepeated_eq_none {labels : List (Option String)}
    (h : UniqueLabels labels) : Grid.firstRepeated [] (labels.filterMap id) = none := by
  have hnodup : (labels.filterMap id).Nodup := by
    refine List.pairwise_filterMap.2 (h.distinct.imp ?_)
    rintro a b hab l rfl m rfl rfl
    exact hab rfl rfl
  exact firstRepeated_of_nodup hnodup fun _ _ => List.not_mem_nil

namespace Grid

variable {g h : Grid} {axis : Axis} {labels : List (Option String)}

/-! ## Setting labels -/

/-- As many labels as an axis has lines are set, and nothing else is changed. -/
theorem exists_setLabelsIfAny (hu : UniqueLabels labels) (hlen : labels.length = g.count axis) :
    ∃ changed, g.setLabelsIfAny axis labels = .ok changed ∧ changed.cells = g.cells ∧
      changed.labels axis = labels ∧ changed.labels axis.cross = g.labels axis.cross := by
  by_cases hempty : labels = []
  · subst hempty
    exact ⟨g, rfl, rfl, List.eq_nil_of_length_eq_zero hlen.symm, rfl⟩
  · have hpos : 0 < g.count axis := hlen ▸ List.length_pos_iff.2 hempty
    have hpad : labels.rightpad (g.count axis) none = labels := by
      simp [List.rightpad, hlen]
    refine ⟨g.withLabels axis labels, ?_, cells_withLabels hlen, labels_withLabels hlen,
      labels_cross_withLabels⟩
    unfold setLabelsIfAny setLabels
    simp only [hu.map_eq_self fun _ => normalizeLabel_eq_self, hu.firstRepeated_eq_none, hpad]
    rw [if_neg (by simpa using hempty), if_neg (by omega), if_neg (by omega)]

/-! ## Grids made from rows of one width -/

section

variable {rows : List (List Cell)} {width : Nat}

theorem foldr_width (hwidth : ∀ row ∈ rows, row.length = width) (hne : rows ≠ []) :
    rows.foldr (fun row width => max row.length width) 0 = width := by
  refine Nat.le_antisymm ?_ ?_
  · clear hne
    induction rows with
    | nil => exact Nat.zero_le _
    | cons row rows ih =>
      rw [List.foldr_cons, Nat.max_le]
      exact ⟨Nat.le_of_eq (hwidth row List.mem_cons_self),
        ih fun r hr => hwidth r (List.mem_cons_of_mem _ hr)⟩
  · obtain ⟨row, hrow⟩ := List.exists_mem_of_ne_nil rows hne
    exact hwidth row hrow ▸ length_le_width hrow

theorem cells_ofRows (hwidth : ∀ row ∈ rows, row.length = width) : (ofRows rows).cells = rows := by
  by_cases hne : rows = []
  · rw [hne]
    rfl
  · simp only [cells, ofRows, foldr_width hwidth hne, List.map_map, Function.comp_def]
    conv_rhs => rw [← List.map_id rows]
    refine List.map_congr_left fun row hrow => ?_
    simp [List.rightpad, hwidth row hrow]

theorem labels_ofRows_row : (ofRows rows).labels .row = List.replicate rows.length none := by
  simp [labels, ofRows, Function.comp_def]

theorem labels_ofRows_column (hwidth : ∀ row ∈ rows, row.length = width)
    (hempty : rows = [] → width = 0) :
    (ofRows rows).labels .column = List.replicate width none := by
  by_cases hne : rows = []
  · rw [hempty hne, hne]
    rfl
  · simp only [labels, ofRows, foldr_width hwidth hne]

end

theorem WF.cells_width (hg : g.WF) : ∀ row ∈ g.cells, row.length = g.count .column := by
  intro row hrow
  obtain ⟨line, hline, rfl⟩ := List.mem_map.1 hrow
  exact hg.width line hline

theorem length_cells (g : Grid) : g.cells.length = g.count .row := by
  rw [cells, List.length_map, length_rows]

/-- A grid that is wide enough is not widened. -/
theorem WF.widen_eq_self (hg : g.WF) {width : Nat} (h : width ≤ g.count .column) :
    g.widen width = g := by
  have hpad : ∀ {α : Type} (items : List α) (a : α), items.length = g.count .column →
      items.rightpad width a = items := by
    intro α items a hlen
    rw [List.rightpad, Nat.sub_eq_zero_of_le (hlen ▸ h), List.replicate_zero, List.append_nil]
  refine eq_of_cells_of_labels ?_ fun axis => ?_
  · simp only [cells, widen, List.map_map, Function.comp_def]
    exact List.map_congr_left fun row hrow => hpad _ _ (hg.width row hrow)
  · cases axis with
    | row => exact labels_widen_row width g
    | column => exact hpad g.columnLabels none rfl

end Grid

end Tabular
