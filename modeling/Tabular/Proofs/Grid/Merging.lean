/-
Merging two grids along an axis. The lines of the second grid that have no label, or one that the
first grid lacks, come after those of the first, in their order, and all lines are filled up with
nulls to one width. Where this makes the cross axis longer, its new lines get the labels that they
have in the second grid, unless the first grid has used them. So a merge that finds no new line
changes nothing, and neither does a second merge of the same labelled lines.
-/
import Tabular.Proofs.Grid.Inserting

namespace Tabular

/-- A line has no label, or one that is not among those given. -/
def Line.NewTo (labels : List (Option String)) (line : Line) : Prop :=
  line.label = none ∨ line.label ∉ labels

instance (labels : List (Option String)) (line : Line) : Decidable (line.NewTo labels) :=
  inferInstanceAs (Decidable (_ ∨ _))

/-- One more label makes a difference only to a line that has it. -/
theorem Line.newTo_insertIdx_iff {labels : List (Option String)} {label : Option String}
    {line : Line} (h : label = none ∨ line.label ≠ label) {i : Nat} (hi : i ≤ labels.length) :
    line.NewTo (labels.insertIdx i label) ↔ line.NewTo labels := by
  unfold Line.NewTo
  rw [List.mem_insertIdx hi, not_or]
  constructor
  · exact Or.imp_right And.right
  · rintro (hnone | hm)
    · exact .inl hnone
    · rcases h with rfl | hne
      · exact (em (line.label = none)).imp_right fun hsome => ⟨hsome, hm⟩
      · exact .inr ⟨hne, hm⟩

namespace Grid

variable {g other merged : Grid} {axis : Axis} {line : Line} {added lines : List Line}
  {width : Nat}

/-! ## Lines that are added -/

/-- The lines of another grid that are new to a grid. -/
def newLines (axis : Axis) (g other : Grid) : List Line :=
  (other.lines axis).filter fun line => line.NewTo (g.labels axis)

theorem newTo_labels_iff {line : Line} :
    line.NewTo (g.labels axis) ↔ ¬ line.label.any (g.hasLabel axis ·) := by
  obtain ⟨label, cells⟩ := line
  cases label with
  | none => simp [Line.NewTo]
  | some l => simp [Line.NewTo, hasLabel_iff]

theorem addLine_eq (axis : Axis) (g : Grid) (line : Line) :
    g.addLine axis line =
      if line.NewTo (g.labels axis) then g.insertLine axis (g.count axis) line else g := by
  simp only [newTo_labels_iff, ite_not]
  rfl

/-- Lines of one width have been put in after the last line. -/
structure LinesAdded (axis : Axis) (g : Grid) (added : List Line) (width : Nat) (merged : Grid) :
    Prop where
  wf : merged.WF
  lines : merged.lines axis =
    (g.lines axis ++ added).map (·.padded (merged.count axis.cross))
  labels_cross : merged.labels axis.cross =
    (g.labels axis.cross).rightpad (if added = [] then 0 else width) none

theorem WF.linesAdded_nil (hg : g.WF) (axis : Axis) (width : Nat) :
    LinesAdded axis g [] width g := by
  refine ⟨hg, ?_, (rightpad_eq_self (Nat.zero_le _) none).symm⟩
  rw [List.append_nil, hg.map_padded_lines]

theorem LinesAdded.count_cross (h : LinesAdded axis g added width merged) :
    merged.count axis.cross = max (g.count axis.cross) (if added = [] then 0 else width) := by
  rw [count, h.labels_cross, List.length_rightpad, count, Nat.max_comm]

/-- A line is put in, and then the others. -/
theorem LinesAdded.of_insertLine (hg : g.WF) (hf : Fresh line.label (g.labels axis))
    (hwidth : line.cells.length = width)
    (h : LinesAdded axis (g.insertLine axis (g.count axis) line) added width merged) :
    LinesAdded axis g (line :: added) width merged := by
  have hinserted := hg.lineInserted (List.append_nil (g.lines axis)).symm hf
  rw [length_lines] at hinserted
  have hle : (g.insertLine axis (g.count axis) line).count axis.cross ≤
      merged.count axis.cross := by
    rw [h.count_cross]
    exact Nat.le_max_left ..
  refine ⟨h.wf, ?_, ?_⟩
  · rw [h.lines, hinserted.lines, List.map_append, Line.map_padded_padded hle, ← List.map_append,
      List.append_assoc]
    rfl
  · rw [h.labels_cross, hg.labels_cross_insertLine, hwidth, if_neg (List.cons_ne_nil _ _)]
    split
    · exact rightpad_eq_self (Nat.zero_le _) none
    · exact rightpad_rightpad_of_le (Nat.le_refl width) _ none

/-- Putting a line in takes its label only, which no later line has. -/
theorem filter_newTo_insertLine (axis : Axis) (g : Grid)
    (hf : Fresh line.label (lines.map (·.label))) :
    lines.filter (fun later =>
        later.NewTo ((g.insertLine axis (g.count axis) line).labels axis)) =
      lines.filter fun later => later.NewTo (g.labels axis) := by
  refine List.filter_congr fun later hlater => decide_eq_decide.2 ?_
  rw [labels_insertLine]
  refine Line.newTo_insertIdx_iff (hf.imp_right fun h heq => h.2 ?_) (Nat.le_refl _)
  exact heq ▸ List.mem_map_of_mem hlater

/-- Of lines with unique labels those are added that are new beforehand. -/
theorem WF.linesAdded_foldl (hg : g.WF) (hunique : UniqueLabels (lines.map (·.label)))
    (hwidth : ∀ line ∈ lines, line.cells.length = width) :
    LinesAdded axis g (lines.filter fun line => line.NewTo (g.labels axis)) width
      (lines.foldl (addLine axis) g) := by
  induction lines generalizing g with
  | nil => exact hg.linesAdded_nil axis width
  | cons line lines ih =>
    rw [List.forall_mem_cons] at hwidth
    have hnamed : line.label ≠ some "" :=
      fun hempty => hunique.named (List.mem_cons.2 (.inl hempty.symm))
    rw [List.map_cons, uniqueLabels_cons_iff] at hunique
    rw [List.foldl_cons, addLine_eq]
    by_cases hnew : line.NewTo (g.labels axis)
    · have hf : Fresh line.label (g.labels axis) := hnew.imp_right fun hm => ⟨hnamed, hm⟩
      rw [if_pos hnew, List.filter_cons, if_pos (decide_eq_true hnew),
        ← filter_newTo_insertLine axis g hunique.1]
      exact (ih (insertLine_wf hg _ hf) hunique.2 hwidth.2).of_insertLine hg hf hwidth.1
    · rw [if_neg hnew, List.filter_cons, if_neg (mt of_decide_eq_true hnew)]
      exact ih hg hunique.2 hwidth.2

/-! ## Labels that are adopted -/

/-- A label, unless it is taken. -/
def untaken (taken : List (Option String)) (label : Option String) : Option String :=
  if taken.contains label then none else label

theorem untaken_of_mem {taken : List (Option String)} {label : Option String}
    (h : label ∈ taken) : untaken taken label = none := if_pos (List.contains_iff_mem.2 h)

theorem untaken_of_not_mem {taken : List (Option String)} {label : Option String}
    (h : label ∉ taken) : untaken taken label = label := if_neg (mt List.contains_iff_mem.1 h)

theorem untaken_none (taken : List (Option String)) : untaken taken none = none := ite_self none

theorem untaken_append {taken : List (Option String)} {name label : Option String}
    (h : name = none ∨ label ≠ name) :
    untaken (taken ++ [untaken taken name]) label = untaken taken label := by
  cases label with
  | none => rw [untaken_none, untaken_none]
  | some l =>
    have hne : some l ≠ untaken taken name := by
      unfold untaken
      split
      · exact Option.some_ne_none l
      · rcases h with rfl | hne
        · exact Option.some_ne_none l
        · exact hne
    have hmem : some l ∈ taken ++ [untaken taken name] ↔ some l ∈ taken := by
      rw [List.mem_append, List.mem_singleton]
      exact or_iff_left hne
    by_cases htaken : some l ∈ taken
    · rw [untaken_of_mem htaken, untaken_of_mem (hmem.2 htaken)]
    · rw [untaken_of_not_mem htaken, untaken_of_not_mem (mt hmem.1 htaken)]

theorem adoptLabel_eq {before after : List (Option String)} (label : Option String)
    (hlabels : g.labels axis = before ++ none :: after) (hafter : ∀ l, some l ∉ after) :
    g.adoptLabel axis before.length label =
      g.withLabels axis (before ++ untaken before label :: after) := by
  have hkept : g.withLabels axis (before ++ none :: after) = g := by
    rw [← hlabels, withLabels_self]
  cases label with
  | none => rw [untaken_none, hkept, adoptLabel]
  | some l =>
    have htaken : g.hasLabel axis l = true ↔ some l ∈ before := by
      rw [hasLabel_iff, hlabels, List.mem_append, List.mem_cons]
      simp [hafter l]
    unfold adoptLabel
    by_cases hm : some l ∈ before
    · rw [untaken_of_mem hm, hkept]
      exact if_pos (htaken.2 hm)
    · rw [untaken_of_not_mem hm]
      refine (if_neg (mt htaken.1 hm)).trans ?_
      rw [hlabels, List.set_append_right _ _ (Nat.le_refl _), Nat.sub_self, List.set_cons_zero]

/-- What is adopted first is taken for the others, but none of them is the same label. -/
theorem map_untaken_append {taken names : List (Option String)} {name : Option String}
    (hf : Fresh name names) :
    names.map (untaken (taken ++ [untaken taken name])) = names.map (untaken taken) := by
  refine List.map_congr_left fun label hlabel => untaken_append ?_
  exact hf.imp_right fun h heq => h.2 (heq ▸ hlabel)

/-- Labels that do not repeat are adopted one by one unless they are taken beforehand. -/
theorem foldl_adoptLabel {before names : List (Option String)} (hunique : UniqueLabels names)
    (hlabels : g.labels axis = before ++ List.replicate names.length none) :
    (names.zipIdx before.length).foldl (fun g (label, key) => g.adoptLabel axis key label) g =
      g.withLabels axis (before ++ names.map (untaken before)) := by
  induction names generalizing g before with
  | nil =>
    show g = g.withLabels axis (before ++ List.replicate 0 none)
    exact (hlabels ▸ withLabels_self axis g).symm
  | cons name names ih =>
    rw [uniqueLabels_cons_iff] at hunique
    rw [List.length_cons, List.replicate_succ] at hlabels
    have hlen : ∀ after : List (Option String), after.length = names.length →
        (before ++ untaken before name :: after).length = g.count axis := by
      intro after hafter
      rw [count, hlabels, List.length_append, List.length_append, List.length_cons,
        List.length_cons, hafter, List.length_replicate]
    have hfirst := hlen (List.replicate names.length none) List.length_replicate
    have hnone : ∀ l, some l ∉ List.replicate names.length (none : Option String) :=
      fun l hl => Option.some_ne_none l (List.eq_of_mem_replicate hl)
    have hlabels' : (g.withLabels axis (before ++ untaken before name ::
        List.replicate names.length none)).labels axis =
          before ++ [untaken before name] ++ List.replicate names.length none :=
      (labels_withLabels hfirst).trans (List.append_cons ..)
    have hrest := ih hunique.2 hlabels'
    rw [List.length_append, List.length_singleton, map_untaken_append hunique.1, ← List.append_cons,
      withLabels_withLabels hfirst (hlen _ (List.length_map _))] at hrest
    rw [← adoptLabel_eq name hlabels hnone] at hrest
    exact hrest

/-! ## Merged grids -/

theorem drop_zipIdx {α : Type} (items : List α) (n start : Nat) :
    (items.zipIdx start).drop n = (items.drop n).zipIdx (start + n) := by
  induction items generalizing n start with
  | nil => simp
  | cons item items ih =>
    cases n with
    | zero => rfl
    | succ n =>
      rw [List.zipIdx_cons, List.drop_succ_cons, List.drop_succ_cons, ih]
      congr 1
      omega

/-- The labels of an axis, and after them those that another grid has at further positions, unless
they are taken. -/
def extendedLabels (axis : Axis) (g other : Grid) : List (Option String) :=
  g.labels axis ++ ((other.labels axis).drop (g.count axis)).map (untaken (g.labels axis))

theorem length_extendedLabels (axis : Axis) (g other : Grid) :
    (g.extendedLabels axis other).length = max (g.count axis) (other.count axis) := by
  rw [extendedLabels, List.length_append, List.length_map, List.length_drop, count, count]
  omega

/-- A grid has got the new lines of another after its own, and where these reach further than its
own, the labels that the other grid has there. -/
structure Merged (axis : Axis) (g other merged : Grid) : Prop where
  wf : merged.WF
  lines : merged.lines axis =
    (g.lines axis ++ g.newLines axis other).map (·.padded (merged.count axis.cross))
  count_cross : merged.count axis.cross =
    if g.newLines axis other = [] then g.count axis.cross
    else max (g.count axis.cross) (other.count axis.cross)
  labels_cross : merged.labels axis.cross =
    if g.newLines axis other = [] then g.labels axis.cross else g.extendedLabels axis.cross other

theorem WF.linesAdded (hg : g.WF) (ho : other.WF) (axis : Axis) :
    LinesAdded axis g (g.newLines axis other) (other.count axis.cross)
      ((other.lines axis).foldl (addLine axis) g) := by
  refine hg.linesAdded_foldl ?_ fun line hline => ho.length_cells_of_mem_lines hline
  rw [map_label_lines]
  exact ho.labels axis

/-- Without new lines nothing is merged. -/
theorem WF.merge_eq_self (hg : g.WF) (ho : other.WF) (h : g.newLines axis other = []) :
    g.merge axis other = g := by
  have hadded := hg.linesAdded ho axis
  have hcross := hadded.labels_cross
  have hcount := hadded.count_cross
  have hlines := hadded.lines
  rw [h, if_pos rfl, Nat.max_zero] at hcount
  rw [h, if_pos rfl, rightpad_eq_self (Nat.zero_le _)] at hcross
  rw [h, hcount, List.append_nil, hg.map_padded_lines] at hlines
  rw [merge, hcount, Nat.sub_self, List.take_zero]
  exact hadded.wf.eq_of_lines hg axis hlines hcross

/-- After the lines have been added, the labels of the cross axis are extended. -/
theorem WF.merge_eq_withLabels (hg : g.WF) (ho : other.WF) (h : g.newLines axis other ≠ []) :
    g.merge axis other = ((other.lines axis).foldl (addLine axis) g).withLabels axis.cross
      (g.extendedLabels axis.cross other) := by
  have hadded := hg.linesAdded ho axis
  have hcross := hadded.labels_cross
  have hcount := hadded.count_cross
  rw [if_neg h] at hcross hcount
  have hlen : ((other.labels axis.cross).drop (g.count axis.cross)).length =
      other.count axis.cross - g.count axis.cross := List.length_drop
  -- the names are all that the other grid has at further positions
  have hnames : (((other.labels axis.cross).zipIdx.drop (g.count axis.cross)).take
      (max (g.count axis.cross) (other.count axis.cross) - g.count axis.cross)) =
        ((other.labels axis.cross).drop (g.count axis.cross)).zipIdx (g.count axis.cross) := by
    rw [drop_zipIdx, Nat.zero_add]
    refine List.take_of_length_le ?_
    rw [List.length_zipIdx, hlen]
    omega
  rw [merge, hcount, hnames]
  refine foldl_adoptLabel ((ho.labels axis.cross).sublist (List.drop_sublist ..)) ?_
  rw [hcross, hlen]
  rfl

theorem WF.merged_merge (hg : g.WF) (ho : other.WF) (axis : Axis) :
    Merged axis g other (g.merge axis other) := by
  by_cases h : g.newLines axis other = []
  · rw [hg.merge_eq_self ho h]
    refine ⟨hg, ?_, (if_pos h).symm, (if_pos h).symm⟩
    rw [h, List.append_nil, hg.map_padded_lines]
  · have hadded := hg.linesAdded ho axis
    have hcount := hadded.count_cross
    rw [if_neg h, ← length_extendedLabels] at hcount
    have hcross := labels_withLabels hcount.symm
    rw [← hg.merge_eq_withLabels ho h] at hcross
    have hsame : (g.merge axis other).count axis.cross =
        ((other.lines axis).foldl (addLine axis) g).count axis.cross := by
      rw [count, hcross, hcount]
    refine ⟨merge_wf hg axis ho, ?_, ?_, by rw [if_neg h, hcross]⟩
    · rw [hsame, hg.merge_eq_withLabels ho h, lines_withLabels_cross hcount.symm, hadded.lines]
    · rw [if_neg h, hsame, hcount, length_extendedLabels]

theorem Merged.labels (h : Merged axis g other merged) :
    merged.labels axis = g.labels axis ++ (g.newLines axis other).map (·.label) := by
  rw [← map_label_lines, ← map_label_lines, h.lines, List.map_map, List.map_append]
  rfl

/-- A merged grid has all labels of the other. -/
theorem Merged.label_mem (h : Merged axis g other merged) (hline : line ∈ other.lines axis) :
    line.label ∈ merged.labels axis := by
  rw [h.labels, List.mem_append]
  by_cases hnew : line.NewTo (g.labels axis)
  · exact .inr (List.mem_map_of_mem (List.mem_filter.2 ⟨hline, decide_eq_true hnew⟩))
  · exact .inl (not_not.1 fun hm => hnew (.inr hm))

/-- Merging the lines of a reachable grid with those of another adds the new ones in order, and the
labels of the lines that this adds to the cross axis. It changes nothing if no line is new; so when
all lines of the other grid are labelled, merging them twice is merging them once. -/
theorem Reachable.merge_adds_new_lines (hg : g.Reachable) (ho : other.Reachable) (axis : Axis) :
    Merged axis g other (g.merge axis other) ∧
      (g.newLines axis other = [] → g.merge axis other = g) ∧
      ((∀ line ∈ other.lines axis, line.label ≠ none) →
        (g.merge axis other).merge axis other = g.merge axis other) := by
  have hmerged := hg.wf.merged_merge ho.wf axis
  refine ⟨hmerged, hg.wf.merge_eq_self ho.wf, fun hlabeled => ?_⟩
  refine hmerged.wf.merge_eq_self ho.wf (List.filter_eq_nil_iff.2 fun line hline hnew => ?_)
  rcases of_decide_eq_true hnew with hnone | hm
  · exact hlabeled line hline hnone
  · exact hm (hmerged.label_mem hline)

/-- A row with a known label is left out. Of the two columns that the other row adds, one would get
a label that is taken, and the other one gets its label. -/
theorem merge_adds_new_row :
    Reachable ⟨[⟨some "x", [.text "1"]⟩], [some "a"]⟩ ∧
      Reachable ⟨[⟨some "x", [.text "7", .text "8", .text "9"]⟩,
        ⟨some "y", [.text "4", .text "5", .text "6"]⟩], [some "b", some "a", some "c"]⟩ ∧
      Merged .row ⟨[⟨some "x", [.text "1"]⟩], [some "a"]⟩
        ⟨[⟨some "x", [.text "7", .text "8", .text "9"]⟩,
          ⟨some "y", [.text "4", .text "5", .text "6"]⟩], [some "b", some "a", some "c"]⟩
        ⟨[⟨some "x", [.text "1", .null, .null]⟩, ⟨some "y", [.text "4", .text "5", .text "6"]⟩],
          [some "a", none, some "c"]⟩ ∧
      merge .row ⟨[⟨some "x", [.text "1", .null, .null]⟩,
          ⟨some "y", [.text "4", .text "5", .text "6"]⟩], [some "a", none, some "c"]⟩
        ⟨[⟨some "x", [.text "7", .text "8", .text "9"]⟩,
          ⟨some "y", [.text "4", .text "5", .text "6"]⟩], [some "b", some "a", some "c"]⟩ =
        ⟨[⟨some "x", [.text "1", .null, .null]⟩, ⟨some "y", [.text "4", .text "5", .text "6"]⟩],
          [some "a", none, some "c"]⟩ := by
  have hmade : ofLabeledRows [[.null, .text "a"], [.text "x", .text "1"]] true true =
      .ok ⟨[⟨some "x", [.text "1"]⟩], [some "a"]⟩ := rfl
  have hother : ofLabeledRows [[.null, .text "b", .text "a", .text "c"],
      [.text "x", .text "7", .text "8", .text "9"], [.text "y", .text "4", .text "5", .text "6"]]
      true true = .ok ⟨[⟨some "x", [.text "7", .text "8", .text "9"]⟩,
        ⟨some "y", [.text "4", .text "5", .text "6"]⟩], [some "b", some "a", some "c"]⟩ := rfl
  have hg := Reachable.ofLabeledRows hmade
  have ho := Reachable.ofLabeledRows hother
  obtain ⟨hmerged, _, hagain⟩ := hg.merge_adds_new_lines ho .row
  exact ⟨hg, ho, hmerged, hagain (by decide)⟩

end Grid

end Tabular
