/-
Lines that are left out by a test. They are removed in place, the last first, and what is left has
exactly the other lines, in their order and with their labels and cells; the cross axis is as it
was. By the labels of another grid every line is in one of two parts, those that are left by `diff`
and those that are left by `intersect`. Merging the other grid before does not change which of the
own lines `diff` leaves; of the merged lines it leaves those without a label.
-/
import Tabular.Proofs.Grid.Merging

namespace Tabular

namespace Grid

variable {g left other : Grid} {axis : Axis} {keep : Line → Bool}

/-! ## Lines that are left -/

/-- A grid has the lines of another that are to be kept and no others, and the same cross axis. -/
structure LinesLeft (axis : Axis) (keep : Line → Bool) (g left : Grid) : Prop where
  wf : left.WF
  lines : left.lines axis = (g.lines axis).filter keep
  labels_cross : left.labels axis.cross = g.labels axis.cross

theorem WF.linesLeft_discard (hg : g.WF) (axis : Axis) (test : Line → Bool) :
    LinesLeft axis (!test ·) g (g.discard axis test) := by
  have hkept := keepRows_wf (seenFrom_wf axis hg) fun _ line => !test line
  refine ⟨discard_wf hg axis test, ?_, ?_⟩
  · rw [hg.discard_eq, lines_along hkept, keepRows_eq_filter]
    rfl
  · rw [hg.discard_eq, labels_cross_along, ← columnLabels_seenFrom]
    rfl

theorem LinesLeft.count_cross (h : LinesLeft axis keep g left) :
    left.count axis.cross = g.count axis.cross := by
  rw [count, count, h.labels_cross]

/-- Among lines that have been kept none is left out. -/
theorem LinesLeft.again {again : Grid} (h : LinesLeft axis keep g left)
    (h' : LinesLeft axis keep left again) : again = left := by
  refine h'.wf.eq_of_lines h.wf axis ?_ h'.labels_cross
  rw [h'.lines, h.lines, List.filter_filter]
  simp only [Bool.and_self]

/-! ## Lines and the labels of another grid -/

theorem WF.linesLeft_diff (hg : g.WF) (axis : Axis) (other : Grid) :
    LinesLeft axis (fun line => line.NewTo (other.labels axis)) g (g.diff axis other) := by
  have hleft := hg.linesLeft_discard axis fun line => line.label.any (other.hasLabel axis ·)
  have hkeep : ∀ line : Line, (!line.label.any (other.hasLabel axis ·)) =
      decide (line.NewTo (other.labels axis)) := by
    intro line
    simp only [newTo_labels_iff, Bool.decide_coe, decide_not]
  rwa [funext hkeep] at hleft

theorem WF.linesLeft_intersect (hg : g.WF) (axis : Axis) (other : Grid) :
    LinesLeft axis (fun line => !line.NewTo (other.labels axis)) g (g.intersect axis other) := by
  have hleft := hg.linesLeft_discard axis fun line => !line.label.any (other.hasLabel axis ·)
  have hkeep : ∀ line : Line, (!!line.label.any (other.hasLabel axis ·)) =
      !decide (line.NewTo (other.labels axis)) := by
    intro line
    simp only [newTo_labels_iff, Bool.decide_coe, decide_not, Bool.not_not]
  rwa [funext hkeep] at hleft

/-- Every line is left in one of the two, and in no more than one. -/
theorem WF.perm_diff_intersect (hg : g.WF) (axis : Axis) (other : Grid) :
    ((g.diff axis other).lines axis ++ (g.intersect axis other).lines axis).Perm
      (g.lines axis) := by
  rw [(hg.linesLeft_diff axis other).lines, (hg.linesLeft_intersect axis other).lines]
  exact List.filter_append_perm _ _

theorem WF.disjoint_diff_intersect (hg : g.WF) (axis : Axis) (other : Grid) :
    ((g.diff axis other).lines axis).Disjoint ((g.intersect axis other).lines axis) := by
  rw [(hg.linesLeft_diff axis other).lines, (hg.linesLeft_intersect axis other).lines]
  intro line hnew hknown
  have hnot := (List.mem_filter.1 hknown).2
  rw [(List.mem_filter.1 hnew).2] at hnot
  cases hnot

/-- What `diff` leaves has no label of the other grid. -/
theorem WF.not_mem_labels_of_diff (hg : g.WF) {l : String}
    (hl : some l ∈ (g.diff axis other).labels axis) : some l ∉ other.labels axis := by
  rw [← map_label_lines, (hg.linesLeft_diff axis other).lines] at hl
  obtain ⟨line, hline, hlabel⟩ := List.mem_map.1 hl
  rcases of_decide_eq_true (List.mem_filter.1 hline).2 with hnone | hnew
  · rw [hnone] at hlabel
    cases hlabel
  · rwa [hlabel] at hnew

/-! ## After a merge -/

/-- Of the new lines of another grid only those are new to it that have no label. -/
theorem filter_newLines (axis : Axis) (g other : Grid) :
    (g.newLines axis other).filter (fun line => line.NewTo (other.labels axis)) =
      (other.lines axis).filter fun line => line.label = none := by
  rw [newLines, List.filter_filter]
  refine List.filter_congr fun line hline => ?_
  have hmem : line.label ∈ other.labels axis := by
    rw [← map_label_lines]
    exact List.mem_map_of_mem hline
  rw [← Bool.decide_and]
  refine decide_eq_decide.2 ⟨fun h => ?_, fun hnone => ⟨.inl hnone, .inl hnone⟩⟩
  exact h.1.resolve_right (not_not.2 hmem)

/-- The lines that were new stay, and of the merged ones those without a label. -/
theorem WF.lines_diff_merge (hg : g.WF) (ho : other.WF) (axis : Axis) :
    ((g.merge axis other).diff axis other).lines axis =
      ((g.lines axis).filter (fun line => line.NewTo (other.labels axis)) ++
        (other.lines axis).filter fun line => line.label = none).map
          (·.padded ((g.merge axis other).count axis.cross)) := by
  have hmerged := hg.merged_merge ho axis
  rw [(hmerged.wf.linesLeft_diff axis other).lines, hmerged.lines, List.filter_map,
    ← filter_newLines axis g other, ← List.filter_append]
  -- filling a line up leaves its label alone
  rfl

/-- By the labels of another grid the lines of a reachable grid are split between `diff` and
`intersect`, each of which makes no difference the second time. After `diff` the two grids share no
label. After a merge `diff` leaves the same of the own lines, and then the merged ones that have no
label. -/
theorem Reachable.diff_intersect_split (hg : g.Reachable) (ho : other.Reachable) (axis : Axis) :
    LinesLeft axis (fun line => line.NewTo (other.labels axis)) g (g.diff axis other) ∧
      LinesLeft axis (fun line => !line.NewTo (other.labels axis)) g (g.intersect axis other) ∧
      ((g.diff axis other).lines axis ++ (g.intersect axis other).lines axis).Perm
        (g.lines axis) ∧
      ((g.diff axis other).lines axis).Disjoint ((g.intersect axis other).lines axis) ∧
      (g.diff axis other).diff axis other = g.diff axis other ∧
      (g.intersect axis other).intersect axis other = g.intersect axis other ∧
      (∀ l, some l ∈ (g.diff axis other).labels axis → some l ∉ other.labels axis) ∧
      ((g.merge axis other).diff axis other).lines axis =
        ((g.lines axis).filter (fun line => line.NewTo (other.labels axis)) ++
          (other.lines axis).filter fun line => line.label = none).map
            (·.padded ((g.merge axis other).count axis.cross)) ∧
      ((g.merge axis other).diff axis other).labels axis.cross =
        (g.merge axis other).labels axis.cross := by
  have hdiff := hg.wf.linesLeft_diff axis other
  have hintersect := hg.wf.linesLeft_intersect axis other
  have hmerged := merge_wf hg.wf axis ho.wf
  exact ⟨hdiff, hintersect, hg.wf.perm_diff_intersect axis other,
    hg.wf.disjoint_diff_intersect axis other, hdiff.again (hdiff.wf.linesLeft_diff axis other),
    hintersect.again (hintersect.wf.linesLeft_intersect axis other),
    fun l => hg.wf.not_mem_labels_of_diff, hg.wf.lines_diff_merge ho.wf axis,
    (hmerged.linesLeft_diff axis other).labels_cross⟩

/-- Of three rows the one with a known label goes to the other part. A row without a label stays,
also one that a merge has added. -/
theorem diff_intersect_split_three_rows :
    Reachable ⟨[⟨some "x", [.text "1"]⟩, ⟨some "y", [.text "2"]⟩, ⟨none, [.text "3"]⟩],
        [some "a"]⟩ ∧
      Reachable ⟨[⟨some "y", [.text "4", .text "5"]⟩, ⟨none, [.text "6", .text "7"]⟩],
        [none, none]⟩ ∧
      LinesLeft .row (fun line => line.NewTo [some "y", none])
        ⟨[⟨some "x", [.text "1"]⟩, ⟨some "y", [.text "2"]⟩, ⟨none, [.text "3"]⟩], [some "a"]⟩
        ⟨[⟨some "x", [.text "1"]⟩, ⟨none, [.text "3"]⟩], [some "a"]⟩ ∧
      LinesLeft .row (fun line => !line.NewTo [some "y", none])
        ⟨[⟨some "x", [.text "1"]⟩, ⟨some "y", [.text "2"]⟩, ⟨none, [.text "3"]⟩], [some "a"]⟩
        ⟨[⟨some "y", [.text "2"]⟩], [some "a"]⟩ ∧
      lines .row (diff .row
          ⟨[⟨some "x", [.text "1", .null]⟩, ⟨some "y", [.text "2", .null]⟩,
            ⟨none, [.text "3", .null]⟩, ⟨none, [.text "6", .text "7"]⟩], [some "a", none]⟩
          ⟨[⟨some "y", [.text "4", .text "5"]⟩, ⟨none, [.text "6", .text "7"]⟩], [none, none]⟩) =
        [⟨some "x", [.text "1", .null]⟩, ⟨none, [.text "3", .null]⟩,
          ⟨none, [.text "6", .text "7"]⟩] := by
  have hmade : ofLabeledRows [[.null, .text "a"], [.text "x", .text "1"], [.text "y", .text "2"],
      [.null, .text "3"]] true true =
        .ok ⟨[⟨some "x", [.text "1"]⟩, ⟨some "y", [.text "2"]⟩, ⟨none, [.text "3"]⟩],
          [some "a"]⟩ := rfl
  have hother : ofLabeledRows [[.text "y", .text "4", .text "5"], [.null, .text "6", .text "7"]]
      true false = .ok ⟨[⟨some "y", [.text "4", .text "5"]⟩, ⟨none, [.text "6", .text "7"]⟩],
        [none, none]⟩ := rfl
  have hg := Reachable.ofLabeledRows hmade
  have ho := Reachable.ofLabeledRows hother
  obtain ⟨hdiff, hintersect, _, _, _, _, _, hmerged, _⟩ := hg.diff_intersect_split ho .row
  exact ⟨hg, ho, hdiff, hintersect, hmerged⟩

end Grid

end Tabular
