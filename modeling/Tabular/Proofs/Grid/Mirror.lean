/-
Rows and columns are edited alike. An edit along one axis does to a grid what the same edit along
the other axis does to its transpose: the grids that come out are transposes of each other, and
where one edit fails the other fails with the same error about the other axis. So a run of edits
can be carried out on either.
-/
import Tabular.Proofs.Grid.Reachable

namespace Tabular

/-! ## Exchanging the axes -/

/-- The same error about the other axis. -/
def QueryError.mirrored : QueryError → QueryError
  | .unknownField axis field => .unknownField axis.cross field
  | e => e

/-- The same error about the other axis. -/
def GridError.mirrored : GridError → GridError
  | .query cause => .query cause.mirrored
  | .keyNotFound axis key => .keyNotFound axis.cross key
  | .labelNotFound axis label => .labelNotFound axis.cross label
  | .duplicateLabel axis label => .duplicateLabel axis.cross label
  | .emptyAxis axis => .emptyAxis axis.cross
  | .tooManyLabels axis given count => .tooManyLabels axis.cross given count
  | e => e

/-- The same edit along the other axis. -/
def Edit.mirrored : Edit → Edit
  | .append axis cells label => .append axis.cross cells label
  | .prepend axis cells label => .prepend axis.cross cells label
  | .update axis ref cells => .update axis.cross ref cells
  | .clear axis ref => .clear axis.cross ref
  | .delete axis ref => .delete axis.cross ref
  | .deleteEmpty axis => .deleteEmpty axis.cross
  | .swap axis a b sticky => .swap axis.cross a b sticky
  | .move axis source target sticky => .move axis.cross source target sticky
  | .orderBy axis ref direction sticky => .orderBy axis.cross ref direction sticky
  | .merge axis other => .merge axis.cross other.transpose
  | .diff axis other => .diff axis.cross other.transpose
  | .intersect axis other => .intersect axis.cross other.transpose
  | .filter axis test => .filter axis.cross test
  | .search axis source => .search axis.cross source
  | .searchWith axis query => .searchWith axis.cross query
  | .transpose => .transpose
  | .setLabels axis labels => .setLabels axis.cross labels
  | .rename axis ref label => .rename axis.cross ref label
  | .clearLabel axis ref => .clearLabel axis.cross ref
  | .swapLabels axis a b => .swapLabels axis.cross a b
  | .moveLabel axis source target => .moveLabel axis.cross source target
  | .setValue row column value => .setValue column row value
  | .setCell axis ref cross value => .setCell axis.cross ref cross value

/-- Whether an edit changes the lines or the labels of one axis. -/
def Edit.ofAxis : Edit → Bool
  | .filter .. | .search .. | .searchWith .. | .transpose | .setValue .. | .setCell .. => false
  | _ => true

namespace Grid

variable {g other : Grid} {axis : Axis}

/-! ## Reading the transpose -/

theorem find?_transpose (g : Grid) (axis : Axis) (l : String) :
    g.transpose.find? axis.cross l = g.find? axis l := by
  rw [find?, labels_transpose, Axis.cross_cross, find?]

theorem hasLabel_transpose (g : Grid) (axis : Axis) (l : String) :
    g.transpose.hasLabel axis.cross l = g.hasLabel axis l := by
  rw [hasLabel, find?_transpose, hasLabel]

theorem WF.lines_transpose (hg : g.WF) (axis : Axis) :
    g.transpose.lines axis.cross = g.lines axis := by
  cases axis with
  | row => exact congrArg rows hg.transpose_transpose
  | column => rfl

theorem key_transpose (g : Grid) (axis : Axis) (ref : LineRef) :
    g.transpose.key axis.cross ref = (g.key axis ref).mapError .mirrored := by
  cases ref with
  | position k =>
    rw [key, key, count_transpose, Axis.cross_cross]
    split <;> rfl
  | label l =>
    rw [key, key, find?_transpose]
    split <;> rfl

theorem freeLabel_transpose (g : Grid) (axis : Axis) (label : Option String) (owner : Option Nat) :
    g.transpose.freeLabel axis.cross label owner =
      (g.freeLabel axis label owner).mapError .mirrored := by
  unfold freeLabel
  split
  · rfl
  · rw [find?_transpose]
    split
    · rfl
    · split <;> rfl

/-! ## Changing the transpose -/

theorem transpose_eq (g : Grid) :
    g.transpose = ⟨g.columnLabels.zipIdx.map fun (label, c) =>
      ⟨label, g.cells.map (·.getD c .null)⟩, g.labels .row⟩ := by
  simp [transpose, cells, labels, Function.comp_def]

theorem transpose_withLabels {labels : List (Option String)} (hlen : labels.length = g.count axis) :
    (g.withLabels axis labels).transpose = g.transpose.withLabels axis.cross labels := by
  cases axis with
  | row =>
    rw [transpose_eq, cells_withLabels hlen, labels_withLabels hlen, transpose_eq]
    rfl
  | column =>
    have hlen' : labels.length = g.columnLabels.length := hlen
    show (⟨_, _⟩ : Grid) = ⟨List.zipWith _ labels g.transpose.rows, _⟩
    congr 1
    refine List.ext_getElem (by simp [transpose, withLabels, hlen']) fun c _ _ => ?_
    simp [transpose, withLabels]

theorem WF.transpose_insertLine (hg : g.WF) (index : Nat) {line : Line}
    (hf : Fresh line.label (g.labels axis)) :
    (g.insertLine axis index line).transpose = g.transpose.insertLine axis.cross index line := by
  rw [hg.insertLine_eq, (transpose_wf hg).insertLine_eq]
  refine hg.transpose_along (insertRow_wf (seenFrom_wf axis hg) index ?_)
  rwa [labels_seenFrom]

theorem WF.transpose_writeLine (hg : g.WF) (axis : Axis) (index : Nat) (cells : List Cell) :
    (g.writeLine axis index cells).transpose = g.transpose.writeLine axis.cross index cells := by
  rw [hg.writeLine_eq, (transpose_wf hg).writeLine_eq]
  exact hg.transpose_along (writeRow_wf (seenFrom_wf axis hg) index cells)

theorem WF.transpose_removeLine (hg : g.WF) (axis : Axis) (index : Nat) :
    (g.removeLine axis index).transpose = g.transpose.removeLine axis.cross index := by
  rw [hg.removeLine_eq, (transpose_wf hg).removeLine_eq]
  exact hg.transpose_along (removeRow_wf (seenFrom_wf axis hg) index)

theorem WF.transpose_discard (hg : g.WF) (axis : Axis) (test : Line → Bool) :
    (g.discard axis test).transpose = g.transpose.discard axis.cross test := by
  rw [hg.discard_eq, (transpose_wf hg).discard_eq]
  exact hg.transpose_along (keepRows_wf (seenFrom_wf axis hg) _)

theorem WF.transpose_arrange (hg : g.WF) (sticky : Bool)
    {rearrange : {α : Type} → List α → List α} (hr : Rearranges (g.count axis) rearrange) :
    (g.arrange axis sticky rearrange).transpose =
      g.transpose.arrange axis.cross sticky rearrange := by
  have hr' : Rearranges (g.transpose.count axis.cross) rearrange := by
    rwa [count_transpose, Axis.cross_cross]
  have hsticky : (g.arrange axis true rearrange).transpose =
      g.transpose.arrange axis.cross true rearrange := by
    rw [hg.arrange_sticky_eq hr, (transpose_wf hg).arrange_sticky_eq hr']
    refine hg.transpose_along (rows_perm_wf (seenFrom_wf axis hg) (hr.perm _ ?_))
    exact count_seenFrom axis g
  cases sticky with
  | true => exact hsticky
  | false =>
    rw [arrange_loose_eq hr, arrange_loose_eq hr', ← hsticky, labels_transpose, Axis.cross_cross]
    exact transpose_withLabels (hg.count_arrange hr).symm

/-! ## Merging -/

theorem foldl_transpose {α : Type} {step step' : Grid → α → Grid} {items : List α} (hg : g.WF)
    (hwf : ∀ g, ∀ item ∈ items, g.WF → (step g item).WF)
    (hstep : ∀ g, ∀ item ∈ items, g.WF → (step g item).transpose = step' g.transpose item) :
    (items.foldl step g).transpose = items.foldl step' g.transpose := by
  induction items generalizing g with
  | nil => rfl
  | cons item items ih =>
    rw [List.foldl_cons, List.foldl_cons, ← hstep g item List.mem_cons_self hg]
    exact ih (hwf g item List.mem_cons_self hg) (fun g i hi => hwf g i (List.mem_cons_of_mem _ hi))
      fun g i hi => hstep g i (List.mem_cons_of_mem _ hi)

theorem WF.transpose_addLine (hg : g.WF) {line : Line} (hline : line.label ≠ some "") :
    (g.addLine axis line).transpose = g.transpose.addLine axis.cross line := by
  unfold addLine
  simp only [hasLabel_transpose, count_transpose, Axis.cross_cross]
  split
  · rfl
  · rename_i hfree
    exact hg.transpose_insertLine _ (fresh_of_not_taken hline hfree)

theorem transpose_adoptLabel (g : Grid) (axis : Axis) (key : Nat) (label : Option String) :
    (g.adoptLabel axis key label).transpose = g.transpose.adoptLabel axis.cross key label := by
  unfold adoptLabel
  split
  · rw [hasLabel_transpose, labels_transpose, Axis.cross_cross]
    split
    · rfl
    · exact transpose_withLabels (List.length_set ..)
  · rfl

theorem WF.transpose_merge (hg : g.WF) (axis : Axis) (ho : other.WF) :
    (g.merge axis other).transpose = g.transpose.merge axis.cross other.transpose := by
  have hmerged : ((other.lines axis).foldl (addLine axis) g).WF :=
    foldl_wf hg fun g line hline hg => addLine_wf hg (ho.line_named hline)
  have hlines : ((other.lines axis).foldl (addLine axis) g).transpose =
      (other.lines axis).foldl (addLine axis.cross) g.transpose :=
    foldl_transpose hg (fun g line hline hg => addLine_wf hg (ho.line_named hline))
      fun g line hline hg => hg.transpose_addLine (ho.line_named hline)
  unfold merge
  simp only [ho.lines_transpose, ← hlines, count_transpose, labels_transpose, Axis.cross_cross]
  refine foldl_transpose hmerged ?_ fun g name _ _ => ?_
  · rintro g ⟨label, key⟩ hname hg
    exact adoptLabel_wf hg axis.cross key (ho.name_named hname)
  · rw [transpose_adoptLabel, Axis.cross_cross]

/-! ## Edits of the transpose -/

/-- An outcome with rows and columns exchanged. -/
def mirrorOutcome (outcome : Except GridError Grid) : Except GridError Grid :=
  (outcome.map transpose).mapError .mirrored

section

variable {α : Type} {x : Except GridError α}

theorem map_mirrored {f f' : α → Grid} (h : ∀ a, x = .ok a → f' a = (f a).transpose) :
    (x.mapError .mirrored).map f' = mirrorOutcome (x.map f) := by
  cases x with
  | ok a => exact congrArg Except.ok (h a rfl)
  | error e => rfl

theorem bind_mirrored {f f' : α → Except GridError Grid}
    (h : ∀ a, x = .ok a → f' a = mirrorOutcome (f a)) :
    x.mapError GridError.mirrored >>= f' = mirrorOutcome (x >>= f) := by
  cases x with
  | ok a => exact h a rfl
  | error e => rfl

end

theorem WF.insert_mirrored (hg : g.WF) (axis : Axis) (index : Nat) (cells : List Cell)
    (label : Option String) :
    g.transpose.insert axis.cross index cells label =
      mirrorOutcome (g.insert axis index cells label) := by
  rw [Grid.insert, freeLabel_transpose]
  exact map_mirrored fun stored hstored =>
    (hg.transpose_insertLine index (fresh_of_freeLabel hstored)).symm

theorem WF.update_mirrored (hg : g.WF) (axis : Axis) (ref : LineRef) (cells : List Cell) :
    g.transpose.update axis.cross ref cells = mirrorOutcome (g.update axis ref cells) := by
  rw [update, key_transpose]
  exact map_mirrored fun k _ => (hg.transpose_writeLine axis k cells).symm

theorem WF.line_transpose (hg : g.WF) (axis : Axis) (ref : LineRef) :
    g.transpose.line axis.cross ref = (g.line axis ref).mapError .mirrored := by
  rw [line, key_transpose, hg.lines_transpose, line]
  cases g.key axis ref <;> rfl

/-- Taking a line out answers with the same cells. -/
theorem WF.take_mirrored (hg : g.WF) (axis : Axis) (ref : LineRef) :
    g.transpose.take axis.cross ref =
      ((g.take axis ref).map fun (cells, rest) => (cells, rest.transpose)).mapError .mirrored := by
  rw [take, hg.line_transpose, take]
  cases g.line axis ref with
  | ok found =>
    have hrest := (hg.transpose_removeLine axis found.1).symm
    exact congrArg (fun rest => Except.ok (found.2.cells, rest)) hrest
  | error e => rfl

theorem WF.delete_mirrored (hg : g.WF) (axis : Axis) (ref : LineRef) :
    g.transpose.delete axis.cross ref = mirrorOutcome (g.delete axis ref) := by
  rw [delete, hg.take_mirrored, delete]
  cases g.take axis ref <;> rfl

theorem WF.swap_mirrored (hg : g.WF) (axis : Axis) (a b : LineRef) (sticky : Bool) :
    g.transpose.swap axis.cross a b sticky = mirrorOutcome (g.swap axis a b sticky) := by
  rw [swap, key_transpose, key_transpose]
  refine bind_mirrored fun a _ => bind_mirrored fun b _ => ?_
  exact congrArg Except.ok (hg.transpose_arrange sticky (rearranges_exchange a b _)).symm

theorem WF.move_mirrored (hg : g.WF) (axis : Axis) (source target : LineRef) (sticky : Bool) :
    g.transpose.move axis.cross source target sticky =
      mirrorOutcome (g.move axis source target sticky) := by
  rw [move, key_transpose, key_transpose, count_transpose, Axis.cross_cross]
  refine bind_mirrored fun a _ => bind_mirrored fun b hb => ?_
  refine congrArg Except.ok (hg.transpose_arrange sticky (rearranges_picked ?_)).symm
  exact relocate_range_perm a (lt_of_key hb)

theorem WF.orderBy_mirrored (hg : g.WF) (axis : Axis) (ref : LineRef) (direction : Direction)
    (sticky : Bool) :
    g.transpose.orderBy axis.cross ref direction sticky =
      mirrorOutcome (g.orderBy axis ref direction sticky) := by
  rw [orderBy, key_transpose, count_transpose, Axis.cross_cross]
  refine map_mirrored fun k _ => ?_
  simp only [hg.cell?_transpose, Axis.cross_cross]
  exact (hg.transpose_arrange sticky (rearranges_picked (List.mergeSort_perm _ _))).symm

theorem setLabels_mirrored (g : Grid) (axis : Axis) (labels : List (Option String)) :
    g.transpose.setLabels axis.cross labels = mirrorOutcome (g.setLabels axis labels) := by
  unfold setLabels
  simp only [count_transpose, Axis.cross_cross]
  split
  · rfl
  · split
    · rfl
    · rename_i hlen
      split
      · rfl
      · refine congrArg Except.ok (transpose_withLabels ?_).symm
        rw [List.length_rightpad]
        omega

theorem rename_mirrored (g : Grid) (axis : Axis) (ref : LineRef) (label : Option String) :
    g.transpose.rename axis.cross ref label = mirrorOutcome (g.rename axis ref label) := by
  rw [rename, key_transpose, labels_transpose, Axis.cross_cross]
  refine bind_mirrored fun k _ => ?_
  rw [freeLabel_transpose]
  refine bind_mirrored fun stored _ => ?_
  exact congrArg Except.ok (transpose_withLabels (List.length_set ..)).symm

theorem clearLabel_mirrored (g : Grid) (axis : Axis) (ref : LineRef) :
    g.transpose.clearLabel axis.cross ref = mirrorOutcome (g.clearLabel axis ref) := by
  rw [clearLabel, key_transpose, labels_transpose, Axis.cross_cross]
  exact map_mirrored fun k _ => (transpose_withLabels (List.length_set ..)).symm

theorem swapLabels_mirrored (g : Grid) (axis : Axis) (a b : LineRef) :
    g.transpose.swapLabels axis.cross a b = mirrorOutcome (g.swapLabels axis a b) := by
  rw [swapLabels, key_transpose, key_transpose, labels_transpose, Axis.cross_cross]
  refine bind_mirrored fun a _ => bind_mirrored fun b _ => ?_
  exact congrArg Except.ok (transpose_withLabels (exchange_perm a b _).length_eq).symm

theorem moveLabel_mirrored (g : Grid) (axis : Axis) (source target : LineRef) :
    g.transpose.moveLabel axis.cross source target =
      mirrorOutcome (g.moveLabel axis source target) := by
  rw [moveLabel, key_transpose, key_transpose, labels_transpose, Axis.cross_cross]
  refine bind_mirrored fun b hb => bind_mirrored fun a _ => ?_
  exact congrArg Except.ok (transpose_withLabels (relocate_perm a (lt_of_key hb)).length_eq).symm

end Grid

/-! ## Runs of edits -/

namespace Edit

variable {g : Grid} {edit : Edit}

/-- An edit of the transpose comes out as the mirrored edit of the grid. -/
theorem apply_mirrored (hg : g.WF) (he : edit.ofAxis) (ho : ∀ other ∈ edit.others, other.WF) :
    edit.mirrored.apply g.transpose = Grid.mirrorOutcome (edit.apply g) := by
  cases edit with
  | append axis cells label =>
    rw [mirrored, apply, Grid.append, Grid.count_transpose, Axis.cross_cross]
    exact hg.insert_mirrored axis _ cells label
  | prepend axis cells label => exact hg.insert_mirrored axis 0 cells label
  | update axis ref cells => exact hg.update_mirrored axis ref cells
  | clear axis ref => exact hg.update_mirrored axis ref []
  | delete axis ref => exact hg.delete_mirrored axis ref
  | deleteEmpty axis => exact congrArg Except.ok (hg.transpose_discard axis _).symm
  | swap axis a b sticky => exact hg.swap_mirrored axis a b sticky
  | move axis source target sticky => exact hg.move_mirrored axis source target sticky
  | orderBy axis ref direction sticky => exact hg.orderBy_mirrored axis ref direction sticky
  | merge axis other =>
    exact congrArg Except.ok (hg.transpose_merge axis (ho other List.mem_cons_self)).symm
  | diff axis other | intersect axis other =>
    rw [mirrored, apply]
    simp only [Grid.diff, Grid.intersect, Grid.hasLabel_transpose]
    exact congrArg Except.ok (hg.transpose_discard axis _).symm
  | setLabels axis labels => exact g.setLabels_mirrored axis labels
  | rename axis ref label => exact g.rename_mirrored axis ref label
  | clearLabel axis ref => exact g.clearLabel_mirrored axis ref
  | swapLabels axis a b => exact g.swapLabels_mirrored axis a b
  | moveLabel axis source target => exact g.moveLabel_mirrored axis source target
  | filter | search | searchWith | transpose | setValue | setCell => cases he

theorem applyOrKeep_mirrored (hg : g.WF) (he : edit.ofAxis) (ho : ∀ other ∈ edit.others, other.WF) :
    edit.mirrored.applyOrKeep g.transpose = (edit.applyOrKeep g).transpose := by
  unfold applyOrKeep
  rw [apply_mirrored hg he ho]
  cases edit.apply g <;> rfl

/-- A run of edits of the transpose comes out as the transpose of the run of the mirrored edits. -/
theorem run_mirrored {edits : List Edit} (hg : g.WF) (he : ∀ edit ∈ edits, edit.ofAxis)
    (ho : ∀ edit ∈ edits, ∀ other ∈ edit.others, other.WF) :
    run (edits.map mirrored) g.transpose = (run edits g).transpose := by
  induction edits generalizing g with
  | nil => rfl
  | cons edit edits ih =>
    rw [List.forall_mem_cons] at he ho
    rw [run, List.map_cons, List.foldl_cons, applyOrKeep_mirrored hg he.1 ho.1]
    exact ih (applyOrKeep_wf hg ho.1) he.2 ho.2

end Edit

/-! ## Reachable grids -/

namespace Grid

/-- Rows and columns of a reachable grid are edited alike. Transposing twice gives the grid back; an
edit of the transpose along the other axis comes out as the transpose of the edited grid, or fails
with the same error about the other axis; and taking a line out answers with the same cells. -/
theorem Reachable.editing_mirrors {g : Grid} (hg : g.Reachable) :
    g.transpose.transpose = g ∧
      (∀ edit : Edit, edit.ofAxis → (∀ other ∈ edit.others, other.Reachable) →
        edit.mirrored.apply g.transpose = ((edit.apply g).map transpose).mapError .mirrored ∧
          edit.mirrored.applyOrKeep g.transpose = (edit.applyOrKeep g).transpose) ∧
      ∀ axis ref, g.transpose.take axis.cross ref =
        ((g.take axis ref).map fun (cells, rest) => (cells, rest.transpose)).mapError .mirrored := by
  refine ⟨hg.wf.transpose_transpose, fun edit he ho => ?_, hg.wf.take_mirrored⟩
  have hother : ∀ other ∈ edit.others, other.WF := fun other h => (ho other h).wf
  exact ⟨Edit.apply_mirrored hg.wf he hother, Edit.applyOrKeep_mirrored hg.wf he hother⟩

/-- A row that is longer than a grid without rows makes its columns grow; as a column of the
transpose it makes the rows grow. -/
theorem editing_mirrors_without_rows :
    Reachable ⟨[], [some "a"]⟩ ∧
      Edit.apply (.append .column [.text "x", .text "y"] (some "r")) ⟨[⟨some "a", []⟩], []⟩ =
        .ok ⟨[⟨some "a", [.text "x"]⟩, ⟨none, [.text "y"]⟩], [some "r"]⟩ ∧
      Edit.apply (.append .row [] (some "a")) ⟨[⟨some "a", []⟩], []⟩ =
        .error (.duplicateLabel .row "a") := by
  have hmade : ofLabeledRows [[.text "a"]] false true = .ok ⟨[], [some "a"]⟩ := rfl
  have hg : Reachable ⟨[], [some "a"]⟩ := .ofLabeledRows hmade
  have hmirrors := hg.editing_mirrors.2.1
  exact ⟨hg, (hmirrors (.append .row [.text "x", .text "y"] (some "r")) rfl nofun).1,
    (hmirrors (.append .column [] (some "a")) rfl nofun).1⟩

end Grid

end Tabular
