/-
The edits as they are made in place, one step after the other: looking something up, growing the
cross axis, putting a line in, labelling it. A step that fails ends the edit and leaves the grid as
the steps before have left it. Each edit looks up all it needs before its first change, so it ends
with the grid that `Edit.apply` gives, or fails as that does with the grid it has begun with.
-/
import Tabular.Proofs.Grid.StableSort

namespace Tabular

/-! ## Steps -/

/-- A change made in place. Where it fails, the grid is left as the steps so far have left it. -/
abbrev Program := EStateM GridError Grid

namespace Program

variable {α : Type}

/-- Asks the grid something. -/
def look (read : Grid → Except GridError α) : Program α := fun g =>
  match read g with
  | .ok a => .ok a g
  | .error e => .error e g

theorem run_look {β : Type} (read : Grid → Except GridError α) (rest : α → Program β) (g : Grid) :
    (look read >>= rest).run g =
      match read g with
      | .ok a => (rest a).run g
      | .error e => .error e g := by
  show EStateM.bind (look read) rest g = _
  unfold EStateM.bind look
  cases read g <;> rfl

/-- A program makes a change as a whole, or fails and leaves the grid alone. -/
def AmountsTo (program : Program Unit) (g : Grid) (change : Except GridError Grid) : Prop :=
  program.run g =
    match change with
    | .ok changed => .ok () changed
    | .error e => .error e g

/-- The grid after a program, also where it has failed. -/
def after (program : Program Unit) (g : Grid) : Grid :=
  match program.run g with
  | .ok _ changed => changed
  | .error _ kept => kept

section

variable {g changed : Grid} {e : GridError} {change : Except GridError Grid}
  {program : Program Unit}

theorem AmountsTo.run_eq_ok_iff (h : AmountsTo program g change) :
    program.run g = .ok () changed ↔ change = .ok changed := by
  unfold AmountsTo at h
  rw [h]
  cases change <;> simp

theorem AmountsTo.run_eq_error_iff (h : AmountsTo program g change) :
    program.run g = .error e changed ↔ change = .error e ∧ changed = g := by
  unfold AmountsTo at h
  rw [h]
  cases change with
  | ok _ => simp
  | error _ => simp [eq_comm]

theorem amountsTo_modify (change : Grid → Grid) :
    AmountsTo (modify change) g (.ok (change g)) := rfl

theorem amountsTo_set (read : Grid → Except GridError Grid) :
    AmountsTo (look read >>= set) g (read g) := by
  unfold AmountsTo
  rw [run_look]
  cases read g <;> rfl

/-- Looking something up before keeps this. -/
theorem amountsTo_look {read : Grid → Except GridError α} {rest : α → Program Unit}
    {change : α → Except GridError Grid}
    (h : ∀ a, read g = .ok a → AmountsTo (rest a) g (change a)) :
    AmountsTo (look read >>= rest) g (read g >>= change) := by
  unfold AmountsTo
  rw [run_look]
  cases hread : read g with
  | ok a => exact h a hread
  | error e => rfl

theorem amountsTo_look_map {read : Grid → Except GridError α} {rest : α → Program Unit}
    {change : α → Grid} (h : ∀ a, read g = .ok a → AmountsTo (rest a) g (.ok (change a))) :
    AmountsTo (look read >>= rest) g ((read g).map change) := by
  have hlook := amountsTo_look h
  cases hread : read g <;> rw [hread] at hlook <;> exact hlook

theorem amountsTo_get {rest : Grid → Program Unit} (h : AmountsTo (rest g) g change) :
    AmountsTo (get >>= rest) g change := h

/-- So does a check. -/
theorem amountsTo_check {p : Prop} [Decidable p] {rest : Program Unit}
    (h : ¬ p → AmountsTo rest g change) :
    AmountsTo (do
      if p then throw e
      rest) g (if p then .error e else change) := by
  by_cases hp : p
  · simp only [hp, reduceIte]
    rfl
  · simp only [hp, reduceIte]
    exact h hp

end

end Program

open Program

namespace Grid

/-- Adds unlabelled lines of nulls to an axis until there are `n`. -/
def grow (axis : Axis) (n : Nat) (g : Grid) : Grid :=
  match axis with
  | .row => g.heighten n
  | .column => g.widen n

/-- Changes the labels of an axis where they are. -/
def relabel (axis : Axis) (change : List (Option String) → List (Option String)) (g : Grid) : Grid :=
  g.withLabels axis (change (g.labels axis))

/-- Puts in a line, without a label at first. -/
def insertion (axis : Axis) (index : Nat) (cells : List Cell) (label : Option String) :
    Program Unit := do
  let label ← look (freeLabel axis label none)
  modify (grow axis.cross cells.length)
  modify (insertLine axis index ⟨none, cells⟩)
  modify (relabel axis (·.set index label))

def overwriting (axis : Axis) (ref : LineRef) (cells : List Cell) : Program Unit := do
  let k ← look (key axis ref)
  modify (grow axis.cross cells.length)
  modify (writeLine axis k cells)

/-- Removes a line and answers with its cells. -/
def removal (axis : Axis) (ref : LineRef) : Program (List Cell) := do
  let (k, line) ← look (line axis ref)
  modify (removeLine axis k)
  pure line.cells

/-- Rearranges the cells, and then the labels if they are sticky. -/
def rearrangement (axis : Axis) (sticky : Bool) (rearrange : {α : Type} → List α → List α) :
    Program Unit := do
  modify (arrange axis false rearrange)
  if sticky then modify (relabel axis rearrange)

/-- Labels an axis after three checks, one after the other. -/
def labelling (axis : Axis) (labels : List (Option String)) : Program Unit := do
  let g ← get
  if g.count axis = 0 then throw (.emptyAxis axis)
  let stored := labels.map normalizeLabel
  if g.count axis < stored.length then throw (.tooManyLabels axis stored.length (g.count axis))
  match firstRepeated [] (stored.filterMap id) with
  | some label => throw (.duplicateLabel axis label)
  | none => modify (withLabels axis (stored.rightpad (g.count axis) none))

end Grid

open Grid

/-- The steps of an edit. -/
def Edit.program : Edit → Program Unit
  | .append axis cells label => do
    let g ← get
    insertion axis (g.count axis) cells label
  | .prepend axis cells label => insertion axis 0 cells label
  | .update axis ref cells => overwriting axis ref cells
  | .clear axis ref => overwriting axis ref []
  | .delete axis ref => do
    let _ ← removal axis ref
  | .deleteEmpty axis => modify (Grid.deleteEmpty axis)
  | .swap axis a b sticky => do
    let a ← look (key axis a)
    let b ← look (key axis b)
    rearrangement axis sticky (exchange a b)
  | .move axis source target sticky => do
    let a ← look (key axis source)
    let b ← look (key axis target)
    let g ← get
    rearrangement axis sticky (picked (relocate a b (List.range (g.count axis))))
  | .orderBy axis ref direction sticky => do
    let k ← look (key axis.cross ref)
    let g ← get
    rearrangement axis sticky (picked (g.sortOrder axis k direction))
  | .merge axis other => modify (Grid.merge axis · other)
  | .diff axis other => modify (Grid.diff axis · other)
  | .intersect axis other => modify (Grid.intersect axis · other)
  | .filter axis test => modify (Grid.filter axis test)
  | .search axis source => do
    let found ← look (Grid.search source axis)
    set found
  | .searchWith axis query => do
    let found ← look (Grid.searchWith query axis)
    set found
  | .transpose => modify Grid.transpose
  | .setLabels axis labels => labelling axis labels
  | .rename axis ref label => do
    let k ← look (key axis ref)
    let label ← look (freeLabel axis label (some k))
    modify (relabel axis (·.set k label))
  | .clearLabel axis ref => do
    let k ← look (key axis ref)
    modify (relabel axis (·.set k none))
  | .swapLabels axis a b => do
    let a ← look (key axis a)
    let b ← look (key axis b)
    modify (relabel axis (exchange a b))
  | .moveLabel axis source target => do
    let b ← look (key axis target)
    let a ← look (key axis source)
    modify (relabel axis (relocate a b))
  | .setValue row column value => do
    let r ← look (key .row row)
    let c ← look (key .column column)
    modify (putCell .row r c value)
  | .setCell axis ref cross value => do
    let k ← look (key axis ref)
    let c ← look (key axis.cross cross)
    modify (putCell axis k c value)

namespace Grid

variable {g : Grid} {axis : Axis}

/-! ## Several changes that make up one -/

theorem widen_widen (width : Nat) (g : Grid) : (g.widen width).widen width = g.widen width := by
  simp only [widen, List.map_map, Function.comp_def, rightpad_rightpad_of_le (Nat.le_refl width)]

theorem heighten_heighten (height : Nat) (g : Grid) :
    (g.heighten height).heighten height = g.heighten height := by
  simp only [heighten, rightpad_rightpad_of_le (Nat.le_refl height)]

/-- The room that a line needs may be made before. -/
theorem insertLine_grow (axis : Axis) (index : Nat) (line : Line) (g : Grid) :
    (g.grow axis.cross line.cells.length).insertLine axis index line =
      g.insertLine axis index line := by
  cases axis with
  | row =>
    show insertRow index line (g.widen line.cells.length) = insertRow index line g
    rw [insertRow, widen_widen, insertRow]
  | column =>
    show insertColumn index line (g.heighten line.cells.length) = insertColumn index line g
    rw [insertColumn, heighten_heighten, insertColumn]

theorem writeLine_grow (axis : Axis) (index : Nat) (cells : List Cell) (g : Grid) :
    (g.grow axis.cross cells.length).writeLine axis index cells = g.writeLine axis index cells := by
  cases axis with
  | row =>
    show writeRow index cells (g.widen cells.length) = writeRow index cells g
    rw [writeRow, widen_widen, writeRow]
  | column =>
    show writeColumn index cells (g.heighten cells.length) = writeColumn index cells g
    rw [writeColumn, heighten_heighten, writeColumn]

theorem labels_insertLine (axis : Axis) (index : Nat) (line : Line) (g : Grid) :
    (g.insertLine axis index line).labels axis = (g.labels axis).insertIdx index line.label := by
  cases axis with
  | row =>
    show ((g.widen _).rows.insertIdx index _).map (·.label) = _
    rw [List.map_insertIdx]
    exact congrArg (·.insertIdx index line.label) (labels_widen_row _ g)
  | column => rfl

theorem labels_writeLine (axis : Axis) (index : Nat) (cells : List Cell) (g : Grid) :
    (g.writeLine axis index cells).labels axis = g.labels axis := by
  cases axis with
  | row =>
    refine (map_modify_of_eq_self _ index ?_).trans (labels_widen_row cells.length g)
    exact fun _ => rfl
  | column => rfl

theorem set_insertIdx_self {α : Type} (items : List α) (i : Nat) (a b : α) :
    (items.insertIdx i a).set i b = items.insertIdx i b := by
  induction items generalizing i with
  | nil => cases i <;> rfl
  | cons item items ih =>
    cases i with
    | zero => rfl
    | succ i => simp [ih]

/-- A line may get its label after it is put in. -/
theorem relabel_insertLine (axis : Axis) (index : Nat) (label : Option String) (cells : List Cell)
    (g : Grid) :
    (g.insertLine axis index ⟨none, cells⟩).relabel axis (·.set index label) =
      g.insertLine axis index ⟨label, cells⟩ := by
  have hlen : (((g.insertLine axis index ⟨none, cells⟩).labels axis).set index label).length =
      (g.insertLine axis index ⟨none, cells⟩).count axis := List.length_set ..
  -- the label has no part in where the cells go
  have hcells : (g.insertLine axis index ⟨none, cells⟩).cells =
      (g.insertLine axis index ⟨label, cells⟩).cells := by
    cases axis with
    | row =>
      show ((g.widen _).rows.insertIdx index _).map (·.cells) =
        ((g.widen _).rows.insertIdx index _).map (·.cells)
      rw [List.map_insertIdx, List.map_insertIdx]
    | column => rfl
  refine eq_of_cells_of_labels ((cells_withLabels hlen).trans hcells) (fun a => ?_)
  refine forall_axis (p := fun a => labels a _ = labels a _) axis ?_ ?_ a
  · rw [relabel, labels_withLabels hlen, labels_insertLine, labels_insertLine, set_insertIdx_self]
  · rw [relabel, labels_cross_withLabels]
    cases axis <;> rfl

/-- Sticky labels may follow after the cells. -/
theorem relabel_arrange {rearrange : {α : Type} → List α → List α}
    (hr : Rearranges (g.count axis) rearrange) :
    (g.arrange axis false rearrange).relabel axis rearrange = g.arrange axis true rearrange := by
  rw [relabel, labels_arrange_loose hr]
  rfl

/-! ## Parts of edits -/

theorem amountsTo_insertion (axis : Axis) (index : Nat) (cells : List Cell) (label : Option String)
    (g : Grid) :
    AmountsTo (insertion axis index cells label) g (g.insert axis index cells label) := by
  refine amountsTo_look_map fun stored _ => ?_
  rw [← relabel_insertLine, ← insertLine_grow]
  rfl

theorem amountsTo_overwriting (axis : Axis) (ref : LineRef) (cells : List Cell) (g : Grid) :
    AmountsTo (overwriting axis ref cells) g (g.update axis ref cells) := by
  refine amountsTo_look_map fun k _ => ?_
  rw [← writeLine_grow]
  rfl

theorem amountsTo_rearrangement (sticky : Bool) {rearrange : {α : Type} → List α → List α}
    (hr : Rearranges (g.count axis) rearrange) :
    AmountsTo (rearrangement axis sticky rearrange) g (.ok (g.arrange axis sticky rearrange)) := by
  cases sticky with
  | true =>
    rw [← relabel_arrange hr]
    rfl
  | false => rfl

theorem amountsTo_labelling (axis : Axis) (labels : List (Option String)) (g : Grid) :
    AmountsTo (labelling axis labels) g (g.setLabels axis labels) := by
  refine amountsTo_get (amountsTo_check fun _ => amountsTo_check fun _ => ?_)
  cases firstRepeated [] ((labels.map normalizeLabel).filterMap id) <;> rfl

/-- Taking a line out answers with its cells, or fails and leaves the grid alone. -/
theorem run_removal (axis : Axis) (ref : LineRef) (g : Grid) :
    (removal axis ref).run g =
      match g.take axis ref with
      | .ok (cells, rest) => .ok cells rest
      | .error e => .error e g := by
  unfold removal take
  rw [run_look]
  cases g.line axis ref <;> rfl

theorem amountsTo_delete (axis : Axis) (ref : LineRef) (g : Grid) :
    AmountsTo (do let _ ← removal axis ref) g (g.delete axis ref) := by
  have hrun := run_removal axis ref g
  show EStateM.bind (removal axis ref) _ g = _
  unfold EStateM.run at hrun
  unfold EStateM.bind delete
  rw [hrun]
  cases g.take axis ref <;> rfl

/-! ## Whole edits -/

/-- Every edit is made as a whole or not at all. -/
theorem amountsTo_edit (edit : Edit) (g : Grid) : AmountsTo edit.program g (edit.apply g) := by
  cases edit with
  | append axis cells label =>
    exact amountsTo_get (amountsTo_insertion axis (g.count axis) cells label g)
  | prepend axis cells label => exact amountsTo_insertion axis 0 cells label g
  | update axis ref cells => exact amountsTo_overwriting axis ref cells g
  | clear axis ref => exact amountsTo_overwriting axis ref [] g
  | delete axis ref => exact amountsTo_delete axis ref g
  | swap axis a b sticky =>
    exact amountsTo_look fun a _ => amountsTo_look fun b _ =>
      amountsTo_rearrangement sticky (rearranges_exchange a b _)
  | move axis source target sticky =>
    exact amountsTo_look fun a _ => amountsTo_look fun b hb => amountsTo_get <|
      amountsTo_rearrangement sticky (rearranges_picked (relocate_range_perm a (lt_of_key hb)))
  | orderBy axis ref direction sticky =>
    exact amountsTo_look_map fun k _ => amountsTo_get <|
      amountsTo_rearrangement sticky (rearranges_picked (sortOrder_perm axis k direction g))
  | setLabels axis labels => exact amountsTo_labelling axis labels g
  | rename axis ref label =>
    exact amountsTo_look fun k _ => amountsTo_look fun stored _ => amountsTo_modify _
  | clearLabel axis ref => exact amountsTo_look_map fun k _ => amountsTo_modify _
  | swapLabels axis a b =>
    exact amountsTo_look fun a _ => amountsTo_look fun b _ => amountsTo_modify _
  | moveLabel axis source target =>
    exact amountsTo_look fun b _ => amountsTo_look fun a _ => amountsTo_modify _
  | setValue row column value =>
    exact amountsTo_look fun r _ => amountsTo_look fun c _ => amountsTo_modify _
  | setCell axis ref cross value =>
    exact amountsTo_look fun k _ => amountsTo_look_map fun c _ => amountsTo_modify _
  | search axis source => exact amountsTo_set (Grid.search source axis)
  | searchWith axis query => exact amountsTo_set (Grid.searchWith query axis)
  | deleteEmpty | merge | diff | intersect | filter | transpose => exact amountsTo_modify _

theorem after_edit (edit : Edit) (g : Grid) : edit.program.after g = edit.applyOrKeep g := by
  have hrun := amountsTo_edit edit g
  unfold AmountsTo at hrun
  unfold after Edit.applyOrKeep
  rw [hrun]
  cases edit.apply g <;> rfl

/-- Edits that are made in place one after the other, failing ones included. -/
theorem foldl_after (edits : List Edit) (g : Grid) :
    edits.foldl (fun g edit => edit.program.after g) g = Edit.run edits g :=
  congrArg (fun step => edits.foldl step g) (funext fun g => funext fun edit => after_edit edit g)

end Grid

end Tabular
