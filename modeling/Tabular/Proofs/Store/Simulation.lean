/-
A store that holds a grid answers each change as the grid does: it is refused for the same cause, or
it becomes the store of the changed grid. Stores that are made from rows, CSV, JSON or a snapshot
hold the grids that are made from these.
-/
import Tabular.Proofs.Store.Changing
import Tabular.Proofs.Store.Lines

namespace Tabular

namespace Grid

/-- At most one line is gone. -/
theorem WF.le_count_discardLine {g : Grid} (hg : g.WF) {axis : Axis} (test : Line → Bool) {k : Nat}
    (hk : k < g.count axis) : k ≤ (g.discardLine axis test k).count axis := by
  unfold discardLine
  split
  · rw [← length_lines] at hk ⊢
    rw [hg.lines_removeLine, List.length_eraseIdx_of_lt hk]
    exact Nat.le_sub_one_of_lt hk
  · exact Nat.le_of_lt hk

end Grid

namespace Store

variable {g other : Grid} {axis : Axis}

/-- What a store answers when the grid that it holds answers like this. -/
def answer (x : Except GridError Grid) : Answer Store :=
  (x.map ofGrid).mapError .refused

section

variable {α : Type} {x : Except GridError α} {rest : α → Answer Store}

theorem bind_eq_answer {f : α → Except GridError Grid}
    (h : ∀ a, x = .ok a → rest a = answer (f a)) :
    x.mapError .refused >>= rest = answer (x >>= f) := by
  cases x with
  | ok a => exact h a rfl
  | error e => rfl

theorem answer_bind {x : Except GridError Grid} {f : Grid → Except GridError Grid}
    {rest : Store → Answer Store} (h : ∀ g, x = .ok g → rest (ofGrid g) = answer (f g)) :
    answer x >>= rest = answer (x >>= f) := by
  cases x with
  | ok g => exact h g rfl
  | error e => rfl

theorem bind_eq_answer_map {f : α → Grid} (h : ∀ a, x = .ok a → rest a = .ok (ofGrid (f a))) :
    x.mapError .refused >>= rest = answer (x.map f) := by
  cases x with
  | ok a => exact h a rfl
  | error e => rfl

end

/-! ## Whole lines -/

theorem insert_ofGrid (hg : g.WF) {index : Nat} (hi : index ≤ g.count axis) (cells : List Cell)
    (label : Option String) :
    (ofGrid g).insert axis index cells label = answer (g.insert axis index cells label) := by
  rw [insert, freeLabel_ofGrid]
  exact bind_eq_answer_map fun stored _ => insertLine_ofGrid hg hi ⟨stored, cells⟩

theorem update_ofGrid (hg : g.WF) (axis : Axis) (ref : LineRef) (cells : List Cell) :
    (ofGrid g).update axis ref cells = answer (g.update axis ref cells) := by
  rw [update, key_ofGrid]
  exact bind_eq_answer_map fun k hk => writeLine_ofGrid hg (Grid.lt_of_key hk) cells

theorem take_ofGrid (hg : g.WF) (axis : Axis) (ref : LineRef) :
    (ofGrid g).take axis ref =
      ((g.take axis ref).map fun (cells, rest) => (cells, ofGrid rest)).mapError .refused := by
  rw [take, key_ofGrid, Grid.take, Grid.line]
  cases hk : g.key axis ref with
  | error e => rfl
  | ok k =>
    obtain ⟨line, hline, -⟩ := hg.exists_line (Grid.lt_of_key hk)
    show (ofGrid g).removeLine axis k >>= _ = _
    rw [removeLine_ofGrid hg hline, Except.map, Except.map, Except.map,
      List.getD_eq_getElem?_getD, hline]
    rfl

theorem delete_ofGrid (hg : g.WF) (axis : Axis) (ref : LineRef) :
    (ofGrid g).delete axis ref = answer (g.delete axis ref) := by
  rw [delete, take_ofGrid hg, Grid.delete]
  cases g.take axis ref <;> rfl

section

variable {test : Store → Nat → Answer Bool} {keep : Line → Bool}
  (htest : ∀ (g : Grid) (k : Nat) (line : Line), g.WF → (g.lines axis)[k]? = some line →
    test (ofGrid g) k = .ok (keep line))

include htest

theorem discardLine_ofGrid (hg : g.WF) {k : Nat} (hk : k < g.count axis) :
    discardLine axis test (ofGrid g) k = .ok (ofGrid (g.discardLine axis keep k)) := by
  obtain ⟨line, hline, -⟩ := hg.exists_line hk
  rw [discardLine, htest g k line hg hline, Grid.discardLine, hline, Option.any_some]
  cases keep line with
  | true =>
    show (ofGrid g).removeLine axis k >>= _ = _
    rw [removeLine_ofGrid hg hline]
    rfl
  | false => rfl

theorem discardFrom_ofGrid (hg : g.WF) {n : Nat} (hn : n ≤ g.count axis) :
    (List.range n).reverse.foldlM (discardLine axis test) (ofGrid g) =
      .ok (ofGrid ((List.range n).foldr (Grid.discardLine axis keep) g)) := by
  induction n generalizing g with
  | zero => rfl
  | succ n ih =>
    rw [List.range_succ, List.reverse_append, List.foldr_append]
    show discardLine axis test (ofGrid g) n >>= _ = _
    rw [discardLine_ofGrid htest hg hn]
    exact ih (Grid.discardLine_wf hg axis keep n) (hg.le_count_discardLine keep hn)

theorem discard_ofGrid (hg : g.WF) :
    (ofGrid g).discard axis test = .ok (ofGrid (g.discard axis keep)) := by
  rw [discard, count_ofGrid]
  exact discardFrom_ofGrid htest hg (Nat.le_refl _)

end

theorem deleteEmpty_ofGrid (hg : g.WF) (axis : Axis) :
    (ofGrid g).deleteEmpty axis = .ok (ofGrid (g.deleteEmpty axis)) := by
  refine discard_ofGrid (fun g k line hg hline => ?_) hg
  rw [cellsAt_ofGrid hg hline]
  rfl

theorem discardLabels_ofGrid (hg : g.WF) (axis : Axis) (test : Option String → Bool) :
    (ofGrid g).discardLabels axis test =
      .ok (ofGrid (g.discard axis fun line => test line.label)) := by
  refine discard_ofGrid (fun g k line _ hline => ?_) hg
  rw [labels_ofGrid, Checked.get_of_getElem? (getElem?_labels_of_lines hline)]
  rfl

theorem filter_ofGrid (hg : g.WF) (axis : Axis) (test : Nat → Line → Bool) :
    (ofGrid g).filter axis test = .ok (ofGrid (g.filter axis test)) := by
  rw [filter, lines_ofGrid hg]
  refine pick_ofGrid hg fun k hk => ?_
  obtain ⟨pair, hpair, rfl⟩ := List.mem_map.1 hk
  rw [← Grid.length_lines]
  exact List.snd_lt_of_mem_zipIdx (List.mem_of_mem_filter hpair)

/-! ## Order -/

theorem swap_ofGrid (hg : g.WF) (axis : Axis) (a b : LineRef) (sticky : Bool) :
    (ofGrid g).swap axis a b sticky = answer (g.swap axis a b sticky) := by
  rw [swap, key_ofGrid]
  refine bind_eq_answer fun a ha => ?_
  rw [key_ofGrid]
  refine bind_eq_answer fun b hb => ?_
  have hlt := Grid.lt_of_key ha
  have hlt' := Grid.lt_of_key hb
  rw [swapLines_ofGrid hg hlt hlt']
  cases sticky with
  | false => rfl
  | true =>
    exact relabel_arrange_ofGrid (Grid.rearranges_exchange a b _) (Checked.swap_of_lt hlt hlt')

theorem move_ofGrid (hg : g.WF) (axis : Axis) (source target : LineRef) (sticky : Bool) :
    (ofGrid g).move axis source target sticky = answer (g.move axis source target sticky) := by
  rw [move, key_ofGrid]
  refine bind_eq_answer fun a ha => ?_
  rw [key_ofGrid]
  refine bind_eq_answer fun b hb => ?_
  have hlen : (List.range (g.count axis)).length = g.count axis := List.length_range
  have horder := Checked.remove_insert_of_lt (hlen.symm ▸ Grid.lt_of_key ha)
    (hlen.symm ▸ Grid.lt_of_key hb)
  rw [← bind_assoc, count_ofGrid, horder]
  exact permute_ofGrid hg (Grid.relocate_range_perm a (Grid.lt_of_key hb)) sticky

theorem orderBy_ofGrid (hg : g.WF) (axis : Axis) (ref : LineRef) (direction : Direction)
    (sticky : Bool) :
    (ofGrid g).orderBy axis ref direction sticky =
      answer (g.orderBy axis ref direction sticky) := by
  rw [orderBy, key_ofGrid]
  refine bind_eq_answer_map fun k hk => ?_
  have hcell : ∀ key ∈ List.range (g.count axis),
      (ofGrid g).cellAt axis key k = .ok ((g.cell? axis key k).getD .null) := by
    intro key hkey
    obtain ⟨cell, hsome⟩ := Option.isSome_iff_exists.1
      (hg.cell?_isSome_iff.2 ⟨List.mem_range.1 hkey, Grid.lt_of_key hk⟩)
    rw [hsome]
    exact cellAt_ofGrid hsome
  -- beyond the last line there is no cell in the grid and none has been read
  have hread : (fun key => ((List.range (g.count axis)).map
      fun key => (g.cell? axis key k).getD .null).getD key .null) =
        fun key => (g.cell? axis key k).getD .null := by
    funext key
    by_cases hkey : key < g.count axis
    · simp [List.getD_eq_getElem?_getD, hkey]
    · have hnone : g.cell? axis key k = none := by
        rw [← Option.not_isSome_iff_eq_none, hg.cell?_isSome_iff]
        exact fun h => hkey h.1
      simp [List.getD_eq_getElem?_getD, hkey, hnone]
  simp only [count_ofGrid, Checked.mapM_of_forall hcell]
  show (ofGrid g).permute axis _ sticky = _
  rw [hread]
  exact permute_ofGrid hg (List.mergeSort_perm _ _) sticky

/-! ## Two stores -/

/-- Going through a list in a store goes along with going through it in the grid. -/
theorem foldlM_ofGrid {α : Type} {step : Store → α → Answer Store} {change : Grid → α → Grid}
    {p : Grid → Prop} {items : List α} (hg : p g)
    (hstep : ∀ g, ∀ a ∈ items, p g →
      step (ofGrid g) a = .ok (ofGrid (change g a)) ∧ p (change g a)) :
    items.foldlM step (ofGrid g) = .ok (ofGrid (items.foldl change g)) ∧
      p (items.foldl change g) := by
  induction items generalizing g with
  | nil => exact ⟨rfl, hg⟩
  | cons a items ih =>
    obtain ⟨heq, hp⟩ := hstep g a List.mem_cons_self hg
    rw [List.foldlM_cons, heq]
    exact ih hp fun g b hb => hstep g b (List.mem_cons_of_mem _ hb)

theorem addLine_ofGrid (hg : g.WF) (axis : Axis) (line : Line) :
    addLine axis (ofGrid g) line = .ok (ofGrid (g.addLine axis line)) := by
  unfold addLine Grid.addLine
  simp only [hasLabel_ofGrid, count_ofGrid]
  split
  · rfl
  · exact insertLine_ofGrid hg (Nat.le_refl _) line

theorem adoptLabel_ofGrid {key : Nat} (hk : key < g.count axis) (ho : key < other.count axis) :
    adoptLabel axis (ofGrid other) (ofGrid g) key =
      .ok (ofGrid (g.adoptLabel axis key ((other.labels axis).getD key none))) := by
  rw [adoptLabel, labels_ofGrid, Checked.get_of_lt ho, List.getD_eq_getElem?_getD,
    List.getElem?_eq_getElem ho, Option.getD_some]
  cases (other.labels axis)[key] with
  | none => rfl
  | some l =>
    show (if (ofGrid g).hasLabel axis l then _ else _) = _
    rw [hasLabel_ofGrid, Grid.adoptLabel]
    split
    · rfl
    · exact relabel_ofGrid (Checked.set_of_lt hk (some l)) (List.length_set ..)

theorem count_adoptLabel (axis : Axis) (key : Nat) (label : Option String) (g : Grid) :
    (g.adoptLabel axis key label).count axis = g.count axis := by
  cases label with
  | none => rfl
  | some l =>
    rw [Grid.adoptLabel]
    split
    · rfl
    · rw [Grid.count, Grid.labels_withLabels (List.length_set ..), List.length_set, Grid.count]

/-- Labels are taken over for lines that both stores have. -/
theorem adoptLabels_ofGrid (hg : g.WF) (ho : other.WF) {keys : List Nat}
    (hkeys : ∀ key ∈ keys, key < g.count axis ∧ key < other.count axis) :
    keys.foldlM (adoptLabel axis (ofGrid other)) (ofGrid g) = .ok (ofGrid
      (keys.foldl (fun t key => t.adoptLabel axis key ((other.labels axis).getD key none)) g)) := by
  refine (foldlM_ofGrid (p := fun t => t.WF ∧ t.count axis = g.count axis) ⟨hg, rfl⟩ ?_).1
  rintro t key hkey ⟨ht, hcount⟩
  obtain ⟨hlt, hother⟩ := hkeys key hkey
  have hnamed : (other.labels axis).getD key none ≠ some "" := by
    rw [List.getD_eq_getElem?_getD, List.getElem?_eq_getElem hother]
    intro h
    exact (ho.labels axis).named (h ▸ List.getElem_mem hother)
  exact ⟨adoptLabel_ofGrid (hcount ▸ hlt) hother, Grid.adoptLabel_wf ht axis key hnamed,
    (count_adoptLabel ..).trans hcount⟩

/-- Some labels with their positions, counted from the first of them. -/
theorem take_drop_zipIdx (labels : List (Option String)) (before n : Nat) :
    (labels.zipIdx.drop before).take n =
      (List.range' before (min (before + n) labels.length - before)).map
        fun key => (labels.getD key none, key) := by
  refine List.ext_getElem (by simp; omega) fun i hi hi' => ?_
  have hlt : before + i < labels.length := by
    simp at hi
    omega
  simp [List.getD_eq_getElem?_getD, hlt]

theorem merge_ofGrid (hg : g.WF) (axis : Axis) (ho : other.WF) :
    (ofGrid g).merge axis (ofGrid other) = .ok (ofGrid (g.merge axis other)) := by
  have hadd : (other.lines axis).foldlM (addLine axis) (ofGrid g) =
      .ok (ofGrid ((other.lines axis).foldl (Grid.addLine axis) g)) ∧
        ((other.lines axis).foldl (Grid.addLine axis) g).WF :=
    foldlM_ofGrid hg fun g line hline hg =>
      ⟨addLine_ofGrid hg axis line, Grid.addLine_wf hg (ho.line_named hline)⟩
  rw [merge, Grid.merge, lines_ofGrid ho]
  show (other.lines axis).foldlM (addLine axis) (ofGrid g) >>= _ = _
  rw [hadd.1]
  obtain ⟨-, hmerged⟩ := hadd
  generalize (other.lines axis).foldl (Grid.addLine axis) g = merged at hmerged
  -- the lines that the merge has added and that the other grid has, too
  have hshared : min (merged.count axis.cross) (other.count axis.cross) - g.count axis.cross =
      min (g.count axis.cross + (merged.count axis.cross - g.count axis.cross))
        (other.labels axis.cross).length - g.count axis.cross := by
    rw [show (other.labels axis.cross).length = other.count axis.cross from rfl]
    omega
  simp only [take_drop_zipIdx, List.foldl_map, ← hshared]
  show (List.range' _ _).foldlM _ _ = _
  rw [count_ofGrid, count_ofGrid, count_ofGrid]
  refine adoptLabels_ofGrid hmerged ho fun key hkey => ?_
  rw [List.mem_range'_1] at hkey
  omega

theorem diff_ofGrid (hg : g.WF) (axis : Axis) (other : Grid) :
    (ofGrid g).diff axis (ofGrid other) = .ok (ofGrid (g.diff axis other)) := by
  rw [diff, discardLabels_ofGrid hg]
  simp only [hasLabel_ofGrid]
  rfl

theorem intersect_ofGrid (hg : g.WF) (axis : Axis) (other : Grid) :
    (ofGrid g).intersect axis (ofGrid other) = .ok (ofGrid (g.intersect axis other)) := by
  rw [intersect, discardLabels_ofGrid hg]
  simp only [hasLabel_ofGrid]
  rfl

/-! ## Searching -/

theorem view_ofGrid (g : Grid) : (ofGrid g).view = g.view := by
  have hcell : ∀ r c, (ofGrid g).data[r]?.bind (·[c]?) = g.cell? .row r c :=
    fun r c => (Grid.cell?_eq_cells g r c).symm
  rw [view, Grid.view, TableView.mk.injEq]
  refine ⟨funext fun a => count_ofGrid a g, ?_, ?_, ?_⟩
  · funext a k
    rw [labels_ofGrid]
  · funext a k c
    cases a with
    | row => exact hcell k c
    | column => exact hcell c k
  · funext a l
    exact find?_ofGrid a l g

theorem searchWith_ofGrid (hg : g.WF) (query : Query) (axis : Axis) :
    (ofGrid g).searchWith query axis = answer (g.searchWith query axis) := by
  rw [searchWith, Grid.searchWith, view_ofGrid]
  cases hselect : query.select g.view axis with
  | error e => rfl
  | ok keys =>
    exact pick_ofGrid hg fun k hk => Query.lt_count_of_mem_select hselect hk

theorem search_ofGrid (hg : g.WF) (source : String) (axis : Axis) :
    (ofGrid g).search source axis = answer (g.search source axis) := by
  unfold search Grid.search
  split
  · rfl
  · cases Query.parse source with
    | error e => rfl
    | ok query => exact searchWith_ofGrid hg query axis

/-! ## Labels -/

theorem setLabels_ofGrid (axis : Axis) (labels : List (Option String)) (g : Grid) :
    (ofGrid g).setLabels axis labels = answer (g.setLabels axis labels) := by
  unfold setLabels Grid.setLabels
  simp only [count_ofGrid]
  by_cases hempty : g.count axis = 0
  · rw [if_pos hempty, if_pos hempty]
    rfl
  rw [if_neg hempty, if_neg hempty]
  by_cases hmany : g.count axis < (labels.map normalizeLabel).length
  · rw [if_pos hmany, if_pos hmany]
    rfl
  rw [if_neg hmany, if_neg hmany]
  have hle := Nat.le_of_not_lt hmany
  have hpadding : ((labels.map normalizeLabel).rightpad (g.count axis) none).filterMap id =
      (labels.map normalizeLabel).filterMap id := by
    rw [List.rightpad, List.filterMap_append, List.filterMap_replicate_of_none rfl,
      List.append_nil]
  rw [Checked.resize_of_le hle, hpadding]
  cases Grid.firstRepeated [] ((labels.map normalizeLabel).filterMap id) with
  | some l => rfl
  | none =>
    refine congrArg Except.ok (withLabels_ofGrid ?_)
    rw [List.length_rightpad, Nat.max_eq_left hle]

theorem setLabelsIfAny_ofGrid (axis : Axis) (labels : List (Option String)) (g : Grid) :
    (ofGrid g).setLabelsIfAny axis labels = answer (g.setLabelsIfAny axis labels) := by
  unfold setLabelsIfAny Grid.setLabelsIfAny
  split
  · rfl
  · exact setLabels_ofGrid axis labels g

theorem rename_ofGrid (axis : Axis) (ref : LineRef) (label : Option String) (g : Grid) :
    (ofGrid g).rename axis ref label = answer (g.rename axis ref label) := by
  rw [rename, key_ofGrid]
  refine bind_eq_answer fun k hk => ?_
  rw [freeLabel_ofGrid]
  exact bind_eq_answer fun stored _ =>
    relabel_ofGrid (Checked.set_of_lt (Grid.lt_of_key hk) stored) (List.length_set ..)

theorem clearLabel_ofGrid (axis : Axis) (ref : LineRef) (g : Grid) :
    (ofGrid g).clearLabel axis ref = answer (g.clearLabel axis ref) := by
  rw [clearLabel, key_ofGrid]
  exact bind_eq_answer_map fun k hk =>
    relabel_ofGrid (Checked.set_of_lt (Grid.lt_of_key hk) none) (List.length_set ..)

theorem swapLabels_ofGrid (axis : Axis) (a b : LineRef) (g : Grid) :
    (ofGrid g).swapLabels axis a b = answer (g.swapLabels axis a b) := by
  rw [swapLabels, key_ofGrid]
  refine bind_eq_answer fun a ha => ?_
  rw [key_ofGrid]
  exact bind_eq_answer fun b hb => relabel_ofGrid
    (Checked.swap_of_lt (Grid.lt_of_key ha) (Grid.lt_of_key hb))
    (Grid.exchange_perm a b _).length_eq

theorem moveLabel_ofGrid (axis : Axis) (source target : LineRef) (g : Grid) :
    (ofGrid g).moveLabel axis source target = answer (g.moveLabel axis source target) := by
  rw [moveLabel, key_ofGrid]
  refine bind_eq_answer fun b hb => ?_
  rw [key_ofGrid]
  exact bind_eq_answer fun a ha => relabel_ofGrid
    (Checked.remove_insert_of_lt (Grid.lt_of_key ha) (Grid.lt_of_key hb))
    (Grid.relocate_perm a (Grid.lt_of_key hb)).length_eq

/-! ## Single cells -/

theorem setValue_ofGrid (hg : g.WF) (row column : LineRef) (value : Cell) :
    (ofGrid g).setValue row column value = answer (g.setValue row column value) := by
  rw [setValue, key_ofGrid]
  refine bind_eq_answer fun r hr => ?_
  rw [key_ofGrid]
  exact bind_eq_answer fun c hc =>
    putCell_ofGrid hg (Grid.lt_of_key hr) (Grid.lt_of_key hc) value

theorem setCell_ofGrid (hg : g.WF) {key : Nat} (hk : key < g.count axis) (cross : LineRef)
    (value : Cell) :
    (ofGrid g).setCell axis key cross value = answer (g.setCell axis key cross value) := by
  rw [setCell, key_ofGrid]
  exact bind_eq_answer_map fun c hc => putCell_ofGrid hg hk (Grid.lt_of_key hc) value

/-- Writes to one line stop at the same failure. -/
theorem setCells_ofGrid (hg : g.WF) {key : Nat} (hk : key < g.count axis)
    (writes : List (LineRef × Cell)) :
    (ofGrid g).setCells axis key writes =
      (ofGrid (g.setCells axis key writes).1, (g.setCells axis key writes).2.map .refused) := by
  induction writes generalizing g with
  | nil => rfl
  | cons write writes ih =>
    obtain ⟨cross, value⟩ := write
    rw [setCells, Grid.setCells, setCell_ofGrid hg hk]
    cases hset : g.setCell axis key cross value with
    | error e => rfl
    | ok changed =>
      obtain ⟨c, -, rfl⟩ := map_eq_ok_iff.1 hset
      exact ih (Grid.setCell_wf hg hset) (by rwa [Grid.count, labels_putCell])

/-! ## Changes -/

/-- A store that holds a grid answers each change as the grid does. -/
theorem apply_ofGrid (edit : Edit) (hg : g.WF) (ho : ∀ other ∈ edit.others, other.WF) :
    (ofGrid g).apply (edit.map ofGrid) = answer (edit.apply g) := by
  cases edit with
  | append axis cells label =>
    show (ofGrid g).insert axis ((ofGrid g).count axis) cells label = _
    rw [count_ofGrid]
    exact insert_ofGrid hg (Nat.le_refl _) cells label
  | prepend axis cells label => exact insert_ofGrid hg (Nat.zero_le _) cells label
  | update axis ref cells => exact update_ofGrid hg axis ref cells
  | clear axis ref => exact update_ofGrid hg axis ref []
  | delete axis ref => exact delete_ofGrid hg axis ref
  | deleteEmpty axis => exact deleteEmpty_ofGrid hg axis
  | swap axis a b sticky => exact swap_ofGrid hg axis a b sticky
  | move axis source target sticky => exact move_ofGrid hg axis source target sticky
  | orderBy axis ref direction sticky => exact orderBy_ofGrid hg axis ref direction sticky
  | merge axis other => exact merge_ofGrid hg axis (ho other List.mem_cons_self)
  | diff axis other => exact diff_ofGrid hg axis other
  | intersect axis other => exact intersect_ofGrid hg axis other
  | filter axis test => exact filter_ofGrid hg axis test
  | search axis source => exact search_ofGrid hg source axis
  | searchWith axis query => exact searchWith_ofGrid hg query axis
  | transpose => exact transpose_ofGrid hg
  | setLabels axis labels => exact setLabels_ofGrid axis labels g
  | rename axis ref label => exact rename_ofGrid axis ref label g
  | clearLabel axis ref => exact clearLabel_ofGrid axis ref g
  | swapLabels axis a b => exact swapLabels_ofGrid axis a b g
  | moveLabel axis source target => exact moveLabel_ofGrid axis source target g
  | setValue row column value => exact setValue_ofGrid hg row column value
  | setCell axis ref cross value =>
    show (ofGrid g).key axis ref >>= _ = _
    rw [key_ofGrid]
    exact bind_eq_answer fun k hk => setCell_ofGrid hg (Grid.lt_of_key hk) cross value

theorem applyOrKeep_ofGrid (edit : Edit) (hg : g.WF) (ho : ∀ other ∈ edit.others, other.WF) :
    (ofGrid g).applyOrKeep (edit.map ofGrid) = ofGrid (edit.applyOrKeep g) := by
  rw [applyOrKeep, apply_ofGrid edit hg ho, Edit.applyOrKeep]
  cases edit.apply g <;> rfl

/-! ## Sources -/

theorem ofLabeledRows_eq_answer (rows : List (List Cell)) (firstColumn firstRow : Bool) :
    ofLabeledRows rows firstColumn firstRow =
      answer (Grid.ofLabeledRows rows firstColumn firstRow) := by
  unfold ofLabeledRows Grid.ofLabeledRows
  simp only [ofRows_eq_ofGrid, grow_ofGrid (Grid.ofRows_wf _), setLabelsIfAny_ofGrid]
  exact answer_bind fun g _ => setLabelsIfAny_ofGrid ..

theorem ofCsv_eq_answer (dialect : Csv.Dialect) (keep : CsvLabels) (infer : Bool)
    (bytes : List UInt8) :
    ofCsv dialect keep infer bytes = answer (Grid.ofCsv dialect keep infer bytes) := by
  unfold ofCsv Grid.ofCsv
  cases Csv.decode (Csv.records dialect bytes) with
  | none => rfl
  | some texts => exact ofLabeledRows_eq_answer ..

end Store

open Store

theorem Json.toStore_eq_answer (keep : JsonLabels) (document : Json) :
    document.toStore keep = answer (document.toGrid keep) := by
  unfold Json.toStore Json.toGrid
  simp only [ofRows_eq_ofGrid, grow_ofGrid (Grid.ofRows_wf _), setLabelsIfAny_ofGrid]
  split
  · rfl
  · refine answer_bind fun g _ => ?_
    split
    · exact setLabels_ofGrid ..
    · rfl

theorem Snapshot.toStore_eq_answer (snapshot : Snapshot) :
    snapshot.toStore = answer snapshot.toGrid := by
  unfold Snapshot.toStore Snapshot.toGrid
  rw [ofRows_eq_ofGrid, setLabelsIfAny_ofGrid]
  exact answer_bind fun g _ => setLabelsIfAny_ofGrid ..

end Tabular
