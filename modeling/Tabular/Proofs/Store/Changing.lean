/-
No change of a store whose lists fit together uses an index that is out of range, whatever its
arguments: positions are used only after a reference has been found, and loops stay within the
lines that there are. The lists fit together after it. One lemma per change; merging needs the lists
of the other store to fit together too, since it reads the lines of that store.
-/
import Tabular.Proofs.Grid.Preservation
import Tabular.Proofs.Store.Aligned
import Tabular.Store.Edit
import Tabular.Store.Sources

namespace Tabular

theorem Query.lt_count_of_mem_select {query : Query} {table : TableView} {axis : Axis}
    {keys : List Nat} {k : Nat} (h : query.select table axis = .ok keys) (hk : k ∈ keys) :
    k < table.count axis := by
  obtain ⟨bound, hbound, rfl⟩ := map_eq_ok_iff.1 h
  obtain ⟨steps, _, hsteps⟩ := bind_eq_ok_iff.1 hbound
  cases hsteps
  exact List.mem_range.1 (List.mem_of_mem_filter hk)

namespace Store

variable {s other : Store} {axis : Axis}

/-! ## Whole lines -/

theorem Aligned.insert (h : s.Aligned) {index : Nat} (hi : index ≤ s.count axis)
    (cells : List Cell) (label : Option String) :
    Ensures Aligned (s.insert axis index cells label) :=
  (ensures_freeLabel axis label none s).bind fun stored _ =>
    (h.insertLine hi ⟨stored, cells⟩).imp fun _ ht => ht.1

theorem Aligned.update (h : s.Aligned) (axis : Axis) (ref : LineRef) (cells : List Cell) :
    Ensures Aligned (s.update axis ref cells) :=
  (ensures_key axis ref s).bind fun _ hk => h.writeLine hk cells

theorem Aligned.take (h : s.Aligned) (axis : Axis) (ref : LineRef) :
    Ensures (fun found => found.2.Aligned) (s.take axis ref) :=
  (ensures_key axis ref s).bind fun _ hk => (h.removeLine hk).bind fun _ hrest => hrest.1

theorem Aligned.delete (h : s.Aligned) (axis : Axis) (ref : LineRef) :
    Ensures Aligned (s.delete axis ref) :=
  (h.take axis ref).bind fun _ hrest => hrest

section

variable {test : Store → Nat → Answer Bool}
  (htest : ∀ (t : Store) (k : Nat), t.Aligned → k < t.count axis → ∃ b, test t k = .ok b)

include htest

/-- At most one line is gone after one step. -/
theorem Aligned.discardLine (h : s.Aligned) {k : Nat} (hk : k < s.count axis) :
    Ensures (fun t => t.Aligned ∧ k ≤ t.count axis) (discardLine axis test s k) := by
  obtain ⟨b, hb⟩ := htest s k h hk
  rw [Store.discardLine, hb]
  cases b with
  | true => exact (h.removeLine hk).bind fun found hrest => ⟨hrest.1, by omega⟩
  | false => exact ⟨h, Nat.le_of_lt hk⟩

/-- The last lines are looked at first, so those still to come keep their positions. -/
theorem Aligned.discardFrom (h : s.Aligned) {n : Nat} (hn : n ≤ s.count axis) :
    Ensures Aligned ((List.range n).reverse.foldlM (Store.discardLine axis test) s) := by
  induction n generalizing s with
  | zero => exact h
  | succ n ih =>
    rw [List.range_succ, List.reverse_append, List.reverse_singleton, List.singleton_append,
      List.foldlM_cons]
    exact (h.discardLine htest hn).bind fun t ht => ih ht.1 ht.2

theorem Aligned.discard (h : s.Aligned) : Ensures Aligned (s.discard axis test) :=
  h.discardFrom htest (Nat.le_refl _)

end

theorem Aligned.deleteEmpty (h : s.Aligned) (axis : Axis) :
    Ensures Aligned (s.deleteEmpty axis) := by
  refine h.discard fun t k ht hk => ?_
  obtain ⟨cells, hcells, -⟩ := ht.exists_cellsAt hk
  rw [hcells]
  exact ⟨_, rfl⟩

theorem Aligned.discardLabels (h : s.Aligned) (axis : Axis) (test : Option String → Bool) :
    Ensures Aligned (s.discardLabels axis test) := by
  refine h.discard fun t k _ hk => ?_
  rw [Checked.get_of_lt hk]
  exact ⟨_, rfl⟩

theorem Aligned.filter (h : s.Aligned) (axis : Axis) (test : Nat → Line → Bool) :
    Ensures Aligned (s.filter axis test) := by
  obtain ⟨lines, hlines, hlen⟩ := h.exists_lines axis
  rw [Store.filter, hlines]
  refine h.pick fun k hk => ?_
  obtain ⟨pair, hpair, rfl⟩ := List.mem_map.1 hk
  rw [← hlen]
  exact List.snd_lt_of_mem_zipIdx (List.mem_of_mem_filter hpair)

/-! ## Order -/

theorem Aligned.swap (h : s.Aligned) (axis : Axis) (a b : LineRef) (sticky : Bool) :
    Ensures Aligned (s.swap axis a b sticky) := by
  refine (ensures_key axis a s).bind fun a ha => (ensures_key axis b s).bind fun b hb => ?_
  refine (h.swapLines ha hb).bind fun t ⟨ht, hlabels⟩ => ?_
  cases sticky with
  | false => exact ht
  | true =>
    rw [count, ← hlabels] at ha hb
    exact ht.relabel (Checked.swap_of_lt ha hb) (Grid.exchange_perm a b _).length_eq

theorem Aligned.move (h : s.Aligned) (axis : Axis) (source target : LineRef) (sticky : Bool) :
    Ensures Aligned (s.move axis source target sticky) := by
  refine (ensures_key axis source s).bind fun a ha => ?_
  refine (ensures_key axis target s).bind fun b hb => ?_
  have hlen : (List.range (s.count axis)).length = s.count axis := List.length_range
  have horder := Checked.remove_insert_of_lt (hlen.symm ▸ ha) (hlen.symm ▸ hb)
  rw [← bind_assoc, horder]
  exact h.permute (Grid.relocate_range_perm a hb) sticky

theorem Aligned.orderBy (h : s.Aligned) (axis : Axis) (ref : LineRef) (direction : Direction)
    (sticky : Bool) : Ensures Aligned (s.orderBy axis ref direction sticky) := by
  refine (ensures_key axis.cross ref s).bind fun k hk => ?_
  have hread : ∀ key ∈ List.range (s.count axis), ∃ cell, s.cellAt axis key k = .ok cell :=
    fun key hkey => h.exists_cellAt (List.mem_range.1 hkey) hk
  obtain ⟨cells, hcells, -⟩ := Checked.exists_mapM_eq_ok hread
  simp only [hcells]
  exact h.permute (List.mergeSort_perm _ _) sticky

/-! ## Two stores -/

theorem Aligned.addLine (h : s.Aligned) (axis : Axis) (line : Line) :
    Ensures Aligned (addLine axis s line) := by
  unfold Store.addLine
  split
  · exact h
  · exact (h.insertLine (Nat.le_refl _) line).imp fun _ ht => ht.1

theorem Aligned.adoptLabel (h : s.Aligned) {key : Nat} (hk : key < s.count axis)
    (ho : key < other.count axis) :
    Ensures (fun t => t.Aligned ∧ t.count axis = s.count axis) (adoptLabel axis other s key) := by
  rw [Store.adoptLabel, Checked.get_of_lt ho]
  cases (other.labels axis)[key] with
  | none => exact ⟨h, rfl⟩
  | some l =>
    show Ensures _ (if s.hasLabel axis l then pure s else s.relabel axis (Checked.set key (some l)))
    split
    · exact ⟨h, rfl⟩
    · rw [relabel_of_eq_ok (Checked.set_of_lt hk (some l))]
      exact ⟨h.withLabels (List.length_set ..), (count_withLabels ..).trans (List.length_set ..)⟩

theorem Aligned.merge (h : s.Aligned) (axis : Axis) (ho : other.Aligned) :
    Ensures Aligned (s.merge axis other) := by
  obtain ⟨lines, hlines, -⟩ := ho.exists_lines axis
  rw [Store.merge, hlines]
  refine (ensures_foldlM h fun t line _ ht => ht.addLine axis line).bind fun merged hmerged => ?_
  -- labels are taken only for lines that both stores have
  refine Ensures.imp (ensures_foldlM
    (p := fun t => t.Aligned ∧ t.count axis.cross = merged.count axis.cross) ⟨hmerged, rfl⟩ ?_)
    fun _ ht => ht.1
  intro t key hkey ⟨ht, hcount⟩
  rw [List.mem_range'_1] at hkey
  exact (ht.adoptLabel (by omega) (by omega)).imp fun u hu => ⟨hu.1, hu.2.trans hcount⟩

/-! ## Searching -/

theorem Aligned.searchWith (h : s.Aligned) (query : Query) (axis : Axis) :
    Ensures Aligned (s.searchWith query axis) :=
  (ensures_mapError _ GridError.query).bind fun _ hkeys =>
    h.pick fun _ hk => Query.lt_count_of_mem_select hkeys hk

theorem Aligned.search (h : s.Aligned) (source : String) (axis : Axis) :
    Ensures Aligned (s.search source axis) := by
  unfold Store.search
  split
  · exact h
  · exact (ensures_mapError _ GridError.query).bind fun query _ => h.searchWith query axis

/-! ## Labels -/

theorem Aligned.rename (h : s.Aligned) (axis : Axis) (ref : LineRef) (label : Option String) :
    Ensures Aligned (s.rename axis ref label) :=
  (ensures_key axis ref s).bind fun k hk => (ensures_freeLabel axis label (some k) s).bind
    fun stored _ => h.relabel (Checked.set_of_lt hk stored) (List.length_set ..)

theorem Aligned.clearLabel (h : s.Aligned) (axis : Axis) (ref : LineRef) :
    Ensures Aligned (s.clearLabel axis ref) :=
  (ensures_key axis ref s).bind fun _ hk =>
    h.relabel (Checked.set_of_lt hk none) (List.length_set ..)

theorem Aligned.swapLabels (h : s.Aligned) (axis : Axis) (a b : LineRef) :
    Ensures Aligned (s.swapLabels axis a b) :=
  (ensures_key axis a s).bind fun a ha => (ensures_key axis b s).bind fun b hb =>
    h.relabel (Checked.swap_of_lt ha hb) (Grid.exchange_perm a b _).length_eq

theorem Aligned.moveLabel (h : s.Aligned) (axis : Axis) (source target : LineRef) :
    Ensures Aligned (s.moveLabel axis source target) :=
  (ensures_key axis target s).bind fun _ hb => (ensures_key axis source s).bind fun a ha =>
    h.relabel (Checked.remove_insert_of_lt ha hb) (Grid.relocate_perm a hb).length_eq

/-! ## Single cells -/

theorem Aligned.setValue (h : s.Aligned) (row column : LineRef) (value : Cell) :
    Ensures Aligned (s.setValue row column value) :=
  (ensures_key .row row s).bind fun _ hr => (ensures_key .column column s).bind fun _ hc =>
    (h.putCell hr hc value).imp fun _ ht => ht.1

theorem Aligned.setCell (h : s.Aligned) {key : Nat} (hk : key < s.count axis) (cross : LineRef)
    (value : Cell) :
    Ensures (fun t => t.Aligned ∧ ∀ a, t.labels a = s.labels a) (s.setCell axis key cross value) :=
  (ensures_key axis.cross cross s).bind fun _ hc => h.putCell hk hc value

/-- Writes to one line, up to the first that is refused. -/
theorem Aligned.setCells (h : s.Aligned) {key : Nat} (hk : key < s.count axis)
    (writes : List (LineRef × Cell)) :
    (s.setCells axis key writes).1.Aligned ∧
      (s.setCells axis key writes).2 ≠ some .outOfRange := by
  induction writes generalizing s with
  | nil => exact ⟨h, (Option.some_ne_none _).symm⟩
  | cons write writes ih =>
    obtain ⟨cross, value⟩ := write
    have hset := h.setCell hk cross value
    rw [Store.setCells]
    split
    · rename_i changed hchanged
      obtain ⟨hwf, hkept⟩ := hset.of_eq_ok hchanged
      exact ih hwf (by rwa [count, hkept])
    · rename_i e he
      rw [he] at hset
      exact ⟨h, fun hout => hset (Option.some.inj hout)⟩

/-! ## Changes -/

/-- A change keeps the lists aligned and uses no index that is out of range. -/
theorem Aligned.apply (h : s.Aligned) (change : Change Store)
    (ho : ∀ other ∈ change.others, other.Aligned) : Ensures Aligned (s.apply change) := by
  cases change with
  | append axis cells label => exact h.insert (Nat.le_refl _) cells label
  | prepend axis cells label => exact h.insert (Nat.zero_le _) cells label
  | update axis ref cells => exact h.update axis ref cells
  | clear axis ref => exact h.update axis ref []
  | delete axis ref => exact h.delete axis ref
  | deleteEmpty axis => exact h.deleteEmpty axis
  | swap axis a b sticky => exact h.swap axis a b sticky
  | move axis source target sticky => exact h.move axis source target sticky
  | orderBy axis ref direction sticky => exact h.orderBy axis ref direction sticky
  | merge axis other => exact h.merge axis (ho other List.mem_cons_self)
  | diff axis other => exact h.discardLabels axis _
  | intersect axis other => exact h.discardLabels axis _
  | filter axis test => exact h.filter axis test
  | search axis source => exact h.search source axis
  | searchWith axis query => exact h.searchWith query axis
  | transpose => exact h.transpose
  | setLabels axis labels => exact h.setLabels axis labels
  | rename axis ref label => exact h.rename axis ref label
  | clearLabel axis ref => exact h.clearLabel axis ref
  | swapLabels axis a b => exact h.swapLabels axis a b
  | moveLabel axis source target => exact h.moveLabel axis source target
  | setValue row column value => exact h.setValue row column value
  | setCell axis ref cross value =>
    exact (ensures_key axis ref s).bind fun _ hk => (h.setCell hk cross value).imp fun _ ht => ht.1

theorem Aligned.applyOrKeep (h : s.Aligned) (change : Change Store)
    (ho : ∀ other ∈ change.others, other.Aligned) : (s.applyOrKeep change).Aligned := by
  have happly := h.apply change ho
  unfold Store.applyOrKeep
  split
  · rename_i changed hchanged
    exact happly.of_eq_ok hchanged
  · exact h

/-! ## Sources -/

theorem ensures_ofCsv (dialect : Csv.Dialect) (keep : CsvLabels) (infer : Bool)
    (bytes : List UInt8) : Ensures Aligned (ofCsv dialect keep infer bytes) := by
  unfold ofCsv
  split
  · exact ensures_refused _
  · exact ensures_ofLabeledRows ..

end Store

open Store

theorem Json.ensures_toStore (keep : JsonLabels) (document : Json) :
    Ensures Aligned (document.toStore keep) := by
  unfold Json.toStore
  simp only
  split
  · exact ensures_refused _
  · refine (((ofRows_aligned _).grow .column _).setLabelsIfAny .column _).bind fun s hs => ?_
    split
    · exact hs.setLabels .row _
    · exact hs

theorem Snapshot.ensures_toStore (snapshot : Snapshot) : Ensures Aligned snapshot.toStore :=
  ((ofRows_aligned _).setLabelsIfAny .row _).bind fun _ h => h.setLabelsIfAny .column _

end Tabular
