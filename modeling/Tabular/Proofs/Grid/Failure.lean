/-
When an edit of a grid fails, and with which error: a reference stands for no line, a label is
taken, or the labels that are set do not fit. The first of these counts that applies, in the order
in which the edit asks for them. An edit that fails leaves the grid as it was, although it is made
in several steps.
-/
import Tabular.Proofs.Grid.InPlace
import Tabular.Proofs.Grid.Labelling

namespace Tabular

/-! ## References that stand for no line -/

/-- What is wrong with a reference that stands for no line. -/
def LineRef.missing (axis : Axis) : LineRef → GridError
  | .position k => .keyNotFound axis k
  | .label l => .labelNotFound axis l

namespace Grid

/-- A reference stands for the line at a position. -/
def Resolves (g : Grid) (axis : Axis) : LineRef → Nat → Prop
  | .position n, k => n = k ∧ k < g.count axis
  | .label l, k => (g.labels axis)[k]? = some (some l)

/-- The first reference that stands for no line, by its error. -/
inductive FirstMissing (g : Grid) : List (Axis × LineRef) → GridError → Prop
  | here {axis : Axis} {ref : LineRef} {refs : List (Axis × LineRef)} :
      (∀ k, ¬ g.Resolves axis ref k) → FirstMissing g ((axis, ref) :: refs) (ref.missing axis)
  | later {axis : Axis} {ref : LineRef} {refs : List (Axis × LineRef)} {k : Nat} {e : GridError} :
      g.Resolves axis ref k → FirstMissing g refs e → FirstMissing g ((axis, ref) :: refs) e

variable {g : Grid} {axis : Axis} {ref : LineRef} {refs : List (Axis × LineRef)} {k : Nat}
  {e : GridError}

/-- The empty text stands for no line. -/
theorem WF.not_resolves_empty (hg : g.WF) : ¬ g.Resolves axis (.label "") k :=
  fun h => (hg.labels axis).named (List.mem_of_getElem? h)

theorem WF.key_eq_ok_iff (hg : g.WF) : g.key axis ref = .ok k ↔ g.Resolves axis ref k := by
  cases ref with
  | position n =>
    unfold key Resolves
    by_cases hn : n < g.count axis
    · simp only [hn, reduceIte, Except.ok.injEq]
      exact ⟨fun h => ⟨h, h ▸ hn⟩, fun h => h.1⟩
    · simp only [hn, reduceIte, reduceCtorEq, false_iff]
      rintro ⟨rfl, hk⟩
      exact hn hk
  | label l => exact key_label_eq_ok_iff.trans (find?_eq_some_iff (hg.labels axis))

/-- A reference is refused with its own error. -/
theorem eq_missing_of_key (h : g.key axis ref = .error e) : e = ref.missing axis := by
  unfold key at h
  split at h <;> split at h <;> cases h <;> rfl

theorem WF.key_eq_error_iff (hg : g.WF) :
    g.key axis ref = .error e ↔ (∀ k, ¬ g.Resolves axis ref k) ∧ e = ref.missing axis := by
  constructor
  · intro h
    refine ⟨fun k hk => ?_, eq_missing_of_key h⟩
    rw [hg.key_eq_ok_iff.2 hk] at h
    cases h
  · rintro ⟨hnone, rfl⟩
    cases h : g.key axis ref with
    | ok k => exact absurd (hg.key_eq_ok_iff.1 h) (hnone k)
    | error e => rw [eq_missing_of_key h]

theorem WF.firstMissing_cons_iff (hg : g.WF) :
    FirstMissing g ((axis, ref) :: refs) e ↔
      g.key axis ref = .error e ∨ ∃ k, g.key axis ref = .ok k ∧ FirstMissing g refs e := by
  constructor
  · rintro (hnone | ⟨hk, hlater⟩)
    · exact .inl (hg.key_eq_error_iff.2 ⟨hnone, rfl⟩)
    · exact .inr ⟨_, hg.key_eq_ok_iff.2 hk, hlater⟩
  · rintro (h | ⟨k, hk, hlater⟩)
    · obtain ⟨hnone, rfl⟩ := hg.key_eq_error_iff.1 h
      exact .here hnone
    · exact .later (hg.key_eq_ok_iff.1 hk) hlater

theorem not_firstMissing_nil : ¬ FirstMissing g [] e := nofun

theorem WF.firstMissing_singleton_iff (hg : g.WF) :
    FirstMissing g [(axis, ref)] e ↔ g.key axis ref = .error e :=
  hg.firstMissing_cons_iff.trans (or_iff_left fun ⟨_, _, h⟩ => not_firstMissing_nil h)

section

variable {β : Type}

/-- Where all references are found, nothing fails. -/
theorem ok_eq_error_iff {b : β} : (.ok b : Except GridError β) = .error e ↔ FirstMissing g [] e :=
  ⟨nofun, nofun⟩

theorem WF.bind_key_eq_error_iff (hg : g.WF) {rest : Nat → Except GridError β}
    (h : ∀ k, rest k = .error e ↔ FirstMissing g refs e) :
    (g.key axis ref >>= rest) = .error e ↔ FirstMissing g ((axis, ref) :: refs) e := by
  simp only [bind_eq_error_iff, hg.firstMissing_cons_iff, h]

theorem WF.map_key_eq_error_iff (hg : g.WF) {change : Nat → β} :
    (g.key axis ref).map change = .error e ↔ FirstMissing g [(axis, ref)] e :=
  map_eq_error_iff.trans hg.firstMissing_singleton_iff.symm

end

/-! ## Labels that are taken -/

/-- A label is not empty, and a line other than its owner carries it. -/
def Taken (g : Grid) (axis : Axis) (label : Option String) (owner : Option Nat) (e : GridError) :
    Prop :=
  ∃ l k, label = some l ∧ l ≠ "" ∧ g.Resolves axis (.label l) k ∧ owner ≠ some k ∧
    e = .duplicateLabel axis l

theorem WF.freeLabel_eq_error_iff (hg : g.WF) {label : Option String} {owner : Option Nat} :
    g.freeLabel axis label owner = .error e ↔ g.Taken axis label owner e := by
  have hfind : ∀ {l k}, g.find? axis l = some k ↔ g.Resolves axis (.label l) k :=
    find?_eq_some_iff (hg.labels axis)
  unfold freeLabel
  constructor
  · intro h
    split at h
    · cases h
    · rename_i l hl
      obtain ⟨rfl, hne⟩ := normalizeLabel_eq_some_iff.1 hl
      split at h
      · cases h
      · rename_i k hk
        split at h
        · cases h
        · rename_i howner
          cases h
          exact ⟨l, k, rfl, hne, hfind.1 hk, howner, rfl⟩
  · rintro ⟨l, k, rfl, hne, hk, howner, rfl⟩
    simp only [normalizeLabel_eq_some_iff.2 ⟨rfl, hne⟩, hfind.2 hk, howner, reduceIte]

/-! ## Labels that do not fit -/

/-- The first label of a list, other than the empty text, that stands earlier in it already. -/
def FirstRepeated (labels : List (Option String)) (l : String) : Prop :=
  ∃ before after, labels = before ++ some l :: after ∧ l ≠ "" ∧ some l ∈ before ∧
    UniqueLabels (before.map normalizeLabel)

/-- Why labels cannot be set. -/
inductive Unfit (g : Grid) (axis : Axis) (labels : List (Option String)) : GridError → Prop
  | emptyAxis : g.count axis = 0 → Unfit g axis labels (.emptyAxis axis)
  | tooMany : 0 < g.count axis → g.count axis < labels.length →
      Unfit g axis labels (.tooManyLabels axis labels.length (g.count axis))
  | repeated {l : String} : 0 < g.count axis → labels.length ≤ g.count axis →
      FirstRepeated labels l → Unfit g axis labels (.duplicateLabel axis l)

theorem exists_of_firstRepeated_eq_some {seen texts : List String} {l : String}
    (h : firstRepeated seen texts = some l) : ∃ before after, texts = before ++ l :: after ∧
      (l ∈ before ∨ l ∈ seen) ∧ before.Nodup ∧ ∀ s ∈ before, s ∉ seen := by
  induction texts generalizing seen with
  | nil => cases h
  | cons s texts ih =>
    unfold firstRepeated at h
    split at h
    · rename_i hs
      cases h
      exact ⟨[], texts, rfl, .inr (List.contains_iff_mem.1 hs), .nil, List.forall_mem_nil _⟩
    · rename_i hs
      obtain ⟨before, after, rfl, hl, hn, hseen⟩ := ih h
      refine ⟨s :: before, after, rfl, ?_, List.nodup_cons.2 ⟨?_, hn⟩, ?_⟩
      · -- where it was seen before may be right here
        rw [List.mem_cons] at hl ⊢
        tauto
      · exact fun hm => hseen s hm List.mem_cons_self
      · rw [List.forall_mem_cons]
        exact ⟨fun hm => hs (List.contains_iff_mem.2 hm),
          fun t ht hm => hseen t ht (List.mem_cons_of_mem s hm)⟩

theorem firstRepeated_eq_some {before : List String} {l : String} (after : List String)
    (hl : l ∈ before) (hn : before.Nodup) : firstRepeated [] (before ++ l :: after) = some l := by
  have hseen : (before.reverse ++ []).contains l := by simpa using hl
  rw [firstRepeated_append _ hn fun _ _ => List.not_mem_nil, firstRepeated, if_pos hseen]

theorem uniqueLabels_stored_iff {labels : List (Option String)} :
    UniqueLabels (labels.map normalizeLabel) ↔ (labels.filterMap normalizeLabel).Nodup := by
  have hmap : (labels.map normalizeLabel).filterMap id = labels.filterMap normalizeLabel :=
    List.filterMap_map
  constructor
  · intro hu
    rw [← hmap]
    exact (firstRepeated_eq_none hu.firstRepeated_eq_none).1
  · intro hn
    refine uniqueLabels_of_firstRepeated (firstRepeated_of_nodup ?_ fun _ _ => List.not_mem_nil)
    rwa [hmap]

theorem firstRepeated_stored_iff {labels : List (Option String)} {l : String} :
    firstRepeated [] ((labels.map normalizeLabel).filterMap id) = some l ↔
      FirstRepeated labels l := by
  rw [List.filterMap_map, Function.id_comp]
  constructor
  · intro h
    obtain ⟨texts, rest, htexts, hl, hn, -⟩ := exists_of_firstRepeated_eq_some h
    obtain ⟨before, others, rfl, rfl, hrest⟩ := List.filterMap_eq_append_iff.1 htexts
    obtain ⟨skipped, label, after, rfl, hskipped, hlabel, rfl⟩ := List.filterMap_eq_cons_iff.1 hrest
    obtain ⟨rfl, hne⟩ := normalizeLabel_eq_some_iff.1 hlabel
    -- what stands between is empty, so it may be counted to what comes before
    refine ⟨before ++ skipped, after, (List.append_assoc ..).symm, hne, ?_, ?_⟩
    · obtain ⟨label, hm, hlabel⟩ := List.mem_filterMap.1 (hl.resolve_right List.not_mem_nil)
      rw [← (normalizeLabel_eq_some_iff.1 hlabel).1]
      exact List.mem_append_left _ hm
    · rw [uniqueLabels_stored_iff, List.filterMap_append, List.filterMap_eq_nil_iff.2 hskipped,
        List.append_nil]
      exact hn
  · rintro ⟨before, after, rfl, hne, hl, hu⟩
    have hlabel := normalizeLabel_eq_some_iff.2 ⟨rfl, hne⟩
    rw [List.filterMap_append, List.filterMap_cons_some hlabel]
    exact firstRepeated_eq_some _ (List.mem_filterMap.2 ⟨some l, hl, hlabel⟩)
      (uniqueLabels_stored_iff.1 hu)

theorem setLabels_eq_error_iff {labels : List (Option String)} :
    g.setLabels axis labels = .error e ↔ g.Unfit axis labels e := by
  unfold setLabels
  constructor
  · -- each check that is passed is what the next reason takes for granted
    intro h
    simp only [List.length_map] at h
    split at h
    · rename_i hempty
      cases h
      exact .emptyAxis hempty
    · rename_i hpos
      split at h
      · rename_i hmany
        cases h
        exact .tooMany (Nat.pos_of_ne_zero hpos) hmany
      · rename_i hfit
        split at h
        · rename_i l hl
          cases h
          exact .repeated (Nat.pos_of_ne_zero hpos) (Nat.le_of_not_lt hfit)
            (firstRepeated_stored_iff.1 hl)
        · cases h
  · rintro (hempty | ⟨hpos, hmany⟩ | ⟨hpos, hfit, hl⟩)
    · simp only [hempty, reduceIte]
    · simp only [List.length_map, Nat.ne_of_gt hpos, hmany, reduceIte]
    · simp only [List.length_map, Nat.ne_of_gt hpos, Nat.not_lt.2 hfit, reduceIte,
        firstRepeated_stored_iff.2 hl]

/-! ## Changes of lines -/

theorem WF.insert_eq_error_iff (hg : g.WF) {index : Nat} {cells : List Cell}
    {label : Option String} :
    g.insert axis index cells label = .error e ↔ g.Taken axis label none e :=
  map_eq_error_iff.trans hg.freeLabel_eq_error_iff

theorem WF.take_eq_error_iff (hg : g.WF) :
    g.take axis ref = .error e ↔ FirstMissing g [(axis, ref)] e :=
  map_eq_error_iff.trans hg.map_key_eq_error_iff

theorem WF.rename_eq_error_iff (hg : g.WF) {label : Option String} :
    g.rename axis ref label = .error e ↔ FirstMissing g [(axis, ref)] e ∨
      ∃ k, g.Resolves axis ref k ∧ g.Taken axis label (some k) e := by
  unfold rename
  rw [bind_eq_error_iff, hg.firstMissing_singleton_iff]
  refine or_congr_right ⟨?_, ?_⟩
  · rintro ⟨k, hk, h⟩
    -- once the label is free, nothing is left that fails
    rcases bind_eq_error_iff.1 h with h | ⟨_, _, h⟩
    · exact ⟨k, hg.key_eq_ok_iff.1 hk, hg.freeLabel_eq_error_iff.1 h⟩
    · cases h
  · rintro ⟨k, hk, htaken⟩
    exact ⟨k, hg.key_eq_ok_iff.2 hk,
      bind_eq_error_iff.2 (.inl (hg.freeLabel_eq_error_iff.2 htaken))⟩

end Grid

/-! ## Edits -/

namespace Edit

/-- The references of an edit, in the order in which they are looked up. -/
def refs : Edit → List (Axis × LineRef)
  | .update axis ref _ | .clear axis ref | .delete axis ref | .rename axis ref _
  | .clearLabel axis ref => [(axis, ref)]
  | .swap axis a b _ | .swapLabels axis a b => [(axis, a), (axis, b)]
  | .move axis source target _ => [(axis, source), (axis, target)]
  | .moveLabel axis source target => [(axis, target), (axis, source)]
  | .orderBy axis ref _ _ => [(axis.cross, ref)]
  | .setValue row column _ => [(.row, row), (.column, column)]
  | .setCell axis ref cross _ => [(axis, ref), (axis.cross, cross)]
  | _ => []

/-- Why an edit is refused although all its references are good. -/
def Rejected (g : Grid) (e : GridError) : Edit → Prop
  | .append axis _ label | .prepend axis _ label => g.Taken axis label none e
  | .rename axis ref label => ∃ k, g.Resolves axis ref k ∧ g.Taken axis label (some k) e
  | .setLabels axis labels => g.Unfit axis labels e
  | _ => False

/-- An edit fails with an error. -/
def Fails (g : Grid) (edit : Edit) (e : GridError) : Prop :=
  Grid.FirstMissing g edit.refs e ∨ edit.Rejected g e

/-- An edit changes its grid; the others leave it as it is and make a new one. -/
def Writes : Edit → Prop
  | .filter .. | .search .. | .searchWith .. => False
  | _ => True

end Edit

namespace Grid

variable {g : Grid} {e : GridError}

/-- An edit fails exactly when it must. -/
theorem WF.apply_eq_error_iff (hg : g.WF) {edit : Edit} (hw : edit.Writes) :
    edit.apply g = .error e ↔ edit.Fails g e := by
  cases edit with
  | append | prepend =>
    exact hg.insert_eq_error_iff.trans (or_iff_right not_firstMissing_nil).symm
  | setLabels => exact setLabels_eq_error_iff.trans (or_iff_right not_firstMissing_nil).symm
  | rename => exact hg.rename_eq_error_iff
  | delete => exact (map_eq_error_iff.trans hg.take_eq_error_iff).trans (or_iff_left id).symm
  | update | clear | clearLabel | orderBy =>
    exact hg.map_key_eq_error_iff.trans (or_iff_left id).symm
  | swap | move | swapLabels | moveLabel | setValue =>
    exact (hg.bind_key_eq_error_iff fun _ => hg.bind_key_eq_error_iff fun _ =>
      ok_eq_error_iff).trans (or_iff_left id).symm
  | setCell =>
    exact (hg.bind_key_eq_error_iff fun _ => hg.map_key_eq_error_iff).trans (or_iff_left id).symm
  | deleteEmpty | merge | diff | intersect | transpose =>
    exact ok_eq_error_iff.trans (or_iff_left id).symm
  | filter | search | searchWith => exact hw.elim

theorem WF.setCells_single_eq_iff (hg : g.WF) {axis : Axis} {k : Nat} {cross : LineRef}
    {value : Cell} {kept : Grid} :
    g.setCells axis k [(cross, value)] = (kept, some e) ↔
      FirstMissing g [(axis.cross, cross)] e ∧ kept = g := by
  rw [hg.firstMissing_singleton_iff]
  unfold setCells setCell
  cases g.key axis.cross cross with
  | ok c => simp [Except.map, setCells]
  | error e' => simp [Except.map, eq_comm, and_comm]

/-! ## What callers rely on -/

/-- Edits fail when they must and only then, and one that fails has changed nothing. -/
structure AllOrNothing (g : Grid) : Prop where
  named : ∀ axis k, ¬ g.Resolves axis (.label "") k
  fails : ∀ (edit : Edit) (e : GridError), edit.Writes →
    (edit.apply g = .error e ↔ edit.Fails g e)
  kept : ∀ (edit : Edit) (e : GridError) (left : Grid), edit.Writes →
    (edit.program.run g = .error e left ↔ edit.Fails g e ∧ left = g)
  made : ∀ (edit : Edit) (changed : Grid),
    edit.program.run g = .ok () changed ↔ edit.apply g = .ok changed
  take : ∀ (axis : Axis) (ref : LineRef) (e : GridError),
    g.take axis ref = .error e ↔ g.FirstMissing [(axis, ref)] e
  takeKept : ∀ (axis : Axis) (ref : LineRef) (e : GridError) (left : Grid),
    (removal axis ref).run g = .error e left ↔ g.FirstMissing [(axis, ref)] e ∧ left = g
  taken : ∀ (axis : Axis) (ref : LineRef) (cells : List Cell) (rest : Grid),
    (removal axis ref).run g = .ok cells rest ↔ g.take axis ref = .ok (cells, rest)
  setCell : ∀ (axis : Axis) (k : Nat) (cross : LineRef) (value : Cell) (e : GridError)
    (left : Grid), g.setCells axis k [(cross, value)] = (left, some e) ↔
      g.FirstMissing [(axis.cross, cross)] e ∧ left = g

/-- This holds of every reachable grid. -/
theorem Reachable.allOrNothing {g : Grid} (h : Reachable g) : g.AllOrNothing where
  named _ _ := h.wf.not_resolves_empty
  fails _ _ hw := h.wf.apply_eq_error_iff hw
  kept edit _ _ hw :=
    (amountsTo_edit edit g).run_eq_error_iff.trans (and_congr_left' (h.wf.apply_eq_error_iff hw))
  made edit _ := (amountsTo_edit edit g).run_eq_ok_iff
  take _ _ _ := h.wf.take_eq_error_iff
  takeKept axis ref e left := by
    rw [← h.wf.take_eq_error_iff, run_removal]
    cases g.take axis ref with
    | ok _ => simp
    | error _ => simp [eq_comm]
  taken axis ref cells rest := by
    rw [run_removal]
    cases g.take axis ref <;> simp [Prod.ext_iff]
  setCell _ _ _ _ _ _ := h.wf.setCells_single_eq_iff

/-- A row of two cells under a label that is taken: the grid does not get a second column. -/
theorem append_taken_unchanged :
    Edit.run [.append .row [.text "1"] (some "a")] .empty = ⟨[⟨some "a", [.text "1"]⟩], [none]⟩ ∧
      (Edit.program (.append .row [.text "2", .text "3"] (some "a"))).run
          ⟨[⟨some "a", [.text "1"]⟩], [none]⟩ =
        .error (.duplicateLabel .row "a") ⟨[⟨some "a", [.text "1"]⟩], [none]⟩ := by
  have hrun : Edit.run [.append .row [.text "1"] (some "a")] .empty =
    ⟨[⟨some "a", [.text "1"]⟩], [none]⟩ := rfl
  have hreachable : Reachable (Edit.run [.append .row [.text "1"] (some "a")] .empty) := by
    refine Reachable.empty.run ?_
    simp only [List.forall_mem_cons, Change.others]
    exact ⟨List.forall_mem_nil _, List.forall_mem_nil _⟩
  rw [hrun] at hreachable
  refine ⟨hrun, (hreachable.allOrNothing.kept (.append .row _ _) _ _ trivial).2 ⟨.inr ?_, rfl⟩⟩
  exact ⟨"a", 0, rfl, by decide, rfl, (Option.some_ne_none 0).symm, rfl⟩

end Grid

end Tabular
