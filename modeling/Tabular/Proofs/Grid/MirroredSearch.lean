/-
Columns are searched as rows are. A query finds in the transpose of a grid the fields that it finds
in the grid, and decides a column there as it decides the row. So it keeps the same lines, and what
it finds is the transpose, also when that is nothing; where a field is not found, it is not found
on the other axis.
-/
import Tabular.Proofs.Grid.Mirror
import Tabular.Proofs.Grid.Searching

namespace Tabular

variable {α β ε δ : Type}

/-! ## Errors -/

theorem Step.traverse_mapError (f : α → Except ε β) (m : ε → δ) (steps : List (Step α)) :
    traverse (fun a => (f a).mapError m) steps = (traverse f steps).mapError m := by
  induction steps with
  | nil => rfl
  | cons step steps ih =>
    cases step with
    | operand a =>
      rw [traverse, traverse, ih]
      cases f a with
      | error e => rfl
      | ok b => cases traverse f steps <;> rfl
    | operator op =>
      rw [traverse, traverse, ih]
      cases traverse f steps <;> rfl

/-- A text that does not compile is refused without regard to an axis. -/
theorem Query.mirrored_of_parse_eq_error {limit : Option Nat} {source : String} {e : QueryError}
    (h : parseWith limit source = .error e) : e.mirrored = e := by
  rcases bind_eq_error_iff.1 h with h | ⟨ts, _, h⟩
  · -- a bracket without its partner
    obtain ⟨_, _, rfl⟩ := mapError_eq_error_iff.1 h
    rfl
  rcases bind_eq_error_iff.1 h with h | ⟨_, _, h⟩
  · -- too many selectors
    unfold checkLimit at h
    split at h
    · split at h
      · cases h
        rfl
      · cases h
    · cases h
  rcases bind_eq_error_iff.1 h with h | ⟨us, _, h⟩
  · -- a selector without a field or an operator
    obtain ⟨chunk, h⟩ := Token.exists_of_traverse_eq_error h
    simp only [Selector.parse] at h
    split at h
    · cases h
      rfl
    · split at h
      · cases h
        rfl
      · cases h
  rcases bind_eq_error_iff.1 h with h | ⟨_, _, h⟩
  · -- terms and operators that do not line up
    obtain ⟨_, _, rfl⟩ := mapError_eq_error_iff.1 h
    rfl
  · cases h

/-! ## Finding fields along the other axis -/

section

variable {t t' : TableView} {axis : Axis}

theorem BoundSelector.bind_mirrored (hfields : FieldsAgree t axis t' axis.cross) (s : Selector) :
    BoundSelector.bind t' axis.cross s = (BoundSelector.bind t axis s).mapError .mirrored := by
  rw [bind, bind, mapError_bind_pure, ← mapM_mapError]
  congr 2
  funext field
  rw [BoundField.of?_of_agree hfields]
  cases BoundField.of? t' axis.cross field <;> rfl

/-- What is bound along one axis is bound along the other, to the same fields. -/
theorem Query.bind_mirrored (hfields : FieldsAgree t axis t' axis.cross) (q : Query) :
    q.bind t' axis.cross =
      ((q.bind t axis).mapError .mirrored).map fun b => { b with axis := axis.cross } := by
  have hselector : BoundSelector.bind t' axis.cross =
      fun s => (BoundSelector.bind t axis s).mapError .mirrored :=
    funext (BoundSelector.bind_mirrored hfields)
  rw [bind, bind, hselector, Step.traverse_mapError]
  cases Step.traverse (BoundSelector.bind t axis) q.steps <;> rfl

end

namespace Grid

variable {g : Grid} {axis : Axis}

/-! ## The transpose in a query -/

theorem fieldsAgree_transpose (g : Grid) (axis : Axis) :
    FieldsAgree g.view axis g.transpose.view axis.cross where
  count := by
    show g.count axis.cross = g.transpose.count axis.cross.cross
    rw [count_transpose, Axis.cross_cross]
  findLabel l := (find?_transpose g axis.cross l).symm

theorem WF.linesAgree_transpose (hg : g.WF) (axis : Axis) (k : Nat) :
    LinesAgree g.view axis k g.transpose.view axis.cross k where
  label := by
    show ((g.labels axis)[k]?).join = ((g.transpose.labels axis.cross)[k]?).join
    rw [labels_transpose, Axis.cross_cross]
  cell c := by
    show Cell.Alike ((g.cell? axis k c).getD .null) ((g.transpose.cell? axis.cross k c).getD .null)
    rw [hg.cell?_transpose, Axis.cross_cross]
    exact .refl _

theorem WF.transpose_pick (hg : g.WF) (axis : Axis) {keys : List Nat} {n : Nat}
    (hkeys : keys.Sublist (List.range n)) :
    (g.pick axis keys).transpose = g.transpose.pick axis.cross keys := by
  rw [hg.pick_eq, (transpose_wf hg).pick_eq]
  exact hg.transpose_along (pickRows_wf (seenFrom_wf axis hg) hkeys)

/-! ## Searching the transpose -/

theorem WF.searchWith_mirrored (hg : g.WF) {limit : Option Nat} {source : String} {q : Query}
    (hq : Query.parseWith limit source = .ok q) (axis : Axis) :
    g.transpose.searchWith q axis.cross = mirrorOutcome (g.searchWith q axis) := by
  have hfields := fieldsAgree_transpose g axis
  have hbind := Query.bind_mirrored hfields q
  rw [searchWith_eq, searchWith_eq, hbind]
  cases hb : q.bind g.view axis with
  | error e => rfl
  | ok b =>
    have hkept : ∀ k, BoundQuery.keeps { b with axis := axis.cross } g.transpose.view k =
        b.keeps g.view k := by
      intro k
      rw [hb] at hbind
      exact (BoundQuery.keeps_of_agree hq hb hbind hfields (hg.linesAgree_transpose axis k)
        (.inl rfl)).symm
    show Except.ok (g.transpose.pick axis.cross _) = Except.ok (g.pick axis _).transpose
    rw [funext hkept, count_transpose, Axis.cross_cross,
      hg.transpose_pick axis List.filter_sublist]

theorem WF.search_mirrored (hg : g.WF) (source : String) (axis : Axis) :
    g.transpose.search source axis.cross = mirrorOutcome (g.search source axis) := by
  rw [(transpose_wf hg).search_eq, hg.search_eq]
  cases hq : Query.parse source with
  | error e =>
    show Except.error (GridError.query e) = .error (.query e.mirrored)
    rw [Query.mirrored_of_parse_eq_error hq]
  | ok q => exact hg.searchWith_mirrored hq axis

/-- A search fails only because of its query. -/
theorem WF.exists_of_search_eq_error (hg : g.WF) {source : String} {e : GridError}
    (h : g.search source axis = .error e) : ∃ cause, e = .query cause := by
  rw [hg.search_eq] at h
  rcases bind_eq_error_iff.1 h with h | ⟨q, _, h⟩
  · obtain ⟨cause, _, rfl⟩ := mapError_eq_error_iff.1 h
    exact ⟨cause, rfl⟩
  · obtain ⟨field, rfl⟩ := exists_of_searchWith_eq_error h
    exact ⟨_, rfl⟩

/-- Searching the transpose of a reachable grid along the other axis finds the transpose of what is
found in the grid, or both searches fail, with the same error about the other axis. -/
theorem Reachable.search_mirrors (hg : g.Reachable) (source : String) (axis : Axis) :
    (∃ found found', g.search source axis = .ok found ∧
        g.transpose.search source axis.cross = .ok found' ∧ found'.transpose = found) ∨
      ∃ cause : QueryError, g.search source axis = .error (.query cause) ∧
        g.transpose.search source axis.cross = .error (.query cause.mirrored) := by
  rw [hg.wf.search_mirrored]
  cases hfound : g.search source axis with
  | ok found =>
    exact .inl ⟨found, found.transpose, rfl, rfl, (search_wf hg.wf hfound).transpose_transpose⟩
  | error e =>
    obtain ⟨cause, rfl⟩ := hg.wf.exists_of_search_eq_error hfound
    exact .inr ⟨cause, rfl, rfl⟩

/-- Nothing is found, and as columns this is a grid of rows without cells; a field that is no column
of the grid is no row of its transpose. -/
theorem search_mirrors_nothing_found :
    Reachable ⟨[⟨some "r", [.text "1"]⟩], [some "n"]⟩ ∧
      (∃ found, search "n=2" .column ⟨[⟨some "n", [.text "1"]⟩], [some "r"]⟩ = .ok found ∧
        found.transpose = ⟨[], [some "n"]⟩) ∧
      search "m=1" .column ⟨[⟨some "n", [.text "1"]⟩], [some "r"]⟩ =
        .error (.query (.unknownField .row "m")) := by
  have hmade : ofLabeledRows [[.null, .text "n"], [.text "r", .text "1"]] true true =
      .ok ⟨[⟨some "r", [.text "1"]⟩], [some "n"]⟩ := rfl
  have hg := Reachable.ofLabeledRows hmade
  have hnothing : search "n=2" .row ⟨[⟨some "r", [.text "1"]⟩], [some "n"]⟩ =
      .ok ⟨[], [some "n"]⟩ := by decide +kernel
  have hmissing : search "m=1" .row ⟨[⟨some "r", [.text "1"]⟩], [some "n"]⟩ =
      .error (.query (.unknownField .column "m")) := by decide +kernel
  refine ⟨hg, ?_, ?_⟩
  · rcases hg.search_mirrors "n=2" .row with ⟨_, found, h, hfound, hback⟩ | ⟨_, h, _⟩
    · cases hnothing.symm.trans h
      exact ⟨found, hfound, hback⟩
    · cases hnothing.symm.trans h
  · rcases hg.search_mirrors "m=1" .row with ⟨_, _, h, _⟩ | ⟨_, h, hfails⟩
    · cases hmissing.symm.trans h
    · cases hmissing.symm.trans h
      exact hfails

end Grid

end Tabular
