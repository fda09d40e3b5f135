/-
Fields that name nothing. A query is answered only when every field of it is found on the other
axis; otherwise the first field of its text that is not found is reported. This is settled before
any line is looked at, by the count and the labels of that axis alone, so tables that have these in
common report the same field, and so does everything that a query is used for.
-/
import Mathlib.Data.List.Find
import Tabular.Proofs.Grid.Searching
import Tabular.Proofs.Query.Conversion

namespace Tabular

/-! ## Looking labels up -/

/-- A table that finds a label where it stands first. -/
def TableView.FindsFirst (table : TableView) : Prop :=
  ∀ axis label,
    table.findLabel? axis label = firstLabeled (table.count axis) (table.label? axis) label

theorem firstLabeled_eq_none_iff {count : Nat} {label? : Nat → Option String} {label : String} :
    firstLabeled count label? label = none ↔ ∀ k < count, label? k ≠ some label := by
  unfold firstLabeled
  simp only [List.find?_eq_none, List.mem_range, beq_iff_eq, ne_eq]

theorem firstLabeled_congr {count : Nat} {label? label?' : Nat → Option String}
    (h : ∀ k < count, label? k = label?' k) (label : String) :
    firstLabeled count label? label = firstLabeled count label?' label := by
  unfold firstLabeled
  refine List.find?_congr fun k hk => ?_
  rw [h k (List.mem_range.1 hk)]

theorem firstLabeled_eq_findIdx? (labels : List (Option String)) (label : String) :
    firstLabeled labels.length (fun k => labels[k]?.join) label =
      labels.findIdx? (· == some label) := by
  have hat : ∀ k (h : k < labels.length), labels[k]?.join = labels[k] := by
    intro k h
    rw [List.getElem?_eq_getElem h]
    rfl
  refine Option.ext fun k => ?_
  rw [firstLabeled, List.find?_range_eq_some, List.findIdx?_eq_some_iff_getElem, List.mem_range]
  constructor
  · rintro ⟨hk, hlt, hbefore⟩
    refine ⟨hlt, by rwa [hat k hlt] at hk, fun j hj => ?_⟩
    have hj' := hbefore j hj
    rw [hat j (by omega)] at hj'
    simpa using hj'
  · rintro ⟨hlt, hk, hbefore⟩
    refine ⟨by rwa [hat k hlt], hlt, fun j hj => ?_⟩
    rw [hat j (by omega)]
    simpa using hbefore j hj

/-- A grid does, along both axes. -/
theorem Grid.findsFirst_view (g : Grid) : g.view.FindsFirst := fun axis label =>
  (firstLabeled_eq_findIdx? (g.labels axis) label).symm

/-! ## Fields that are not found -/

/-- A position at or past the end of the other axis, or a name that is no label there. -/
def Field.Unknown (table : TableView) (axis : Axis) : Field → Prop
  | .key | .label => False
  | .position n => table.count axis.cross ≤ n
  | .named name => ∀ k < table.count axis.cross, table.label? axis.cross k ≠ some name

instance (table : TableView) (axis : Axis) : (f : Field) → Decidable (f.Unknown table axis)
  | .key | .label => inferInstanceAs (Decidable False)
  | .position n => inferInstanceAs (Decidable (table.count axis.cross ≤ n))
  | .named name =>
    inferInstanceAs
      (Decidable (∀ k < table.count axis.cross, table.label? axis.cross k ≠ some name))

/-- The first of some fields that is not found. -/
def Field.FirstUnknown (table : TableView) (axis : Axis) (fields : List Field) (f : Field) : Prop :=
  ∃ before after, fields = before ++ f :: after ∧ (∀ g ∈ before, ¬ g.Unknown table axis) ∧
    f.Unknown table axis

/-- The fields of a query, selector by selector. -/
def Query.fields (q : Query) : List Field :=
  q.selectors.flatMap (·.fields)

section

variable {table : TableView} {axis : Axis}

theorem BoundField.of?_eq_none_iff (ht : table.FindsFirst) {f : Field} :
    of? table axis f = none ↔ f.Unknown table axis := by
  cases f with
  | key | label => exact iff_of_false nofun id
  | position n =>
    rw [of?, Field.Unknown, ite_eq_right_iff]
    simp
  | named name => rw [of?, Field.Unknown, Option.map_eq_none_iff, ht, firstLabeled_eq_none_iff]

/-- Finds a field or reports it. -/
def BoundField.require (table : TableView) (axis : Axis) (f : Field) :
    Except QueryError BoundField :=
  match of? table axis f with
  | some b => .ok b
  | none => .error (.unknownField axis.cross f.name)

theorem BoundField.require_eq_error_iff (ht : table.FindsFirst) {f : Field} {e : QueryError} :
    require table axis f = .error e ↔
      f.Unknown table axis ∧ e = .unknownField axis.cross f.name := by
  rw [← of?_eq_none_iff ht, require]
  cases of? table axis f <;> simp [eq_comm]

theorem BoundField.exists_require_iff (ht : table.FindsFirst) {f : Field} :
    (∃ b, require table axis f = .ok b) ↔ ¬ f.Unknown table axis := by
  rw [← of?_eq_none_iff ht, require]
  cases of? table axis f <;> simp

/-- Binding a query fails as finding its fields one after the other. -/
theorem Query.bind_eq_error_iff_fields {q : Query} {e : QueryError} :
    q.bind table axis = .error e ↔
      q.fields.mapM (BoundField.require table axis) = .error e := by
  have hselector : BoundSelector.bind table axis = fun s =>
      s.fields.mapM (BoundField.require table axis) >>= fun fields =>
        pure ⟨fields, s.operator, s.values⟩ := rfl
  have hsteps : q.bind table axis = .error e ↔
      q.selectors.mapM (BoundSelector.bind table axis) = .error e := by
    rw [selectors, Step.mapM_operands, map_eq_error_iff, Query.bind, bind_eq_error_iff]
    exact or_iff_left (by rintro ⟨_, _, ⟨⟩⟩)
  rw [hsteps, hselector, mapM_flatMap_eq_error_iff, fields]

/-- Binding a query fails exactly with its first field that is not found. -/
theorem Query.bind_eq_error_iff_firstUnknown (ht : table.FindsFirst) {q : Query} {e : QueryError} :
    q.bind table axis = .error e ↔
      ∃ f, Field.FirstUnknown table axis q.fields f ∧ e = .unknownField axis.cross f.name := by
  rw [bind_eq_error_iff_fields, mapM_eq_error_iff]
  simp only [BoundField.exists_require_iff ht, BoundField.require_eq_error_iff ht]
  constructor
  · rintro ⟨before, f, after, hfields, hbefore, hf, he⟩
    exact ⟨f, ⟨before, after, hfields, hbefore, hf⟩, he⟩
  · rintro ⟨f, ⟨before, after, hfields, hbefore, hf⟩, he⟩
    exact ⟨before, f, after, hfields, hbefore, hf, he⟩

theorem Field.exists_firstUnknown_iff {fields : List Field} :
    (∃ f, FirstUnknown table axis fields f) ↔ ∃ f ∈ fields, f.Unknown table axis := by
  constructor
  · rintro ⟨f, before, after, rfl, _, hf⟩
    exact ⟨f, List.mem_append_right before List.mem_cons_self, hf⟩
  · rintro ⟨f, hmem, hf⟩
    have hsome : (fields.find? fun g => g.Unknown table axis).isSome :=
      List.find?_isSome.2 ⟨f, hmem, decide_eq_true hf⟩
    obtain ⟨g, hg⟩ := Option.isSome_iff_exists.1 hsome
    obtain ⟨hunknown, before, after, hfields, hbefore⟩ := List.find?_eq_some_iff_append.1 hg
    exact ⟨g, before, after, hfields, fun h hh => by simpa using hbefore h hh,
      of_decide_eq_true hunknown⟩

end

/-- Tables whose other axes have the same count and the same labels bind a query alike. -/
theorem Query.bind_of_labels_agree {t t' : TableView} {axis : Axis} (ht : t.FindsFirst)
    (ht' : t'.FindsFirst) (hcount : t.count axis.cross = t'.count axis.cross)
    (hlabels : ∀ k < t.count axis.cross, t.label? axis.cross k = t'.label? axis.cross k)
    (q : Query) : q.bind t axis = q.bind t' axis := by
  refine bind_of_agree ⟨hcount, fun label => ?_⟩ q
  rw [ht, ht', ← hcount, firstLabeled_congr hlabels]

theorem Grid.searchWith_eq_error_iff {q : Query} {axis : Axis} {g : Grid} {e : GridError} :
    g.searchWith q axis = .error e ↔ ∃ cause, q.bind g.view axis = .error cause ∧ .query cause = e := by
  rw [searchWith_eq, map_eq_error_iff, mapError_eq_error_iff]

/-- A compiled query can be bound exactly when all its fields are found, and otherwise the first
field that is not, selectors and fields taken as they stand in the text, is reported. Selecting,
counting, asking for any line and searching a grid fail in the same cases and the same way. Tables
with the same count and the same labels on the other axis fail alike, whatever lines they have. -/
theorem Query.unknown_fields_reported {limit : Option Nat} {source : String} {q : Query}
    (hq : parseWith limit source = .ok q) (axis : Axis) :
    (∃ chunks, Token.tokenize source = .ok chunks ∧
      List.Forall₂ (fun chunk s => Selector.parse chunk = .ok s)
        (chunks.filterMap Token.operand?) q.selectors) ∧
      (∀ t : TableView, t.FindsFirst →
        ((∃ e, q.bind t axis = .error e) ↔
          ∃ s ∈ q.selectors, ∃ f ∈ s.fields, f.Unknown t axis) ∧
        ∀ e, (q.bind t axis = .error e ↔
            ∃ f, Field.FirstUnknown t axis q.fields f ∧ e = .unknownField axis.cross f.name) ∧
          (q.select t axis = .error e ↔ q.bind t axis = .error e) ∧
          (q.count t axis = .error e ↔ q.bind t axis = .error e) ∧
          (q.any t axis = .error e ↔ q.bind t axis = .error e)) ∧
      (∀ g : Grid, g.view.FindsFirst ∧ ∀ e, g.searchWith q axis = .error e ↔
        ∃ cause, q.bind g.view axis = .error cause ∧ .query cause = e) ∧
      ∀ t t' : TableView, t.FindsFirst → t'.FindsFirst →
        t.count axis.cross = t'.count axis.cross →
        (∀ k < t.count axis.cross, t.label? axis.cross k = t'.label? axis.cross k) →
        q.bind t axis = q.bind t' axis := by
  obtain ⟨chunks, hchunks, _, hread⟩ := selectors_of_parse hq
  refine ⟨⟨chunks, hchunks, hread⟩, fun t ht => ⟨?_, fun e => ⟨?_, ?_, ?_, ?_⟩⟩,
    fun g => ⟨g.findsFirst_view, fun e => Grid.searchWith_eq_error_iff⟩,
    fun t t' ht ht' hcount hlabels => bind_of_labels_agree ht ht' hcount hlabels q⟩
  · have hfails : (∃ e, q.bind t axis = .error e) ↔ ∃ f, Field.FirstUnknown t axis q.fields f := by
      simp only [bind_eq_error_iff_firstUnknown ht]
      constructor
      · rintro ⟨_, f, hf, _⟩
        exact ⟨f, hf⟩
      · rintro ⟨f, hf⟩
        exact ⟨_, f, hf, rfl⟩
    rw [hfails, Field.exists_firstUnknown_iff, fields]
    constructor
    · rintro ⟨f, hmem, hf⟩
      obtain ⟨s, hs, hmem⟩ := List.mem_flatMap.1 hmem
      exact ⟨s, hs, f, hmem, hf⟩
    · rintro ⟨s, hs, f, hmem, hf⟩
      exact ⟨f, List.mem_flatMap.2 ⟨s, hs, hmem⟩, hf⟩
  · exact bind_eq_error_iff_firstUnknown ht
  · exact map_eq_error_iff
  · exact map_eq_error_iff
  · exact map_eq_error_iff

/-- Three fields that are not found, the first of them written with zeros; a grid without rows and
a table of one line have the same column label. -/
theorem Query.unknown_fields_reported_position :
    ∃ q, parseWith (some 3) "a=1,(/007|b=x-c=2)" = .ok q ∧
      Grid.searchWith q .row ⟨[], [some "a"]⟩ = .error (.query (.unknownField .column "/7")) ∧
      q.any ⟨fun _ => 1, fun _ k => ["a"][k]?, fun _ _ _ => some .null,
          fun _ => firstLabeled 1 (["a"][·]?)⟩ .row = .error (.unknownField .column "/7") := by
  have hq : parseWith (some 3) "a=1,(/007|b=x-c=2)" = .ok ⟨"a=1,(/007|b=x-c=2)",
      [.operand ⟨[.named "a"], .equal, ["1"], "a=1"⟩,
        .operand ⟨[.position 7, .named "b"], .equal, ["x"], "/007|b=x"⟩,
        .operand ⟨[.named "c"], .equal, ["2"], "c=2"⟩, .operator .difference,
        .operator .union]⟩ := by decide +kernel
  obtain ⟨_, htables, hgrids, halike⟩ := unknown_fields_reported hq .row
  obtain ⟨hgrid, hsearch⟩ := hgrids ⟨[], [some "a"]⟩
  have hfirst : Field.FirstUnknown (Grid.view ⟨[], [some "a"]⟩) .row
      [.named "a", .position 7, .named "b", .named "c"] (.position 7) :=
    ⟨[.named "a"], [.named "b", .named "c"], rfl, by decide, by decide⟩
  have hbind := ((htables _ hgrid).2 (.unknownField .column "/7")).1.2 ⟨_, hfirst, by decide⟩
  refine ⟨_, hq, (hsearch _).2 ⟨_, hbind, rfl⟩, ?_⟩
  rw [halike _ ⟨fun _ => 1, fun _ k => ["a"][k]?, fun _ _ _ => some .null,
    fun _ => firstLabeled 1 (["a"][·]?)⟩ hgrid (fun _ _ => rfl) rfl (by decide)] at hbind
  exact ((htables _ fun _ _ => rfl).2 _).2.2.2.2 hbind

end Tabular
