/-
The lines that a search or a filter keeps. What is found has exactly the lines that match, in their
order and with their labels and cells, and the cross axis is as it was, also when no line is left.
The keys of these lines are what the query selects, in the grid and in every table with the same
contents that finds a label where it stands first.
-/
import Tabular.Proofs.Grid.UnknownField
import Tabular.Proofs.Grid.WholeLines

namespace Tabular

/-! ## Tables with the same contents -/

/-- Tables with the same counts, labels and cells. -/
structure TableView.SameContents (t t' : TableView) : Prop where
  count : ∀ axis, t.count axis = t'.count axis
  label : ∀ axis, ∀ k < t.count axis, t.label? axis k = t'.label? axis k
  cell : ∀ axis, ∀ k < t.count axis, ∀ c < t.count axis.cross, t.cell? axis k c = t'.cell? axis k c

theorem lt_of_firstLabeled {count : Nat} {label? : Nat → Option String} {label : String} {k : Nat}
    (h : firstLabeled count label? label = some k) : k < count :=
  List.mem_range.1 (List.mem_of_find?_eq_some h)

section

variable {t t' : TableView} {axis : Axis} {q : Query} {k : Nat}

/-- A field that is found denotes a cell of the table, which is the same in both. -/
theorem Field.cell_of_sameContents (h : t.SameContents t') (ht : t.FindsFirst)
    (ht' : t'.FindsFirst) (hk : k < t.count axis) {f : Field} (hf : ¬ f.Unknown t axis) :
    f.cell t axis k = f.cell t' axis k := by
  cases f with
  | key => rfl
  | label => rw [cell, cell, h.label axis k hk]
  | position n => rw [cell, cell, h.cell axis k hk n (Nat.lt_of_not_le hf)]
  | named name =>
    have hfind : t.findLabel? axis.cross name = t'.findLabel? axis.cross name := by
      rw [ht, ht', ← h.count, firstLabeled_congr (h.label axis.cross)]
    rw [cell, cell, ← hfind]
    cases hn : t.findLabel? axis.cross name with
    | none => rfl
    | some n =>
      rw [ht] at hn
      exact congrArg (·.getD .null) (h.cell axis k hk n (lt_of_firstLabeled hn))

theorem Query.known_of_bind (ht : t.FindsFirst) {b : BoundQuery} (hb : q.bind t axis = .ok b) :
    ∀ f ∈ q.fields, ¬ f.Unknown t axis := by
  intro f hf hunknown
  obtain ⟨g, hg⟩ := Field.exists_firstUnknown_iff.2 ⟨f, hf, hunknown⟩
  have herror := (bind_eq_error_iff_firstUnknown ht).2 ⟨g, hg, rfl⟩
  rw [hb] at herror
  cases herror

theorem Query.matches_of_sameContents (h : t.SameContents t') (ht : t.FindsFirst)
    (ht' : t'.FindsFirst) {b : BoundQuery} (hb : q.bind t axis = .ok b) (hk : k < t.count axis) :
    q.Matches t axis k ↔ q.Matches t' axis k := by
  refine matches_congr fun s hs => exists_congr fun f => and_congr_right fun hf => ?_
  have hknown := known_of_bind ht hb f (List.mem_flatMap.2 ⟨s, hs, hf⟩)
  rw [Field.cell_of_sameContents h ht ht' hk hknown]

/-- A query selects the same keys in both. -/
theorem Query.select_of_sameContents {limit : Option Nat} {source : String}
    (hq : parseWith limit source = .ok q) (h : t.SameContents t') (ht : t.FindsFirst)
    (ht' : t'.FindsFirst) : q.select t axis = q.select t' axis := by
  have hbind := bind_of_labels_agree ht ht' (h.count axis.cross) (h.label axis.cross) q
  rw [select_eq, select_eq, ← hbind, ← h.count]
  cases hb : q.bind t axis with
  | error e => rfl
  | ok b =>
    refine congrArg Except.ok (List.filter_congr fun k hk => ?_)
    rw [Bool.eq_iff_iff, keeps_iff_matches hq hb, keeps_iff_matches hq (hbind.symm.trans hb)]
    exact matches_of_sameContents h ht ht' hb (List.mem_range.1 hk)

end

/-! ## Answers -/

/-- The answers of a query whose keys are these. -/
structure Query.Answers (q : Query) (table : TableView) (axis : Axis) (keys : List Nat) : Prop where
  select : q.select table axis = .ok keys
  count : q.count table axis = .ok keys.length
  any : q.any table axis = .ok !keys.isEmpty

theorem BoundQuery.count_eq (b : BoundQuery) (table : TableView) :
    b.count table = (b.select table).length :=
  List.countP_eq_length_filter

theorem BoundQuery.any_eq (b : BoundQuery) (table : TableView) :
    b.any table = !(b.select table).isEmpty := by
  rw [Bool.eq_iff_iff, Bool.not_eq_true', List.isEmpty_eq_false_iff_exists_mem, any, select,
    List.any_eq_true]
  simp only [List.mem_filter]

theorem Query.answers_of_select {q : Query} {table : TableView} {axis : Axis} {keys : List Nat}
    (h : q.select table axis = .ok keys) : q.Answers table axis keys := by
  obtain ⟨b, hb, rfl⟩ := map_eq_ok_iff.1 h
  refine ⟨h, ?_, ?_⟩
  · rw [Query.count, hb]
    exact congrArg Except.ok (b.count_eq table)
  · rw [Query.any, hb]
    exact congrArg Except.ok (b.any_eq table)

/-! ## Kept lines -/

namespace Grid

variable {g found : Grid} {axis : Axis}

/-- A grid has the lines of another that pass a test and no others; the keys tell which. -/
structure LinesKept (axis : Axis) (test : Nat → Prop) (keys : List Nat) (g found : Grid) :
    Prop where
  wf : found.WF
  mem_keys : ∀ k, k ∈ keys ↔ k < g.count axis ∧ test k
  increasing : keys.Pairwise (· < ·)
  lines : found.lines axis = picked keys (g.lines axis)
  labels_cross : found.labels axis.cross = g.labels axis.cross

theorem WF.linesKept_pick (hg : g.WF) (axis : Axis) {test : Nat → Prop} {keep : Nat → Bool}
    (h : ∀ k < g.count axis, keep k = true ↔ test k) :
    LinesKept axis test ((List.range (g.count axis)).filter keep) g
      (g.pick axis ((List.range (g.count axis)).filter keep)) := by
  refine ⟨pick_wf hg axis List.filter_sublist, fun k => ?_, List.pairwise_lt_range.filter _,
    hg.lines_pick axis List.filter_sublist, labels_cross_pick ..⟩
  rw [List.mem_filter, List.mem_range]
  exact and_congr_right (h k)

theorem filter_eq_pick (axis : Axis) (test : Nat → Line → Bool) (g : Grid) :
    g.filter axis test = g.pick axis
      ((List.range (g.count axis)).filter fun k => (g.lines axis)[k]?.any (test k)) := by
  rw [filter]
  congr 1
  have hrange : List.range (g.count axis) = (g.lines axis).zipIdx.map (·.2) := by
    rw [List.zipIdx_map_snd, length_lines, List.range_eq_range']
  rw [hrange, List.filter_map]
  refine congrArg _ (List.filter_congr fun pair hpair => ?_)
  simp [List.mem_zipIdx_iff_getElem?.1 hpair]

/-- A search keeps the lines that match, and their keys are what the query selects. -/
theorem WF.exists_linesKept_of_searchWith (hg : g.WF) {limit : Option Nat} {source : String}
    {q : Query} (hq : Query.parseWith limit source = .ok q)
    (hfound : g.searchWith q axis = .ok found) :
    ∃ keys, LinesKept axis (q.Matches g.view axis) keys g found ∧
      q.select g.view axis = .ok keys := by
  rw [searchWith_eq] at hfound
  obtain ⟨b, hb, rfl⟩ := map_eq_ok_iff.1 hfound
  have hbound := mapError_eq_ok_iff.1 hb
  refine ⟨_, hg.linesKept_pick axis fun k _ => Query.keeps_iff_matches hq hbound k, ?_⟩
  rw [Query.select_eq, hbound]
  rfl

/-- Searching a reachable grid by a text is searching it by the compiled query, a blank text being no
exception. What is found has exactly the lines that match, and their keys answer the query, in the
grid and in other tables with the same contents. A filter keeps the lines that pass its test in the
same way. -/
theorem Reachable.kept_lines (hg : g.Reachable) (axis : Axis) :
    (∀ source : String, g.search source axis =
      ((Query.parse source).mapError .query >>= (g.searchWith · axis))) ∧
    (∀ source found, g.search source axis = .ok found →
      ∃ q keys, Query.parse source = .ok q ∧ g.searchWith q axis = .ok found ∧
        LinesKept axis (q.Matches g.view axis) keys g found ∧ q.Answers g.view axis keys ∧
        ∀ t : TableView, t.FindsFirst → t.SameContents g.view → q.Answers t axis keys) ∧
    ∀ test : Nat → Line → Bool, ∃ keys,
      LinesKept axis (fun k => ∃ line, (g.lines axis)[k]? = some line ∧ test k line = true) keys g
        (g.filter axis test) := by
  refine ⟨fun source => hg.wf.search_eq source axis, fun source found hfound => ?_, fun test => ?_⟩
  · rw [hg.wf.search_eq] at hfound
    obtain ⟨q, hq, hfound⟩ := bind_eq_ok_iff.1 hfound
    have hparse := mapError_eq_ok_iff.1 hq
    obtain ⟨keys, hkept, hselect⟩ := hg.wf.exists_linesKept_of_searchWith hparse hfound
    refine ⟨q, keys, hparse, hfound, hkept, Query.answers_of_select hselect, fun t ht hsame => ?_⟩
    refine Query.answers_of_select ?_
    rw [Query.select_of_sameContents hparse hsame ht g.findsFirst_view, hselect]
  · rw [filter_eq_pick]
    exact ⟨_, hg.wf.linesKept_pick axis fun k _ => by rw [Option.any_eq_true]⟩

/-- The first and the last row are kept, and a table that has a label also beyond its end gives the
same answers. -/
theorem kept_lines_first_and_last :
    Reachable ⟨[⟨none, [.text "2"]⟩, ⟨none, [.text "1"]⟩, ⟨none, [.text "2"]⟩], [some "n"]⟩ ∧
      ∃ q, Query.parse "n>1" = .ok q ∧
        LinesKept .row
          (q.Matches (view ⟨[⟨none, [.text "2"]⟩, ⟨none, [.text "1"]⟩, ⟨none, [.text "2"]⟩],
            [some "n"]⟩) .row) [0, 2]
          ⟨[⟨none, [.text "2"]⟩, ⟨none, [.text "1"]⟩, ⟨none, [.text "2"]⟩], [some "n"]⟩
          ⟨[⟨none, [.text "2"]⟩, ⟨none, [.text "2"]⟩], [some "n"]⟩ ∧
        q.Answers
          { view ⟨[⟨none, [.text "2"]⟩, ⟨none, [.text "1"]⟩, ⟨none, [.text "2"]⟩], [some "n"]⟩ with
            label? := fun axis _ => if axis = .column then some "n" else none
            findLabel? := fun axis => firstLabeled (if axis = .column then 1 else 3) fun _ =>
              if axis = .column then some "n" else none }
          .row [0, 2] := by
  have hmade : ofLabeledRows [[.text "n"], [.text "2"], [.text "1"], [.text "2"]] false true =
      .ok ⟨[⟨none, [.text "2"]⟩, ⟨none, [.text "1"]⟩, ⟨none, [.text "2"]⟩], [some "n"]⟩ := rfl
  have hg := Reachable.ofLabeledRows hmade
  have hfound : search "n>1" .row
      ⟨[⟨none, [.text "2"]⟩, ⟨none, [.text "1"]⟩, ⟨none, [.text "2"]⟩], [some "n"]⟩ =
        .ok ⟨[⟨none, [.text "2"]⟩, ⟨none, [.text "2"]⟩], [some "n"]⟩ := by decide +kernel
  have hparse : Query.parse "n>1" =
      .ok ⟨"n>1", [.operand ⟨[.named "n"], .greater, ["1"], "n>1"⟩]⟩ := by decide +kernel
  have hselect : Query.select ⟨"n>1", [.operand ⟨[.named "n"], .greater, ["1"], "n>1"⟩]⟩
      (view ⟨[⟨none, [.text "2"]⟩, ⟨none, [.text "1"]⟩, ⟨none, [.text "2"]⟩], [some "n"]⟩) .row =
        .ok [0, 2] := by decide +kernel
  obtain ⟨q, keys, hq, _, hkept, hanswers, htables⟩ := (hg.kept_lines .row).2.1 _ _ hfound
  cases hparse.symm.trans hq
  cases hselect.symm.trans hanswers.select
  refine ⟨hg, _, hparse, hkept, htables _ (fun axis _ => ?_) ⟨fun _ => rfl, fun axis => ?_, ?_⟩⟩
  · cases axis <;> rfl
  · cases axis <;> decide
  · exact fun _ _ _ _ _ => rfl

end Grid

end Tabular
