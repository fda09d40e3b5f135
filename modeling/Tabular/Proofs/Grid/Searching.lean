/-
Searching what a search has found. A search picks lines, and unless it asks for their positions it
decides a picked line as it decides it in the whole grid. So one search after the other finds what
the two queries find when they are joined in brackets, and a search that is repeated finds all that
there is.
-/
import Tabular.Proofs.Grid.Picking
import Tabular.Proofs.Grid.Reachable
import Tabular.Proofs.Query.Composition

namespace Tabular

/-- A blank text compiles to the query that keeps every line. -/
theorem Query.parse_blank {source : String} (h : (Text.trim source.toList).isEmpty = true) :
    parse source = .ok ⟨source, []⟩ := by
  have htokens : Token.tokenize source = .ok [] := by
    rw [Token.tokenize, List.isEmpty_iff.1 h]
    rfl
  rw [parse, parseWith, htokens]
  rfl

/-- Compiling under a limit gives the query that there is without one. -/
theorem Query.parse_of_parseWith {limit : Option Nat} {source : String} {q : Query}
    (h : parseWith limit source = .ok q) : parse source = .ok q := by
  obtain ⟨ts, us, hts, _, hus, hcheck, hq⟩ := parseWith_eq_ok_iff.1 h
  exact parseWith_eq_ok_iff.2 ⟨ts, us, hts, rfl, hus, hcheck, hq⟩

theorem Query.select_eq (q : Query) (table : TableView) (axis : Axis) :
    q.select table axis =
      (q.bind table axis).map fun b => (List.range (table.count axis)).filter (b.keeps table) := by
  rw [select]
  cases hb : q.bind table axis with
  | error e => rfl
  | ok b =>
    obtain ⟨_, _, hb⟩ := bind_eq_ok_iff.1 hb
    cases hb
    rfl

namespace Grid

variable {g found : Grid} {axis : Axis} {q : Query} {keys : List Nat}

/-! ## Searching and picking -/

theorem searchWith_eq (q : Query) (axis : Axis) (g : Grid) :
    g.searchWith q axis = ((q.bind g.view axis).mapError .query).map fun b =>
      g.pick axis ((List.range (g.count axis)).filter (b.keeps g.view)) := by
  rw [searchWith, Query.select_eq]
  cases q.bind g.view axis <;> rfl

theorem WF.searchWith_eq_self (hg : g.WF) {b : BoundQuery} (hb : q.bind g.view axis = .ok b)
    (hall : ∀ k < g.count axis, b.keeps g.view k = true) : g.searchWith q axis = .ok g := by
  rw [searchWith_eq, hb]
  show Except.ok (g.pick axis _) = Except.ok g
  rw [List.filter_eq_self.2 fun k hk => hall k (List.mem_range.1 hk), hg.pick_range]

/-- A search by a text is a search by its query; a blank text needs no exception. -/
theorem WF.search_eq (hg : g.WF) (source : String) (axis : Axis) :
    g.search source axis = ((Query.parse source).mapError .query >>= (g.searchWith · axis)) := by
  unfold search
  split
  · rename_i hblank
    rw [Query.parse_blank hblank]
    exact (hg.searchWith_eq_self (q := ⟨source, []⟩) rfl fun _ _ => rfl).symm
  · rfl

theorem WF.search_of_parse (hg : g.WF) {limit : Option Nat} {source : String}
    (hq : Query.parseWith limit source = .ok q) (axis : Axis) :
    g.search source axis = g.searchWith q axis := by
  rw [hg.search_eq, Query.parse_of_parseWith hq]
  rfl

/-- A query finds the same fields among some lines, and decides each of them as in the whole grid. -/
theorem WF.bind_pick (hg : g.WF) {limit : Option Nat} {source : String}
    (hq : Query.parseWith limit source = .ok q) (hfree : q.KeyFree)
    (hkeys : ∀ k ∈ keys, k < g.count axis) :
    q.bind (g.pick axis keys).view axis = q.bind g.view axis ∧
      ∀ b, q.bind g.view axis = .ok b → ∀ i k, keys[i]? = some k →
        b.keeps (g.pick axis keys).view i = b.keeps g.view k := by
  have hfields := fieldsAgree_pick g axis keys
  have hbind := Query.bind_of_agree hfields q
  refine ⟨hbind, fun b hb i k hk => ?_⟩
  exact BoundQuery.keeps_of_agree hq (hbind.trans hb) hb hfields (hg.linesAgree_pick hkeys hk)
    (.inr hfree)

/-- A query that asks for no position keeps of some lines what it keeps of all of them. -/
theorem WF.searchWith_pick (hg : g.WF) {limit : Option Nat} {source : String}
    (hq : Query.parseWith limit source = .ok q) (hfree : q.KeyFree)
    (hkeys : ∀ k ∈ keys, k < g.count axis) :
    (g.pick axis keys).searchWith q axis = ((q.bind g.view axis).mapError .query).map fun b =>
      g.pick axis (keys.filter (b.keeps g.view)) := by
  obtain ⟨hbind, hkeeps⟩ := hg.bind_pick hq hfree hkeys
  rw [searchWith_eq, hbind]
  cases hb : q.bind g.view axis with
  | error e => rfl
  | ok b =>
    show Except.ok ((g.pick axis keys).pick axis _) = Except.ok (g.pick axis _)
    rw [hg.pick_pick hkeys, count_pick hkeys, picked_filter_range (hkeeps b hb)]

/-! ## One search after another -/

theorem lt_of_mem_kept {test : Nat → Bool} :
    ∀ k ∈ (List.range (g.count axis)).filter test, k < g.count axis :=
  fun _ hk => List.mem_range.1 (List.mem_of_mem_filter hk)

/-- What a search finds is kept by its query there too. -/
theorem WF.keeps_found (hg : g.WF) {limit : Option Nat} {source : String}
    (hq : Query.parseWith limit source = .ok q) (hfree : q.KeyFree)
    (hfound : g.searchWith q axis = .ok found) :
    ∃ b, q.bind found.view axis = .ok b ∧
      ∀ k < found.count axis, b.keeps found.view k = true := by
  rw [searchWith_eq] at hfound
  obtain ⟨b, hb, rfl⟩ := map_eq_ok_iff.1 hfound
  have hb := mapError_eq_ok_iff.1 hb
  obtain ⟨hbind, hkeeps⟩ := hg.bind_pick hq hfree lt_of_mem_kept
  refine ⟨b, hbind.trans hb, fun i hi => ?_⟩
  rw [count_pick lt_of_mem_kept] at hi
  rw [hkeeps b hb i _ (List.getElem?_eq_getElem hi)]
  exact (List.mem_filter.1 (List.getElem_mem hi)).2

/-- A search finds all that it has found again. -/
theorem WF.searchWith_found (hg : g.WF) {limit : Option Nat} {source : String}
    (hq : Query.parseWith limit source = .ok q) (hfree : q.KeyFree)
    (hfound : g.searchWith q axis = .ok found) : found.searchWith q axis = .ok found := by
  obtain ⟨b, hb, hall⟩ := hg.keeps_found hq hfree hfound
  exact (searchWith_wf hg hfound).searchWith_eq_self hb hall

/-- Two searches, the second of them without positions, are the search for both. -/
theorem WF.searchWith_bind (hg : g.WF) {limit limit' : Option Nat} {first second : String}
    {p r : Query} (hp : Query.parseWith limit first = .ok p)
    (hq : Query.parseWith limit' second = .ok q) (hpne : p.steps ≠ []) (hqne : q.steps ≠ [])
    (hfree : q.KeyFree) (hr : r.steps = p.steps ++ q.steps ++ [.operator .intersection]) :
    (g.searchWith p axis >>= (·.searchWith q axis)) = g.searchWith r axis := by
  obtain ⟨e, he⟩ := Query.exists_expression_of_parse hp hpne
  obtain ⟨f, hf⟩ := Query.exists_expression_of_parse hq hqne
  rw [searchWith_eq p, searchWith_eq r, Query.bind_of_joined g.view axis hr]
  cases hb : p.bind g.view axis with
  | error e => rfl
  | ok b =>
    show (g.pick axis _).searchWith q axis = _
    rw [hg.searchWith_pick hq hfree lt_of_mem_kept]
    cases hc : q.bind g.view axis with
    | error e => rfl
    | ok c =>
      -- both filters are one, and the joined query asks both questions of a line
      show Except.ok (g.pick axis _) = Except.ok (g.pick axis _)
      rw [List.filter_filter]
      congr 2
      refine List.filter_congr fun k _ => ?_
      rw [BoundQuery.keeps_joined hb hc he hf]
      exact Bool.and_comm ..

/-- A search along an axis can fail only at a field that is not found on the other axis. -/
theorem exists_of_searchWith_eq_error {e : GridError} (h : g.searchWith q axis = .error e) :
    ∃ field, e = .query (.unknownField axis.cross field) := by
  rw [searchWith_eq] at h
  cases hb : q.bind g.view axis with
  | ok b =>
    rw [hb] at h
    cases h
  | error cause =>
    obtain ⟨field, rfl⟩ := Query.exists_of_bind_eq_error hb
    rw [hb] at h
    cases h
    exact ⟨field, rfl⟩

/-- Searching a reachable grid and then what was found, by a query that asks for no position, is
searching once by both queries in brackets: there is the same grid, or the same field is not found.
So a search that asks for no position changes nothing when it is repeated. -/
theorem Reachable.search_search (hg : g.Reachable) (axis : Axis) :
    (∀ (first second : String) (p q : Query), Query.parse first = .ok p →
      Query.parse second = .ok q → p.steps ≠ [] → q.steps ≠ [] → Token.QuotesClosed first →
      Token.QuotesClosed second → q.KeyFree →
        (g.search first axis >>= (·.search second axis)) =
            g.search (Query.joined .intersection first second) axis ∧
          ∀ e, g.search (Query.joined .intersection first second) axis = .error e →
            ∃ field, e = .query (.unknownField axis.cross field)) ∧
      ∀ (source : String) (q : Query) (found : Grid), Query.parse source = .ok q → q.KeyFree →
        g.search source axis = .ok found → found.search source axis = .ok found := by
  constructor
  · intro first second p q hp hq hpne hqne hleft hright hfree
    have hboth := Query.parse_joined .intersection hp hq hpne hqne hleft hright
    rw [hg.wf.search_of_parse hp, hg.wf.search_of_parse hboth]
    refine ⟨?_, fun e => exists_of_searchWith_eq_error⟩
    rw [← hg.wf.searchWith_bind (r := ⟨_, _⟩) hp hq hpne hqne hfree rfl]
    cases hfound : g.searchWith p axis with
    | error e => rfl
    | ok found => exact (searchWith_wf hg.wf hfound).search_of_parse hq axis
  · intro source q found hq hfree hfound
    rw [hg.wf.search_of_parse hq] at hfound
    rw [(searchWith_wf hg.wf hfound).search_of_parse hq]
    exact hg.wf.searchWith_found hq hfree hfound

/-- The first search asks for positions, which are others in what it finds; the second does not,
and finds the last row also when it is repeated. -/
theorem search_search_last_row :
    Reachable ⟨[⟨none, [.text "2"]⟩, ⟨none, [.text "1"]⟩, ⟨none, [.text "2"]⟩], [some "n"]⟩ ∧
      (search "/>0" .row ⟨[⟨none, [.text "2"]⟩, ⟨none, [.text "1"]⟩, ⟨none, [.text "2"]⟩],
        [some "n"]⟩ >>= (·.search "n>1,n=a" .row)) = .ok ⟨[⟨none, [.text "2"]⟩], [some "n"]⟩ ∧
      search "n>1,n=a" .row ⟨[⟨none, [.text "2"]⟩, ⟨none, [.text "2"]⟩], [some "n"]⟩ =
        .ok ⟨[⟨none, [.text "2"]⟩, ⟨none, [.text "2"]⟩], [some "n"]⟩ := by
  have hmade : ofLabeledRows [[.text "n"], [.text "2"], [.text "1"], [.text "2"]] false true =
      .ok ⟨[⟨none, [.text "2"]⟩, ⟨none, [.text "1"]⟩, ⟨none, [.text "2"]⟩], [some "n"]⟩ := rfl
  have hg := Reachable.ofLabeledRows hmade
  have hp : Query.parse "/>0" = .ok ⟨"/>0", [.operand ⟨[.key], .greater, ["0"], "/>0"⟩]⟩ := by
    decide +kernel
  have hq : Query.parse "n>1,n=a" = .ok ⟨"n>1,n=a",
      [.operand ⟨[.named "n"], .greater, ["1"], "n>1"⟩,
        .operand ⟨[.named "n"], .equal, ["a"], "n=a"⟩, .operator .union]⟩ := by
    decide +kernel
  obtain ⟨hboth, hagain⟩ := hg.search_search .row
  refine ⟨hg, ?_, hagain _ _ _ hq (by decide +kernel) (by decide +kernel)⟩
  obtain ⟨heq, _⟩ := hboth _ _ _ _ hp hq nofun nofun (by decide +kernel) (by decide +kernel)
    (by decide +kernel)
  rw [heq]
  decide +kernel

end Grid

end Tabular
