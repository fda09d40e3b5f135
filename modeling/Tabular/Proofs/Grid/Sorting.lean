/-
Sorting and searching in either order. Sorting lines with their labels picks all of them, in an
order that goes by their cells on the cross axis alone; a search that asks for no position leaves
some of them out. Equal lines keep their order, so whether the others are left out before or after
makes no difference.
-/
import Tabular.Proofs.Cell.Order
import Tabular.Proofs.Grid.Searching

namespace Tabular

namespace Direction

variable {α : Type} {d : Direction} {cell : α → Cell} {items : List α}

/-- Positions are sorted as the items at them. -/
theorem picked_sortBy {cell' : Nat → Cell}
    (h : ∀ i a, items[i]? = some a → cell' i = cell a) :
    picked (d.sortBy cell' (List.range items.length)) items = d.sortBy cell items := by
  -- the positions, the optional items at them and the items are sorted by the same cells
  have hpositions : (d.sortBy cell' (List.range items.length)).map (items[·]?) =
      d.sortBy (fun found => (found.map cell).getD .null) (items.map some) := by
    rw [← map_getElem?_range]
    refine d.map_sortBy fun i hi => ?_
    have ha := List.getElem?_eq_getElem (List.mem_range.1 hi)
    rw [ha, h i _ ha]
    rfl
  have hitems : d.sortBy (fun found => (found.map cell).getD .null) (items.map some) =
      (d.sortBy cell items).map some := by
    refine (d.map_sortBy fun a _ => ?_).symm
    rfl
  exact picked_eq_of_map (hpositions.trans hitems)

end Direction

namespace Grid

variable {g : Grid} {axis : Axis} {keys : List Nat} {ref : LineRef} {k : Nat}

/-! ## Sorted lines -/

theorem key_cross_pick (g : Grid) (axis : Axis) (keys : List Nat) (ref : LineRef) :
    (g.pick axis keys).key axis.cross ref = g.key axis.cross ref :=
  key_congr (labels_cross_pick g axis keys) ref

/-- Sorting lines with their labels picks all of them. -/
theorem WF.orderBy_eq (hg : g.WF) (hk : g.key axis.cross ref = .ok k) (direction : Direction) :
    g.orderBy axis ref direction true = .ok (g.pick axis
      (direction.sortBy (fun key => (g.cell? axis key k).getD .null) (List.range (g.count axis)))) := by
  rw [orderBy, hk]
  exact congrArg Except.ok (hg.arrange_picked (direction.sortBy_perm _ _))

/-- Some lines are sorted by the cells that they have in the whole grid. -/
theorem WF.orderBy_pick (hg : g.WF) (hk : g.key axis.cross ref = .ok k)
    (hsub : keys.Sublist (List.range (g.count axis))) (direction : Direction) :
    (g.pick axis keys).orderBy axis ref direction true = .ok (g.pick axis
      (direction.sortBy (fun key => (g.cell? axis key k).getD .null) keys)) := by
  have hkeys : ∀ key ∈ keys, key < g.count axis :=
    fun key hkey => List.mem_range.1 (hsub.subset hkey)
  rw [(pick_wf hg axis hsub).orderBy_eq ((key_cross_pick ..).trans hk), hg.pick_pick hkeys,
    count_pick hkeys, Direction.picked_sortBy fun i key hkey => ?_]
  rw [hg.cell?_pick hkeys, hkey]
  rfl

/-! ## Sorting and searching -/

/-- Sorting the lines of a reachable grid with their labels and then searching them, by a query that
asks for no position, gives the grid that searching them and then sorting what was found gives, for
a compiled query and for its text. -/
theorem Reachable.search_sorted (hg : g.Reachable) {limit : Option Nat} {source : String} {q : Query}
    {bound : BoundQuery} (hq : Query.parseWith limit source = .ok q) (hfree : q.KeyFree)
    (hb : q.bind g.view axis = .ok bound) (hk : g.key axis.cross ref = .ok k)
    (direction : Direction) :
    ∃ sorted found both, g.orderBy axis ref direction true = .ok sorted ∧
      sorted.searchWith q axis = .ok both ∧ sorted.search source axis = .ok both ∧
      g.searchWith q axis = .ok found ∧ g.search source axis = .ok found ∧
      found.orderBy axis ref direction true = .ok both := by
  have hsorted := hg.wf.orderBy_eq hk direction
  have hfound : g.searchWith q axis =
      .ok (g.pick axis ((List.range (g.count axis)).filter (bound.keeps g.view))) := by
    rw [searchWith_eq, hb]
    rfl
  have hlt : ∀ key ∈ direction.sortBy (fun key => (g.cell? axis key k).getD .null)
      (List.range (g.count axis)), key < g.count axis :=
    fun key hkey => List.mem_range.1 ((direction.sortBy_perm _ _).mem_iff.1 hkey)
  have hboth := hg.wf.searchWith_pick hq hfree hlt
  rw [hb] at hboth
  have hback := hg.wf.orderBy_pick hk (List.filter_sublist (p := bound.keeps g.view)) direction
  rw [← direction.filter_sortBy] at hback
  refine ⟨_, _, _, hsorted, hboth, ?_, hfound, ?_, hback⟩
  · rw [((rearranged_of_orderBy hsorted).wf hg.wf).search_of_parse hq]
    exact hboth
  · rw [hg.wf.search_of_parse hq, hfound]

/-- The first and the last row have one number in two spellings, so they stay in their order, whether
or not the row between them is left out first. -/
theorem search_sorted_equal_rows :
    Reachable ⟨[⟨some "x", [.text "2.0"]⟩, ⟨some "y", [.text "1"]⟩, ⟨some "z", [.text "2"]⟩],
        [some "n"]⟩ ∧
      ∃ sorted, orderBy .row (.label "n") .descending true
          ⟨[⟨some "x", [.text "2.0"]⟩, ⟨some "y", [.text "1"]⟩, ⟨some "z", [.text "2"]⟩],
            [some "n"]⟩ = .ok sorted ∧
        sorted.search "n=2" .row =
          .ok ⟨[⟨some "x", [.text "2.0"]⟩, ⟨some "z", [.text "2"]⟩], [some "n"]⟩ := by
  have hmade : ofLabeledRows [[.null, .text "n"], [.text "x", .text "2.0"], [.text "y", .text "1"],
      [.text "z", .text "2"]] true true =
        .ok ⟨[⟨some "x", [.text "2.0"]⟩, ⟨some "y", [.text "1"]⟩, ⟨some "z", [.text "2"]⟩],
          [some "n"]⟩ := rfl
  have hg := Reachable.ofLabeledRows hmade
  have hq : Query.parseWith none "n=2" =
      .ok ⟨"n=2", [.operand ⟨[.named "n"], .equal, ["2"], "n=2"⟩]⟩ := by decide +kernel
  have hk : key Axis.row.cross (.label "n") ⟨[⟨some "x", [.text "2.0"]⟩, ⟨some "y", [.text "1"]⟩,
      ⟨some "z", [.text "2"]⟩], [some "n"]⟩ = .ok 0 := rfl
  have hfound : search "n=2" .row ⟨[⟨some "x", [.text "2.0"]⟩, ⟨some "y", [.text "1"]⟩,
      ⟨some "z", [.text "2"]⟩], [some "n"]⟩ =
        .ok ⟨[⟨some "x", [.text "2.0"]⟩, ⟨some "z", [.text "2"]⟩], [some "n"]⟩ := by
    decide +kernel
  -- the two rows that are found are in order already
  have horder : Direction.descending.sortBy (fun key => (cell? .row key 0
      ⟨[⟨some "x", [.text "2.0"]⟩, ⟨some "z", [.text "2"]⟩], [some "n"]⟩).getD .null)
        (List.range 2) = List.range 2 := List.mergeSort_of_pairwise (by decide +kernel)
  have hkept := congrArg (fun order => Except.ok (ε := GridError) (arrange .row true (picked order)
    ⟨[⟨some "x", [.text "2.0"]⟩, ⟨some "z", [.text "2"]⟩], [some "n"]⟩)) horder
  obtain ⟨sorted, _, _, hsorted, _, hboth, _, hsearch, hback⟩ :=
    hg.search_sorted hq (by decide +kernel) rfl hk .descending
  cases hfound.symm.trans hsearch
  cases hkept.symm.trans hback
  exact ⟨hg, sorted, hsorted, hboth⟩

end Grid

end Tabular
