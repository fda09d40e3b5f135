/-
Sorting the lines of an axis by their cells on the cross axis. The lines come out in the order of
these cells, each once and with all its cells, and lines whose cells are equal keep their order.
Labels move with their lines or stay where they are, and sorting again changes nothing.

Integers are sorted by their doubles. So lines with integers come out in the order of the integers
as long as no two of them that stood the other way round have one double.
-/
import Tabular.Proofs.Double.Integer
import Tabular.Proofs.Grid.Sorting
import Tabular.Proofs.Grid.WholeLines

namespace Tabular

/-! ## Positions in a sorted order -/

theorem rel_of_pairwise {α : Type} {r : α → α → Prop} {items : List α} (h : items.Pairwise r)
    {i j : Nat} {a b : α} (hij : i < j) (hi : items[i]? = some a) (hj : items[j]? = some b) :
    r a b := by
  obtain ⟨hilt, rfl⟩ := List.getElem?_eq_some_iff.1 hi
  obtain ⟨hjlt, rfl⟩ := List.getElem?_eq_some_iff.1 hj
  exact List.pairwise_iff_getElem.1 h i j hilt hjlt hij

namespace Direction

theorem le_iff {d : Direction} {a b : Cell} : d.le a b = true ↔ d.apply (a.order b) ≠ .gt :=
  Ordering.isLE_iff_ne_gt

/-- A position stands before another: its cell may stand there, and if the cells are equal it has
been in front before. -/
def Precedes (d : Direction) (cell : Nat → Cell) (p q : Nat) : Prop :=
  d.le (cell p) (cell q) = true ∧ ((cell p).order (cell q) = .eq → p < q)

instance (d : Direction) (cell : Nat → Cell) (p q : Nat) : Decidable (d.Precedes cell p q) :=
  inferInstanceAs (Decidable (_ ∧ _))

variable {d : Direction} {cell : Nat → Cell}

theorem Precedes.asymm {p q : Nat} (hpq : d.Precedes cell p q) : ¬ d.Precedes cell q p := by
  intro hqp
  -- each may stand before the other, so the cells are equal and the positions decide
  have heq : (cell p).order (cell q) = .eq := by
    have hle := hpq.1
    have hge := hqp.1
    rw [le, Cell.order_swap (cell p)] at hge
    rw [le] at hle
    cases d <;> cases h : (cell p).order (cell q) <;> simp_all [apply]
  have hlt := hpq.2 heq
  have hgt := hqp.2 (Std.OrientedCmp.eq_comm.1 heq)
  omega

/-- Positions with equal cells are taken from the front. -/
theorem precedes_sortBy_range (d : Direction) (cell : Nat → Cell) (n : Nat) :
    (d.sortBy cell (List.range n)).Pairwise (d.Precedes cell) := by
  refine List.pairwise_and_iff.2 ⟨d.pairwise_sortBy cell _, ?_⟩
  refine List.pairwise_iff_forall_sublist.2 fun {p q} hs heq => ?_
  -- among the positions whose cells equal one cell, sorting leaves the range as it is
  have hkept := hs.filter fun a => (cell a).order (cell q) == .eq
  rw [filter_sortBy_equal] at hkept
  have hboth : [p, q].filter (fun a => (cell a).order (cell q) == .eq) = [p, q] := by
    simp [heq, Std.ReflCmp.compare_self]
  rw [hboth] at hkept
  have hlt := (List.pairwise_lt_range.filter _).sublist hkept
  exact (List.pairwise_cons.1 hlt).1 q List.mem_cons_self

/-- There is only one order in which each position precedes the next. -/
theorem sortBy_range_eq {order : List Nat} {n : Nat} (hperm : order.Perm (List.range n))
    (hprecedes : order.Pairwise (d.Precedes cell)) : d.sortBy cell (List.range n) = order :=
  List.Perm.eq_of_pairwise (fun _ _ _ _ hpq hqp => absurd hqp hpq.asymm)
    (d.precedes_sortBy_range cell n) hprecedes ((d.sortBy_perm cell _).trans hperm.symm)

end Direction

namespace Grid

variable {g h : Grid} {axis : Axis} {ref : LineRef} {k : Nat} {d : Direction} {sticky : Bool}

/-! ## Rearranged lines, with their labels or without -/

theorem cell?_congr (hcells : g.cells = h.cells) (axis : Axis) (i c : Nat) :
    g.cell? axis i c = h.cell? axis i c := by
  cases axis with
  | row => rw [cell?_eq_cells, cell?_eq_cells, hcells]
  | column => exact (cell?_eq_cells g c i).trans (hcells ▸ (cell?_eq_cells h c i).symm)

section

variable {order : List Nat}

theorem lt_of_perm_range {n : Nat} (horder : order.Perm (List.range n)) : ∀ p ∈ order, p < n :=
  fun _ hp => List.mem_range.1 (horder.mem_iff.1 hp)

theorem WF.arrange_loose_picked (hg : g.WF) (horder : order.Perm (List.range (g.count axis))) :
    g.arrange axis false (picked order) = (g.pick axis order).withLabels axis (g.labels axis) := by
  rw [arrange_loose_eq (rearranges_picked horder), hg.arrange_picked horder]

theorem length_labels_pick (horder : order.Perm (List.range (g.count axis))) :
    (g.labels axis).length = (g.pick axis order).count axis := by
  rw [count_pick (lt_of_perm_range horder), horder.length_eq, List.length_range, count]

/-- The cells of the lines move, whatever becomes of the labels. -/
theorem WF.cell?_arrange (hg : g.WF) (horder : order.Perm (List.range (g.count axis)))
    (sticky : Bool) (i c : Nat) : (g.arrange axis sticky (picked order)).cell? axis i c =
      order[i]?.bind fun p => g.cell? axis p c := by
  have hpicked := hg.cell?_pick (lt_of_perm_range horder) i c
  cases sticky with
  | true => rw [hg.arrange_picked horder, hpicked]
  | false =>
    rw [hg.arrange_loose_picked horder, ← hpicked]
    exact cell?_congr (cells_withLabels (length_labels_pick horder)) axis i c

/-- Leaving every line where it is changes nothing. -/
theorem WF.arrange_range (hg : g.WF) (axis : Axis) (sticky : Bool) :
    g.arrange axis sticky (picked (List.range (g.count axis))) = g := by
  cases sticky with
  | true => rw [hg.arrange_picked (.refl _), hg.pick_range]
  | false =>
    rw [hg.arrange_loose_picked (.refl _), hg.pick_range]
    refine eq_of_cells_of_labels (cells_withLabels rfl) (forall_axis axis ?_ ?_)
    · exact labels_withLabels rfl
    · exact labels_cross_withLabels

end

/-! ## Sorted lines -/

/-- The order in which the lines of an axis are taken when they are sorted. -/
def sortOrder (axis : Axis) (k : Nat) (d : Direction) (g : Grid) : List Nat :=
  d.sortBy (fun key => (g.cell? axis key k).getD .null) (List.range (g.count axis))

theorem orderBy_eq_arrange (hk : g.key axis.cross ref = .ok k) (d : Direction) (sticky : Bool) :
    g.orderBy axis ref d sticky = .ok (g.arrange axis sticky (picked (g.sortOrder axis k d))) := by
  rw [orderBy, hk]
  rfl

theorem sortOrder_perm (axis : Axis) (k : Nat) (d : Direction) (g : Grid) :
    (g.sortOrder axis k d).Perm (List.range (g.count axis)) :=
  d.sortBy_perm _ _

/-- Of two lines the one that comes first may stand there, and has been there if they are equal. -/
theorem sortOrder_pairwise {i j p q : Nat} {a b : Cell} (hij : i < j)
    (hi : (g.sortOrder axis k d)[i]? = some p) (hj : (g.sortOrder axis k d)[j]? = some q)
    (ha : g.cell? axis p k = some a) (hb : g.cell? axis q k = some b) :
    d.apply (a.order b) ≠ .gt ∧ (a.order b = .eq → p < q) := by
  have hprecedes := rel_of_pairwise (d.precedes_sortBy_range _ _) hij hi hj
  simp only [Direction.Precedes, ha, hb, Option.getD_some] at hprecedes
  exact ⟨Direction.le_iff.1 hprecedes.1, hprecedes.2⟩

/-- Lines with equal cells come out as they stood. -/
theorem sortOrder_stable {i j p q : Nat} {a b : Cell}
    (hi : (g.sortOrder axis k d)[i]? = some p) (hj : (g.sortOrder axis k d)[j]? = some q)
    (ha : g.cell? axis p k = some a) (hb : g.cell? axis q k = some b) (hab : a.order b = .eq) :
    i < j ↔ p < q := by
  constructor
  · exact fun hij => (sortOrder_pairwise hij hi hj ha hb).2 hab
  · intro hpq
    rcases Nat.lt_trichotomy i j with hij | rfl | hji
    · exact hij
    · rw [hi] at hj
      cases hj
      exact absurd hpq (Nat.lt_irrefl p)
    · have hqp := (sortOrder_pairwise hji hj hi hb ha).2 (Std.OrientedCmp.eq_comm.1 hab)
      omega

/-- The second grid has the lines of the first, sorted by their cells at a position of the cross
axis; `order` tells where each line comes from. -/
structure SortedBy (axis : Axis) (k : Nat) (d : Direction) (sticky : Bool) (order : List Nat)
    (g sorted : Grid) : Prop where
  perm : order.Perm (List.range (g.count axis))
  lines : (sorted.lines axis).map (·.cells) = picked order ((g.lines axis).map (·.cells))
  adjacent : ∀ (i : Nat) (a b : Cell), sorted.cell? axis i k = some a →
    sorted.cell? axis (i + 1) k = some b → d.apply (a.order b) ≠ .gt
  stable : ∀ (i j p q : Nat) (a b : Cell), order[i]? = some p → order[j]? = some q →
    g.cell? axis p k = some a → g.cell? axis q k = some b → a.order b = .eq → (i < j ↔ p < q)
  labels : sorted.labels axis = if sticky then picked order (g.labels axis) else g.labels axis
  labels_cross : sorted.labels axis.cross = g.labels axis.cross

/-- The cells of the sorted lines are in order. -/
theorem WF.ordered_arrange (hg : g.WF) {i j : Nat} {a b : Cell} (hij : i < j)
    (ha : (g.arrange axis sticky (picked (g.sortOrder axis k d))).cell? axis i k = some a)
    (hb : (g.arrange axis sticky (picked (g.sortOrder axis k d))).cell? axis j k = some b) :
    d.apply (a.order b) ≠ .gt := by
  rw [hg.cell?_arrange (sortOrder_perm ..)] at ha hb
  obtain ⟨p, hi, ha⟩ := Option.bind_eq_some_iff.1 ha
  obtain ⟨q, hj, hb⟩ := Option.bind_eq_some_iff.1 hb
  exact (sortOrder_pairwise hij hi hj ha hb).1

theorem WF.sortedBy_arrange (hg : g.WF) (axis : Axis) (k : Nat) (d : Direction) (sticky : Bool) :
    SortedBy axis k d sticky (g.sortOrder axis k d) g
      (g.arrange axis sticky (picked (g.sortOrder axis k d))) := by
  have hperm := sortOrder_perm axis k d g
  have hr := rearranges_picked hperm
  refine ⟨hperm, hg.map_cells_lines_arrange sticky hr, ?_, ?_, hg.labels_arrange sticky hr,
    hg.labels_cross_arrange sticky hr⟩
  · exact fun i a b ha hb => hg.ordered_arrange (Nat.lt_succ_self i) ha hb
  · exact fun i j p q a b hi hj ha hb hab => sortOrder_stable hi hj ha hb hab

/-- Lines that are in order are taken as they stand. -/
theorem WF.sortOrder_eq_range (hg : g.WF) (hordered : ∀ i j a b, i < j →
    g.cell? axis i k = some a → g.cell? axis j k = some b → d.apply (a.order b) ≠ .gt)
    (hk : k < g.count axis.cross) :
    g.sortOrder axis k d = List.range (g.count axis) := by
  refine Direction.sortBy_of_pairwise (List.pairwise_iff_getElem.2 fun i j hi hj hij => ?_)
  rw [List.length_range] at hi hj
  obtain ⟨a, ha⟩ := Option.isSome_iff_exists.1 (hg.cell?_isSome_iff.2 ⟨hi, hk⟩)
  obtain ⟨b, hb⟩ := Option.isSome_iff_exists.1 (hg.cell?_isSome_iff.2 ⟨hj, hk⟩)
  simp only [List.getElem_range, ha, hb, Option.getD_some]
  exact Direction.le_iff.2 (hordered i j a b hij ha hb)

/-- Sorting what has been sorted changes nothing. -/
theorem WF.orderBy_arrange (hg : g.WF) (hk : g.key axis.cross ref = .ok k) (d : Direction)
    (sticky : Bool) :
    (g.arrange axis sticky (picked (g.sortOrder axis k d))).orderBy axis ref d sticky =
      .ok (g.arrange axis sticky (picked (g.sortOrder axis k d))) := by
  have hperm := sortOrder_perm axis k d g
  have hlabels := hg.labels_cross_arrange sticky (rearranges_picked hperm)
  have hsorted := arrange_wf hg sticky (rearranges_picked hperm)
  have hk' := (key_congr hlabels ref).trans hk
  rw [orderBy_eq_arrange hk', hsorted.sortOrder_eq_range ?_ (lt_of_key hk'), hsorted.arrange_range]
  exact fun i j a b hij ha hb => hg.ordered_arrange hij ha hb

/-- Sorting the lines of a reachable grid takes each of them once, whole and in the order of their
cells, equal lines as they stood; labels move with the lines or stay, those of the cross axis always
stay, and sorting again changes nothing. -/
theorem Reachable.orderBy_stable (hg : g.Reachable) (hk : g.key axis.cross ref = .ok k)
    (d : Direction) (sticky : Bool) :
    ∃ sorted order, g.orderBy axis ref d sticky = .ok sorted ∧
      SortedBy axis k d sticky order g sorted ∧ sorted.orderBy axis ref d sticky = .ok sorted :=
  ⟨_, _, orderBy_eq_arrange hk d sticky, hg.wf.sortedBy_arrange axis k d sticky,
    hg.wf.orderBy_arrange hk d sticky⟩

/-- Rows with one number in two spellings keep their order, also from the largest down, and the
labels stay behind. -/
theorem orderBy_stable_descending :
    Reachable ⟨[⟨some "x", [.text "1"]⟩, ⟨some "y", [.text "2.0"]⟩, ⟨some "z", [.text "2"]⟩],
        [some "n"]⟩ ∧
      orderBy .row (.label "n") .descending false
          ⟨[⟨some "x", [.text "1"]⟩, ⟨some "y", [.text "2.0"]⟩, ⟨some "z", [.text "2"]⟩],
            [some "n"]⟩ =
        .ok ⟨[⟨some "x", [.text "2.0"]⟩, ⟨some "y", [.text "2"]⟩, ⟨some "z", [.text "1"]⟩],
          [some "n"]⟩ ∧
      ∃ order, SortedBy .row 0 .descending false order
        ⟨[⟨some "x", [.text "1"]⟩, ⟨some "y", [.text "2.0"]⟩, ⟨some "z", [.text "2"]⟩], [some "n"]⟩
        ⟨[⟨some "x", [.text "2.0"]⟩, ⟨some "y", [.text "2"]⟩, ⟨some "z", [.text "1"]⟩],
          [some "n"]⟩ := by
  have hmade : ofLabeledRows [[.null, .text "n"], [.text "x", .text "1"], [.text "y", .text "2.0"],
      [.text "z", .text "2"]] true true =
        .ok ⟨[⟨some "x", [.text "1"]⟩, ⟨some "y", [.text "2.0"]⟩, ⟨some "z", [.text "2"]⟩],
          [some "n"]⟩ := rfl
  have hg := Reachable.ofLabeledRows hmade
  have hk : key Axis.row.cross (.label "n") ⟨[⟨some "x", [.text "1"]⟩, ⟨some "y", [.text "2.0"]⟩,
      ⟨some "z", [.text "2"]⟩], [some "n"]⟩ = .ok 0 := rfl
  have horder : sortOrder .row 0 .descending ⟨[⟨some "x", [.text "1"]⟩, ⟨some "y", [.text "2.0"]⟩,
      ⟨some "z", [.text "2"]⟩], [some "n"]⟩ = [1, 2, 0] :=
    Direction.sortBy_range_eq (by decide) (by decide +kernel)
  obtain ⟨sorted, order, hsorted, hby, _⟩ := hg.orderBy_stable hk .descending false
  have hrun := hsorted
  rw [orderBy_eq_arrange hk, horder] at hrun
  cases hrun
  exact ⟨hg, hsorted, order, hby⟩

/-! ## Lines with integers -/

theorem exists_sortOrder {p : Nat} (hp : p < g.count axis) (k : Nat) (d : Direction) :
    ∃ i : Nat, (g.sortOrder axis k d)[i]? = some p :=
  List.mem_iff_getElem?.1 ((sortOrder_perm axis k d g).mem_iff.2 (List.mem_range.2 hp))

/-- Integers rise in the sorted lines exactly when those that have one double did so before. -/
theorem WF.integers_rise_iff (hg : g.WF) (axis : Axis) (k : Nat) (sticky : Bool) :
    (∀ (i j : Nat) (a b : Int64), i < j →
      (g.arrange axis sticky (picked (g.sortOrder axis k .ascending))).cell? axis i k =
        some (.integer a) →
      (g.arrange axis sticky (picked (g.sortOrder axis k .ascending))).cell? axis j k =
        some (.integer b) → a.toInt ≤ b.toInt) ↔
    ∀ (p q : Nat) (a b : Int64), p < q → g.cell? axis p k = some (.integer a) →
      g.cell? axis q k = some (.integer b) → Double.ofInt a.toInt = Double.ofInt b.toInt →
        a.toInt ≤ b.toInt := by
  have hcell := hg.cell?_arrange (sortOrder_perm axis k .ascending g) sticky
  constructor
  · intro hrise p q a b hpq ha hb hdouble
    obtain ⟨i, hi⟩ := exists_sortOrder
      (hg.cell?_isSome_iff.1 (Option.isSome_iff_exists.2 ⟨_, ha⟩)).1 k .ascending
    obtain ⟨j, hj⟩ := exists_sortOrder
      (hg.cell?_isSome_iff.1 (Option.isSome_iff_exists.2 ⟨_, hb⟩)).1 k .ascending
    have hij := (sortOrder_stable hi hj ha hb (Cell.order_integer_eq_iff.2 hdouble)).2 hpq
    refine hrise i j a b hij ?_ ?_
    · rw [hcell, hi]
      exact ha
    · rw [hcell, hj]
      exact hb
  · intro hsame i j a b hij ha hb
    rw [hcell] at ha hb
    obtain ⟨p, hi, ha⟩ := Option.bind_eq_some_iff.1 ha
    obtain ⟨q, hj, hb⟩ := Option.bind_eq_some_iff.1 hb
    obtain ⟨hle, hstable⟩ := sortOrder_pairwise hij hi hj ha hb
    cases h : Cell.order (.integer a) (.integer b) with
    | lt => exact Int.le_of_lt (Cell.lt_of_order_integer h)
    | eq => exact hsame p q a b (hstable h) ha hb (Cell.order_integer_eq_iff.1 h)
    | gt => exact absurd h hle

/-- Integers are sorted by their doubles. Two of them compare by value, as query operators compare
them, unless they differ and have one double; they never compare the wrong way round, and up to
`2 ^ 53` always by value. So the integers at a position of the cross axis rise in the sorted lines
exactly when no two of them with one double stood the other way round. -/
theorem Reachable.orderBy_integers_iff (hg : g.Reachable) (hk : g.key axis.cross ref = .ok k)
    (sticky : Bool) :
    (∀ a b : Int64,
      Number.compare? (.integer a) (.integer b) = some (compare a.toInt b.toInt) ∧
      (Cell.order (.integer a) (.integer b) = compare a.toInt b.toInt ↔
        a = b ∨ Double.ofInt a.toInt ≠ Double.ofInt b.toInt) ∧
      (a.toInt ≤ b.toInt → Cell.order (.integer a) (.integer b) ≠ .gt) ∧
      (a.toInt.natAbs ≤ 9007199254740992 → b.toInt.natAbs ≤ 9007199254740992 →
        Cell.order (.integer a) (.integer b) = compare a.toInt b.toInt)) ∧
      ∃ sorted, g.orderBy axis ref .ascending sticky = .ok sorted ∧
        ((∀ (i j : Nat) (a b : Int64), i < j → sorted.cell? axis i k = some (.integer a) →
          sorted.cell? axis j k = some (.integer b) → a.toInt ≤ b.toInt) ↔
        ∀ (p q : Nat) (a b : Int64), p < q → g.cell? axis p k = some (.integer a) →
          g.cell? axis q k = some (.integer b) → Double.ofInt a.toInt = Double.ofInt b.toInt →
            a.toInt ≤ b.toInt) := by
  refine ⟨fun a b => ⟨rfl, Cell.order_integer_eq_compare_iff, Cell.order_integer_ne_gt, ?_⟩, ?_⟩
  · exact fun ha hb => Cell.order_integer_of_natAbs_le ha hb
  · exact ⟨_, orderBy_eq_arrange hk .ascending sticky, hg.wf.integers_rise_iff axis k sticky⟩

/-- Two integers with different doubles past `2 ^ 53` are put in order. -/
theorem orderBy_integers_apart :
    Reachable (ofRows [[.integer 9007199254740994], [.integer 9007199254740992]]) ∧
      ∃ sorted, orderBy .row (.position 0) .ascending true
          (ofRows [[.integer 9007199254740994], [.integer 9007199254740992]]) = .ok sorted ∧
        ∀ (i j : Nat) (a b : Int64), i < j → sorted.cell? .row i 0 = some (.integer a) →
          sorted.cell? .row j 0 = some (.integer b) → a.toInt ≤ b.toInt := by
  have hg : Reachable (ofRows [[.integer 9007199254740994], [.integer 9007199254740992]]) :=
    .ofRows _
  have hk : key Axis.row.cross (.position 0)
      (ofRows [[.integer 9007199254740994], [.integer 9007199254740992]]) = .ok 0 := rfl
  obtain ⟨_, sorted, hsorted, hrise⟩ := hg.orderBy_integers_iff hk true
  refine ⟨hg, sorted, hsorted, hrise.2 fun p q a b hpq ha hb hdouble => ?_⟩
  match p, q with
  | 0, 1 =>
    cases ha
    cases hb
    exact absurd hdouble (by decide +kernel)
  | 1, 1 | p + 1, 0 => omega
  | _, q + 2 => cases hb

/-- One more than `2 ^ 53` rounds to `2 ^ 53`, so the two compare as equal, and lines that hold them
the wrong way round stay so. -/
theorem orderBy_integers_confused :
    Cell.order (.integer 9007199254740993) (.integer 9007199254740992) = .eq ∧
      compare (9007199254740993 : Int64).toInt (9007199254740992 : Int64).toInt = .gt ∧
      orderBy .row (.position 0) .ascending true
          (ofRows [[.integer 9007199254740993], [.integer 9007199254740992]]) =
        .ok (ofRows [[.integer 9007199254740993], [.integer 9007199254740992]]) := by
  have hconfused : Cell.order (.integer 9007199254740993) (.integer 9007199254740992) = .eq :=
    Cell.order_integer_eq_iff.2 Double.ofInt_confused
  have hk : key Axis.row.cross (.position 0)
      (ofRows [[.integer 9007199254740993], [.integer 9007199254740992]]) = .ok 0 := rfl
  have horder : sortOrder .row 0 .ascending
      (ofRows [[.integer 9007199254740993], [.integer 9007199254740992]]) = [0, 1] :=
    Direction.sortBy_range_eq (by decide) (by decide +kernel)
  refine ⟨hconfused, by decide, ?_⟩
  rw [orderBy_eq_arrange hk, horder]
  rfl

end Grid

end Tabular
