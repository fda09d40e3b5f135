/-
The order of cells is a total preorder, whichever way it is turned: numbers by rank, then other
texts, then nulls. Cells that it does not tell apart keep their order when they are sorted, so it
makes no difference whether items are left out before sorting or after.
-/
import Tabular.Cell.Order
import Tabular.Proofs.Double.Integer

namespace Tabular

/-! ## Sorting and leaving out -/

section

variable {α β : Type} {le : α → α → Bool}

/-- A list that a test cuts in two is cut there by taking what passes. -/
theorem takeWhile_append_of_neg {p : α → Bool} {before after : List α}
    (hbefore : ∀ a ∈ before, p a = true) (hafter : ∀ a ∈ after, p a = false) :
    (before ++ after).takeWhile p = before := by
  rw [List.takeWhile_append_of_pos hbefore]
  cases after with
  | nil => simp
  | cons a after => simp [hafter a List.mem_cons_self]

/-- A sort that keeps the order of equal items sorts what is left of a list as it sorts the list. -/
theorem filter_mergeSort (trans : ∀ a b c, le a b = true → le b c = true → le a c = true)
    (total : ∀ a b, (le a b || le b a) = true) (keep : α → Bool) (items : List α) :
    (items.mergeSort le).filter keep = (items.filter keep).mergeSort le := by
  induction items with
  | nil => simp
  | cons a items ih =>
    obtain ⟨before, after, hsorted, hrest, hbefore⟩ := List.mergeSort_cons trans total a items
    rw [hrest, List.filter_append] at ih
    by_cases ha : keep a = true
    · obtain ⟨before', after', hsorted', hrest', hbefore'⟩ :=
        List.mergeSort_cons trans total a (items.filter keep)
      rw [hrest'] at ih
      -- in either list the item stands before the first one that it may stand before
      have hafter : ∀ {xs ys : List α}, (xs ++ a :: ys).Pairwise (le · · = true) →
          ∀ b ∈ ys, (!le a b) = false := by
        intro xs ys hpairwise b hb
        simp [(List.pairwise_cons.1 (List.pairwise_append.1 hpairwise).2.1).1 b hb]
      have hcut : (before.filter keep ++ after.filter keep).takeWhile (!le a ·) =
          before.filter keep := by
        refine takeWhile_append_of_neg ?_ ?_
        · exact fun b hb => hbefore b (List.mem_filter.1 hb).1
        · exact fun b hb => hafter (hsorted ▸ List.pairwise_mergeSort trans total _) b
            (List.mem_filter.1 hb).1
      have hcut' := takeWhile_append_of_neg hbefore'
        (hafter (hsorted' ▸ List.pairwise_mergeSort trans total _))
      have hsame : before.filter keep = before' := hcut.symm.trans (ih ▸ hcut')
      rw [hsame] at ih
      rw [hsorted, List.filter_append, List.filter_cons_of_pos ha, List.filter_cons_of_pos ha,
        hsorted', hsame, List.append_cancel_left ih]
    · rw [hsorted, List.filter_append, List.filter_cons_of_neg ha, List.filter_cons_of_neg ha, ih]

end

/-! ## Cells in classes -/

namespace Cell

/-- The place of a kind of cells in the order. -/
def sortClass (c : Cell) : Nat :=
  if c.isNull then 2 else if c.sortNumber?.isSome then 0 else 1

/-- The rank of the number that a cell is sorted by. -/
def sortRank (c : Cell) : Int :=
  (c.sortNumber?.map Double.totalRank).getD 0

/-- The text that a cell without a number is sorted by. -/
def sortText (c : Cell) : String :=
  if c.sortNumber?.isSome then "" else c.asText

/-- Cells are compared by class, then by rank, then by text. -/
theorem order_eq (a b : Cell) : a.order b =
    compareLex (compareOn sortClass) (compareLex (compareOn sortRank) (compareOn sortText)) a b := by
  have hnull : ∀ c : Cell, c.isNull = true → c.sortNumber? = none ∧ c.asText = "" := by
    intro c hc
    cases c <;> first | exact ⟨rfl, rfl⟩ | cases hc
  simp only [order, comparePresent, compareLex, compareOn, sortClass, sortRank, sortText]
  cases ha : a.isNull <;> cases hb : b.isNull
  · -- two cells with values: the classes differ when one of them alone has a number
    have hlt : compare 0 1 = Ordering.lt := rfl
    have hgt : compare 1 0 = Ordering.gt := rfl
    cases a.sortNumber? <;> cases b.sortNumber? <;> simp [Double.totalCompare, hlt, hgt]
  · cases a.sortNumber? <;> rfl
  · cases b.sortNumber? <;> rfl
  · rw [(hnull a ha).1, (hnull a ha).2, (hnull b hb).1, (hnull b hb).2]
    rfl

instance : Std.TransCmp order := by
  have horder : order =
      compareLex (compareOn sortClass) (compareLex (compareOn sortRank) (compareOn sortText)) :=
    funext fun a => funext fun b => order_eq a b
  rw [horder]
  infer_instance

theorem order_swap (a b : Cell) : b.order a = (a.order b).swap :=
  Std.OrientedCmp.eq_swap

end Cell

/-! ## A total preorder -/

/-- The laws of a comparison by which items can be sorted. -/
structure TotalPreorder {α : Type} (cmp : α → α → Ordering) : Prop where
  self : ∀ a, cmp a a = .eq
  swap : ∀ a b, cmp b a = (cmp a b).swap
  trans : ∀ a b c, cmp a b ≠ .gt → cmp b c ≠ .gt → cmp a c ≠ .gt

/-- A comparison that is turned round keeps its laws. -/
theorem TotalPreorder.apply {α : Type} {cmp : α → α → Ordering} (h : TotalPreorder cmp)
    (d : Direction) : TotalPreorder fun a b => d.apply (cmp a b) := by
  cases d with
  | ascending => exact h
  | descending =>
    refine ⟨fun a => ?_, fun a b => ?_, fun a b c hab hbc => ?_⟩
    · show (cmp a a).swap = .eq
      rw [h.self]
      rfl
    · show (cmp b a).swap = (cmp a b).swap.swap
      rw [h.swap a b]
    · -- turned round, the chain runs from the last item to the first
      show (cmp a c).swap ≠ .gt
      rw [← h.swap]
      refine h.trans c b a ?_ ?_
      · rw [h.swap]
        exact hbc
      · rw [h.swap]
        exact hab

namespace Cell

theorem totalPreorder_order : TotalPreorder order where
  self _ := Std.ReflCmp.compare_self
  swap := order_swap
  trans _ _ _ hab hbc :=
    Ordering.isLE_iff_ne_gt.1
      (Std.TransCmp.isLE_trans (Ordering.isLE_iff_ne_gt.2 hab) (Ordering.isLE_iff_ne_gt.2 hbc))

/-- A cell that is sorted as a number. -/
inductive Numeric : Cell → Prop
  | bool (b : Bool) : Numeric (.bool b)
  | integer (n : Int64) : Numeric (.integer n)
  | float (d : Double) : Numeric (.float d)
  | text {s : String} : (Text.number? s).isSome → Numeric (.text s)

theorem numeric_iff {c : Cell} : c.Numeric ↔ c.sortNumber?.isSome := by
  constructor
  · intro h
    cases h with
    | bool | integer | float => rfl
    | text hs => exact hs
  · intro h
    cases c with
    | null => cases h
    | bool b => exact .bool b
    | integer n => exact .integer n
    | float d => exact .float d
    | text s => exact .text h

/-- Numbers come before everything else, nulls included. -/
theorem order_eq_lt_of_numeric {a b : Cell} (ha : a.Numeric) (hb : ¬ b.Numeric) :
    a.order b = .lt := by
  have hpresent : a.isNull = false := by
    cases ha <;> rfl
  obtain ⟨x, hx⟩ := Option.isSome_iff_exists.1 (numeric_iff.1 ha)
  rw [numeric_iff, Option.not_isSome_iff_eq_none] at hb
  rw [order, hpresent]
  cases b.isNull with
  | true => rfl
  | false =>
    show comparePresent a b = .lt
    rw [comparePresent, hx, hb]

/-- Cells of all kinds are in one total preorder, in either direction: numbers, among them the texts
that denote one, before other texts, and these before nulls. -/
theorem order_ranks_kinds :
    TotalPreorder order ∧ (∀ d : Direction, TotalPreorder fun a b => d.apply (order a b)) ∧
      (∀ a s, Numeric a → ¬ Numeric (.text s) → a.order (.text s) = .lt) ∧
      (∀ a, Numeric a → a.order .null = .lt) ∧ ∀ s, order (.text s) .null = .lt := by
  refine ⟨totalPreorder_order, totalPreorder_order.apply, ?_, ?_, ?_⟩
  · exact fun a s ha hs => order_eq_lt_of_numeric ha hs
  · exact fun a ha => order_eq_lt_of_numeric ha nofun
  · exact fun s => rfl

/-- A float that is not a number is sorted as a number still, and a text that spells one is not. -/
theorem order_ranks_kinds_nan :
    (Double.ofBits 0x7FF8000000000000).isNaN ∧ ¬ Numeric (.text "NaN") ∧
      order (.float (.ofBits 0x7FF8000000000000)) (.text "NaN") = .lt ∧
      order (.text "NaN") .null = .lt := by
  have htext : ¬ Numeric (.text "NaN") := by
    rw [numeric_iff]
    decide +kernel
  exact ⟨by decide, htext, order_ranks_kinds.2.2.1 _ _ (.float _) htext, order_ranks_kinds.2.2.2.2 _⟩

/-! ## Integers -/

section

variable {a b : Int64}

theorem order_integer (a b : Int64) : order (.integer a) (.integer b) =
    compare (Double.ofInt a.toInt).totalRank (Double.ofInt b.toInt).totalRank := rfl

/-- Integers are told apart as far as their doubles are. -/
theorem order_integer_eq_iff :
    order (.integer a) (.integer b) = .eq ↔ Double.ofInt a.toInt = Double.ofInt b.toInt := by
  rw [order_integer, Int.compare_eq_eq]
  exact ⟨Double.totalRank_inj, congrArg Double.totalRank⟩

/-- Integers never sort the wrong way round. -/
theorem order_integer_ne_gt (h : a.toInt ≤ b.toInt) : order (.integer a) (.integer b) ≠ .gt := by
  rw [order_integer, Ne, Int.compare_eq_gt]
  exact Int.not_lt.2 (Double.totalRank_ofInt_mono h)

theorem lt_of_order_integer (h : order (.integer a) (.integer b) = .lt) : a.toInt < b.toInt := by
  refine Int.not_le.1 fun hle => order_integer_ne_gt hle ?_
  rw [order_swap, h]
  rfl

/-- Sorting compares two integers by value unless they differ and have one double. -/
theorem order_integer_eq_compare_iff :
    order (.integer a) (.integer b) = compare a.toInt b.toInt ↔
      a = b ∨ Double.ofInt a.toInt ≠ Double.ofInt b.toInt := by
  rw [Ne, ← order_integer_eq_iff]
  cases h : order (.integer a) (.integer b) with
  | lt => simp [Int.compare_eq_lt.2 (lt_of_order_integer h)]
  | gt =>
    -- seen from the other side, the first is the smaller one
    have hless : order (.integer b) (.integer a) = .lt := by
      rw [order_swap, h]
      rfl
    simp [Int.compare_eq_gt.2 (lt_of_order_integer hless)]
  | eq =>
    rw [eq_comm, Int.compare_eq_eq, Int64.toInt_inj]
    simp

/-- Up to `2 ^ 53` integers are sorted by value. -/
theorem order_integer_of_natAbs_le (ha : a.toInt.natAbs ≤ 2 * Double.exponentWeight)
    (hb : b.toInt.natAbs ≤ 2 * Double.exponentWeight) :
    order (.integer a) (.integer b) = compare a.toInt b.toInt := by
  rw [order_integer_eq_compare_iff]
  by_cases hab : a = b
  · exact .inl hab
  · exact .inr fun hdouble => hab (Int64.toInt_inj.1 (Double.ofInt_inj ha hb hdouble))

end

end Cell

/-! ## Sorting by a cell -/

namespace Direction

/-- Whether a cell may stand before another. -/
def le (d : Direction) (a b : Cell) : Bool :=
  (d.apply (a.order b)).isLE

theorem le_trans (d : Direction) {a b c : Cell} (hab : d.le a b = true) (hbc : d.le b c = true) :
    d.le a c = true := by
  cases d with
  | ascending =>
    simp only [le, apply] at hab hbc ⊢
    exact Std.TransCmp.isLE_trans hab hbc
  | descending =>
    simp only [le, apply, Ordering.isLE_swap] at hab hbc ⊢
    exact Std.TransCmp.isGE_trans hab hbc

theorem le_total (d : Direction) (a b : Cell) : (d.le a b || d.le b a) = true := by
  rw [le, le, Cell.order_swap a b]
  cases d <;> cases a.order b <;> rfl

section

variable {α β : Type} {cell : α → Cell} {items : List α}

theorem sortBy_eq (d : Direction) (cell : α → Cell) (items : List α) :
    d.sortBy cell items = items.mergeSort fun a b => d.le (cell a) (cell b) := rfl

theorem sortBy_perm (d : Direction) (cell : α → Cell) (items : List α) :
    (d.sortBy cell items).Perm items :=
  List.mergeSort_perm items _

theorem pairwise_sortBy (d : Direction) (cell : α → Cell) (items : List α) :
    (d.sortBy cell items).Pairwise fun a b => d.le (cell a) (cell b) = true := by
  rw [sortBy_eq]
  refine List.pairwise_mergeSort ?_ ?_ items
  · exact fun _ _ _ => d.le_trans
  · exact fun a b => d.le_total (cell a) (cell b)

/-- What is in order already stays as it is. -/
theorem sortBy_of_pairwise {d : Direction}
    (h : items.Pairwise fun a b => d.le (cell a) (cell b) = true) : d.sortBy cell items = items :=
  List.mergeSort_of_pairwise h

/-- Leaving items out and sorting can be exchanged. -/
theorem filter_sortBy (d : Direction) (keep : α → Bool) :
    (d.sortBy cell items).filter keep = d.sortBy cell (items.filter keep) := by
  rw [sortBy_eq, sortBy_eq]
  refine filter_mergeSort ?_ ?_ keep items
  · exact fun _ _ _ => d.le_trans
  · exact fun a b => d.le_total (cell a) (cell b)

/-- Items whose cells equal one cell come out in the order in which they went in. -/
theorem filter_sortBy_equal (d : Direction) (c : Cell) :
    (d.sortBy cell items).filter (fun a => (cell a).order c == .eq) =
      items.filter fun a => (cell a).order c == .eq := by
  rw [filter_sortBy]
  have hequal : ∀ a ∈ items.filter fun a => (cell a).order c == .eq, (cell a).order c = .eq :=
    fun a ha => beq_iff_eq.1 (List.mem_filter.1 ha).2
  refine sortBy_of_pairwise (List.pairwise_iff_forall_sublist.2 fun {a b} hs => ?_)
  have ha := hequal a (hs.subset List.mem_cons_self)
  have hb := hequal b (hs.subset (List.mem_cons_of_mem _ List.mem_cons_self))
  -- both equal the one cell, so they equal each other
  have hab : (cell a).order (cell b) = .eq :=
    Std.TransCmp.eq_trans ha (Std.OrientedCmp.eq_comm.1 hb)
  rw [le, hab]
  cases d <;> rfl

/-- Sorting goes by the cells alone, whatever the items are. -/
theorem map_sortBy (d : Direction) {cell' : β → Cell} {f : α → β}
    (h : ∀ a ∈ items, cell a = cell' (f a)) :
    (d.sortBy cell items).map f = d.sortBy cell' (items.map f) :=
  List.map_mergeSort fun a ha b hb => by rw [h a ha, h b hb]

end

end Direction

end Tabular
