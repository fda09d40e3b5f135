/-
The ordering operators. Every cell counts as the integer that its text is cast to, every operand as
the integer it is cast to, and the four operators compare the two. So one of greater, less and both
of the others holds, and separators in the operand never matter.
-/
import Tabular.Proofs.Text.Saturation
import Tabular.Query.Operator

namespace Tabular

open Text (castInteger)

/-- Each kind of cell counts as the integer that its text is cast to. -/
theorem Cell.toInteger_eq (cell : Cell) : cell.toInteger = castInteger cell.asText := by
  cases cell with
  | null => rfl
  | bool b => cases b <;> rfl
  | integer n => exact (Text.castInteger_toString n).symm
  | float | text => rfl

namespace Operator

/-- The operators that compare integers. -/
def orderings : List Operator :=
  [.greater, .less, .greaterOrEqual, .lessOrEqual]

theorem holds_ordering_iff (cell : Cell) (operand : String) :
    (greater.holds cell operand = true ↔ (castInteger operand).toInt < cell.toInteger.toInt) ∧
    (less.holds cell operand = true ↔ cell.toInteger.toInt < (castInteger operand).toInt) ∧
    (greaterOrEqual.holds cell operand = true ↔
      (castInteger operand).toInt ≤ cell.toInteger.toInt) ∧
    (lessOrEqual.holds cell operand = true ↔
      cell.toInteger.toInt ≤ (castInteger operand).toInt) := by
  simp only [holds, integerOrder]
  generalize cell.toInteger.toInt = a
  generalize (castInteger operand).toInt = b
  refine ⟨?_, ?_, ?_, ?_⟩
  · rw [Ordering.isGT_iff_eq_gt, Int.compare_eq_gt]
  · rw [Ordering.isLT_iff_eq_lt, Int.compare_eq_lt]
  · rw [Ordering.isGE_iff_ne_lt, Int.compare_eq_lt, Int.not_lt]
  · rw [Ordering.isLE_iff_ne_gt, Int.compare_eq_gt, Int.not_lt]

theorem holds_of_spaced {op : Operator} (hop : op ∈ orderings) (cell : Cell)
    {operand spaced : String} (h : Text.Spaced operand.toList spaced.toList) :
    op.holds cell spaced = op.holds cell operand := by
  have hcast := Text.castInteger_of_spaced h
  simp only [orderings, List.mem_cons, List.not_mem_nil, or_false] at hop
  rcases hop with rfl | rfl | rfl | rfl <;> simp only [holds, integerOrder, hcast]

/-- One of greater, less and both of the others together. -/
theorem count_orderings (cell : Cell) (operand : String) :
    [greater.holds cell operand, less.holds cell operand,
      greaterOrEqual.holds cell operand && lessOrEqual.holds cell operand].count true = 1 := by
  simp only [holds]
  cases integerOrder cell operand <;> rfl

/-- A text is cast to the integer of its sign and digits, held at the bounds of 64 bits, as taking
in the digits one by one gives it. The ordering operators compare what a cell counts as with what
the operand is cast to, and separators put into the operand change none of them. -/
theorem ordering_compares_casts (s : String) (cell : Cell) (operand : String) :
    (∃ negative digits, Text.Opens (Text.unseparated s) negative digits) ∧
    (∀ negative digits, Text.Opens (Text.unseparated s) negative digits →
      castInteger s = digits.foldl (Text.takeDigit negative) 0 ∧
        (castInteger s).toInt =
          Text.clamp (Text.signedValue negative (Text.digitsValue digits))) ∧
    (cell.toInteger = castInteger cell.asText ∧ Cell.null.toInteger = 0 ∧
      (∀ b, (Cell.bool b).toInteger = if b then 1 else 0) ∧
      ∀ n, (Cell.integer n).toInteger = n) ∧
    ((greater.holds cell operand = true ↔ (castInteger operand).toInt < cell.toInteger.toInt) ∧
      (less.holds cell operand = true ↔ cell.toInteger.toInt < (castInteger operand).toInt) ∧
      (greaterOrEqual.holds cell operand = true ↔
        (castInteger operand).toInt ≤ cell.toInteger.toInt) ∧
      (lessOrEqual.holds cell operand = true ↔
        cell.toInteger.toInt ≤ (castInteger operand).toInt)) ∧
    [greater.holds cell operand, less.holds cell operand,
      greaterOrEqual.holds cell operand && lessOrEqual.holds cell operand].count true = 1 ∧
    ∀ spaced : String, Text.Spaced operand.toList spaced.toList →
      ∀ op ∈ orderings, op.holds cell spaced = op.holds cell operand :=
  ⟨Text.exists_opens _, fun _ _ h => Text.castInteger_of_opens h,
    ⟨cell.toInteger_eq, rfl, fun _ => rfl, fun _ => rfl⟩, holds_ordering_iff cell operand,
    count_orderings cell operand, fun _ h _ hop => holds_of_spaced hop cell h⟩

/-- More digits than 64 bits hold, on the negative side, and separators put into an operand that is
one more than the cell. -/
theorem ordering_compares_casts_saturated :
    castInteger "-9,223,372,036,854,775,809.5" = Int64.minValue ∧
      less.holds (.integer 12) "1,3." = true ∧ greaterOrEqual.holds (.integer 12) "1,3." = false := by
  have hopens : Text.Opens (['-'] ++ ("92233720368547758095".toList ++ [])) true
      "92233720368547758095".toList :=
    .mk .minus nofun (List.all_eq_true.1 (by decide)) nofun
  have hspaced : Text.Spaced "13".toList "1,3.".toList :=
    .keep '1' (.insert rfl (.keep '3' (.insert rfl .nil)))
  obtain ⟨-, hcast, -, hiff, -, hspaces⟩ :=
    ordering_compares_casts "-9,223,372,036,854,775,809.5" (.integer 12) "13"
  obtain ⟨-, hvalue⟩ := hcast true "92233720368547758095".toList hopens
  refine ⟨?_, ?_, ?_⟩
  · rw [← Int64.toInt_inj, hvalue]
    decide
  · rw [hspaces "1,3." hspaced less (by decide), hiff.2.1]
    decide
  · rw [hspaces "1,3." hspaced greaterOrEqual (by decide), ← Bool.not_eq_true, hiff.2.2.1]
    decide

end Operator

end Tabular
