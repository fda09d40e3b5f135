/-
Cells inferred from texts. A text denotes a number exactly when it is a decimal of the grammar
between blanks, and then it always has a double. An inferred cell is the integer that the text
writes, if 64 bits hold it, else the double of a decimal without blanks around it, else the text as
it stands.
-/
import Tabular.Cell.Basic
import Tabular.Proofs.Text.Grammar

namespace Tabular

open Text (IsInteger IsDecimal trim trimmed number? integer?)

/-- A number is a decimal between blanks, and its double is the one nearest to the decimal. -/
theorem Text.number?_eq_some_iff {s : String} {x : Double} : number? s = some x ↔
    ∃ negative d, IsDecimal (trim s.toList) negative d ∧ d.toDouble negative = x := by
  simp only [number?_eq, Option.map_eq_some_iff, Prod.exists]
  constructor
  · rintro ⟨negative, d, hd, rfl⟩
    exact ⟨negative, d, decimal?_eq_some_iff.1 hd, rfl⟩
  · rintro ⟨negative, d, hd, rfl⟩
    exact ⟨negative, d, decimal?_eq_some_iff.2 hd, rfl⟩

/-- The scan accepts the texts of the grammar, and the library converts each of them. -/
theorem Text.isSome_number?_iff {s : String} : (number? s).isSome ↔
    ∃ negative d, IsDecimal (trim s.toList) negative d := by
  rw [← scansNumber_iff, number?]
  by_cases hscan : scansNumber (trim s.toList) = true
  · rw [if_pos hscan]
    exact iff_of_true (isSome_double?_of_scansNumber hscan) hscan
  · rw [if_neg hscan]
    exact iff_of_false Bool.false_ne_true hscan

namespace Cell

variable {s : String}

theorem infer_eq_integer_iff {n : Int64} : infer s = .integer n ↔ IsInteger s.toList n.toInt := by
  rw [← Text.integer?_eq_some_iff, infer]
  cases integer? s.toList with
  | some m => simp
  | none =>
    cases number? s with
    | none => simp
    | some x => by_cases htrim : trimmed s = s <;> simp [htrim]

/-- A text that is no integer is inferred to be the number it denotes, if it is not trimmed. -/
theorem infer_of_not_integer (h : ¬ ∃ n : Int64, IsInteger s.toList n.toInt) :
    (∀ x, infer s = .float x ↔ trimmed s = s ∧ number? s = some x) ∧
      ∀ t, infer s = .text t ↔ t = s ∧ ¬ (trimmed s = s ∧ (number? s).isSome) := by
  have hnone : integer? s.toList = none := by
    rw [Option.eq_none_iff_forall_ne_some]
    rintro n hn
    exact h ⟨n, Text.integer?_eq_some_iff.1 hn⟩
  unfold infer
  rw [hnone]
  cases number? s with
  | none => simp [@eq_comm _ s]
  | some x => by_cases htrim : trimmed s = s <;> simp [htrim, @eq_comm _ s]

/-- A text is a number exactly when it is in the grammar, and none of the grammar is left without
its double. An inferred cell is an integer, else a float, else the text, each exactly when the text
is of that form. -/
theorem infer_classifies (s : String) :
    ((number? s).isSome ↔ ∃ negative d, IsDecimal (trim s.toList) negative d) ∧
    (∀ x, number? s = some x ↔
      ∃ negative d, IsDecimal (trim s.toList) negative d ∧ d.toDouble negative = x) ∧
    (∀ n, infer s = .integer n ↔ IsInteger s.toList n.toInt) ∧
    (∀ x, infer s = .float x ↔ (¬ ∃ n : Int64, IsInteger s.toList n.toInt) ∧ trimmed s = s ∧
      ∃ negative d, IsDecimal (trim s.toList) negative d ∧ d.toDouble negative = x) ∧
    ∀ t, infer s = .text t ↔ t = s ∧ (¬ ∃ n : Int64, IsInteger s.toList n.toInt) ∧
      ¬ (trimmed s = s ∧ ∃ negative d, IsDecimal (trim s.toList) negative d) := by
  refine ⟨Text.isSome_number?_iff, fun x => Text.number?_eq_some_iff,
    fun n => infer_eq_integer_iff, ?_⟩
  simp only [← Text.number?_eq_some_iff, ← Text.isSome_number?_iff]
  by_cases h : ∃ n : Int64, IsInteger s.toList n.toInt
  · obtain ⟨n, hn⟩ := h
    rw [infer_eq_integer_iff.2 hn]
    constructor
    · intro x
      exact ⟨nofun, fun hx => absurd ⟨n, hn⟩ hx.1⟩
    · intro t
      exact ⟨nofun, fun ht => absurd ⟨n, hn⟩ ht.2.1⟩
  · obtain ⟨hfloat, htext⟩ := infer_of_not_integer h
    simp [hfloat, htext, h]

/-- The largest integer of 64 bits and the next one, which only a double can be. -/
example : infer "+9223372036854775807" = .integer Int64.maxValue ∧
    infer "9223372036854775808" = .float (.ofInt 9223372036854775808) ∧
    infer " 1" = .text " 1" ∧ infer "1e" = .text "1e" := by
  decide +kernel

end Cell

end Tabular
