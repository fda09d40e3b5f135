/-
Trimming. It takes blanks off the two ends of a text and nothing else, so blanks that are added
there make no difference and what is left neither starts nor ends with one.
-/
import Mathlib.Data.List.Basic
import Mathlib.Data.List.DropRight
import Tabular.Text.Blank

namespace Tabular.Text

theorem trimStart_eq_self {cs : List Char} (h : ∀ c ∈ cs.head?, isBlank c = false) :
    trimStart cs = cs := by
  cases cs with
  | nil => rfl
  | cons c cs => exact List.dropWhile_cons_of_neg (by rw [h c rfl]; exact Bool.false_ne_true)

theorem trimStart_trimStart (cs : List Char) : trimStart (trimStart cs) = trimStart cs :=
  List.dropWhile_idempotent ..

theorem trimEnd_append {cs : List Char} (h : ∀ c ∈ cs.getLast?, isBlank c = false) (ds : List Char) :
    trimEnd (cs ++ ds) = cs ++ trimEnd ds := by
  have hstop : cs.reverse.dropWhile isBlank = cs.reverse :=
    trimStart_eq_self (by rwa [List.head?_reverse])
  rw [trimEnd, trimEnd, List.reverse_append, List.dropWhile_append]
  split
  · rename_i hempty
    rw [hstop, List.isEmpty_iff.1 hempty, List.reverse_reverse, List.reverse_nil, List.append_nil]
  · rw [List.reverse_append, List.reverse_reverse]

theorem trimEnd_eq_self {cs : List Char} (h : ∀ c ∈ cs.getLast?, isBlank c = false) :
    trimEnd cs = cs := by
  have happend := trimEnd_append h []
  rwa [List.append_nil, show trimEnd [] = [] from rfl, List.append_nil] at happend

/-- A text without blanks at its ends is not trimmed. -/
theorem trim_eq_self {cs : List Char} (hfirst : ∀ c ∈ cs.head?, isBlank c = false)
    (hlast : ∀ c ∈ cs.getLast?, isBlank c = false) : trim cs = cs := by
  rw [trim, trimStart_eq_self hfirst, trimEnd_eq_self hlast]

/-- Trimming takes blanks off and nothing else. -/
theorem exists_trim (cs : List Char) :
    ∃ before after, cs = before ++ trim cs ++ after ∧ before.all isBlank = true ∧
      after.all isBlank = true := by
  refine ⟨cs.takeWhile isBlank, ((trimStart cs).reverse.takeWhile isBlank).reverse, ?_,
    List.all_takeWhile, by rw [List.all_reverse, List.all_takeWhile]⟩
  have hend : trim cs ++ ((trimStart cs).reverse.takeWhile isBlank).reverse = trimStart cs := by
    rw [trim, trimEnd, ← List.reverse_append, List.takeWhile_append_dropWhile, List.reverse_reverse]
  rw [List.append_assoc, hend]
  exact (List.takeWhile_append_dropWhile).symm

theorem trimEnd_append_blank {cs after : List Char} (h : after.all isBlank = true) :
    trimEnd (cs ++ after) = trimEnd cs := by
  have hall : ∀ c ∈ after.reverse, isBlank c = true := fun c hc =>
    List.all_eq_true.1 h c (List.mem_reverse.1 hc)
  rw [trimEnd, List.reverse_append, List.dropWhile_append_of_pos hall]
  rfl

theorem trim_append_blank {before cs after : List Char} (hb : before.all isBlank = true)
    (ha : after.all isBlank = true) : trim (before ++ cs ++ after) = trim cs := by
  rw [trim, trimStart, List.append_assoc, List.dropWhile_append_of_pos (List.all_eq_true.1 hb),
    List.dropWhile_append]
  split
  · rename_i hempty
    have hnil : trimStart cs = [] := List.isEmpty_iff.1 hempty
    have hafter : after.dropWhile isBlank = [] := by
      rw [← List.append_nil after, List.dropWhile_append_of_pos (List.all_eq_true.1 ha)]
      rfl
    rw [trim, hnil, hafter]
  · exact trimEnd_append_blank ha

/-- A trimmed text does not end with a blank. -/
theorem isBlank_getLast?_trim {cs : List Char} {c : Char} (h : (trim cs).getLast? = some c) :
    isBlank c = false := by
  rw [trim, trimEnd, List.getLast?_reverse] at h
  have hkept := List.head?_dropWhile_not isBlank (trimStart cs).reverse
  rw [h] at hkept
  simpa using hkept

theorem trimEnd_isPrefix (cs : List Char) : trimEnd cs <+: cs := by
  rw [trimEnd, ← List.reverse_suffix, List.reverse_reverse]
  exact List.dropWhile_suffix isBlank

theorem head?_of_head?_trimEnd {cs : List Char} {c : Char} (h : (trimEnd cs).head? = some c) :
    cs.head? = some c := by
  obtain ⟨after, hafter⟩ := trimEnd_isPrefix cs
  rw [← hafter, List.head?_append, h]
  rfl

/-- A trimmed text does not start with a blank. -/
theorem isBlank_head?_trim {cs : List Char} {c : Char} (h : (trim cs).head? = some c) :
    isBlank c = false := by
  have hkept := List.head?_dropWhile_not isBlank cs
  rw [show cs.dropWhile isBlank = trimStart cs from rfl, head?_of_head?_trimEnd h] at hkept
  simpa using hkept

theorem trim_trim (cs : List Char) : trim (trim cs) = trim cs :=
  trim_eq_self (fun _ => isBlank_head?_trim) fun _ => isBlank_getLast?_trim

end Tabular.Text
