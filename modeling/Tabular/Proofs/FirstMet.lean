/-
The items of a list in the order in which they are first met, each once. Items that come later are
only added on the right, so a list that grows keeps what it has given before.
-/
import Mathlib.Algebra.BigOperators.Group.List.Lemmas
import Mathlib.Algebra.GroupWithZero.Nat
import Mathlib.Data.List.Induction

namespace Tabular

variable {α : Type} [BEq α] [LawfulBEq α] {past : List α} {a : α}

/-- What comes later only adds items, on the right. -/
theorem exists_eraseDups_append (past more : List α) :
    ∃ added, (past ++ more).eraseDups = past.eraseDups ++ added ∧ ∀ a ∈ added, a ∉ past := by
  refine ⟨_, List.eraseDups_append, fun a ha hpast => ?_⟩
  have hnot := (List.mem_filter.1 (List.mem_eraseDups.1 ha)).2
  rw [List.elem_eq_true_of_mem hpast] at hnot
  cases hnot

theorem eraseDups_append_of_subset {more : List α} (h : more ⊆ past) :
    (past ++ more).eraseDups = past.eraseDups := by
  obtain ⟨added, hadded, hnew⟩ := exists_eraseDups_append past more
  have hnone : added = [] := by
    refine List.eq_nil_iff_forall_not_mem.2 fun a ha => hnew a ha ?_
    have hmem : a ∈ (past ++ more).eraseDups := hadded ▸ List.mem_append_right _ ha
    exact (List.mem_append.1 (List.mem_eraseDups.1 hmem)).elim id (h ·)
  rw [hadded, hnone, List.append_nil]

theorem eraseDups_concat_of_mem (h : a ∈ past) : (past ++ [a]).eraseDups = past.eraseDups :=
  eraseDups_append_of_subset (List.cons_subset.2 ⟨h, List.nil_subset _⟩)

theorem eraseDups_concat_of_not_mem (h : a ∉ past) :
    (past ++ [a]).eraseDups = past.eraseDups ++ [a] := by
  have hnew : past.contains a = false := by
    rwa [← Bool.not_eq_true, List.contains_iff_mem]
  rw [List.eraseDups_append, List.cons_removeAll, hnew, if_pos rfl]
  rfl

theorem nodup_eraseDups (past : List α) : past.eraseDups.Nodup := by
  induction past using List.reverseRecOn with
  | nil => exact .nil
  | append_singleton past a ih =>
    by_cases h : a ∈ past
    · rwa [eraseDups_concat_of_mem h]
    · rw [eraseDups_concat_of_not_mem h]
      refine ih.append (List.nodup_singleton a) (List.disjoint_singleton.2 ?_)
      rwa [List.mem_eraseDups]

theorem eraseDups_of_nodup (h : past.Nodup) : past.eraseDups = past := by
  induction past using List.reverseRecOn with
  | nil => rfl
  | append_singleton past a ih =>
    have hnew : a ∉ past := fun hmem => (List.nodup_append.1 h).2.2 a hmem a (by simp) rfl
    rw [eraseDups_concat_of_not_mem hnew, ih (h.sublist (List.sublist_append_left _ _))]

/-- Items that are met earlier stand first. -/
theorem pairwise_idxOf_eraseDups (past : List α) :
    past.eraseDups.Pairwise fun a b => past.idxOf a < past.idxOf b := by
  induction past using List.reverseRecOn with
  | nil => exact .nil
  | append_singleton past a ih =>
    have hpast : past.eraseDups.Pairwise fun b c =>
        (past ++ [a]).idxOf b < (past ++ [a]).idxOf c := by
      refine ih.imp_of_mem fun hb hc hlt => ?_
      rwa [List.idxOf_append_of_mem (List.mem_eraseDups.1 hb),
        List.idxOf_append_of_mem (List.mem_eraseDups.1 hc)]
    by_cases h : a ∈ past
    · rwa [eraseDups_concat_of_mem h]
    · rw [eraseDups_concat_of_not_mem h]
      refine List.pairwise_append.2 ⟨hpast, List.pairwise_singleton _ _, fun b hb c hc => ?_⟩
      rw [List.mem_singleton.1 hc, List.idxOf_append_of_mem (List.mem_eraseDups.1 hb),
        List.idxOf_append, if_neg h]
      exact Nat.lt_add_left _ (List.idxOf_lt_length_of_mem (List.mem_eraseDups.1 hb))

/-- The numbers of times that items occur add up to the length. -/
theorem sum_count_eraseDups {β : Type} [DecidableEq β] (past : List β) :
    (past.eraseDups.map (past.count ·)).sum = past.length := by
  have hperm : past.eraseDups.Perm past.dedup :=
    (List.perm_ext_iff_of_nodup (nodup_eraseDups past) past.nodup_dedup).2 fun b => by
      rw [List.mem_eraseDups, List.mem_dedup]
  rw [(hperm.map _).sum_nat, List.sum_map_count_dedup_eq_length]

end Tabular
