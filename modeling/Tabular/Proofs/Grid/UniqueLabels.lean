/-
Labels that can stand on an axis: none is the empty text, and none stands twice. Adding a label
that is not there yet, leaving labels out and rearranging them keep this, and then a label and
its position determine each other.
-/
import Mathlib.Data.List.Perm.Basic
import Tabular.Grid.Labels

namespace Tabular

/-! ## Lists of labels -/

/-- No label is the empty text, and no two positions carry the same label. -/
structure UniqueLabels (labels : List (Option String)) : Prop where
  named : some "" ∉ labels
  distinct : labels.Pairwise fun a b => a.isSome → a ≠ b

/-- A label that can be added: none, or a text that is neither empty nor there yet. -/
def Fresh (label : Option String) (labels : List (Option String)) : Prop :=
  label = none ∨ (label ≠ some "" ∧ label ∉ labels)

theorem fresh_none (labels : List (Option String)) : Fresh none labels := .inl rfl

theorem Fresh.mono {label : Option String} {labels labels' : List (Option String)}
    (h : Fresh label labels') (hs : labels ⊆ labels') : Fresh label labels :=
  h.imp id fun h => ⟨h.1, fun hm => h.2 (hs hm)⟩

theorem uniqueLabels_nil : UniqueLabels [] := ⟨List.not_mem_nil, .nil⟩

theorem uniqueLabels_cons_iff {label : Option String} {labels : List (Option String)} :
    UniqueLabels (label :: labels) ↔ Fresh label labels ∧ UniqueLabels labels := by
  constructor
  · rintro ⟨hn, hd⟩
    rw [List.mem_cons, not_or] at hn
    rw [List.pairwise_cons] at hd
    refine ⟨?_, hn.2, hd.2⟩
    rcases label with _ | l
    · exact fresh_none labels
    · exact .inr ⟨Ne.symm hn.1, fun hm => hd.1 _ hm rfl rfl⟩
  · rintro ⟨hf, hn, hd⟩
    refine ⟨?_, List.pairwise_cons.2 ⟨?_, hd⟩⟩
    · rintro hm
      rcases List.mem_cons.1 hm with rfl | hm
      · rcases hf with hf | hf
        · cases hf
        · exact hf.1 rfl
      · exact hn hm
    · rintro b hb hsome rfl
      rcases hf with rfl | hf
      · cases hsome
      · exact hf.2 hb

theorem UniqueLabels.sublist {labels labels' : List (Option String)} (h : UniqueLabels labels')
    (hs : labels.Sublist labels') : UniqueLabels labels :=
  ⟨fun hm => h.named (hs.subset hm), h.distinct.sublist hs⟩

theorem UniqueLabels.perm {labels labels' : List (Option String)} (h : UniqueLabels labels')
    (hp : labels.Perm labels') : UniqueLabels labels := by
  refine ⟨fun hm => h.named (hp.subset hm), hp.symm.pairwise h.distinct ?_⟩
  rintro a b hab hb rfl
  exact hab hb rfl

theorem uniqueLabels_replicate_none (n : Nat) : UniqueLabels (List.replicate n none) := by
  induction n with
  | zero => exact uniqueLabels_nil
  | succ n ih => exact uniqueLabels_cons_iff.2 ⟨fresh_none _, ih⟩

theorem UniqueLabels.insertIdx {label : Option String} {labels : List (Option String)}
    (h : UniqueLabels labels) (hf : Fresh label labels) (i : Nat) :
    UniqueLabels (labels.insertIdx i label) := by
  by_cases hi : i ≤ labels.length
  · exact (uniqueLabels_cons_iff.2 ⟨hf, h⟩).perm (List.perm_insertIdx label labels hi)
  · rw [List.insertIdx_of_length_lt (Nat.lt_of_not_le hi)]
    exact h

theorem UniqueLabels.set {label : Option String} {labels : List (Option String)}
    (h : UniqueLabels labels) (hf : Fresh label labels) (i : Nat) :
    UniqueLabels (labels.set i label) := by
  by_cases hi : i < labels.length
  · have herased : UniqueLabels (label :: labels.eraseIdx i) := uniqueLabels_cons_iff.2
      ⟨hf.mono (List.eraseIdx_sublist labels i).subset, h.sublist (List.eraseIdx_sublist labels i)⟩
    exact herased.perm (List.set_perm_cons_eraseIdx hi label)
  · rw [List.set_eq_of_length_le (Nat.le_of_not_lt hi)]
    exact h

theorem UniqueLabels.rightpad_none {labels : List (Option String)} (h : UniqueLabels labels)
    (n : Nat) : UniqueLabels (labels.rightpad n none) := by
  -- the order of labels does not matter, so the padding may as well stand in front
  have happend : ∀ m, UniqueLabels (List.replicate m none ++ labels) := by
    intro m
    induction m with
    | zero => exact h
    | succ m ih => exact uniqueLabels_cons_iff.2 ⟨fresh_none _, ih⟩
  exact (happend _).perm List.perm_append_comm

/-- Two positions with the same label are the same. -/
theorem UniqueLabels.position_inj {labels : List (Option String)} (h : UniqueLabels labels)
    {j k : Nat} {l : String} (hj : labels[j]? = some (some l)) (hk : labels[k]? = some (some l)) :
    j = k := by
  obtain ⟨hjlt, hje⟩ := List.getElem?_eq_some_iff.1 hj
  obtain ⟨hklt, hke⟩ := List.getElem?_eq_some_iff.1 hk
  have hd := List.pairwise_iff_getElem.1 h.distinct
  rcases Nat.lt_trichotomy j k with hlt | heq | hlt
  · exact absurd (hje.trans hke.symm) (hd j k hjlt hklt hlt (by rw [hje]; rfl))
  · exact heq
  · exact absurd (hke.trans hje.symm) (hd k j hklt hjlt hlt (by rw [hke]; rfl))

/-! ## Checked labels -/

theorem normalizeLabel_eq_some_iff {label : Option String} {l : String} :
    normalizeLabel label = some l ↔ label = some l ∧ l ≠ "" :=
  Option.filter_eq_some_iff.trans (and_congr_right fun _ => bne_iff_ne)

theorem normalizeLabel_ne_empty (label : Option String) : normalizeLabel label ≠ some "" :=
  fun h => (normalizeLabel_eq_some_iff.1 h).2 rfl

theorem firstRepeated_eq_none {seen texts : List String} (h : Grid.firstRepeated seen texts = none) :
    texts.Nodup ∧ ∀ s ∈ texts, s ∉ seen := by
  induction texts generalizing seen with
  | nil => exact ⟨.nil, nofun⟩
  | cons s texts ih =>
    unfold Grid.firstRepeated at h
    split at h
    · cases h
    · rename_i hs
      obtain ⟨hn, hseen⟩ := ih h
      have hsn : s ∉ seen := fun hm => hs (List.contains_iff_mem.2 hm)
      refine ⟨List.nodup_cons.2 ⟨fun hm => hseen s hm List.mem_cons_self, hn⟩, ?_⟩
      rintro t ht
      rcases List.mem_cons.1 ht with rfl | ht
      · exact hsn
      · exact fun hm => hseen t ht (List.mem_cons_of_mem _ hm)

/-- Labels in stored form without a repeated text are unique. -/
theorem uniqueLabels_of_firstRepeated {labels : List (Option String)}
    (h : Grid.firstRepeated [] ((labels.map normalizeLabel).filterMap id) = none) :
    UniqueLabels (labels.map normalizeLabel) := by
  refine ⟨?_, ?_⟩
  · rintro hm
    obtain ⟨label, _, hl⟩ := List.mem_map.1 hm
    exact normalizeLabel_ne_empty label hl
  · refine (List.pairwise_filterMap.1 (firstRepeated_eq_none h).1).imp ?_
    rintro a b hab hsome rfl
    obtain ⟨l, rfl⟩ := Option.isSome_iff_exists.1 hsome
    exact hab l rfl l rfl rfl

/-! ## Rearranged lists -/

namespace Grid

theorem exchange_perm {α : Type} (a b : Nat) (items : List α) :
    (exchange a b items).Perm items := by
  unfold exchange
  split
  · rename_i x y hx hy
    obtain ⟨ha, rfl⟩ := List.getElem?_eq_some_iff.1 hx
    obtain ⟨hb, rfl⟩ := List.getElem?_eq_some_iff.1 hy
    exact List.set_set_perm ha hb
  · exact .refl _

theorem relocate_perm {α : Type} (source : Nat) {target : Nat} {items : List α}
    (h : target < items.length) : (relocate source target items).Perm items := by
  unfold relocate
  split
  · rename_i x hx
    obtain ⟨hs, rfl⟩ := List.getElem?_eq_some_iff.1 hx
    have hlen : target ≤ (items.eraseIdx source).length := by
      rw [List.length_eraseIdx_of_lt hs]
      omega
    exact (List.perm_insertIdx _ _ hlen).trans (List.getElem_cons_eraseIdx_perm hs)
  · exact .refl _

/-! ## Labels of a grid -/

variable {g : Grid} {axis : Axis}

theorem find?_eq_none_iff {l : String} : g.find? axis l = none ↔ some l ∉ g.labels axis := by
  unfold find?
  rw [List.findIdx?_eq_none_iff]
  constructor
  · intro h hm
    simpa using h _ hm
  · intro h label hm
    refine beq_eq_false_iff_ne.2 ?_
    rintro rfl
    exact h hm

theorem hasLabel_iff {l : String} : g.hasLabel axis l = true ↔ some l ∈ g.labels axis := by
  rw [hasLabel, Option.isSome_iff_ne_none, ne_eq, find?_eq_none_iff, not_not]

theorem getElem?_of_find? {l : String} {k : Nat} (h : g.find? axis l = some k) :
    (g.labels axis)[k]? = some (some l) := by
  obtain ⟨hk, he, _⟩ := List.findIdx?_eq_some_iff_getElem.1 h
  rw [List.getElem?_eq_getElem hk, beq_iff_eq.1 he]

/-- A label is found exactly where it stands. -/
theorem find?_eq_some_iff (h : UniqueLabels (g.labels axis)) {l : String} {k : Nat} :
    g.find? axis l = some k ↔ (g.labels axis)[k]? = some (some l) := by
  constructor
  · exact getElem?_of_find?
  · intro hk
    rcases hf : g.find? axis l with _ | j
    · exact absurd (List.mem_of_getElem? hk) (find?_eq_none_iff.1 hf)
    · rw [h.position_inj (getElem?_of_find? hf) hk]

theorem lt_of_key {ref : LineRef} {k : Nat} (h : g.key axis ref = .ok k) : k < g.count axis := by
  unfold key at h
  split at h
  · split at h
    · cases h
      assumption
    · cases h
  · split at h
    · rename_i hf
      cases h
      exact (List.getElem?_eq_some_iff.1 (getElem?_of_find? hf)).1
    · cases h

/-- A label that is free is fresh, or stands at its owner already. -/
theorem freeLabel_eq_ok {label stored : Option String} {owner : Option Nat}
    (h : g.freeLabel axis label owner = .ok stored) :
    Fresh stored (g.labels axis) ∨ ∃ k, owner = some k ∧ (g.labels axis)[k]? = some stored := by
  have hne := normalizeLabel_ne_empty label
  unfold freeLabel at h
  split at h
  · cases h
    exact .inl (fresh_none _)
  · rename_i l hl
    rw [hl] at hne
    split at h
    · rename_i hf
      cases h
      exact .inl (.inr ⟨hne, find?_eq_none_iff.1 hf⟩)
    · rename_i k hf
      split at h
      · rename_i ho
        cases h
        exact .inr ⟨k, ho, getElem?_of_find? hf⟩
      · cases h

end Grid

end Tabular
