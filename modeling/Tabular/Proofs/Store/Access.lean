/-
What the checked list operations answer where every index is in range, and requests that cannot
fault: if they answer, the answer has some property, and no index has been out of range.
-/
import Tabular.Proofs.Grid.Picking
import Tabular.Store.Access

namespace Tabular

/-! ## Requests that cannot fault -/

section

variable {α β : Type} {x : Answer α} {p q : α → Prop}

/-- The answer has a property, or the request is refused. -/
def Ensures (post : α → Prop) : Answer α → Prop
  | .ok a => post a
  | .error e => e ≠ .outOfRange

theorem ensures_refused (cause : GridError) : Ensures p (.error (.refused cause)) :=
  Fault.noConfusion

theorem Ensures.imp (h : Ensures p x) (hpq : ∀ a, p a → q a) : Ensures q x := by
  cases x with
  | ok a => exact hpq a h
  | error e => exact h

theorem Ensures.bind {r : β → Prop} {f : α → Answer β} (h : Ensures p x)
    (hf : ∀ a, p a → Ensures r (f a)) : Ensures r (x >>= f) := by
  cases x with
  | ok a => exact hf a h
  | error e => exact h

theorem Ensures.of_eq_ok {a : α} (h : Ensures p x) (hx : x = .ok a) : p a := by
  subst hx
  exact h

theorem Ensures.ne_outOfRange (h : Ensures p x) : x ≠ .error .outOfRange := by
  rintro rfl
  exact h rfl

/-- Going through a list keeps what each step keeps. -/
theorem ensures_foldlM {step : α → β → Answer α} {items : List β} {a : α} (ha : p a)
    (hstep : ∀ a, ∀ item ∈ items, p a → Ensures p (step a item)) :
    Ensures p (items.foldlM step a) := by
  induction items generalizing a with
  | nil => exact ha
  | cons item items ih =>
    exact (hstep a item List.mem_cons_self ha).bind fun b hb =>
      ih hb fun c i hi => hstep c i (List.mem_cons_of_mem _ hi)

theorem ensures_mapError {ε : Type} (y : Except ε α) (cause : ε → GridError) :
    Ensures (fun a => y = .ok a) (y.mapError fun e => .refused (cause e)) := by
  cases y with
  | ok a => rfl
  | error e => exact ensures_refused (cause e)

end

/-! ## Indices in range -/

namespace Checked

variable {α β : Type} {items : List α} {i j : Nat}

theorem get_of_getElem? {a : α} (h : items[i]? = some a) : get i items = .ok a := by
  rw [get, h]

theorem get_of_lt (h : i < items.length) : get i items = .ok items[i] :=
  get_of_getElem? (List.getElem?_eq_getElem h)

theorem get_eq_outOfRange_iff : get i items = .error .outOfRange ↔ items.length ≤ i := by
  rw [← List.getElem?_eq_none_iff, get]
  cases items[i]? <;> simp

theorem modify_of_lt {change : α → Answer α} {a : α} (h : i < items.length)
    (ha : change items[i] = .ok a) : modify i change items = .ok (items.set i a) := by
  rw [modify, get_of_lt h]
  show change items[i] >>= _ = _
  rw [ha]
  rfl

theorem set_of_lt (h : i < items.length) (a : α) : set i a items = .ok (items.set i a) :=
  modify_of_lt h rfl

theorem insert_of_le (h : i ≤ items.length) (a : α) :
    insert i a items = .ok (items.insertIdx i a) :=
  if_pos h

theorem remove_of_getElem? {a : α} (h : items[i]? = some a) :
    remove i items = .ok (a, items.eraseIdx i) := by
  rw [remove, get_of_getElem? h]
  rfl

theorem remove_of_lt (h : i < items.length) (d : α) :
    remove i items = .ok (items.getD i d, items.eraseIdx i) := by
  rw [List.getD_eq_getElem?_getD, List.getElem?_eq_getElem h]
  exact remove_of_getElem? (List.getElem?_eq_getElem h)

theorem swap_of_lt (hi : i < items.length) (hj : j < items.length) :
    swap i j items = .ok (Grid.exchange i j items) := by
  rw [swap, get_of_lt hi, get_of_lt hj, Grid.exchange, List.getElem?_eq_getElem hi,
    List.getElem?_eq_getElem hj]
  rfl

/-- Taking an item out and putting it in elsewhere. -/
theorem remove_insert_of_lt (hi : i < items.length) (hj : j < items.length) :
    (remove i items >>= fun found => insert j found.1 found.2) =
      .ok (Grid.relocate i j items) := by
  have hle : j ≤ (items.eraseIdx i).length := by
    rw [List.length_eraseIdx_of_lt hi]
    exact Nat.le_sub_one_of_lt hj
  rw [remove, get_of_lt hi, Grid.relocate, List.getElem?_eq_getElem hi]
  exact insert_of_le hle _

/-- Slots that are still full give their items. -/
theorem takeSlots_eq {slots : List (Option α)} {order : List Nat} (hn : order.Nodup)
    (hslots : ∀ i ∈ order, ∃ a, items[i]? = some a ∧ slots[i]? = some (some a)) :
    takeSlots slots order = .ok (picked order items) := by
  induction order generalizing slots with
  | nil => rfl
  | cons i order ih =>
    rw [List.forall_mem_cons] at hslots
    obtain ⟨⟨a, ha, hslot⟩, hrest⟩ := hslots
    obtain ⟨hi, hn⟩ := List.nodup_cons.1 hn
    -- the slots that are asked for later are not the one that is empty now
    have hkept : ∀ j ∈ order, ∃ b, items[j]? = some b ∧ (slots.set i none)[j]? = some (some b) := by
      intro j hj
      obtain ⟨b, hb, hfull⟩ := hrest j hj
      have hne : i ≠ j := fun he => hi (he ▸ hj)
      exact ⟨b, hb, by rw [List.getElem?_set_ne hne, hfull]⟩
    rw [takeSlots, get_of_getElem? hslot]
    show takeSlots _ order >>= _ = _
    obtain ⟨hlt, rfl⟩ := List.getElem?_eq_some_iff.1 ha
    rw [ih hn hkept, picked_cons hlt]
    rfl

theorem permute_of_perm {order : List Nat} {n : Nat} (horder : order.Perm (List.range n))
    (hlen : items.length = n) : permute order items = .ok (picked order items) := by
  refine takeSlots_eq (horder.nodup_iff.2 List.nodup_range) fun i hi => ?_
  have hlt : i < items.length := hlen ▸ List.mem_range.1 (horder.subset hi)
  exact ⟨items[i], List.getElem?_eq_getElem hlt, by simp [hlt]⟩

theorem mapM_of_forall {f : α → Answer β} {g : α → β} (h : ∀ a ∈ items, f a = .ok (g a)) :
    items.mapM f = .ok (items.map g) := by
  induction items with
  | nil => rfl
  | cons a items ih =>
    rw [List.forall_mem_cons] at h
    rw [List.mapM_cons, h.1, ih h.2]
    rfl

theorem exists_mapM_eq_ok {f : α → Answer β} (h : ∀ a ∈ items, ∃ b, f a = .ok b) :
    ∃ out, items.mapM f = .ok out ∧ List.Forall₂ (fun a b => f a = .ok b) items out := by
  induction items with
  | nil => exact ⟨[], rfl, .nil⟩
  | cons a items ih =>
    rw [List.forall_mem_cons] at h
    obtain ⟨b, hb⟩ := h.1
    obtain ⟨out, hout, hall⟩ := ih h.2
    refine ⟨b :: out, ?_, .cons hb hall⟩
    rw [List.mapM_cons, hb, hout]
    rfl

/-- Reading a list at some positions is picking. -/
theorem mapM_get {keys : List Nat} (h : ∀ k ∈ keys, k < items.length) :
    keys.mapM (get · items) = .ok (picked keys items) := by
  induction keys with
  | nil => rfl
  | cons k keys ih =>
    rw [List.forall_mem_cons] at h
    rw [List.mapM_cons, get_of_lt h.1, ih h.2, picked_cons h.1]
    rfl

theorem zipEach_of_forall {change : α → β → Answer α} {f : α → β → α} {others : List β}
    (hlen : items.length ≤ others.length) (h : ∀ a ∈ items, ∀ b, change a b = .ok (f a b)) :
    zipEach change items others = .ok (List.zipWith f items others) := by
  induction items generalizing others with
  | nil => rfl
  | cons a items ih =>
    cases others with
    | nil => cases hlen
    | cons b others =>
      rw [List.forall_mem_cons] at h
      rw [zipEach, h.1 b]
      show zipEach change items others >>= _ = _
      rw [ih (Nat.le_of_succ_le_succ hlen) h.2]
      rfl

theorem exists_of_mem_zipWith {γ : Type} {f : α → β → γ} {others : List β} {c : γ}
    (h : c ∈ List.zipWith f items others) : ∃ a ∈ items, ∃ b, c = f a b := by
  obtain ⟨i, hi⟩ := List.mem_iff_getElem?.1 h
  obtain ⟨a, b, ha, -, rfl⟩ := List.getElem?_zipWith_eq_some.1 hi
  exact ⟨a, List.mem_of_getElem? ha, b, rfl⟩

theorem length_resize (n : Nat) (a : α) (items : List α) : (resize n a items).length = n := by
  rw [resize, List.length_rightpad, List.length_take]
  omega

theorem resize_of_le {n : Nat} (h : items.length ≤ n) (a : α) :
    resize n a items = items.rightpad n a := by
  rw [resize, List.take_of_length_le h]

theorem mem_resize {n : Nat} {a b : α} (h : b ∈ resize n a items) : b ∈ items ∨ b = a := by
  rcases List.mem_append.1 h with h | h
  · exact .inl (List.mem_of_mem_take h)
  · exact .inr (List.eq_of_mem_replicate h)

end Checked

end Tabular
