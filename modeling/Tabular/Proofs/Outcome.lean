/-
When a computation that may fail succeeds: exactly when each of its parts does. It fails as the
first part that fails.
-/
namespace Tabular

variable {ε α β : Type}

theorem map_eq_ok_iff {f : α → β} {x : Except ε α} {b : β} :
    x.map f = .ok b ↔ ∃ a, x = .ok a ∧ f a = b := by
  cases x <;> simp [Except.map]

theorem map_eq_error_iff {f : α → β} {x : Except ε α} {e : ε} :
    x.map f = .error e ↔ x = .error e := by
  cases x <;> simp [Except.map]

theorem bind_eq_ok_iff {f : α → Except ε β} {x : Except ε α} {b : β} :
    x >>= f = .ok b ↔ ∃ a, x = .ok a ∧ f a = .ok b := by
  cases x <;> simp [bind, Except.bind]

theorem bind_eq_error_iff {f : α → Except ε β} {x : Except ε α} {e : ε} :
    x >>= f = .error e ↔ x = .error e ∨ ∃ a, x = .ok a ∧ f a = .error e := by
  cases x <;> simp [bind, Except.bind]

theorem mapError_eq_ok_iff {δ : Type} {f : ε → δ} {x : Except ε α} {a : α} :
    x.mapError f = .ok a ↔ x = .ok a := by
  constructor
  · intro h
    cases x with
    | ok b =>
      cases h
      rfl
    | error e => cases h
  · rintro rfl
    rfl

theorem mapError_eq_error_iff {δ : Type} {f : ε → δ} {x : Except ε α} {d : δ} :
    x.mapError f = .error d ↔ ∃ e, x = .error e ∧ f e = d := by
  constructor
  · intro h
    cases x with
    | ok a => cases h
    | error e =>
      cases h
      exact ⟨e, rfl, rfl⟩
  · rintro ⟨e, rfl, rfl⟩
    rfl

theorem mapError_bind_pure {δ : Type} (x : Except ε α) (m : ε → δ) (f : α → β) :
    (x >>= fun a => pure (f a)).mapError m = (x.mapError m >>= fun a => pure (f a)) := by
  cases x <;> rfl

/-- Going through a list fails as the first item that fails. -/
theorem mapM_eq_error_iff {f : α → Except ε β} {items : List α} {e : ε} :
    items.mapM f = .error e ↔ ∃ before a after, items = before ++ a :: after ∧
      (∀ b ∈ before, ∃ c, f b = .ok c) ∧ f a = .error e := by
  induction items with
  | nil =>
    refine iff_of_false nofun ?_
    rintro ⟨before, a, after, h, -⟩
    cases before <;> cases h
  | cons a items ih =>
    have hrest : ∀ c, f a = .ok c → ((a :: items).mapM f = .error e ↔ items.mapM f = .error e) := by
      intro c hc
      rw [List.mapM_cons, hc]
      cases items.mapM f <;> simp [bind, Except.bind, pure, Except.pure]
    constructor
    · intro h
      cases ha : f a with
      | error e' =>
        rw [List.mapM_cons, ha] at h
        cases h
        exact ⟨[], a, items, rfl, nofun, ha⟩
      | ok c =>
        obtain ⟨before, b, after, rfl, hbefore, hb⟩ := ih.1 ((hrest c ha).1 h)
        exact ⟨a :: before, b, after, rfl, List.forall_mem_cons.2 ⟨⟨c, ha⟩, hbefore⟩, hb⟩
    · rintro ⟨before, b, after, h, hbefore, hb⟩
      cases before with
      | nil =>
        cases h
        rw [List.mapM_cons, hb]
        rfl
      | cons b' before =>
        cases h
        obtain ⟨⟨c, hc⟩, hbefore⟩ := List.forall_mem_cons.1 hbefore
        exact (hrest c hc).2 (ih.2 ⟨before, b, after, rfl, hbefore, hb⟩)

theorem exists_of_mapM_eq_error {f : α → Except ε β} {items : List α} {e : ε}
    (h : items.mapM f = .error e) : ∃ a ∈ items, f a = .error e := by
  obtain ⟨before, a, after, rfl, _, ha⟩ := mapM_eq_error_iff.1 h
  exact ⟨a, List.mem_append_right before List.mem_cons_self, ha⟩

/-- Going through the parts of each item fails as going through all the parts at once. -/
theorem mapM_flatMap_eq_error_iff {γ δ : Type} {parts : α → List γ} {f : γ → Except ε δ}
    {join : α → List δ → β} {items : List α} {e : ε} :
    items.mapM (fun a => (parts a).mapM f >>= fun ds => pure (join a ds)) = .error e ↔
      (items.flatMap parts).mapM f = .error e := by
  induction items with
  | nil => exact iff_of_false nofun nofun
  | cons a items ih =>
    rw [List.mapM_cons, List.flatMap_cons, List.mapM_append]
    simp only [bind_eq_error_iff, bind_eq_ok_iff, pure, Except.pure, reduceCtorEq, and_false,
      exists_false, or_false]
    constructor
    · rintro (h | ⟨_, ⟨ds, hds, _⟩, h⟩)
      · exact .inl h
      · exact .inr ⟨ds, hds, ih.1 h⟩
    · rintro (h | ⟨ds, hds, h⟩)
      · exact .inl h
      · exact .inr ⟨_, ⟨ds, hds, rfl⟩, ih.2 h⟩

theorem mapM_mapError {δ : Type} (f : α → Except ε β) (m : ε → δ) (items : List α) :
    items.mapM (fun a => (f a).mapError m) = (items.mapM f).mapError m := by
  induction items with
  | nil => rfl
  | cons a items ih =>
    rw [List.mapM_cons, List.mapM_cons, ih]
    cases f a with
    | error e => rfl
    | ok b => cases items.mapM f <;> rfl

/-- Decoding item by item gives what it gives for each item. -/
theorem mapM_map_eq_some_map_iff {γ : Type} {encode : α → β} {decode : β → Option γ} {f : α → γ}
    {items : List α} : (items.map encode).mapM decode = some (items.map f) ↔
      ∀ a ∈ items, decode (encode a) = some (f a) := by
  induction items with
  | nil => exact ⟨nofun, fun _ => rfl⟩
  | cons a items ih =>
    rw [List.map_cons, List.map_cons, List.mapM_cons, List.forall_mem_cons, ← ih]
    cases decode (encode a) <;> cases (items.map encode).mapM decode <;> simp

theorem length_of_mapM_eq_some {decode : α → Option β} {items : List α} {results : List β}
    (h : items.mapM decode = some results) : results.length = items.length := by
  induction items generalizing results with
  | nil =>
    cases h
    rfl
  | cons a items ih =>
    rw [List.mapM_cons] at h
    obtain ⟨b, _, h⟩ := Option.bind_eq_some_iff.1 h
    obtain ⟨rest, hrest, h⟩ := Option.bind_eq_some_iff.1 h
    cases h
    exact congrArg Nat.succ (ih hrest)

theorem exists_of_mem_mapM {decode : α → Option β} {items : List α} {results : List β}
    (h : items.mapM decode = some results) {b : β} (hb : b ∈ results) :
    ∃ a ∈ items, decode a = some b := by
  induction items generalizing results with
  | nil =>
    cases h
    cases hb
  | cons a items ih =>
    rw [List.mapM_cons] at h
    obtain ⟨c, hc, h⟩ := Option.bind_eq_some_iff.1 h
    obtain ⟨rest, hrest, h⟩ := Option.bind_eq_some_iff.1 h
    cases h
    rcases List.mem_cons.1 hb with rfl | hb
    · exact ⟨a, List.mem_cons_self, hc⟩
    · obtain ⟨d, hd, hdecode⟩ := ih hrest hb
      exact ⟨d, List.mem_cons_of_mem a hd, hdecode⟩

/-- Decoding item by item undoes encoding when it does so for each item. -/
theorem mapM_map_eq_some {encode : α → β} {decode : β → Option α} {items : List α}
    (h : ∀ a ∈ items, decode (encode a) = some a) :
    (items.map encode).mapM decode = some items := by
  have hid := mapM_map_eq_some_map_iff.2 h
  rwa [List.map_id'] at hid

end Tabular
