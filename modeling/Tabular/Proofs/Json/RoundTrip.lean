/-
Reading a value back from its compact text. The machine that reads is at any time inside some
open containers; on the text of a value it does what completing that value there does, and goes
on with what follows. By induction on the nesting, so an array is read item by item.
-/
import Tabular.Proofs.Json.Spelling

namespace Tabular.Json

open Lexeme

/-- Values of scalars that are no floats, in arrays that are nested at most `depth` deep. -/
inductive Nested : (depth : Nat) → Json → Prop
  | null {depth : Nat} : Nested depth .null
  | bool {depth : Nat} (b : Bool) : Nested depth (.bool b)
  | integer {depth : Nat} {n : Int} : -(Double.signWeight : Int) ≤ n →
      n ≤ NumberText.significandLimit → Nested depth (.integer n)
  | string {depth : Nat} (s : String) : Nested depth (.string s)
  | array {depth : Nat} {items : List Json} : (∀ v ∈ items, Nested depth v) →
      Nested (depth + 1) (.array items)

/-- Goes on from where a lexeme has led to. -/
def resume (demand : Demand) : Option Progress → List Lexeme → Option (Json × List Lexeme)
  | none, _ => none
  | some (.done v), ls => some (v, ls)
  | some (.go goal frames), ls => readFrom demand goal frames ls

variable {demand : Demand} {goal : Goal} {frames : List Frame} {l : Lexeme} {ls : List Lexeme}
  {depth : Nat} {rest : List Char}

theorem readFrom_cons : readFrom demand goal frames (l :: ls) =
    resume demand (step demand goal frames l) ls := by
  rw [readFrom]
  rcases step demand goal frames l with _ | ⟨_ | _⟩ <;> rfl

/-- The goals at which a value can stand. -/
def Goal.AwaitsValue (goal : Goal) : Prop :=
  goal = .value ∨ goal = .firstItem

theorem step_awaitsValue (hgoal : goal.AwaitsValue) (hl : l ≠ .closeArray) :
    step demand goal frames l = begin? demand frames l := by
  rcases hgoal with rfl | rfl
  · exact step.eq_8 demand frames l
  · exact step.eq_9 demand frames l fun _ _ h _ => hl h

theorem step_scalar (hgoal : goal.AwaitsValue) {v : Json} (h : scalar? (.used depth) l = some v) :
    step (.used depth) goal frames l = complete v frames := by
  cases l with
  | null | bool | number | string =>
    rw [step_awaitsValue hgoal (by simp)]
    exact congrArg (·.bind (complete · frames)) h
  | openArray | closeArray | openObject | closeObject | comma | colon | fault => cases h

theorem step_openArray (hgoal : goal.AwaitsValue) (h : frames.length < depth) :
    step (.used depth) goal frames .openArray = some (.go .firstItem (.array [] :: frames)) := by
  rw [step_awaitsValue hgoal (by simp)]
  exact if_pos (decide_eq_true h)

/-! ## Values -/

/-- A value is followed by the end of the text, or by what can stand after it in a container. -/
def EndsValue (rest : List Char) : Prop :=
  ∀ c, rest.head? = some c → c ∈ [',', ']', '}']

theorem EndsValue.endsNumber (h : EndsValue rest) : EndsNumber rest := by
  intro c hc
  have hend := h c hc
  simp only [List.mem_cons, List.not_mem_nil, or_false] at hend
  rcases hend with rfl | rfl | rfl <;> decide

theorem endsValue_cons {c : Char} (h : c ∈ [',', ']', '}']) (rest : List Char) :
    EndsValue (c :: rest) := by
  rintro d hd
  cases hd
  exact h

/-- The text of a value is read as this value, whatever comes after it. -/
def ReadsBack (depth n : Nat) (v : Json) : Prop :=
  ∀ (goal : Goal) (frames : List Frame) (rest : List Char), goal.AwaitsValue →
    frames.length + n ≤ depth → EndsValue rest →
    readFrom (.used depth) goal frames (scan (v.compactChars ++ rest)) =
      resume (.used depth) (complete v frames) (scan rest)

theorem readsBack_scalar {v : Json} {text : List Char} {n : Nat} (htext : v.compactChars = text)
    (hscan : ∀ rest, EndsValue rest → scan (text ++ rest) = l :: scan rest)
    (hvalue : scalar? (.used depth) l = some v) : ReadsBack depth n v := by
  rintro goal frames rest hgoal _ hrest
  rw [htext, hscan rest hrest, readFrom_cons, step_scalar hgoal hvalue]

/-- The items of an array are read one after the other up to its end. -/
theorem readFrom_items {items : List Json} {n : Nat} (hitems : ∀ v ∈ items, ReadsBack depth n v)
    (hne : items ≠ []) {done : List Json} (hgoal : goal.AwaitsValue)
    (hdepth : frames.length + 1 + n ≤ depth) (rest : List Char) :
    readFrom (.used depth) goal (.array done :: frames)
        (scan (compactItems items ++ ']' :: rest)) =
      resume (.used depth) (complete (.array (done.reverse ++ items)) frames) (scan rest) := by
  induction items generalizing done goal with
  | nil => exact absurd rfl hne
  | cons v items ih =>
    have hv := hitems v List.mem_cons_self goal (.array done :: frames)
    rcases items with _ | ⟨w, items⟩
    · rw [compactItems, hv (']' :: rest) hgoal hdepth (endsValue_cons (by decide) rest),
        scan_punctuation rfl rfl]
      show readFrom _ _ _ _ = _
      rw [readFrom_cons]
      simp [step]
    · rw [compactItems.eq_3 v _ (List.cons_ne_nil w items), List.append_assoc, List.cons_append,
        hv _ hgoal hdepth (endsValue_cons (by decide) _), scan_punctuation rfl rfl]
      show readFrom _ _ _ _ = _
      rw [readFrom_cons]
      show readFrom _ _ _ _ = _
      rw [ih (fun x hx => hitems x (List.mem_cons_of_mem _ hx)) (List.cons_ne_nil _ _) (.inl rfl),
        List.reverse_cons, List.append_assoc, List.singleton_append]

/-- Nested values read back where their containers still have room. -/
theorem Nested.readsBack {n : Nat} {v : Json} (h : Nested n v) : ReadsBack depth n v := by
  induction h with
  | null => exact readsBack_scalar rfl (fun rest _ => scan_nullText rest) rfl
  | bool b => exact readsBack_scalar rfl (fun rest _ => scan_boolText b rest) rfl
  | integer hlow hhigh =>
    exact readsBack_scalar rfl (fun rest hrest => scan_integerText _ hrest.endsNumber)
      (NumberText.value?_integerParts hlow hhigh)
  | string s =>
    refine readsBack_scalar rfl (fun rest _ => scan_quoted s rest) ?_
    show some (Json.string (String.ofList s.toList)) = some (.string s)
    rw [String.ofList_toList]
  | @array n items _ ih =>
    rintro goal frames rest hgoal hdepth hrest
    show readFrom _ _ _ (scan ('[' :: compactItems items ++ [']'] ++ rest)) = _
    rw [List.cons_append, List.cons_append, List.append_assoc, List.singleton_append,
      scan_punctuation rfl rfl, readFrom_cons, step_openArray hgoal (by omega)]
    by_cases hne : items = []
    · subst hne
      show readFrom _ _ _ (scan (']' :: rest)) = _
      rw [scan_punctuation rfl rfl, readFrom_cons]
      rfl
    · exact readFrom_items ih hne (.inr rfl) (by omega) rest

/-- A nested value is read from its text, and what comes after it is left. -/
theorem read_compactChars {v : Json} (h : Nested depth v) (hrest : EndsValue rest) :
    read (.used depth) (scan (v.compactChars ++ rest)) = some (v, scan rest) :=
  h.readsBack .value [] rest (.inl rfl) (by simp) hrest

end Tabular.Json
