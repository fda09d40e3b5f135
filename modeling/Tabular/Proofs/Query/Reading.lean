/-
How tokens with balanced brackets are read, well-shaped or not: any number of terms may stand
side by side where one is meant, none included. Every balanced list of tokens has such a reading,
and conversion gives exactly its steps. The invariant is that reading some tokens writes all of
their steps but a last few operators, which wait on the stack in order.
-/
import Tabular.Proofs.Outcome
import Tabular.Proofs.Query.Expression

namespace Tabular.Token

variable {α : Type}

/-! ## Balanced brackets -/

/-- The number of open brackets after some tokens, if no bracket closes without a partner. -/
def depth? (depth : Nat) : List (Token α) → Option Nat
  | [] => some depth
  | .opening :: ts => depth? (depth + 1) ts
  | .closing :: ts => if depth = 0 then none else depth? (depth - 1) ts
  | _ :: ts => depth? depth ts

/-- Every bracket has a partner. -/
def Balanced (ts : List (Token α)) : Prop :=
  depth? 0 ts = some 0

theorem depth?_chunk_append (depth : Nat) (collected : List Char) (ts : List (Token String)) :
    depth? depth (chunk collected ++ ts) = depth? depth ts := by
  unfold chunk
  dsimp only
  split <;> rfl

theorem depth?_scan {quote previous : Option Char} {depth : Nat} {collected cs : List Char}
    {ts : List (Token String)} (h : scan quote previous depth collected cs = .ok ts) :
    depth? depth ts = some 0 := by
  fun_induction scan quote previous depth collected cs generalizing ts with
  | case1 _ _ collected =>
    cases h
    simpa [depth?] using depth?_chunk_append 0 collected []
  | case2 => cases h
  | case3 _ _ _ _ _ _ ih =>
    obtain ⟨us, hus, rfl⟩ := map_eq_ok_iff.1 h
    rw [depth?_chunk_append]
    exact ih hus
  | case4 => cases h
  | case5 _ _ _ _ _ _ hd ih =>
    obtain ⟨us, hus, rfl⟩ := map_eq_ok_iff.1 h
    rw [depth?_chunk_append]
    simpa [depth?, hd] using ih hus
  | case6 _ _ _ _ _ t hopen hclose _ ih =>
    obtain ⟨us, hus, rfl⟩ := map_eq_ok_iff.1 h
    rw [depth?_chunk_append]
    cases t with
    | opening => exact absurd rfl hopen
    | closing => exact absurd rfl hclose
    | operand | operator => simpa [depth?] using ih hus
  | case7 _ _ _ _ _ _ _ _ _ ih => exact ih h

/-- The tokens of a text are balanced. -/
theorem balanced_of_tokenize {source : String} {ts : List (Token String)}
    (h : tokenize source = .ok ts) : Balanced ts :=
  depth?_scan (mapError_eq_ok_iff.1 h)

/-! ## Readings -/

/-- The levels of a reading, from the tightest on: terms side by side, parts joined by an operator
other than union, and parts joined by union. -/
inductive Level where
  | run
  | conjunction
  | expression

/-- The operators that a level joins parts with. -/
def Level.Joins : Level → SetOperator → Prop
  | .run, _ => False
  | .conjunction, op => op ≠ .union
  | .expression, _ => True

/-- The steps that tokens stand for at a level. -/
inductive Reads : Level → List (Token α) → List (Step α) → Prop
  | nothing : Reads .run [] []
  | operand {ts : List (Token α)} {p : List (Step α)} (a : α) : Reads .run ts p →
      Reads .run (ts ++ [.operand a]) (p ++ [.operand a])
  | bracketed {ts us : List (Token α)} {p q : List (Step α)} : Reads .run ts p →
      Reads .expression us q → Reads .run (ts ++ .opening :: us ++ [.closing]) (p ++ q)
  | conjunction {ts : List (Token α)} {p : List (Step α)} : Reads .run ts p →
      Reads .conjunction ts p
  | tight {ts us : List (Token α)} {p q : List (Step α)} (op : SetOperator) :
      Reads .conjunction ts p → op ≠ .union → Reads .run us q →
      Reads .conjunction (ts ++ .operator op :: us) (p ++ q ++ [.operator op])
  | expression {ts : List (Token α)} {p : List (Step α)} : Reads .conjunction ts p →
      Reads .expression ts p
  | union {ts us : List (Token α)} {p q : List (Step α)} : Reads .expression ts p →
      Reads .conjunction us q →
      Reads .expression (ts ++ .operator .union :: us) (p ++ q ++ [.operator .union])

/-- Two expressions in brackets with an operator between them. -/
theorem Reads.join_bracketed {ts us : List (Token α)} {p q : List (Step α)} (op : SetOperator)
    (h : Reads .expression ts p) (h' : Reads .expression us q) :
    Reads .expression
      ((.opening :: ts ++ [.closing]) ++ .operator op :: (.opening :: us ++ [.closing]))
      (p ++ q ++ [.operator op]) := by
  have hleft : Reads .run (.opening :: ts ++ [.closing]) p := nothing.bracketed h
  have hright : Reads .run (.opening :: us ++ [.closing]) q := nothing.bracketed h'
  by_cases hop : op = .union
  · subst hop
    exact hleft.conjunction.expression.union hright.conjunction
  · exact (hleft.conjunction.tight op hop hright).expression

/-- What extends every run extends what is read at any level, for its last run. -/
theorem Reads.extend {level : Level} {ts vs : List (Token α)} {p : List (Step α)}
    (hv : ∀ us q, Reads .run us q → ∃ r, Reads .run (us ++ vs) r) (h : Reads level ts p) :
    ∃ q, Reads level (ts ++ vs) q := by
  induction h with
  | nothing => exact hv _ _ .nothing
  | operand a h _ => exact hv _ _ (.operand a h)
  | bracketed h h' _ _ => exact hv _ _ (.bracketed h h')
  | conjunction _ ih =>
    obtain ⟨q, hq⟩ := ih
    exact ⟨q, .conjunction hq⟩
  | tight op h hop _ _ ih =>
    obtain ⟨q, hq⟩ := ih
    exact ⟨_, by simpa using Reads.tight op h hop hq⟩
  | expression _ ih =>
    obtain ⟨q, hq⟩ := ih
    exact ⟨q, .expression hq⟩
  | union h _ _ ih =>
    obtain ⟨q, hq⟩ := ih
    exact ⟨_, by simpa using Reads.union h hq⟩

theorem Reads.extend_operand {level : Level} {ts : List (Token α)} {p : List (Step α)} (a : α)
    (h : Reads level ts p) : ∃ q, Reads level (ts ++ [.operand a]) q :=
  h.extend fun _ _ hu => ⟨_, hu.operand a⟩

theorem Reads.extend_bracketed {level : Level} {ts us : List (Token α)} {p q : List (Step α)}
    (h : Reads level ts p) (hu : Reads .expression us q) :
    ∃ r, Reads level (ts ++ .opening :: us ++ [.closing]) r := by
  have hv : ∀ vs r, Reads .run vs r → ∃ r', Reads .run (vs ++ (.opening :: us ++ [.closing])) r' := by
    intro vs r hr
    exact ⟨_, by simpa using hr.bracketed hu⟩
  rw [List.append_assoc]
  exact h.extend hv

theorem Reads.extend_operator {level : Level} {ts : List (Token α)} {p : List (Step α)}
    {op : SetOperator} (hop : level.Joins op) (h : Reads level ts p) :
    ∃ q, Reads level (ts ++ [.operator op]) q := by
  induction h with
  | nothing | operand | bracketed => exact hop.elim
  | conjunction h _ => exact ⟨_, .tight op (.conjunction h) hop .nothing⟩
  | tight op' h hop' h' _ _ => exact ⟨_, .tight op (.tight op' h hop' h') hop .nothing⟩
  | expression h ih =>
    cases op with
    | union => exact ⟨_, .union (.expression h) (.conjunction .nothing)⟩
    | intersection | difference =>
      obtain ⟨q, hq⟩ := ih SetOperator.noConfusion
      exact ⟨q, .expression hq⟩
  | union h h' _ ih =>
    cases op with
    | union => exact ⟨_, .union (.union h h') (.conjunction .nothing)⟩
    | intersection | difference =>
      obtain ⟨q, hq⟩ := ih SetOperator.noConfusion
      exact ⟨_, by simpa using Reads.union h hq⟩

/-- Tokens in which `depth` brackets are open: an expression before each of them and one after. -/
def Nested : Nat → List (Token α) → Prop
  | 0, ts => ∃ p, Reads .expression ts p
  | depth + 1, ts => ∃ us vs p, ts = us ++ .opening :: vs ∧ Nested depth us ∧
      Reads .expression vs p

theorem nested_append {depth : Nat} {ts vs : List (Token α)}
    (hv : ∀ us p, Reads .expression us p → ∃ q, Reads .expression (us ++ vs) q)
    (h : Nested depth ts) : Nested depth (ts ++ vs) := by
  cases depth with
  | zero =>
    obtain ⟨p, hp⟩ := h
    exact hv ts p hp
  | succ depth =>
    obtain ⟨us, ws, p, rfl, hus, hp⟩ := h
    obtain ⟨q, hq⟩ := hv ws p hp
    exact ⟨us, ws ++ vs, q, by simp, hus, hq⟩

theorem nested_of_depth? {e d : Nat} {us ts : List (Token α)} (hu : Nested e us)
    (h : depth? e ts = some d) : Nested d (us ++ ts) := by
  fun_induction depth? e ts generalizing us with
  | case1 => cases h; simpa using hu
  | case2 e ts ih =>
    have hopen : Nested (e + 1) (us ++ [.opening]) :=
      ⟨us, [], _, rfl, hu, .expression (.conjunction .nothing)⟩
    simpa using ih hopen h
  | case3 => cases h
  | case4 e ts he ih =>
    obtain ⟨e, rfl⟩ := Nat.exists_eq_succ_of_ne_zero he
    obtain ⟨vs, ws, p, rfl, hvs, hp⟩ := hu
    -- the innermost expression becomes a term of the one around it
    have hclose : Nested e (vs ++ (.opening :: ws ++ [.closing])) :=
      nested_append (fun _ _ h => by simpa using h.extend_bracketed hp) hvs
    simpa using ih hclose h
  | case5 e t ts hopen hclose ih =>
    have ht : ∀ us p, Reads .expression us p → ∃ q, Reads .expression (us ++ [t]) q := by
      intro us p hp
      cases t with
      | operand a => exact hp.extend_operand a
      | operator op => exact hp.extend_operator trivial
      | opening => exact absurd rfl hopen
      | closing => exact absurd rfl hclose
    simpa using ih (nested_append ht hu) h

/-- Balanced tokens have a reading. -/
theorem exists_reads {ts : List (Token α)} (h : Balanced ts) : ∃ p, Reads .expression ts p := by
  have hnil : Nested 0 ([] : List (Token α)) := ⟨[], .expression (.conjunction .nothing)⟩
  exact nested_of_depth? hnil h

/-! ## Conversion follows the reading -/

open Step (Waiting)

/-- An operator that yields to those on top releases them all and meets what is below. -/
theorem releaseFor_append {op : SetOperator} {waiting : List SetOperator} {stack : List Waiting}
    (hw : ∀ top ∈ waiting, op.yieldsTo top = true)
    (hs : Step.releaseFor (α := α) op stack = ([], stack)) :
    Step.releaseFor (α := α) op (waiting.map .operator ++ stack) =
      (waiting.map .operator, stack) := by
  induction waiting with
  | nil => exact hs
  | cons top waiting ih =>
    simp only [List.forall_mem_cons] at hw
    simp [Step.releaseFor, hw.1, ih hw.2]

theorem releaseBracket_append (waiting : List SetOperator) (stack : List Waiting) :
    Step.releaseBracket (α := α) (waiting.map .operator ++ .bracket :: stack) =
      (waiting.map .operator, stack) := by
  induction waiting with
  | nil => rfl
  | cons top waiting ih => simp [Step.releaseBracket, ih]

theorem releaseAll_map (waiting : List SetOperator) :
    Step.releaseAll (α := α) (waiting.map .operator) = waiting.map .operator := by
  induction waiting with
  | nil => rfl
  | cons top waiting ih => simp [Step.releaseAll, ih]

theorem convert_operator {op : SetOperator} {waiting : List SetOperator} {stack : List Waiting}
    (hw : ∀ top ∈ waiting, op.yieldsTo top = true)
    (hs : Step.releaseFor (α := α) op stack = ([], stack)) (rest : List (Token α)) :
    Step.convert (waiting.map .operator ++ stack) (.operator op :: rest) =
      waiting.map .operator ++ Step.convert (.operator op :: stack) rest := by
  rw [Step.convert, releaseFor_append hw hs]

/-- A level's tokens, on a stack from which the level's operators release nothing, write all of
their steps but some last operators of the level. Those wait on top of the stack. -/
theorem Reads.convert_append {level : Level} {ts : List (Token α)} {p : List (Step α)}
    (h : Reads level ts p) {stack : List Waiting}
    (hs : ∀ op, level.Joins op → Step.releaseFor (α := α) op stack = ([], stack)) :
    ∃ (q : List (Step α)) (waiting : List SetOperator), p = q ++ waiting.map .operator ∧
      (∀ op ∈ waiting, level.Joins op) ∧ ∀ rest,
        Step.convert stack (ts ++ rest) =
          q ++ Step.convert (waiting.map .operator ++ stack) rest := by
  induction h generalizing stack with
  | nothing => exact ⟨[], [], rfl, by simp, by simp⟩
  | operand a _ ih =>
    obtain ⟨q, waiting, rfl, hw, hc⟩ := ih hs
    -- no operator waits after a run
    obtain rfl := List.eq_nil_iff_forall_not_mem.2 hw
    exact ⟨q ++ [.operand a], [], by simp, by simp, fun rest => by simp [hc, Step.convert]⟩
  | bracketed _ _ ih ih' =>
    obtain ⟨q, waiting, rfl, hw, hc⟩ := ih hs
    obtain rfl := List.eq_nil_iff_forall_not_mem.2 hw
    obtain ⟨r, inner, rfl, _, hc'⟩ := @ih' (.bracket :: stack) fun _ _ => rfl
    refine ⟨q ++ r ++ inner.map .operator, [], by simp, by simp, fun rest => ?_⟩
    simp [hc, hc', Step.convert, releaseBracket_append]
  | conjunction _ ih =>
    obtain ⟨q, waiting, rfl, hw, hc⟩ := ih fun _ hop => hop.elim
    exact ⟨q, waiting, rfl, fun op hop => (hw op hop).elim, hc⟩
  | tight op _ hop _ ih ih' =>
    obtain ⟨q, waiting, rfl, hw, hc⟩ := ih hs
    obtain ⟨r, inner, rfl, hw', hc'⟩ := @ih' (.operator op :: stack) fun _ h => h.elim
    obtain rfl := List.eq_nil_iff_forall_not_mem.2 hw'
    -- what waits is no union, so the operator releases it and waits alone
    have hy : ∀ top ∈ waiting, op.yieldsTo top = true := fun top ht =>
      SetOperator.yieldsTo_of_ne_union hop (hw top ht)
    refine ⟨q ++ waiting.map .operator ++ r, [op], by simp, by simpa [Level.Joins] using hop,
      fun rest => ?_⟩
    simp [hc, hc', convert_operator hy (hs op hop)]
  | expression _ ih =>
    obtain ⟨q, waiting, rfl, _, hc⟩ := ih fun op _ => hs op trivial
    exact ⟨q, waiting, rfl, fun _ _ => trivial, hc⟩
  | union _ _ ih ih' =>
    obtain ⟨q, waiting, rfl, _, hc⟩ := ih hs
    -- a waiting union is released by no operator of the conjunction after it
    have hu : ∀ op, Level.conjunction.Joins op → Step.releaseFor (α := α) op
        (.operator .union :: stack) = ([], .operator .union :: stack) := by
      intro op hop
      rw [Step.releaseFor, SetOperator.not_yieldsTo_union hop, if_neg Bool.false_ne_true]
    obtain ⟨r, inner, rfl, _, hc'⟩ := ih' hu
    refine ⟨q ++ waiting.map .operator ++ r, inner ++ [.union], by simp, fun _ _ => trivial,
      fun rest => ?_⟩
    have hy : ∀ top ∈ waiting, SetOperator.union.yieldsTo top = true := fun top _ =>
      SetOperator.union_yieldsTo top
    simp [hc, hc', convert_operator hy (hs .union trivial)]

/-- Conversion gives the steps of a reading, so there is only one. -/
theorem Reads.ofTokens_eq {ts : List (Token α)} {p : List (Step α)} (h : Reads .expression ts p) :
    Step.ofTokens ts = p := by
  obtain ⟨q, waiting, rfl, _, hc⟩ := @convert_append _ _ _ _ h [] fun _ _ => rfl
  have hend := hc []
  simpa [Step.ofTokens, Step.convert, releaseAll_map] using hend

end Tabular.Token
