/-
Brackets outside quotes. Whether a text has tokens depends on its brackets alone, and only on those
that stand outside quotes: a closing bracket is unmatched when up to it more brackets close than
open, an opening one when that never happens and more brackets open than close in the end.
Compiling a query reports such a bracket before anything else.
-/
import Tabular.Proofs.Query.Composition

namespace Tabular.Token

/-! ## Outside quotes -/

/-- The characters of a text that stand outside quotes, from the open quote and the character before
the text. -/
def outside (quote previous : Option Char) : List Char → List Char
  | [] => []
  | c :: cs =>
    (if quote = none then [c] else []) ++ outside (quoteAfter quote previous c) (some c) cs

/-- The brackets and set operators of a text that stand outside quotes. -/
def marks (quote previous : Option Char) (cs : List Char) : List (Token String) :=
  (outside quote previous cs).filterMap structural?

section

variable {quote previous : Option Char} {c : Char}

theorem marks_cons_of_structural {t : Token String} (h : structural? c = some t)
    (previous : Option Char) (cs : List Char) :
    marks none previous (c :: cs) = t :: marks none (some c) cs := by
  unfold marks
  rw [outside, if_pos rfl, quoteAfter_of_structural h, List.singleton_append,
    List.filterMap_cons_some h]

/-- Everything else is passed over: quoted characters and those without a meaning of their own. -/
theorem marks_cons_of_ne (h : ∀ t : Token String, quote = none → structural? c ≠ some t)
    (previous : Option Char) (cs : List Char) :
    marks quote previous (c :: cs) = marks (quoteAfter quote previous c) (some c) cs := by
  unfold marks
  rw [outside]
  split
  · rename_i hquote
    have hnone : structural? (α := String) c = none :=
      Option.eq_none_iff_forall_ne_some.2 fun t => h t hquote
    rw [List.singleton_append, List.filterMap_cons_none hnone]
  · rfl

theorem structural?_eq_opening_iff {α : Type} :
    structural? (α := α) c = some .opening ↔ c = '(' := by
  unfold structural?
  by_cases hopening : c = '('
  · simp [hopening]
  · by_cases hclosing : c = ')' <;> simp [hopening, hclosing]

theorem structural?_eq_closing_iff {α : Type} :
    structural? (α := α) c = some .closing ↔ c = ')' := by
  unfold structural?
  by_cases hopening : c = '('
  · simp [hopening]
  · by_cases hclosing : c = ')' <;> simp [hopening, hclosing]

theorem count_marks (cs : List Char) :
    (marks quote previous cs).count .opening = (outside quote previous cs).count '(' ∧
      (marks quote previous cs).count .closing = (outside quote previous cs).count ')' := by
  unfold marks
  rw [List.count_filterMap, List.count_filterMap]
  constructor
  · refine List.countP_congr fun c _ => ?_
    rw [beq_iff_eq, beq_iff_eq, structural?_eq_opening_iff]
  · refine List.countP_congr fun c _ => ?_
    rw [beq_iff_eq, beq_iff_eq, structural?_eq_closing_iff]

theorem exists_prefix_cons_iff {β : Type} {P : List β → Prop} {b : β} {bs : List β} :
    (∃ us, us <+: b :: bs ∧ P us) ↔ P [] ∨ ∃ us, us <+: bs ∧ P (b :: us) := by
  simp only [List.prefix_cons_iff]
  constructor
  · rintro ⟨us, rfl | ⟨vs, rfl, hvs⟩, hP⟩
    · exact .inl hP
    · exact .inr ⟨vs, hvs, hP⟩
  · rintro (hP | ⟨vs, hvs, hP⟩)
    · exact ⟨[], .inl rfl, hP⟩
    · exact ⟨b :: vs, .inr ⟨vs, rfl, hvs⟩, hP⟩

theorem prefix_outside_iff {cs us : List Char} : us <+: outside quote previous cs ↔
    ∃ p, p <+: cs ∧ us = outside quote previous p := by
  induction cs generalizing quote previous us with
  | nil => simp [outside]
  | cons c cs ih =>
    rw [exists_prefix_cons_iff]
    simp only [outside]
    by_cases hquote : quote = none
    · simp only [if_pos hquote, List.singleton_append, List.prefix_cons_iff, ih]
      constructor
      · rintro (rfl | ⟨vs, rfl, p, hp, rfl⟩)
        · exact .inl rfl
        · exact .inr ⟨p, hp, rfl⟩
      · rintro (rfl | ⟨p, hp, rfl⟩)
        · exact .inl rfl
        · exact .inr ⟨_, rfl, p, hp, rfl⟩
    · simp only [if_neg hquote, List.nil_append, ih]
      constructor
      · rintro ⟨p, hp, rfl⟩
        exact .inr ⟨p, hp, rfl⟩
      · rintro (rfl | ⟨p, hp, rfl⟩)
        · exact ⟨[], List.nil_prefix, rfl⟩
        · exact ⟨p, hp, rfl⟩

/-- What stands outside quotes in the beginnings of a text are the beginnings of what does in the
whole. -/
theorem prefix_marks_iff {cs : List Char} {us : List (Token String)} :
    us <+: marks quote previous cs ↔ ∃ p, p <+: cs ∧ us = marks quote previous p := by
  unfold marks
  rw [List.prefix_filterMap_iff]
  constructor
  · rintro ⟨vs, hvs, rfl⟩
    obtain ⟨p, hp, rfl⟩ := prefix_outside_iff.1 hvs
    exact ⟨p, hp, rfl⟩
  · rintro ⟨p, hp, rfl⟩
    exact ⟨_, prefix_outside_iff.2 ⟨p, hp, rfl⟩, rfl⟩

end

/-! ## Depth and counts -/

section

variable {α : Type} [DecidableEq α] {depth d : Nat} {ts : List (Token α)}

/-- A bracket closes without a partner when more brackets close than are open and open before. -/
theorem depth?_eq_none_iff : depth? depth ts = none ↔
    ∃ us, us <+: ts ∧ depth + us.count .opening < us.count .closing := by
  induction ts generalizing depth with
  | nil => simp [depth?]
  | cons t ts ih =>
    rw [exists_prefix_cons_iff]
    cases t with
    | opening =>
      have hcons : ∀ us : List (Token α), depth + (Token.opening :: us).count .opening <
          (Token.opening :: us).count .closing ↔
            depth + 1 + us.count .opening < us.count .closing := by
        intro us
        simp
        omega
      simp only [depth?, ih, hcons, List.count_nil, Nat.not_lt_zero, false_or]
    | closing =>
      have hcons : ∀ us : List (Token α), depth + (Token.closing :: us).count .opening <
          (Token.closing :: us).count .closing ↔
            depth + us.count .opening < us.count .closing + 1 := by
        intro us
        simp
      simp only [depth?, hcons]
      split
      · -- no bracket is open, so this one is too many
        rename_i hdepth
        subst hdepth
        exact iff_of_true rfl (.inr ⟨[], List.nil_prefix, Nat.zero_lt_one⟩)
      · simp only [ih, List.count_nil, Nat.not_lt_zero, false_or]
        refine exists_congr fun us => and_congr_right fun _ => ?_
        omega
    | operand | operator => simp [depth?, ih]

/-- The brackets left open are those that open without those that close. -/
theorem depth?_eq_some (h : depth? depth ts = some d) :
    depth + ts.count .opening = d + ts.count .closing := by
  induction ts generalizing depth with
  | nil =>
    cases h
    rfl
  | cons t ts ih =>
    cases t with
    | opening =>
      have hts := ih h
      simp
      omega
    | closing =>
      simp only [depth?] at h
      split at h
      · cases h
      · have hts := ih h
        simp
        omega
    | operand | operator =>
      have hts := ih h
      simpa using hts

/-- Every bracket that closes has a partner when up to no place more brackets close than are open
and open before. -/
theorem depth?_eq_some_iff : depth? depth ts = some d ↔
    (∀ us, us <+: ts → us.count .closing ≤ depth + us.count .opening) ∧
      depth + ts.count .opening = d + ts.count .closing := by
  constructor
  · intro h
    refine ⟨fun us hus => ?_, depth?_eq_some h⟩
    by_contra hlt
    rw [depth?_eq_none_iff.2 ⟨us, hus, Nat.lt_of_not_le hlt⟩] at h
    cases h
  · rintro ⟨hle, hd⟩
    rcases h : depth? depth ts with _ | e
    · obtain ⟨us, hus, hlt⟩ := depth?_eq_none_iff.1 h
      exact absurd (hle us hus) (Nat.not_le_of_lt hlt)
    · have he := depth?_eq_some h
      rw [Option.some.injEq]
      omega

end

/-! ## What scanning answers -/

/-- The answer that belongs to the number of brackets left open. -/
def verdict : Option Nat → Except Bracket Unit
  | none => .error .closing
  | some 0 => .ok ()
  | some (_ + 1) => .error .opening

/-- Whether a text has tokens depends on its brackets outside quotes alone. -/
theorem scan_verdict (quote previous : Option Char) (depth : Nat) (collected cs : List Char) :
    (scan quote previous depth collected cs).map (fun _ => ()) =
      verdict (depth? depth (marks quote previous cs)) := by
  have hmap : ∀ (x : Except Bracket (List (Token String))) (f : List (Token String) → _),
      (x.map f).map (fun _ : List (Token String) => ()) = x.map fun _ => () := by
    intro x f
    cases x <;> rfl
  fun_induction scan quote previous depth collected cs with
  | case1 => rfl
  | case2 _ _ depth _ hdepth =>
    obtain ⟨d, rfl⟩ := Nat.exists_eq_succ_of_ne_zero hdepth
    rfl
  | case3 _ _ _ _ _ hc ih =>
    rw [hmap, ih, marks_cons_of_structural hc]
    rfl
  | case4 _ _ _ _ hc =>
    rw [marks_cons_of_structural hc]
    rfl
  | case5 _ _ _ _ _ hc hdepth ih =>
    rw [hmap, ih, marks_cons_of_structural hc, depth?, if_neg hdepth]
  | case6 _ _ _ _ _ t hopening hclosing hc ih =>
    rw [hmap, ih, marks_cons_of_structural hc]
    cases t with
    | opening => exact absurd rfl hopening
    | closing => exact absurd rfl hclosing
    | operand | operator => rfl
  | case7 _ _ _ _ _ quote hopening hclosing hc ih =>
    rw [ih, marks_cons_of_ne hc]

/-! ## Unmatched brackets -/

/-- The number of brackets outside quotes that open in a text. -/
def openings (cs : List Char) : Nat :=
  (outside none none cs).count '('

/-- The number of brackets outside quotes that close in a text. -/
def closings (cs : List Char) : Nat :=
  (outside none none cs).count ')'

theorem depth?_marks_eq_none_iff {cs : List Char} :
    depth? 0 (marks none none cs) = none ↔ ∃ p, p <+: cs ∧ openings p < closings p := by
  rw [depth?_eq_none_iff]
  simp only [prefix_marks_iff, Nat.zero_add]
  constructor
  · rintro ⟨us, ⟨p, hp, rfl⟩, hlt⟩
    rw [(count_marks p).1, (count_marks p).2] at hlt
    exact ⟨p, hp, hlt⟩
  · rintro ⟨p, hp, hlt⟩
    refine ⟨_, ⟨p, hp, rfl⟩, ?_⟩
    rwa [(count_marks p).1, (count_marks p).2]

theorem depth?_marks_eq_some_iff {cs : List Char} {d : Nat} :
    depth? 0 (marks none none cs) = some d ↔
      (∀ p, p <+: cs → closings p ≤ openings p) ∧ openings cs = d + closings cs := by
  have hcount : ∀ p : List Char, (marks none none p).count .opening = openings p ∧
      (marks none none p).count .closing = closings p := count_marks
  simp only [depth?_eq_some_iff, prefix_marks_iff, hcount, Nat.zero_add]
  refine and_congr_left fun _ => ⟨fun hle p hp => ?_, ?_⟩
  · have hp := hle (marks none none p) ⟨p, hp, rfl⟩
    rwa [(hcount p).1, (hcount p).2] at hp
  · rintro hle us ⟨p, hp, rfl⟩
    rw [(hcount p).1, (hcount p).2]
    exact hle p hp

/-- The answer for a query, in the number of brackets that its text leaves open. -/
theorem tokenize_verdict (s : String) : (tokenize s).map (fun _ => ()) =
    (verdict (depth? 0 (marks none none (Text.trim s.toList)))).mapError .unmatchedBracket := by
  rw [← scan_verdict none none 0 [], tokenize]
  cases scan none none 0 [] (Text.trim s.toList) <;> rfl

theorem tokenize_eq_closing_iff {s : String} : tokenize s = .error (.unmatchedBracket .closing) ↔
    depth? 0 (marks none none (Text.trim s.toList)) = none := by
  rw [← map_eq_error_iff, tokenize_verdict]
  rcases depth? 0 (marks none none (Text.trim s.toList)) with _ | _ | d <;>
    simp [verdict, Except.mapError]

theorem tokenize_eq_opening_iff {s : String} : tokenize s = .error (.unmatchedBracket .opening) ↔
    ∃ d, depth? 0 (marks none none (Text.trim s.toList)) = some (d + 1) := by
  rw [← map_eq_error_iff, tokenize_verdict]
  rcases depth? 0 (marks none none (Text.trim s.toList)) with _ | _ | d <;>
    simp [verdict, Except.mapError]

theorem exists_tokenize_iff {s : String} : (∃ ts, tokenize s = .ok ts) ↔
    depth? 0 (marks none none (Text.trim s.toList)) = some 0 := by
  have hmap : (∃ ts, tokenize s = .ok ts) ↔ (tokenize s).map (fun _ => ()) = .ok () := by
    rw [map_eq_ok_iff]
    simp
  rw [hmap, tokenize_verdict]
  rcases depth? 0 (marks none none (Text.trim s.toList)) with _ | _ | d <;>
    simp [verdict, Except.mapError]

end Token

theorem Selector.parse_ne_unmatchedBracket (chunk : String) (side : Bracket) :
    parse chunk ≠ .error (.unmatchedBracket side) := by
  unfold parse
  dsimp only
  split
  · simp
  · split <;> simp

/-- Compiling reports an unmatched bracket exactly when there is one, whatever else is wrong. -/
theorem Query.parseWith_eq_unmatchedBracket_iff {limit : Option Nat} {s : String} {side : Bracket} :
    parseWith limit s = .error (.unmatchedBracket side) ↔
      Token.tokenize s = .error (.unmatchedBracket side) := by
  constructor
  · intro h
    rcases bind_eq_error_iff.1 h with h | ⟨ts, _, h⟩
    · exact h
    rcases bind_eq_error_iff.1 h with h | ⟨_, _, h⟩
    · unfold checkLimit at h
      split at h
      · split at h <;> cases h
      · cases h
    rcases bind_eq_error_iff.1 h with h | ⟨us, _, h⟩
    · obtain ⟨chunk, hchunk⟩ := Token.exists_of_traverse_eq_error h
      exact absurd hchunk (Selector.parse_ne_unmatchedBracket chunk side)
    rcases bind_eq_error_iff.1 h with h | ⟨_, _, h⟩
    · obtain ⟨_, _, hshape⟩ := mapError_eq_error_iff.1 h
      cases hshape
    · cases h
  · intro h
    rw [parseWith, h]
    rfl

/-- A closing bracket is unmatched exactly when up to some place more brackets close than open, an
opening one when there is no such place but more brackets open than close in the end, and every
other text has tokens. -/
theorem Token.tokenize_brackets (s : String) :
    (tokenize s = .error (.unmatchedBracket .closing) ↔
      ∃ p, p <+: Text.trim s.toList ∧ openings p < closings p) ∧
    (tokenize s = .error (.unmatchedBracket .opening) ↔
      (∀ p, p <+: Text.trim s.toList → closings p ≤ openings p) ∧
        closings (Text.trim s.toList) < openings (Text.trim s.toList)) ∧
    ((∃ ts, tokenize s = .ok ts) ↔
      (∀ p, p <+: Text.trim s.toList → closings p ≤ openings p) ∧
        closings (Text.trim s.toList) = openings (Text.trim s.toList)) ∧
    ∀ limit side, Query.parseWith limit s = .error (.unmatchedBracket side) ↔
      tokenize s = .error (.unmatchedBracket side) := by
  refine ⟨?_, ?_, ?_, fun _ _ => Query.parseWith_eq_unmatchedBracket_iff⟩
  · rw [tokenize_eq_closing_iff, depth?_marks_eq_none_iff]
  · simp only [tokenize_eq_opening_iff, depth?_marks_eq_some_iff, exists_and_left]
    refine and_congr_right fun _ => ⟨?_, fun hlt => ?_⟩
    · rintro ⟨d, hd⟩
      omega
    · exact ⟨openings (Text.trim s.toList) - closings (Text.trim s.toList) - 1, by omega⟩
  · rw [exists_tokenize_iff, depth?_marks_eq_some_iff, Nat.zero_add, eq_comm]

end Tabular
