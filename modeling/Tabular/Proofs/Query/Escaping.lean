/-
Escaped text: a character that would end a value is written after a backslash. Unquoted values end
at a pipe and quoted ones at their quote; apart from that both are read the same way, a character or
an escaped mark at a time, until the limit is used up. So what is read of an escaped text is its
beginning without the backslashes before marks, whatever follows.
-/
import Mathlib.Data.List.Basic
import Mathlib.Data.List.Induction
import Tabular.Query.Selector

namespace Tabular.Selector

/-! ## Escaping a mark -/

/-- Puts a backslash before every mark. -/
def escape (mark : Char) (cs : List Char) : List Char :=
  cs.flatMap fun c => if c = mark then ['\\', mark] else [c]

/-- Takes the backslash away before every mark. -/
def unescape (mark : Char) : List Char → List Char
  | '\\' :: c :: cs =>
    if c = mark then c :: unescape mark cs else '\\' :: unescape mark (c :: cs)
  | c :: cs => c :: unescape mark cs
  | [] => []

/-- Every mark follows a backslash. -/
def Escaped (mark : Char) (cs : List Char) : Prop :=
  ∀ before after, cs = before ++ mark :: after → before.getLast? = some '\\'

/-- Characters that are no marks, and marks after a backslash, one by one. -/
inductive Paired (mark : Char) : List Char → Prop
  | nil : Paired mark []
  | single {c : Char} {cs : List Char} : c ≠ mark → (c = '\\' → cs.head? ≠ some mark) →
      Paired mark cs → Paired mark (c :: cs)
  | pair {cs : List Char} : Paired mark cs → Paired mark ('\\' :: mark :: cs)

variable {mark : Char} {cs rest : List Char}

theorem escaped_of_not_mem (h : mark ∉ cs) : Escaped mark cs := by
  rintro before after rfl
  exact absurd (List.mem_append_right _ List.mem_cons_self) h

theorem Escaped.of_append (ds : List Char) (h : Escaped mark (ds ++ cs))
    (hcs : cs.head? ≠ some mark) : Escaped mark cs := by
  rintro before after rfl
  have hne : before ≠ [] := by
    rintro rfl
    exact hcs rfl
  have hlast := h (ds ++ before) after (List.append_assoc ..).symm
  rwa [List.getLast?_append_of_ne_nil _ hne] at hlast

theorem Escaped.of_isPrefix {ds : List Char} (h : Escaped mark cs) (hds : ds <+: cs) :
    Escaped mark ds := by
  obtain ⟨es, rfl⟩ := hds
  rintro before after rfl
  exact h before (after ++ es) (List.append_assoc ..)

theorem Escaped.paired (hmark : mark ≠ '\\') (h : Escaped mark cs) : Paired mark cs := by
  have hfirst : ∀ {c cs}, Escaped mark (c :: cs) → c ≠ mark := by
    rintro c cs h rfl
    cases h [] cs rfl
  induction cs using List.twoStepInduction with
  | nil => exact .nil
  | singleton c => exact .single (hfirst h) (fun _ => nofun) .nil
  | cons_cons c d cs ih ih' =>
    by_cases hd : d = mark
    · subst hd
      obtain rfl : c = '\\' := Option.some.inj (h [c] cs rfl)
      -- the mark is no backslash, so it is followed by no other
      have hcs : cs.head? ≠ some d := by
        intro hcs
        obtain ⟨after, rfl⟩ := List.head?_eq_some_iff.1 hcs
        exact hmark (Option.some.inj (h ['\\', d] after rfl))
      exact .pair (ih (.of_append ['\\', d] h hcs))
    · have hne : (d :: cs).head? ≠ some mark := fun h => hd (Option.some.inj h)
      exact .single (hfirst h) (fun _ => hne) (ih' d (.of_append [c] h hne))

theorem unescape_single {c : Char} (h : c = '\\' → cs.head? ≠ some mark) :
    unescape mark (c :: cs) = c :: unescape mark cs := by
  by_cases hc : c = '\\'
  · subst hc
    cases cs with
    | nil => rfl
    | cons d cs => exact if_neg fun hd => h rfl (congrArg some hd)
  · rw [unescape.eq_2]
    exact fun _ _ hslash => absurd hslash hc

theorem unescape_pair (cs : List Char) :
    unescape mark ('\\' :: mark :: cs) = mark :: unescape mark cs :=
  if_pos rfl

theorem unescape_of_not_mem (h : mark ∉ cs) : unescape mark cs = cs := by
  induction cs with
  | nil => rfl
  | cons c cs ih =>
    have hcs : mark ∉ cs := fun hmem => h (List.mem_cons_of_mem _ hmem)
    rw [unescape_single fun _ hhead => hcs (List.mem_of_head? hhead), ih hcs]

theorem escape_cons (c : Char) (cs : List Char) :
    escape mark (c :: cs) = (if c = mark then ['\\', mark] else [c]) ++ escape mark cs :=
  List.flatMap_cons

/-- An escaped text starts with a backslash, or as the text does. -/
theorem of_mem_head?_escape {d : Char} (h : d ∈ (escape mark cs).head?) :
    d = '\\' ∨ d ≠ mark ∧ d ∈ cs.head? := by
  cases cs with
  | nil => cases h
  | cons c cs =>
    rw [escape_cons] at h
    split at h
    · exact .inl (Option.some.inj h).symm
    · rename_i hc
      obtain rfl : c = d := Option.some.inj h
      exact .inr ⟨hc, rfl⟩

theorem head?_escape (hmark : mark ≠ '\\') (cs : List Char) :
    (escape mark cs).head? ≠ some mark := by
  intro h
  rcases of_mem_head?_escape h with hslash | ⟨hne, _⟩
  · exact hmark hslash
  · exact hne rfl

theorem getLast?_escape (cs : List Char) : (escape mark cs).getLast? = cs.getLast? := by
  rcases List.eq_nil_or_concat cs with rfl | ⟨cs, c, rfl⟩
  · rfl
  · rw [escape, List.concat_eq_append, List.flatMap_append, List.flatMap_singleton,
      List.getLast?_concat]
    split
    · rename_i hc
      rw [List.getLast?_append_cons, hc]
      rfl
    · exact List.getLast?_concat ..

theorem paired_escape (hmark : mark ≠ '\\') (cs : List Char) : Paired mark (escape mark cs) := by
  induction cs with
  | nil => exact .nil
  | cons c cs ih =>
    rw [escape_cons]
    split
    · exact ih.pair
    · rename_i hc
      exact .single hc (fun _ => head?_escape hmark cs) ih

theorem unescape_escape (hmark : mark ≠ '\\') (cs : List Char) :
    unescape mark (escape mark cs) = cs := by
  induction cs with
  | nil => rfl
  | cons c cs ih =>
    rw [escape_cons]
    split
    · rename_i hc
      subst hc
      exact (unescape_pair _).trans (congrArg _ ih)
    · exact (unescape_single fun _ => head?_escape hmark cs).trans (congrArg _ ih)

/-! ## Reading escaped text -/

/-- A reader that goes on over single characters and escaped marks, each character taken from the
limit. A limit that is used up between a backslash and a mark leaves the mark. -/
structure ReadsEscaped (mark : Char) (read : Nat → List Char → List Char × List Char) : Prop where
  stop : ∀ cs, read 0 cs = ([], cs)
  single : ∀ n c cs, c ≠ mark → (c = '\\' → cs.head? ≠ some mark) →
    read (n + 1) (c :: cs) = (c :: (read n cs).1, (read n cs).2)
  pair : ∀ n cs, read (n + 2) ('\\' :: mark :: cs) = (mark :: (read n cs).1, (read n cs).2)
  cut : ∀ cs, read 1 ('\\' :: mark :: cs) = (['\\'], mark :: cs)

theorem reads_bareValue : ReadsEscaped '|' bareValue where
  stop cs := by cases cs <;> rfl
  single n c cs hc hslash := by
    rw [bareValue.eq_2, if_neg hc]
    rintro limit _ _ rfl rfl
    exact hslash rfl rfl
  pair n cs := rfl
  cut cs := rfl

theorem reads_quotedValue {quote : Char} (hquote : quote ≠ '\\') :
    ReadsEscaped quote (quotedValue quote) where
  stop cs := by cases cs <;> rfl
  single n c cs hc hslash := by
    by_cases hlone : ∃ m d ds, n = m + 1 ∧ c = '\\' ∧ cs = d :: ds
    · obtain ⟨m, d, ds, rfl, rfl, rfl⟩ := hlone
      rw [quotedValue.eq_1, if_neg fun hd => hslash rfl (congrArg some hd)]
    · rw [quotedValue.eq_2 _ _ _ _ fun m d ds hn hb hcs => hlone ⟨m, d, ds, hn, hb, hcs⟩, if_neg hc]
  pair n cs := by rw [quotedValue.eq_1, if_pos rfl]
  cut cs := by
    rw [quotedValue.eq_2 _ _ _ _ fun _ _ _ h => absurd h (Nat.zero_ne_add_one _),
      if_neg hquote.symm]
    rfl

/-- What is read of an escaped text is its beginning, and then what follows is read. -/
theorem ReadsEscaped.append {read : Nat → List Char → List Char × List Char}
    (h : ReadsEscaped mark read) (hcs : Paired mark cs)
    (hlast : cs.getLast? = some '\\' → rest.head? ≠ some mark) (limit : Nat) :
    read limit (cs ++ rest) =
      (unescape mark (cs.take limit) ++ (read (limit - cs.length) rest).1,
        cs.drop limit ++ (read (limit - cs.length) rest).2) := by
  induction hcs generalizing limit with
  | nil => simp [unescape]
  | @single c cs hc hslash _ ih =>
    have htail : cs.getLast? = some '\\' → rest.head? ≠ some mark := fun hl =>
      hlast (by rw [List.getLast?_cons, hl]; rfl)
    rcases limit with _ | n
    · simp [h.stop, unescape]
    · -- a single backslash meets no mark, neither in what follows nor where the limit cuts
      have hnext : c = '\\' → (cs ++ rest).head? ≠ some mark := by
        rintro rfl
        rcases cs with _ | ⟨d, cs⟩
        · exact hlast rfl
        · exact hslash rfl
      have htake : c = '\\' → (cs.take n).head? ≠ some mark := by
        rw [List.head?_take]
        split
        · exact fun _ => nofun
        · exact hslash
      rw [List.cons_append, h.single n c _ hc hnext, ih htail n, List.take_succ_cons,
        unescape_single htake, List.length_cons, Nat.add_sub_add_right]
      rfl
  | @pair cs _ ih =>
    have htail : cs.getLast? = some '\\' → rest.head? ≠ some mark := fun hl =>
      hlast (by rw [List.getLast?_cons, List.getLast?_cons, hl]; rfl)
    rcases limit with _ | _ | n
    · simp [h.stop, unescape]
    · simp [h.cut, h.stop, unescape]
    · rw [List.cons_append, List.cons_append, h.pair n, ih htail n, List.take_succ_cons,
        List.take_succ_cons, unescape_pair, List.length_cons, List.length_cons,
        Nat.add_sub_add_right, Nat.add_sub_add_right]
      rfl

/-- Between quotes, the limit may be used up before the closing quote. -/
theorem quotedValue_closed {quote : Char} (hquote : quote ≠ '\\') (hcs : Paired quote cs)
    (hlast : cs.getLast? ≠ some '\\') (limit : Nat) : quotedValue quote limit (cs ++ quote :: rest) =
      (unescape quote (cs.take limit),
        if cs.length < limit then rest else cs.drop limit ++ quote :: rest) := by
  rw [(reads_quotedValue hquote).append hcs fun h => absurd h hlast]
  split
  · rename_i hlen
    obtain ⟨room, hroom⟩ := Nat.exists_eq_add_of_lt hlen
    have hend : quotedValue quote (limit - cs.length) (quote :: rest) = ([], rest) := by
      rw [hroom, Nat.add_assoc, Nat.add_sub_cancel_left,
        quotedValue.eq_2 _ _ _ _ fun _ _ _ _ hc => absurd hc hquote, if_pos rfl]
    rw [hend, List.drop_of_length_le (Nat.le_of_lt hlen), List.append_nil, List.nil_append]
  · rename_i hlen
    rw [Nat.sub_eq_zero_of_le (Nat.not_lt.1 hlen), (reads_quotedValue hquote).stop, List.append_nil]

end Tabular.Selector
