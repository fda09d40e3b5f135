/-
Reading a selector in place, by the bytes of its text. Each part is found by going over characters
with the bytes at which they start, and then cut out of the text. Every cut falls between two
characters, and what is cut out is what the reader of that part takes.
-/
import Tabular.Proofs.Query.Unquoted
import Tabular.Proofs.Text.Bytes

namespace Tabular.Selector

open Text

variable {cs body rest : List Char}

/-! ## Blanks -/

/-- The bytes of the blanks at the start of a text. -/
def blankBytes (cs : List Char) : Nat :=
  byteLength cs - byteLength (trimStart cs)

theorem exists_blanks (cs : List Char) : ∃ blanks, cs = blanks ++ trimStart cs ∧
    blankBytes cs = byteLength blanks := by
  have happ : cs.takeWhile isBlank ++ trimStart cs = cs := List.takeWhile_append_dropWhile
  have hlength := congrArg byteLength happ
  rw [byteLength_append] at hlength
  exact ⟨_, happ.symm, by rw [blankBytes]; omega⟩

/-! ## Quoted names -/

/-- The byte of the quote that closes a name: the first one that is not the first character and does
not follow a backslash. -/
def closingQuote? (previous : Option Char) : List (Nat × Char) → Option Nat
  | [] => none
  | (i, c) :: chars =>
    if c = '"' ∧ 0 < i ∧ previous ≠ some '\\' then some i else closingQuote? (some c) chars

/-- The quoted name at the start of a text, if there is one, and the bytes that it takes with its
quotes. -/
def cutQuotedName? (cs : List Char) : Option (Option (List Char × Nat)) :=
  match cs with
  | '"' :: body =>
    match closingQuote? none (charsFrom 0 body) with
    | some i => (cutAt? i body).map fun (name, _) => some (name, 1 + i + 1)
    | none => some none
  | _ => some none

theorem eq_of_splitAtQuote {previous : Char} (h : splitAtQuote previous cs = some (body, rest)) :
    cs = body ++ '"' :: rest := by
  induction cs generalizing previous body with
  | nil => cases h
  | cons c cs ih =>
    rw [splitAtQuote] at h
    split at h
    · rename_i hc
      cases h
      rw [hc.1]
      rfl
    · obtain ⟨⟨b, r⟩, hsplit, heq⟩ := Option.map_eq_some_iff.1 h
      cases heq
      exact congrArg (c :: ·) (ih hsplit)

theorem eq_of_quotedName? (h : quotedName? cs = some (body, rest)) :
    cs = '"' :: (body ++ '"' :: rest) ∧ body ≠ [] := by
  unfold quotedName? at h
  split at h
  · obtain ⟨⟨b, r⟩, hsplit, heq⟩ := Option.map_eq_some_iff.1 h
    cases heq
    exact ⟨by rw [eq_of_splitAtQuote hsplit]; rfl, List.cons_ne_nil _ _⟩
  · cases h

theorem closingQuote?_charsFrom {start : Nat} (hstart : 0 < start) (previous : Char)
    (cs : List Char) : closingQuote? (some previous) (charsFrom start cs) =
      (splitAtQuote previous cs).map fun parts => start + byteLength parts.1 := by
  induction cs generalizing previous start with
  | nil => rfl
  | cons c cs ih =>
    rw [charsFrom, closingQuote?, splitAtQuote]
    by_cases hc : c = '"' ∧ previous ≠ '\\'
    · rw [if_pos ⟨hc.1, hstart, fun h => hc.2 (Option.some.inj h)⟩, if_pos hc]
      rfl
    · rw [if_neg fun h => hc ⟨h.1, fun hp => h.2.2 (congrArg some hp)⟩, if_neg hc,
        ih (Nat.add_pos_left hstart _), Option.map_map]
      refine congrArg (Option.map · _) (funext fun parts => ?_)
      exact Nat.add_assoc ..

theorem cutQuotedName?_eq (cs : List Char) : cutQuotedName? cs =
    some ((quotedName? cs).map fun (body, _) => (body, byteLength body + 2)) := by
  unfold cutQuotedName?
  split
  · rename_i body
    cases body with
    | nil => rfl
    | cons c body =>
      -- the first character closes nothing, and from the second on there is one before
      have hfirst : closingQuote? none (charsFrom 0 (c :: body)) =
          closingQuote? (some c) (charsFrom (0 + c.utf8Size) body) :=
        if_neg fun h => Nat.lt_irrefl 0 h.2.1
      rw [hfirst, closingQuote?_charsFrom (Nat.add_pos_right 0 c.utf8Size_pos), quotedName?]
      cases hsplit : splitAtQuote c body with
      | none => rfl
      | some parts =>
        obtain ⟨b, r⟩ := parts
        have hcut : cutAt? (0 + c.utf8Size + byteLength b) (c :: body) =
            some (c :: b, '"' :: r) := by
          refine cutAt?_eq_some_iff.2 ⟨by rw [eq_of_splitAtQuote hsplit]; rfl, ?_⟩
          rw [byteLength_cons, Nat.zero_add]
        simp only [Option.map_some, hcut, byteLength_cons]
        congr 3
        omega
  · rename_i hquote
    rw [quotedName?.eq_2 _ fun c body => hquote (c :: body)]
    rfl

/-! ## Runs of names -/

/-- The run of names at the start of a text, and the bytes that it takes. -/
def cutNameRun? (cs : List Char) : Option (List Char × Nat) := do
  let start := if cs.head? = some '!' then 1 else 0
  let (_, tail) ← cutAt? start cs
  let length := ((charsFrom 0 tail).find? (!isFieldChar ·.2)).elim (byteLength cs - start) (·.1)
  if length = 0 then pure ([], 0)
  else
    let (run, _) ← cutAt? (start + length) cs
    pure (run, start + length)

/-- A text with the exclamation mark that may start a run of names set apart. -/
def Opened (opening tail : List Char) : Prop :=
  opening = ['!'] ∨ opening = [] ∧ tail.head? ≠ some '!'

theorem exists_opened (cs : List Char) :
    ∃ opening tail, Opened opening tail ∧ cs = opening ++ tail := by
  by_cases hmark : cs.head? = some '!'
  · obtain ⟨tail, rfl⟩ := List.head?_eq_some_iff.1 hmark
    exact ⟨['!'], tail, .inl rfl, rfl⟩
  · exact ⟨[], cs, .inr ⟨rfl, hmark⟩, rfl⟩

theorem Opened.byteLength_eq {opening tail : List Char} (h : Opened opening tail) :
    (if (opening ++ tail).head? = some '!' then 1 else 0) = byteLength opening := by
  rcases h with rfl | ⟨rfl, hmark⟩
  · rfl
  · exact if_neg hmark

theorem Opened.nameRun_eq {opening tail : List Char} (h : Opened opening tail) :
    (nameRun (opening ++ tail)).1 =
      if tail.takeWhile isFieldChar = [] then [] else opening ++ tail.takeWhile isFieldChar := by
  rcases h with rfl | ⟨rfl, hmark⟩
  · rw [List.singleton_append, nameRun]
    split <;> simp_all
  · rw [List.nil_append, nameRun.eq_2 _ fun ds hds => hmark (congrArg List.head? hds)]
    split <;> simp_all

theorem cutNameRun?_eq (cs : List Char) :
    cutNameRun? cs = some ((nameRun cs).1, byteLength (nameRun cs).1) := by
  obtain ⟨opening, tail, hopened, rfl⟩ := exists_opened cs
  have hlength : ((charsFrom 0 tail).find? (!isFieldChar ·.2)).elim
      (byteLength (opening ++ tail) - byteLength opening) (·.1) =
        byteLength (tail.takeWhile isFieldChar) := by
    rw [byteLength_append, Nat.add_sub_cancel_left]
    simpa using find?_charsFrom isFieldChar 0 tail
  have hcut := cutAt?_append (opening ++ tail.takeWhile isFieldChar) (tail.dropWhile isFieldChar)
  rw [List.append_assoc, List.takeWhile_append_dropWhile, byteLength_append] at hcut
  simp only [cutNameRun?, hopened.byteLength_eq, hopened.nameRun_eq, cutAt?_append,
    Option.bind_eq_bind, Option.bind_some, hlength, byteLength_eq_zero_iff, hcut]
  split
  · rfl
  · rw [byteLength_append]
    rfl

theorem quote_not_mem_nameRun (cs : List Char) : '"' ∉ (nameRun cs).1 := by
  have hfield : ∀ tail : List Char, '"' ∉ tail.takeWhile isFieldChar := fun tail h =>
    absurd (List.mem_takeWhile_imp h) (by decide)
  obtain ⟨opening, tail, hopened, rfl⟩ := exists_opened cs
  rw [hopened.nameRun_eq]
  split
  · exact List.not_mem_nil
  · rw [List.mem_append]
    rintro (h | h)
    · rcases hopened with rfl | ⟨rfl, _⟩
      · cases List.mem_singleton.1 h
      · cases h
    · exact hfield tail h

/-! ## Operators -/

/-- The bytes of the characters at the start of a text that can belong to a symbol. -/
def operatorBytes (cs : List Char) : Nat :=
  endOf 0 (((charsFrom 0 cs).take Operator.maxSymbolLength).takeWhile (Operator.isSymbolChar ·.2))

theorem operatorBytes_eq (cs : List Char) : operatorBytes cs = byteLength (operatorRun cs) := by
  rw [operatorBytes, take_charsFrom, takeWhile_charsFrom, endOf_charsFrom, Nat.zero_add]
  rfl

theorem operatorRun_isPrefix (cs : List Char) : operatorRun cs <+: cs :=
  (List.takeWhile_prefix _).trans (List.take_prefix _ _)

/-! ## Values -/

/-- Goes over the characters of a value until it ends: the value so far and the bytes that it takes.
A mark ends it unless the last character is a backslash, which the mark then replaces. -/
def scanValue (quote : Option Char) :
    List (Nat × Char) → Nat → Option Char → List Char → Nat → List Char × Nat
  | [], _, _, value, consumed => (value, consumed)
  | (i, c) :: chars, taken, last, value, consumed =>
    if taken < maxValueLength then
      if c = quote.getD '|' then
        if last = some '\\' then
          scanValue quote chars (taken + 1) (some c) (value.dropLast ++ [c]) (i + c.utf8Size)
        else (value, if quote.isSome then i + c.utf8Size else consumed)
      else scanValue quote chars (taken + 1) (some c) (value ++ [c]) (i + c.utf8Size)
    else (value, consumed)

/-- The quote that opens a value, if one does. -/
def openingQuote? (cs : List Char) : Option Char :=
  cs.head?.filter fun c => c == '"' || c == '\''

/-- The value at the start of a text, and the bytes that it takes with its quotes. -/
def valueAt (cs : List Char) : List Char × Nat :=
  let quote := openingQuote? cs
  let opening := if quote.isSome then 1 else 0
  scanValue quote ((charsFrom 0 cs).drop opening) opening none [] (quote.elim 0 Char.utf8Size)

/-- A reader of values that end at a mark, which is dropped if it is a closing quote. -/
structure ReadsMarked (quote : Option Char) (read : Nat → List Char → List Char × List Char) :
    Prop extends ReadsEscaped (quote.getD '|') read where
  nil : ∀ n, read n [] = ([], [])
  mark : ∀ n cs, read (n + 1) (quote.getD '|' :: cs) =
    ([], if quote.isSome then cs else quote.getD '|' :: cs)

theorem readsMarked_bareValue : ReadsMarked none bareValue where
  toReadsEscaped := reads_bareValue
  nil := bareValue_nil
  mark n _ := bareValue_pipe (n + 1) fun _ hc => (Option.some.inj hc).symm

theorem readsMarked_quotedValue {quote : Char} (hquote : quote ≠ '\\') :
    ReadsMarked (some quote) (quotedValue quote) where
  toReadsEscaped := reads_quotedValue hquote
  nil n := by rcases n with _ | _ | n <;> rfl
  mark n cs := by
    have hmark : quotedValue quote (n + 1) (quote :: cs) = if quote = quote then ([], cs) else _ :=
      quotedValue.eq_2 _ _ _ _ fun _ _ _ _ hc => absurd hc hquote
    exact hmark.trans (if_pos rfl)

variable {quote : Option Char} {read : Nat → List Char → List Char × List Char}
  {last : Option Char} {pending : List Char}

/-- What the last character leaves open: a backslash may still be one before a mark. -/
def Pending (last : Option Char) (pending : List Char) : Prop :=
  last = some '\\' ∧ pending = ['\\'] ∨ last ≠ some '\\' ∧ pending = []

theorem pending_none : Pending none [] :=
  .inr ⟨(Option.some_ne_none _).symm, rfl⟩

theorem exists_pending (last : Option Char) : ∃ pending, Pending last pending := by
  by_cases hlast : last = some '\\'
  · exact ⟨_, .inl ⟨hlast, rfl⟩⟩
  · exact ⟨_, .inr ⟨hlast, rfl⟩⟩

/-- Without a mark after it, what is open is a part of the value. -/
theorem ReadsMarked.read_pending (h : ReadsMarked quote read) (hmark : quote.getD '|' ≠ '\\')
    (hpending : Pending last pending) (n : Nat) (cs : List Char)
    (hcs : cs.head? ≠ some (quote.getD '|')) :
    read (n + pending.length) (pending ++ cs) = (pending ++ (read n cs).1, (read n cs).2) := by
  rcases hpending with ⟨_, rfl⟩ | ⟨_, rfl⟩
  · exact h.single n _ cs hmark.symm fun _ => hcs
  · rfl

/-- A character that is no mark is read and may be open then. -/
theorem ReadsMarked.read_cons (h : ReadsMarked quote read) {c : Char} (hc : c ≠ quote.getD '|')
    (hpending : Pending (some c) pending) (n : Nat) (cs : List Char) :
    ∃ settled, [c] = settled ++ pending ∧ read (n + 1) (c :: cs) =
      (settled ++ (read (n + pending.length) (pending ++ cs)).1,
        (read (n + pending.length) (pending ++ cs)).2) := by
  rcases hpending with ⟨hslash, rfl⟩ | ⟨hslash, rfl⟩
  · cases hslash
    exact ⟨[], rfl, rfl⟩
  · exact ⟨[c], rfl, h.single n c cs hc fun hs => absurd (congrArg some hs) hslash⟩

theorem ReadsMarked.read_pending_zero (h : ReadsMarked quote read) (hmark : quote.getD '|' ≠ '\\')
    (hpending : Pending last pending) (cs : List Char) :
    read pending.length (pending ++ cs) = (pending, cs) := by
  by_cases hcs : cs.head? = some (quote.getD '|')
  · obtain ⟨tail, rfl⟩ := List.head?_eq_some_iff.1 hcs
    rcases hpending with ⟨_, rfl⟩ | ⟨_, rfl⟩
    · exact h.cut tail
    · exact h.stop _
  · have hread := h.read_pending hmark hpending 0 cs hcs
    rwa [Nat.zero_add, h.stop, List.append_nil] at hread

/-- A value goes on as it is read from what is open on, and takes the bytes of what is read. -/
theorem ReadsMarked.scanValue_eq (h : ReadsMarked quote read) (hmark : quote.getD '|' ≠ '\\')
    (hpending : Pending last pending) (start taken : Nat) (value cs : List Char) :
    ∃ part, cs = part ++ (read (maxValueLength - taken + pending.length) (pending ++ cs)).2 ∧
      scanValue quote (charsFrom start cs) taken last (value ++ pending) start =
        (value ++ (read (maxValueLength - taken + pending.length) (pending ++ cs)).1,
          start + byteLength part) := by
  induction cs generalizing last pending start taken value with
  | nil =>
    rw [h.read_pending hmark hpending _ [] (fun hs => nomatch hs), h.nil, List.append_nil]
    exact ⟨[], rfl, rfl⟩
  | cons c cs ih =>
    rw [charsFrom, scanValue]
    split
    case isFalse hfull =>
      rw [Nat.sub_eq_zero_of_le (Nat.le_of_not_lt hfull), Nat.zero_add,
        h.read_pending_zero hmark hpending]
      exact ⟨[], rfl, rfl⟩
    case isTrue hmore =>
      obtain ⟨n, hn⟩ : ∃ n, maxValueLength - taken = n + 1 := Nat.exists_eq_add_one.2 (by omega)
      have hrest : maxValueLength - (taken + 1) = n := by omega
      rw [hn]
      by_cases hc : c = quote.getD '|'
      · rw [if_pos hc]
        subst hc
        rcases hpending with ⟨rfl, rfl⟩ | ⟨hlast, rfl⟩
        · -- the mark takes the place of the backslash before it
          obtain ⟨part, hpart, hscan⟩ := ih (.inr ⟨fun hs => hmark (Option.some.inj hs), rfl⟩)
            (start + (quote.getD '|').utf8Size) (taken + 1) (value ++ [quote.getD '|'])
          have hread : read (n + 1 + ['\\'].length) (['\\'] ++ quote.getD '|' :: cs) =
              (quote.getD '|' :: (read n cs).1, (read n cs).2) := h.pair n cs
          rw [hrest, List.nil_append] at hpart hscan
          rw [List.append_nil] at hscan
          refine ⟨quote.getD '|' :: part, ?_, ?_⟩
          · rw [hread]
            exact congrArg (quote.getD '|' :: ·) hpart
          · rw [if_pos rfl, List.dropLast_concat, hscan, hread]
            simp [Nat.add_assoc]
        · rw [if_neg hlast, List.nil_append, List.length_nil, Nat.add_zero, h.mark]
          cases quote with
          | none => exact ⟨[], rfl, by rw [List.append_nil]; rfl⟩
          | some q => exact ⟨[q], rfl, by simp⟩
      · have hread := h.read_pending hmark hpending (n + 1) (c :: cs)
          fun hs => hc (Option.some.inj hs)
        obtain ⟨next, hnext⟩ := exists_pending (some c)
        obtain ⟨settled, hsettled, hcons⟩ := h.read_cons hc hnext n cs
        obtain ⟨part, hpart, hscan⟩ :=
          ih hnext (start + c.utf8Size) (taken + 1) (value ++ pending ++ settled)
        rw [hrest] at hpart hscan
        refine ⟨c :: part, ?_, ?_⟩
        · rw [hread, hcons]
          exact congrArg (c :: ·) hpart
        · rw [if_neg hc, hsettled, ← List.append_assoc, hscan, hread, hcons]
          simp [Nat.add_assoc]

theorem openingQuote?_cons (c : Char) (cs : List Char) :
    openingQuote? (c :: cs) = if c = '"' ∨ c = '\'' then some c else none := by
  simp [openingQuote?, Option.filter]

/-- After its opening quote a value is read up to that quote. -/
theorem valueAt_quote {q : Char} (hq : q = '"' ∨ q = '\'') (body : List Char) :
    ∃ part, body = part ++ (quotedValue q (maxValueLength - 1) body).2 ∧ valueAt (q :: body) =
      ((quotedValue q (maxValueLength - 1) body).1, byteLength (q :: part)) := by
  have hmark : q ≠ '\\' := by rcases hq with rfl | rfl <;> decide
  obtain ⟨part, hpart, hscan⟩ := (readsMarked_quotedValue hmark).scanValue_eq hmark
    pending_none (0 + q.utf8Size) 1 [] body
  refine ⟨part, hpart, ?_⟩
  have hopen : openingQuote? (q :: body) = some q := (openingQuote?_cons q body).trans (if_pos hq)
  simpa [valueAt, hopen, charsFrom] using hscan

theorem valueAt_bare {cs : List Char} (h : openingQuote? cs = none) :
    ∃ part, cs = part ++ (bareValue maxValueLength cs).2 ∧
      valueAt cs = ((bareValue maxValueLength cs).1, byteLength part) := by
  obtain ⟨part, hpart, hscan⟩ := readsMarked_bareValue.scanValue_eq (by decide)
    pending_none 0 0 [] cs
  refine ⟨part, hpart, ?_⟩
  simpa [valueAt, h] using hscan

/-- What is read of a text that starts with no blank. -/
theorem readValue_eq (h : trimStart cs = cs) : readValue cs =
    match openingQuote? cs with
    | some q => quotedValue q (maxValueLength - 1) cs.tail
    | none => bareValue maxValueLength cs := by
  rw [readValue, h]
  split
  · rfl
  · rfl
  · rename_i hdouble hsingle
    have hnone : openingQuote? cs = none := by
      cases cs with
      | nil => rfl
      | cons c cs =>
        rw [openingQuote?_cons, if_neg]
        rintro (rfl | rfl)
        · exact hdouble cs rfl
        · exact hsingle cs rfl
    rw [hnone]

/-- What opens a part of a text that has no opening quote is no quote. -/
theorem openingQuote?_of_append {part : List Char} (h : openingQuote? (part ++ rest) = none) :
    openingQuote? part = none := by
  cases part with
  | nil => rfl
  | cons c part => exact h

/-- A value is cut out as it is read. -/
theorem exists_valueAt (h : trimStart cs = cs) : ∃ part, cs = part ++ (readValue cs).2 ∧
    valueAt cs = ((readValue cs).1, byteLength part) ∧ openingQuote? part = openingQuote? cs := by
  rw [readValue_eq h]
  cases hquote : openingQuote? cs with
  | none =>
    obtain ⟨part, hpart, hvalue⟩ := valueAt_bare hquote
    rw [hpart] at hquote
    exact ⟨part, hpart, hvalue, openingQuote?_of_append hquote⟩
  | some q =>
    obtain ⟨hhead, hq⟩ := Option.filter_eq_some_iff.1 hquote
    obtain ⟨body, rfl⟩ := List.head?_eq_some_iff.1 hhead
    obtain ⟨part, hpart, hvalue⟩ := valueAt_quote (q := q) (by simpa using hq) body
    exact ⟨q :: part, congrArg (q :: ·) hpart, hvalue, hquote⟩

theorem length_fst_bareValue_le (limit : Nat) (cs : List Char) :
    (bareValue limit cs).1.length ≤ limit := by
  fun_induction bareValue limit cs <;> simp_all; omega

theorem length_fst_quotedValue_le (quote : Char) (limit : Nat) (cs : List Char) :
    (quotedValue quote limit cs).1.length ≤ limit := by
  fun_induction quotedValue quote limit cs <;> simp_all; omega

/-- The number of characters that a value can have: an opening quote is one of those that are read
for it. -/
def roomAt (cs : List Char) : Nat :=
  if (openingQuote? cs).isSome then maxValueLength - 1 else maxValueLength

theorem length_readValue_le_roomAt (h : trimStart cs = cs) :
    (readValue cs).1.length ≤ roomAt cs := by
  rw [readValue_eq h, roomAt]
  cases openingQuote? cs with
  | none => exact length_fst_bareValue_le _ _
  | some q => exact length_fst_quotedValue_le _ _ _

end Tabular.Selector
