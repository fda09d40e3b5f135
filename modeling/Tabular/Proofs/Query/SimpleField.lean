/-
Simple fields: runs of names that need no quotes. A run ends where the field characters end and the
operator where the characters of symbols end, so a selector that starts with a simple field and an
operator is read as these two whatever follows, and what is left to the values is the rest.
-/
import Mathlib.Data.List.Basic
import Tabular.Proofs.Text.Blank
import Tabular.Query.Selector

namespace Tabular.Selector

variable {run rest tail : List Char}

/-! ## Names in a run -/

theorem splitNames_eq {current cs : List Char} (hcs : ∀ c ∈ cs, c ≠ '|')
    (hne : current.reverse ++ cs ≠ []) : splitNames current cs = [current.reverse ++ cs] := by
  induction cs generalizing current with
  | nil =>
    have hc : current ≠ [] := by simpa using hne
    simp [splitNames, hc]
  | cons c cs ih =>
    rw [splitNames, if_neg (hcs c List.mem_cons_self),
      ih (fun d hd => hcs d (List.mem_cons_of_mem _ hd)) (by simp)]
    simp

theorem splitNames_append_pipe {current cs : List Char} (rest : List Char)
    (hcs : ∀ c ∈ cs, c ≠ '|') (hne : current.reverse ++ cs ≠ []) :
    splitNames current (cs ++ '|' :: rest) = (current.reverse ++ cs) :: splitNames [] rest := by
  induction cs generalizing current with
  | nil =>
    have hc : current ≠ [] := by simpa using hne
    simp [splitNames, hc]
  | cons c cs ih =>
    rw [List.cons_append, splitNames, if_neg (hcs c List.mem_cons_self),
      ih (fun d hd => hcs d (List.mem_cons_of_mem _ hd)) (by simp)]
    simp

theorem splitNames_ne_nil {current cs : List Char} (h : current ≠ [] ∨ ∃ c ∈ cs, c ≠ '|') :
    splitNames current cs ≠ [] := by
  induction cs generalizing current with
  | nil =>
    have hcurrent : current ≠ [] := h.resolve_right (by simp)
    simp [splitNames, hcurrent]
  | cons c cs ih =>
    rw [splitNames]
    split
    · rename_i hc
      rcases h with hcurrent | ⟨d, hd, hne⟩
      · simp [hcurrent]
      · have hmem : d ∈ cs := (List.mem_cons.1 hd).resolve_left fun h => hne (h.trans hc)
        exact List.append_ne_nil_of_right_ne_nil _ (ih (.inr ⟨d, hmem, hne⟩))
    · exact ih (.inl (List.cons_ne_nil _ _))

/-! ## Simple fields -/

/-- Field characters with a name among them, or field characters after an exclamation mark. -/
inductive Simple : List Char → Prop
  | plain {run : List Char} : (∀ c ∈ run, isFieldChar c = true) → (∃ c ∈ run, c ≠ '|') → Simple run
  | marked {run : List Char} : (∀ c ∈ run, isFieldChar c = true) → run ≠ [] → Simple ('!' :: run)

theorem isBlank_of_isFieldChar {c : Char} (h : isFieldChar c = true) : Text.isBlank c = false := by
  have hrange : 46 ≤ c.toNat ∧ c.toNat ≤ 124 := by
    delta isFieldChar Char.isAlphanum Char.isAlpha Char.isUpper Char.isLower Char.isDigit at h
    simp [UInt32.le_iff_toNat_le, ← Char.toNat_inj] at h
    omega
  simp [Text.isBlank, Text.blankRanges]
  omega

/-- A simple field starts with no quote and no blank. -/
theorem Simple.exists_cons (h : Simple run) :
    ∃ c cs, run = c :: cs ∧ (c = '!' ∨ isFieldChar c = true) := by
  cases h with
  | plain hchars hname =>
    obtain ⟨d, hd, _⟩ := hname
    obtain ⟨c, cs, rfl⟩ := List.exists_cons_of_ne_nil (List.ne_nil_of_mem hd)
    exact ⟨c, cs, rfl, .inr (hchars c List.mem_cons_self)⟩
  | marked => exact ⟨_, _, rfl, .inl rfl⟩

theorem Simple.exists_name (h : Simple run) : ∃ c ∈ run, c ≠ '|' := by
  cases h with
  | plain _ hname => exact hname
  | marked => exact ⟨'!', List.mem_cons_self, by decide⟩

/-- The fields that a run of names stands for. -/
def fieldsOf (run : List Char) : List Field :=
  (splitNames [] run).map Field.ofName

theorem Simple.fieldsOf_ne_nil (h : Simple run) : fieldsOf run ≠ [] :=
  fun hnil => splitNames_ne_nil (.inr h.exists_name) (List.map_eq_nil_iff.1 hnil)

theorem Simple.fieldsOf_eq (h : Simple run) (hpipe : '|' ∉ run) :
    fieldsOf run = [Field.ofName run] := by
  obtain ⟨c, cs, rfl, _⟩ := h.exists_cons
  have hsplit : splitNames [] (c :: cs) = [c :: cs] :=
    splitNames_eq (fun d hd hc => hpipe (hc ▸ hd)) (List.cons_ne_nil _ _)
  rw [fieldsOf, hsplit, List.map_singleton]

/-- A scan that stops at once. -/
theorem takeWhile_of_head? {p : Char → Bool} (h : ∀ c ∈ rest.head?, p c = false) :
    rest.takeWhile p = [] := by
  cases rest with
  | nil => rfl
  | cons c rest => exact List.takeWhile_cons_of_neg (by simp [h c rfl])

/-- The run ends where the field characters end. -/
theorem Simple.nameRun_append (h : Simple run) (hrest : ∀ c ∈ rest.head?, isFieldChar c = false) :
    nameRun (run ++ rest) = (run, rest) := by
  have htake : rest.takeWhile isFieldChar = [] := takeWhile_of_head? hrest
  have hdrop : rest.dropWhile isFieldChar = rest := by
    have happend := List.takeWhile_append_dropWhile (p := isFieldChar) (l := rest)
    rwa [htake] at happend
  cases h with
  | plain hchars hname =>
    rw [nameRun.eq_2, List.takeWhile_append_of_pos hchars, List.dropWhile_append_of_pos hchars,
      htake, hdrop, List.append_nil]
    rintro tail htail
    obtain ⟨c, cs, rfl⟩ := List.exists_cons_of_ne_nil (List.ne_nil_of_mem hname.choose_spec.1)
    obtain rfl : c = '!' := (List.cons.inj htail).1
    exact absurd (hchars '!' List.mem_cons_self) (by decide)
  | @marked run hchars hne =>
    obtain ⟨c, cs, rfl⟩ := List.exists_cons_of_ne_nil hne
    rw [List.cons_append, nameRun, List.takeWhile_append_of_pos hchars,
      List.dropWhile_append_of_pos hchars, htake, hdrop, List.append_nil]

/-! ## Reading the parts before the values -/

theorem readFields_of_run {cs run rest : List Char} (h : quotedName? cs = none)
    (hrun : nameRun cs = (run, rest)) :
    readFields cs =
      if run.getLast? = some '|' ∧ rest.head? = some '"' then
        ((splitNames [] run).map Field.ofName ++ (readFields rest).1, (readFields rest).2)
      else ((splitNames [] run).map Field.ofName, rest) := by
  rw [readFields]
  split
  · rename_i hs
    cases h.symm.trans hs
  · simp only [hrun]
    split <;> rfl

theorem isFieldChar_head?_symbol (op : Operator) (tail : List Char) :
    ∀ c ∈ (op.symbol ++ tail).head?, isFieldChar c = false := by
  cases op <;> (rintro c ⟨⟩; decide)

theorem Simple.readFields_append (h : Simple run) (op : Operator) (tail : List Char) :
    readFields (run ++ (op.symbol ++ tail)) = (fieldsOf run, op.symbol ++ tail) := by
  have hquoted : quotedName? (run ++ (op.symbol ++ tail)) = none := by
    obtain ⟨c, cs, rfl, hc⟩ := h.exists_cons
    rw [List.cons_append, quotedName?.eq_2]
    rintro d ds hcons
    obtain rfl : c = '"' := (List.cons.inj hcons).1
    exact absurd hc (by decide)
  rw [readFields_of_run hquoted (h.nameRun_append (isFieldChar_head?_symbol op tail)), if_neg]
  · rfl
  · rintro ⟨_, hquote⟩
    cases op <;> cases hquote

/-- The operator ends where the characters of symbols end. -/
theorem operatorRun_append (op : Operator)
    (htail : ∀ c ∈ tail.head?, Operator.isSymbolChar c = false) :
    operatorRun (op.symbol ++ tail) = op.symbol := by
  have hchars : ∀ c ∈ op.symbol, Operator.isSymbolChar c = true :=
    List.all_eq_true.1 (by cases op <;> decide)
  have hlength : op.symbol.length ≤ Operator.maxSymbolLength := by cases op <;> decide
  have hstop : (tail.take (Operator.maxSymbolLength - op.symbol.length)).takeWhile
      Operator.isSymbolChar = [] := by
    refine takeWhile_of_head? fun c hc => htail c ?_
    rw [List.head?_take] at hc
    split at hc
    · cases hc
    · exact hc
  rw [operatorRun, List.take_append, List.take_of_length_le hlength,
    List.takeWhile_append_of_pos hchars, hstop, List.append_nil]

theorem parse_of_readFields {chunk : String} {fields : List Field} {op : Operator}
    (h : readFields (Text.trim chunk.toList) = (fields, op.symbol ++ tail)) (hne : fields ≠ [])
    (htail : ∀ c ∈ tail.head?, Operator.isSymbolChar c = false) :
    parse chunk = .ok ⟨fields, op, readValues tail, chunk⟩ := by
  have hstart : Text.trimStart (op.symbol ++ tail) = op.symbol ++ tail := by
    cases op <;> exact List.dropWhile_cons_of_neg (by decide)
  simp only [parse, h, List.isEmpty_eq_false_iff.2 hne, hstart, operatorRun_append op htail,
    Operator.ofSymbol?_symbol, List.drop_left]
  rfl

/-- What is left to the values is the rest of the text without the blanks at its end. -/
theorem Simple.parse_append (h : Simple run) (op : Operator)
    (htail : ∀ c ∈ tail.head?, Operator.isSymbolChar c = false) :
    parse (String.ofList (run ++ (op.symbol ++ tail))) =
      .ok ⟨fieldsOf run, op, readValues (Text.trimEnd tail),
        String.ofList (run ++ (op.symbol ++ tail))⟩ := by
  have hstart : ∀ c ∈ (run ++ (op.symbol ++ tail)).head?, Text.isBlank c = false := by
    obtain ⟨c, cs, rfl, hc⟩ := h.exists_cons
    rintro d ⟨⟩
    rcases hc with rfl | hc
    · decide
    · exact isBlank_of_isFieldChar hc
  have hend : ∀ c ∈ (run ++ op.symbol).getLast?, Text.isBlank c = false := by
    cases op <;> simp [Operator.symbol] <;> decide
  refine parse_of_readFields ?_ h.fieldsOf_ne_nil fun c hc =>
    htail c (Text.head?_of_head?_trimEnd hc)
  rw [String.toList_ofList, Text.trim, Text.trimStart_eq_self hstart, ← List.append_assoc,
    Text.trimEnd_append hend, List.append_assoc, h.readFields_append]

end Tabular.Selector
