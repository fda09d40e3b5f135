/-
Reading records undoes writing them, where records end as lines do and neither the delimiter nor
the quote is part of a line end. A field is read up to a place where its end can be told, however
it is written and whatever follows. A record without fields is not written, so it is not read.
-/
import Tabular.Csv.Writer

namespace Tabular.Csv

/-- A layout whose records can be told apart again: two ASCII bytes beside the line ends. -/
structure Layout.Readable (l : Layout) : Prop where
  delimiter_lt : l.delimiter < 128
  quote_lt : l.quote < 128
  delimiter_ne_quote : l.delimiter ≠ l.quote
  delimiter_inLine : isLineEnd l.delimiter = false
  quote_inLine : isLineEnd l.quote = false
  terminator : l.terminator = .byte 10 ∨ l.terminator = .crlf

/-- How to read what a layout writes: quotes are doubled, nothing is escaped. -/
def Layout.dialect (l : Layout) : Dialect :=
  ⟨l.delimiter, l.quote, none⟩

/-! ## Single bytes -/

section

variable {d : Dialect} {s next : State} {b : UInt8} {fields : Record} {field bytes : List UInt8}

theorem readFrom_skip (h : move d s b = .skip next) :
    readFrom d s fields field (b :: bytes) = readFrom d next fields field bytes := by
  rw [readFrom, h]

theorem readFrom_copy (h : move d s b = .copy next) :
    readFrom d s fields field (b :: bytes) = readFrom d next fields (b :: field) bytes := by
  rw [readFrom, h]

theorem readFrom_endField (h : move d s b = .endField) :
    readFrom d s fields field (b :: bytes) =
      readFrom d .fieldStart (field.reverse :: fields) [] bytes := by
  rw [readFrom, h]

theorem readFrom_endRecord (h : move d s b = .endRecord) :
    readFrom d s fields field (b :: bytes) =
      closeRecord fields field :: readFrom d .recordStart [] [] bytes := by
  rw [readFrom, h]

/-- At the start of a record every byte but a line end does what it does at the start of a field. -/
theorem readFrom_recordStart (h : isLineEnd b = false) :
    readFrom d .recordStart fields field (b :: bytes) =
      readFrom d .fieldStart fields field (b :: bytes) := by
  have hmove : move d .recordStart b = move d .fieldStart b := if_neg (by simp [h])
  rw [readFrom, readFrom, hmove]

end

/-! ## Single fields -/

/-- The places where a field can end. -/
def State.AtFieldEnd (s : State) : Prop :=
  s = .fieldStart ∨ s = .unquoted ∨ s = .afterQuote

variable {l : Layout} {s : State} {fields : Record} {field : List UInt8}

theorem move_atFieldEnd (hs : s.AtFieldEnd) {b : UInt8} (hb : b ≠ l.quote) :
    move l.dialect s b = plainMove l.dialect b := by
  rcases hs with rfl | rfl | rfl
  · exact if_neg hb
  · rfl
  · exact if_neg fun h => hb h.1

theorem needsQuotes_eq_false_iff (hl : l.Readable) :
    needsQuotes l field = false ↔
      ∀ b ∈ field, b ≠ l.delimiter ∧ b ≠ l.quote ∧ isLineEnd b = false := by
  have hspecial : l.terminator.isSpecial = isLineEnd := by
    rcases hl.terminator with h | h <;> rw [h] <;> rfl
  simp [needsQuotes, hspecial, and_assoc]

theorem readFrom_plain (hl : l.Readable) (fields : Record) (field : List UInt8)
    {bytes : List UInt8} (h : needsQuotes l bytes = false) (rest : List UInt8) :
    readFrom l.dialect .unquoted fields field (bytes ++ rest) =
      readFrom l.dialect .unquoted fields (bytes.reverse ++ field) rest := by
  rw [needsQuotes_eq_false_iff hl] at h
  induction bytes generalizing field with
  | nil => rfl
  | cons b bytes ih =>
    obtain ⟨hdelimiter, _, hline⟩ := h b List.mem_cons_self
    have hcopy : move l.dialect .unquoted b = .copy .unquoted := by
      simp [move, plainMove, Layout.dialect, hdelimiter, hline]
    rw [List.cons_append, readFrom_copy hcopy, ih _ fun c hc => h c (List.mem_cons_of_mem _ hc),
      List.reverse_cons, List.append_assoc, List.singleton_append]

theorem readFrom_quotedBody (bytes rest : List UInt8) :
    readFrom l.dialect .quoted fields field
        (bytes.flatMap (fun b => if b = l.quote then [l.quote, l.quote] else [b]) ++
          l.quote :: rest) =
      readFrom l.dialect .afterQuote fields (bytes.reverse ++ field) rest := by
  have hclose : move l.dialect .quoted l.quote = .skip .afterQuote := if_pos rfl
  induction bytes generalizing field with
  | nil => exact readFrom_skip hclose
  | cons b bytes ih =>
    rw [List.flatMap_cons, List.reverse_cons, List.append_assoc, List.append_assoc,
      List.singleton_append, ← ih]
    by_cases hb : b = l.quote
    · -- the first of two quotes could end the field, the second one says that it does not
      have hreopen : move l.dialect .afterQuote l.quote = .copy .quoted := if_pos ⟨rfl, rfl⟩
      rw [hb, if_pos rfl, List.cons_append, List.cons_append, List.nil_append,
        readFrom_skip hclose, readFrom_copy hreopen]
    · have hcopy : move l.dialect .quoted b = .copy .quoted := by
        simp [move, Layout.dialect, hb]
      rw [if_neg hb, List.singleton_append, readFrom_copy hcopy]

theorem readFrom_quoteField (fields : Record) (bytes rest : List UInt8) :
    readFrom l.dialect .fieldStart fields [] (quoteField l.quote bytes ++ rest) =
      readFrom l.dialect .afterQuote fields bytes.reverse rest := by
  have hopen : move l.dialect .fieldStart l.quote = .skip .quoted := if_pos rfl
  rw [quoteField, List.append_assoc, List.cons_append, readFrom_skip hopen,
    List.singleton_append, readFrom_quotedBody, List.append_nil]

/-- A written field is read as itself, up to a place where it can end. -/
theorem readFrom_writeField (hl : l.Readable) (fields : Record) (bytes : List UInt8) :
    ∃ s : State, s.AtFieldEnd ∧ ∀ rest,
      readFrom l.dialect .fieldStart fields [] (writeField l bytes ++ rest) =
        readFrom l.dialect s fields bytes.reverse rest := by
  unfold writeField
  split
  · exact ⟨.afterQuote, .inr (.inr rfl), readFrom_quoteField fields bytes⟩
  · rename_i h
    rw [Bool.not_eq_true] at h
    rcases bytes with _ | ⟨b, bytes⟩
    · exact ⟨.fieldStart, .inl rfl, fun _ => rfl⟩
    · refine ⟨.unquoted, .inr (.inl rfl), fun rest => ?_⟩
      -- the first byte is no quote, so it is read as it is inside the field
      have hfirst := (needsQuotes_eq_false_iff hl).1 h b List.mem_cons_self
      have hmove : move l.dialect .fieldStart b = move l.dialect .unquoted b :=
        move_atFieldEnd (.inl rfl) hfirst.2.1
      have hplain := readFrom_plain hl fields [] h rest
      rw [List.append_nil] at hplain
      rw [← hplain, List.cons_append, readFrom, readFrom, hmove]

/-! ## Records -/

theorem readFrom_delimiter (hl : l.Readable) (hs : s.AtFieldEnd) (rest : List UInt8) :
    readFrom l.dialect s fields field (l.delimiter :: rest) =
      readFrom l.dialect .fieldStart (field.reverse :: fields) [] rest :=
  readFrom_endField ((move_atFieldEnd hs hl.delimiter_ne_quote).trans (if_pos rfl))

theorem readFrom_lineEnd (hl : l.Readable) (hs : s.AtFieldEnd) {b : UInt8}
    (hb : isLineEnd b = true) (rest : List UInt8) :
    readFrom l.dialect s fields field (b :: rest) =
      closeRecord fields field :: readFrom l.dialect .recordStart [] [] rest := by
  have hother : ∀ {c}, isLineEnd c = false → b ≠ c := by
    rintro c hc rfl
    rw [hb] at hc
    cases hc
  have hplain : plainMove l.dialect b = .endRecord :=
    (if_neg (hother hl.delimiter_inLine)).trans (if_pos hb)
  exact readFrom_endRecord ((move_atFieldEnd hs (hother hl.quote_inLine)).trans hplain)

theorem readFrom_terminator (hl : l.Readable) (hs : s.AtFieldEnd) (rest : List UInt8) :
    readFrom l.dialect s fields field (l.terminator.bytes ++ rest) =
      closeRecord fields field :: readFrom l.dialect .recordStart [] [] rest := by
  rcases hl.terminator with h | h
  · rw [h]
    exact readFrom_lineEnd hl hs rfl rest
  · -- the second byte of the line end is skipped where the next record starts
    rw [h]
    exact readFrom_lineEnd hl hs rfl (10 :: rest)

/-- The fields of a record are read up to its end. -/
theorem readFrom_joinFields (hl : l.Readable) (fields : Record) {record : Record}
    (h : record ≠ []) (rest : List UInt8) :
    readFrom l.dialect .fieldStart fields [] (joinFields l record ++ (l.terminator.bytes ++ rest)) =
      (fields.reverse ++ record) :: readFrom l.dialect .recordStart [] [] rest := by
  induction record using joinFields.induct generalizing fields with
  | case1 => exact absurd rfl h
  | case2 field =>
    obtain ⟨s, hs, hread⟩ := readFrom_writeField hl fields field
    rw [joinFields, hread, readFrom_terminator hl hs, closeRecord, List.reverse_reverse,
      List.reverse_cons]
  | case3 field record hne ih =>
    obtain ⟨s, hs, hread⟩ := readFrom_writeField hl fields field
    rw [joinFields, List.append_assoc, hread, List.cons_append, readFrom_delimiter hl hs,
      List.reverse_reverse, ih _ hne, List.reverse_cons, List.append_assoc, List.singleton_append]
    exact hne

/-- A record starts on a line of its own, unless it is one empty field. -/
theorem joinFields_startsInLine (hl : l.Readable) {record : Record} (h : record ≠ [])
    (hblank : record ≠ [[]]) :
    ∃ b bytes, joinFields l record = b :: bytes ∧ isLineEnd b = false := by
  have hfield : ∀ field, field ≠ [] →
      ∃ b bytes, writeField l field = b :: bytes ∧ isLineEnd b = false := by
    intro field hfield
    unfold writeField
    split
    · exact ⟨_, _, rfl, hl.quote_inLine⟩
    · rename_i hplain
      rw [Bool.not_eq_true, needsQuotes_eq_false_iff hl] at hplain
      obtain ⟨b, bytes, rfl⟩ := List.exists_cons_of_ne_nil hfield
      exact ⟨b, bytes, rfl, (hplain b List.mem_cons_self).2.2⟩
  rcases record with _ | ⟨field, record⟩
  · exact absurd rfl h
  · by_cases hempty : field = []
    · subst hempty
      rcases record with _ | ⟨second, record⟩
      · exact absurd rfl hblank
      · exact ⟨_, _, rfl, hl.delimiter_inLine⟩
    · obtain ⟨b, bytes, hbytes, hb⟩ := hfield field hempty
      rcases record with _ | ⟨second, record⟩
      · exact ⟨b, bytes, hbytes, hb⟩
      · exact ⟨b, _, by rw [joinFields, hbytes, List.cons_append]; exact List.cons_ne_nil _ _, hb⟩

/-- A written record is read as itself. -/
theorem readFrom_writeRecord (hl : l.Readable) {record : Record} (h : record ≠ [])
    (rest : List UInt8) :
    readFrom l.dialect .recordStart [] [] (writeRecord l record ++ rest) =
      record :: readFrom l.dialect .recordStart [] [] rest := by
  unfold writeRecord
  split
  · exact absurd rfl h
  · have hquotes := readFrom_quoteField (l := l) [] [] (l.terminator.bytes ++ rest)
    rw [List.cons_append, readFrom_recordStart hl.quote_inLine]
    exact hquotes.trans (readFrom_terminator hl (.inr (.inr rfl)) rest)
  · rename_i hblank
    obtain ⟨b, bytes, hbytes, hb⟩ := joinFields_startsInLine hl h hblank
    have hjoined := readFrom_joinFields hl [] h rest
    rw [hbytes, List.cons_append] at hjoined
    rw [List.append_assoc, hbytes, List.cons_append, readFrom_recordStart hb, hjoined,
      List.reverse_nil, List.nil_append]

/-- Reading undoes writing, for records that have fields. -/
theorem readFrom_write (hl : l.Readable) {records : List Record}
    (h : ∀ record ∈ records, record ≠ []) :
    readFrom l.dialect .recordStart [] [] (write l records) = records := by
  induction records with
  | nil => rfl
  | cons record records ih =>
    rw [write, List.flatMap_cons, readFrom_writeRecord hl (h record List.mem_cons_self)]
    exact congrArg _ (ih fun r hr => h r (List.mem_cons_of_mem _ hr))

end Tabular.Csv
