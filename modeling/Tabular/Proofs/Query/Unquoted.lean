/-
Values written without quotes: they are joined by pipes, and each has a backslash before the pipes
in it. A value ends at a pipe without a backslash or at the end of the text, so values are read back
one by one; a backslash at the end of a value, a blank or a quote at its start and blanks at the end
of the last one are what cannot be written so.
-/
import Tabular.Proofs.Query.Written

namespace Tabular.Selector

variable {rest : List Char}

/-! ## Unquoted values -/

/-- A value without quotes, a backslash before every pipe. -/
def unquoted (value : String) : List Char :=
  escape '|' value.toList

/-- A text that is not taken for blanks or a quoted value. -/
def StartsBare (cs : List Char) : Prop :=
  ∀ c ∈ cs.head?, Text.isBlank c = false ∧ c ≠ '"' ∧ c ≠ '\''

/-- The values that can be written without quotes. A backslash at the end would be taken for the one
before a pipe. -/
structure Bare (value : String) : Prop where
  start : StartsBare value.toList
  last : value.toList.getLast? ≠ some '\\'
  length : (unquoted value).length ≤ 1000

/-- The lists of values that can be written without quotes: the first is not taken for a part of the
operator, the last keeps its end, and there is text after the last pipe. -/
structure BareValues (values : List String) : Prop where
  ne_nil : values ≠ []
  each : ∀ value ∈ values, Bare value
  first : ∀ value ∈ values.head?, ∀ c ∈ value.toList.head?, Operator.isSymbolChar c = false
  last : ∀ value ∈ values.getLast?, ∀ c ∈ value.toList.getLast?, Text.isBlank c = false
  last_ne : 1 < values.length → values.getLast? ≠ some ""

theorem readValue_of_startsBare {cs : List Char} (h : StartsBare cs) :
    readValue cs = bareValue maxValueLength cs := by
  rw [readValue, Text.trimStart_eq_self fun c hc => (h c hc).1]
  split
  · exact absurd rfl (h '"' rfl).2.1
  · exact absurd rfl (h '\'' rfl).2.2
  · rfl

theorem bareValue_nil (limit : Nat) : bareValue limit [] = ([], []) := by
  rcases limit with _ | _ | limit <;> rfl

theorem bareValue_pipe (limit : Nat) (h : ∀ c ∈ rest.head?, c = '|') :
    bareValue limit rest = ([], rest) := by
  cases rest with
  | nil => exact bareValue_nil limit
  | cons c rest =>
    obtain rfl : c = '|' := h c rfl
    rcases limit with _ | limit
    · rfl
    · rw [bareValue.eq_2 _ _ _ fun _ _ _ hslash => absurd hslash (by decide), if_pos rfl]

/-- What starts an escaped text and what may follow it starts the two. -/
theorem forall_head?_unquoted_append {P : Char → Prop} {value : String} (hslash : P '\\')
    (hvalue : ∀ c ∈ value.toList.head?, P c) (hrest : ∀ c ∈ rest.head?, P c) :
    ∀ c ∈ (unquoted value ++ rest).head?, P c := by
  intro c hc
  rw [List.head?_append, Option.mem_def, Option.or_eq_some_iff] at hc
  rcases hc with hc | ⟨_, hc⟩
  · rcases of_mem_head?_escape hc with rfl | ⟨_, hc⟩
    · exact hslash
    · exact hvalue c hc
  · exact hrest c hc

theorem Bare.readValue_append {value : String} (h : Bare value) (hrest : ∀ c ∈ rest.head?, c = '|') :
    readValue (unquoted value ++ rest) = (value.toList, rest) := by
  have hstart : StartsBare (unquoted value ++ rest) :=
    forall_head?_unquoted_append (by decide) h.start fun c hc => by
      rw [hrest c hc]
      decide
  have hlast : (unquoted value).getLast? = some '\\' → rest.head? ≠ some '|' := by
    rw [unquoted, getLast?_escape]
    exact fun hslash => absurd hslash h.last
  have hlength : (escape '|' value.toList).length ≤ maxValueLength := h.length
  rw [readValue_of_startsBare hstart, unquoted,
    reads_bareValue.append (paired_escape (by decide) _) hlast, bareValue_pipe _ hrest,
    List.take_of_length_le hlength, List.drop_of_length_le hlength, unescape_escape (by decide),
    List.append_nil, List.nil_append]

theorem unquoted_ne_nil {value : String} (h : value ≠ "") : unquoted value ≠ [] := by
  intro hnil
  have hlast : (unquoted value).getLast? = value.toList.getLast? := getLast?_escape _
  rw [hnil] at hlast
  exact h (String.toList_eq_nil_iff.1 (List.getLast?_eq_none_iff.1 hlast.symm))

theorem BareValues.readValues_eq {values : List String} (h : BareValues values) :
    readValues (piped (values.map unquoted)) = values := by
  refine readValues_piped h.ne_nil (fun v hv rest hrest => (h.each v hv).readValue_append hrest)
    fun hlength => ?_
  have hlast := List.getLast?_eq_some_getLast h.ne_nil
  rw [List.getLast?_map, hlast]
  refine ⟨_, rfl, unquoted_ne_nil fun hempty => h.last_ne hlength ?_⟩
  rw [hlast, hempty]

theorem BareValues.trimEnd_eq {values : List String} (h : BareValues values) :
    Text.trimEnd (piped (values.map unquoted)) = piped (values.map unquoted) := by
  refine Text.trimEnd_eq_self fun c hc => ?_
  rcases of_mem_getLast?_piped hc with rfl | ⟨text, htext, hc⟩
  · decide
  · rw [List.getLast?_map] at htext
    obtain ⟨value, hvalue, rfl⟩ := Option.map_eq_some_iff.1 htext
    rw [unquoted, getLast?_escape] at hc
    exact h.last value hvalue c hc

theorem BareValues.isSymbolChar_head? {values : List String} (h : BareValues values) :
    ∀ c ∈ (piped (values.map unquoted)).head?, Operator.isSymbolChar c = false := by
  obtain ⟨value, values, rfl⟩ := List.exists_cons_of_ne_nil h.ne_nil
  obtain ⟨rest, heq, hrest⟩ := exists_piped_cons (unquoted value) (values.map unquoted)
  rw [List.map_cons, heq]
  refine forall_head?_unquoted_append (by decide) (h.first value rfl) fun c hc => ?_
  rw [hrest c hc]
  decide

/-! ## Whole selectors -/

/-- A selector without quotes, after a simple field. -/
def bareText (run : List Char) (op : Operator) (values : List String) : String :=
  String.ofList (run ++ (op.symbol ++ piped (values.map unquoted)))

/-- Values written without quotes are read back, whatever simple field and operator they stand
after. -/
theorem parse_bareText {run : List Char} (hrun : Simple run) (op : Operator) {values : List String}
    (hvalues : BareValues values) :
    ∃ fields, fields ≠ [] ∧ ('|' ∉ run → fields = [Field.ofName run]) ∧
      parse (bareText run op values) = .ok ⟨fields, op, values, bareText run op values⟩ := by
  refine ⟨fieldsOf run, hrun.fieldsOf_ne_nil, hrun.fieldsOf_eq, ?_⟩
  rw [bareText, hrun.parse_append op hvalues.isSymbolChar_head?, hvalues.trimEnd_eq,
    hvalues.readValues_eq]

/-- Backslashes before pipes, inner quotes and blanks, and an empty value in the middle. -/
theorem parse_bareText_marks :
    Simple "!a".toList ∧ BareValues ["x\\\\|'y z ", "", "ü|\""] ∧
      ∃ fields, fields ≠ [] ∧ ('|' ∉ "!a".toList → fields = [Field.ofName "!a".toList]) ∧
        parse "!a!=x\\\\\\|'y z ||ü\\|\"" =
          .ok ⟨fields, .notEqual, ["x\\\\|'y z ", "", "ü|\""], "!a!=x\\\\\\|'y z ||ü\\|\""⟩ := by
  have hrun : Simple "!a".toList :=
    .marked (List.all_eq_true.1 (by decide : ['a'].all isFieldChar = true)) (by decide)
  have hvalues : BareValues ["x\\\\|'y z ", "", "ü|\""] := by
    refine ⟨by decide, ?_, ?_, ?_, by decide⟩
    · simp only [List.forall_mem_cons]
      refine ⟨⟨?_, by decide, by decide⟩, ⟨nofun, by decide, by decide⟩, ⟨?_, by decide, by decide⟩,
        nofun⟩
      · rintro c ⟨⟩
        decide
      · rintro c ⟨⟩
        decide
    · rintro value ⟨⟩ c ⟨⟩
      decide
    · rintro value ⟨⟩ c ⟨⟩
      decide
  have htext : bareText "!a".toList .notEqual ["x\\\\|'y z ", "", "ü|\""] =
      "!a!=x\\\\\\|'y z ||ü\\|\"" := by decide
  have hparse := parse_bareText hrun .notEqual hvalues
  rw [htext] at hparse
  exact ⟨hrun, hvalues, hparse⟩

end Tabular.Selector
