/-
Long values. A value takes as many characters of the text as the limit leaves room for, and what is
beyond is dropped unless it starts with a pipe and goes on after it. No pipe of a quoted value and
no pipe after a backslash ends a value before the limit; but when the limit is used up just before
such a pipe, nothing tells it from a pipe between two values, and there is one value more.
-/
import Tabular.Proofs.Query.Unquoted

namespace Tabular.Selector

/-! ## Values written as one literal -/

/-- What is written for a single value. -/
inductive Literal where
  /-- A text between double quotes. -/
  | quoted (body : List Char)
  /-- A text without quotes. -/
  | bare (text : List Char)

namespace Literal

/-- The characters of a literal. -/
def text : Literal → List Char
  | quoted body => '"' :: (body ++ ['"'])
  | bare text => text

/-- No character inside ends the value: between quotes every quote follows a backslash, and without
them every pipe does. -/
def Single : Literal → Prop
  | quoted body => Escaped '"' body ∧ body.getLast? ≠ some '\\'
  | bare text => Escaped '|' text ∧ StartsBare text ∧
    ∀ c ∈ text.head?, Operator.isSymbolChar c = false

/-- The character that is escaped inside. -/
def mark : Literal → Char
  | quoted _ => '"'
  | bare _ => '|'

/-- The characters that stand for the value. -/
def content : Literal → List Char
  | quoted body => body
  | bare text => Text.trimEnd text

/-- The number of characters that are read for the value, after the opening quote if there is one. -/
def room : Literal → Nat
  | quoted _ => 999
  | bare _ => 1000

/-- The value that a literal is read as. -/
def value (l : Literal) : String :=
  String.ofList (unescape l.mark (l.content.take l.room))

/-- What is left after the value. A closing quote that is reached is dropped. -/
def beyond : Literal → List Char
  | quoted body => if body.length < 999 then [] else body.drop 999 ++ ['"']
  | bare text => (Text.trimEnd text).drop 1000

/-- The first character that there is no room for is a pipe, and not the last of the text. -/
def CutAtPipe : Literal → Prop
  | quoted body => body[999]? = some '|'
  | bare text => (Text.trimEnd text)[1000]? = some '|' ∧ 1001 < (Text.trimEnd text).length

variable {l : Literal}

theorem readValue_text (h : l.Single) : readValue (Text.trimEnd l.text) =
    (unescape l.mark (l.content.take l.room), l.beyond) := by
  cases l with
  | quoted body =>
    have htrim : Text.trimEnd (quoted body).text = '"' :: (body ++ ['"']) := by
      refine Text.trimEnd_eq_self fun c hc => ?_
      rw [text, ← List.cons_append, List.getLast?_concat] at hc
      cases hc
      decide
    rw [htrim, readValue_quote]
    exact quotedValue_closed (by decide) (h.1.paired (by decide)) h.2 _
  | bare text =>
    have hstart : StartsBare (Text.trimEnd text) := fun c hc =>
      h.2.1 c (Text.head?_of_head?_trimEnd hc)
    have hpaired : Paired '|' (Text.trimEnd text) :=
      (h.1.of_isPrefix (Text.trimEnd_isPrefix text)).paired (by decide)
    have hnil : (Text.trimEnd text).getLast? = some '\\' → ([] : List Char).head? ≠ some '|' :=
      fun _ => nofun
    have hread := reads_bareValue.append hpaired hnil maxValueLength
    rw [bareValue_nil, List.append_nil, List.append_nil, List.append_nil] at hread
    exact (readValue_of_startsBare hstart).trans hread

theorem cutAtPipe_iff : l.CutAtPipe ↔ ∃ c rest, l.beyond = '|' :: c :: rest := by
  cases l with
  | quoted body =>
    change body[999]? = some '|' ↔
      ∃ c rest, (if body.length < 999 then [] else body.drop 999 ++ ['"']) = '|' :: c :: rest
    split
    · rename_i hlen
      simp [List.getElem?_eq_none (Nat.le_of_lt hlen)]
    · -- the closing quote is left too, so the pipe is not the last character
      rw [← List.head?_drop]
      rcases body.drop 999 with _ | ⟨d, _ | ⟨c, rest⟩⟩ <;> simp
  | bare text =>
    change (Text.trimEnd text)[1000]? = some '|' ∧ 1001 < (Text.trimEnd text).length ↔
      ∃ c rest, (Text.trimEnd text).drop 1000 = '|' :: c :: rest
    have hlen : ((Text.trimEnd text).drop 1000).length = (Text.trimEnd text).length - 1000 :=
      List.length_drop
    rw [← List.head?_drop]
    rcases hdrop : (Text.trimEnd text).drop 1000 with _ | ⟨d, _ | ⟨c, rest⟩⟩
    · simp
    · rw [hdrop, List.length_singleton] at hlen
      simp
      omega
    · rw [hdrop, List.length_cons, List.length_cons] at hlen
      simp
      omega

theorem isSymbolChar_head?_text (h : l.Single) :
    ∀ c ∈ l.text.head?, Operator.isSymbolChar c = false := by
  cases l with
  | quoted body =>
    rintro c ⟨⟩
    decide
  | bare text => exact h.2.2

end Literal

theorem readValues_ne_nil (cs : List Char) : readValues cs ≠ [] := by
  rw [readValues]
  split <;> exact List.cons_ne_nil _ _

/-- There is one value exactly when the rest does not go on after a pipe. -/
theorem exists_readValues {cs value rest : List Char} (h : readValue cs = (value, rest)) :
    ∃ more, readValues cs = String.ofList value :: more ∧
      (more = [] ↔ ¬ ∃ c tail, rest = '|' :: c :: tail) := by
  by_cases hrest : ∃ c tail, rest = '|' :: c :: tail
  · obtain ⟨c, tail, rfl⟩ := hrest
    exact ⟨_, readValues_of_pipe h, fun hnil => absurd hnil (readValues_ne_nil _),
      fun hn => absurd ⟨c, tail, rfl⟩ hn⟩
  · exact ⟨[], readValues_of_stop h fun c tail heq => hrest ⟨c, tail, heq⟩, fun _ => hrest,
      fun _ => rfl⟩

/-! ## Whole selectors -/

/-- A selector with one literal after a simple field. -/
def literalText (run : List Char) (op : Operator) (l : Literal) : String :=
  String.ofList (run ++ (op.symbol ++ l.text))

/-- A literal is one value, cut at the limit, exactly when it is not cut just before a pipe. -/
theorem parse_literal_single_iff {run : List Char} (hrun : Simple run) (op : Operator) {l : Literal}
    (hl : l.Single) :
    ∃ fields more, fields ≠ [] ∧ ('|' ∉ run → fields = [Field.ofName run]) ∧
      parse (literalText run op l) = .ok ⟨fields, op, l.value :: more, literalText run op l⟩ ∧
      (more = [] ↔ ¬ l.CutAtPipe) := by
  obtain ⟨more, hmore, hiff⟩ := exists_readValues (Literal.readValue_text hl)
  refine ⟨fieldsOf run, more, hrun.fieldsOf_ne_nil, hrun.fieldsOf_eq, ?_, ?_⟩
  · rw [literalText, hrun.parse_append op (Literal.isSymbolChar_head?_text hl), hmore]
    rfl
  · rw [Literal.cutAtPipe_iff]
    exact hiff

/-- A body with a pipe after some letters. -/
def pipeAfter (n : Nat) : List Char :=
  List.replicate n 'x' ++ ['|', 'y']

theorem quote_not_mem_pipeAfter (n : Nat) : '"' ∉ pipeAfter n := by
  simp [pipeAfter]

theorem length_pipeAfter (n : Nat) : (pipeAfter n).length = n + 2 := by
  simp [pipeAfter]

theorem single_pipeAfter (n : Nat) : (Literal.quoted (pipeAfter n)).Single :=
  ⟨escaped_of_not_mem (quote_not_mem_pipeAfter n), by simp [pipeAfter]⟩

theorem unescape_take_pipeAfter (n limit : Nat) :
    unescape '"' ((pipeAfter n).take limit) = (pipeAfter n).take limit :=
  unescape_of_not_mem fun hmem => quote_not_mem_pipeAfter n (List.mem_of_mem_take hmem)

/-- A pipe that takes the last room stays in the value, and what is beyond is dropped. -/
theorem parse_literal_single_last_room :
    Simple ['a'] ∧ (Literal.quoted (pipeAfter 998)).Single ∧
      ∃ fields, fields ≠ [] ∧ ('|' ∉ ['a'] → fields = [Field.ofName ['a']]) ∧
        parse (literalText ['a'] .equal (.quoted (pipeAfter 998))) =
          .ok ⟨fields, .equal, [String.ofList (List.replicate 998 'x' ++ ['|'])],
            literalText ['a'] .equal (.quoted (pipeAfter 998))⟩ := by
  have hrun : Simple ['a'] := .plain (List.all_eq_true.1 rfl) ⟨'a', List.mem_cons_self, by decide⟩
  obtain ⟨fields, more, hne, hfields, hparse, hmore⟩ :=
    parse_literal_single_iff hrun .equal (single_pipeAfter 998)
  have hcut : ¬ (Literal.quoted (pipeAfter 998)).CutAtPipe := by
    change (pipeAfter 998)[999]? ≠ some '|'
    rw [pipeAfter, List.getElem?_append_right (by rw [List.length_replicate]; decide),
      List.length_replicate]
    decide
  have hvalue : (Literal.quoted (pipeAfter 998)).value =
      String.ofList (List.replicate 998 'x' ++ ['|']) := by
    have htake : (pipeAfter 998).take 999 = List.replicate 998 'x' ++ ['|'] := by
      rw [pipeAfter, List.take_append, List.take_of_length_le (by rw [List.length_replicate]; decide),
        List.length_replicate]
      rfl
    exact congrArg String.ofList ((unescape_take_pipeAfter 998 999).trans htake)
  rw [hmore.2 hcut, hvalue] at hparse
  exact ⟨hrun, single_pipeAfter 998, fields, hne, hfields, hparse⟩

/-- A quoted pipe just beyond the limit makes a second value. -/
theorem parse_literal_two_values :
    Simple ['a'] ∧ (Literal.quoted (pipeAfter 999)).Single ∧
      parse (literalText ['a'] .equal (.quoted (pipeAfter 999))) =
        .ok ⟨[.named "a"], .equal, [String.ofList (List.replicate 999 'x'), "y\""],
          literalText ['a'] .equal (.quoted (pipeAfter 999))⟩ := by
  have hrun : Simple ['a'] := .plain (List.all_eq_true.1 rfl) ⟨'a', List.mem_cons_self, by decide⟩
  have hl := single_pipeAfter 999
  have hvalue : unescape '"' ((pipeAfter 999).take 999) = List.replicate 999 'x' := by
    rw [unescape_take_pipeAfter, pipeAfter, List.take_left' List.length_replicate]
  have hbeyond : (Literal.quoted (pipeAfter 999)).beyond = '|' :: 'y' :: ['"'] := by
    rw [Literal.beyond, if_neg (by rw [length_pipeAfter]; decide), pipeAfter,
      List.drop_left' List.length_replicate]
    rfl
  have hread : readValue (Text.trimEnd (Literal.quoted (pipeAfter 999)).text) =
      (List.replicate 999 'x', '|' :: 'y' :: ['"']) := by
    rw [Literal.readValue_text hl, hbeyond]
    exact congrArg (·, _) hvalue
  have hmore : readValues ['y', '"'] = ["y\""] := readValues_of_stop rfl nofun
  have hfields : fieldsOf ['a'] = [.named "a"] := rfl
  rw [literalText, hrun.parse_append .equal (Literal.isSymbolChar_head?_text hl),
    readValues_of_pipe hread, hmore, hfields]
  exact ⟨hrun, hl, rfl⟩

end Tabular.Selector
