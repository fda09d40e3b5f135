/-
Selectors as text: fields joined by pipes, the operator, quoted values joined by pipes. Reading a
written selector gives the selector back. Each reader stops where the text of its part ends,
whatever follows, because a closing quote is the only quote inside a quoted text that does not
follow a backslash.
-/
import Tabular.Proofs.Query.Escaping
import Tabular.Proofs.Query.SimpleField

namespace Tabular

namespace Selector

/-- Texts with a pipe between each two. -/
def piped (texts : List (List Char)) : List Char :=
  ['|'].intercalate texts

theorem piped_singleton (cs : List Char) : piped [cs] = cs :=
  List.intercalate_singleton

theorem piped_cons_cons (cs ds : List Char) (texts : List (List Char)) :
    piped (cs :: ds :: texts) = cs ++ '|' :: piped (ds :: texts) := by
  rw [piped, List.intercalate_cons_cons, List.append_assoc]
  rfl

theorem exists_piped_cons (text : List Char) (texts : List (List Char)) :
    ∃ rest, piped (text :: texts) = text ++ rest ∧ ∀ c ∈ rest.head?, c = '|' := by
  rcases texts with _ | ⟨next, texts⟩
  · exact ⟨[], by rw [piped_singleton, List.append_nil], nofun⟩
  · exact ⟨_, piped_cons_cons .., fun c hc => (Option.some.inj hc).symm⟩

theorem piped_ne_nil {texts : List (List Char)} (hlast : ∃ text ∈ texts.getLast?, text ≠ []) :
    piped texts ≠ [] := by
  obtain ⟨text, htext, hne⟩ := hlast
  rcases texts with _ | ⟨first, _ | ⟨next, texts⟩⟩
  · cases htext
  · obtain rfl : first = text := Option.some.inj htext
    rwa [piped_singleton]
  · rw [piped_cons_cons]
    exact List.append_ne_nil_of_right_ne_nil _ (List.cons_ne_nil _ _)

/-- Texts with pipes between them end in a pipe or as the last one does. -/
theorem of_mem_getLast?_piped {texts : List (List Char)} {c : Char} (h : c ∈ (piped texts).getLast?) :
    c = '|' ∨ ∃ text ∈ texts.getLast?, c ∈ text.getLast? := by
  induction texts with
  | nil => cases h
  | cons text texts ih =>
    rcases texts with _ | ⟨next, texts⟩
    · rw [piped_singleton] at h
      exact .inr ⟨text, rfl, h⟩
    · rw [piped_cons_cons, List.getLast?_append_cons] at h
      rw [List.getLast?_cons_cons]
      by_cases hrest : piped (next :: texts) = []
      · rw [hrest] at h
        exact .inl (Option.some.inj h).symm
      · rw [List.getLast?_cons_of_ne_nil hrest] at h
        exact ih h

/-! ## Quoted text -/

/-- Puts a backslash before every quote. -/
def escapeQuotes : List Char → List Char
  | [] => []
  | c :: cs => if c = '"' then '\\' :: '"' :: escapeQuotes cs else c :: escapeQuotes cs

/-- A text between quotes. -/
def quoted (s : String) : List Char :=
  '"' :: (escapeQuotes s.toList ++ ['"'])

theorem escapeQuotes_eq (cs : List Char) : escapeQuotes cs = escape '"' cs := by
  induction cs with
  | nil => rfl
  | cons c cs ih =>
    rw [escapeQuotes, ih, escape_cons]
    split <;> rfl

theorem unescapeQuotes_eq (cs : List Char) : unescapeQuotes cs = unescape '"' cs := by
  fun_induction unescapeQuotes cs with
  | case1 cs ih => rw [unescape_pair, ih]
  | case2 c cs hpair ih =>
    rw [unescape_single, ih]
    rintro rfl hcs
    obtain ⟨tail, rfl⟩ := List.head?_eq_some_iff.1 hcs
    exact hpair tail rfl rfl
  | case3 => rfl

theorem unescapeQuotes_escapeQuotes (cs : List Char) : unescapeQuotes (escapeQuotes cs) = cs := by
  rw [unescapeQuotes_eq, escapeQuotes_eq, unescape_escape (by decide)]

/-- The first quote that ends an escaped text is the one written after it. -/
theorem splitAtQuote_escapeQuotes (previous : Char) (cs rest : List Char)
    (h : (previous :: cs).getLast? ≠ some '\\') :
    splitAtQuote previous (escapeQuotes cs ++ '"' :: rest) = some (escapeQuotes cs, rest) := by
  induction cs generalizing previous with
  | nil =>
    have hp : previous ≠ '\\' := fun hp => h (congrArg some hp)
    exact if_pos ⟨rfl, hp⟩
  | cons c cs ih =>
    rw [List.getLast?_cons_cons] at h
    unfold escapeQuotes
    split
    · -- the backslash hides the quote, and then the quote itself is the character before
      rename_i hc
      subst hc
      simp [splitAtQuote, ih '"' h]
    · rename_i hc
      simp [splitAtQuote, hc, ih c h]

theorem quotedName?_quoted {name : String} (rest : List Char) (hne : name ≠ "")
    (hlast : name.toList.getLast? ≠ some '\\') :
    quotedName? (quoted name ++ rest) = some (escapeQuotes name.toList, rest) := by
  unfold quoted
  rcases hname : name.toList with _ | ⟨c, cs⟩
  · exact absurd (String.toList_eq_nil_iff.1 hname) hne
  · rw [hname] at hlast
    unfold escapeQuotes
    split
    · rename_i hc
      subst hc
      simp [quotedName?, splitAtQuote, splitAtQuote_escapeQuotes '"' cs rest hlast]
    · simp [quotedName?, splitAtQuote_escapeQuotes c cs rest hlast]

/-- A value is read back when the characters between its quotes leave room for the closing one. -/
theorem quotedValue_escapeQuotes {limit : Nat} {cs : List Char} (rest : List Char)
    (hlast : cs.getLast? ≠ some '\\') (hlen : (escapeQuotes cs).length < limit) :
    quotedValue '"' limit (escapeQuotes cs ++ '"' :: rest) = (cs, rest) := by
  rw [escapeQuotes_eq] at hlen ⊢
  rw [quotedValue_closed (by decide) (paired_escape (by decide) cs) (by rwa [getLast?_escape]),
    if_pos hlen, List.take_of_length_le (Nat.le_of_lt hlen), unescape_escape (by decide)]

end Selector

/-! ## Fields -/

namespace Field

/-- A field as a selector writes it. -/
def render : Field → List Char
  | .key => ['/']
  | .label => ['/', '/']
  | .position n => '/' :: Nat.toDigits 10 n
  | .named name => Selector.quoted name

/-- The fields that can be written: a position is in range, a name is neither empty nor ends in a
backslash, which would hide the closing quote. -/
def Writable : Field → Prop
  | .key | .label => True
  | .position n => n < positionLimit
  | .named name => name ≠ "" ∧ name.toList.getLast? ≠ some '\\'

/-- The fields that are written without quotes. -/
def Unquoted : Field → Prop
  | .named _ => False
  | _ => True

theorem ofName_render {f : Field} (hf : f.Unquoted) (hw : f.Writable) : ofName f.render = f := by
  cases f with
  | key | label => rfl
  | position n =>
    have hdigit : ∀ c ∈ Nat.toDigits 10 n, c.isDigit := fun c hc =>
      Nat.isDigit_of_mem_toDigits (by decide) (by decide) hc
    have hslash : Nat.toDigits 10 n ≠ ['/'] := by
      intro h
      rw [h] at hdigit
      exact absurd (hdigit '/' List.mem_cons_self) (by decide)
    have hvalue : Text.digitsValue (Nat.toDigits 10 n) = n := Nat.ofDigitChars_ten_toDigits
    rw [render, ofName.eq_3 _ Nat.toDigits_ne_nil hslash, hvalue, if_pos]
    simpa [Nat.toDigits_ne_nil] using ⟨hdigit, hw⟩
  | named => exact hf.elim

theorem render_unquoted {f : Field} (hf : f.Unquoted) :
    ∀ c ∈ f.render, Selector.isFieldChar c = true ∧ c ≠ '|' := by
  cases f with
  | key | label =>
    intro c hc
    obtain rfl : c = '/' := by simpa [render] using hc
    decide
  | position n =>
    intro c hc
    rcases List.mem_cons.1 hc with rfl | hc
    · decide
    · have hdigit : c.isDigit := Nat.isDigit_of_mem_toDigits (by decide) (by decide) hc
      constructor
      · simp [Selector.isFieldChar, Char.isAlphanum, hdigit]
      · rintro rfl
        exact absurd hdigit (by decide)
  | named => exact hf.elim

theorem unquoted_or_named (f : Field) : f.Unquoted ∨ ∃ name, f = .named name := by
  cases f with
  | key | label | position => exact .inl (by unfold Unquoted; trivial)
  | named name => exact .inr ⟨name, rfl⟩

theorem exists_render_unquoted {f : Field} (hf : f.Unquoted) : ∃ cs, f.render = '/' :: cs := by
  cases f with
  | key | label | position => exact ⟨_, rfl⟩
  | named => exact hf.elim

end Field

namespace Selector

/-! ## Reading fields back -/

theorem readFields_of_quoted {cs body rest : List Char} (h : quotedName? cs = some (body, rest)) :
    readFields cs = (.named (String.ofList (unescapeQuotes body)) :: (readFields (dropPipe rest)).1,
      (readFields (dropPipe rest)).2) := by
  rw [readFields]
  split
  · rename_i hs
    cases h.symm.trans hs
    rfl
  · rename_i hn
    cases h.symm.trans hn

theorem splitNames_unquoted_pipe {f : Field} (hf : f.Unquoted) (rest : List Char) :
    splitNames [] (f.render ++ '|' :: rest) = f.render :: splitNames [] rest := by
  obtain ⟨cs, hcs⟩ := Field.exists_render_unquoted hf
  refine splitNames_append_pipe rest (fun c hc => (Field.render_unquoted hf c hc).2) ?_
  rw [hcs]
  exact List.cons_ne_nil _ _

/-- The run of names from an unquoted field on. -/
theorem nameRun_unquoted {f : Field} (hf : f.Unquoted) (rest : List Char) :
    nameRun (f.render ++ rest) =
      (f.render ++ rest.takeWhile isFieldChar, rest.dropWhile isFieldChar) := by
  have hchars : ∀ c ∈ f.render, isFieldChar c = true := fun c hc =>
    (Field.render_unquoted hf c hc).1
  obtain ⟨cs, hcs⟩ := Field.exists_render_unquoted hf
  rw [nameRun.eq_2, List.takeWhile_append_of_pos hchars, List.dropWhile_append_of_pos hchars]
  intro tail htail
  rw [hcs] at htail
  cases htail

theorem quotedName?_unquoted {f : Field} (hf : f.Unquoted) (rest : List Char) :
    quotedName? (f.render ++ rest) = none := by
  obtain ⟨cs, hcs⟩ := Field.exists_render_unquoted hf
  rw [hcs]
  rfl

/-- Another field follows: the run of names goes on, or ends where a quoted name begins. -/
theorem readFields_unquoted_pipe {f : Field} (hf : f.Unquoted) (hw : f.Writable) {cs : List Char}
    (hcs : cs.head? = some '"' ∨ cs.head? = some '/') :
    readFields (f.render ++ '|' :: cs) = (f :: (readFields cs).1, (readFields cs).2) := by
  rw [readFields_of_run (quotedName?_unquoted hf _) (nameRun_unquoted hf _),
    List.takeWhile_cons_of_pos (by decide), List.dropWhile_cons_of_pos (by decide),
    splitNames_unquoted_pipe hf, List.map_cons, Field.ofName_render hf hw]
  rcases cs with _ | ⟨c, cs⟩
  · rcases hcs with h | h <;> cases h
  · rcases hcs with h | h
    · -- a quote stops the run just after the pipe, and reading starts anew there
      cases h
      rw [List.takeWhile_cons_of_neg (by decide), List.dropWhile_cons_of_neg (by decide),
        if_pos (by simp)]
      rfl
    · -- a slash goes on with the run, so both sides read the same names from there
      cases h
      have hrun : nameRun ('/' :: cs) = _ := nameRun.eq_2 _ fun tail h =>
        absurd (List.cons.inj h).1 (by decide)
      rw [readFields_of_run rfl hrun, List.getLast?_append_cons,
        List.takeWhile_cons_of_pos (by decide), List.getLast?_cons_cons]
      split <;> rfl

theorem readFields_operator (op : Operator) (tail : List Char) :
    readFields (op.symbol ++ '"' :: tail) = ([], op.symbol ++ '"' :: tail) := by
  cases op <;> exact readFields_of_run rfl rfl

theorem readFields_unquoted_operator {f : Field} (hf : f.Unquoted) (hw : f.Writable)
    (op : Operator) (tail : List Char) :
    readFields (f.render ++ (op.symbol ++ tail)) = ([f], op.symbol ++ tail) := by
  have hsimple : Simple f.render := by
    obtain ⟨cs, hcs⟩ := Field.exists_render_unquoted hf
    exact .plain (fun c hc => (Field.render_unquoted hf c hc).1)
      ⟨'/', hcs ▸ List.mem_cons_self, by decide⟩
  have hpipe : '|' ∉ f.render := fun h => (Field.render_unquoted hf _ h).2 rfl
  rw [hsimple.readFields_append, hsimple.fieldsOf_eq hpipe, Field.ofName_render hf hw]

theorem readFields_named {name : String} (hw : (Field.named name).Writable) (rest : List Char) :
    readFields ((Field.named name).render ++ rest) =
      (.named name :: (readFields (dropPipe rest)).1, (readFields (dropPipe rest)).2) := by
  rw [Field.render, readFields_of_quoted (quotedName?_quoted rest hw.1 hw.2),
    unescapeQuotes_escapeQuotes, String.ofList_toList]

/-- Written fields start with a quote or a slash. -/
theorem exists_render_fields {fields : List Field} (hne : fields ≠ []) :
    ∃ c cs, piped (fields.map Field.render) = c :: cs ∧ (c = '"' ∨ c = '/') := by
  obtain ⟨f, fields, rfl⟩ := List.exists_cons_of_ne_nil hne
  obtain ⟨c, cs, hcs, hc⟩ : ∃ c cs, f.render = c :: cs ∧ (c = '"' ∨ c = '/') := by
    rcases f.unquoted_or_named with hu | ⟨name, rfl⟩
    · obtain ⟨cs, hcs⟩ := Field.exists_render_unquoted hu
      exact ⟨_, cs, hcs, .inr rfl⟩
    · exact ⟨_, _, rfl, .inl rfl⟩
  obtain ⟨rest, heq, _⟩ := exists_piped_cons f.render (fields.map Field.render)
  exact ⟨c, cs ++ rest, by rw [List.map_cons, heq, hcs, List.cons_append], hc⟩

/-- The fields that stand before an operator are read back. -/
theorem readFields_render {fields : List Field} (hne : fields ≠ []) (hw : ∀ f ∈ fields, f.Writable)
    (op : Operator) (tail : List Char) :
    readFields (piped (fields.map Field.render) ++ (op.symbol ++ '"' :: tail)) =
      (fields, op.symbol ++ '"' :: tail) := by
  induction fields with
  | nil => exact absurd rfl hne
  | cons f fields ih =>
    have hf : f.Writable := hw f List.mem_cons_self
    rcases fields with _ | ⟨g, fields⟩
    · rw [List.map_singleton, piped_singleton]
      rcases f.unquoted_or_named with hu | ⟨name, rfl⟩
      · exact readFields_unquoted_operator hu hf op _
      · have hdrop : dropPipe (op.symbol ++ '"' :: tail) = op.symbol ++ '"' :: tail := by
          cases op <;> rfl
        rw [readFields_named hf, hdrop, readFields_operator]
    · have ih := ih (List.cons_ne_nil _ _) fun h hh => hw h (List.mem_cons_of_mem _ hh)
      rw [List.map_cons, List.map_cons, piped_cons_cons, ← List.map_cons, List.append_assoc,
        List.cons_append]
      rcases f.unquoted_or_named with hu | ⟨name, rfl⟩
      · obtain ⟨c, cs, hcs, hc⟩ := exists_render_fields (List.cons_ne_nil g fields)
        rw [readFields_unquoted_pipe hu hf, ih]
        rw [hcs]
        exact hc.imp (congrArg some) (congrArg some)
      · rw [readFields_named hf, dropPipe, ih]

/-! ## Reading values back -/

theorem readValue_quote (cs : List Char) :
    readValue ('"' :: cs) = quotedValue '"' (maxValueLength - 1) cs := by
  have hstart : Text.trimStart ('"' :: cs) = '"' :: cs := List.dropWhile_cons_of_neg (by decide)
  rw [readValue, hstart]
  rfl

theorem readValue_quoted {value : String} (hlast : value.toList.getLast? ≠ some '\\')
    (hlen : (escapeQuotes value.toList).length < maxValueLength - 1) (rest : List Char) :
    readValue (quoted value ++ rest) = (value.toList, rest) := by
  have hshape : quoted value ++ rest = '"' :: (escapeQuotes value.toList ++ '"' :: rest) := by
    simp [quoted]
  rw [hshape, readValue_quote]
  exact quotedValue_escapeQuotes rest hlast hlen

/-- The rest of the text is dropped when it does not go on after a pipe. -/
theorem readValues_of_stop {cs value rest : List Char} (h : readValue cs = (value, rest))
    (hrest : ∀ c tail, rest ≠ '|' :: c :: tail) : readValues cs = [String.ofList value] := by
  rw [readValues]
  split
  · rename_i c tail hs
    exact absurd (congrArg Prod.snd (h.symm.trans hs)) (hrest c tail)
  · rename_i hs
    cases h.symm.trans hs
    rfl

theorem readValues_of_pipe {cs value rest : List Char} {c : Char}
    (h : readValue cs = (value, '|' :: c :: rest)) :
    readValues cs = String.ofList value :: readValues (c :: rest) := by
  rw [readValues]
  split
  · rename_i hs
    cases h.symm.trans hs
    rfl
  · rename_i hn hs
    cases h.symm.trans hs
    exact absurd rfl (hn c rest)

/-- Values that are read back one by one are read back as a list, whatever way they are written, if
there is text after the last pipe. -/
theorem readValues_piped {write : String → List Char} {values : List String} (hne : values ≠ [])
    (hread : ∀ value ∈ values, ∀ rest, (∀ c ∈ rest.head?, c = '|') →
      readValue (write value ++ rest) = (value.toList, rest))
    (hlast : 1 < values.length → ∃ text ∈ (values.map write).getLast?, text ≠ []) :
    readValues (piped (values.map write)) = values := by
  induction values with
  | nil => exact absurd rfl hne
  | cons value values ih =>
    have hvalue := hread value List.mem_cons_self
    rcases values with _ | ⟨next, values⟩
    · have hend := hvalue [] nofun
      rw [List.append_nil] at hend
      rw [List.map_singleton, piped_singleton, readValues_of_stop hend nofun, String.ofList_toList]
    · have hlast : ∃ text ∈ ((next :: values).map write).getLast?, text ≠ [] := by
        have hlast := hlast (Nat.one_lt_succ_succ _)
        rwa [List.map_cons, List.map_cons, List.getLast?_cons_cons, ← List.map_cons] at hlast
      have ih := ih (List.cons_ne_nil _ _) (fun v hv => hread v (List.mem_cons_of_mem _ hv))
        fun _ => hlast
      obtain ⟨c, cs, hcs⟩ := List.exists_cons_of_ne_nil (piped_ne_nil hlast)
      have hpipe := hvalue ('|' :: c :: cs) fun d hd => (Option.some.inj hd).symm
      rw [List.map_cons, List.map_cons, piped_cons_cons, ← List.map_cons, hcs,
        readValues_of_pipe hpipe, ← hcs, ih, String.ofList_toList]

/-- Written values stand between quotes. -/
theorem exists_render_values {values : List String} (hne : values ≠ []) :
    ∃ cs, piped (values.map quoted) = '"' :: (cs ++ ['"']) := by
  induction values with
  | nil => exact absurd rfl hne
  | cons value values ih =>
    rcases values with _ | ⟨next, values⟩
    · exact ⟨escapeQuotes value.toList, piped_singleton _⟩
    · obtain ⟨cs, hcs⟩ := ih (List.cons_ne_nil _ _)
      refine ⟨escapeQuotes value.toList ++ '"' :: '|' :: '"' :: cs, ?_⟩
      rw [List.map_cons, List.map_cons, piped_cons_cons, ← List.map_cons, hcs]
      simp [quoted]

/-- The values that end a selector are read back. -/
theorem readValues_render {values : List String} (hne : values ≠ [])
    (hlast : ∀ value ∈ values, value.toList.getLast? ≠ some '\\')
    (hlen : ∀ value ∈ values, (escapeQuotes value.toList).length < maxValueLength - 1) :
    readValues (piped (values.map quoted)) = values := by
  refine readValues_piped hne (fun v hv rest _ => readValue_quoted (hlast v hv) (hlen v hv) rest)
    fun _ => ?_
  rw [List.getLast?_map, List.getLast?_eq_some_getLast hne]
  exact ⟨_, rfl, List.cons_ne_nil _ _⟩

/-! ## Whole selectors -/

/-- A selector as a query writes it. -/
def render (s : Selector) : List Char :=
  piped (s.fields.map Field.render) ++ s.operator.symbol ++
    piped (s.values.map quoted)

/-- The selectors that can be written: there are fields and values, every field can be written,
and every value fits in what is read for one and does not end in a backslash. -/
structure Writable (s : Selector) : Prop where
  fields_ne : s.fields ≠ []
  fields : ∀ f ∈ s.fields, f.Writable
  values_ne : s.values ≠ []
  values_last : ∀ value ∈ s.values, value.toList.getLast? ≠ some '\\'
  values_length : ∀ value ∈ s.values, (escapeQuotes value.toList).length ≤ 998

/-- A selector that has its own text as its source. -/
def asWritten (s : Selector) : Selector :=
  { s with source := String.ofList s.render }

/-- A written selector stands between characters that are not blank. -/
theorem trim_render {s : Selector} (hw : s.Writable) : Text.trim s.render = s.render := by
  obtain ⟨c, cs, hcs, hc⟩ := exists_render_fields hw.fields_ne
  obtain ⟨ds, hds⟩ := exists_render_values hw.values_ne
  apply Text.trim_eq_self
  · unfold render
    rw [hcs]
    rintro d hd
    cases hd
    rcases hc with rfl | rfl <;> decide
  · unfold render
    rw [hds, ← List.cons_append, ← List.append_assoc, List.getLast?_concat]
    rintro d hd
    cases hd
    decide

/-- Reading undoes writing for a selector. -/
theorem parse_render {s : Selector} (hw : s.Writable) :
    parse (String.ofList s.render) = .ok s.asWritten := by
  obtain ⟨cs, hcs⟩ := exists_render_values hw.values_ne
  have hfields : readFields (Text.trim (String.ofList s.render).toList) =
      (s.fields, s.operator.symbol ++ piped (s.values.map quoted)) := by
    rw [String.toList_ofList, trim_render hw, render, hcs, List.append_assoc]
    exact readFields_render hw.fields_ne hw.fields s.operator _
  have hstop : ∀ c ∈ (piped (s.values.map quoted)).head?, Operator.isSymbolChar c = false := by
    rw [hcs]
    rintro c ⟨⟩
    decide
  have hlen : ∀ value ∈ s.values, (escapeQuotes value.toList).length < maxValueLength - 1 :=
    fun value hv => Nat.lt_succ_of_le (hw.values_length value hv)
  rw [parse_of_readFields hfields hw.fields_ne hstop,
    readValues_render hw.values_ne hw.values_last hlen]
  rfl

end Selector

end Tabular
