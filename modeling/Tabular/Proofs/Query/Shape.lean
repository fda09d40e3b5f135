/-
The shape of a query: terms joined by set operators, where a term is a selector or a query in
brackets. Balanced tokens have that shape exactly when terms and operators alternate. The shape
check asks for less: the tokens have to settle, which means that every operator finds two values
when it is applied and that one value is left in the end. So a query is accepted without having
the shape exactly when its tokens settle and do not alternate.
-/
import Tabular.Proofs.Query.Reading
import Tabular.Proofs.Query.Written
import Tabular.Query.Basic

namespace Tabular.Token

variable {α β : Type}

/-! ## Well-shaped tokens -/

/-- The parts of a query. -/
inductive Part where
  | term
  | query

/-- Terms joined by set operators; a term is an operand or a query in brackets. -/
inductive WellShaped : Part → List (Token α) → Prop
  | operand (a : α) : WellShaped .term [.operand a]
  | bracketed {ts : List (Token α)} : WellShaped .query ts →
      WellShaped .term (.opening :: ts ++ [.closing])
  | single {ts : List (Token α)} : WellShaped .term ts → WellShaped .query ts
  | join {ts us : List (Token α)} (op : SetOperator) : WellShaped .query ts →
      WellShaped .term us → WellShaped .query (ts ++ .operator op :: us)

theorem WellShaped.join_query {part : Part} {ts us : List (Token α)} (op : SetOperator)
    (h : WellShaped .query ts) (h' : WellShaped part us) :
    WellShaped .query (ts ++ .operator op :: us) := by
  induction h' with
  | operand a => exact h.join op (.operand a)
  | bracketed h' _ => exact h.join op h'.bracketed
  | single _ ih => exact ih
  | join op' _ h' ih _ => simpa using ih.join op' h'

/-- Whether terms and set operators alternate, from a place on where a term is due or just was. -/
def alternates (due : Bool) : List (Token α) → Bool
  | [] => !due
  | .operand _ :: ts => due && alternates false ts
  | .opening :: ts => due && alternates true ts
  | .closing :: ts => !due && alternates false ts
  | .operator _ :: ts => !due && alternates true ts

theorem WellShaped.alternates_append {part : Part} {ts : List (Token α)} (h : WellShaped part ts)
    (rest : List (Token α)) : alternates true (ts ++ rest) = alternates false rest := by
  induction h generalizing rest with
  | operand a => rfl
  | bracketed _ ih =>
    rw [List.append_assoc, List.cons_append, alternates, ih]
    rfl
  | single _ ih => exact ih rest
  | join op _ _ ih ih' =>
    rw [List.append_assoc, ih, List.cons_append, alternates, ih']
    rfl

/-- The part that a level is when its runs are single terms. -/
def Level.part : Level → Part
  | .run => .term
  | .conjunction | .expression => .query

/-- Reading on from a place where a term is due, either nothing is read or one part is. Above a
run, this needs that what follows is no further term. -/
theorem Reads.alternates_append {level : Level} {ts : List (Token α)} {p : List (Step α)}
    (h : Reads level ts p) {rest : List (Token α)}
    (hrest : level.part = .query → alternates true rest = false)
    (ha : alternates true (ts ++ rest) = true) :
    (ts = [] ∧ alternates true rest = true) ∨
      (WellShaped level.part ts ∧ alternates false rest = true) := by
  induction h generalizing rest with
  | nothing => exact .inl ⟨rfl, ha⟩
  | operand a _ ih =>
    rw [List.append_assoc] at ha
    rcases ih (fun h => by cases h) ha with ⟨rfl, ha⟩ | ⟨_, ha⟩
    · exact .inr ⟨.operand a, ha⟩
    · cases ha
  | bracketed _ _ ih ih' =>
    rw [List.append_assoc, List.append_assoc] at ha
    rcases ih (fun h => by cases h) ha with ⟨rfl, ha⟩ | ⟨_, ha⟩
    · rcases ih' (fun _ => rfl) ha with ⟨rfl, ha⟩ | ⟨hw, ha⟩
      · cases ha
      · exact .inr ⟨.bracketed hw, ha⟩
    · cases ha
  | conjunction _ ih =>
    rcases ih (fun h => by cases h) ha with ⟨_, ha⟩ | ⟨hw, ha⟩
    · rw [hrest rfl] at ha
      cases ha
    · exact .inr ⟨.single hw, ha⟩
  | tight op _ _ _ ih ih' =>
    rw [List.append_assoc] at ha
    rcases ih (fun _ => rfl) ha with ⟨_, ha⟩ | ⟨hw, ha⟩
    · cases ha
    · rcases ih' (fun h => by cases h) ha with ⟨_, ha⟩ | ⟨hw', ha⟩
      · rw [hrest rfl] at ha
        cases ha
      · exact .inr ⟨.join op hw hw', ha⟩
  | expression _ ih => exact ih hrest ha
  | union _ _ ih ih' =>
    rw [List.append_assoc] at ha
    rcases ih (fun _ => rfl) ha with ⟨_, ha⟩ | ⟨hw, ha⟩
    · cases ha
    · rcases ih' hrest ha with ⟨_, ha⟩ | ⟨hw', ha⟩
      · rw [hrest rfl] at ha
        cases ha
      · exact .inr ⟨hw.join_query .union hw', ha⟩

/-- Balanced tokens are well-shaped exactly when terms and set operators alternate. -/
theorem wellShaped_iff {ts : List (Token α)} (hb : Balanced ts) :
    WellShaped .query ts ↔ alternates true ts = true := by
  constructor
  · intro h
    simpa [alternates] using h.alternates_append []
  · intro h
    obtain ⟨p, hp⟩ := exists_reads hb
    rcases @Reads.alternates_append _ _ _ _ hp [] (fun _ => rfl) (by simpa using h) with
      ⟨_, ha⟩ | ⟨hw, _⟩
    · cases ha
    · exact hw

/-! ## Tokens that settle -/

/-- Reading tokens at a level takes the number of values from one to another. Terms side by side
each add one. An operator is applied after what it joins, where it has to find two values. -/
inductive Settles : Level → List (Token α) → Nat → Nat → Prop
  | nothing (d : Nat) : Settles .run [] d d
  | operand {ts : List (Token α)} {d e : Nat} (a : α) : Settles .run ts d e →
      Settles .run (ts ++ [.operand a]) d (e + 1)
  | bracketed {ts us : List (Token α)} {d e f : Nat} : Settles .run ts d e →
      Settles .expression us e f → Settles .run (ts ++ .opening :: us ++ [.closing]) d f
  | conjunction {ts : List (Token α)} {d e : Nat} : Settles .run ts d e →
      Settles .conjunction ts d e
  | tight {ts us : List (Token α)} {d e f : Nat} (op : SetOperator) :
      Settles .conjunction ts d e → op ≠ .union → Settles .run us e (f + 2) →
      Settles .conjunction (ts ++ .operator op :: us) d (f + 1)
  | expression {ts : List (Token α)} {d e : Nat} : Settles .conjunction ts d e →
      Settles .expression ts d e
  | union {ts us : List (Token α)} {d e f : Nat} : Settles .expression ts d e →
      Settles .conjunction us e (f + 2) →
      Settles .expression (ts ++ .operator .union :: us) d (f + 1)

theorem Settles.exists_reads {level : Level} {ts : List (Token α)} {d e : Nat}
    (h : Settles level ts d e) : ∃ p, Reads level ts p ∧ Step.height? d p = some e := by
  induction h with
  | nothing d => exact ⟨[], .nothing, rfl⟩
  | operand a _ ih =>
    obtain ⟨p, hp, hd⟩ := ih
    refine ⟨p ++ [.operand a], hp.operand a, ?_⟩
    rw [Step.height?_append, hd]
    rfl
  | bracketed _ _ ih ih' =>
    obtain ⟨p, hp, hd⟩ := ih
    obtain ⟨q, hq, he⟩ := ih'
    refine ⟨p ++ q, hp.bracketed hq, ?_⟩
    rw [Step.height?_append, hd, Option.bind_some, he]
  | conjunction _ ih =>
    obtain ⟨p, hp, hd⟩ := ih
    exact ⟨p, hp.conjunction, hd⟩
  | tight op _ hop _ ih ih' =>
    obtain ⟨p, hp, hd⟩ := ih
    obtain ⟨q, hq, he⟩ := ih'
    refine ⟨_, hp.tight op hop hq, Step.height?_append_operator op ?_⟩
    rw [Step.height?_append, hd, Option.bind_some, he]
  | expression _ ih =>
    obtain ⟨p, hp, hd⟩ := ih
    exact ⟨p, hp.expression, hd⟩
  | union _ _ ih ih' =>
    obtain ⟨p, hp, hd⟩ := ih
    obtain ⟨q, hq, he⟩ := ih'
    refine ⟨_, hp.union hq, Step.height?_append_operator .union ?_⟩
    rw [Step.height?_append, hd, Option.bind_some, he]

theorem Reads.settles {level : Level} {ts : List (Token α)} {p : List (Step α)} {d e : Nat}
    (h : Reads level ts p) (hd : Step.height? d p = some e) : Settles level ts d e := by
  induction h generalizing d e with
  | nothing =>
    cases hd
    exact .nothing d
  | operand a _ ih =>
    rw [Step.height?_append] at hd
    obtain ⟨f, hf, hfe⟩ := Option.bind_eq_some_iff.1 hd
    cases hfe
    exact (ih hf).operand a
  | bracketed _ _ ih ih' =>
    rw [Step.height?_append] at hd
    obtain ⟨f, hf, hfe⟩ := Option.bind_eq_some_iff.1 hd
    exact (ih hf).bracketed (ih' hfe)
  | conjunction _ ih => exact (ih hd).conjunction
  | tight op _ hop _ ih ih' =>
    obtain ⟨n, rfl, hn⟩ := Step.height?_append_operator_iff.1 hd
    rw [Step.height?_append] at hn
    obtain ⟨f, hf, hfn⟩ := Option.bind_eq_some_iff.1 hn
    exact (ih hf).tight op hop (ih' hfn)
  | expression _ ih => exact (ih hd).expression
  | union _ _ ih ih' =>
    obtain ⟨n, rfl, hn⟩ := Step.height?_append_operator_iff.1 hd
    rw [Step.height?_append] at hn
    obtain ⟨f, hf, hfn⟩ := Option.bind_eq_some_iff.1 hn
    exact (ih hf).union (ih' hfn)

theorem map_traverse {ε : Type} {f : α → Except ε β} {ts : List (Token α)} {us : List (Token β)}
    (h : traverse f ts = .ok us) : us.map (map fun _ => ()) = ts.map (map fun _ => ()) := by
  fun_induction traverse f ts generalizing us with
  | case1 =>
    cases h
    rfl
  | case2 a ts ih =>
    obtain ⟨b, _, h⟩ := bind_eq_ok_iff.1 h
    obtain ⟨vs, hvs, h⟩ := bind_eq_ok_iff.1 h
    cases h
    rw [List.map_cons, ih hvs]
    rfl
  | case3 _ ts ih | case4 ts ih | case5 ts ih =>
    obtain ⟨vs, hvs, h⟩ := bind_eq_ok_iff.1 h
    cases h
    rw [List.map_cons, ih hvs]
    rfl

theorem exists_of_traverse_eq_error {ε : Type} {f : α → Except ε β} {ts : List (Token α)} {e : ε}
    (h : traverse f ts = .error e) : ∃ a, f a = .error e := by
  have hoperands := mapM_operands f ts
  rw [h] at hoperands
  obtain ⟨a, _, ha⟩ := exists_of_mapM_eq_error hoperands
  exact ⟨a, ha⟩

/-- The shape check counts what settling counts. -/
theorem settles_iff {ts : List (Token α)} (hb : Balanced ts) {d e : Nat} :
    Settles .expression ts d e ↔ Step.height? d (Step.ofTokens ts) = some e := by
  constructor
  · intro h
    obtain ⟨p, hp, hd⟩ := h.exists_reads
    rwa [hp.ofTokens_eq]
  · intro h
    obtain ⟨p, hp⟩ := Token.exists_reads hb
    rw [hp.ofTokens_eq] at h
    exact hp.settles h

/-- Giving tokens other operands changes nothing that the shape check counts. -/
theorem height?_traverse {ε : Type} {f : α → Except ε β} {ts : List (Token α)}
    {us : List (Token β)} (h : traverse f ts = .ok us) (d : Nat) :
    Step.height? d (Step.ofTokens us) = Step.height? d (Step.ofTokens ts) := by
  have hshape : us.map (map fun _ => ()) = ts.map (map fun _ => ()) := map_traverse h
  rw [← Step.height?_map (fun _ => ()), ← Step.height?_map (fun _ => ()) d (Step.ofTokens ts)]
  unfold Step.ofTokens
  rw [← Step.convert_map, ← Step.convert_map, hshape]

/-! ## What compiling accepts -/

theorem parse_of_selectors {source : String} {ts : List (Token String)}
    {us : List (Token Selector)} (hts : tokenize source = .ok ts)
    (hus : traverse Selector.parse ts = .ok us) :
    Query.parse source =
      ((Step.check (Step.ofTokens us)).mapError .malformed).map fun _ =>
        ⟨source, Step.ofTokens us⟩ := by
  simp only [Query.parse, Query.parseWith, Query.checkLimit, hts, hus, bind, Except.bind]
  cases Step.check (Step.ofTokens us) <;> rfl

theorem exists_selectors_of_parse {source : String} {ts : List (Token String)} {q : Query}
    (hts : tokenize source = .ok ts) (hq : Query.parse source = .ok q) :
    ∃ us, traverse Selector.parse ts = .ok us := by
  obtain ⟨ts', hts', hq⟩ := bind_eq_ok_iff.1 hq
  cases hts.symm.trans hts'
  obtain ⟨_, _, hq⟩ := bind_eq_ok_iff.1 hq
  obtain ⟨us, hus, _⟩ := bind_eq_ok_iff.1 hq
  exact ⟨us, hus⟩

theorem exists_operand_ofTokens {ts : List (Token α)} (h : ∃ a, .operand a ∈ ts) :
    ∃ a, .operand a ∈ Step.ofTokens ts := by
  obtain ⟨a, ha⟩ := h
  have hmem : a ∈ (Step.ofTokens ts).filterMap Step.operand? := by
    rw [Step.operands_ofTokens]
    exact List.mem_filterMap.2 ⟨_, ha, rfl⟩
  obtain ⟨step, hstep, he⟩ := List.mem_filterMap.1 hmem
  cases step with
  | operand b =>
    cases he
    exact ⟨_, hstep⟩
  | operator => cases he

/-- Tokens with an operand pass the check exactly when they settle to one value. -/
theorem check_eq_ok_iff {ε : Type} {f : α → Except ε β} {ts : List (Token α)}
    {us : List (Token β)} (hb : Balanced ts) (hts : ∃ a, .operand a ∈ ts)
    (hus : traverse f ts = .ok us) :
    Step.check (Step.ofTokens us) = .ok () ↔ Settles .expression ts 0 1 := by
  rw [settles_iff hb, Step.check, Step.checkFrom_eq_ok_iff]
  constructor
  · rintro ⟨n, hn, h⟩
    rw [height?_traverse hus] at h
    have hpos : 0 < n := Step.height?_pos h (.inr (exists_operand_ofTokens hts))
    obtain rfl : n = 1 := by omega
    exact h
  · intro h
    exact ⟨1, Nat.le_refl 1, by rw [height?_traverse hus, h]⟩

/-- A text with a selector is accepted only with the shape of a query, unless its tokens settle
without alternating. When its selectors can be read, it is accepted exactly when its tokens
settle, and else refused as malformed. -/
theorem parse_only_wellShaped_iff {source : String} {ts : List (Token String)}
    (hts : tokenize source = .ok ts) (hsel : ∃ chunk, .operand chunk ∈ ts) :
    (((∃ q, Query.parse source = .ok q) → WellShaped .query ts) ↔
        ((∃ us, traverse Selector.parse ts = .ok us) → Settles .expression ts 0 1 →
          alternates true ts = true)) ∧
      ∀ us, traverse Selector.parse ts = .ok us →
        ((∃ q, Query.parse source = .ok q) ↔ Settles .expression ts 0 1) ∧
          (¬ Settles .expression ts 0 1 →
            ∃ shape, Query.parse source = .error (.malformed shape)) := by
  have hb : Balanced ts := balanced_of_tokenize hts
  have accepted : ∀ us, traverse Selector.parse ts = .ok us →
      ((∃ q, Query.parse source = .ok q) ↔ Settles .expression ts 0 1) := by
    intro us hus
    rw [← check_eq_ok_iff hb hsel hus, parse_of_selectors hts hus]
    cases Step.check (Step.ofTokens us) <;> simp [Except.map, Except.mapError]
  refine ⟨?_, fun us hus => ⟨accepted us hus, fun hn => ?_⟩⟩
  · rw [wellShaped_iff hb]
    constructor
    · rintro h ⟨us, hus⟩ hset
      exact h ((accepted us hus).2 hset)
    · rintro h ⟨q, hq⟩
      obtain ⟨us, hus⟩ := exists_selectors_of_parse hts hq
      exact h ⟨us, hus⟩ ((accepted us hus).1 ⟨q, hq⟩)
  · rw [← check_eq_ok_iff hb hsel hus] at hn
    rw [parse_of_selectors hts hus]
    cases hc : Step.check (Step.ofTokens us) with
    | ok => exact absurd hc hn
    | error shape => exact ⟨shape, rfl⟩

/-- An operator that follows both its terms still finds two values, so it is accepted. -/
theorem parse_trailing_operator :
    tokenize "a=1 (a=1) +" = .ok [.operand "a=1", .opening, .operand "a=1", .closing,
        .operator .intersection] ∧
      (∃ q, Query.parse "a=1 (a=1) +" = .ok q) ∧
      ¬ WellShaped .query [.operand "a=1", .opening, .operand "a=1", .closing,
        .operator .intersection] := by
  have hts : tokenize "a=1 (a=1) +" = .ok [.operand "a=1", .opening, .operand "a=1", .closing,
      .operator .intersection] := rfl
  have hfields : Selector.readFields ['a', '=', '1'] = ([.named "a"], ['=', '1']) :=
    Selector.readFields_of_run rfl rfl
  have hvalues : Selector.readValues ['1'] = ["1"] := Selector.readValues_of_stop rfl nofun
  have hselector : Selector.parse "a=1" = .ok ⟨[.named "a"], .equal, ["1"], "a=1"⟩ := by
    have htrim : Text.trim "a=1".toList = ['a', '=', '1'] := rfl
    rw [Selector.parse, htrim, hfields]
    show Except.ok (Selector.mk [.named "a"] .equal (Selector.readValues ['1']) "a=1") = _
    rw [hvalues]
  have hus : ∃ us, traverse Selector.parse [.operand "a=1", .opening, .operand "a=1", .closing,
      .operator .intersection] = .ok us := by
    simp only [traverse, hselector]
    exact ⟨_, rfl⟩
  have hset : Settles .expression [.operand "a=1", .opening, .operand "a=1", .closing,
      .operator .intersection] 0 1 := by
    have first : Settles .run [.operand "a=1"] 0 1 := .operand "a=1" (.nothing 0)
    have second : Settles .expression [.operand "a=1"] 1 2 :=
      .expression (.conjunction (.operand "a=1" (.nothing 1)))
    exact .expression (.tight .intersection (.conjunction (first.bracketed second))
      SetOperator.noConfusion (.nothing 2))
  obtain ⟨hiff, hok⟩ := parse_only_wellShaped_iff hts ⟨"a=1", List.mem_cons_self⟩
  obtain ⟨us, hus'⟩ := hus
  have haccepted := (hok us hus').1.2 hset
  refine ⟨hts, haccepted, fun hw => ?_⟩
  cases hiff.1 (fun _ => hw) ⟨us, hus'⟩ hset

end Tabular.Token
