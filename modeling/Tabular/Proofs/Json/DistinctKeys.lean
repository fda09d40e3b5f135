/-
Objects have each of their keys once. The machine that reads a value keeps this of the containers
that are still open, as a key that comes again takes the place of the member before; so it holds of
every document that is read.
-/
import Tabular.Proofs.Json.Level

namespace Tabular.Json

/-- No object in a value has a key twice: an object maps each of its keys to one value. -/
inductive DistinctKeys : Json → Prop
  | null : DistinctKeys .null
  | bool (b : Bool) : DistinctKeys (.bool b)
  | integer (n : Int) : DistinctKeys (.integer n)
  | float (d : Double) : DistinctKeys (.float d)
  | string (s : String) : DistinctKeys (.string s)
  | array {items : List Json} : (∀ v ∈ items, DistinctKeys v) → DistinctKeys (.array items)
  | object {members : List (String × Json)} : (members.map (·.1)).Nodup →
      (∀ member ∈ members, DistinctKeys member.2) → DistinctKeys (.object members)

variable {members : List (String × Json)} {key : String} {v : Json} {demand : Demand}
  {goal : Goal} {frames : List Frame} {l : Lexeme} {p : Progress}

/-! ## Members -/

theorem DistinctKeys.nodup (h : DistinctKeys (.object members)) : (members.map (·.1)).Nodup := by
  cases h with
  | object hnodup _ => exact hnodup

theorem DistinctKeys.of_mem_items {items : List Json} (h : DistinctKeys (.array items))
    (hv : v ∈ items) : v.DistinctKeys := by
  cases h with
  | array hitems => exact hitems v hv

theorem DistinctKeys.of_mem_members {member : String × Json} (h : DistinctKeys (.object members))
    (hm : member ∈ members) : member.2.DistinctKeys := by
  cases h with
  | object _ hmembers => exact hmembers member hm

theorem mem_insertMember {member : String × Json} (h : member ∈ insertMember key v members) :
    member ∈ members ∨ member.2 = v := by
  induction members with
  | nil =>
    rw [insertMember, List.mem_singleton] at h
    exact .inr (h ▸ rfl)
  | cons first members ih =>
    unfold insertMember at h
    split at h
    · rcases List.mem_cons.1 h with rfl | h
      · exact .inr rfl
      · exact .inl (List.mem_cons_of_mem _ h)
    · rcases List.mem_cons.1 h with rfl | h
      · exact .inl List.mem_cons_self
      · exact (ih h).imp_left (List.mem_cons_of_mem _)

theorem DistinctKeys.insertMember (h : DistinctKeys (.object members)) (hv : v.DistinctKeys)
    (key : String) : DistinctKeys (.object (insertMember key v members)) := by
  refine .object ?_ fun member hm => ?_
  · by_cases hmem : key ∈ members.map (·.1)
    · rw [keys_insertMember_of_mem hmem]
      exact h.nodup
    · rw [insertMember_of_not_mem hmem, List.map_append]
      exact h.nodup.append (List.nodup_singleton _) (List.disjoint_singleton.2 hmem)
  · rcases mem_insertMember hm with hm | rfl
    · exact h.of_mem_members hm
    · exact hv

/-! ## Documents -/

/-- What an open container holds so far has distinct keys. -/
def Frame.Distinct : Frame → Prop
  | .array items => DistinctKeys (.array items)
  | .object members => DistinctKeys (.object members)
  | .member members _ => DistinctKeys (.object members)

def Progress.Distinct : Progress → Prop
  | .done v => v.DistinctKeys
  | .go _ frames => ∀ frame ∈ frames, frame.Distinct

theorem complete_distinct (hv : v.DistinctKeys) (hframes : ∀ frame ∈ frames, frame.Distinct)
    (h : complete v frames = some p) : p.Distinct := by
  unfold complete at h
  split at h
  · cases h
    exact hv
  · cases h
    obtain ⟨hitems, hframes⟩ := List.forall_mem_cons.1 hframes
    refine List.forall_mem_cons.2 ⟨.array (List.forall_mem_cons.2 ⟨hv, ?_⟩), hframes⟩
    exact fun item => DistinctKeys.of_mem_items hitems
  · cases h
    obtain ⟨hmembers, hframes⟩ := List.forall_mem_cons.1 hframes
    exact List.forall_mem_cons.2 ⟨DistinctKeys.insertMember hmembers hv _, hframes⟩
  · cases h

theorem distinctKeys_integerValue (negative : Bool) (significand : Nat) :
    (NumberText.integerValue negative significand).DistinctKeys := by
  unfold NumberText.integerValue
  split
  · exact .integer _
  · split
    · exact .float _
    · exact .integer _

theorem double?_distinct {negative : Bool} {significand : Nat} {exponent : Int}
    (h : NumberText.double? negative significand exponent = some v) : v.DistinctKeys := by
  obtain ⟨d, _, rfl⟩ := Option.map_eq_some_iff.1 h
  exact .float _

theorem value?_distinct {n : NumberText} (h : n.value? = some v) : v.DistinctKeys := by
  unfold NumberText.value? at h
  simp only at h
  split at h
  · cases h
    exact distinctKeys_integerValue ..
  · split at h
    · exact double?_distinct h
    · split at h
      · split at h
        · cases h
        · cases h
          exact .float _
      · exact double?_distinct h

theorem scalar?_distinct (h : scalar? demand l = some v) : v.DistinctKeys := by
  cases l with
  | null =>
    cases h
    exact .null
  | bool b =>
    cases h
    exact .bool b
  | number n =>
    rw [scalar?] at h
    split at h
    · exact value?_distinct h
    · cases h
      exact .null
  | string s =>
    rw [scalar?] at h
    split at h
    · obtain ⟨cs, _, rfl⟩ := Option.map_eq_some_iff.1 h
      exact .string _
    · cases h
      exact .null
  | openArray | closeArray | openObject | closeObject | comma | colon | fault => cases h

theorem begin?_distinct (hframes : ∀ frame ∈ frames, frame.Distinct)
    (h : begin? demand frames l = some p) : p.Distinct := by
  unfold begin? at h
  split at h
  · split at h
    · cases h
      exact List.forall_mem_cons.2 ⟨.array nofun, hframes⟩
    · cases h
  · split at h
    · cases h
      exact List.forall_mem_cons.2 ⟨.object .nil nofun, hframes⟩
    · cases h
  · obtain ⟨v, hv, h⟩ := Option.bind_eq_some_iff.1 h
    exact complete_distinct (scalar?_distinct hv) hframes h

theorem beginMember?_distinct (hframes : ∀ frame ∈ frames, frame.Distinct)
    (h : beginMember? demand frames l = some p) : p.Distinct := by
  unfold beginMember? at h
  split at h
  · obtain ⟨k, _, rfl⟩ := Option.map_eq_some_iff.1 h
    obtain ⟨hmembers, hframes⟩ := List.forall_mem_cons.1 hframes
    exact List.forall_mem_cons.2 ⟨hmembers, hframes⟩
  · cases h

theorem close_array_distinct {items : List Json} {outer : List Frame}
    (hframes : ∀ frame ∈ Frame.array items :: outer, frame.Distinct)
    (h : complete (.array items.reverse) outer = some p) : p.Distinct := by
  obtain ⟨hitems, houter⟩ := List.forall_mem_cons.1 hframes
  refine complete_distinct (.array fun item hitem => ?_) houter h
  exact DistinctKeys.of_mem_items hitems (List.mem_reverse.1 hitem)

theorem close_object_distinct {outer : List Frame}
    (hframes : ∀ frame ∈ Frame.object members :: outer, frame.Distinct)
    (h : complete (.object members) outer = some p) : p.Distinct := by
  obtain ⟨hmembers, houter⟩ := List.forall_mem_cons.1 hframes
  exact complete_distinct hmembers houter h

/-- A lexeme keeps the keys distinct. -/
theorem step_distinct (hframes : ∀ frame ∈ frames, frame.Distinct)
    (h : step demand goal frames l = some p) : p.Distinct := by
  unfold step at h
  split at h
  -- the end of a container
  · exact close_array_distinct hframes h
  · exact close_array_distinct hframes h
  · exact close_object_distinct hframes h
  · exact close_object_distinct hframes h
  -- punctuation leaves the containers as they are
  · cases h
    exact hframes
  · cases h
    exact hframes
  · cases h
    exact hframes
  -- the begin of a value or of a member
  · exact begin?_distinct hframes h
  · exact begin?_distinct hframes h
  · exact beginMember?_distinct hframes h
  · exact beginMember?_distinct hframes h
  · cases h

/-- A run of the machine does. -/
theorem readFrom_distinct {ls rest : List Lexeme} (hframes : ∀ frame ∈ frames, frame.Distinct)
    (h : readFrom demand goal frames ls = some (v, rest)) : v.DistinctKeys := by
  induction ls generalizing goal frames with
  | nil => cases h
  | cons l ls ih =>
    unfold readFrom at h
    split at h
    · cases h
    · rename_i hstep
      cases h
      exact step_distinct hframes hstep
    · rename_i hstep
      exact ih (step_distinct hframes hstep) h

/-- A document that is read has distinct keys. -/
theorem distinctKeys_of_parse? {text : String} (h : parse? text = some v) : v.DistinctKeys := by
  unfold parse? at h
  split at h
  · rename_i hread
    cases h
    exact readFrom_distinct (List.forall_mem_nil _) hread
  · cases h

end Tabular.Json
