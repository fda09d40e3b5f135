/-
One level of a document: values under keys. An object keeps all values it is given exactly when
their keys are distinct, and the keys of the lines of an axis are distinct unless a label that is
kept is the position of a line without a label.
-/
import Tabular.Json.Table
import Tabular.Proofs.Grid.UniqueLabels
import Mathlib.Data.List.Nodup

namespace Tabular.Json

variable {entries members : List (String × Json)} {key : String} {value : Json}

/-! ## Members -/

theorem insertMember_of_not_mem (h : key ∉ members.map (·.1)) :
    insertMember key value members = members ++ [(key, value)] := by
  induction members with
  | nil => rfl
  | cons member members ih =>
    rw [List.map_cons, List.mem_cons, not_or] at h
    rw [insertMember, if_neg (Ne.symm h.1), ih h.2, List.cons_append]

theorem keys_insertMember_of_mem (h : key ∈ members.map (·.1)) :
    (insertMember key value members).map (·.1) = members.map (·.1) := by
  induction members with
  | nil => cases h
  | cons member members ih =>
    rw [insertMember]
    split
    · rfl
    · rename_i hne
      have hlater : key ∈ members.map (·.1) := (List.mem_cons.1 h).resolve_left (Ne.symm hne)
      rw [List.map_cons, List.map_cons, ih hlater]

/-- Adds entries to an object, one after the other. -/
def addMembers (members entries : List (String × Json)) : List (String × Json) :=
  entries.foldl (fun members (key, value) => insertMember key value members) members

theorem not_mem_of_nodup {keys rest : List String} (h : (keys ++ key :: rest).Nodup) :
    key ∉ keys :=
  fun hmem => (List.nodup_cons.1 (List.nodup_middle.1 h)).1 (List.mem_append_left _ hmem)

theorem addMembers_eq_append (h : ((members ++ entries).map (·.1)).Nodup) :
    addMembers members entries = members ++ entries := by
  induction entries generalizing members with
  | nil => exact (List.append_nil _).symm
  | cons entry entries ih =>
    have hnew : entry.1 ∉ members.map (·.1) := not_mem_of_nodup (List.map_append ▸ h)
    rw [List.append_cons] at h
    rw [List.append_cons, ← ih h, ← insertMember_of_not_mem hnew]
    rfl

theorem length_insertMember_of_mem (h : key ∈ members.map (·.1)) :
    (insertMember key value members).length = members.length := by
  simpa using congrArg List.length (@keys_insertMember_of_mem members key value h)

theorem length_addMembers_le (members entries : List (String × Json)) :
    (addMembers members entries).length ≤ members.length + entries.length := by
  induction entries generalizing members with
  | nil => exact Nat.le_refl _
  | cons entry entries ih =>
    have hrest := ih (insertMember entry.1 entry.2 members)
    have hstep : (insertMember entry.1 entry.2 members).length ≤ members.length + 1 := by
      by_cases hmem : entry.1 ∈ members.map (·.1)
      · rw [length_insertMember_of_mem hmem]
        exact Nat.le_succ _
      · rw [insertMember_of_not_mem hmem, List.length_append]
        exact Nat.le_refl _
    rw [List.length_cons]
    show (addMembers (insertMember entry.1 entry.2 members) entries).length ≤ _
    omega

/-- Where a key comes again, an entry is lost. -/
theorem length_addMembers_lt (hmembers : (members.map (·.1)).Nodup)
    (h : ¬ ((members ++ entries).map (·.1)).Nodup) :
    (addMembers members entries).length < members.length + entries.length := by
  induction entries generalizing members with
  | nil =>
    rw [List.append_nil] at h
    exact absurd hmembers h
  | cons entry entries ih =>
    show (addMembers (insertMember entry.1 entry.2 members) entries).length < _
    by_cases hmem : entry.1 ∈ members.map (·.1)
    · -- this entry takes the place of another, so those that follow cannot make up for it
      have hle := length_addMembers_le (insertMember entry.1 entry.2 members) entries
      rw [length_insertMember_of_mem hmem] at hle
      rw [List.length_cons]
      omega
    · have hnodup : ((members ++ [entry]).map (·.1)).Nodup := by
        rw [List.map_append]
        exact hmembers.append (List.nodup_singleton _) (List.disjoint_singleton.2 hmem)
      rw [List.append_cons] at h
      have hlt := ih hnodup h
      rw [List.length_append] at hlt
      rw [insertMember_of_not_mem hmem, List.length_cons, Nat.add_comm entries.length, ← Nat.add_assoc]
      exact hlt

/-! ## Levels -/

/-- The keys of a level of some size that has no labels. -/
def positions (n : Nat) : List String :=
  (List.range n).map toString

theorem toString_inj {i j : Nat} : toString i = toString j ↔ i = j := by
  refine ⟨fun h => ?_, congrArg toString⟩
  have hdigits : ∀ n : Nat, (10 : Nat).ofDigitChars (toString n).toList 0 = n := fun n => by
    rw [Nat.toString_eq_repr, Nat.toList_repr, Nat.ofDigitChars_toDigits (by decide) (by decide)]
  rw [← hdigits i, h, hdigits]

theorem nodup_positions (n : Nat) : (positions n).Nodup :=
  List.nodup_range.map fun _ _ => toString_inj.1

theorem keyedByPosition_iff : keyedByPosition 0 entries = true ↔
    entries.map (·.1) = positions entries.length := by
  have hfrom : ∀ (entries : List (String × Json)) (start : Nat),
      keyedByPosition start entries = true ↔
        entries.map (·.1) = (List.range' start entries.length).map toString := by
    intro entries
    induction entries with
    | nil => exact fun start => ⟨fun _ => rfl, fun _ => rfl⟩
    | cons entry entries ih =>
      intro start
      rw [keyedByPosition, Bool.and_eq_true, beq_iff_eq, ih, List.length_cons, List.range'_succ,
        List.map_cons, List.map_cons, List.cons_eq_cons]
  rw [hfrom, positions, List.range_eq_range']

/-- The values of an array or an object. -/
def values? : Json → Option (List Json)
  | .array items => some items
  | .object members => some (members.map (·.2))
  | _ => none

theorem level_of_nodup (h : (entries.map (·.1)).Nodup) :
    level entries = if entries.map (·.1) = positions entries.length
      then .array (entries.map (·.2)) else .object entries := by
  have hcollect : collectMembers entries = entries := @addMembers_eq_append entries [] h
  rw [level, hcollect]
  simp only [keyedByPosition_iff]

theorem values?_level_of_nodup (h : (entries.map (·.1)).Nodup) :
    (level entries).values? = some (entries.map (·.2)) := by
  rw [level_of_nodup h]
  split <;> rfl

/-- A level with a key that comes again has fewer values than it is given. -/
theorem exists_values?_level (h : ¬ (entries.map (·.1)).Nodup) :
    ∃ values, (level entries).values? = some values ∧ values.length < entries.length := by
  have hobject : ¬ keyedByPosition 0 entries = true := by
    intro hkeyed
    exact h (keyedByPosition_iff.1 hkeyed ▸ nodup_positions _)
  have hlt := @length_addMembers_lt entries [] .nil h
  refine ⟨(collectMembers entries).map (·.2), by rw [level, if_neg hobject]; rfl, ?_⟩
  rw [List.length_map]
  exact Nat.zero_add entries.length ▸ hlt

/-- A level has all values it is given, in order, when the keys are distinct, and only then. -/
theorem values?_level_eq_some_iff :
    (level entries).values? = some (entries.map (·.2)) ↔ (entries.map (·.1)).Nodup := by
  refine ⟨fun hvalues => ?_, values?_level_of_nodup⟩
  by_contra hrepeated
  obtain ⟨values, hfewer, hlt⟩ := exists_values?_level hrepeated
  obtain rfl := Option.some.inj (hfewer.symm.trans hvalues)
  rw [List.length_map] at hlt
  exact Nat.lt_irrefl _ hlt

/-! ## Keys -/

variable {labels : List (Option String)} {keep : Bool}

theorem length_levelKeys (keep : Bool) (labels : List (Option String)) :
    (levelKeys keep labels).length = labels.length := by
  simp [levelKeys]

theorem map_fst_zip_levelKeys {values : List Json} (keep : Bool)
    (h : labels.length = values.length) :
    ((levelKeys keep labels).zip values).map (·.1) = levelKeys keep labels :=
  List.map_fst_zip (Nat.le_of_eq ((length_levelKeys keep labels).trans h))

theorem map_snd_zip_levelKeys {values : List Json} (keep : Bool)
    (h : labels.length = values.length) : ((levelKeys keep labels).zip values).map (·.2) = values :=
  List.map_snd_zip (Nat.le_of_eq ((length_levelKeys keep labels).trans h).symm)

theorem getElem?_levelKeys (keep : Bool) (labels : List (Option String)) (i : Nat) :
    (levelKeys keep labels)[i]? =
      labels[i]?.map fun label => if keep then label.getD (toString i) else toString i := by
  rw [levelKeys, List.getElem?_map, List.getElem?_zipIdx, Option.map_map]
  refine congrFun (congrArg Option.map (funext fun label => ?_)) _
  cases label <;> cases keep <;> simp

/-- A label that is kept is the position of a line without a label. -/
def Clash (keep : Bool) (labels : List (Option String)) : Prop :=
  keep = true ∧ ∃ j : Nat, some (toString j) ∈ labels ∧ labels[j]? = some none

theorem clash_iff_lt : Clash keep labels ↔
    keep = true ∧ ∃ j < labels.length, some (toString j) ∈ labels ∧ labels[j]? = some none := by
  refine and_congr_right fun _ => exists_congr fun j => ⟨fun h => ⟨?_, h⟩, And.right⟩
  exact (List.getElem?_eq_some_iff.1 h.2).1

instance (keep : Bool) (labels : List (Option String)) : Decidable (Clash keep labels) :=
  decidable_of_iff' _ clash_iff_lt

theorem nodup_levelKeys_iff (h : UniqueLabels labels) :
    (levelKeys keep labels).Nodup ↔ ¬ Clash keep labels := by
  constructor
  · rintro hkeys ⟨rfl, j, hlabel, hnone⟩
    -- the line with the label and the line at that position have one key
    obtain ⟨i, hi⟩ := List.mem_iff_getElem?.1 hlabel
    have hlt : i < (levelKeys true labels).length := by
      rw [length_levelKeys]
      exact (List.getElem?_eq_some_iff.1 hi).1
    have hsame : (levelKeys true labels)[i]? = (levelKeys true labels)[j]? := by
      rw [getElem?_levelKeys, getElem?_levelKeys, hi, hnone]
      rfl
    obtain rfl := (List.getElem?_inj hlt hkeys).1 hsame
    rw [hnone] at hi
    cases hi
  · intro hclash
    refine List.nodup_iff_getElem?_ne_getElem?.2 fun i j hij hj hsame => ?_
    rw [length_levelKeys] at hj
    obtain ⟨a, ha⟩ : ∃ a, labels[i]? = some a := ⟨_, List.getElem?_eq_getElem (Nat.lt_trans hij hj)⟩
    obtain ⟨b, hb⟩ : ∃ b, labels[j]? = some b := ⟨_, List.getElem?_eq_getElem hj⟩
    rw [getElem?_levelKeys, getElem?_levelKeys, ha, hb] at hsame
    have hkey := Option.some.inj hsame
    cases keep with
    | false => exact Nat.ne_of_lt hij (toString_inj.1 hkey)
    | true =>
      -- two labels differ, two positions differ, and a label is no position of an unlabelled line
      cases a with
      | none =>
        cases b with
        | none => exact Nat.ne_of_lt hij (toString_inj.1 hkey)
        | some l =>
          obtain rfl : toString i = l := hkey
          exact hclash ⟨rfl, i, List.mem_of_getElem? hb, ha⟩
      | some l =>
        cases b with
        | none =>
          obtain rfl : l = toString j := hkey
          exact hclash ⟨rfl, j, List.mem_of_getElem? ha, hb⟩
        | some m =>
          obtain rfl : l = m := hkey
          exact Nat.ne_of_lt hij (h.position_inj ha hb)

end Tabular.Json
