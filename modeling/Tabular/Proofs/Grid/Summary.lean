/-
What the summaries of a line tell. The counts are a histogram of the texts of the cells other than
null, in the order in which the texts are first met. The distinct cells are those that equal no
earlier one. Equality of cells is symmetric and transitive, so any cell that equals itself equals
exactly one of them; what is not a number equals nothing, and each such cell is among them.
-/
import Mathlib.Data.Nat.Find
import Tabular.Grid.Summary
import Tabular.Proofs.FirstMet
import Tabular.Proofs.Grid.Picking
import Tabular.Proofs.Grid.Reachable

namespace Tabular

/-! ## Equality of cells -/

theorem Double.equals_eq_true_iff {a b : Double} :
    a.equals b = true ↔ a.isNaN = false ∧ b.isNaN = false ∧ a.rank = b.rank := by
  rw [equals, compare?]
  cases a.isNaN <;> cases b.isNaN <;> simp

namespace Cell

variable {a b c : Cell}

/-- What a cell is compared by: a float by its rank, any other cell as it is. What is not a number
has nothing to be compared by. -/
def likeness? : Cell → Option (Int ⊕ Cell)
  | .float d => if d.isNaN then none else some (.inl d.rank)
  | c => some (.inr c)

theorem equals_iff_likeness :
    a.equals b = true ↔ ∃ k, a.likeness? = some k ∧ b.likeness? = some k := by
  cases a <;> cases b <;> simp [equals, likeness?, Double.equals_eq_true_iff] <;> grind

theorem equals_symm (h : a.equals b = true) : b.equals a = true := by
  obtain ⟨k, ha, hb⟩ := equals_iff_likeness.1 h
  exact equals_iff_likeness.2 ⟨k, hb, ha⟩

theorem equals_comm (a b : Cell) : a.equals b = b.equals a :=
  Bool.eq_iff_iff.2 ⟨equals_symm, equals_symm⟩

theorem equals_trans (hab : a.equals b = true) (hbc : b.equals c = true) : a.equals c = true := by
  obtain ⟨k, ha, hb⟩ := equals_iff_likeness.1 hab
  obtain ⟨l, hb', hc⟩ := equals_iff_likeness.1 hbc
  obtain rfl := Option.some.inj (hb.symm.trans hb')
  exact equals_iff_likeness.2 ⟨k, ha, hc⟩

/-- Only what is not a number differs from itself. -/
theorem equals_self_iff : c.equals c = true ↔ ∀ d, c = .float d → d.isNaN = false := by
  cases c <;> simp [equals, Double.equals_eq_true_iff]

end Cell

namespace Line

variable {cells : List Cell} {keys : List Nat} {c : Cell}

/-- The cells of a line other than null. -/
def present (line : Line) : List Cell :=
  line.cells.filter (!·.isNull)

/-! ## Counts -/

/-- Numbers of cells under their texts, each text once and in the order in which the texts are first
met. -/
structure Histogram (cells : List Cell) (counts : List (String × Nat)) : Prop where
  nodup : (counts.map (·.1)).Nodup
  firstMet : (counts.map (·.1)).Pairwise fun s t =>
    (cells.map (·.asText)).idxOf s < (cells.map (·.asText)).idxOf t
  count : ∀ text n, (text, n) ∈ counts ↔ 0 < n ∧ n = cells.countP (·.asText == text)
  total : (counts.map (·.2)).sum = cells.length

/-- Counting one more text adds one to its number, or puts it last. -/
theorem addCount_map {texts : List String} (hn : texts.Nodup) (text : String)
    (number : String → Nat) :
    addCount text (texts.map fun s => (s, number s)) =
      if text ∈ texts then texts.map fun s => (s, if s = text then number s + 1 else number s)
      else (texts.map fun s => (s, number s)) ++ [(text, 1)] := by
  induction texts with
  | nil => rfl
  | cons s texts ih =>
    obtain ⟨hs, hn⟩ := List.nodup_cons.1 hn
    rw [List.map_cons, addCount]
    by_cases hst : s = text
    · -- the text does not come again, so the other numbers stay
      subst hst
      have hrest : (texts.map fun t => (t, if t = s then number t + 1 else number t)) =
          texts.map fun t => (t, number t) :=
        List.map_congr_left fun t ht => by rw [if_neg (ne_of_mem_of_not_mem ht hs)]
      rw [if_pos rfl, if_pos List.mem_cons_self, List.map_cons, if_pos rfl, hrest]
    · rw [if_neg hst, ih hn]
      by_cases hmem : text ∈ texts
      · rw [if_pos hmem, if_pos (List.mem_cons_of_mem _ hmem), List.map_cons, if_neg hst]
      · rw [if_neg hmem, if_neg (List.not_mem_cons_of_ne_of_not_mem (Ne.symm hst) hmem),
          List.cons_append]

/-- The counts are the texts as they are first met, each with the number of times it occurs. -/
theorem foldl_addCount (texts : List String) :
    texts.foldl (fun found text => addCount text found) [] =
      texts.eraseDups.map fun text => (text, texts.count text) := by
  induction texts using List.reverseRecOn with
  | nil => rfl
  | append_singleton texts text ih =>
    rw [List.foldl_append, ih, List.foldl_cons, List.foldl_nil,
      addCount_map (nodup_eraseDups texts)]
    have hcount : ∀ s, (texts ++ [text]).count s =
        if s = text then texts.count s + 1 else texts.count s := by
      intro s
      by_cases hs : s = text
      · simp [hs]
      · simp [hs, Ne.symm hs]
    simp only [hcount, List.mem_eraseDups]
    by_cases hmem : text ∈ texts
    · rw [if_pos hmem, eraseDups_concat_of_mem hmem]
    · have hold : (texts.eraseDups.map fun s =>
          (s, if s = text then texts.count s + 1 else texts.count s)) =
            texts.eraseDups.map fun s => (s, texts.count s) :=
        List.map_congr_left fun s hs => by
          rw [if_neg (ne_of_mem_of_not_mem (List.mem_eraseDups.1 hs) hmem)]
      rw [if_neg hmem, eraseDups_concat_of_not_mem hmem, List.map_append, hold, List.map_singleton,
        if_pos rfl, List.count_eq_zero_of_not_mem hmem]

theorem counts_eq (line : Line) : line.counts =
    (line.present.map (·.asText)).eraseDups.map fun text =>
      (text, (line.present.map (·.asText)).count text) := by
  rw [← foldl_addCount, List.foldl_map]
  rfl

theorem histogram_counts (line : Line) : Histogram line.present line.counts := by
  have htexts : line.counts.map (·.1) = (line.present.map (·.asText)).eraseDups := by
    rw [counts_eq, List.map_map]
    exact List.map_id _
  have hcount : ∀ text, (line.present.map (·.asText)).count text =
      line.present.countP (·.asText == text) := fun text => by
    rw [List.count_eq_countP, List.countP_map]
    rfl
  refine ⟨?_, ?_, fun text n => ?_, ?_⟩
  · rw [htexts]
    exact nodup_eraseDups _
  · rw [htexts]
    exact pairwise_idxOf_eraseDups _
  · rw [counts_eq, List.mem_map, ← hcount]
    constructor
    · rintro ⟨_, hmem, heq⟩
      obtain ⟨rfl, rfl⟩ := Prod.mk.inj heq
      exact ⟨List.count_pos_iff.2 (List.mem_eraseDups.1 hmem), rfl⟩
    · rintro ⟨hpos, rfl⟩
      exact ⟨text, List.mem_eraseDups.2 (List.count_pos_iff.1 hpos), rfl⟩
  · rw [counts_eq, List.map_map]
    exact (sum_count_eraseDups _).trans (List.length_map _)

/-! ## Distinct cells -/

/-- There is a cell other than null, and it equals none before it. -/
def FirstAt (cells : List Cell) (i : Nat) : Prop :=
  ∃ c, cells[i]? = some c ∧ c.isNull = false ∧
    ∀ j < i, ∀ d, cells[j]? = some d → d.isNull = false → d.equals c = false

/-- The positions of the cells that equal none before them, in order. -/
structure FirstKeys (cells : List Cell) (keys : List Nat) : Prop where
  increasing : keys.Pairwise (· < ·)
  mem_keys : ∀ i, i ∈ keys ↔ FirstAt cells i

/-- Cells that represent those of a line other than null: the ones that equal none before them. No
two of them are equal, and a cell that equals itself equals exactly one of them. -/
structure Representatives (cells found : List Cell) : Prop where
  subsequence : ∃ keys, FirstKeys cells keys ∧ found = picked keys cells
  unequal : found.Pairwise fun c d => c.equals d = false ∧ d.equals c = false
  unique : ∀ c ∈ cells, c.isNull = false → c.equals c = true → found.countP c.equals = 1

theorem FirstAt.lt_length {i : Nat} (h : FirstAt cells i) : i < cells.length := by
  obtain ⟨c, hc, _⟩ := h
  exact (List.getElem?_eq_some_iff.1 hc).1

theorem FirstKeys.lt_length (h : FirstKeys cells keys) : ∀ i ∈ keys, i < cells.length :=
  fun i hi => ((h.mem_keys i).1 hi).lt_length

/-- A cell has an equal among the kept ones if it has one among all: the first of these is kept. -/
theorem FirstKeys.exists_equals_iff (h : FirstKeys cells keys) :
    (∃ m ∈ picked keys cells, m.equals c = true) ↔
      ∃ d ∈ cells, d.isNull = false ∧ d.equals c = true := by
  classical
  constructor
  · rintro ⟨m, hm, heq⟩
    obtain ⟨i, hi, hmi⟩ := List.mem_filterMap.1 hm
    obtain ⟨d, hd, hpresent, _⟩ := (h.mem_keys i).1 hi
    obtain rfl := Option.some.inj (hmi.symm.trans hd)
    exact ⟨m, List.mem_of_getElem? hmi, hpresent, heq⟩
  · rintro ⟨d, hd, hpresent, heq⟩
    obtain ⟨p, hp⟩ := List.mem_iff_getElem?.1 hd
    have hequal : ∃ i, ∃ e : Cell, cells[i]? = some e ∧ e.isNull = false ∧ e.equals c = true :=
      ⟨p, d, hp, hpresent, heq⟩
    obtain ⟨m, hm, hnull, hmc⟩ := Nat.find_spec hequal
    refine ⟨m, List.mem_filterMap.2 ⟨Nat.find hequal, (h.mem_keys _).2 ⟨m, hm, hnull, ?_⟩, hm⟩, hmc⟩
    -- what equals the first one equals the cell as well
    intro j hj e he hpresent'
    by_contra hne
    have hem : e.equals m = true := by simpa using hne
    exact Nat.find_min hequal hj ⟨e, he, hpresent', Cell.equals_trans hem hmc⟩

theorem firstAt_concat_of_lt {i : Nat} (h : i < cells.length) (c : Cell) :
    FirstAt (cells ++ [c]) i ↔ FirstAt cells i := by
  have hold : ∀ j ≤ i, (cells ++ [c])[j]? = cells[j]? := fun j hj =>
    List.getElem?_append_left (Nat.lt_of_le_of_lt hj h)
  unfold FirstAt
  rw [hold i (Nat.le_refl i)]
  refine exists_congr fun d => and_congr_right fun _ => and_congr_right fun _ =>
    forall_congr' fun j => forall_congr' fun hj => ?_
  rw [hold j (Nat.le_of_lt hj)]

theorem firstAt_concat_length_iff : FirstAt (cells ++ [c]) cells.length ↔
    c.isNull = false ∧ ¬ ∃ d ∈ cells, d.isNull = false ∧ d.equals c = true := by
  unfold FirstAt
  rw [List.getElem?_concat_length]
  constructor
  · rintro ⟨_, ⟨⟩, hpresent, hnone⟩
    refine ⟨hpresent, ?_⟩
    rintro ⟨d, hd, hnull, heq⟩
    obtain ⟨j, hj⟩ := List.mem_iff_getElem?.1 hd
    have hlt := (List.getElem?_eq_some_iff.1 hj).1
    have hne := hnone j hlt d (by rwa [List.getElem?_append_left hlt]) hnull
    rw [heq] at hne
    cases hne
  · rintro ⟨hpresent, hnone⟩
    refine ⟨c, rfl, hpresent, fun j hj d hd hnull => ?_⟩
    rw [List.getElem?_append_left hj] at hd
    by_contra hne
    exact hnone ⟨d, List.mem_of_getElem? hd, hnull, by simpa using hne⟩

theorem lt_or_eq_of_firstAt_concat {i : Nat} (h : FirstAt (cells ++ [c]) i) :
    i < cells.length ∨ i = cells.length := by
  have hlt := h.lt_length
  rw [List.length_append, List.length_singleton] at hlt
  omega

theorem picked_append (keys more : List Nat) (cells : List Cell) :
    picked (keys ++ more) cells = picked keys cells ++ picked more cells :=
  List.filterMap_append

theorem FirstKeys.picked_append (h : FirstKeys cells keys) (more : List Cell) :
    picked keys (cells ++ more) = picked keys cells :=
  List.filterMap_congr fun i hi => List.getElem?_append_left (h.lt_length i hi)

/-- A cell that equals none before it is kept. -/
theorem FirstKeys.concat (h : FirstKeys cells keys) (hfirst : FirstAt (cells ++ [c]) cells.length) :
    FirstKeys (cells ++ [c]) (keys ++ [cells.length]) := by
  refine ⟨List.pairwise_append.2 ⟨h.increasing, List.pairwise_singleton _ _, ?_⟩, fun i => ?_⟩
  · rintro i hi _ hlast
    rw [List.mem_singleton.1 hlast]
    exact h.lt_length i hi
  · rw [List.mem_append, List.mem_singleton, h.mem_keys]
    constructor
    · rintro (hi | rfl)
      · exact (firstAt_concat_of_lt hi.lt_length c).2 hi
      · exact hfirst
    · intro hi
      rcases lt_or_eq_of_firstAt_concat hi with hlt | rfl
      · exact .inl ((firstAt_concat_of_lt hlt c).1 hi)
      · exact .inr rfl

/-- Any other cell leaves the positions as they are. -/
theorem FirstKeys.concat_of_not (h : FirstKeys cells keys)
    (hfirst : ¬ FirstAt (cells ++ [c]) cells.length) : FirstKeys (cells ++ [c]) keys := by
  refine ⟨h.increasing, fun i => ?_⟩
  rw [h.mem_keys]
  constructor
  · exact fun hi => (firstAt_concat_of_lt hi.lt_length c).2 hi
  · intro hi
    rcases lt_or_eq_of_firstAt_concat hi with hlt | rfl
    · exact (firstAt_concat_of_lt hlt c).1 hi
    · exact absurd hi hfirst

theorem distinct_concat (label : Option String) (cells : List Cell) (c : Cell) :
    distinct ⟨label, cells ++ [c]⟩ =
      if c.isNull then distinct ⟨label, cells⟩ else addDistinct (distinct ⟨label, cells⟩) c := by
  rw [distinct, List.filter_append, List.foldl_append]
  cases hc : c.isNull <;> simp [hc, distinct]

/-- The distinct cells are those that equal none before them. -/
theorem exists_firstKeys (label : Option String) (cells : List Cell) :
    ∃ keys, FirstKeys cells keys ∧ distinct ⟨label, cells⟩ = picked keys cells := by
  induction cells using List.reverseRecOn with
  | nil =>
    exact ⟨[], ⟨.nil, fun i => iff_of_false nofun fun h => Nat.not_lt_zero _ h.lt_length⟩, rfl⟩
  | append_singleton cells c ih =>
    obtain ⟨keys, hkeys, hdistinct⟩ := ih
    have hany : (picked keys cells).any (·.equals c) = true ↔
        ∃ d ∈ cells, d.isNull = false ∧ d.equals c = true :=
      List.any_eq_true.trans hkeys.exists_equals_iff
    rw [distinct_concat, hdistinct, addDistinct]
    by_cases hfirst : FirstAt (cells ++ [c]) cells.length
    · obtain ⟨hpresent, hnone⟩ := firstAt_concat_length_iff.1 hfirst
      have hlast : picked [cells.length] (cells ++ [c]) = [c] := by
        rw [picked, List.filterMap_cons, List.getElem?_concat_length]
        rfl
      refine ⟨keys ++ [cells.length], hkeys.concat hfirst, ?_⟩
      rw [hpresent, if_neg Bool.false_ne_true, if_neg (mt hany.1 hnone), picked_append,
        hkeys.picked_append, hlast]
    · refine ⟨keys, hkeys.concat_of_not hfirst, ?_⟩
      rw [hkeys.picked_append]
      cases hc : c.isNull with
      | true => rfl
      | false =>
        have hequal : ∃ d ∈ cells, d.isNull = false ∧ d.equals c = true := by
          by_contra hnone
          exact hfirst (firstAt_concat_length_iff.2 ⟨hc, hnone⟩)
        rw [if_neg Bool.false_ne_true, if_pos (hany.2 hequal)]

/-- Of two cells that are kept, neither equals the other. -/
theorem FirstKeys.pairwise_ne (h : FirstKeys cells keys) :
    (picked keys cells).Pairwise fun c d => c.equals d = false ∧ d.equals c = false := by
  refine List.pairwise_filterMap.2 (h.increasing.imp_of_mem fun {i j} hi hj hlt c hc d hd => ?_)
  obtain ⟨c', hc', hnull, _⟩ := (h.mem_keys i).1 hi
  obtain ⟨d', hd', _, hnone⟩ := (h.mem_keys j).1 hj
  obtain rfl := Option.some.inj (hc.symm.trans hc')
  obtain rfl := Option.some.inj (hd.symm.trans hd')
  have hne := hnone i hlt c hc hnull
  exact ⟨hne, by rwa [Cell.equals_comm]⟩

/-- Among cells no two of which are equal, at most one equals a given cell. -/
theorem countP_equals_le_one {found : List Cell}
    (h : found.Pairwise fun c d => c.equals d = false ∧ d.equals c = false) (c : Cell) :
    found.countP c.equals ≤ 1 := by
  induction found with
  | nil => exact Nat.zero_le 1
  | cons m found ih =>
    obtain ⟨hm, hrest⟩ := List.pairwise_cons.1 h
    by_cases heq : c.equals m = true
    · -- what else equalled the cell would equal the first one
      have hnone : found.countP c.equals = 0 := by
        refine List.countP_eq_zero.2 fun d hd hcd => ?_
        have hmd := Cell.equals_trans (Cell.equals_symm heq) hcd
        rw [(hm d hd).1] at hmd
        cases hmd
      rw [List.countP_cons_of_pos heq, hnone]
    · rw [List.countP_cons_of_neg heq]
      exact ih hrest

theorem representatives_distinct (line : Line) : Representatives line.cells line.distinct := by
  obtain ⟨keys, hkeys, hdistinct⟩ := exists_firstKeys line.label line.cells
  have hunequal := hkeys.pairwise_ne
  rw [← hdistinct] at hunequal
  refine ⟨⟨keys, hkeys, hdistinct⟩, hunequal, fun c hc hnull hself => ?_⟩
  obtain ⟨m, hm, heq⟩ := hkeys.exists_equals_iff.2 ⟨c, hc, hnull, hself⟩
  rw [← hdistinct] at hm
  have hpos := List.countP_pos_iff.2 ⟨m, hm, Cell.equals_symm heq⟩
  exact Nat.le_antisymm (countP_equals_le_one hunequal c) hpos

/-- A distinct cell is one of the cells other than null. -/
theorem mem_present_of_distinct {line : Line} (h : c ∈ line.distinct) : c ∈ line.present := by
  obtain ⟨keys, hkeys, hdistinct⟩ := exists_firstKeys line.label line.cells
  obtain ⟨i, hi, hci⟩ := List.mem_filterMap.1 (hdistinct ▸ h)
  obtain ⟨c', hc', hnull, _⟩ := (hkeys.mem_keys i).1 hi
  obtain rfl := Option.some.inj (hci.symm.trans hc')
  exact List.mem_filter.2 ⟨List.mem_of_getElem? hci, by rw [hnull]; rfl⟩

theorem Histogram.mem_texts {counts : List (String × Nat)} (h : Histogram cells counts)
    (hc : c ∈ cells) : c.asText ∈ counts.map (·.1) := by
  have hpos : 0 < cells.countP (·.asText == c.asText) :=
    List.countP_pos_iff.2 ⟨c, hc, beq_self_eq_true _⟩
  exact List.mem_map.2 ⟨_, (h.count _ _).2 ⟨hpos, rfl⟩, rfl⟩

end Line

/-! ## Lines of a grid -/

namespace Grid

variable {g : Grid} {axis : Axis}

/-- For every line of a reachable grid the counts are a histogram of its cells other than null, and
the distinct cells represent these; the text of each distinct cell is counted. -/
theorem Reachable.summaries_exact (hg : g.Reachable) {ref : LineRef} {k : Nat}
    (hk : g.key axis ref = .ok k) :
    ∃ line, g.line axis ref = .ok (k, line) ∧ (∀ c, line.cells[c]? = g.cell? axis k c) ∧
      Line.Histogram line.present line.counts ∧ Line.Representatives line.cells line.distinct ∧
      (∀ c ∈ line.distinct, c.asText ∈ line.counts.map (·.1)) ∧
      ∀ c : Cell, c.equals c = true ↔ ∀ d, c = .float d → d.isNaN = false := by
  obtain ⟨line, hline, _, hcells⟩ := hg.wf.line_of_key hk
  exact ⟨line, hline, hcells, line.histogram_counts, line.representatives_distinct,
    fun c hc => line.histogram_counts.mem_texts (Line.mem_present_of_distinct hc),
    fun c => Cell.equals_self_iff⟩

/-- Cells of three kinds that have one text, both zeros, and twice what is not a number. -/
def mixedCells : List Cell :=
  [.integer 1, .text "1", .null, .float (.ofBits 0x7FF8000000000000), .bool true,
    .float (.ofBits 0x7FF8000000000000), .float (.ofBits 0), .float (.ofBits 0x8000000000000000),
    .text "1"]

/-- Cells of three kinds are counted together and kept apart. The first zero stands for both, and
what is not a number is kept each time. -/
theorem summaries_exact_mixed_cells :
    Reachable (ofRows (mixedCells.map ([·]))) ∧
      key .column (.position 0) (ofRows (mixedCells.map ([·]))) = .ok 0 ∧
      Line.Histogram (Line.present ⟨none, mixedCells⟩)
        [("1", 4), ("NaN", 2), ("0", 1), ("-0", 1)] ∧
      Line.Representatives mixedCells
        [.integer 1, .text "1", .float (.ofBits 0x7FF8000000000000), .bool true,
          .float (.ofBits 0x7FF8000000000000), .float (.ofBits 0)] := by
  have hg := Reachable.ofRows (mixedCells.map ([·]))
  have hkey : key .column (.position 0) (ofRows (mixedCells.map ([·]))) = .ok 0 := rfl
  have hline : line .column (.position 0) (ofRows (mixedCells.map ([·]))) =
      .ok (0, ⟨none, mixedCells⟩) := rfl
  have hcounts : Line.counts ⟨none, mixedCells⟩ =
      [("1", 4), ("NaN", 2), ("0", 1), ("-0", 1)] := by decide +kernel
  have hdistinct : Line.distinct ⟨none, mixedCells⟩ =
      [.integer 1, .text "1", .float (.ofBits 0x7FF8000000000000), .bool true,
        .float (.ofBits 0x7FF8000000000000), .float (.ofBits 0)] := by decide +kernel
  obtain ⟨found, hfound, _, hhistogram, hrepresentatives, _⟩ := hg.summaries_exact hkey
  cases hline.symm.trans hfound
  exact ⟨hg, hkey, hcounts ▸ hhistogram, hdistinct ▸ hrepresentatives⟩

end Grid

end Tabular
