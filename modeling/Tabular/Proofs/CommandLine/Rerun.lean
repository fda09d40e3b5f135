/-
Running a search on its own output. The CSV text that a row search prints with its header is read
as the rows that it found, up to their texts, and unless the query asks for positions it keeps all
of them; so the same command prints the same text again, whatever the first file was.
-/
import Tabular.CommandLine.Run
import Tabular.Proofs.Csv.Rereading

namespace Tabular.CommandLine

variable {files files' : Files} {input : Input} {query output : String} {pretty : Bool}

/-- A delimiter that is neither the quote nor part of a line end keeps the records readable. -/
theorem readable_of_delimiterByte {c : Char} {d : UInt8} (h : delimiterByte c = .ok d)
    (hquote : c ≠ '"') (hreturn : c ≠ '\r') (hfeed : c ≠ '\n') :
    Csv.Layout.Readable ⟨d, 34, .byte 10⟩ := by
  unfold delimiterByte at h
  split at h
  · rename_i hlt
    cases h
    have hbyte : ∀ e : Char, e.toNat < 0x80 → c ≠ e → UInt8.ofNat c.toNat ≠ UInt8.ofNat e.toNat := by
      intro e he hne heq
      have hnat := congrArg UInt8.toNat heq
      rw [UInt8.toNat_ofNat', UInt8.toNat_ofNat', Nat.mod_eq_of_lt (by omega),
        Nat.mod_eq_of_lt (by omega)] at hnat
      exact hne (Char.toNat_inj.1 hnat)
    have hascii : (34 : UInt8) < 128 := by decide
    refine ⟨?_, hascii, hbyte '"' (by decide) hquote, ?_, rfl, .inl rfl⟩
    · rw [UInt8.lt_iff_toNat_lt, UInt8.toNat_ofNat']
      exact Nat.lt_of_le_of_lt (Nat.mod_le _ _) hlt
    · rw [Csv.isLineEnd, Bool.or_eq_false_iff, beq_eq_false_iff_ne, beq_eq_false_iff_ne]
      exact ⟨hbyte '\n' (by decide) hfeed, hbyte '\r' (by decide) hreturn⟩
  · cases h

/-- A search of the rows of a CSV file prints what it finds as CSV when each of its parts succeeds. -/
theorem perform_csv_eq_ok_iff (hcsv : isJson input.file = false) :
    perform files (.search input .row query .csv pretty) = .ok output ↔
      ∃ d g found, delimiterByte input.delimiter = .ok d ∧ loadCsv files input d = .ok g ∧
        g.search query .row = .ok found ∧
        found.toCsv ⟨d, 34, .byte 10⟩ ⟨input.rowLabels, input.columnLabels⟩ = .ok output := by
  simp only [perform, load, hcsv, render, within, bind_eq_ok_iff, mapError_eq_ok_iff,
    Bool.false_eq_true, if_false]
  constructor
  · rintro ⟨g, ⟨d, hd, hload⟩, found, hfound, d', hd', hwritten⟩
    cases hd.symm.trans hd'
    exact ⟨d, g, found, hd, hload, hfound, hwritten⟩
  · rintro ⟨d, g, found, hd, hload, hfound, hwritten⟩
    exact ⟨g, ⟨d, hd, hload⟩, found, hfound, d, hd, hwritten⟩

theorem loadCsv_eq_ok_iff {d : UInt8} {g : Grid} : loadCsv files input d = .ok g ↔
    ∃ bytes, files input.file = .file bytes ∧
      Grid.ofCsv ⟨d, 34, none⟩ ⟨input.rowLabels, input.columnLabels⟩ false bytes = .ok g := by
  unfold loadCsv
  cases files input.file <;> simp

theorem run_eq_success_iff {environment : Option String} {args : List String} {command : Command}
    (hargs : parse? environment args = some command) :
    run files environment args = .success output ↔ perform files command = .ok output := by
  unfold run
  rw [hargs]
  cases h : perform files command <;> simp [h]

/-- If a search of the rows of a CSV file, with column labels and a query that asks for no position,
prints a text as CSV, then the same command prints the same text when the file holds it; only a text
that starts with a byte-order mark would lose it on the way. -/
theorem run_again_eq_success {environment : Option String} {args : List String}
    (hargs : parse? environment args = some (.search input .row query .csv pretty))
    (hcsv : isJson input.file = false) (hcolumns : input.columnLabels = true)
    (hquote : input.delimiter ≠ '"') (hreturn : input.delimiter ≠ '\r')
    (hfeed : input.delimiter ≠ '\n') (hfree : ∀ q, Query.parse query = .ok q → q.KeyFree)
    (hrun : run files environment args = .success output)
    (hmark : output.toList.head? ≠ some '\ufeff')
    (hfile : files' input.file = .file (Csv.encodeField output)) :
    run files' environment args = .success output := by
  obtain ⟨d, g, found, hd, hload, hsearch, hwritten⟩ :=
    (perform_csv_eq_ok_iff hcsv).1 ((run_eq_success_iff hargs).1 hrun)
  obtain ⟨bytes, _, hmade⟩ := loadCsv_eq_ok_iff.1 hload
  have hg := Grid.ofCsv_rereadable hcolumns hmade
  -- the search ran, so its query compiled
  obtain ⟨q, hq, hfound⟩ := bind_eq_ok_iff.1 ((hg.wf.search_eq query .row).symm.trans hsearch)
  have hq := mapError_eq_ok_iff.1 hq
  have hrereadable := hg.searchWith hfound
  obtain ⟨text, htext, hread⟩ :=
    hrereadable.exists_transcript (readable_of_delimiterByte hd hquote hreturn hfeed)
  cases hwritten.symm.trans htext
  obtain ⟨back, hback, htranscript⟩ := hread hmark
  have hwf := Grid.ofCsv_wf hback
  refine (run_eq_success_iff hargs).2 ((perform_csv_eq_ok_iff hcsv).2
    ⟨d, back, back, hd, loadCsv_eq_ok_iff.2 ⟨_, hfile, hback⟩, ?_, ?_⟩)
  · rw [hwf.search_of_parse hq]
    exact hrereadable.searchWith_transcript htranscript hwf hg.wf hq (hfree q hq) hfound
  · rw [htranscript.toCsv_eq]
    exact hwritten

/-- The second row is short: its null is printed as an empty field and read as the empty text, which
is not 2 either. -/
theorem run_again_short_row :
    run (fun _ => .file (Csv.encodeField ",n\na,1\nb\nc,2\n")) none
        ["search", "t.csv", "--rows", "n!=2", "--row-labels", "--column-labels"] =
          .success ",n\na,1\nb,\n" ∧
      run (fun _ => .file (Csv.encodeField ",n\na,1\nb,\n")) none
        ["search", "t.csv", "--rows", "n!=2", "--row-labels", "--column-labels"] =
          .success ",n\na,1\nb,\n" := by
  have hargs : parse? none ["search", "t.csv", "--rows", "n!=2", "--row-labels", "--column-labels"] =
      some (.search ⟨"t.csv", true, true, ','⟩ .row "n!=2" .csv false) := by decide +kernel
  have hq : Query.parse "n!=2" =
      .ok ⟨"n!=2", [.operand ⟨[.named "n"], .notEqual, ["2"], "n!=2"⟩]⟩ := by decide +kernel
  have hfree : ∀ q, Query.parse "n!=2" = .ok q → q.KeyFree := by
    intro q h
    cases hq.symm.trans h
    decide
  have hfirst : run (fun _ => .file (Csv.encodeField ",n\na,1\nb\nc,2\n")) none
      ["search", "t.csv", "--rows", "n!=2", "--row-labels", "--column-labels"] =
        .success ",n\na,1\nb,\n" := by decide +kernel
  exact ⟨hfirst, run_again_eq_success hargs (by decide +kernel) rfl (by decide) (by decide)
    (by decide) hfree hfirst (by decide +kernel) rfl⟩

end Tabular.CommandLine
