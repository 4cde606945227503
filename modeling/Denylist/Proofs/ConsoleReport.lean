import Denylist.Proofs.CheckStatus
import Denylist.Proofs.MarkupTags

/-!
# Proofs — findings in the report for people

The table of findings takes paths and reasons as they are, and reads the tags around a kind, which
it has put there itself (`shown_kindMarkup`).  A location goes into the table as markup, though, so
the report shows what was found only where no location holds a tag, an escape or a code for an emoji,
and where all its numbers can be written (`showsVerbatim_iff_isReportable`).
-/

namespace Denylist.Report
open Sequences
open Console (ReadsAsIs Table shown sanitize)

/-- A finding as it should stand in a row, with no controls that would move the cursor. -/
def literalRow (f : Finding) : List (List Char) :=
  [sanitize f.location.text.toList, f.kind.name.toList, sanitize f.path.toList,
    sanitize f.reason.toList]

/-- A report that is made, and in which the table has one row for each finding, in order, with the
texts of the finding. -/
def ShowsVerbatim (console : ℕ) (verbose : Bool) (r : AnalysisResult) : Prop :=
  ∃ t lines, findingTable console r.findings = .ok t ∧ t.rows = r.findings.map literalRow ∧
    consoleReport console verbose r = .ok lines ∧
      (r.findings ≠ [] → ∃ before after,
        lines = Console.toStrings (before ++ t.render console ++ after))

/-- A result that can be reported as it is: its numbers can be written, and markup finds nothing in
its locations. -/
structure IsReportable (r : AnalysisResult) : Prop where
  figures : ∀ n ∈ [r.rulesLoaded, r.unitsScanned, r.eventsSeen, (r.findings.length : ℤ)],
    (Document.int n).isWritable = true
  numbers : ∀ f ∈ r.findings, f.location.isWritable = true
  places : ∀ f ∈ r.findings, ReadsAsIs f.location.text.toList

/-! ### Rows -/

/-- The tags around a kind match, and do not show. -/
theorem shown_kindMarkup (k : Kind) : shown (kindMarkup k).toList = .ok k.name.toList := by
  cases k <;> rfl

/-- Whatever a row says of the place, it has the kind, the path and the reason as they are. -/
theorem findingRow_eq_ok_iff {f : Finding} {row : List (List Char)} :
    findingRow f = .ok row ↔
      ∃ place, shown f.location.text.toList = .ok place ∧ row = place :: (literalRow f).tail := by
  rw [findingRow, bind_eq_ok_iff]
  refine exists_congr fun place => and_congr_right fun _ => ?_
  rw [shown_kindMarkup, bind_eq_ok_iff]
  simp [literalRow, pure, Except.pure, eq_comm]

theorem findingRow_eq_literalRow_iff (f : Finding) :
    findingRow f = .ok (literalRow f) ↔ ReadsAsIs f.location.text.toList := by
  rw [findingRow_eq_ok_iff, ← Console.shown_eq_sanitize_iff]
  constructor
  · rintro ⟨place, hplace, hrow⟩
    rw [hplace, (List.cons.inj hrow).1]
  · intro h
    exact ⟨_, h, rfl⟩

theorem findingTable_eq_ok_iff {console : ℕ} (h : leastWidth ≤ console) {l : List Finding}
    {t : Table} :
    findingTable console l = .ok t ↔ ∃ rows, List.Forall₂ (findingRow · = .ok ·) l rows ∧
      t = ⟨none, findingColumns, rows, true, 1, true⟩ := by
  rw [findingTable, bind_eq_ok_iff, findingRows, if_neg (Nat.not_lt.mpr h)]
  refine exists_congr fun rows => and_congr mapM_eq_ok_iff ?_
  simp [pure, Except.pure, eq_comm]

/-- A table has the findings as they are exactly where their locations read as they are. -/
theorem exists_findingTable_iff {console : ℕ} (h : leastWidth ≤ console) (l : List Finding) :
    (∃ t, findingTable console l = .ok t ∧ t.rows = l.map literalRow) ↔
      ∀ f ∈ l, ReadsAsIs f.location.text.toList := by
  simp only [findingTable_eq_ok_iff h]
  constructor
  · rintro ⟨t, ⟨rows, hrows, rfl⟩, hliteral⟩ f hf
    dsimp only at hliteral
    subst hliteral
    rw [List.forall₂_map_right_iff, List.forall₂_same] at hrows
    exact (findingRow_eq_literalRow_iff f).mp (hrows f hf)
  · intro hplaces
    refine ⟨_, ⟨l.map literalRow, ?_, rfl⟩, rfl⟩
    rw [List.forall₂_map_right_iff, List.forall₂_same]
    exact fun f hf => (findingRow_eq_literalRow_iff f).mpr (hplaces f hf)

/-- Behind the location a table has the findings as they are. -/
theorem map_tail_rows {console : ℕ} (h : leastWidth ≤ console) {l : List Finding} {t : Table}
    (ht : findingTable console l = .ok t) :
    t.rows.map List.tail = l.map fun f => (literalRow f).tail := by
  obtain ⟨rows, hrows, rfl⟩ := (findingTable_eq_ok_iff h).mp ht
  clear ht
  induction hrows with
  | nil => rfl
  | cons hrow _ ih =>
      obtain ⟨place, -, rfl⟩ := findingRow_eq_ok_iff.mp hrow
      rw [List.map_cons, List.map_cons, ← ih]
      rfl

/-! ### Reports -/

theorem consoleReport_eq_ok_iff {console : ℕ} {verbose : Bool} {r : AnalysisResult}
    {lines : List String} :
    consoleReport console verbose r = .ok lines ↔
      isWritable r = true ∧ consoleLines console verbose r = .ok lines := by
  unfold consoleReport
  cases isWritable r with
  | true => simp
  | false => simp

/-- The lines of a report come out where the table does, and have it in their middle. -/
theorem exists_consoleLines {console : ℕ} {r : AnalysisResult} {t : Table}
    (ht : findingTable console r.findings = .ok t) (verbose : Bool) :
    ∃ lines, consoleLines console verbose r = .ok lines ∧
      (r.findings ≠ [] → ∃ before after,
        lines = Console.toStrings (before ++ t.render console ++ after)) := by
  cases hfindings : r.findings with
  | nil =>
      have hlines : findingLines console r.findings = .ok [] := by rw [hfindings]; rfl
      rw [consoleLines, hlines]
      exact ⟨_, rfl, fun h => absurd rfl h⟩
  | cons f l =>
      have hlines : findingLines console r.findings = .ok (t.render console ++ [[]]) := by
        rw [findingLines, ht, hfindings]
        rfl
      rw [consoleLines, hlines]
      refine ⟨_, rfl, fun _ => ⟨Console.boxed console (headline r) ++
        Console.paragraphLines console (scope r) ++ [[]],
        [[]] ++ (if verbose then figureLines console r else []), ?_⟩⟩
      simp only [List.append_assoc]

theorem isWritable_iff (r : AnalysisResult) :
    isWritable r = true ↔
      (∀ n ∈ [r.rulesLoaded, r.unitsScanned, r.eventsSeen, (r.findings.length : ℤ)],
        (Document.int n).isWritable = true) ∧ ∀ f ∈ r.findings, f.location.isWritable = true :=
  Command.report_isWritable_iff r false

/-- **The report for people.**  On a console with room for a table, the report is made and shows each
finding as it is exactly where the numbers can be written and markup finds nothing in a location.
Kinds, paths and reasons are shown as they are in any table.  On a narrower console the cells are not
read, so that only the numbers matter. -/
theorem showsVerbatim_iff_isReportable (console : ℕ) (verbose : Bool) (r : AnalysisResult) :
    (leastWidth ≤ console →
      (ShowsVerbatim console verbose r ↔ IsReportable r) ∧
        ∀ t, findingTable console r.findings = .ok t →
          t.rows.map List.tail = r.findings.map fun f => (literalRow f).tail) ∧
      (console < leastWidth →
        ((∃ lines, consoleReport console verbose r = .ok lines) ↔ isWritable r = true)) := by
  refine ⟨fun hwide => ⟨?_, fun t ht => ?_⟩, fun hnarrow => ?_⟩
  · constructor
    · rintro ⟨t, lines, ht, hrows, hlines, -⟩
      obtain ⟨hfigures, hnumbers⟩ := (isWritable_iff r).mp (consoleReport_eq_ok_iff.mp hlines).1
      exact ⟨hfigures, hnumbers, (exists_findingTable_iff hwide _).mp ⟨t, ht, hrows⟩⟩
    · rintro ⟨hfigures, hnumbers, hplaces⟩
      obtain ⟨t, ht, hrows⟩ := (exists_findingTable_iff hwide _).mpr hplaces
      obtain ⟨lines, hlines, htable⟩ := exists_consoleLines ht verbose
      exact ⟨t, lines, ht, hrows,
        consoleReport_eq_ok_iff.mpr ⟨(isWritable_iff r).mpr ⟨hfigures, hnumbers⟩, hlines⟩, htable⟩
  · exact map_tail_rows hwide ht
  · obtain ⟨t, ht⟩ : ∃ t, findingTable console r.findings = .ok t := by
      rw [findingTable, findingRows, if_pos hnarrow]
      exact ⟨_, rfl⟩
    obtain ⟨lines, hlines, -⟩ := exists_consoleLines ht verbose
    simp [consoleReport_eq_ok_iff, hlines]

/-- The result of a run over one file with one use of a macro. -/
def sampleResult (f : Finding) : AnalysisResult where
  findings := [f]
  unitsScanned := 1
  eventsSeen := 1
  rulesLoaded := 1
  duration := 0

theorem isWritable_sampleResult {f : Finding}
    (h : f.location.line < Decimal.pow10 3 ∧ f.location.column < Decimal.pow10 3) :
    isWritable (sampleResult f) = true := by
  have hline := Command.int_isWritable_of_lt_pow10 h.1 (by decide)
  have hcolumn := Command.int_isWritable_of_lt_pow10 h.2 (by decide)
  refine (isWritable_iff _).mpr ⟨fun n hn => ?_, fun g hg => ?_⟩
  · obtain rfl : n = (1 : ℕ) := by simpa [sampleResult] using hn
    exact Command.int_isWritable_of_lt_pow10 (e := 1) (by decide) (by decide)
  · obtain rfl := List.mem_singleton.mp hg
    rw [Location.isWritable, Bool.and_eq_true]
    exact ⟨hline, hcolumn⟩

/-- A use in a file whose name has in it what closes a tag. -/
def closingFinding : Finding :=
  ⟨⟨"src/[/lib].rs", 41, 7, by decide, Nat.succ_pos _, Nat.succ_pos _⟩, .macroUse, "dbg",
    "use the logger"⟩

/-- For such a file there is no report. -/
theorem no_consoleReport_for_closingFinding :
    consoleReport 80 false (sampleResult closingFinding) = .error (.strayTag "[/lib]" 4) := by
  have hplace : shown closingFinding.location.text.toList = .error (.strayTag "[/lib]" 4) := rfl
  have hrow : findingRow closingFinding = .error (.strayTag "[/lib]" 4) := by
    rw [findingRow, hplace]
    rfl
  have hlines : findingLines 80 [closingFinding] = .error (.strayTag "[/lib]" 4) := by
    rw [findingLines, findingTable, findingRows, if_neg (by decide), List.mapM_cons, hrow]
    rfl
  rw [consoleReport, if_pos (isWritable_sampleResult (by decide)), consoleLines, sampleResult,
    hlines]
  rfl

/-- A use in a file whose name has in it what opens a tag, in a line whose number is the name of an
emoji. -/
def openingFinding : Finding :=
  ⟨⟨"src/[id].tsx", 100, 7, by decide, Nat.succ_pos _, Nat.succ_pos _⟩, .macroUse, "dbg",
    "use [bold]tracing[/bold]"⟩

theorem exists_findingTable_openingFinding :
    ∃ t, findingTable 80 [openingFinding] = .ok t ∧
      t.rows.map List.head? = [some "src/.tsx💯7".toList] := by
  have hplace : shown openingFinding.location.text.toList = .ok "src/.tsx💯7".toList := rfl
  refine ⟨_, (findingTable_eq_ok_iff (by decide)).mpr
    ⟨[_], .cons (findingRow_eq_ok_iff.mpr ⟨_, hplace, rfl⟩) .nil, rfl⟩, rfl⟩

/-- The report on such a use shows all but its place, and a narrow console has room for no place. -/
theorem showsVerbatim_iff_isReportable_of_openingFinding :
    (∃ t, findingTable 80 [openingFinding] = .ok t ∧
        t.rows.map List.tail = [openingFinding].map fun f => (literalRow f).tail) ∧
      ¬ ShowsVerbatim 80 true (sampleResult openingFinding) ∧
        ∃ lines, consoleReport 7 true (sampleResult openingFinding) = .ok lines := by
  obtain ⟨t, ht, -⟩ := exists_findingTable_openingFinding
  obtain ⟨hiff, hcells⟩ :=
    (showsVerbatim_iff_isReportable 80 true (sampleResult openingFinding)).1 (by decide)
  refine ⟨⟨t, ht, hcells t ht⟩, fun h => ?_, ?_⟩
  · have hplace := (hiff.mp h).places openingFinding List.mem_cons_self
    exact hplace.untagged ['i', 'd'] ⟨'i', ['d'], rfl, rfl, by simp⟩ ⟨"src/".toList, _, rfl⟩
  · exact ((showsVerbatim_iff_isReportable 7 true _).2 (by decide)).mpr
      (isWritable_sampleResult (by decide))

end Denylist.Report
