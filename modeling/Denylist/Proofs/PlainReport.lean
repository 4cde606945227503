import Denylist.Proofs.CheckStatus
import Denylist.Proofs.EmojiCodes
import Denylist.Proofs.PrintedLines

/-!
# Proofs — findings as they are printed

The plain report of a check has the text of each finding and a summary.  The console takes the text
for one with emoji codes, drops the controls that would move the cursor and expands tabs, so a finding
comes out as it is only where there are none of these in it (`PrintsAsIs`).  None of the three can
make up for another one: each takes characters out of the report that the others do not put in
(`countP_isMark_printed_le`).
-/

namespace Denylist.Console

/-- The characters of a text that is printed as it is, line feeds included. -/
def printed (l : List Char) : List Char := ended (unwrapped (sanitize (replaceEmoji l)))

/-- A text in which the console finds nothing to change: no controls that move the cursor, no tabs
and no codes with an emoji. -/
structure PrintsAsIs (l : List Char) : Prop where
  still : ∀ c ∈ l, c ≠ '\t' ∧ isCursorControl c = false
  plain : ∃ codes, Codes l codes ∧ ∀ code ∈ codes, ¬ IsKnown code

theorem printed_of_printsAsIs {l : List Char} (h : PrintsAsIs l) : printed l = l ++ ['\n'] := by
  obtain ⟨codes, hcodes, hunknown⟩ := h.plain
  have hsanitize : sanitize l = l :=
    List.filter_eq_self.mpr fun c hc => by rw [(h.still c hc).2]; rfl
  rw [printed, hcodes.replaceEmoji_eq_self hunknown, hsanitize]
  exact ended_unwrapped fun htab => (h.still _ htab).1 rfl

/-- A character that moves the cursor. -/
def isMove (c : Char) : Bool := c == '\t' || isCursorControl c

/-- A character that the console may take away. -/
def isMark (c : Char) : Bool := c == ':' || isMove c

theorem countP_isMark (l : List Char) : l.countP isMark = l.count ':' + l.countP isMove := by
  induction l with
  | nil => rfl
  | cons c l ih =>
      rw [List.countP_cons, List.countP_cons, List.count_cons, ih]
      by_cases hc : c = ':'
      · subst hc
        have hmark : isMark ':' = true := rfl
        have hmove : isMove ':' = false := rfl
        simp [hmark, hmove]
        omega
      · have hmark : isMark c = isMove c := by simp [isMark, hc]
        simp [hmark, hc]
        omega

/-- Of what the console may take away, the colons outside codes are left. -/
theorem countP_isMark_printed (l : List Char) :
    (printed l).countP isMark = (replaceEmoji l).count ':' := by
  have hfilter : (printed l).filter isMark = (replaceEmoji l).filter (· == ':') := by
    rw [printed, filter_ended_unwrapped rfl rfl, sanitize, List.filter_filter]
    refine List.filter_congr fun c _ => ?_
    by_cases hc : c = ':'
    · subst hc
      rfl
    · rw [beq_eq_false_iff_ne.mpr hc]
      by_cases htab : c = '\t'
      · simp [htab]
      · simp [isMark, isMove, hc, htab]
  rw [List.countP_eq_length_filter, hfilter, ← List.countP_eq_length_filter, List.count]

/-- A text keeps all its marks only if nothing in it is changed. -/
theorem countP_isMark_printed_le (l : List Char) :
    (printed l).countP isMark ≤ l.countP isMark ∧
      ((printed l).countP isMark = l.countP isMark → PrintsAsIs l) := by
  obtain ⟨codes, hcodes⟩ := exists_codes l
  have hcolons : (replaceEmoji l).count ':' + 2 * codes.countP (IsKnown ·) ≤ l.count ':' :=
    hcodes.countP_replaceEmoji_le (fun c hc => by rw [eq_of_beq hc]; rfl) rfl
  rw [countP_isMark_printed, countP_isMark]
  refine ⟨by omega, fun h => ?_⟩
  have hunknown : codes.countP (IsKnown ·) = 0 := by omega
  have hstill : l.countP isMove = 0 := by omega
  rw [List.countP_eq_zero] at hunknown hstill
  refine ⟨fun c hc => ?_, codes, hcodes, by simpa using hunknown⟩
  simpa [isMove] using hstill c hc

/-! ### Texts with a summary -/

theorem countP_isMark_flatMap_printed_le (ts : List (List Char)) :
    (ts.flatMap printed).countP isMark ≤ (ended ts).countP isMark ∧
      ((ts.flatMap printed).countP isMark = (ended ts).countP isMark → ∀ t ∈ ts, PrintsAsIs t) := by
  induction ts with
  | nil => exact ⟨Nat.le_refl _, fun _ => List.forall_mem_nil _⟩
  | cons t ts ih =>
      have ht := countP_isMark_printed_le t
      have hfeed : isMark '\n' = false := rfl
      rw [List.flatMap_cons, ended_cons, List.countP_append, List.countP_append,
        List.countP_cons_of_neg (by rw [hfeed]; exact Bool.false_ne_true)]
      exact ⟨by omega, fun h => List.forall_mem_cons.mpr ⟨ht.2 (by omega), ih.2 (by omega)⟩⟩

theorem flatMap_printed {ts : List (List Char)} (h : ∀ t ∈ ts, PrintsAsIs t) :
    ts.flatMap printed = ended ts :=
  List.flatMap_congr fun t ht => printed_of_printsAsIs (h t ht)

section Summary

variable {summary : String}

/-- A paragraph that comes out as one line fits into one. -/
theorem length_le_of_ended_paragraphLines (h : ∀ c ∈ summary.toList, OneCell c) {console : ℕ}
    (hended : ended (paragraphLines console summary) = ended [summary.toList]) :
    summary.toList.length ≤ console := by
  have hfeed : '\n' ∉ summary.toList := fun hc => absurd (h _ hc).printable (by decide)
  cases hlines : paragraphLines console summary with
  | nil =>
      rw [hlines] at hended
      simp [ended] at hended
  | cons q qs =>
      obtain ⟨hsub, hlength⟩ := subset_of_mem_paragraphLines (q := q) h (by rw [hlines]; simp)
      rw [hlines, ended_cons, ended_cons] at hended
      rwa [← (Sequences.append_cons_inj (fun hc => hfeed (hsub hc)) hfeed hended).1]

theorem countP_isMark_ended_eq_zero {ls : List (List Char)}
    (h : ∀ l ∈ ls, ∀ c ∈ l, isMark c = false) : (ended ls).countP isMark = 0 := by
  have hfeed : isMark '\n' = false := rfl
  rw [List.countP_eq_length_filter, filter_ended hfeed, ← List.countP_eq_length_filter,
    List.countP_eq_zero]
  intro c hc
  obtain ⟨l, hl, hcl⟩ := List.mem_flatten.mp hc
  rw [h l hl c hcl]
  exact Bool.false_ne_true

/-- Texts and a summary come out as they are exactly where nothing in a text is changed and the
summary fits into a line. -/
theorem printed_eq_ended_iff (h : ∀ c ∈ summary.toList, OneCell c ∧ c ≠ ':')
    (ts : List (List Char)) (console : ℕ) :
    ts.flatMap printed ++ ended (paragraphLines console summary) =
        ended ts ++ ended [summary.toList] ↔
      (∀ t ∈ ts, PrintsAsIs t) ∧ summary.toList.length ≤ console := by
  have hcells : ∀ c ∈ summary.toList, OneCell c := fun c hc => (h c hc).1
  have hmark : ∀ c ∈ summary.toList, isMark c = false := by
    intro c hc
    have htab : c ≠ '\t' := by
      rintro rfl
      exact absurd (hcells _ hc).printable (by decide)
    simp [isMark, isMove, (h c hc).2, htab, (hcells c hc).isCursorControl_eq_false]
  constructor
  · intro heq
    have hline : (ended [summary.toList]).countP isMark = 0 :=
      countP_isMark_ended_eq_zero (by simpa using hmark)
    have hparagraph : (ended (paragraphLines console summary)).countP isMark = 0 :=
      countP_isMark_ended_eq_zero fun l hl c hc =>
        hmark c ((subset_of_mem_paragraphLines hcells hl).1 hc)
    have hcount := congrArg (List.countP isMark) heq
    rw [List.countP_append, List.countP_append, hline, hparagraph] at hcount
    have hts := (countP_isMark_flatMap_printed_le ts).2 hcount
    rw [flatMap_printed hts, List.append_cancel_left_eq] at heq
    exact ⟨hts, length_le_of_ended_paragraphLines hcells heq⟩
  · rintro ⟨hts, hfits⟩
    rw [flatMap_printed hts, paragraphLines_of_fits hcells hfits]

end Summary

end Denylist.Console

namespace Denylist.Command
open Console (OneCell PrintsAsIs printed ended paragraphLines toStrings)
open Matcher (finding?)

/-! ### The summary of a check -/

/-- A printable character of the first 128, and no colon. -/
def IsBasic (c : Char) : Prop := 0x20 ≤ c.toNat ∧ c.toNat < 0x7F ∧ c ≠ ':'

instance : DecidablePred IsBasic := fun _ => inferInstanceAs (Decidable (_ ∧ _ ∧ _))

theorem IsBasic.oneCell {c : Char} (h : IsBasic c) : OneCell c := by
  obtain ⟨hlow, hhigh, -⟩ := h
  refine ⟨?_, ?_, ?_⟩
  · unfold Text.cellWidth
    dsimp only
    rw [if_neg (by simp; omega), if_pos (by omega)]
  · rintro rfl
    exact absurd hhigh (by decide)
  · rintro rfl
    exact absurd hhigh (by decide)

theorem isBasic_of_all {t : String} (h : t.toList.all (decide <| IsBasic ·) = true) :
    ∀ c ∈ t.toList, IsBasic c := by
  simpa using h

theorem isBasic_append {s t : String} (hs : ∀ c ∈ s.toList, IsBasic c)
    (ht : ∀ c ∈ t.toList, IsBasic c) : ∀ c ∈ (s ++ t).toList, IsBasic c := by
  rw [String.toList_append]
  exact List.forall_mem_append.mpr ⟨hs, ht⟩

theorem isBasic_toString_nat (n : ℕ) : ∀ c ∈ (toString n).toList, IsBasic c := by
  intro c hc
  rw [Nat.toString_eq_repr, Nat.toList_repr] at hc
  have hdigit := Nat.isDigit_of_mem_toDigits (by decide) (by decide) hc
  have hzero : '0'.toNat = 0x30 := rfl
  have hnine : '9'.toNat = 0x39 := rfl
  rw [Char.isDigit_iff_toNat] at hdigit
  refine ⟨by omega, by omega, ?_⟩
  rintro rfl
  exact absurd hdigit (by decide)

theorem isBasic_toString_int (n : ℤ) : ∀ c ∈ (toString n).toList, IsBasic c := by
  cases n with
  | ofNat n => exact isBasic_toString_nat n
  | negSucc n => exact isBasic_append (isBasic_of_all (t := "-") rfl) (isBasic_toString_nat (n + 1))

theorem isBasic_counted (n : ℕ) {noun : String} (h : ∀ c ∈ noun.toList, IsBasic c) :
    ∀ c ∈ (Report.counted n noun).toList, IsBasic c := by
  have hcount : ∀ c ∈ (toString n ++ " " ++ noun).toList, IsBasic c :=
    isBasic_append (isBasic_append (isBasic_toString_nat n) (isBasic_of_all rfl)) h
  unfold Report.counted
  split
  · exact hcount
  · exact isBasic_append hcount (isBasic_of_all rfl)

theorem oneCell_of_mem_mark (r : AnalysisResult) :
    ∀ c ∈ (Report.mark r).toList, OneCell c ∧ c ≠ ':' := by
  have hpass : OneCell '✓' ∧ '✓' ≠ ':' :=
    ⟨⟨by decide +kernel, by decide, by decide⟩, by decide⟩
  have hfail : OneCell '✗' ∧ '✗' ≠ ':' :=
    ⟨⟨by decide +kernel, by decide, by decide⟩, by decide⟩
  unfold Report.mark
  split
  · exact List.forall_mem_singleton.mpr hpass
  · exact List.forall_mem_singleton.mpr hfail

/-- The summary of a check has no colon, and each of its characters takes one cell. -/
theorem oneCell_of_mem_checkSummary (r : AnalysisResult) :
    ∀ c ∈ (checkSummary r).toList, OneCell c ∧ c ≠ ':' := by
  have hbasic {t : String} (h : ∀ c ∈ t.toList, IsBasic c) :
      ∀ c ∈ (Report.mark r ++ t).toList, OneCell c ∧ c ≠ ':' := by
    rw [String.toList_append]
    exact List.forall_mem_append.mpr
      ⟨oneCell_of_mem_mark r, fun c hc => ⟨(h c hc).oneCell, (h c hc).2.2⟩⟩
  unfold checkSummary
  split
  · exact hbasic (isBasic_append (isBasic_append (isBasic_of_all rfl)
      (isBasic_toString_int r.unitsScanned)) (isBasic_of_all rfl))
  · rw [String.append_assoc, String.append_assoc]
    refine hbasic (isBasic_append (isBasic_of_all (t := " ") rfl) (isBasic_append ?_ ?_))
    · exact isBasic_counted r.findings.length (isBasic_of_all rfl)
    · exact isBasic_append (isBasic_append (isBasic_of_all rfl)
        (isBasic_toString_int r.unitsScanned)) (isBasic_of_all rfl)

/-! ### The output of a check -/

theorem toList_written (ls : List String) : (written ls).toList = ended (ls.map String.toList) := by
  rw [written, String.toList_join, ended, List.flatMap_map, List.flatMap_map]
  exact List.flatMap_congr fun l _ => String.toList_append

theorem map_toList_toStrings (ls : List (List Char)) : (toStrings ls).map String.toList = ls := by
  rw [toStrings, List.map_map]
  exact (List.map_congr_left fun l _ => String.toList_ofList).trans (List.map_id ls)

theorem ended_findingLines (l : List Finding) :
    ended ((l.flatMap findingLines).map String.toList) =
      (l.map fun f => f.text.toList).flatMap printed := by
  rw [List.map_flatMap, ended, List.flatMap_assoc, List.flatMap_map]
  exact List.flatMap_congr fun f _ => by rw [findingLines, map_toList_toStrings]; rfl

/-- The plain report is the texts of the findings and the summary, each on a line, exactly where the
console finds nothing to change in the texts and has room for the summary. -/
theorem written_plainLines_eq_iff {width : ℕ} {r : AnalysisResult} :
    written (plainLines width r) = written (r.findings.map Finding.text ++ [checkSummary r]) ↔
      (∀ f ∈ r.findings, PrintsAsIs f.text.toList) ∧ (checkSummary r).toList.length ≤ width := by
  have h := Console.printed_eq_ended_iff (oneCell_of_mem_checkSummary r)
    (r.findings.map fun f => f.text.toList) width
  rw [List.forall_mem_map] at h
  rw [← h, ← String.toList_inj, toList_written, toList_written, plainLines, List.map_append,
    List.map_append, Console.ended_append, Console.ended_append, ended_findingLines,
    map_toList_toStrings, List.map_map]
  rfl

variable {runner : Runner} {s : Setting} {q : CheckRequest} {rules : RuleSet}

theorem checkOutput_eq_ok_iff {width : ℕ} {r : AnalysisResult} (json : q.common.json = false)
    (verbose : q.verbose = false) :
    checkOutput width q r = .ok (written (r.findings.map Finding.text ++ [checkSummary r])) ↔
      (∀ f ∈ r.findings, f.location.isWritable = true ∧ PrintsAsIs f.text.toList) ∧
        (checkSummary r).toList.length ≤ width := by
  rw [forall₂_and, and_assoc, ← written_plainLines_eq_iff, ← List.all_eq_true]
  unfold checkOutput
  rw [json, verbose]
  cases r.findings.all (·.location.isWritable) with
  | false => simp
  | true => simp

/-- **The plain report.**  Whatever the schedule, a check without options for the report finds the uses
that the rules deny, in order, and its output is their texts and the summary, each on a line, exactly
where the log can be written, the line and column of each finding can be written, the console finds
nothing to change in the texts, and the summary fits into a line. -/
theorem plainReport_verbatim_iff {l : List UsageEvent} (json : q.common.json = false)
    (verbose : q.verbose = false)
    (hrun : ∀ units, Analysis.Outcome rules units q.jobs (runner rules units).result)
    (hrules : (loadRules s q.common).result = .ok rules)
    (hfacts : (readFacts s q.facts).1.toList = .ok l) :
    ∃ r : AnalysisResult, r.findings = Finding.sorted (l.filterMap (finding? rules)) ∧
      r.unitsScanned = (FileUnit.ofEvents l).length ∧
      ((∃ o, checkWith runner s q = .done o ∧
          o.output = written (r.findings.map Finding.text ++ [checkSummary r])) ↔
        ¬ Unwritable q rules l ∧
          (∀ f ∈ r.findings, f.location.isWritable = true ∧ PrintsAsIs f.text.toList) ∧
            (checkSummary r).toList.length ≤ s.width) := by
  obtain ⟨r, hr, hfindings, hunits⟩ : ∃ r : AnalysisResult,
      (runner rules ((FileUnit.ofEvents l).map fun u => .ofList u.events)).result = .ok r ∧
      r.findings = Finding.sorted (l.filterMap (finding? rules)) ∧
      r.unitsScanned = (FileUnit.ofEvents l).length :=
    ⟨_, (Analysis.eq_run_of_outcome (hrun _)).trans Analysis.run_feedsByFile_result, rfl, rfl⟩
  obtain ⟨log, hcheck⟩ := checkWith_of_events hrules hfacts
  refine ⟨r, hfindings, hunits, ?_⟩
  rw [hcheck, ← checkOutput_eq_ok_iff json verbose]
  have hscan : scanIsWritable (checkLevel q) (FileUnit.ofEvents l) = false ↔
      Unwritable q rules l := by
    rw [scanIsWritable_eq_false_iff, Unwritable, json]
    simp
  rw [← hscan, Bool.not_eq_false]
  simp only [checkEvents, hr, checkLevel]
  cases scanIsWritable (levelOf q.verbose q.common.debug) (FileUnit.ofEvents l) with
  | false => simp
  | true =>
      cases checkOutput s.width q r with
      | error f => simp
      | ok output => simp

/-! ### A line number that is a code -/

/-- A config that denies a macro, and a use of it on line one hundred. -/
def hundredSetting : Setting where
  files := ⟨[
    (["clippy.toml"], .file
      "disallowed-macros = [\x7bpath = 'dbg', reason = 'use the logger'\x7d]".toUTF8.toList),
    (["uses.jsonl"], .file
      ("\x7b\"kind\": \"macro\", \"path\": \"dbg\", \"file\": \"a.rs\", " ++
        "\"line\": 100, \"column\": 5\x7d\n").toUTF8.toList)]⟩
  cwd := []
  configVariable := none
  width := 80

/-- To check it. -/
def hundredRequest : CheckRequest where
  common := ⟨none, false, false⟩
  facts := [.absolute ["uses.jsonl"]]
  jobs := none
  verbose := false

/-- The text of the finding. -/
def hundredText : String := "a.rs:100:5: disallowed macro `dbg`: use the logger"

/-- What is printed. -/
def hundredOutput : String :=
  "a.rs💯5: disallowed macro `dbg`: use the logger\n✗ 1 violation in 1 files\n"

/-- Whether a check finds what stands in the text and prints the output. -/
def printsHundred : Except Failure RuleSet → Except Failure (List UsageEvent) → Conclusion → Bool
  | .ok rules, .ok l, .done o =>
    (Finding.sorted (l.filterMap (finding? rules))).map Finding.text == [hundredText] &&
      o.output == hundredOutput
  | _, _, _ => false

theorem exists_hundredOutput : ∃ rules l o,
    (loadRules hundredSetting hundredRequest.common).result = .ok rules ∧
    (readFacts hundredSetting hundredRequest.facts).1.toList = .ok l ∧
    (Finding.sorted (l.filterMap (finding? rules))).map Finding.text = [hundredText] ∧
    check hundredSetting hundredRequest = .done o ∧ o.output = hundredOutput := by
  have h : printsHundred (loadRules hundredSetting hundredRequest.common).result
      (readFacts hundredSetting hundredRequest.facts).1.toList
      (check hundredSetting hundredRequest) = true := by decide +kernel
  unfold printsHundred at h
  split at h
  · next rules l o hrules hl ho =>
      rw [Bool.and_eq_true] at h
      exact ⟨rules, l, o, hrules, hl, eq_of_beq h.1, ho, eq_of_beq h.2⟩
  · cases h

/-- The condition at this use. -/
theorem plainReport_verbatim_iff_of_hundred : ∃ rules l, ∃ r : AnalysisResult,
    (loadRules hundredSetting hundredRequest.common).result = .ok rules ∧
    (readFacts hundredSetting hundredRequest.facts).1.toList = .ok l ∧
    r.findings.map Finding.text = [hundredText] ∧
    ((∃ o, check hundredSetting hundredRequest = .done o ∧
        o.output = written [hundredText, checkSummary r]) ↔
      ¬ Unwritable hundredRequest rules l ∧
        (∀ f ∈ r.findings, f.location.isWritable = true ∧ PrintsAsIs f.text.toList) ∧
          (checkSummary r).toList.length ≤ hundredSetting.width) := by
  obtain ⟨rules, l, -, hrules, hl, htexts, -, -⟩ := exists_hundredOutput
  obtain ⟨r, hfindings, -, hiff⟩ :=
    plainReport_verbatim_iff (q := hundredRequest) rfl rfl (outcome_run rfl rules) hrules hl
  rw [← hfindings] at htexts
  rw [htexts] at hiff
  exact ⟨rules, l, r, hrules, hl, htexts, hiff⟩

/-- The number of the line is printed as an emoji, so that no report with the text of the finding is
what is printed. -/
theorem output_ne_verbatim_of_hundred : ∃ rules l o,
    (loadRules hundredSetting hundredRequest.common).result = .ok rules ∧
    (readFacts hundredSetting hundredRequest.facts).1.toList = .ok l ∧
    (Finding.sorted (l.filterMap (finding? rules))).map Finding.text = [hundredText] ∧
    check hundredSetting hundredRequest = .done o ∧ o.output = hundredOutput ∧
      ∀ summary, o.output ≠ written [hundredText, summary] := by
  obtain ⟨rules, l, o, hrules, hl, htexts, ho, houtput⟩ := exists_hundredOutput
  refine ⟨rules, l, o, hrules, hl, htexts, ho, houtput, fun summary h => ?_⟩
  -- the two differ where the first has the emoji and the second a colon
  have hprinted : hundredOutput.toList[4]? = some '💯' := by decide
  have hverbatim : (written [hundredText, summary]).toList[4]? = some ':' := by
    rw [toList_written, List.map_cons, Console.ended_cons, List.getElem?_append_left (by decide)]
    decide
  rw [← houtput, h, hverbatim] at hprinted
  exact absurd hprinted (by decide)

end Denylist.Command
