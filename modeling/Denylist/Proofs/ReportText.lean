import Denylist.Proofs.CheckStatus
import Denylist.Proofs.JsonWriting
import Denylist.Proofs.RecordShapes
import Denylist.Report.Json

/-!
# Proofs — the report for programs says all of a result

The text of a report is read as the report, on one line or with any indent, and its findings are
read as those of the result, in their order (`toJson_faithful`).  So results with different findings
never have the same text.  There is a text exactly where all integers of the report are such that
they can be written.
-/

namespace Denylist
open Sequences

/-! ### Findings -/

/-- The finding that a table describes whose location is flat. -/
def Finding.ofFlat : Document → Checked Finding
  | .table ms => read (.table (UsageRecord.nest ms))
  | d => read d

/-- The findings that a report lists. -/
def Report.findingsOf (report : Document) : Checked (List Finding) :=
  (((report.at? "violations").bind Document.items?).getD []).mapM Finding.ofFlat

theorem Finding.ofChecked_eq_ok_iff {location : Checked Location} {kind : Checked Kind}
    {path reason : Checked String} {others : List Issue} {f : Finding} :
    ofChecked location kind path reason others = .ok f ↔
      location = .ok f.location ∧ kind = .ok f.kind ∧ path = .ok f.path ∧ reason = .ok f.reason ∧
        others = [] := by
  unfold ofChecked
  split
  · rcases f with ⟨l, k, p, q⟩
    simp
  · next h =>
      simp only [reduceCtorEq, false_iff]
      rintro ⟨rfl, rfl, rfl, rfl, rfl⟩
      exact h _ _ _ _ rfl rfl rfl rfl rfl

/-- A finding is read from what is written for it. -/
theorem Finding.ofFlat_toDocument (f : Finding) : ofFlat f.toDocument = .ok f := by
  have hplace : Location.read (.ofFields [("file", .text f.location.file),
      ("line", .int f.location.line), ("column", .int f.location.column)]) = .ok f.location := by
    refine UsageRecord.location_ofChecked_eq_ok_iff.mpr ⟨?_, ?_, ?_, rfl⟩
    · exact requiredField_eq_ok_iff.mpr ⟨_, rfl, readNonempty_eq_ok_iff.mpr (.text _)⟩
    · exact requiredField_eq_ok_iff.mpr ⟨_, rfl, readPositive_eq_ok_iff.mpr (.int _)⟩
    · exact readField_eq_ok_iff.mpr (Or.inl ⟨_, rfl, readPositive_eq_ok_iff.mpr (.int _)⟩)
  refine ofChecked_eq_ok_iff.mpr ⟨?_, ?_, ?_, ?_, rfl⟩
  · exact requiredField_eq_ok_iff.mpr ⟨_, rfl, hplace⟩
  · exact requiredField_eq_ok_iff.mpr ⟨_, rfl, readKind_eq_ok_iff.mpr (.text _)⟩
  · exact requiredField_eq_ok_iff.mpr ⟨_, rfl, readText_eq_ok_iff.mpr (.text _)⟩
  · exact requiredField_eq_ok_iff.mpr ⟨_, rfl, readText_eq_ok_iff.mpr (.text _)⟩

namespace Report
open Json (Plain)

theorem findingsOf_toDocument (r : AnalysisResult) (timing : Bool) :
    findingsOf (toDocument r timing) = .ok r.findings := by
  have hlist : ((toDocument r timing).at? "violations").bind Document.items? =
      some (r.findings.map Finding.toDocument) := rfl
  rw [findingsOf, hlist, Option.getD_some, List.mapM_map, mapM_eq_ok_iff, List.forall₂_same]
  exact fun f _ => f.ofFlat_toDocument

/-! ### Reports are plain -/

theorem plain_ofFields {fields : List (String × Document)} (hn : (fields.map Prod.fst).Nodup)
    (h : ∀ f ∈ fields, f.2.isWritable = true → Plain f.2)
    (hw : (Document.ofFields fields).isWritable = true) : Plain (.ofFields fields) := by
  refine .table hn fun f hf => h f hf ?_
  rw [← Bool.not_eq_false] at hw ⊢
  exact fun hfalse => hw (Command.ofFields_isWritable_eq_false_iff.mpr ⟨f, hf, hfalse⟩)

theorem plain_list {l : List Document} (h : ∀ d ∈ l, d.isWritable = true → Plain d)
    (hw : (Document.list l).isWritable = true) : Plain (.list l) := by
  refine .list fun d hd => h d hd ?_
  rw [← Bool.not_eq_false] at hw ⊢
  exact fun hfalse => hw (Config.areWritable_eq_false_iff.mpr ⟨d, hd, hfalse⟩)

theorem plain_finding (f : Finding) (hw : f.toDocument.isWritable = true) :
    Plain f.toDocument := by
  refine plain_ofFields (by simp) (fun g hg => ?_) hw
  simp only [List.mem_cons, List.not_mem_nil, or_false] at hg
  rcases hg with rfl | rfl | rfl | rfl | rfl | rfl
  · exact fun _ => .text _
  · exact .int
  · exact .int
  · exact fun _ => .text _
  · exact fun _ => .text _
  · exact fun _ => .text _

theorem plain_statistics (r : AnalysisResult) (hw : (statistics r false).isWritable = true) :
    Plain (statistics r false) := by
  refine plain_ofFields (by simp) (fun g hg => ?_) hw
  simp only [Bool.false_eq_true, if_false, List.append_nil, List.mem_cons, List.not_mem_nil,
    or_false] at hg
  rcases hg with rfl | rfl | rfl | rfl | rfl
  · exact .int
  · exact .int
  · exact .int
  · exact .int
  · refine plain_ofFields (by simp [Kind.all, Kind.name]) fun k hk => ?_
    obtain ⟨k, -, rfl⟩ := List.mem_map.mp hk
    exact .int

/-- A report without its duration is plain if it can be written. -/
theorem plain_toDocument (r : AnalysisResult) (hw : (toDocument r false).isWritable = true) :
    Plain (toDocument r false) := by
  refine plain_ofFields (by simp) (fun g hg => ?_) hw
  simp only [List.mem_cons, List.not_mem_nil, or_false] at hg
  rcases hg with rfl | rfl | rfl | rfl | rfl
  · exact fun _ => .text _
  · exact fun _ => .bool _
  · exact .int
  · exact plain_statistics r
  · refine plain_list fun d hd => ?_
    obtain ⟨f, -, rfl⟩ := List.mem_map.mp hd
    exact plain_finding f

/-! ### The text of a report -/

/-- The integers of a result that a report tells. -/
def integers (r : AnalysisResult) : List ℤ :=
  [r.rulesLoaded, r.unitsScanned, r.eventsSeen, r.findings.length] ++
    r.findings.flatMap fun f => [(f.location.line : ℤ), f.location.column]

theorem isWritable_toDocument_iff (r : AnalysisResult) (timing : Bool) :
    (toDocument r timing).isWritable = true ↔
      ∀ n ∈ integers r, n.natAbs < Decimal.pow10 Decimal.maxDigits := by
  have hscalar (n : ℤ) : (Scalar.int n).isWritable = true ↔
      n.natAbs < Decimal.pow10 Decimal.maxDigits := by rw [Scalar.isWritable, decide_eq_true_iff]
  have hint (n : ℤ) : (Document.int n).isWritable = true ↔
      n.natAbs < Decimal.pow10 Decimal.maxDigits := hscalar n
  rw [Command.report_isWritable_iff, integers]
  simp only [hint, Location.isWritable, Bool.and_eq_true, hscalar, List.forall_mem_append,
    List.forall_mem_flatMap, List.forall_mem_cons, List.not_mem_nil, false_implies, implies_true,
    and_true]

theorem toJson_eq_ok_iff {r : AnalysisResult} {indent : Option ℤ} {timing : Bool} {t : String} :
    toJson r indent timing = .ok t ↔ (toDocument r timing).isWritable = true ∧
      (Json.Layout.mk (indent.map Int.toNat) false).write (toDocument r timing) = t := by
  unfold toJson
  cases h : (toDocument r timing).isWritable with
  | true => simp [h]
  | false => simp [h]

/-- The text of a report is read as the report. -/
theorem read_of_toJson_eq_ok {r : AnalysisResult} {indent : Option ℤ} {t : String}
    (h : toJson r indent false = .ok t) : Json.read t = .ok (toDocument r false) := by
  obtain ⟨hw, rfl⟩ := toJson_eq_ok_iff.mp h
  exact Json.read_write _ (plain_toDocument r hw)

/-- **The report for programs is faithful.**  Let the duration be left out.

* A report has a text, on one line or with any indent, exactly where its integers can be written.
* To read the text gives the report, and to read its list of violations gives the findings of the
  result in their order, whatever files, paths and reasons are.
* No result with other findings has the same text, with whatever indent. -/
theorem toJson_faithful (r : AnalysisResult) (indent : Option ℤ) :
    ((∃ t, toJson r indent false = .ok t) ↔
      ∀ n ∈ integers r, n.natAbs < Decimal.pow10 Decimal.maxDigits) ∧
    ∀ t, toJson r indent false = .ok t →
      Json.read t = .ok (toDocument r false) ∧ findingsOf (toDocument r false) = .ok r.findings ∧
        ∀ r' indent', toJson r' indent' false = .ok t → r'.findings = r.findings := by
  refine ⟨by simp [toJson_eq_ok_iff, isWritable_toDocument_iff], fun t h => ?_⟩
  refine ⟨read_of_toJson_eq_ok h, findingsOf_toDocument r false, fun r' indent' h' => ?_⟩
  have hreport : toDocument r' false = toDocument r false :=
    Except.ok.inj ((read_of_toJson_eq_ok h').symm.trans (read_of_toJson_eq_ok h))
  have hfindings := findingsOf_toDocument r' false
  rw [hreport, findingsOf_toDocument] at hfindings
  exact (Except.ok.inj hfindings).symm

/-- The result of a run with one finding. -/
def singleResult (f : Finding) : AnalysisResult where
  findings := [f]
  unitsScanned := 1
  eventsSeen := 3
  rulesLoaded := 2
  duration := 0.25

/-- A finding with quotes, backslashes, controls and characters beyond the first plane. -/
def quotedFinding : Finding :=
  ⟨⟨"C:\\src\\\"a\".rs", 204, 33, by decide, Nat.succ_pos _, Nat.succ_pos _⟩, .method, "Vec::push",
    "\x00\x1f\t\r\n\x7f / \u2028 é 🦀"⟩

/-- Its report can be read. -/
theorem toJson_faithful_quotedFinding :
    ∃ t, toJson (singleResult quotedFinding) (some 2) false = .ok t ∧
      Json.read t = .ok (toDocument (singleResult quotedFinding) false) ∧
      findingsOf (toDocument (singleResult quotedFinding) false) = .ok [quotedFinding] := by
  have hsmall : ∀ n ∈ integers (singleResult quotedFinding), n.natAbs < Decimal.pow10 3 := by
    decide
  obtain ⟨hexists, hread⟩ := toJson_faithful (singleResult quotedFinding) (some 2)
  obtain ⟨t, ht⟩ := hexists.mpr fun n hn =>
    Nat.lt_of_lt_of_le (hsmall n hn) (Command.pow10_le_pow10 (by decide))
  obtain ⟨hreport, hfindings, -⟩ := hread t ht
  exact ⟨t, ht, hreport, hfindings⟩

/-- A finding in the first line whose number is too long to be written. -/
def longLineFinding : Finding := ⟨Command.longLineUse.location, .macroUse, "dbg", "use the logger"⟩

/-- Its report has no text. -/
theorem no_toJson_for_longLineFinding :
    toJson (singleResult longLineFinding) (some 2) false = .error .longOutput := by
  have hlong : Decimal.pow10 Decimal.maxDigits ≤ longLineFinding.location.line := by
    decide +kernel
  have hmem (f : Finding) : (f.location.line : ℤ) ∈ integers (singleResult f) :=
    List.mem_append_right _
      (List.mem_flatMap.mpr ⟨f, List.mem_singleton_self f, List.mem_cons_self⟩)
  have hw : ¬ (toDocument (singleResult longLineFinding) false).isWritable = true := by
    rw [isWritable_toDocument_iff]
    intro h
    have hlt := h _ (hmem longLineFinding)
    rw [Int.natAbs_natCast] at hlt
    exact Nat.not_le.mpr hlt hlong
  unfold toJson
  rw [if_neg hw]

end Report

end Denylist
