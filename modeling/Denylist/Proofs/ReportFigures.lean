import Denylist.Proofs.Detection
import Denylist.Proofs.Schedule
import Denylist.Report.Json

/-!
# Proofs — the figures of a report

The figures of a report come from several places: the units count their events, the run counts its
units, the findings are counted once together and once by kind, and they are listed besides.  What a
run over whole units finds is known (`merged`), and so is how often it finds something of a kind: as
often as an event has this kind and a path that a rule denies (`countOf_findings`).  Each finding
has one kind, so that the counts by kind add up to the length of the list (`sumOf_map_countOf`).
Hence the figures fit the events and one another (`figures_are_exact`).
-/

namespace Denylist

/-- What stands at the end of a path of keys. -/
def Document.follow? : List String → Document → Option Document
  | [], d => some d
  | name :: names, d => (d.at? name).bind (follow? names)

/-- The number of events of a kind that are listed. -/
def RuleSet.usesOf (s : RuleSet) (l : List UsageEvent) (k : Kind) : ℕ :=
  l.countP fun e => e.kind = .known k ∧ s.Lists e

/-- The number of listed events of all kinds together. -/
def RuleSet.uses (s : RuleSet) (l : List UsageEvent) : ℕ := sumOf (Kind.all.map (s.usesOf l))

namespace Report
open Analysis
open Matcher (finding?)

/-- A report gives the figures of the rules `s` and the events in the units `ls`. -/
structure Exact (s : RuleSet) (ls : List (List UsageEvent)) (report : Document) : Prop where
  rules : report.follow? ["statistics", "rules_loaded"] = some (.int s.size)
  units : report.follow? ["statistics", "units_scanned"] = some (.int ls.length)
  events : report.follow? ["statistics", "events_seen"] = some (.int ls.flatten.length)
  kinds : ∀ k : Kind, report.follow? ["statistics", "by_kind", k.name] =
    some (.int (s.usesOf ls.flatten k))
  violations : report.follow? ["statistics", "violations"] = some (.int (s.uses ls.flatten))
  success : report.follow? ["success"] = some (.bool (s.uses ls.flatten = 0))
  exitCode : report.follow? ["exit_code"] =
    some (.int (if s.uses ls.flatten = 0 then 0 else 1))
  /-- As many violations are listed as are counted, each with what a rule says. -/
  listed : ∃ l, report.follow? ["violations"] = some (.list l) ∧
    l.length = s.uses ls.flatten ∧
    ∀ d ∈ l, ∃ r ∈ s.rules, d.follow? ["kind"] = some (.text r.kind.name) ∧
      d.follow? ["path"] = some (.text r.path) ∧ d.follow? ["reason"] = some (.text r.reason)

variable {s : RuleSet} {l : List UsageEvent}

/-! ### Counting findings -/

/-- Findings are of one kind each. -/
theorem sumOf_map_countOf (l : List Finding) :
    sumOf (Kind.all.map fun k => countOf k l) = l.length := by
  induction l with
  | nil => rfl
  | cons x l ih =>
      rw [List.length_cons, ← ih]
      -- only the count of the kind of `x` is one more
      obtain ⟨at_, k, p, q⟩ := x
      cases k <;> simp [countOf, Kind.all] <;> omega

theorem countOf_eq_of_perm {k : Kind} {l l' : List Finding} (h : l.Perm l') :
    countOf k l = countOf k l' := (h.filter _).length_eq

/-- An event is a finding of a kind when it has this kind and is listed. -/
theorem exists_finding_of_kind_iff {e : UsageEvent} {k : Kind} :
    (∃ x, finding? s e = some x ∧ x.kind = k) ↔ e.kind = .known k ∧ s.Lists e := by
  constructor
  · rintro ⟨x, hx, rfl⟩
    obtain ⟨⟨-, hk, hp⟩, r, hr, hkind, hpath, -⟩ := Matcher.finding?_eq_some_iff.mp hx
    exact ⟨hk, r, hr, hkind ▸ hk, hp.trans hpath.symm⟩
  · rintro ⟨hk, r, hr, hkind, hp⟩
    obtain rfl : r.kind = k := UsageKind.known.inj (hkind.symm.trans hk)
    refine ⟨⟨e.location, r.kind, e.path, r.reason⟩, Matcher.finding?_eq_some_iff.mpr ?_, rfl⟩
    exact ⟨⟨rfl, hk, rfl⟩, r, hr, rfl, hp.symm, rfl⟩

/-- Something of a kind is found as often as a listed event has this kind. -/
theorem countOf_findings (k : Kind) :
    countOf k (Finding.sorted (l.filterMap (finding? s))) = s.usesOf l k := by
  rw [countOf_eq_of_perm (Finding.sorted_perm _), countOf, ← List.countP_eq_length_filter,
    List.countP_filterMap, RuleSet.usesOf]
  refine List.countP_congr fun e _ => ?_
  rw [decide_eq_true_iff, ← exists_finding_of_kind_iff]
  cases finding? s e with
  | none => simp
  | some x => simp

theorem length_findings : (Finding.sorted (l.filterMap (finding? s))).length = s.uses l := by
  rw [← sumOf_map_countOf, RuleSet.uses]
  exact congrArg sumOf (List.map_congr_left fun k _ => countOf_findings k)

theorem exists_rule_of_mem_findings {x : Finding}
    (hx : x ∈ Finding.sorted (l.filterMap (finding? s))) :
    ∃ r ∈ s.rules, r.kind = x.kind ∧ r.path = x.path ∧ r.reason = x.reason := by
  obtain ⟨e, -, he⟩ := List.mem_filterMap.mp ((Finding.sorted_perm _).mem_iff.mp hx)
  exact (Matcher.finding?_eq_some_iff.mp he).2

/-! ### Reading a report -/

theorem follow?_by_kind (r : AnalysisResult) (timing : Bool) (k : Kind) :
    (toDocument r timing).follow? ["statistics", "by_kind", k.name] =
      some (.int (countOf k r.findings)) := by
  cases k <;> rfl

/-- The report on a run gives the exact figures, whatever its duration. -/
theorem exact_merged (ls : List (List UsageEvent)) (timing : Bool) (t : Float) :
    Exact s ls (toDocument { merged s ls with duration := t } timing) := by
  have hempty : (merged s ls).findings.isEmpty = decide (s.uses ls.flatten = 0) := by
    rw [Bool.eq_iff_iff, decide_eq_true_iff, List.isEmpty_iff_length_eq_zero, ← length_findings]
    rfl
  constructor
  case rules => rfl
  case units => rfl
  case events => rfl
  case kinds =>
    intro k
    rw [follow?_by_kind]
    exact congrArg (fun n : ℕ => some (Document.int n)) (countOf_findings k)
  case violations => exact congrArg (fun n : ℕ => some (Document.int n)) length_findings
  case success => exact congrArg (fun b => some (Document.bool b)) hempty
  case exitCode =>
    have hread : (toDocument { merged s ls with duration := t } timing).follow? ["exit_code"] =
        some (.int (exitStatus (merged s ls).findings)) := rfl
    rw [hread, exitStatus, hempty]
    simp only [decide_eq_true_iff]
    split <;> rfl
  case listed =>
    refine ⟨(merged s ls).findings.map Finding.toDocument, rfl, ?_, ?_⟩
    · rw [List.length_map]
      exact length_findings
    · intro d hd
      obtain ⟨x, hx, rfl⟩ := List.mem_map.mp hd
      obtain ⟨r, hr, hkind, hpath, hreason⟩ := exists_rule_of_mem_findings hx
      exact ⟨r, hr, hkind ▸ rfl, hpath ▸ rfl, hreason ▸ rfl⟩

variable {maxWorkers : Option ℤ}

/-- **The figures of a report are exact.**  A run over units that do not fail, with any admissible
number of workers, has an outcome, and whatever the schedule of the workers and however long it
took, the report on it counts all rules, all units and all events, counts for each kind the events
of that kind whose path a rule denies for it, counts and lists as many violations as these are
together, each with the kind, the path and the reason of a rule, and calls the run a success, with
the status zero, exactly when there are none. -/
theorem figures_are_exact (hw : checkWorkers maxWorkers = .ok ()) (s : RuleSet)
    (ls : List (List UsageEvent)) (timing : Bool) (t : Float) :
    (∃ outcome, Outcome s (ls.map .ofList) maxWorkers outcome) ∧
    ∀ outcome, Outcome s (ls.map .ofList) maxWorkers outcome →
      ∃ r, outcome = .ok r ∧ Exact s ls (toDocument { r with duration := t } timing) := by
  refine ⟨exists_outcome hw, fun outcome h => ⟨merged s ls, ?_, exact_merged ls timing t⟩⟩
  rw [eq_run_of_outcome h, run_map_ofList_result]

/-- Three units, one of them empty, with two uses of a macro, one of a method of the same name and
one of a kind that rules do not have. -/
def printUnits : List (List UsageEvent) :=
  [[Detection.printUse (.known .macroUse), Detection.printUse (.known .method)], [],
    [Detection.printUse (.ofName "attribute"), Detection.printUse (.known .macroUse)]]

/-- Two workers scan the units for the macro, which is denied: both uses of it are counted, and
nothing else is. -/
theorem counts_both_uses_of_print :
    checkWorkers (some 2) = .ok () ∧ ∃ s, RuleSet.build [Detection.printRule] = .ok s ∧ ∃ r,
      Outcome s (printUnits.map .ofList) (some 2) (.ok r) ∧
      (toDocument { r with duration := 12.5 } true).follow? ["statistics", "events_seen"] =
        some (.int 4) ∧
      (toDocument { r with duration := 12.5 } true).follow? ["statistics", "by_kind", "macro"] =
        some (.int 2) ∧
      (toDocument { r with duration := 12.5 } true).follow? ["statistics", "violations"] =
        some (.int 2) ∧
      (toDocument { r with duration := 12.5 } true).follow? ["exit_code"] = some (.int 1) := by
  have hw : checkWorkers (some 2) = .ok () := rfl
  obtain ⟨s, hs⟩ := RuleSet.exists_build_singleton_eq_ok Detection.printRule
  have hrules : s.rules = [Detection.printRule] := RuleSet.rules_of_build_eq_ok hs
  obtain ⟨⟨outcome, h⟩, hall⟩ := figures_are_exact hw s printUnits true 12.5
  obtain ⟨r, rfl, hexact⟩ := hall outcome h
  have hkind : ∀ k, s.usesOf printUnits.flatten k = if k = .macroUse then 2 else 0 := by
    intro k
    simp only [RuleSet.usesOf, RuleSet.Lists, hrules, List.mem_singleton, exists_eq_left]
    cases k <;> decide
  have huses : s.uses printUnits.flatten = 2 := by
    rw [RuleSet.uses, List.map_congr_left fun k _ => hkind k]
    rfl
  refine ⟨hw, s, hs, r, h, hexact.events, ?_, ?_, ?_⟩
  · refine (hexact.kinds .macroUse).trans ?_
    rw [hkind]
    rfl
  · rw [hexact.violations, huses]
    rfl
  · rw [hexact.exitCode, huses]
    rfl

end Report

end Denylist
