import Denylist.Analysis
import Denylist.Proofs.RuleIndex

/-!
# Proofs — what a scan gives

A matcher's answer depends on the rules and the events alone: the rules never change, the count of
events is the number of events, and each event is judged by itself (`Matcher.finding?`).  So the
scan of one feed is a filter of its events (`analyze_result`), the scan of a row of units fails with
the first unit that fails (`scanUnits_result`), and where none fails the run puts the events of all
units together (`run_result`), just as if they had been one feed (`analyze_concat_result`).
-/

namespace Denylist
open Sequences

namespace Feed

variable {α : Type}

theorem toList_eq_ok_iff {f : Feed α} {l : List α} :
    f.toList = .ok l ↔ f.failure = none ∧ f.items = l := by
  unfold toList
  cases f.failure with
  | none => simp
  | some e => simp

theorem toList_eq_error_iff {f : Feed α} {e : Failure} :
    f.toList = .error e ↔ f.failure = some e := by
  unfold toList
  cases f.failure with
  | none => simp
  | some e' => simp

theorem toList_append {f g : Feed α} :
    (f.append g).toList = f.toList >>= fun l => g.toList.map (l ++ ·) := by
  unfold append toList
  cases f.failure with
  | some e => rfl
  | none =>
      cases g.failure with
      | none => rfl
      | some e => rfl

/-- Feeds in a row give what each of them gives, up to the first that fails. -/
theorem toList_concat {fs : List (Feed α)} :
    (concat fs).toList = (fs.mapM toList).map List.flatten := by
  induction fs with
  | nil => rfl
  | cons f fs ih =>
      rw [concat, toList_append, ih, List.mapM_cons]
      cases f.toList with
      | error e => rfl
      | ok l =>
          cases fs.mapM toList with
          | error e => rfl
          | ok ls => rfl

end Feed

/-- A rule of the set has the kind and the path of the event. -/
def RuleSet.Lists (s : RuleSet) (e : UsageEvent) : Prop :=
  ∃ r ∈ s.rules, e.kind = .known r.kind ∧ e.path = r.path

instance (s : RuleSet) : DecidablePred s.Lists := fun e =>
  inferInstanceAs (Decidable (∃ r ∈ s.rules, e.kind = .known r.kind ∧ e.path = r.path))

namespace Matcher

/-- The finding that an event is, if it is one. -/
def finding? (rules : RuleSet) (e : UsageEvent) : Option Finding :=
  (violation? rules e).map Violation.render

@[simp] theorem rules_after {m : Matcher} {e : UsageEvent} : (m.after e).rules = m.rules := by
  unfold after
  split <;> rfl

@[simp] theorem eventsSeen_after {m : Matcher} {e : UsageEvent} :
    (m.after e).eventsSeen = m.eventsSeen + 1 := by
  unfold after
  split <;> rfl

theorem rules_foldl_after {l : List UsageEvent} {m : Matcher} :
    (l.foldl after m).rules = m.rules := by
  induction l generalizing m with
  | nil => rfl
  | cons e l ih => rw [List.foldl_cons, ih, rules_after]

theorem eventsSeen_foldl_after {l : List UsageEvent} {m : Matcher} :
    (l.foldl after m).eventsSeen = m.eventsSeen + l.length := by
  induction l generalizing m with
  | nil => rfl
  | cons e l ih =>
      rw [List.foldl_cons, ih, eventsSeen_after, List.length_cons, Nat.add_assoc, Nat.add_comm 1]

theorem scan_result {m : Matcher} {f : Feed UsageEvent} :
    (m.scan f).result = f.toList.map fun l => l.filterMap (violation? m.rules) := by
  unfold scan Feed.toList
  cases f.failure with
  | none => rfl
  | some e => rfl

/-- An event is a violation of the rule of its kind and its path, at its location. -/
theorem violation?_eq_some_iff {s : RuleSet} {e : UsageEvent} {v : Violation} :
    violation? s e = some v ↔
      v.rule ∈ s.rules ∧ e.kind = .known v.rule.kind ∧ e.path = v.rule.path ∧
        e.location = v.location := by
  rcases v with ⟨r, at_⟩
  rw [violation?]
  constructor
  · intro hv
    split at hv
    · next k hk =>
        obtain ⟨r', hr, hv⟩ := Option.map_eq_some_iff.mp hv
        cases hv
        obtain ⟨hmem, rfl, hpath⟩ := RuleSet.lookup_eq_some_iff.mp hr
        exact ⟨hmem, hk, hpath.symm, rfl⟩
    · cases hv
  · rintro ⟨hmem, hk, hpath, rfl⟩
    rw [hk]
    exact Option.map_eq_some_iff.mpr
      ⟨r, RuleSet.lookup_eq_some_iff.mpr ⟨hmem, rfl, hpath.symm⟩, rfl⟩

theorem isSome_violation?_iff {s : RuleSet} {e : UsageEvent} :
    (violation? s e).isSome ↔ s.Lists e := by
  rw [Option.isSome_iff_exists]
  simp only [violation?_eq_some_iff]
  constructor
  · rintro ⟨v, hmem, hk, hp, -⟩
    exact ⟨v.rule, hmem, hk, hp⟩
  · rintro ⟨r, hmem, hk, hp⟩
    exact ⟨⟨r, e.location⟩, hmem, hk, hp, rfl⟩

/-- An event is a finding when its kind and its path are those of a rule. -/
theorem finding?_eq_some_iff {s : RuleSet} {e : UsageEvent} {x : Finding} :
    finding? s e = some x ↔
      (e.location = x.location ∧ e.kind = .known x.kind ∧ e.path = x.path) ∧
        ∃ r ∈ s.rules, r.kind = x.kind ∧ r.path = x.path ∧ r.reason = x.reason := by
  rcases x with ⟨at_, k, p, q⟩
  rw [finding?, Option.map_eq_some_iff]
  constructor
  · rintro ⟨v, hv, hx⟩
    cases hx
    obtain ⟨hmem, hk, hp, hl⟩ := violation?_eq_some_iff.mp hv
    exact ⟨⟨hl, hk, hp⟩, v.rule, hmem, rfl, rfl, rfl⟩
  · rintro ⟨⟨rfl, hk, rfl⟩, r, hmem, rfl, hpath, rfl⟩
    refine ⟨⟨r, e.location⟩, violation?_eq_some_iff.mpr ⟨hmem, hk, hpath.symm, rfl⟩, ?_⟩
    exact congrArg (Finding.mk e.location r.kind · r.reason) hpath

end Matcher

theorem Reporter.findings_filterMap {rules : RuleSet} {l : List UsageEvent} :
    Reporter.findings (l.filterMap (Matcher.violation? rules)) =
      Finding.sorted (l.filterMap (Matcher.finding? rules)) := by
  rw [Reporter.findings, List.map_filterMap]
  rfl

namespace Analysis

/-- One feed is analysed by judging its events one by one. -/
theorem analyze_result {rules : RuleSet} {f : Feed UsageEvent} :
    (analyze rules f).result =
      f.toList.map fun l => Finding.sorted (l.filterMap (Matcher.finding? rules)) := by
  have h := Matcher.scan_result (m := .new rules) (f := f)
  simp only [analyze, h]
  cases f.toList with
  | error e => rfl
  | ok l => exact congrArg Except.ok Reporter.findings_filterMap

/-- What a unit gives whose events are all there. -/
def unitResult (rules : RuleSet) (l : List UsageEvent) : UnitResult :=
  ⟨l.filterMap (Matcher.violation? rules), l.length,
    (l.foldl Matcher.after (.new rules)).unknownKinds⟩

theorem scanUnit_result {rules : RuleSet} {f : Feed UsageEvent} :
    (scanUnit rules f).result = f.toList.map (unitResult rules) := by
  have h := Matcher.scan_result (m := .new rules) (f := f)
  simp only [scanUnit, h]
  unfold Feed.toList
  cases f.failure with
  | some e => rfl
  | none =>
      have hn : (f.items.foldl Matcher.after (.new rules)).eventsSeen = f.items.length := by
        rw [Matcher.eventsSeen_foldl_after]
        exact Nat.zero_add _
      simp only [Except.map, unitResult, Matcher.scan, hn]
      rfl

/-- Units are scanned in order, up to the first that fails. -/
theorem scanUnits_result {rules : RuleSet} {units : List (Feed UsageEvent)} :
    (scanUnits rules units).result = units.mapM fun f => (scanUnit rules f).result := by
  induction units with
  | nil => rfl
  | cons f fs ih =>
      rw [List.mapM_cons, ← ih]
      cases h : (scanUnit rules f).result with
      | error e => simp only [scanUnits, h]; rfl
      | ok u =>
          simp only [scanUnits, h]
          cases (scanUnits rules fs).result with
          | error e => rfl
          | ok us => rfl

/-- Units that do not fail give their results. -/
theorem scanUnits_map_ofList_result {rules : RuleSet} {ls : List (List UsageEvent)} :
    (scanUnits rules (ls.map Feed.ofList)).result = .ok (ls.map (unitResult rules)) := by
  rw [scanUnits_result, mapM_eq_ok_iff, List.forall₂_map_left_iff, List.forall₂_map_right_iff,
    List.forall₂_same]
  exact fun l _ => scanUnit_result

theorem run_result_eq_map {rules : RuleSet} {units : List (Feed UsageEvent)} :
    (run rules units).result = (scanUnits rules units).result.map (mergeUnits rules) := by
  cases h : (scanUnits rules units).result with
  | error e => simp only [run, h]; rfl
  | ok us => simp only [run, h]; rfl

/-- The outcome over units whose events are all there. -/
def merged (rules : RuleSet) (ls : List (List UsageEvent)) : AnalysisResult :=
  { findings := Finding.sorted (ls.flatten.filterMap (Matcher.finding? rules))
    unitsScanned := ls.length
    eventsSeen := ls.flatten.length
    rulesLoaded := rules.size
    duration := 0.0 }

/-- The results of units put together are those of their events in a row. -/
theorem mergeUnits_map_unitResult {rules : RuleSet} {ls : List (List UsageEvent)} :
    mergeUnits rules (ls.map (unitResult rules)) = merged rules ls := by
  have hv : (ls.map (unitResult rules)).flatMap UnitResult.violations =
      ls.flatten.filterMap (Matcher.violation? rules) := by
    rw [List.filterMap_flatten, List.flatMap_def, List.map_map]
    rfl
  have hn : sumOf ((ls.map (unitResult rules)).map UnitResult.eventsSeen) =
      ls.flatten.length := by
    rw [List.map_map]
    exact sumOf_map_length
  rw [mergeUnits, hv, hn, Reporter.findings_filterMap, List.length_map]
  rfl

/-- A run puts the events of its units together, provided none of the units fails. -/
theorem run_result {rules : RuleSet} {units : List (Feed UsageEvent)} :
    (run rules units).result = (units.mapM Feed.toList).map (merged rules) := by
  have h : (scanUnits rules units).result =
      (units.mapM Feed.toList).map (List.map (unitResult rules)) := by
    rw [scanUnits_result, ← mapM_map_eq]
    simp only [scanUnit_result]
  rw [run_result_eq_map, h]
  cases units.mapM Feed.toList with
  | error e => rfl
  | ok ls => exact congrArg Except.ok mergeUnits_map_unitResult

theorem run_map_ofList_result {rules : RuleSet} {ls : List (List UsageEvent)} :
    (run rules (ls.map Feed.ofList)).result = .ok (merged rules ls) := by
  rw [run_result_eq_map, scanUnits_map_ofList_result]
  exact congrArg Except.ok mergeUnits_map_unitResult

/-- Units in a row as one feed have the findings of the run over the units, and fail with it. -/
theorem analyze_concat_result {rules : RuleSet} {units : List (Feed UsageEvent)} :
    (analyze rules (.concat units)).result =
      (run rules units).result.map AnalysisResult.findings := by
  rw [analyze_result, Feed.toList_concat, run_result]
  cases units.mapM Feed.toList with
  | error e => rfl
  | ok ls => rfl

end Analysis

end Denylist
