import Denylist.Proofs.MatcherRuns
import Denylist.Proofs.Schedule
import Mathlib.Data.List.Sort

/-!
# Proofs — warnings about kinds that rules do not have

A scan tells details only (`warningsOf_scan`), so what a run or an analysis warns about is what its
tally says when all is scanned.  The tally of a unit counts the uses of each kind that rules do not
have, and merged tallies count those of all units together (`counts_mergeTallies`).  The warnings
are known from these numbers alone (`unknownKindWarnings_eq_of_counts`), and the numbers from which
events there are.  Hence neither the cut into units nor the order of the events nor the schedule of
the workers shows in the warnings (`warns_once_for_each_unknown_kind`).
-/

namespace Denylist

/-! ### Uses of unknown kinds -/

variable {l l' : List UsageEvent} {name : String}

/-- A name that is none of a kind of rules has the uses of the kind that it names. -/
theorem unknownUses_of_notMem (h : name ∉ Kind.names) :
    unknownUses l name = l.countP fun e => e.kind = .ofName name := by
  refine List.countP_congr fun e _ => ?_
  rw [decide_eq_true_iff, decide_eq_true_iff, UsageKind.eq_ofName_iff,
    UsageKind.isKnown_eq_false_iff]
  constructor
  · exact fun he => he.2
  · rintro rfl
    exact ⟨h, rfl⟩

/-- The names with uses are those of the kinds of events that rules do not have. -/
theorem unknownUses_pos_iff :
    0 < unknownUses l name ↔ name ∉ Kind.names ∧ ∃ e ∈ l, e.kind = .ofName name := by
  rw [unknownUses, List.countP_pos_iff]
  simp only [decide_eq_true_iff, UsageKind.isKnown_eq_false_iff, UsageKind.eq_ofName_iff]
  constructor
  · rintro ⟨e, he, hunknown, rfl⟩
    exact ⟨hunknown, e, he, rfl⟩
  · rintro ⟨h, e, he, rfl⟩
    exact ⟨e, he, h, rfl⟩

theorem unknownUses_eq_of_perm (h : l.Perm l') : unknownUses l = unknownUses l' :=
  funext fun _ => h.countP_eq _

theorem unknownUses_append : unknownUses (l ++ l') = fun s => unknownUses l s + unknownUses l' s :=
  funext fun _ => List.countP_append

namespace Analysis
open Sequences
open Tally (Counts)

variable {s : RuleSet} {ls : List (List UsageEvent)}

/-! ### Tallies of units -/

theorem counts_unitResult (s : RuleSet) (l : List UsageEvent) :
    Counts (unitResult s l).unknownKinds (unknownUses l) :=
  (Matcher.accounts_foldl_after (Matcher.accounts_new s)).unknownKinds

theorem counts_foldl_merge {t : Tally} {f : String → ℕ} (h : Counts t f) :
    Counts ((ls.map (unitResult s)).foldl (fun t u => t.merge u.unknownKinds) t)
      fun name => f name + unknownUses ls.flatten name := by
  induction ls generalizing t f with
  | nil => exact h
  | cons l ls ih =>
      have hmore := ih (h.merge (counts_unitResult s l))
      simp only [Nat.add_assoc] at hmore
      rw [List.flatten_cons, unknownUses_append]
      exact hmore

/-- The tallies of units put together count the uses in all units. -/
theorem counts_mergeTallies (s : RuleSet) (ls : List (List UsageEvent)) :
    Counts (mergeTallies (ls.map (unitResult s))) (unknownUses ls.flatten) := by
  have h := @counts_foldl_merge s ls [] (fun _ => 0) (Tally.counts_nil_iff.mpr fun _ => rfl)
  simp only [Nat.zero_add] at h
  exact h

/-- A warning quotes the kind, counts its uses and lists the kinds that rules have. -/
theorem unknownKindWarning_eq (name : String) (n : ℕ) : unknownKindWarning (name, n) =
    ⟨.warning, "Unknown usage kind " ++ Text.quoted name ++ " on " ++ toString n ++
      " events was treated as a miss (expected one of: macro, method, type)"⟩ := by
  have hkinds : ", ".intercalate Kind.names = "macro, method, type" := rfl
  rw [unknownKindWarning, hkinds]
  simp [String.append_assoc]

/-- A tally gives one warning for each name that occurs, in ascending order. -/
theorem unknownKindWarnings_eq_of_counts {t : Tally} {f : String → ℕ} (h : Counts t f)
    {names : List String} (hsorted : names.Pairwise (· < ·))
    (hmem : ∀ name, name ∈ names ↔ 0 < f name) :
    unknownKindWarnings t = names.map fun name => unknownKindWarning (name, f name) := by
  obtain ⟨names', hsorted', hmem', ht⟩ := h.exists_names
  have heq : names' = names := hsorted'.eq_of_mem_iff hsorted fun name => by rw [hmem', hmem]
  rw [unknownKindWarnings, ht, heq, List.map_map]
  rfl

/-! ### Warnings of a log -/

theorem warningsOf_append {log log' : List LogEntry} :
    warningsOf (log ++ log') = warningsOf log ++ warningsOf log' :=
  List.filter_append log log'

theorem warningsOf_unknownKindWarnings (t : Tally) :
    warningsOf (unknownKindWarnings t) = unknownKindWarnings t := by
  rw [warningsOf, List.filter_eq_self, unknownKindWarnings]
  intro e he
  obtain ⟨p, -, rfl⟩ := List.mem_map.mp he
  rfl

/-- A scan warns about nothing. -/
theorem warningsOf_scan (m : Matcher) (f : Feed UsageEvent) : warningsOf (m.scan f).log = [] := by
  rw [warningsOf, List.filter_eq_nil_iff]
  intro entry hentry
  obtain ⟨e, -, he⟩ := List.mem_flatMap.mp hentry
  unfold Matcher.entries at he
  split at he
  · rw [List.mem_singleton.mp he]
    exact Bool.false_ne_true
  · cases he

theorem warningsOf_scanUnits (units : List (Feed UsageEvent)) :
    warningsOf (scanUnits s units).log = [] := by
  induction units with
  | nil => rfl
  | cons f fs ih =>
      have hscan : warningsOf (scanUnit s f).log = [] := warningsOf_scan (.new s) f
      cases h : (scanUnit s f).result with
      | error e =>
          simp only [scanUnits, h]
          exact hscan
      | ok u =>
          simp only [scanUnits, h]
          rw [warningsOf_append, hscan, ih]
          rfl

/-- An analysis warns about what its tally counts. -/
theorem warningsOf_analyze (s : RuleSet) (l : List UsageEvent) :
    warningsOf (analyze s (.ofList l)).log = unknownKindWarnings (unitResult s l).unknownKinds := by
  have hlog : (analyze s (.ofList l)).log =
      ((Matcher.new s).scan (.ofList l)).log ++
        unknownKindWarnings (unitResult s l).unknownKinds := rfl
  rw [hlog, warningsOf_append, warningsOf_scan, warningsOf_unknownKindWarnings, List.nil_append]

/-- A run over units that do not fail warns about what their tallies count together. -/
theorem warningsOf_run (s : RuleSet) (ls : List (List UsageEvent)) :
    warningsOf (run s (ls.map .ofList)).log =
      unknownKindWarnings (mergeTallies (ls.map (unitResult s))) := by
  simp only [run, scanUnits_map_ofList_result]
  rw [warningsOf_append, warningsOf_append, warningsOf_scanUnits, warningsOf_unknownKindWarnings,
    List.nil_append]
  exact List.append_nil _

/-! ### Warnings of a run -/

variable {maxWorkers : Option ℤ} {w : List LogEntry}

/-- Whatever the schedule, a run over units that do not fail warns about what their tallies count
together. -/
theorem eq_of_warns (h : Warns s (ls.map .ofList) maxWorkers w) :
    w = unknownKindWarnings (mergeTallies (ls.map (unitResult s))) := by
  cases h with
  | inOrder _ => exact warningsOf_run s ls
  | pooled _ _ _ steps ends =>
      have hi := Pool.invariant_of_steps (@Pool.invariant_start s _) steps
      cases ends with
      | merged all =>
          -- the pool has collected what the units give one after the other
          have hus := mapM_eq_ok_iff.mpr (Pool.forall₂_collected hi all)
          rw [← scanUnits_result, scanUnits_map_ofList_result] at hus
          rw [Except.ok.inj hus]
          rfl
      | raised us e hover =>
          -- no unit fails, so no failure was raised
          have hrun := Pool.eq_run_of_ends hi (.raised us e hover)
          rw [run_map_ofList_result] at hrun
          cases hrun

theorem exists_warns {units : List (Feed UsageEvent)} (hw : checkWorkers maxWorkers = .ok ()) :
    ∃ w, Warns s units maxWorkers w := by
  obtain ⟨r, hr⟩ := @exists_outcome s units maxWorkers hw
  cases hr with
  | inOrder h => exact ⟨_, .inOrder h⟩
  | pooled h pos given steps ends => exact ⟨_, .pooled h pos given steps ends⟩

/-- **Warnings about unknown kinds.**  Over units that do not fail, a run with any admissible number
of workers warns once about each kind of an event that rules do not have, in ascending order of the
kinds.  Each warning quotes the kind, says how many events of all units have it and lists the kinds
that rules have, and there is never one about such a kind.  However the same events are cut into
units and arranged, with however many workers, the warnings are the same, and an analysis of the
events in one feed gives the same. -/
theorem warns_once_for_each_unknown_kind (hw : checkWorkers maxWorkers = .ok ()) (s : RuleSet)
    (ls : List (List UsageEvent)) :
    ∃ (names : List String) (warnings : List LogEntry), names.Pairwise (· < ·) ∧
      (∀ name, name ∈ names ↔
        name ∉ ["macro", "method", "type"] ∧ ∃ e ∈ ls.flatten, e.kind = .ofName name) ∧
      (warnings = names.map fun name => ⟨.warning,
        "Unknown usage kind " ++ Text.quoted name ++ " on " ++
          toString (ls.flatten.countP fun e => e.kind = .ofName name) ++
          " events was treated as a miss (expected one of: macro, method, type)"⟩) ∧
      (∃ w, Warns s (ls.map .ofList) maxWorkers w) ∧
      (∀ (ls' : List (List UsageEvent)) (maxWorkers' : Option ℤ) (w : List LogEntry),
        ls'.flatten.Perm ls.flatten → Warns s (ls'.map .ofList) maxWorkers' w → w = warnings) ∧
      ∀ l : List UsageEvent, l.Perm ls.flatten →
        warningsOf (analyze s (.ofList l)).log = warnings := by
  obtain ⟨names, hsorted, hmem, -⟩ := (counts_mergeTallies s ls).exists_names
  -- a tally of the same uses gives the warnings that are claimed
  have hwarnings {t : Tally} (ht : Counts t (unknownUses ls.flatten)) :
      unknownKindWarnings t = names.map fun name =>
        unknownKindWarning (name, ls.flatten.countP fun e => e.kind = .ofName name) := by
    rw [unknownKindWarnings_eq_of_counts ht hsorted hmem]
    refine List.map_congr_left fun name hname => ?_
    rw [unknownUses_of_notMem (unknownUses_pos_iff.mp ((hmem name).mp hname)).1]
  refine ⟨names, _, hsorted, fun name => (hmem name).trans unknownUses_pos_iff,
    List.map_congr_left fun name _ => unknownKindWarning_eq name _, exists_warns hw, ?_, ?_⟩
  · intro ls' maxWorkers' w hperm h
    rw [eq_of_warns h]
    exact hwarnings (unknownUses_eq_of_perm hperm ▸ counts_mergeTallies s ls')
  · intro l hperm
    rw [warningsOf_analyze]
    exact hwarnings (unknownUses_eq_of_perm hperm ▸ counts_unitResult s l)

/-- A use of a symbol of some kind in a build script. -/
def scriptUse (kind : String) : UsageEvent :=
  ⟨.ofName kind, "cfg::feature", ⟨"build.rs", 1, 1, by decide, Nat.one_pos, Nat.one_pos⟩, by decide⟩

/-- Two workers scan three units, two of which use an attribute: there is one warning about both
uses, and none about the use of a macro. -/
theorem warns_once_about_attributes :
    checkWorkers (some 2) = .ok () ∧ ∃ w,
      Warns .empty ([[scriptUse "attribute"], [], [scriptUse "macro", scriptUse "attribute"]].map
        .ofList) (some 2) w ∧
      w = [⟨.warning, "Unknown usage kind 'attribute' on 2 events was treated as a miss " ++
        "(expected one of: macro, method, type)"⟩] := by
  have hw : checkWorkers (some 2) = .ok () := rfl
  obtain ⟨names, warnings, hsorted, hmem, htexts, ⟨w, hwarns⟩, hrun, -⟩ := warns_once_for_each_unknown_kind hw .empty
    [[scriptUse "attribute"], [], [scriptUse "macro", scriptUse "attribute"]]
  have hnames : names = ["attribute"] := by
    refine hsorted.eq_of_mem_iff (List.pairwise_singleton _ _) fun name => (hmem name).trans ?_
    rw [List.mem_singleton]
    constructor
    · rintro ⟨hnot, e, he, hk⟩
      have hname : e.kind.name = name := by rw [hk, UsageKind.name_ofName]
      have hkinds : ∀ e ∈ [[scriptUse "attribute"], [],
          [scriptUse "macro", scriptUse "attribute"]].flatten,
          e.kind.name ∈ ["macro", "method", "type"] ∨ e.kind.name = "attribute" := by decide
      exact hname ▸ (hkinds e he).resolve_left (hname ▸ hnot)
    · rintro rfl
      exact ⟨by decide, scriptUse "attribute", List.mem_cons_self, rfl⟩
  refine ⟨hw, w, hwarns, (hrun _ _ w (.refl _) hwarns).trans ?_⟩
  rw [htexts, hnames]
  rfl

end Analysis

end Denylist
