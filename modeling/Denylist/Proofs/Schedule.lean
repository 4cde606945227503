import Denylist.Pool
import Denylist.Proofs.Scans

/-!
# Proofs — every schedule gives the outcome of the units in order

The workers of a pool share nothing but the rules.  So whatever the others do, the state of a task
is told by the events that its own worker has consumed (`Task.Tracks`), and a task that is over has
the result of a scan of its unit alone.  Results are collected in the order of the units.  What was
collected is hence the result of a row of units at the front, and a failure that was raised is that
of the unit behind them (`Pool.Invariant`).  Each step preserves this, so a pool that is done has
the outcome of the run that scans the units one after the other (`Pool.eq_run_of_ends`).

A pool that is not done can go on (`Pool.exists_step`), and each step brings it nearer to its end
(`Pool.step_wellFounded`): no schedule gets stuck and none goes on for ever.
-/

namespace Denylist
open Sequences
open Analysis (UnitResult mergeUnits scanUnit scanUnits run)

variable {rules : RuleSet} {units : List (Feed UsageEvent)}

namespace Task

/-! ### One task -/

/-- What a unit's task may be, given how far its own worker has come. -/
inductive Tracks (rules : RuleSet) : Feed UsageEvent → Task → Prop where
  | waiting (f : Feed UsageEvent) : Tracks rules f (.waiting f)
  | scanning (consumed rest : List UsageEvent) (failure : Option Failure) :
      Tracks rules ⟨consumed ++ rest, failure⟩
        (.scanning (consumed.foldl Matcher.after (.new rules))
          (consumed.filterMap (Matcher.violation? rules)) ⟨rest, failure⟩)
  | finished (f : Feed UsageEvent) : Tracks rules f (.finished (scanUnit rules f).result)
  | cancelled (f : Feed UsageEvent) : Tracks rules f .cancelled

variable {f : Feed UsageEvent} {t t' : Task}

theorem tracks_of_begins (ht : Tracks rules f t) (h : Begins rules t t') : Tracks rules f t' := by
  cases h
  cases ht
  exact .scanning [] _ _

theorem tracks_of_cancels (h : Cancels t t') : Tracks rules f t' := by
  cases h
  exact .cancelled f

/-- A worker that goes on with its task has consumed one event more, or has scanned the unit. -/
theorem tracks_of_works (ht : Tracks rules f t) (h : Works t t') : Tracks rules f t' := by
  cases ht with
  | waiting => cases h
  | finished => cases h
  | cancelled => cases h
  | scanning consumed rest failure =>
      cases h with
      | event _ _ e es _ =>
          -- one event goes over from those ahead to those consumed
          have hr : (consumed.foldl Matcher.after (.new rules)).rules = rules :=
            Matcher.rules_foldl_after
          have he : [e].filterMap (Matcher.violation? rules) =
              (Matcher.violation? rules e).toList := by
            cases h : Matcher.violation? rules e with
            | none => simp [h]
            | some v => simp [h]
          have ht := @Tracks.scanning rules (consumed ++ [e]) es failure
          rw [List.foldl_append, List.filterMap_append, he, List.append_assoc] at ht
          rw [Matcher.examine, hr]
          exact ht
      | finish =>
          rw [List.append_nil]
          exact .finished ⟨consumed, none⟩
      | fail _ _ e =>
          rw [List.append_nil]
          exact .finished ⟨consumed, some e⟩

theorem eq_of_tracks_finished {r : Except Failure UnitResult}
    (ht : Tracks rules f (.finished r)) : (scanUnit rules f).result = r := by
  cases ht
  rfl

/-! ### A row of tasks -/

variable {change : Task → Task → Prop} {ts ts' : List Task}

theorem forall₂_of_oneOf {R : Feed UsageEvent → Task → Prop}
    (hc : ∀ {f t t'}, R f t → change t t' → R f t') (h : OneOf change ts ts')
    (hts : List.Forall₂ R units ts) : List.Forall₂ R units ts' := by
  induction h generalizing units with
  | here _ h =>
      cases hts with
      | cons ht hts => exact .cons (hc ht h) hts
  | there t _ ih =>
      cases hts with
      | cons ht hts => exact .cons ht (ih hts)

theorem exists_oneOf {t t' : Task} (ht : t ∈ ts) (h : change t t') :
    ∃ ts', OneOf change ts ts' := by
  induction ts with
  | nil => cases ht
  | cons u ts ih =>
      rcases List.mem_cons.mp ht with rfl | ht
      · exact ⟨t' :: ts, .here ts h⟩
      · obtain ⟨ts', hts'⟩ := ih ht
        exact ⟨u :: ts', .there u hts'⟩

theorem length_eq_of_oneOf (h : OneOf change ts ts') : ts'.length = ts.length := by
  induction h with
  | here ts h => rfl
  | there t _ ih => rw [List.length_cons, List.length_cons, ih]

/-- A task that changes to one of a certain sort was in the row, or the sort was there before. -/
theorem mem_of_oneOf {u : Task} (h : OneOf change ts ts') (hu : u ∈ ts') :
    u ∈ ts ∨ ∃ t, change t u := by
  induction h with
  | here ts h =>
      rcases List.mem_cons.mp hu with rfl | hu
      · exact Or.inr ⟨_, h⟩
      · exact Or.inl (List.mem_cons_of_mem _ hu)
  | there t _ ih =>
      rcases List.mem_cons.mp hu with rfl | hu
      · exact Or.inl List.mem_cons_self
      · exact (ih hu).imp_left (List.mem_cons_of_mem _)

end Task

namespace Pool

/-! ### What every step preserves -/

/-- What was collected, and what was raised, are the results of the first units, in order. -/
def Collected (rules : RuleSet) (units : List (Feed UsageEvent)) (us : List UnitResult)
    (raised : Option Failure) : Prop :=
  ∃ before after, units = before ++ after ∧
    List.Forall₂ (fun f u => (scanUnit rules f).result = .ok u) before us ∧
    ∀ e, raised = some e → ∃ f rest, after = f :: rest ∧ (scanUnit rules f).result = .error e

/-- What holds of a pool for units at any time. -/
structure Invariant (rules : RuleSet) (units : List (Feed UsageEvent)) (p : Pool) : Prop where
  /-- Each task is that of its unit. -/
  tracks : List.Forall₂ (Task.Tracks rules) units p.tasks
  /-- The results were collected in order. -/
  collected : Collected rules units p.collected p.raised
  /-- No task is given up before a failure is raised. -/
  kept : p.raised = none → .cancelled ∉ p.tasks

theorem invariant_start : Invariant rules units (start units) := by
  refine ⟨?_, ⟨[], units, rfl, .nil, fun e h => by cases h⟩, fun _ h => ?_⟩
  · rw [start, List.forall₂_map_right_iff, List.forall₂_same]
    exact fun f _ => .waiting f
  · obtain ⟨f, -, hf⟩ := List.mem_map.mp h
    cases hf

/-- The next unit of those whose results were collected, if its task is over. -/
theorem exists_next {ts : List Task} {us : List UnitResult} {before after : List (Feed UsageEvent)}
    {r : Except Failure UnitResult}
    (hts : List.Forall₂ (Task.Tracks rules) (before ++ after) ts)
    (hus : List.Forall₂ (fun f u => (scanUnit rules f).result = .ok u) before us)
    (h : ts[us.length]? = some (.finished r)) :
    ∃ f rest, after = f :: rest ∧ (scanUnit rules f).result = r := by
  obtain ⟨f, hf, ht⟩ := exists_getElem?_of_forall₂ hts h
  rw [← hus.length_eq, List.getElem?_append_right (Nat.le_refl _), Nat.sub_self] at hf
  cases after with
  | nil => cases hf
  | cons g rest =>
      cases hf
      exact ⟨f, rest, rfl, Task.eq_of_tracks_finished ht⟩

/-- Each step preserves the invariant. -/
theorem invariant_of_step {workers : ℕ} {p p' : Pool} (hi : Invariant rules units p)
    (h : Step rules workers p p') : Invariant rules units p' := by
  obtain ⟨hts, hus, hkept⟩ := hi
  cases h with
  | begin us raised _ h =>
      -- a task that a worker takes or goes on with has not been given up
      refine ⟨Task.forall₂_of_oneOf Task.tracks_of_begins h hts, hus, fun hr hc => ?_⟩
      rcases Task.mem_of_oneOf h hc with hc | ⟨t, ht⟩
      · exact hkept hr hc
      · cases ht
  | work us raised h =>
      refine ⟨Task.forall₂_of_oneOf Task.tracks_of_works h hts, hus, fun hr hc => ?_⟩
      rcases Task.mem_of_oneOf h hc with hc | ⟨t, ht⟩
      · exact hkept hr hc
      · cases ht
  | collect h =>
      obtain ⟨before, after, rfl, hb, -⟩ := hus
      obtain ⟨f, rest, rfl, hf⟩ := exists_next hts hb h
      -- the unit joins those at the front, and the others move up
      refine ⟨hts, ⟨before ++ [f], rest, List.append_cons .., ?_, fun e he => by cases he⟩, hkept⟩
      exact List.rel_append hb (.cons hf .nil)
  | raise h =>
      obtain ⟨before, after, rfl, hb, -⟩ := hus
      obtain ⟨f, rest, rfl, hf⟩ := exists_next hts hb h
      refine ⟨hts, ⟨before, f :: rest, rfl, hb, fun e he => ?_⟩, fun hr => by cases hr⟩
      cases he
      exact ⟨f, rest, rfl, hf⟩
  | cancel us e h =>
      refine ⟨Task.forall₂_of_oneOf (fun _ hc => Task.tracks_of_cancels hc) h hts, hus, ?_⟩
      exact fun hr => by cases hr

theorem invariant_of_steps {workers : ℕ} {p p' : Pool} (hi : Invariant rules units p)
    (h : Steps rules workers p p') : Invariant rules units p' := by
  induction h with
  | refl => exact hi
  | more h _ ih => exact ih (invariant_of_step hi h)

/-- A pool whose results are put together has collected the results of all units. -/
theorem forall₂_collected {ts : List Task} {us : List UnitResult}
    (hi : Invariant rules units ⟨ts, us, none⟩) (all : us.length = ts.length) :
    List.Forall₂ (fun f u => (scanUnit rules f).result = .ok u) units us := by
  obtain ⟨hts, ⟨before, after, rfl, hb, -⟩, -⟩ := hi
  -- as many results as units, so there is no unit behind those collected
  have hl := hts.length_eq
  rw [← all, ← hb.length_eq, List.length_append] at hl
  obtain rfl : after = [] := List.length_eq_zero_iff.mp (by omega)
  rwa [List.append_nil]

/-- A pool that is done has the outcome of the units one after the other. -/
theorem eq_run_of_ends {p : Pool} {r : Except Failure AnalysisResult}
    (hi : Invariant rules units p) (h : Ends rules p r) : r = (run rules units).result := by
  rw [Analysis.run_result_eq_map, Analysis.scanUnits_result]
  cases h with
  | merged all =>
      rw [mapM_eq_ok_iff.mpr (forall₂_collected hi all)]
      rfl
  | raised us e _ =>
      obtain ⟨-, ⟨before, after, rfl, hb, hraised⟩, -⟩ := hi
      obtain ⟨f, rest, rfl, hf⟩ := hraised e rfl
      have hm : (before ++ f :: rest).mapM (fun f => (scanUnit rules f).result) = .error e :=
        mapM_eq_error_iff.mpr
          ⟨before, f, rest, rfl, fun g hg => (exists_right_of_forall₂ hb hg).imp fun _ h => h.2, hf⟩
      rw [hm]
      rfl

end Pool

/-! ### No schedule gets stuck or goes on for ever -/

namespace Task

variable {change : Task → Task → Prop} {t t' : Task} {ts ts' : List Task}

theorem exists_works (h : t.isScanning) : ∃ t', Works t t' := by
  cases t with
  | waiting => cases h
  | finished => cases h
  | cancelled => cases h
  | scanning m found rest =>
      rcases rest with ⟨items, failure⟩
      cases items with
      | cons e es => exact ⟨_, .event m found e es failure⟩
      | nil =>
          cases failure with
          | none => exact ⟨_, .finish m found⟩
          | some e => exact ⟨_, .fail m found e⟩

/-- More than the number of changes that a task may still undergo. -/
def weight : Task → ℕ
  | .waiting f => f.items.length + 3
  | .scanning _ _ rest => rest.items.length + 2
  | .finished _ => 1
  | .cancelled => 0

theorem weight_lt_of_begins (h : Begins rules t t') : t'.weight < t.weight := by
  cases h
  exact Nat.lt_succ_self _

theorem weight_lt_of_works (h : Works t t') : t'.weight < t.weight := by
  cases h with
  | event m found e es failure => exact Nat.lt_succ_self _
  | finish m found => exact Nat.lt_succ_self _
  | fail m found e => exact Nat.lt_succ_self _

theorem weight_lt_of_cancels (h : Cancels t t') : t'.weight < t.weight := by
  cases h
  exact Nat.succ_pos _

theorem sum_weight_lt_of_oneOf (hc : ∀ {t t'}, change t t' → t'.weight < t.weight)
    (h : OneOf change ts ts') : sumOf (ts'.map weight) < sumOf (ts.map weight) := by
  induction h with
  | here ts h =>
      rw [List.map_cons, List.map_cons, sumOf_cons, sumOf_cons]
      exact Nat.add_lt_add_right (hc h) _
  | there t _ ih =>
      rw [List.map_cons, List.map_cons, sumOf_cons, sumOf_cons]
      exact Nat.add_lt_add_left ih _

end Task

namespace Pool

variable {workers : ℕ} {p p' : Pool}

/-- More than the number of steps that a pool may still take. -/
def weight (p : Pool) : ℕ :=
  sumOf (p.tasks.map Task.weight) + (p.tasks.length - p.collected.length) +
    (if p.raised.isNone then 1 else 0)

theorem weight_lt_of_step (h : Step rules workers p p') : p'.weight < p.weight := by
  unfold weight
  cases h with
  | begin us raised _ h =>
      have hw := Task.sum_weight_lt_of_oneOf Task.weight_lt_of_begins h
      have hl := Task.length_eq_of_oneOf h
      simp only [hl]
      omega
  | work us raised h =>
      have hw := Task.sum_weight_lt_of_oneOf Task.weight_lt_of_works h
      have hl := Task.length_eq_of_oneOf h
      simp only [hl]
      omega
  | @collect ts us u h =>
      obtain ⟨hl, -⟩ := List.getElem?_eq_some_iff.mp h
      simp only [List.length_append, List.length_singleton]
      omega
  | raise h =>
      simp only [Option.isNone_none, Option.isNone_some]
      exact Nat.lt_succ_self _
  | cancel us e h =>
      have hw := Task.sum_weight_lt_of_oneOf Task.weight_lt_of_cancels h
      have hl := Task.length_eq_of_oneOf h
      simp only [hl]
      omega

/-- No schedule goes on for ever. -/
theorem step_wellFounded (rules : RuleSet) (workers : ℕ) :
    WellFounded fun p' p => Step rules workers p p' :=
  Subrelation.wf weight_lt_of_step (measure weight).wf

/-- A pool is done, or something may happen in it. -/
theorem exists_step (hw : 0 < workers) (hi : Invariant rules units p) :
    (∃ r, Ends rules p r) ∨ ∃ p', Step rules workers p p' := by
  obtain ⟨ts, us, raised⟩ := p
  obtain ⟨hts, ⟨before, after, rfl, hb, -⟩, hkept⟩ := hi
  by_cases hs : ∃ t ∈ ts, t.isScanning = true
  · -- a worker is busy, and it can go on
    obtain ⟨t, ht, hbusy⟩ := hs
    obtain ⟨t', hwork⟩ := Task.exists_works hbusy
    obtain ⟨ts', hone⟩ := Task.exists_oneOf ht hwork
    exact Or.inr ⟨_, .work us raised hone⟩
  have hfree : ts.countP Task.isScanning < workers := by
    rw [List.countP_eq_zero.mpr fun t ht hbusy => hs ⟨t, ht, hbusy⟩]
    exact hw
  cases raised with
  | some e =>
      by_cases hover : ∀ t ∈ ts, t.isOver = true
      · exact Or.inl ⟨_, .raised us e hover⟩
      · obtain ⟨t, ht, hnot⟩ := not_forall₂.mp hover
        cases t with
        | waiting f =>
            obtain ⟨ts', hone⟩ := Task.exists_oneOf ht (Task.Cancels.cancel f)
            exact Or.inr ⟨_, .cancel us e hone⟩
        | scanning m found rest => exact absurd ⟨_, ht, rfl⟩ hs
        | finished r => exact absurd rfl hnot
        | cancelled => exact absurd rfl hnot
  | none =>
      have hl := hts.length_eq
      rw [List.length_append, hb.length_eq] at hl
      cases after with
      | nil => exact Or.inl ⟨_, .merged hl⟩
      | cons f rest =>
          -- the task of the unit behind those collected decides
          have hlt : us.length < ts.length := by
            rw [← hl]
            exact Nat.lt_add_of_pos_right (Nat.succ_pos _)
          have hget : ts[us.length]? = some ts[us.length] := List.getElem?_eq_getElem hlt
          have hmem := List.mem_of_getElem? hget
          cases h : ts[us.length] with
          | waiting g =>
              obtain ⟨ts', hone⟩ := Task.exists_oneOf (h ▸ hmem) (Task.Begins.take g)
              exact Or.inr ⟨_, .begin us none hfree hone⟩
          | scanning m found rest => exact absurd ⟨_, h ▸ hmem, rfl⟩ hs
          | finished r =>
              rw [h] at hget
              cases r with
              | ok u => exact Or.inr ⟨_, .collect hget⟩
              | error e => exact Or.inr ⟨_, .raise hget⟩
          | cancelled => exact absurd (h ▸ hmem) (hkept rfl)

/-- Whatever has happened in a pool, it can be brought to its end. -/
theorem exists_ends (hw : 0 < workers) (hi : Invariant rules units p) :
    ∃ p' r, Steps rules workers p p' ∧ Ends rules p' r := by
  induction p using (step_wellFounded rules workers).induction with
  | h p ih =>
      rcases exists_step hw hi with ⟨r, hr⟩ | ⟨p₁, h⟩
      · exact ⟨p, r, .refl p, hr⟩
      · obtain ⟨p', r, hs, hr⟩ := ih p₁ h (invariant_of_step hi h)
        exact ⟨p', r, .more h hs, hr⟩

end Pool

/-! ### Runs -/

namespace Analysis

variable {maxWorkers : Option Int}

theorem eq_run_of_outcome {r : Except Failure AnalysisResult}
    (h : Outcome rules units maxWorkers r) : r = (run rules units).result := by
  cases h with
  | inOrder _ => rfl
  | pooled _ _ _ steps ends =>
      exact Pool.eq_run_of_ends (Pool.invariant_of_steps Pool.invariant_start steps) ends

theorem one_le_of_checkWorkers {n : Int} (h : checkWorkers (some n) = .ok ()) : 1 ≤ n := by
  by_contra hn
  rw [checkWorkers, if_pos (Int.not_le.mp hn)] at h
  cases h

/-- A run with an admissible number of workers has an outcome. -/
theorem exists_outcome (hw : checkWorkers maxWorkers = .ok ()) :
    ∃ r, Outcome rules units maxWorkers r := by
  by_cases hin : InOrder maxWorkers units
  · exact ⟨_, .inOrder hin⟩
  · cases maxWorkers with
    | none =>
        -- where the number is left open, one worker will do
        obtain ⟨p, r, hs, hr⟩ := Pool.exists_ends Nat.one_pos (@Pool.invariant_start rules units)
        exact ⟨r, .pooled hin Nat.one_pos (fun n hn => by cases hn) hs hr⟩
    | some n =>
        have hn := one_le_of_checkWorkers hw
        have hpos : 0 < n.toNat := by omega
        obtain ⟨p, r, hs, hr⟩ := Pool.exists_ends hpos (@Pool.invariant_start rules units)
        refine ⟨r, .pooled hin hpos (fun k hk => ?_) hs hr⟩
        obtain rfl := Option.some.inj hk
        exact (Int.toNat_of_nonneg (by omega)).symm

/-- A run over units that do not fail counts all units and all events. -/
theorem exists_run_eq_ok (h : ∀ f ∈ units, f.failure = none) :
    ∃ a, (run rules units).result = .ok a ∧ a.unitsScanned = units.length ∧
      a.eventsSeen = (units.flatMap Feed.items).length := by
  have hm : units.mapM Feed.toList = .ok (units.map Feed.items) := by
    rw [mapM_eq_ok_iff, List.forall₂_map_right_iff, List.forall₂_same]
    exact fun f hf => Feed.toList_eq_ok_iff.mpr ⟨h f hf, rfl⟩
  refine ⟨merged rules (units.map Feed.items), by rw [run_result, hm]; rfl, ?_, ?_⟩
  · rw [merged, List.length_map]
  · rw [merged, ← List.flatMap_def]

/-- A run fails with the failure of the first unit that has one. -/
theorem run_eq_error_iff {e : Failure} :
    (run rules units).result = .error e ↔ ∃ before f after, units = before ++ f :: after ∧
      (∀ g ∈ before, g.failure = none) ∧ f.failure = some e := by
  rw [run_result, map_eq_error_iff, mapM_eq_error_iff]
  simp only [Feed.toList_eq_error_iff, Feed.toList_eq_ok_iff, exists_and_left, exists_eq', and_true]

/-- **Schedules do not show.**  With any admissible number of workers there is an outcome, and a
pool can be brought to its end whatever has happened in it.  However the steps of the workers are
interleaved, the outcome is that of the units one after the other: the findings are those of all
units in a row as one feed, all units and events are counted, and where units fail it is the failure
of the first such unit in the order of the units. -/
theorem outcome_of_every_schedule (hw : checkWorkers maxWorkers = .ok ()) (rules : RuleSet)
    (units : List (Feed UsageEvent)) :
    (∃ r, Outcome rules units maxWorkers r) ∧
    (∀ workers p, 0 < workers → Pool.Steps rules workers (.start units) p →
      ∃ p' r, Pool.Steps rules workers p p' ∧ Pool.Ends rules p' r) ∧
    ∀ r, Outcome rules units maxWorkers r →
      r = (run rules units).result ∧
      r.map AnalysisResult.findings = (analyze rules (.concat units)).result ∧
      ((∀ f ∈ units, f.failure = none) → ∃ a, r = .ok a ∧ a.unitsScanned = units.length ∧
        a.eventsSeen = (units.flatMap Feed.items).length) ∧
      ∀ before f after e, units = before ++ f :: after → (∀ g ∈ before, g.failure = none) →
        f.failure = some e → r = .error e := by
  refine ⟨exists_outcome hw, fun workers p hpos hs => ?_, fun r hr => ?_⟩
  · exact Pool.exists_ends hpos (Pool.invariant_of_steps Pool.invariant_start hs)
  · obtain rfl := eq_run_of_outcome hr
    refine ⟨rfl, analyze_concat_result.symm, exists_run_eq_ok, ?_⟩
    intro before f after e h hbefore hf
    exact run_eq_error_iff.mpr ⟨before, f, after, h, hbefore, hf⟩

/-- A rule for one macro. -/
def todoRule : Rule := ⟨.macroUse, "todo", "write it", by decide, by decide⟩

/-- A use of this macro in some line of a file. -/
def todoUse (line : ℕ) (h : 0 < line) : UsageEvent :=
  ⟨.known .macroUse, "todo", ⟨"main.rs", line, 1, by decide, h, Nat.one_pos⟩, by decide⟩

/-- A unit with two uses. -/
def longUnit : Feed UsageEvent := .ofList [todoUse 241 (by decide), todoUse 250 (by decide)]

/-- A unit with one use. -/
def shortUnit : Feed UsageEvent := .ofList [todoUse 377 (by decide)]

/-- The second of two units may be taken first and be over before the first one is. -/
theorem exists_overtaking (rules : RuleSet) :
    ∃ p a, Pool.Steps rules 2 (.start [longUnit, shortUnit]) p ∧ Pool.Ends rules p (.ok a) := by
  have hsteps : Pool.Steps rules 2 (.start [longUnit, shortUnit]) _ :=
    -- both are taken, the second one before the first
    .more (.begin [] none Nat.two_pos (.there _ (.here _ (.take _)))) <|
    .more (.begin [] none Nat.one_lt_two (.here _ (.take _))) <|
    -- an event of each, and the end of the second
    .more (.work [] none (.here _ (.event _ _ _ _ _))) <|
    .more (.work [] none (.there _ (.here _ (.event _ _ _ _ _)))) <|
    .more (.work [] none (.there _ (.here _ (.finish _ _)))) <|
    -- the other event of the first, and its end
    .more (.work [] none (.here _ (.event _ _ _ _ _))) <|
    .more (.work [] none (.here _ (.finish _ _))) <|
    -- the results in the order of the units
    .more (.collect rfl) <|
    .more (.collect rfl) <|
    .refl _
  exact ⟨_, _, hsteps, .merged rfl⟩

/-- A unit that breaks off behind a use. -/
def brokenUnit (g : Fault) : Feed UsageEvent := ⟨[todoUse 402 (by decide)], some (.fault g)⟩

theorem length_eq_of_analyze_todoUses {rules : RuleSet} {l : List Finding}
    (hrules : RuleSet.build [todoRule] = .ok rules)
    (h : (analyze rules (.concat [longUnit, shortUnit])).result = .ok l) : l.length = 3 := by
  have hmem : todoRule ∈ rules.rules := by
    rw [RuleSet.rules_of_build_eq_ok hrules]
    exact List.mem_cons_self
  have hfinding (line : ℕ) (hline : 0 < line) :
      (Matcher.finding? rules (todoUse line hline)).isSome = true := by
    rw [Option.isSome_iff_exists]
    exact ⟨⟨_, .macroUse, _, _⟩,
      Matcher.finding?_eq_some_iff.mpr ⟨⟨rfl, rfl, rfl⟩, todoRule, hmem, rfl, rfl, rfl⟩⟩
  rw [analyze_result] at h
  obtain rfl : Finding.sorted (List.filterMap (Matcher.finding? rules)
      [todoUse 241 (by decide), todoUse 250 (by decide), todoUse 377 (by decide)]) = l :=
    Except.ok.inj h
  rw [Finding.sorted, List.length_mergeSort, List.filterMap_length_eq_length.mpr]
  · rfl
  · exact List.forall_mem_cons.mpr ⟨hfinding 241 _, List.forall_mem_cons.mpr
      ⟨hfinding 250 _, List.forall_mem_singleton.mpr (hfinding 377 _)⟩⟩

/-- Two workers scan units.  Where all go well, three uses in two units are found although the second
unit overtakes the first.  Where two units of three break off behind a use, the failure of the first
of them is raised. -/
theorem first_failure_with_two_workers : ∃ rules, RuleSet.build [todoRule] = .ok rules ∧
    checkWorkers (some 2) = .ok () ∧
    (∃ p a, Pool.Steps rules 2 (.start [longUnit, shortUnit]) p ∧ Pool.Ends rules p (.ok a) ∧
      (analyze rules (.concat [longUnit, shortUnit])).result = .ok a.findings ∧
      a.findings.length = 3 ∧ a.unitsScanned = 2 ∧ a.eventsSeen = 3) ∧
    ∃ r, Outcome rules [longUnit, brokenUnit .absentText, brokenUnit .codePoint] (some 2) r ∧
      r = .error (.fault .absentText) := by
  have hw : checkWorkers (some 2) = .ok () := rfl
  obtain ⟨rules, hrules⟩ := RuleSet.exists_build_singleton_eq_ok todoRule
  refine ⟨rules, hrules, hw, ?_, ?_⟩
  · obtain ⟨p, a, hsteps, hends⟩ := exists_overtaking rules
    obtain ⟨-, -, h⟩ := outcome_of_every_schedule hw rules [longUnit, shortUnit]
    have hnot : ¬ InOrder (some 2) [longUnit, shortUnit] := by simp [InOrder]
    have hout : Outcome rules [longUnit, shortUnit] (some 2) (.ok a) :=
      .pooled hnot Nat.two_pos (fun n hn => by cases hn; rfl) hsteps hends
    obtain ⟨-, hfindings, hcounts, -⟩ := h _ hout
    obtain ⟨a', ha', hunits, hevents⟩ := hcounts (by simp [longUnit, shortUnit, Feed.ofList])
    obtain rfl := Except.ok.inj ha'
    exact ⟨p, a, hsteps, hends, hfindings.symm,
      length_eq_of_analyze_todoUses hrules hfindings.symm, hunits, hevents⟩
  · obtain ⟨⟨r, hr⟩, -, h⟩ := outcome_of_every_schedule hw rules
      [longUnit, brokenUnit .absentText, brokenUnit .codePoint]
    have hlong : ∀ g ∈ [longUnit], g.failure = none := List.forall_mem_singleton.mpr rfl
    exact ⟨r, hr, (h r hr).2.2.2 [longUnit] _ _ _ rfl hlong rfl⟩

end Analysis

end Denylist
