import Denylist.Analysis

/-!
# Pools of workers

Several units may be scanned at a time.  Each unit is a task, which waits until a worker is free for
it; the worker has a matcher of its own and examines one event at each step.  The steps of different
workers come in any order.  Meanwhile the results are collected in the order of the units, each as
soon as it is there.  The first failure that is collected ends the collecting: the tasks that still
wait are cancelled, and the pool is done when those under way are over.

`Analysis.Outcome` says what a run may give for a number of workers, and `Analysis.Warns` what it
may warn about.  With one worker, or for less than two units, no pool is made.
-/

namespace Denylist

open Analysis (UnitResult mergeUnits)

/-! ### Tasks -/

/-- What has become of a unit. -/
inductive Task where
  /-- No worker has taken it. -/
  | waiting (f : Feed UsageEvent)
  /-- A worker scans it: the worker's matcher, what was found, and what is to be examined. -/
  | scanning (m : Matcher) (found : List Violation) (rest : Feed UsageEvent)
  /-- Its scan is over. -/
  | finished (result : Except Failure UnitResult)
  /-- No worker will take it. -/
  | cancelled

namespace Task

/-- Whether a worker is busy with a task. -/
def isScanning : Task → Bool
  | .scanning _ _ _ => true
  | _ => false

/-- Whether nothing more happens to a task. -/
def isOver : Task → Bool
  | .finished _ => true
  | .cancelled => true
  | _ => false

/-- A worker takes a task. -/
inductive Begins (rules : RuleSet) : Task → Task → Prop where
  | take (f : Feed UsageEvent) : Begins rules (.waiting f) (.scanning (.new rules) [] f)

/-- A worker goes on with its task: it examines one event, or the feed ends or breaks off. -/
inductive Works : Task → Task → Prop where
  | event (m : Matcher) (found : List Violation) (e : UsageEvent) (es : List UsageEvent)
      (failure : Option Failure) :
      Works (.scanning m found ⟨e :: es, failure⟩)
        (.scanning (m.examine e).matcher (found ++ (m.examine e).result.toList) ⟨es, failure⟩)
  | finish (m : Matcher) (found : List Violation) :
      Works (.scanning m found ⟨[], none⟩)
        (.finished (.ok ⟨found, m.eventsSeen, m.unknownKinds⟩))
  | fail (m : Matcher) (found : List Violation) (failure : Failure) :
      Works (.scanning m found ⟨[], some failure⟩) (.finished (.error failure))

/-- A task that waits is given up. -/
inductive Cancels : Task → Task → Prop where
  | cancel (f : Feed UsageEvent) : Cancels (.waiting f) .cancelled

/-- One task of a row changes. -/
inductive OneOf (change : Task → Task → Prop) : List Task → List Task → Prop where
  | here {t t' : Task} (ts : List Task) (h : change t t') : OneOf change (t :: ts) (t' :: ts)
  | there (t : Task) {ts ts' : List Task} (h : OneOf change ts ts') :
      OneOf change (t :: ts) (t :: ts')

end Task

/-! ### The pool -/

/-- The tasks of all units, and what was collected of them so far. -/
structure Pool where
  /-- The tasks, in the order of the units. -/
  tasks : List Task
  /-- The results collected, in the same order. -/
  collected : List UnitResult
  /-- The failure that ended the collecting. -/
  raised : Option Failure

namespace Pool

/-- The pool before anything has happened. -/
def start (units : List (Feed UsageEvent)) : Pool := ⟨units.map .waiting, [], none⟩

/-- What may happen next in a pool with a number of workers. -/
inductive Step (rules : RuleSet) (workers : Nat) : Pool → Pool → Prop where
  | begin {ts ts' : List Task} (us : List UnitResult) (raised : Option Failure)
      (free : ts.countP Task.isScanning < workers) (h : Task.OneOf (Task.Begins rules) ts ts') :
      Step rules workers ⟨ts, us, raised⟩ ⟨ts', us, raised⟩
  | work {ts ts' : List Task} (us : List UnitResult) (raised : Option Failure)
      (h : Task.OneOf Task.Works ts ts') : Step rules workers ⟨ts, us, raised⟩ ⟨ts', us, raised⟩
  | collect {ts : List Task} {us : List UnitResult} {u : UnitResult}
      (h : ts[us.length]? = some (.finished (.ok u))) :
      Step rules workers ⟨ts, us, none⟩ ⟨ts, us ++ [u], none⟩
  | raise {ts : List Task} {us : List UnitResult} {e : Failure}
      (h : ts[us.length]? = some (.finished (.error e))) :
      Step rules workers ⟨ts, us, none⟩ ⟨ts, us, some e⟩
  | cancel {ts ts' : List Task} (us : List UnitResult) (e : Failure)
      (h : Task.OneOf Task.Cancels ts ts') :
      Step rules workers ⟨ts, us, some e⟩ ⟨ts', us, some e⟩

/-- What may happen in a pool by and by. -/
inductive Steps (rules : RuleSet) (workers : Nat) : Pool → Pool → Prop where
  | refl (p : Pool) : Steps rules workers p p
  | more {p p₁ p' : Pool} (h : Step rules workers p p₁) (t : Steps rules workers p₁ p') :
      Steps rules workers p p'

/-- The outcome of a pool that is done. -/
inductive Ends (rules : RuleSet) : Pool → Except Failure AnalysisResult → Prop where
  | merged {ts : List Task} {us : List UnitResult} (all : us.length = ts.length) :
      Ends rules ⟨ts, us, none⟩ (.ok (mergeUnits rules us))
  | raised {ts : List Task} (us : List UnitResult) (e : Failure) (done : ∀ t ∈ ts, t.isOver) :
      Ends rules ⟨ts, us, some e⟩ (.error e)

/-- What is warned about when a pool is done: nothing if a failure was raised. -/
def warnings (p : Pool) : List LogEntry :=
  if p.raised.isNone then
    Analysis.unknownKindWarnings (Analysis.mergeTallies p.collected)
  else []

end Pool

/-! ### Runs -/

namespace Analysis

/-- Whether a run scans its units one after the other, without a pool. -/
def InOrder (maxWorkers : Option Int) (units : List (Feed UsageEvent)) : Prop :=
  maxWorkers = some 1 ∨ units.length ≤ 1

/-- What a run may give.  Where the number of workers is left open, it may be any. -/
inductive Outcome (rules : RuleSet) (units : List (Feed UsageEvent)) (maxWorkers : Option Int) :
    Except Failure AnalysisResult → Prop where
  | inOrder (h : InOrder maxWorkers units) : Outcome rules units maxWorkers (run rules units).result
  | pooled {workers : Nat} {p : Pool} {r : Except Failure AnalysisResult}
      (h : ¬ InOrder maxWorkers units) (pos : 0 < workers)
      (given : ∀ n, maxWorkers = some n → n = workers)
      (steps : Pool.Steps rules workers (.start units) p) (ends : Pool.Ends rules p r) :
      Outcome rules units maxWorkers r

/-- The warnings of a log. -/
def warningsOf (log : List LogEntry) : List LogEntry := log.filter fun e => e.level = .warning

/-- What a run may warn about.  Workers tell details only, so a pool warns when it is done. -/
inductive Warns (rules : RuleSet) (units : List (Feed UsageEvent)) (maxWorkers : Option Int) :
    List LogEntry → Prop where
  | inOrder (h : InOrder maxWorkers units) :
      Warns rules units maxWorkers (warningsOf (run rules units).log)
  | pooled {workers : Nat} {p : Pool} {r : Except Failure AnalysisResult}
      (h : ¬ InOrder maxWorkers units) (pos : 0 < workers)
      (given : ∀ n, maxWorkers = some n → n = workers)
      (steps : Pool.Steps rules workers (.start units) p) (ends : Pool.Ends rules p r) :
      Warns rules units maxWorkers p.warnings

end Analysis

end Denylist
