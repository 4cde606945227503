import Denylist.Command.Run
import Denylist.Proofs.ConfigLanguage
import Denylist.Proofs.ConfigLoading
import Denylist.Proofs.Detection
import Denylist.Proofs.EventOrder
import Denylist.Proofs.Schedule
import Denylist.Proofs.UsageReading

/-!
# Proofs — the exit status of a check

A check loads the config, reads the files of facts in the order of its arguments, and only then
analyses what they hold.  So an error of the config comes before any of the facts, the error of the
first file that fails comes before any violation, and where nothing fails the status tells whether a
use is denied, however the units are scheduled (`check_exitStatus`).  The exception is a run that
cannot write what it has to say (`Unwritable`): it breaks off with the status of a violation.
-/

namespace Denylist.Command
open Sequences
open Console (paragraphLines toStrings)
open Matcher (finding?)

variable {runner : Runner} {s : Setting} {q : CheckRequest} {rules : RuleSet}

/-! ### The config -/

theorem isConfig_of_loadRules_eq_error {c : Common} {e : Error}
    (h : (loadRules s c).result = .error (.error e)) : e.isConfig = true := by
  unfold loadRules at h
  dsimp only at h
  split at h
  · next f hf =>
      cases h
      unfold Config.locate at hf
      split at hf
      · cases hf
      · split at hf
        · cases hf
        · cases hf
          rfl
        · cases hf
  · exact (Config.endsIn_loadFile _ _ _).error e h

/-- The config of a command is a document: a config is found, its octets are a text, and the text
denotes the document. -/
def ConfigDenotes (s : Setting) (c : Common) (d : Document) : Prop :=
  ∃ path bytes chars, Config.locate s.files (namedConfig s c) s.cwd (.absolute s.cwd) = .ok path ∧
    s.files.read s.cwd path = .ok bytes ∧ Text.decodeUtf8 bytes = ⟨chars, none⟩ ∧
    ((Format.ofSuffix? path.suffix).getD .toml).decode (String.ofList (Text.unifyBreaks chars)) =
      .ok d

theorem exists_of_loadFile_eq_ok {t : FileTree} {cwd : List String} {path : Path}
    (h : (Config.loadFile t cwd path).result = .ok rules) :
    ∃ bytes chars d, t.read cwd path = .ok bytes ∧ Text.decodeUtf8 bytes = ⟨chars, none⟩ ∧
      ((Format.ofSuffix? path.suffix).getD .toml).decode (String.ofList (Text.unifyBreaks chars)) =
        .ok d ∧ Config.ruleSet path.text d = .ok rules := by
  unfold Config.loadFile at h
  split at h
  · cases h
  split at h
  · cases h
  next bytes hbytes =>
    unfold Config.loadBytes at h
    split at h
    · cases h
    next chars hchars =>
      unfold Config.loadText at h
      split at h
      · next d hd =>
          rw [Config.result_loadDocument] at h
          exact ⟨bytes, chars, d, hbytes, hchars, hd, h⟩
      · cases h
      · cases h

theorem exists_of_loadRules_eq_ok {c : Common} (h : (loadRules s c).result = .ok rules) :
    ∃ d, ConfigDenotes s c d ∧ ∃ source, Config.ruleSet source d = .ok rules := by
  unfold loadRules at h
  dsimp only at h
  split at h
  · cases h
  · next path hpath =>
      obtain ⟨bytes, chars, d, hbytes, hchars, hd, hrules⟩ := exists_of_loadFile_eq_ok h
      exact ⟨d, ⟨path, bytes, chars, hpath, hbytes, hchars, hd⟩, path.text, hrules⟩

/-! ### The facts -/

/-- What the file of facts at a path gives. -/
def factFeed (s : Setting) (p : Path) : Feed UsageEvent := UsageFile.read s.files s.cwd p

/-- Files are read as one feed. -/
theorem readFacts_fst (ps : List Path) :
    (readFacts s ps).1 = .concat (ps.map (factFeed s)) := by
  induction ps with
  | nil => rfl
  | cons p ps ih =>
      rw [readFacts, List.map_cons, Feed.concat, ← ih]
      dsimp only
      split
      · next f hf => simp only [Feed.append, factFeed, hf]; exact Feed.eq_of_failure hf
      · rfl

/-- The files give their events in a row, up to the first file that fails. -/
theorem toList_readFacts (ps : List Path) :
    (readFacts s ps).1.toList = (ps.mapM fun p => (factFeed s p).toList).map List.flatten := by
  rw [readFacts_fst, Feed.toList_concat, List.mapM_map]
  rfl

theorem readFacts_of_forall {ps : List Path} (h : ∀ p ∈ ps, (factFeed s p).failure = none) :
    (readFacts s ps).1.toList = .ok (ps.flatMap fun p => (factFeed s p).items) := by
  rw [toList_readFacts, map_eq_ok_iff]
  refine ⟨ps.map fun p => (factFeed s p).items, ?_, List.flatMap_def.symm⟩
  rw [mapM_eq_ok_iff, List.forall₂_map_right_iff, List.forall₂_same]
  exact fun p hp => Feed.toList_eq_ok_iff.mpr ⟨h p hp, rfl⟩

theorem failure_eq_none_of_readFacts {ps : List Path} {l : List UsageEvent}
    (h : (readFacts s ps).1.toList = .ok l) : ∀ p ∈ ps, (factFeed s p).failure = none := by
  rw [toList_readFacts, map_eq_ok_iff] at h
  obtain ⟨ls, hls, -⟩ := h
  intro p hp
  obtain ⟨l, -, hl⟩ := exists_right_of_forall₂ (mapM_eq_ok_iff.mp hls) hp
  exact (Feed.toList_eq_ok_iff.mp hl).1

theorem readFacts_eq_error_iff {ps : List Path} {f : Failure} :
    (readFacts s ps).1.toList = .error f ↔ ∃ before p after, ps = before ++ p :: after ∧
      (∀ x ∈ before, (factFeed s x).failure = none) ∧ (factFeed s p).failure = some f := by
  rw [toList_readFacts, map_eq_error_iff, mapM_eq_error_iff]
  simp only [Feed.toList_eq_error_iff, Feed.toList_eq_ok_iff, exists_and_left, exists_eq', and_true]

/-! ### What a check does -/

/-- The level of the log of a check. -/
def checkLevel (q : CheckRequest) : Level := levelOf q.verbose q.common.debug

theorem checkWith_of_config {f : Failure} (h : (loadRules s q.common).result = .error f) :
    ∃ log, checkWith runner s q = failureConclusion s .config q.common log (checkLevel q) f := by
  refine ⟨(loadRules s q.common).log, ?_⟩
  simp only [checkWith, h]
  rfl

theorem checkWith_of_facts {f : Failure} (h : (loadRules s q.common).result = .ok rules)
    (hf : (readFacts s q.facts).1.toList = .error f) :
    ∃ log, checkWith runner s q = failureConclusion s .facts q.common log (checkLevel q) f := by
  refine ⟨(loadRules s q.common).log ++ (readFacts s q.facts).2, ?_⟩
  simp only [checkWith, h, FileUnit.ofFeed, hf]
  rfl

theorem checkWith_of_events {l : List UsageEvent} (h : (loadRules s q.common).result = .ok rules)
    (hl : (readFacts s q.facts).1.toList = .ok l) :
    ∃ log, checkWith runner s q = checkEvents runner s q rules (FileUnit.ofEvents l) log := by
  refine ⟨(loadRules s q.common).log ++ (readFacts s q.facts).2, ?_⟩
  simp only [checkWith, h, FileUnit.ofFeed, hl]
  rfl

/-! ### What cannot be written -/

/-- A check has something to say that cannot be written: an entry of the log for finding faults is
about an event whose line or column is too long, or a figure of the report for programs is. -/
def Unwritable (q : CheckRequest) (rules : RuleSet) (l : List UsageEvent) : Prop :=
  q.common.debug = true ∧ (∃ e ∈ l, Matcher.entriesAreWritable e = false) ∨
    q.common.json = true ∧ ((Document.int rules.size).isWritable = false ∨
      (Document.int l.length).isWritable = false)

theorem scanIsWritable_eq_false_iff {l : List UsageEvent} :
    scanIsWritable (checkLevel q) (FileUnit.ofEvents l) = false ↔
      q.common.debug = true ∧ ∃ e ∈ l, Matcher.entriesAreWritable e = false := by
  have hlevel : checkLevel q = .debug ↔ q.common.debug = true := by
    unfold checkLevel levelOf
    cases q.common.debug <;> cases q.verbose <;> simp
  have hevents : ((FileUnit.ofEvents l).all fun u => u.events.all Matcher.entriesAreWritable) =
      l.all Matcher.entriesAreWritable := by
    rw [← List.all_flatMap]
    exact (FileUnit.flatMap_events_ofEvents_perm l).all_eq
  rw [scanIsWritable, hevents, Bool.or_eq_false_iff, bne_eq_false_iff_eq, hlevel,
    List.all_eq_false]
  simp only [Bool.not_eq_true]

theorem int_isWritable_of_le {m n : ℕ} (h : m ≤ n) (hn : (Document.int n).isWritable = true) :
    (Document.int m).isWritable = true := by
  simp only [Document.int, Document.isWritable, Scalar.isWritable, Int.natAbs_natCast,
    decide_eq_true_eq] at hn ⊢
  exact Nat.lt_of_le_of_lt h hn

theorem pow10_pos (e : Int) : 0 < Decimal.pow10 e := Nat.pow_pos (by decide)

theorem pow10_le_pow10 {a b : ℤ} (h : a ≤ b) : Decimal.pow10 a ≤ Decimal.pow10 b :=
  Nat.pow_le_pow_right (by decide) (Int.toNat_le_toNat h)

/-- A number with few digits can be written. -/
theorem int_isWritable_of_lt_pow10 {n : ℕ} {e : ℤ} (h : n < Decimal.pow10 e)
    (he : e ≤ Decimal.maxDigits) : (Document.int n).isWritable = true := by
  rw [Document.int, Document.isWritable, Scalar.isWritable, decide_eq_true_eq, Int.natAbs_natCast]
  exact Nat.lt_of_lt_of_le h (pow10_le_pow10 he)

theorem zero_isWritable : (Document.int 0).isWritable = true :=
  int_isWritable_of_lt_pow10 (pow10_pos 0) (by decide)

theorem ofFields_isWritable_eq_false_iff {fields : List (String × Document)} :
    (Document.ofFields fields).isWritable = false ↔ ∃ f ∈ fields, f.2.isWritable = false := by
  rw [Document.ofFields, Document.isWritable]
  exact Config.membersAreWritable_eq_false_iff

theorem finding_isWritable (f : Finding) : f.toDocument.isWritable = f.location.isWritable := by
  have htext (s : String) : (Document.text s).isWritable = true := rfl
  rw [Bool.eq_iff_iff, ← Bool.not_eq_false, Finding.toDocument, ofFields_isWritable_eq_false_iff,
    Location.isWritable, Bool.and_eq_true]
  simp [htext, Document.int, Document.isWritable]

/-- What has to be written for a report are its figures and the places of its findings. -/
theorem report_isWritable_iff (r : AnalysisResult) (timing : Bool) :
    (Report.toDocument r timing).isWritable = true ↔
      (∀ n ∈ [r.rulesLoaded, r.unitsScanned, r.eventsSeen, (r.findings.length : ℤ)],
        (Document.int n).isWritable = true) ∧ ∀ f ∈ r.findings, f.location.isWritable = true := by
  have hfloat (x : Float) : (Document.scalar (.float x)).isWritable = true := rfl
  have htext (t : String) : (Document.text t).isWritable = true := rfl
  have hbool (b : Bool) : (Document.bool b).isWritable = true := rfl
  have hcode : (Document.int r.exitCode).isWritable = true := by
    rw [AnalysisResult.exitCode, Analysis.exitStatus]
    split
    · exact zero_isWritable
    · exact int_isWritable_of_lt_pow10 (e := 1) (by decide) (by decide)
  have hkinds (h : (Document.int r.findings.length).isWritable = true) (k : Kind) :
      (Document.int (Report.countOf k r.findings)).isWritable = true :=
    int_isWritable_of_le (List.length_filter_le _ _) h
  have hstatistics : (Report.statistics r timing).isWritable = true ↔
      ∀ n ∈ [r.rulesLoaded, r.unitsScanned, r.eventsSeen, (r.findings.length : ℤ)],
        (Document.int n).isWritable = true := by
    rw [← Bool.not_eq_false, Report.statistics, ofFields_isWritable_eq_false_iff]
    cases timing <;> simp [ofFields_isWritable_eq_false_iff, hfloat] <;>
      exact fun _ _ _ h k _ => hkinds h k
  have hfindings : (Document.list (r.findings.map Finding.toDocument)).isWritable = false ↔
      ∃ f ∈ r.findings, f.location.isWritable = false := by
    rw [Document.isWritable, Config.areWritable_eq_false_iff]
    simp [finding_isWritable]
  rw [← Bool.not_eq_false, Report.toDocument, ofFields_isWritable_eq_false_iff]
  simp [hstatistics, hfindings, htext, hbool, hcode]

/-- A figure of a result is too long to be written. -/
def HasLongFigure (r : AnalysisResult) : Prop :=
  (Document.int r.rulesLoaded).isWritable = false ∨
    (Document.int r.unitsScanned).isWritable = false ∨
      (Document.int r.eventsSeen).isWritable = false

/-- Without findings only the figures of a report matter. -/
theorem report_isWritable_eq_false_iff {r : AnalysisResult} (h : r.findings = [])
    (timing : Bool) : (Report.toDocument r timing).isWritable = false ↔ HasLongFigure r := by
  rw [← Bool.not_eq_true, report_isWritable_iff, h, HasLongFigure]
  simp only [← Bool.not_eq_true, ← not_and_or]
  simp [zero_isWritable]

/-- Without findings an output can fail only for the figures of the report for programs. -/
theorem checkOutput_eq_error_iff {width : ℕ} {r : AnalysisResult} (h : r.findings = []) :
    (∃ f, checkOutput width q r = .error f) ↔ q.common.json = true ∧ HasLongFigure r := by
  rw [← report_isWritable_eq_false_iff h q.verbose]
  have hwritable : (r.findings.all (·.location.isWritable)) = true := by rw [h]; rfl
  unfold checkOutput
  rw [if_neg (by simp [hwritable])]
  cases q.common.json with
  | true =>
      rw [if_pos rfl, Report.toJson]
      cases (Report.toDocument r q.verbose).isWritable with
      | true => simp [Except.map]
      | false => simp [Except.map]
  | false =>
      have hlines : Report.findingLines width r.findings = .ok [] := by rw [h]; rfl
      cases q.verbose with
      | true => simp [Report.consoleLines, hlines, bind, Except.bind, pure, Except.pure, Except.map]
      | false => simp

/-! ### The status -/

/-- A config lists the kind and the path of a use. -/
def ListsUse (d : Document) (e : UsageEvent) : Prop :=
  ∃ k reason, e.kind = .known k ∧ Config.Lists d k e.path reason

/-- A status is one where something is the case, and zero where it is not. -/
def Tells (code : ℕ) (p : Prop) : Prop := p ∧ code = 1 ∨ ¬ p ∧ code = 0

theorem Tells.congr {code : ℕ} {p p' : Prop} (h : Tells code p) (hp : p ↔ p') :
    Tells code p' := by
  rwa [← propext hp]

theorem Tells.ne_two {code : ℕ} {p : Prop} (h : Tells code p) : code ≠ 2 := by
  rcases h with ⟨-, rfl⟩ | ⟨-, rfl⟩
  · decide
  · decide

theorem tells_exitCode (r : AnalysisResult) : Tells r.exitCode (r.findings ≠ []) := by
  rw [AnalysisResult.exitCode, Analysis.exitStatus]
  cases r.findings with
  | nil => exact Or.inr ⟨fun h => h rfl, rfl⟩
  | cons x l => exact Or.inl ⟨List.cons_ne_nil _ _, rfl⟩

/-- A check whose rules and events are there breaks off where the scan or the output cannot be
written, and else ends with the status of its findings. -/
theorem tells_checkEvents {units : List FileUnit} {r : AnalysisResult} (log : List LogEntry)
    (hr : (runner rules (units.map fun u => .ofList u.events)).result = .ok r) :
    Tells (checkEvents runner s q rules units log).exitCode
      (scanIsWritable (checkLevel q) units = false ∨ (∃ f, checkOutput s.width q r = .error f) ∨
        r.findings ≠ []) := by
  simp only [checkEvents, hr, checkLevel]
  cases scanIsWritable (levelOf q.verbose q.common.debug) units with
  | false => exact Or.inl ⟨Or.inl rfl, rfl⟩
  | true =>
      cases checkOutput s.width q r with
      | error f => exact Or.inl ⟨Or.inr (Or.inl ⟨f, rfl⟩), rfl⟩
      | ok output => simpa [Conclusion.exitCode] using tells_exitCode r

/-- What keeps a check without findings from its end, and nothing else, cannot be written. -/
theorem unwritable_iff {l : List UsageEvent} {width : ℕ} {r : AnalysisResult}
    (hn : r.findings = []) (hrules : r.rulesLoaded = rules.size) (hevents : r.eventsSeen = l.length)
    (hunits : r.unitsScanned = (FileUnit.ofEvents l).length) :
    scanIsWritable (checkLevel q) (FileUnit.ofEvents l) = false ∨
      (∃ f, checkOutput width q r = .error f) ↔ Unwritable q rules l := by
  have hle (h : (Document.int (FileUnit.ofEvents l).length).isWritable = false) :
      (Document.int l.length).isWritable = false := by
    by_contra hl
    rw [Bool.not_eq_false] at hl
    rw [int_isWritable_of_le (FileUnit.length_ofEvents_le l) hl] at h
    cases h
  rw [scanIsWritable_eq_false_iff, checkOutput_eq_error_iff hn, HasLongFigure, hrules, hevents,
    hunits, or_iff_right_of_imp (a := _ = false) hle]
  rfl

/-- However its units are scheduled, a check tells whether the config lists one of the uses. -/
theorem tells_checkEvents_of_outcome {source : String} {d : Document}
    (hd : Config.ruleSet source d = .ok rules)
    (hrun : ∀ units, Analysis.Outcome rules units q.jobs (runner rules units).result)
    (l : List UsageEvent) (log : List LogEntry) :
    Tells (checkEvents runner s q rules (FileUnit.ofEvents l) log).exitCode
      ((∃ e ∈ l, ListsUse d e) ∨ Unwritable q rules l) := by
  obtain ⟨r, hr, hfindings, hunits, hevents, hrules⟩ : ∃ r : AnalysisResult,
      (runner rules ((FileUnit.ofEvents l).map fun u => .ofList u.events)).result = .ok r ∧
      r.findings = Finding.sorted (l.filterMap (finding? rules)) ∧
      r.unitsScanned = (FileUnit.ofEvents l).length ∧ r.eventsSeen = l.length ∧
      r.rulesLoaded = rules.size :=
    ⟨_, (Analysis.eq_run_of_outcome (hrun _)).trans Analysis.run_feedsByFile_result, rfl, rfl, rfl, rfl⟩
  have hlists : r.findings ≠ [] ↔ ∃ e ∈ l, ListsUse d e := by
    rw [hfindings]
    exact Detection.sorted_filterMap_ne_nil_iff hd
  refine (tells_checkEvents log hr).congr ?_
  -- what cannot be written matters only where there are no findings
  rw [← or_assoc]
  by_cases hn : r.findings = []
  · rw [unwritable_iff hn hrules hevents hunits, ← hlists]
    exact or_comm
  · exact iff_of_true (Or.inr hn) (Or.inl (hlists.mp hn))

/-! ### The whole check -/

/-- An outcome has the status two and tells of an error of some category, and of nothing else.
Programs get it as a table on the output, with all that the error tells of itself, and people as a
message. -/
structure TellsError (s : Setting) (c : Common) (category : String) (e : Error) (o : Outcome) :
    Prop where
  status : o.exitCode = 2
  programs : c.json = true → o.messages = "" ∧ o.output = Json.Layout.write ⟨some 2, true⟩
    (.ofFields ([("error", .bool true), ("error_category", .text category),
      ("error_type", .text e.cause.name), ("message", .text e.message), ("code", .int e.code),
      ("suggestion", .ofText? e.suggestion), ("context", .ofFields e.context)] ++
        if c.debug then [("traceback", .text traceMark)] else [])) ++ "\n"
  people : c.json = false → o.output = "" ∧ o.messages =
    written (toStrings (paragraphLines s.width ("Error: " ++ e.text))) ++
      if c.debug then traceMark else ""

theorem tellsError_errorOutcome (s : Setting) (source : ErrorSource) (c : Common)
    (log : List LogEntry) (level : Level) (e : Error) :
    TellsError s c source.name e (errorOutcome s source c log level e) := by
  rw [errorOutcome]
  cases hjson : c.json with
  | true => exact ⟨rfl, fun _ => ⟨rfl, rfl⟩, fun h => absurd (hjson.symm.trans h) (by decide)⟩
  | false => exact ⟨rfl, fun h => absurd (hjson.symm.trans h) (by decide), fun _ => ⟨rfl, rfl⟩⟩

/-- A check ends with an error of some category, and tells of nothing else. -/
def Reports (runner : Runner) (s : Setting) (q : CheckRequest) (category : String) (e : Error) :
    Prop :=
  ∃ o, checkWith runner s q = .done o ∧ TellsError s q.common category e o

theorem exitCode_of_reports {category : String} {e : Error} (h : Reports runner s q category e) :
    (checkWith runner s q).exitCode = 2 := by
  obtain ⟨o, ho, htells⟩ := h
  rw [ho, Conclusion.exitCode, htells.status]

/-- An error of the config is reported whatever the facts hold. -/
theorem reports_of_config {e : Error} (h : (loadRules s q.common).result = .error (.error e)) :
    Reports runner s q "config_error" e := by
  obtain ⟨log, hcheck⟩ := checkWith_of_config h
  exact ⟨_, hcheck, tellsError_errorOutcome s .config _ _ _ _⟩

/-- The first file that fails decides what is reported. -/
theorem reports_of_facts {e : Error} (h : (loadRules s q.common).result = .ok rules)
    (hf : (readFacts s q.facts).1.toList = .error (.error e)) :
    Reports runner s q "fact_stream_error" e := by
  obtain ⟨log, hcheck⟩ := checkWith_of_facts h hf
  exact ⟨_, hcheck, tellsError_errorOutcome s .facts _ _ _ _⟩

theorem exists_tells_checkWith {l : List UsageEvent}
    (hrun : ∀ units, Analysis.Outcome rules units q.jobs (runner rules units).result)
    (h : (loadRules s q.common).result = .ok rules) (hl : (readFacts s q.facts).1.toList = .ok l) :
    ∃ d, ConfigDenotes s q.common d ∧ Tells (checkWith runner s q).exitCode
      ((∃ e ∈ l, ListsUse d e) ∨ Unwritable q rules l) := by
  obtain ⟨d, hd, source, hrules⟩ := exists_of_loadRules_eq_ok h
  obtain ⟨log, hcheck⟩ := checkWith_of_events h hl
  rw [hcheck]
  exact ⟨d, hd, tells_checkEvents_of_outcome hrules hrun l log⟩

theorem exitCode_eq_two_iff
    (hrun : ∀ rules units, Analysis.Outcome rules units q.jobs (runner rules units).result)
    (hconfig : ∀ g, (loadRules s q.common).result ≠ .error (.fault g))
    (hfacts : ∀ p ∈ q.facts, ∀ g, (factFeed s p).failure ≠ some (.fault g)) :
    (checkWith runner s q).exitCode = 2 ↔
      (∃ e, (loadRules s q.common).result = .error (.error e)) ∨
        ∃ p ∈ q.facts, ∃ e, (factFeed s p).failure = some (.error e) := by
  cases h : (loadRules s q.common).result with
  | error f =>
      cases f with
      | error e =>
          exact iff_of_true (exitCode_of_reports (reports_of_config h)) (Or.inl ⟨e, rfl⟩)
      | fault g => exact absurd h (hconfig g)
  | ok rules =>
      rw [or_iff_right (by rintro ⟨e, he⟩; cases he)]
      cases hl : (readFacts s q.facts).1.toList with
      | ok l =>
          obtain ⟨d, -, htells⟩ := exists_tells_checkWith (hrun rules) h hl
          refine iff_of_false htells.ne_two ?_
          rintro ⟨p, hp, e, he⟩
          rw [failure_eq_none_of_readFacts hl p hp] at he
          cases he
      | error f =>
          obtain ⟨before, p, after, hq, -, hf⟩ := readFacts_eq_error_iff.mp hl
          have hp : p ∈ q.facts := hq ▸ List.mem_append_right _ List.mem_cons_self
          cases f with
          | error e =>
              exact iff_of_true (exitCode_of_reports (reports_of_facts h hl)) ⟨p, hp, e, hf⟩
          | fault g => exact absurd hf (hfacts p hp g)

/-- **The status of a check.**  Let the units be scheduled in any way.

* If neither the config nor the facts break off with a fault, the status is two exactly when the
  config or a file of facts has an error.
* An error of the config is reported as such, whatever the facts hold, and nothing else is told.
* Otherwise the error of the first file that fails is reported, which is that of a malformed record
  of the file and, where it names a record, of the one behind the last event; nothing else is told.
* Otherwise the status is one where the document of the config lists the kind and path of a use, or
  where something has to be told that cannot be written, and else it is zero. -/
theorem check_exitStatus
    (hrun : ∀ rules units, Analysis.Outcome rules units q.jobs (runner rules units).result) :
    ((∀ g, (loadRules s q.common).result ≠ .error (.fault g)) →
      (∀ p ∈ q.facts, ∀ g, (factFeed s p).failure ≠ some (.fault g)) →
      ((checkWith runner s q).exitCode = 2 ↔
        (∃ e, (loadRules s q.common).result = .error (.error e)) ∨
          ∃ p ∈ q.facts, ∃ e, (factFeed s p).failure = some (.error e))) ∧
    (∀ e, (loadRules s q.common).result = .error (.error e) →
      e.isConfig = true ∧ Reports runner s q "config_error" e) ∧
    (∀ rules, (loadRules s q.common).result = .ok rules →
      (∀ before p after e, q.facts = before ++ p :: after →
        (∀ x ∈ before, (factFeed s x).failure = none) →
        (factFeed s p).failure = some (.error e) →
          (∃ index line detail, e = { cause := .malformedRecord p.text index line detail } ∧
            ∀ i, index = some i → i = (factFeed s p).items.length + 1) ∧
          Reports runner s q "fact_stream_error" e) ∧
      ((∀ p ∈ q.facts, (factFeed s p).failure = none) →
        ∃ d, ConfigDenotes s q.common d ∧ Tells (checkWith runner s q).exitCode
          ((∃ p ∈ q.facts, ∃ e ∈ (factFeed s p).items, ListsUse d e) ∨
            Unwritable q rules (q.facts.flatMap fun p => (factFeed s p).items)))) := by
  refine ⟨exitCode_eq_two_iff hrun, fun e he => ?_, fun rules h => ⟨?_, fun hp => ?_⟩⟩
  · exact ⟨isConfig_of_loadRules_eq_error he, reports_of_config he⟩
  · intro before p after e hq hbefore hp
    have hf := readFacts_eq_error_iff.mpr ⟨before, p, after, hq, hbefore, hp⟩
    exact ⟨(UsageFile.drains_read _ _ _).error e hp, reports_of_facts h hf⟩
  · obtain ⟨d, hd, htells⟩ := exists_tells_checkWith (hrun rules) h (readFacts_of_forall hp)
    refine ⟨d, hd, htells.congr (or_congr_left ?_)⟩
    simp only [List.mem_flatMap]
    constructor
    · rintro ⟨e, ⟨p, hp, he⟩, hl⟩
      exact ⟨p, hp, e, he, hl⟩
    · rintro ⟨p, hp, e, he, hl⟩
      exact ⟨e, ⟨p, hp, he⟩, hl⟩

/-- With an admissible number of workers the run in the order of the units is one of the outcomes. -/
theorem outcome_run {maxWorkers : Option Int} (h : Analysis.checkWorkers maxWorkers = .ok ())
    (rules : RuleSet) (units : List (Feed UsageEvent)) :
    Analysis.Outcome rules units maxWorkers (Analysis.run rules units).result := by
  obtain ⟨r, hr⟩ := Analysis.exists_outcome h
  exact Analysis.eq_run_of_outcome hr ▸ hr

/-- The path of a file with a use. -/
def usesPath : Path := .absolute ["uses.json"]

/-- The path of a file with something else. -/
def brokenPath : Path := .absolute ["broken.json"]

/-- A config that denies one macro, a file of facts with a use of it, and a malformed one. -/
def macroSetting : Setting where
  files := ⟨[
    (["clippy.toml"], .file
      "disallowed-macros = [\x7bpath = 'dbg', reason = 'use the logger'\x7d]".toUTF8.toList),
    (["uses.json"], .file
      "[\x7b\"kind\": \"macro\", \"path\": \"dbg\", \"file\": \"a.rs\", \"line\": 3\x7d]".toUTF8.toList),
    (["broken.json"], .file "[7]".toUTF8.toList)]⟩
  cwd := []
  configVariable := none
  width := 80

/-- To check both files with two workers. -/
def macroRequest : CheckRequest where
  common := ⟨none, false, false⟩
  facts := [usesPath, brokenPath]
  jobs := some 2
  verbose := false

/-- The malformed file decides and is reported, although the other one tells of a denied use. -/
theorem check_exitStatus_of_broken_file :
    (checkWith Analysis.run macroSetting macroRequest).exitCode = 2 ∧
      ∃ index line detail, Reports Analysis.run macroSetting macroRequest "fact_stream_error"
        { cause := .malformedRecord brokenPath.text index line detail } := by
  have hconfig := Fault.of?_eq_none_iff.mp
    (show Fault.of? (loadRules macroSetting macroRequest.common).result = none by decide +kernel)
  have huses := Fault.of?_eq_none_iff.mp
    (show Fault.of? (factFeed macroSetting usesPath).toList = none by decide +kernel)
  have hbroken := Fault.of?_eq_none_iff.mp
    (show Fault.of? (factFeed macroSetting brokenPath).toList = none by decide +kernel)
  have hloads : (loadRules macroSetting macroRequest.common).result.isOk = true := by
    decide +kernel
  have hreads : (factFeed macroSetting usesPath).failure.isNone = true := by decide +kernel
  have hfails : (factFeed macroSetting brokenPath).failure.isSome = true := by decide +kernel
  obtain ⟨hstatus, -, hfacts⟩ := check_exitStatus (@outcome_run macroRequest.jobs rfl)
  obtain ⟨rules, hrules⟩ : ∃ rules,
      (loadRules macroSetting macroRequest.common).result = .ok rules := by
    cases h : (loadRules macroSetting macroRequest.common).result with
    | ok rules => exact ⟨rules, rfl⟩
    | error f =>
        rw [h] at hloads
        cases hloads
  obtain ⟨f, hf⟩ := Option.isSome_iff_exists.mp hfails
  cases f with
  | fault g => exact absurd (Feed.toList_eq_error_iff.mpr hf) (hbroken g)
  | error e =>
      refine ⟨(hstatus hconfig fun p hp g hg => ?_).mpr (Or.inr ⟨brokenPath, by decide, e, hf⟩), ?_⟩
      · rcases List.mem_pair.mp hp with rfl | rfl
        · exact huses g (Feed.toList_eq_error_iff.mpr hg)
        · exact hbroken g (Feed.toList_eq_error_iff.mpr hg)
      · obtain ⟨⟨index, line, detail, rfl, -⟩, hreports⟩ := (hfacts rules hrules).1 [usesPath]
          brokenPath [] e rfl (List.forall_mem_singleton.mpr (Option.isNone_iff_eq_none.mp hreads)) hf
        exact ⟨index, line, detail, hreports⟩

/-- A use of a kind that rules do not have, in the first line whose number is too long to be
written. -/
def longLineUse : UsageEvent :=
  ⟨.other "label" rfl, "p",
    ⟨"a.rs", Decimal.pow10 Decimal.maxDigits, 1, by decide, pow10_pos _, Nat.one_pos⟩, by decide⟩

/-- To check facts and tell all that helps to find faults. -/
def debugRequest : CheckRequest where
  common := ⟨none, false, true⟩
  facts := []
  jobs := none
  verbose := false

/-- The config without entries does not list this use, and the status is that of a violation all the
same. -/
theorem exitCode_of_longLineUse :
    Config.ruleSet Config.unnamed (.table []) = .ok .empty ∧ ¬ ListsUse (.table []) longLineUse ∧
      (checkEvents Analysis.run macroSetting debugRequest .empty
        (FileUnit.ofEvents [longLineUse]) []).exitCode = 1 := by
  have hlists : ¬ ListsUse (.table []) longLineUse := by
    rintro ⟨k, reason, hk, -⟩
    cases hk
  have hlong : Matcher.entriesAreWritable longLineUse = false := by
    decide +kernel
  have hunwritable : Unwritable debugRequest .empty [longLineUse] :=
    Or.inl ⟨rfl, longLineUse, List.mem_singleton_self _, hlong⟩
  have hrules : Config.ruleSet Config.unnamed (.table []) = .ok .empty := rfl
  have htells : Tells (checkEvents Analysis.run macroSetting debugRequest .empty
      (FileUnit.ofEvents [longLineUse]) []).exitCode _ :=
    tells_checkEvents_of_outcome hrules (outcome_run rfl .empty) [longLineUse] []
  rcases htells with ⟨-, hcode⟩ | ⟨hno, -⟩
  · exact ⟨hrules, hlists, hcode⟩
  · exact absurd (Or.inr hunwritable) hno

end Denylist.Command
