import Denylist.Proofs.Decoding
import Denylist.Proofs.Scans
import Denylist.Usage.File

/-!
# Proofs — how the reading of a fact file ends

A fact file yields events and then ends or fails.  It fails with the error of a malformed record,
which tells the file and, where it tells a record, the one behind the last event.  The exceptions
are the faults at which a decoder stumbles over a scalar (`UsageFile.Escapes`): in the document of a
file with one document, and in the first line that holds no event of a file read line by line.
-/

namespace Denylist
open Sequences

theorem Feed.eq_of_failure {α : Type} {feed : Feed α} {f : Failure}
    (h : feed.failure = some f) : feed = ⟨feed.items, some f⟩ := by
  rw [← h]

/-! ### One record -/

namespace UsageRecord

theorem parse_eq_ok_iff {o : RecordOrigin} {d : Document} {e : UsageEvent} :
    parse o d = .ok e ↔ ∃ ms, d = .table ms ∧ UsageEvent.read (.table (nest ms)) = .ok e := by
  cases d with
  | table ms =>
      unfold parse
      cases h : UsageEvent.read (.table (nest ms)) with
      | error l => simp [h]
      | ok e' => simp [h]
  | _ => simp [parse]

theorem exists_of_parse_eq_error {o : RecordOrigin} {d : Document} {e : Error}
    (h : parse o d = .error e) : ∃ detail, e = malformed o detail := by
  unfold parse at h
  split at h
  · split at h
    · cases h
    · cases h
      exact ⟨_, rfl⟩
  · cases h
    exact ⟨_, rfl⟩

/-- Records break off at the one behind the last event. -/
theorem exists_of_failure_eventsFrom {source : String} {index : Int} {ds : List Document}
    {f : Failure} (h : (eventsFrom source index ds).failure = some f) :
    ∃ detail, f = .error (malformed
      ⟨source, some (index + (eventsFrom source index ds).items.length), none⟩ detail) := by
  induction ds generalizing index with
  | nil => cases h
  | cons d ds ih =>
      rw [eventsFrom] at h ⊢
      cases hd : parse ⟨source, some index, none⟩ d with
      | error e =>
          rw [hd] at h
          cases h
          obtain ⟨detail, rfl⟩ := exists_of_parse_eq_error hd
          exact ⟨detail, by simp [Feed.fail]⟩
      | ok e =>
          rw [hd] at h
          obtain ⟨detail, rfl⟩ := ih h
          refine ⟨detail, ?_⟩
          simp only [Feed.cons, List.length_cons, Int.natCast_add]
          rw [Int.add_assoc, Int.add_comm 1]
          rfl

end UsageRecord

namespace UsageFile
open UsageRecord

/-! ### One line -/

/-- A line holds the record of an event. -/
def HoldsEvent (line : List Char) (e : UsageEvent) : Prop :=
  ∃ ms, Format.decode .json (String.ofList line) = .ok (.table ms) ∧
    UsageEvent.read (.table (nest ms)) = .ok e

variable {source : String} {index : ℕ} {l : List Char × ℕ} {ls : List (List Char × ℕ)}

theorem eventOfLine_eq_ok_iff {e : UsageEvent} :
    eventOfLine source index l = .ok e ↔ HoldsEvent l.1 e := by
  unfold eventOfLine HoldsEvent
  dsimp only
  cases hd : Format.decode .json (String.ofList l.1) with
  | ok d => simp [mapError_eq_ok_iff, parse_eq_ok_iff]
  | error r =>
      cases r with
      | malformed detail => simp
      | fault g => simp

theorem eventOfLine_eq_fault_iff {g : Fault} :
    eventOfLine source index l = .error (.fault g) ↔
      Format.decode .json (String.ofList l.1) = .error (.fault g) := by
  unfold eventOfLine
  dsimp only
  cases hd : Format.decode .json (String.ofList l.1) with
  | ok d => simp [mapError_eq_error_iff]
  | error r =>
      cases r with
      | malformed detail => simp
      | fault g' => simp

theorem exists_of_eventOfLine_eq_error {e : Error}
    (h : eventOfLine source index l = .error (.error e)) :
    ∃ detail, e = malformed ⟨source, some index, some l.2⟩ detail := by
  unfold eventOfLine at h
  dsimp only at h
  split at h
  · obtain ⟨e', he', h⟩ := mapError_eq_error_iff.mp h
    cases h
    exact exists_of_parse_eq_error he'
  · cases h
    exact ⟨_, rfl⟩
  · cases h

/-- Lines break off at the first that holds no event, and what stands behind it does not matter. -/
theorem eventsOfLines_eq_iff {es : List UsageEvent} {f : Failure} :
    eventsOfLines source index ls = ⟨es, some f⟩ ↔ ∃ before l after, ls = before ++ l :: after ∧
      List.Forall₂ (fun l e => HoldsEvent l.1 e) before es ∧
        eventOfLine source (index + es.length) l = .error f := by
  induction ls generalizing index es with
  | nil => simp [eventsOfLines, Feed.ofList]
  | cons x ls ih =>
      rw [eventsOfLines]
      cases hx : eventOfLine source index x with
      | error f' =>
          constructor
          · intro h
            cases h
            exact ⟨[], x, ls, rfl, .nil, hx⟩
          · rintro ⟨before, l, after, hls, hevents, hl⟩
            cases hevents with
            | nil =>
                cases hls
                cases hx.symm.trans hl
                rfl
            | cons he _ =>
                cases hls
                cases hx.symm.trans (eventOfLine_eq_ok_iff.mpr he)
      | ok e =>
          constructor
          · intro h
            obtain ⟨rfl, hfailure⟩ := Feed.mk.inj h
            obtain ⟨before, l, after, rfl, hevents, hl⟩ := ih.mp (Feed.eq_of_failure hfailure)
            refine ⟨x :: before, l, after, rfl, .cons (eventOfLine_eq_ok_iff.mp hx) hevents, ?_⟩
            rwa [List.length_cons, Nat.add_comm _ 1, ← Nat.add_assoc]
          · rintro ⟨before, l, after, hls, hevents, hl⟩
            cases hevents with
            | nil =>
                cases hls
                cases hx.symm.trans hl
            | cons he hevents =>
                cases hls
                cases hx.symm.trans (eventOfLine_eq_ok_iff.mpr he)
                rw [List.length_cons, Nat.add_comm _ 1, ← Nat.add_assoc] at hl
                rw [ih.mpr ⟨_, l, after, rfl, hevents, hl⟩]
                rfl

/-! ### Feeds of a file -/

/-- A feed of a file ends, or it fails with the error of a malformed record of the file, which is the
one behind the last event if it is told; but for the faults that escape. -/
structure Drains (source : String) (feed : Feed UsageEvent) (escapes : Fault → Prop) : Prop where
  error : ∀ e, feed.failure = some (.error e) → ∃ index line detail,
    e = { cause := .malformedRecord source index line detail } ∧
      ∀ i, index = some i → i = feed.items.length + 1
  fault : ∀ g, feed.failure = some (.fault g) ↔ escapes g

theorem Drains.congr {feed : Feed UsageEvent} {escapes escapes' : Fault → Prop}
    (h : Drains source feed escapes) (he : ∀ g, escapes g ↔ escapes' g) :
    Drains source feed escapes' where
  error := h.error
  fault g := (h.fault g).trans (he g)

/-- What breaks off behind the feed is not reached where the feed fails. -/
theorem Drains.append_failed {feed : Feed UsageEvent} {escapes : Fault → Prop}
    (h : Drains source feed escapes) (detail : String) :
    Drains source (feed.append (.fail (failed source detail))) escapes := by
  obtain ⟨items, failure⟩ := feed
  cases failure with
  | some f => exact h
  | none =>
      refine ⟨fun e he => ?_, fun g => ?_⟩
      · cases he
        exact ⟨none, none, detail, rfl, fun i hi => by cases hi⟩
      · simpa [Feed.append, Feed.fail, failed] using h.fault g

theorem drains_failed (source detail : String) :
    Drains source (.fail (failed source detail)) fun _ => False where
  error e he := by
    cases he
    exact ⟨none, none, detail, rfl, fun i hi => by cases hi⟩
  fault g := by simp [Feed.fail, failed]

theorem drains_events (source : String) (ds : List Document) :
    Drains source (events source ds) fun _ => False where
  error e he := by
    obtain ⟨detail, h⟩ := exists_of_failure_eventsFrom he
    cases h
    exact ⟨_, none, detail, rfl, fun i hi => by cases hi; exact Int.add_comm _ _⟩
  fault g := by
    refine ⟨fun h => ?_, False.elim⟩
    obtain ⟨detail, h⟩ := exists_of_failure_eventsFrom h
    cases h

theorem drains_eventsOfLines (source : String) (ls : List (List Char × ℕ)) :
    Drains source (eventsOfLines source 1 ls) fun g => ∃ before l after,
      ls = before ++ l :: after ∧ (∀ x ∈ before, ∃ e, HoldsEvent x.1 e) ∧
        Format.decode .json (String.ofList l.1) = .error (.fault g) where
  error e he := by
    obtain ⟨before, l, after, -, -, hl⟩ := eventsOfLines_eq_iff.mp (Feed.eq_of_failure he)
    obtain ⟨detail, rfl⟩ := exists_of_eventOfLine_eq_error hl
    refine ⟨_, _, detail, rfl, fun i hi => ?_⟩
    cases hi
    rw [Int.natCast_add]
    exact Int.add_comm _ _
  fault g := by
    constructor
    · intro h
      obtain ⟨before, l, after, hls, hevents, hl⟩ :=
        eventsOfLines_eq_iff.mp (Feed.eq_of_failure h)
      refine ⟨before, l, after, hls, fun x hx => ?_, eventOfLine_eq_fault_iff.mp hl⟩
      obtain ⟨e, -, he⟩ := exists_right_of_forall₂ hevents hx
      exact ⟨e, he⟩
    · rintro ⟨before, l, after, hls, hevents, hl⟩
      obtain ⟨es, hes⟩ := exists_forall₂ hevents
      rw [eventsOfLines_eq_iff.mpr ⟨before, l, after, hls, hes, eventOfLine_eq_fault_iff.mpr hl⟩]

/-! ### The whole file -/

/-- Why the document in octets ends their decoding with a fault. -/
inductive Stumbles : Format → List UInt8 → Fault → Prop where
  | text {f : Format} {bytes : List UInt8} {chars : List Char} {g : Fault} (yaml : f ≠ .yaml)
      (utf8 : Text.decodeUtf8 bytes = ⟨chars, none⟩)
      (cause : f.Stumbles (String.ofList (Text.unifyBreaks chars)) g) : Stumbles f bytes g
  | blocks {bytes : List UInt8} {g : Fault} (cause : (Yaml.Source.ofBytes bytes).Faults g) :
      Stumbles .yaml bytes g

theorem stumbles_of_decodeBytes_eq_fault {f : Format} {bytes : List UInt8} {g : Fault}
    (h : decodeBytes f bytes = .error (.fault g)) : Stumbles f bytes g := by
  unfold decodeBytes at h
  split at h
  · obtain ⟨e, he, hg⟩ := mapError_eq_error_iff.mp h
    cases e with
    | fault g' =>
        cases hg
        exact .blocks (Yaml.Source.faults_of_document_eq_error
          (Yaml.Source.stopsPlainly_ofBytes _) he)
    | _ => cases hg
  · next hf =>
      split at h
      · cases h
      · next chars hchars => exact .text hf hchars (Format.stumbles_of_decode_eq_fault h)

/-- The lines that are read from octets: those that hold anything and are over by the place where the
octets break off, if they do. -/
def linesRead (bytes : List UInt8) : List (List Char × ℕ) :=
  match Text.decodePiecewise bytes with
  | ⟨chars, none⟩ => recordLines (Text.lines (Text.unifyBreaks chars))
  | ⟨chars, some _⟩ => recordLines (Text.finishedLines chars)

/-- The faults that escape from the octets of a file. -/
inductive Escapes (path : Path) (bytes : List UInt8) : Fault → Prop where
  | document {f : Format} {g : Fault} (layout : Layout.ofSuffix path.suffix = .document f)
      (decode : decodeBytes f bytes = .error (.fault g)) (cause : Stumbles f bytes g) :
      Escapes path bytes g
  | line {before after : List (List Char × ℕ)} {l : List Char × ℕ} {g : Fault}
      (layout : Layout.ofSuffix path.suffix = .perLine)
      (lines : linesRead bytes = before ++ l :: after)
      (events : ∀ x ∈ before, ∃ e, HoldsEvent x.1 e)
      (decode : Format.decode .json (String.ofList l.1) = .error (.fault g))
      (cause : Format.json.Stumbles (String.ofList l.1) g) : Escapes path bytes g

theorem exists_of_recordsOf_eq_error {source : String} {d : Document} {f : Failure}
    (h : recordsOf source d = .error f) : ∃ detail, f = failed source detail := by
  unfold recordsOf at h
  split at h
  · cases h
  · cases h
  · cases h
    exact ⟨_, rfl⟩

theorem drains_eventsOfDocument (source : String) (f : Format) (bytes : List UInt8) :
    Drains source (eventsOfDocument source f bytes) fun g =>
      decodeBytes f bytes = .error (.fault g) := by
  unfold eventsOfDocument documentOf
  cases hd : decodeBytes f bytes with
  | error r =>
      cases r with
      | malformed detail => exact (drains_failed source detail).congr fun g => by simp
      | fault g' =>
          refine ⟨fun e he => ?_, fun g => ?_⟩
          · cases he
          · simp [Except.mapError, bind, Except.bind, Feed.fail]
  | ok d =>
      simp only [Except.mapError, bind, Except.bind]
      cases hr : recordsOf source d with
      | error e =>
          obtain ⟨detail, rfl⟩ := exists_of_recordsOf_eq_error hr
          exact (drains_failed source detail).congr fun g => by simp
      | ok records => exact (drains_events source records).congr fun g => by simp

theorem drains_eventsPerLine (source : String) (bytes : List UInt8) :
    Drains source (eventsPerLine source bytes) fun g => ∃ before l after,
      linesRead bytes = before ++ l :: after ∧ (∀ x ∈ before, ∃ e, HoldsEvent x.1 e) ∧
        Format.decode .json (String.ofList l.1) = .error (.fault g) := by
  unfold eventsPerLine linesRead
  cases Text.decodePiecewise bytes with
  | mk chars fault =>
      cases fault with
      | none => exact drains_eventsOfLines source _
      | some f => exact (drains_eventsOfLines source _).append_failed _

/-- The feed of octets. -/
theorem drains_eventsOfBytes (path : Path) (bytes : List UInt8) :
    Drains path.text (eventsOfBytes path bytes) (Escapes path bytes) := by
  unfold eventsOfBytes
  split
  · next f hf =>
      refine (drains_eventsOfDocument path.text f bytes).congr fun g => ⟨fun h => ?_, fun h => ?_⟩
      · exact .document hf h (stumbles_of_decodeBytes_eq_fault h)
      · cases h with
        | document hf' h =>
            cases hf.symm.trans hf'
            exact h
        | line hf' => cases hf.symm.trans hf'
  · next hf =>
      refine (drains_eventsPerLine path.text bytes).congr fun g => ⟨?_, fun h => ?_⟩
      · rintro ⟨before, l, after, hlines, hevents, hl⟩
        exact .line hf hlines hevents hl (Format.stumbles_of_decode_eq_fault hl)
      · cases h with
        | document hf' => cases hf.symm.trans hf'
        | line _ hlines hevents hl => exact ⟨_, _, _, hlines, hevents, hl⟩

/-- The faults that escape from the file at a path. -/
def FileEscapes (t : FileTree) (cwd : List String) (path : Path) (g : Fault) : Prop :=
  path.hasNul = true ∧ g = .nulInPath ∨
    path.hasNul = false ∧ ∃ bytes, t.read cwd path = .ok bytes ∧ Escapes path bytes g

theorem drains_read (t : FileTree) (cwd : List String) (path : Path) :
    Drains path.text (read t cwd path) (FileEscapes t cwd path) := by
  unfold read FileEscapes
  split
  · next hn =>
      refine ⟨fun e he => ?_, fun g => ?_⟩
      · cases he
      · simp [Feed.fail, hn, eq_comm]
  · next hn =>
      have hn : path.hasNul = false := by simpa using hn
      split
      · next p hp => exact (drains_failed _ _).congr fun g => by simp [hn, hp]
      · next bytes hbytes =>
          exact (drains_eventsOfBytes path bytes).congr fun g => by simp [hn, hbytes]

/-- **How a fact file ends.**  Draining any octets under any suffix, and any file of a tree, yields
events and then ends or gives the error of a malformed record of the file, but for the faults that
escape from its scalars. -/
theorem read_drains (path : Path) (bytes : List UInt8) (t : FileTree) (cwd : List String) :
    Drains path.text (eventsOfBytes path bytes) (Escapes path bytes) ∧
      Drains path.text (read t cwd path) (FileEscapes t cwd path) :=
  ⟨drains_eventsOfBytes path bytes, drains_read t cwd path⟩

/-- The path of a file with one YAML list. -/
def yamlPath : Path := Path.ofString "facts.yaml"

/-- A list whose only record looks like a date and is none. -/
def noDateRecord : List UInt8 := "- 2024-02-30\n".toUTF8.toList

/-- The file neither ends nor gives the error of a malformed record: it breaks off with the fault of
a day that its month does not have. -/
theorem no_malformedRecord_for_noDateRecord :
    (eventsOfBytes yamlPath noDateRecord).failure = some (.fault (.calendar .day)) ∧
      ¬ ∀ f, (eventsOfBytes yamlPath noDateRecord).failure = some f →
        ∃ e index line detail,
          f = .error e ∧ e.cause = .malformedRecord yamlPath.text index line detail := by
  have hfault : Fault.of? (eventsOfBytes yamlPath noDateRecord).toList = some (.calendar .day) := by
    decide +kernel
  have hfails := Feed.toList_eq_error_iff.mp (Fault.of?_eq_some_iff.mp hfault)
  refine ⟨hfails, fun h => ?_⟩
  obtain ⟨e, index, line, detail, hf, -⟩ := h _ hfails
  cases hf

end UsageFile

end Denylist
