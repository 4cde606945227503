import Denylist.Proofs.Octets
import Denylist.Proofs.UsageReading

/-!
# Proofs — the ways to read records agree

Records come one per line, as the items of a document, or from memory.  The events they give, and the
record at which they break off, are a matter of the records alone (`UsageRecord.Tells`), whichever way
they are read.  Reading line by line keeps a second count beside that of the records: the number of
the line, which runs on over blank lines (`UsageFile.HoldRecords`).
-/

namespace Denylist

/-! ### Lines and their ends -/

namespace Text

/-- How a line ends. -/
inductive LineEnd where
  | feed
  | carriage
  | both
deriving DecidableEq, Repr

/-- The characters of a line end. -/
def LineEnd.chars : LineEnd → List Char
  | .feed => ['\n']
  | .carriage => ['\r']
  | .both => ['\r', '\n']

/-- A line holds no character of a line end. -/
def IsLine (l : List Char) : Prop := ∀ c ∈ l, c ≠ '\n' ∧ c ≠ '\r'

/-- The lines of a text, whatever their ends.  A carriage return in front of a line feed does not end
a line of its own. -/
inductive HasLines : List Char → List (List Char) → Prop where
  | last {l : List Char} (line : IsLine l) : HasLines l [l]
  | cons {l text : List Char} {e : LineEnd} {ls : List (List Char)} (line : IsLine l)
      (alone : e = .carriage → text.head? ≠ some '\n') (rest : HasLines text ls) :
      HasLines (l ++ e.chars ++ text) (l :: ls)

theorem unifyBreaks_append {l : List Char} (h : IsLine l) (text : List Char) :
    unifyBreaks (l ++ text) = l ++ unifyBreaks text := by
  induction l with
  | nil => rfl
  | cons c l ih =>
      obtain ⟨-, hreturn⟩ := h c List.mem_cons_self
      rw [List.cons_append, unifyBreaks, ih fun x hx => h x (List.mem_cons_of_mem c hx),
        List.cons_append]
      · intro l' hc
        exact absurd hc hreturn
      · exact hreturn

theorem unifyBreaks_chars_append (e : LineEnd) {text : List Char}
    (alone : e = .carriage → text.head? ≠ some '\n') :
    unifyBreaks (e.chars ++ text) = '\n' :: unifyBreaks text := by
  cases e with
  | feed => rfl
  | both => rfl
  | carriage =>
      rw [LineEnd.chars, List.singleton_append, unifyBreaks]
      rintro l rfl
      exact alone rfl rfl

theorem lines_of_isLine {l : List Char} (h : IsLine l) : lines l = [l] :=
  piecesBy_eq_singleton fun c hc => beq_eq_false_iff_ne.mpr (h c hc).1

theorem lines_append {l : List Char} (h : IsLine l) (text : List Char) :
    lines (l ++ '\n' :: text) = l :: lines text := by
  unfold lines piecesAt
  induction l with
  | nil => rfl
  | cons c l ih =>
      obtain ⟨hfeed, -⟩ := h c List.mem_cons_self
      rw [List.cons_append, piecesBy, if_neg (by simpa using hfeed),
        ih fun x hx => h x (List.mem_cons_of_mem c hx), consFirst]

/-- The lines of a text are those between its line feeds once these are its only line ends. -/
theorem HasLines.lines_unifyBreaks {text : List Char} {l : List (List Char)} (h : HasLines text l) :
    lines (unifyBreaks text) = l := by
  induction h with
  | last line =>
      have hbreaks := unifyBreaks_append line []
      rw [List.append_nil, unifyBreaks, List.append_nil] at hbreaks
      rw [hbreaks, lines_of_isLine line]
  | cons line alone _ ih =>
      rw [List.append_assoc, unifyBreaks_append line, unifyBreaks_chars_append _ alone,
        lines_append line, ih]

theorem HasLines.cons_char {c : Char} (hc : c ≠ '\n' ∧ c ≠ '\r') {text : List Char}
    {l : List Char} {ls : List (List Char)} (h : HasLines text (l :: ls)) :
    HasLines (c :: text) ((c :: l) :: ls) := by
  cases h with
  | last line => exact .last (List.forall_mem_cons.mpr ⟨hc, line⟩)
  | cons line alone rest => exact .cons (List.forall_mem_cons.mpr ⟨hc, line⟩) alone rest

theorem isLine_nil : IsLine [] := List.forall_mem_nil _

/-- Every text has lines. -/
theorem hasLines_lines_unifyBreaks (text : List Char) :
    HasLines text (lines (unifyBreaks text)) := by
  fun_induction unifyBreaks text with
  | case1 => exact .last isLine_nil
  | case2 text ih =>
      exact .cons (e := .both) isLine_nil nofun ih
  | case3 text hfeed ih =>
      refine .cons (e := .carriage) isLine_nil (fun _ h => ?_) ih
      obtain ⟨rest, rfl⟩ := List.head?_eq_some_iff.mp h
      exact hfeed rest rfl
  | case4 c text hboth hreturn ih =>
      by_cases hc : c = '\n'
      · subst hc
        exact .cons (e := .feed) isLine_nil nofun ih
      · obtain ⟨l, ls, hls⟩ := List.exists_cons_of_ne_nil
          (piecesBy_ne_nil (· == '\n') (unifyBreaks text))
        have hline : lines (c :: unifyBreaks text) = (c :: l) :: ls := by
          rw [lines, piecesAt, piecesBy, if_neg (by simpa using hc), hls, consFirst]
        rw [hline]
        refine .cons_char ⟨hc, hreturn⟩ ?_
        rwa [← hls]

/-! ### Blanks around a text -/

theorem dropBlanks_append {before : List Char} (h : ∀ c ∈ before, isBlank c = true)
    (l : List Char) : dropBlanks (before ++ l) = dropBlanks l := by
  rw [dropBlanks, List.dropWhile_append_of_pos h, dropBlanks]

theorem dropBlanksEnd_append {after : List Char} (h : ∀ c ∈ after, isBlank c = true)
    (l : List Char) : dropBlanksEnd (l ++ after) = dropBlanksEnd l := by
  rw [dropBlanksEnd, List.reverse_append, List.dropWhile_append_of_pos (by simpa using h),
    dropBlanksEnd]

theorem strip_of_forall_isBlank {l : List Char} (h : ∀ c ∈ l, isBlank c = true) : strip l = [] := by
  have hl := dropBlanks_append h []
  rw [List.append_nil] at hl
  rw [strip, hl]
  rfl

theorem dropBlanks_eq_self {l : List Char} {c : Char} (hc : l.head? = some c)
    (h : isBlank c = false) : dropBlanks l = l := by
  obtain ⟨l, rfl⟩ := List.head?_eq_some_iff.mp hc
  rw [dropBlanks, List.dropWhile_cons_of_neg (by simp [h])]

/-- A text that begins and ends with a character other than a blank. -/
structure Trimmed (l : List Char) : Prop where
  head : ∃ c, l.head? = some c ∧ isBlank c = false
  last : ∃ c, l.getLast? = some c ∧ isBlank c = false

theorem Trimmed.ne_nil {l : List Char} (h : Trimmed l) : l ≠ [] := by
  rintro rfl
  obtain ⟨c, hc, -⟩ := h.head
  cases hc

/-- Stripping takes off the blanks around a text. -/
theorem strip_append {before l after : List Char} (hbefore : ∀ c ∈ before, isBlank c = true)
    (hafter : ∀ c ∈ after, isBlank c = true) (hl : Trimmed l) :
    strip (before ++ l ++ after) = l := by
  obtain ⟨a, ha, hablank⟩ := hl.head
  obtain ⟨b, hb, hbblank⟩ := hl.last
  have hhead : dropBlanks (l ++ after) = l ++ after := by
    refine dropBlanks_eq_self (c := a) ?_ hablank
    rwa [List.head?_append_of_ne_nil _ hl.ne_nil]
  have hlast : dropBlanks l.reverse = l.reverse := by
    refine dropBlanks_eq_self (c := b) ?_ hbblank
    rwa [List.head?_reverse]
  rw [strip, List.append_assoc, dropBlanks_append hbefore, hhead, dropBlanksEnd_append hafter,
    dropBlanksEnd]
  rw [dropBlanks] at hlast
  rw [hlast, List.reverse_reverse]

end Text

/-! ### What records tell -/

namespace UsageRecord

/-- A record that is read has the same event wherever it comes from, and otherwise the same is wrong
with it. -/
theorem exists_parse_eq (d : Document) : (∃ e, ∀ o, parse o d = .ok e) ∨
    ∃ detail, ∀ o, parse o d = .error (malformed o detail) := by
  cases d with
  | table ms =>
      cases h : UsageEvent.read (.table (nest ms)) with
      | ok e => exact .inl ⟨e, fun o => by rw [parse, h]⟩
      | error l => exact .inr ⟨_, fun o => by rw [parse, h]⟩
  | _ => exact .inr ⟨_, fun o => rfl⟩

/-- The events of records up to the first malformed one, and what is wrong with that one. -/
inductive Tells : List Document → List UsageEvent → Option String → Prop where
  | nil : Tells [] [] none
  | event {d : Document} {e : UsageEvent} {ds : List Document} {es : List UsageEvent}
      {detail : Option String} (record : ∀ o, parse o d = .ok e) (rest : Tells ds es detail) :
      Tells (d :: ds) (e :: es) detail
  | malformed {d : Document} {ds : List Document} {detail : String}
      (record : ∀ o, parse o d = .error (malformed o detail)) : Tells (d :: ds) [] (some detail)

theorem exists_tells (ds : List Document) : ∃ es detail, Tells ds es detail := by
  induction ds with
  | nil => exact ⟨[], none, .nil⟩
  | cons d ds ih =>
      obtain ⟨e, he⟩ | ⟨detail, hd⟩ := exists_parse_eq d
      · obtain ⟨es, detail, h⟩ := ih
        exact ⟨e :: es, detail, .event he h⟩
      · exact ⟨[], some detail, .malformed hd⟩

theorem Tells.length_lt {ds : List Document} {es : List UsageEvent} {detail : String}
    (h : Tells ds es (some detail)) : es.length < ds.length := by
  generalize hr : some detail = r at h
  induction h with
  | nil => cases hr
  | event _ _ ih => exact Nat.succ_lt_succ (ih hr)
  | malformed _ => exact Nat.succ_pos _

/-- A feed that breaks off behind some events, at the record with the next number from `index` on. -/
def feedOf (source : String) (index : Int) (line : Option Int) (es : List UsageEvent)
    (detail : Option String) : Feed UsageEvent :=
  ⟨es, detail.map fun detail => .error (malformed ⟨source, some (index + es.length), line⟩ detail)⟩

theorem feedOf_cons (source : String) (index : Int) (line : Option Int) (e : UsageEvent)
    (es : List UsageEvent) (detail : Option String) :
    feedOf source index line (e :: es) detail =
      (feedOf source (index + 1) line es detail).cons e := by
  rw [feedOf, feedOf, List.length_cons, Int.natCast_add, Int.natCast_one, Int.add_comm _ 1,
    ← Int.add_assoc]
  rfl

theorem eventsFrom_of_tells {ds : List Document} {es : List UsageEvent} {detail : Option String}
    (h : Tells ds es detail) (source : String) (index : Int) :
    eventsFrom source index ds = feedOf source index none es detail := by
  induction h generalizing index with
  | nil => rfl
  | event record _ ih => rw [eventsFrom, record, feedOf_cons, ← ih]
  | malformed record =>
      rw [eventsFrom, record]
      simp [feedOf, Feed.fail]

end UsageRecord

/-! ### Records on lines -/

namespace UsageFile
open UsageRecord

/-- A JSON text of a value. -/
structure Encodes (text : List Char) (d : Document) : Prop where
  trimmed : Text.Trimmed text
  decode : Format.decode .json (String.ofList text) = .ok d

/-- Lines from number `n` on with one record each and blank lines between them.  Blanks may stand
around the JSON text of a record.  The records are given with the numbers of their lines. -/
inductive HoldRecords : ℕ → List (List Char) → List (Document × ℕ) → Prop where
  | nil {n : ℕ} : HoldRecords n [] []
  | blank {n : ℕ} {l : List Char} {ls : List (List Char)} {records : List (Document × ℕ)}
      (line : ∀ c ∈ l, Text.isBlank c = true) (rest : HoldRecords (n + 1) ls records) :
      HoldRecords n (l :: ls) records
  | record {n : ℕ} {before text after : List Char} {d : Document} {ls : List (List Char)}
      {records : List (Document × ℕ)} (front : ∀ c ∈ before, Text.isBlank c = true)
      (back : ∀ c ∈ after, Text.isBlank c = true) (json : Encodes text d)
      (rest : HoldRecords (n + 1) ls records) :
      HoldRecords n ((before ++ text ++ after) :: ls) ((d, n) :: records)

/-- A line with the JSON text of a record. -/
def IsRecord (l : List Char × ℕ) (record : Document × ℕ) : Prop :=
  Format.decode .json (String.ofList l.1) = .ok record.1 ∧ l.2 = record.2

/-- The lines that are read are those of the records. -/
theorem forall₂_isRecord {n : ℕ} {ls : List (List Char)} {records : List (Document × ℕ)}
    (h : HoldRecords n ls records) :
    List.Forall₂ IsRecord (((ls.map Text.strip).zipIdx n).filter fun p => p.1 ≠ []) records := by
  induction h with
  | nil => exact .nil
  | blank line _ ih =>
      rw [List.map_cons, List.zipIdx_cons, Text.strip_of_forall_isBlank line,
        List.filter_cons_of_neg (by simp)]
      exact ih
  | record front back json _ ih =>
      rw [List.map_cons, List.zipIdx_cons, Text.strip_append front back json.trimmed,
        List.filter_cons_of_pos (by simpa using json.trimmed.ne_nil)]
      exact .cons ⟨json.decode, rfl⟩ ih

/-- The number of the line of a record. -/
def lineOf (records : List (Document × ℕ)) (i : ℕ) : Option Int :=
  records[i]?.map fun record => (record.2 : Int)

theorem eventOfLine_of_isRecord {l : List Char × ℕ} {record : Document × ℕ}
    (h : IsRecord l record) (source : String) (index : ℕ) : eventOfLine source index l =
      (parse ⟨source, some index, some record.2⟩ record.1).mapError .error := by
  obtain ⟨hdecode, hnumber⟩ := h
  rw [eventOfLine, hdecode, hnumber]

theorem eventsOfLines_of_tells {ls : List (List Char × ℕ)} {records : List (Document × ℕ)}
    (hls : List.Forall₂ IsRecord ls records) {es : List UsageEvent} {detail : Option String}
    (h : Tells (records.map Prod.fst) es detail) (source : String) (index : ℕ) :
    eventsOfLines source index ls =
      feedOf source index (lineOf records es.length) es detail := by
  induction hls generalizing index es with
  | nil =>
      cases h
      rfl
  | cons hl _ ih =>
      rw [List.map_cons] at h
      rw [eventsOfLines, eventOfLine_of_isRecord hl]
      cases h with
      | event record rest =>
          rw [record, feedOf_cons]
          exact congrArg (Feed.cons _) (ih rest (index + 1))
      | malformed record =>
          rw [record]
          simp [Except.mapError, feedOf, Feed.fail, lineOf]

/-! ### The readers -/

/-- A tree has a file with a text at a path. -/
structure HasText (t : FileTree) (cwd : List String) (path : Path) (text : List Char) : Prop where
  noNul : path.hasNul = false
  octets : t.read cwd path = .ok (Text.octets text)

section Readers

variable {t : FileTree} {cwd : List String} {path : Path} {text : List Char}

theorem read_of_hasText (h : HasText t cwd path text) :
    read t cwd path = eventsOfBytes path (Text.octets text) := by
  rw [read, h.noNul, if_neg Bool.false_ne_true, h.octets]

theorem read_perLine (h : HasText t cwd path text)
    (layout : Layout.ofSuffix path.suffix = .perLine) : read t cwd path =
      eventsOfLines path.text 1 (recordLines (Text.lines (Text.unifyBreaks text))) := by
  rw [read_of_hasText h, eventsOfBytes, layout]
  dsimp only
  rw [eventsPerLine, Text.decodePiecewise_octets]

theorem read_json (h : HasText t cwd path text)
    (layout : Layout.ofSuffix path.suffix = .document .json) {ds : List Document}
    (array : Format.decode .json (String.ofList (Text.unifyBreaks text)) = .ok (.list ds)) :
    read t cwd path = events path.text ds := by
  rw [read_of_hasText h, eventsOfBytes, layout]
  dsimp only
  rw [eventsOfDocument, documentOf, decodeBytes, Text.decodeUtf8_octets]
  · dsimp only
    rw [array]
    rfl
  · exact nofun

end Readers

/-- **The readers of records agree.**  Records give the same events one per line, whatever blank lines,
blanks and line ends there are, as the items of a document, and from memory.  Where one of the readers
breaks off all three do, behind the same events and with the same to say of the record that follows
them; beside its number the reader of lines tells the number of its line. -/
theorem readers_agree {t : FileTree} {cwd : List String} {linesPath arrayPath : Path}
    {text array : List Char} {ls : List (List Char)} {records : List (Document × ℕ)}
    (perLine : Layout.ofSuffix linesPath.suffix = .perLine) (htext : HasText t cwd linesPath text)
    (hls : Text.HasLines text ls) (hrecords : HoldRecords 1 ls records)
    (document : Layout.ofSuffix arrayPath.suffix = .document .json)
    (harray : HasText t cwd arrayPath array)
    (json : Format.decode .json (String.ofList (Text.unifyBreaks array)) =
      .ok (.list (records.map Prod.fst))) :
    ∃ es,
      (events memory (records.map Prod.fst) = ⟨es, none⟩ ∧
        read t cwd linesPath = ⟨es, none⟩ ∧ read t cwd arrayPath = ⟨es, none⟩) ∨
      ∃ d n detail, records[es.length]? = some (d, n) ∧
        events memory (records.map Prod.fst) =
          ⟨es, some (.error
            { cause := .malformedRecord memory (some (es.length + 1)) none detail })⟩ ∧
        read t cwd linesPath =
          ⟨es, some (.error
            { cause := .malformedRecord linesPath.text (some (es.length + 1)) (some n) detail })⟩ ∧
        read t cwd arrayPath =
          ⟨es, some (.error
            { cause := .malformedRecord arrayPath.text (some (es.length + 1)) none detail })⟩ := by
  obtain ⟨es, detail, htells⟩ := exists_tells (records.map Prod.fst)
  have hread : read t cwd linesPath =
      feedOf linesPath.text 1 (lineOf records es.length) es detail := by
    rw [read_perLine htext perLine, hls.lines_unifyBreaks]
    exact eventsOfLines_of_tells (forall₂_isRecord hrecords) htells linesPath.text 1
  rw [hread, read_json harray document json, events, events, eventsFrom_of_tells htells,
    eventsFrom_of_tells htells]
  refine ⟨es, ?_⟩
  cases detail with
  | none => exact .inl ⟨rfl, rfl, rfl⟩
  | some detail =>
      have hlength := htells.length_lt
      rw [List.length_map] at hlength
      refine .inr ⟨_, _, detail, List.getElem?_eq_getElem hlength, ?_, ?_, ?_⟩
      all_goals simp [feedOf, malformed, lineOf, Int.add_comm, hlength]

/-! ### Two files with the same records -/

/-- Whether two scalars are the same text or the same integer. -/
def sameScalar : Scalar → Scalar → Bool
  | .text s, .text s' => s == s'
  | .int n, .int n' => n == n'
  | _, _ => false

/-- Whether the members of a table are the given texts and integers. -/
def sameMembers : List (Scalar × Document) → List (Scalar × Scalar) → Bool
  | [], [] => true
  | (k, .scalar v) :: ms, (k', v') :: fs =>
      sameScalar k k' && sameScalar v v' && sameMembers ms fs
  | _, _ => false

theorem eq_of_sameScalar {a b : Scalar} (h : sameScalar a b = true) : a = b := by
  unfold sameScalar at h
  split at h
  · exact congrArg _ (eq_of_beq h)
  · exact congrArg _ (eq_of_beq h)
  · cases h

theorem eq_of_sameMembers {ms : List (Scalar × Document)} {fs : List (Scalar × Scalar)}
    (h : sameMembers ms fs = true) : ms = fs.map fun f => (f.1, .scalar f.2) := by
  fun_induction sameMembers ms fs with
  | case1 => rfl
  | case2 k v ms k' v' fs ih =>
      rw [Bool.and_eq_true, Bool.and_eq_true] at h
      obtain ⟨⟨hk, hv⟩, hms⟩ := h
      rw [eq_of_sameScalar hk, eq_of_sameScalar hv, ih hms, List.map_cons]
  | case3 => cases h

/-- A use as its front-end writes it. -/
def useText : List Char :=
  "\x7b\"kind\": \"macro\", \"path\": \"dbg\", \"file\": \"a.rs\", \"line\": 3\x7d".toList

/-- The members of its record. -/
def useMembers : List (Scalar × Scalar) :=
  [(.text "kind", .text "macro"), (.text "path", .text "dbg"), (.text "file", .text "a.rs"),
    (.text "line", .int 3)]

/-- Whether the record of the use was decoded. -/
def isUse : Except Format.Refusal Document → Bool
  | .ok (.table ms) => sameMembers ms useMembers
  | _ => false

/-- Whether a list of the record and the number seven was decoded. -/
def isUseAndNumber : Except Format.Refusal Document → Bool
  | .ok (.list [.table ms, .scalar (.int n)]) => sameMembers ms useMembers && n == 7
  | _ => false

/-- The record of the use and something that is none, with the numbers of their lines. -/
def mixedRecords : List (Document × ℕ) :=
  [(.table (useMembers.map fun f => (f.1, .scalar f.2)), 3), (.scalar (.int 7), 5)]

/-- The two between blank lines, with each of the line ends. -/
def mixedText : List Char := "\r\n \t\r  ".toList ++ useText ++ "\t\n\n7\r".toList

/-- The two in one document. -/
def mixedArray : List Char := '[' :: (useText ++ ",7]".toList)

/-- The path of the file with lines. -/
def mixedLinesPath : Path := .absolute ["facts.jsonl"]

/-- The path of the file with a document. -/
def mixedArrayPath : Path := .absolute ["facts.json"]

/-- Both files. -/
def mixedFiles : FileTree :=
  ⟨[(["facts.jsonl"], .file (Text.octets mixedText)),
    (["facts.json"], .file (Text.octets mixedArray))]⟩

theorem decode_useText : Format.decode .json (String.ofList useText) =
    .ok (.table (useMembers.map fun f => (f.1, .scalar f.2))) := by
  have h : isUse (Format.decode .json (String.ofList useText)) = true := by decide +kernel
  unfold isUse at h
  split at h
  · next ms hms => rw [hms, eq_of_sameMembers h]
  · cases h

theorem decode_mixedArray : Format.decode .json (String.ofList (Text.unifyBreaks mixedArray)) =
    .ok (.list (mixedRecords.map Prod.fst)) := by
  have h : isUseAndNumber (Format.decode .json (String.ofList (Text.unifyBreaks mixedArray))) =
      true := by decide +kernel
  unfold isUseAndNumber at h
  split at h
  · next ms n hms =>
      rw [Bool.and_eq_true] at h
      rw [hms, eq_of_sameMembers h.1, eq_of_beq h.2]
      rfl
  · cases h

theorem holdRecords_mixedText :
    HoldRecords 1 (Text.lines (Text.unifyBreaks mixedText)) mixedRecords := by
  have hlines : Text.lines (Text.unifyBreaks mixedText) =
      [[], [' ', '\t'], [' ', ' '] ++ useText ++ ['\t'], [], [] ++ ['7'] ++ [], []] := by
    decide +kernel
  have hblank {l : List Char} (h : l.all Text.isBlank = true) :
      ∀ c ∈ l, Text.isBlank c = true := List.all_eq_true.mp h
  rw [hlines]
  refine .blank (hblank rfl) (.blank (hblank rfl) (.record (hblank rfl) (hblank rfl) ?_
    (.blank (hblank rfl) (.record (hblank rfl) (hblank rfl) ?_ (.blank (hblank rfl) .nil)))))
  · exact ⟨⟨⟨'\x7b', by decide, by decide⟩, ⟨'\x7d', by decide, by decide⟩⟩, decode_useText⟩
  · exact ⟨⟨⟨'7', by decide, by decide⟩, ⟨'7', by decide, by decide⟩⟩, rfl⟩

/-- All three readers give the use and break off at the second record, which stands on line five. -/
theorem readers_agree_mixedText : ∃ e detail,
    events memory (mixedRecords.map Prod.fst) =
      ⟨[e], some (.error { cause := .malformedRecord memory (some 2) none detail })⟩ ∧
    read mixedFiles [] mixedLinesPath = ⟨[e], some (.error
      { cause := .malformedRecord mixedLinesPath.text (some 2) (some 5) detail })⟩ ∧
    read mixedFiles [] mixedArrayPath = ⟨[e], some (.error
      { cause := .malformedRecord mixedArrayPath.text (some 2) none detail })⟩ := by
  have hlength : (read mixedFiles [] mixedArrayPath).items.length = 1 := by decide +kernel
  have hfails : (read mixedFiles [] mixedArrayPath).failure.isSome = true := by decide +kernel
  have hperLine : Layout.ofSuffix mixedLinesPath.suffix = .perLine := by decide +kernel
  have hdocument : Layout.ofSuffix mixedArrayPath.suffix = .document .json := by decide +kernel
  have htext : HasText mixedFiles [] mixedLinesPath mixedText := ⟨by decide +kernel, rfl⟩
  have hjson : HasText mixedFiles [] mixedArrayPath mixedArray := ⟨by decide +kernel, rfl⟩
  obtain ⟨es, ⟨-, -, harray⟩ | ⟨d, n, detail, hrecord, hmemory, hlines, harray⟩⟩ :=
    readers_agree hperLine htext (Text.hasLines_lines_unifyBreaks mixedText) holdRecords_mixedText
      hdocument hjson decode_mixedArray
  · rw [harray] at hfails
    cases hfails
  · rw [harray] at hlength
    obtain ⟨e, rfl⟩ := List.length_eq_one_iff.mp hlength
    cases hrecord
    exact ⟨e, detail, hmemory, hlines, harray⟩

end UsageFile

end Denylist
