import Denylist.Config.Format
import Denylist.Files.Tree
import Denylist.Log
import Denylist.Text.Blank
import Denylist.Text.Lines
import Denylist.Text.Utf8
import Denylist.Usage.Record

/-!
# Files of usage records

The suffix of a file tells how its records are written: as one JSON array, as one YAML list, and
otherwise as one JSON text per line.

* A document is read as a whole, so that whatever is wrong with it comes before any event.
* Lines are read as they come.  Blank lines are passed over, yet they count where the line of a
  record is told.  A file that breaks off in the middle of a character still gives the records of
  the lines that were over by then.
-/

namespace Denylist.UsageFile

/-- How the records of a file are written. -/
inductive Layout where
  /-- As the items of one document. -/
  | document (f : Format)
  /-- As one JSON text per line. -/
  | perLine
deriving DecidableEq, Repr

/-- The layout for files with a suffix. -/
def Layout.ofSuffix : String → Layout
  | ".json" => document .json
  | ".yaml" => document .yaml
  | ".yml" => document .yaml
  | _ => perLine

/-- The failure of a file that cannot be read or decoded as a whole. -/
def failed (source detail : String) : Failure :=
  .error (UsageRecord.malformed ⟨source, none, none⟩ detail)

/-! ### One record per line -/

/-- The lines that hold a record, without the blanks around it and with their numbers, which count
blank lines too. -/
def recordLines (lines : List (List Char)) : List (List Char × Nat) :=
  ((lines.map Text.strip).zipIdx 1).filter fun p => p.1 ≠ []

/-- The event of the record on a line. -/
def eventOfLine (source : String) (index : Nat) (line : List Char × Nat) :
    Except Failure UsageEvent :=
  let origin : RecordOrigin := ⟨source, some index, some line.2⟩
  match Format.decode .json (String.ofList line.1) with
  | .ok d => (UsageRecord.parse origin d).mapError .error
  | .error (.malformed detail) => .error (.error (UsageRecord.malformed origin detail))
  | .error (.fault f) => .error (.fault f)

/-- The events of lines with a record, numbered from `index` on, up to the first malformed one. -/
def eventsOfLines (source : String) : Nat → List (List Char × Nat) → Feed UsageEvent
  | _, [] => .ofList []
  | index, l :: ls =>
    match eventOfLine source index l with
    | .ok e => (eventsOfLines source (index + 1) ls).cons e
    | .error f => .fail f

/-- The events of a file with one record per line. -/
def eventsPerLine (source : String) (bytes : List UInt8) : Feed UsageEvent :=
  match Text.decodePiecewise bytes with
  | ⟨chars, none⟩ => eventsOfLines source 1 (recordLines (Text.lines (Text.unifyBreaks chars)))
  | ⟨chars, some f⟩ =>
    (eventsOfLines source 1 (recordLines (Text.finishedLines chars))).append
      (.fail (failed source f.message))

/-! ### One document -/

/-- The records of a document.  No document means no records. -/
def recordsOf (source : String) : Document → Except Failure (List Document)
  | .scalar .null => .ok []
  | .list l => .ok l
  | d => .error (failed source ("expected a list of records, got " ++ d.typeName))

/-- The document that octets denote.  YAML is read block by block, so that trouble hides what is
wrong further on; the others are decoded at once. -/
def decodeBytes (f : Format) (bytes : List UInt8) : Except Format.Refusal Document :=
  match f with
  | .yaml => (Yaml.Source.ofBytes bytes).document.mapError .ofYaml
  | _ =>
    match Text.decodeUtf8 bytes with
    | ⟨_, some fault⟩ => .error (.malformed fault.message)
    | ⟨chars, none⟩ => f.decode (String.ofList (Text.unifyBreaks chars))

/-- The document in a file. -/
def documentOf (source : String) (f : Format) (bytes : List UInt8) : Except Failure Document :=
  (decodeBytes f bytes).mapError fun
    | .malformed detail => failed source detail
    | .fault fault => .fault fault

/-- The events of a file whose records are the items of one document. -/
def eventsOfDocument (source : String) (f : Format) (bytes : List UInt8) : Feed UsageEvent :=
  match documentOf source f bytes >>= recordsOf source with
  | .ok records => UsageRecord.events source records
  | .error e => .fail e

/-! ### Reading -/

/-- The events of the octets of a file at a path. -/
def eventsOfBytes (path : Path) (bytes : List UInt8) : Feed UsageEvent :=
  match Layout.ofSuffix path.suffix with
  | .document f => eventsOfDocument path.text f bytes
  | .perLine => eventsPerLine path.text bytes

/-- The events of the file at a path as seen from a directory. -/
def read (t : FileTree) (cwd : List String) (path : Path) : Feed UsageEvent :=
  if path.hasNul then .fail (.fault .nulInPath) else
  match t.read cwd path with
  | .error p => .fail (failed path.text (p.message path.text))
  | .ok bytes => eventsOfBytes path bytes

/-- What the log says when a file is about to be read. -/
def readingEntry (path : Path) : LogEntry := ⟨.debug, "Reading usage facts from " ++ path.text⟩

end Denylist.UsageFile
