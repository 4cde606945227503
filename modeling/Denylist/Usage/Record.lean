import Denylist.Usage.Event
import Denylist.Usage.Feed

/-!
# Usage records

The front-end writes one record per reference.  A record is a table with kind, path and location;
the location is either nested or given by `file`, `line` and `column` beside the other two.  `nest`
brings the second shape into the first.

Records are numbered from one in their source, and a malformed record is reported under its number,
with the line it stands on where the source is read line by line.
-/

namespace Denylist

/-- Where a record comes from. -/
structure RecordOrigin where
  /-- The name of the source. -/
  source : String
  /-- The number of the record in its source. -/
  index : Option Int
  /-- The line of the record. -/
  line : Option Int
deriving DecidableEq, Repr

namespace UsageRecord

/-- The name of the source of records that were never in a file. -/
def memory : String := "<memory>"

/-- Whether a table has a member under a text key. -/
def hasMember (name : String) (members : List (Scalar × Document)) : Bool :=
  (memberAt? name members).isSome

/-- Whether a key is one of the three that make up a flat location. -/
def isLocationKey (k : Scalar) : Bool :=
  match k with
  | .text s => Location.fieldNames.contains s
  | _ => false

/-- The flat location fields that are there, in the order file, line, column. -/
def flatLocation (members : List (Scalar × Document)) : List (Scalar × Document) :=
  Location.fieldNames.filterMap fun name =>
    (memberAt? name members).map fun d => (.text name, d)

/-- The members of a record with flat location fields moved into a nested location.  A record with a
location, or with none of the fields, stays as it is. -/
def nest (members : List (Scalar × Document)) : List (Scalar × Document) :=
  if hasMember "location" members || !(Location.fieldNames.any (hasMember · members)) then members
  else
    members.filter (fun m => !isLocationKey m.1) ++
      [(.text "location", .table (flatLocation members))]

/-- The error of a malformed record. -/
def malformed (o : RecordOrigin) (detail : String) : Error :=
  { cause := .malformedRecord o.source o.index o.line detail }

/-- Place and words of an issue. -/
def issueText (i : Issue) : String := i.placeText ++ ": " ++ i.defect.message

/-- The event of a record. -/
def parse (o : RecordOrigin) (record : Document) : Except Error UsageEvent :=
  match record with
  | .table ms =>
    match UsageEvent.read (.table (nest ms)) with
    | .ok e => .ok e
    | .error l => .error (malformed o ("; ".intercalate (l.map issueText)))
  | d => .error (malformed o ("expected an object, got " ++ d.typeName))

/-- The events of records numbered from `index` on, up to the first malformed one. -/
def eventsFrom (source : String) : Int → List Document → Feed UsageEvent
  | _, [] => .ofList []
  | index, d :: ds =>
    match parse ⟨source, some index, none⟩ d with
    | .ok e => (eventsFrom source (index + 1) ds).cons e
    | .error e => .fail (.error e)

/-- The events of records, up to the first malformed one. -/
def events (source : String) (records : List Document) : Feed UsageEvent :=
  eventsFrom source 1 records

end UsageRecord

end Denylist
