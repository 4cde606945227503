import Denylist.Usage.Event
import Denylist.Usage.Feed

/-!
# Units of work

Events are grouped by file, so that the files can be scanned side by side.  Files come in the order
in which they are first seen, and the events of a file keep their order.
-/

namespace Denylist

/-- The events of one file. -/
structure FileUnit where
  /-- The file. -/
  file : String
  /-- Its events, in order. -/
  events : List UsageEvent

namespace FileUnit

/-- The units with one more event, at the end of its file's unit or in a new unit. -/
def insert (e : UsageEvent) : List FileUnit → List FileUnit
  | [] => [⟨e.location.file, [e]⟩]
  | u :: us =>
    if u.file = e.location.file then ⟨u.file, u.events ++ [e]⟩ :: us else u :: insert e us

/-- The units of events. -/
def ofEvents (l : List UsageEvent) : List FileUnit := l.foldl (fun us e => insert e us) []

/-- The units of a feed, provided it does not fail. -/
def ofFeed (f : Feed UsageEvent) : Except Failure (List FileUnit) := f.toList.map ofEvents

end FileUnit

end Denylist
