/-!
# Log entries

What a run tells about itself on the side.  Operations return their entries; which of them are shown
is decided by the least level that is asked for.
-/

namespace Denylist

/-- How much an entry matters. -/
inductive Level where
  /-- Details for finding faults. -/
  | debug
  /-- The course of the run. -/
  | info
  /-- Something the user should look at. -/
  | warning
deriving DecidableEq, Repr

/-- The rank of a level among the levels. -/
def Level.rank : Level → Nat
  | .debug => 0
  | .info => 1
  | .warning => 2

/-- The name of a level. -/
def Level.name : Level → String
  | .debug => "DEBUG"
  | .info => "INFO"
  | .warning => "WARNING"

/-- One line of the log. -/
structure LogEntry where
  /-- How much it matters. -/
  level : Level
  /-- What it says. -/
  message : String
deriving DecidableEq, Repr

/-- The entry behind the name of its level. -/
def LogEntry.text (e : LogEntry) : String := e.level.name ++ " " ++ e.message

/-- The entries at or above a level, as lines. -/
def logLines (least : Level) (entries : List LogEntry) : List String :=
  (entries.filter fun e => least.rank ≤ e.level.rank).map LogEntry.text

end Denylist
