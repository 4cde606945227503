import Denylist.Error
import Denylist.Files.Tree
import Denylist.Json.Reader

/-!
# Faults

A fault is a failure outside the family of `Error`s: a scalar of a config that stands for nothing, a
value that cannot be looked up, a report cell that is broken markup.  It is not caught on the way,
so it ends the operation whatever the operation promises.
-/

namespace Denylist

/-- A failure that no part of the analysis handles. -/
inductive Fault where
  /-- An integer with too many digits. -/
  | longInteger (digits : Nat)
  /-- An integer with too many digits to be written. -/
  | longOutput
  /-- A date or time of day that does not exist. -/
  | calendar (what : CalendarFault)
  /-- A text that was declared an integer of a base and is none. -/
  | integerText (base : Nat) (shown : String)
  /-- A text that was declared a floating-point number and is none. -/
  | floatText (shown : String)
  /-- A text that was declared a truth value and is none. -/
  | truthText (shown : String)
  /-- A digit of a floating-point number stands so far in front that no double holds its weight. -/
  | hugeWeight
  /-- A value that some text ought to have, and none was there. -/
  | absentText
  /-- A text that was declared a moment and is none. -/
  | momentText
  /-- An escape for a code point beyond the last. -/
  | codePoint
  /-- An escape for a code point that not even a machine word holds. -/
  | hugeCodePoint
  /-- A list, set or table in the place of a key. -/
  | unhashable (typeName : String)
  /-- A value that ought to name a kind and names none. -/
  | noKind (shown : String)
  /-- A rule set cannot be changed. -/
  | immutable
  /-- Fewer than one worker. -/
  | workers (given : Int)
  /-- A path with a character that no file name may hold. -/
  | nulInPath
  /-- A path at which nothing can be looked for. -/
  | path (problem : FileProblem) (place : String)
  /-- A closing tag that matches no open tag. -/
  | strayTag (tag : String) (position : Nat)
  /-- A closing tag for the last open tag where none is open. -/
  | nothingToClose (position : Nat)
deriving DecidableEq, Repr

/-- The text of a fault. -/
def Fault.message : Fault → String
  | longInteger digits => (Json.Fault.longInteger digits).message
  | longOutput =>
    s!"Exceeds the limit ({Decimal.maxDigits} digits) for integer string conversion; " ++
      "use sys.set_int_max_str_digits() to increase the limit"
  | calendar what => what.message
  | integerText base shown => s!"invalid literal for int() with base {base}: " ++ shown
  | floatText shown => "could not convert string to float: " ++ shown
  | truthText shown => shown
  | hugeWeight => "int too large to convert to float"
  | absentText => "string index out of range"
  | momentText => "'NoneType' object has no attribute 'groupdict'"
  | codePoint => "chr() arg not in range(0x110000)"
  | hugeCodePoint => "Python int too large to convert to C int"
  | unhashable typeName => s!"unhashable type: '{typeName}'"
  | noKind shown => shown ++ " is not a valid RuleKind"
  | immutable => "RuleSet is immutable"
  | nulInPath => "embedded null byte"
  | .path problem place => problem.message place
  | workers n => s!"max_workers must be at least 1, got {n}"
  | strayTag tag position =>
    s!"closing tag '{tag}' at position {position} doesn't match any open tag"
  | nothingToClose position => s!"closing tag '[/]' at position {position} has nothing to close"

/-- Any way in which an operation may fail. -/
inductive Failure where
  /-- An error of the analysis. -/
  | error (e : Error)
  /-- A fault that nothing handles. -/
  | fault (f : Fault)

end Denylist
