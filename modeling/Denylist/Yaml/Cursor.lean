import Denylist.Yaml.Source

/-!
# A place in a YAML text

The characters ahead, with line and column, which decide on the structure of block collections.
Five characters break lines, and a carriage return counts with the line feed behind it as one break.
Past the end stands the null character, which cannot occur in a text.

Reading looks no further ahead than it has to, since behind the characters there may be trouble:
that is met by whoever asks for a character there, or moves there.
-/

namespace Denylist.Yaml

/-- A place in a text. -/
structure Cursor where
  /-- The characters ahead. -/
  rest : List Char
  /-- What is met behind them, unless it is the end of the text. -/
  stop : Option Trouble
  /-- The number of all characters. -/
  size : Nat
  /-- The number of characters behind. -/
  index : Nat
  /-- The number of breaks behind. -/
  line : Nat
  /-- The number of characters since the last break. -/
  column : Nat
deriving DecidableEq, Repr

/-- The mark of the end. -/
def endMark : Char := '\x00'

/-- The characters that break lines. -/
def isBreak (c : Char) : Bool :=
  c == '\n' || c == '\r' || c == '\x85' || c == '\u2028' || c == '\u2029'

/-- A break or the end. -/
def isBreakOrEnd (c : Char) : Bool := isBreak c || c == endMark

/-- A space, a break or the end. -/
def isSpaceOrEnd (c : Char) : Bool := c == ' ' || isBreakOrEnd c

/-- A space, a tab, a break or the end. -/
def isBlankOrEnd (c : Char) : Bool := c == '\t' || isSpaceOrEnd c

/-- A space or a tab. -/
def isSpaceOrTab (c : Char) : Bool := c == ' ' || c == '\t'

/-- ASCII letters, digits, hyphen and low line. -/
def isWord (c : Char) : Bool :=
  ('0' ≤ c && c ≤ '9') || ('A' ≤ c && c ≤ 'Z') || ('a' ≤ c && c ≤ 'z') || c == '-' || c == '_'

namespace Cursor

/-- The start of a text. -/
def start (s : Source) : Cursor := ⟨s.chars, s.stop, s.chars.length, 0, 0, 0⟩

/-- The place behind the next character.  A byte-order mark takes no column. -/
def next (c : Cursor) : Cursor :=
  match c.rest with
  | [] => c
  | ch :: rest =>
    let c := { c with rest, index := c.index + 1 }
    if isBreak ch && !(ch == '\r' && rest.head? == some '\n') then
      { c with line := c.line + 1, column := 0 }
    else if ch == '\uFEFF' then c
    else { c with column := c.column + 1 }

/-- The place `n` characters ahead. -/
def advance (c : Cursor) : Nat → Cursor
  | 0 => c
  | n + 1 => c.next.advance n

end Cursor

/-- Reading from a place on. -/
abbrev Scan := StateT Cursor (Except Trouble)

/-- Characters that form no token. -/
def noToken {m : Type → Type} {α : Type} [MonadExcept Trouble m] : m α := throw (.malformed .tokens)

namespace Scan

/-- The character `n` places ahead. -/
def peek (n : Nat) : Scan Char := do
  let c ← get
  match c.rest[n]?, c.stop with
  | some ch, _ => return ch
  | none, none => return endMark
  | none, some e => throw e

/-- The next character. -/
def head : Scan Char := peek 0

/-- The next `n` characters, or all that there are. -/
def ahead (n : Nat) : Scan (List Char) := do
  unless n = 0 do discard (peek (n - 1))
  return (← get).rest.take n

/-- The place moved by `n` characters, to where there has to be a character or the end. -/
def advance (n : Nat) : Scan Unit := do
  modify fun c => c.advance n
  discard head

/-- The place moved by one character. -/
def next : Scan Unit := do
  modify Cursor.next
  discard head

/-- The next `n` characters, of which none is beyond the end. -/
def taking (n : Nat) : Scan (List Char) := do
  let taken := (← get).rest.take n
  advance n
  return taken

/-- The characters of a class that lie ahead. -/
def span (p : Char → Bool) : Scan (List Char) := do
  let taken := (← get).rest.takeWhile p
  advance taken.length
  return taken

/-- The characters of a class passed over. -/
def skip (p : Char → Bool) : Scan Unit := do
  discard (span p)

/-- The column of the place. -/
def column : Scan Nat := return (← get).column

/-- A bound for the steps that reading may take, each over one character at least. -/
def bound : Scan Nat := return (← get).size + 1

/-- The break ahead as it counts in text.  The two separators of Unicode stand for themselves, the
other breaks for a line feed. -/
def lineBreak : Scan (List Char) := do
  let ch ← head
  if ch == '\u2028' || ch == '\u2029' then
    next
    return [ch]
  else if isBreak ch then
    if (← ahead 2) = ['\r', '\n'] then advance 2 else next
    return ['\n']
  else return []

/-- Spaces and a comment passed over. -/
def skipSpacesAndComment : Scan Unit := do
  skip (· == ' ')
  if (← head) == '#' then skip fun ch => !isBreak ch

/-- Whether the line begins with the mark between documents or the mark at the end of one. -/
def isAtDocumentMark : Scan Bool := do
  match ← ahead 3 with
  | [a, b, d] =>
    if a == b && b == d && (a == '-' || a == '.') then return isBlankOrEnd (← peek 3)
    else return false
  | _ => return false

end Scan

end Denylist.Yaml
