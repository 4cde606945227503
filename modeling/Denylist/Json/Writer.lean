import Denylist.Document.Shown
import Denylist.Text.Quoted

/-!
# Writing JSON

A document as JSON text, on one line or with each item and member on a line of its own.  Control
characters, the quote and the backslash are escaped; on request so is everything beyond ASCII, a
character outside the first plane as the two halves of its surrogate pair.
-/

namespace Denylist.Json

/-- How a document is laid out as text. -/
structure Layout where
  /-- Blanks per level, or one line for the whole document. -/
  indent : Option Nat
  /-- Whether characters beyond ASCII are escaped. -/
  asciiOnly : Bool
deriving DecidableEq, Repr

/-- An escape by number, with four hexadecimal digits. -/
def unicodeEscaped (n : Nat) : List Char := '\\' :: 'u' :: Text.hexPadded 4 n

/-- A character inside a JSON string. -/
def escapeChar (asciiOnly : Bool) (c : Char) : List Char :=
  if c = '"' then ['\\', '"']
  else if c = '\\' then ['\\', '\\']
  else if c = '\n' then ['\\', 'n']
  else if c = '\r' then ['\\', 'r']
  else if c = '\t' then ['\\', 't']
  else if c = '\x08' then ['\\', 'b']
  else if c = '\x0c' then ['\\', 'f']
  else if c.toNat < 0x20 then unicodeEscaped c.toNat
  else if asciiOnly && 0x7F ≤ c.toNat then
    if c.toNat < 0x10000 then unicodeEscaped c.toNat
    else
      let n := c.toNat - 0x10000
      unicodeEscaped (0xD800 + n / 0x400) ++ unicodeEscaped (0xDC00 + n % 0x400)
  else [c]

/-- A text as a JSON string. -/
def writeText (asciiOnly : Bool) (s : String) : List Char :=
  '"' :: s.toList.flatMap (escapeChar asciiOnly) ++ ['"']

/-- A double as a JSON number, or as the word for what is none. -/
def writeFloat (x : Float) : List Char :=
  match Decimal.Parts.ofFloat x with
  | .nan => ['N', 'a', 'N']
  | .infinity negative =>
    (if negative then ['-'] else []) ++ ['I', 'n', 'f', 'i', 'n', 'i', 't', 'y']
  | _ => (Decimal.ofFloat x).toList

/-- A scalar as JSON; what JSON has no form for is written as a string. -/
def writeScalar (asciiOnly : Bool) : Scalar → List Char
  | .null => ['n', 'u', 'l', 'l']
  | .bool b => if b then ['t', 'r', 'u', 'e'] else ['f', 'a', 'l', 's', 'e']
  | .int n => (toString n).toList
  | .float x => writeFloat x
  | s => writeText asciiOnly s.shown

/-- The name a scalar has as the key of a member. -/
def keyName : Scalar → String
  | .null => "null"
  | .bool b => if b then "true" else "false"
  | s => s.shown

namespace Layout

/-- What stands in front of an item at a level. -/
def lineBreak (layout : Layout) (level : Nat) : List Char :=
  match layout.indent with
  | none => []
  | some n => '\n' :: List.replicate (n * level) ' '

/-- What stands between two items at a level. -/
def between (layout : Layout) (level : Nat) : List Char :=
  match layout.indent with
  | none => [',', ' ']
  | some _ => ',' :: layout.lineBreak level

mutual

/-- A document as JSON, nested `level` deep. -/
def writeAt (layout : Layout) (level : Nat) : Document → List Char
  | .scalar s => writeScalar layout.asciiOnly s
  | .list [] => ['[', ']']
  | .list (d :: ds) =>
    '[' :: layout.lineBreak (level + 1) ++ writeAt layout (level + 1) d ++
      writeItems layout (level + 1) ds ++ layout.lineBreak level ++ [']']
  | .pair a b =>
    '[' :: layout.lineBreak (level + 1) ++ writeAt layout (level + 1) a ++
      layout.between (level + 1) ++ writeAt layout (level + 1) b ++ layout.lineBreak level ++ [']']
  | .set ms => writeText layout.asciiOnly (Document.set ms).notated
  | .enclosing isTable => writeText layout.asciiOnly (Document.enclosing isTable).notated
  | .table [] => ['{', '}']
  | .table ((k, d) :: ms) =>
    '{' :: layout.lineBreak (level + 1) ++ writeText layout.asciiOnly (keyName k) ++ [':', ' '] ++
      writeAt layout (level + 1) d ++ writeMembers layout (level + 1) ms ++
      layout.lineBreak level ++ ['}']

/-- The items of a list after the first, each behind its separator. -/
def writeItems (layout : Layout) (level : Nat) : List Document → List Char
  | [] => []
  | d :: ds => layout.between level ++ writeAt layout level d ++ writeItems layout level ds

/-- The members of a table after the first, each behind its separator. -/
def writeMembers (layout : Layout) (level : Nat) : List (Scalar × Document) → List Char
  | [] => []
  | (k, d) :: ms =>
    layout.between level ++ writeText layout.asciiOnly (keyName k) ++ [':', ' '] ++
      writeAt layout level d ++ writeMembers layout level ms

end

/-- A document as JSON text. -/
def write (layout : Layout) (d : Document) : String := String.ofList (layout.writeAt 0 d)

end Layout

end Denylist.Json
