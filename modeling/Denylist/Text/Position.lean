/-!
# Positions in a text

A reader that fails holds the characters it has not consumed.  Their number, against the length of
the whole text, gives the offset of the failure; the offset gives line and column.
-/

namespace Denylist.Text

/-- A place in a text: line and column from one, offset from zero. -/
structure Position where
  /-- The line. -/
  line : Nat
  /-- The column. -/
  column : Nat
  /-- The number of characters before. -/
  offset : Nat
deriving DecidableEq, Repr

/-- The place reached from `line` and `column` over the given characters; only a line feed starts a
line. -/
def Position.after : Position → List Char → Position
  | p, [] => p
  | p, c :: l =>
    if c = '\n' then Position.after ⟨p.line + 1, 1, p.offset + 1⟩ l
    else Position.after ⟨p.line, p.column + 1, p.offset + 1⟩ l

/-- The place where the last `left` characters of a text begin. -/
def positionBefore (whole : List Char) (left : Nat) : Position :=
  Position.after ⟨1, 1, 0⟩ (whole.take (whole.length - left))

end Denylist.Text
