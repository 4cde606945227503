import Denylist.Text.Blank
import Denylist.Text.Cells
import Denylist.Text.Lines

/-!
# Setting text in lines

Text that is shown in a space of some width is broken between words.  A word that is wider than the
space is folded or runs over; a line that is still too wide is cut, with a mark if the text asks for
one.  Controls that would move the cursor are left out, and a tab leads to the next multiple of
eight.

* `sanitize` takes out the controls.
* `breaks` tells where the lines of a text begin.
* `wrap` sets a text.
-/

namespace Denylist.Console

open Text

/-- What happens to text that is too wide. -/
inductive Overflow where
  /-- It is carried on to the next line. -/
  | fold
  /-- It is cut, and a mark stands at the end. -/
  | ellipsis
deriving DecidableEq, Repr

/-- Where a line stands in its space. -/
inductive Alignment where
  /-- It begins at the left and is not filled up. -/
  | ragged
  /-- It begins at the left and is filled up. -/
  | left
  /-- It stands in the middle. -/
  | center
deriving DecidableEq, Repr

/-- How a text is set. -/
structure Style where
  /-- What happens to text that is too wide. -/
  overflow : Overflow
  /-- Where a line stands. -/
  alignment : Alignment
  /-- Whether lines are broken between words. -/
  breaksLines : Bool
deriving DecidableEq, Repr

/-- The style of text that stands by itself. -/
def paragraph : Style := ⟨.fold, .ragged, true⟩

/-! ### Controls and tabs -/

/-- Bell, backspace, vertical tab, form feed and carriage return. -/
def isCursorControl (c : Char) : Bool := [7, 8, 11, 12, 13].contains c.toNat

/-- The text without the controls that would move the cursor. -/
def sanitize (l : List Char) : List Char := l.filter fun c => !isCursorControl c

/-- The distance between tab stops. -/
def tabSize : Nat := 8

/-- The number of cells up to a tab stop, for a text of some cells. -/
def tabStop (cells : Nat) : Nat := (cells + tabSize - 1) / tabSize * tabSize

/-- A piece of text in front of a tab, with a blank for the tab and blanks up to the next stop. -/
def fillTab (p : List Char) : List Char :=
  let p := p ++ [' ']
  fill (tabStop (width p)) p

/-- The text with blanks up to the next stop for each tab, where the given pieces lie between tabs
and the text begins at a tab stop. -/
def joinTabs : List (List Char) → List Char
  | [] => []
  | [p] => p
  | p :: ps => fillTab p ++ joinTabs ps

/-- The line with blanks for its tabs. -/
def expandTabs (l : List Char) : List Char := joinTabs (piecesAt '\t' l)

/-! ### Breaking -/

/-- Whether no word begins between two characters. -/
def sameWord (a b : Char) : Bool := !(isBlank a && !isBlank b)

/-- The words of a line, each with the blanks behind it, and the first also with those in front.  A
line of blanks has none. -/
def words (l : List Char) : List (List Char) :=
  match l.splitBy sameWord with
  | [] => []
  | [g] => if g.all isBlank then [] else [g]
  | g :: h :: rest => if g.all isBlank then (g ++ h) :: rest else g :: h :: rest

/-- What is known on the way through the words of a line. -/
structure Progress where
  /-- The offsets at which new lines begin, the last one first. -/
  breaks : List Nat
  /-- The cells that are taken on the present line. -/
  filled : Nat
  /-- The offset of the next word. -/
  offset : Nat
deriving DecidableEq, Repr

/-- One more break, unless at the very beginning. -/
def breakAt (offset : Nat) (breaks : List Nat) : List Nat :=
  if offset = 0 then breaks else offset :: breaks

/-- The breaks in front of the pieces of a word, and the cells of the last piece. -/
def foldWord (offset : Nat) (breaks : List Nat) : List (List Char) → List Nat × Nat
  | [] => (breaks, 0)
  | [p] => (breakAt offset breaks, width p)
  | p :: ps => foldWord (offset + p.length) (breakAt offset breaks) ps

/-- The progress over one more word. -/
def placeWord (space : Nat) (o : Overflow) (s : Progress) (word : List Char) : Progress :=
  let next := s.offset + word.length
  let size := width (dropBlanksEnd word)
  if s.filled + size ≤ space then ⟨s.breaks, s.filled + width word, next⟩
  else if space < size then
    match o with
    | .fold =>
      let (breaks, filled) := foldWord s.offset s.breaks (chop space word)
      ⟨breaks, filled, next⟩
    | .ellipsis => ⟨breakAt s.offset s.breaks, width word, next⟩
  else if s.filled = 0 then ⟨s.breaks, s.filled, next⟩
  else ⟨breakAt s.offset s.breaks, width word, next⟩

/-- The offsets at which the lines of a text begin, but the first. -/
def breaks (space : Nat) (o : Overflow) (l : List Char) : List Nat :=
  ((words l).foldl (placeWord space o) ⟨[], 0, 0⟩).breaks.reverse

/-- The text cut at offsets, of which the first characters, as many as given, are gone. -/
def cutAt (gone : Nat) : List Nat → List Char → List (List Char)
  | [], l => [l]
  | n :: ns, l => l.take (n - gone) :: cutAt n ns (l.drop (n - gone))

/-! ### Setting -/

/-- The text without the blanks at its end that are too many for a number of characters. -/
def dropExcessBlanks (n : Nat) (l : List Char) : List Char :=
  l.take (l.length - min (l.length - n) (l.length - (dropBlanksEnd l).length))

/-- The line cut to a number of cells. -/
def cutLine (o : Overflow) (space : Nat) (l : List Char) : List Char :=
  match o with
  | .fold => crop space l
  | .ellipsis => abbreviate space l

/-- The line in its place. -/
def alignLine (s : Style) (space : Nat) (l : List Char) : List Char :=
  match s.alignment with
  | .ragged => cutLine s.overflow space l
  | .left => if width l < space then fill space l else cutLine s.overflow space l
  | .center =>
    let l := cutLine s.overflow space (dropBlanksEnd l)
    fill space (List.replicate ((space - width l) / 2) ' ' ++ l)

/-- The lines of a text without line feeds. -/
def setLine (s : Style) (space : Nat) (l : List Char) : List (List Char) :=
  let l := expandTabs l
  let ls := if s.breaksLines then cutAt 0 (breaks space s.overflow l) l else [l]
  ls.map fun l => alignLine s space (dropExcessBlanks space l)

/-- The lines of a text in a space of some width. -/
def wrap (s : Style) (space : Nat) (l : List Char) : List (List Char) :=
  (lines l).flatMap (setLine s space)

/-- The lines of a text that is printed as it is, whatever the width of the console. -/
def unwrapped (l : List Char) : List (List Char) := (lines l).map expandTabs

end Denylist.Console
