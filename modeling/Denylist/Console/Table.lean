import Denylist.Console.Columns
import Denylist.Console.Wrap

/-!
# Tables

A table of text cells for a console of some width.  A table with a frame has a heading row in a
heavier frame; a table without a frame has neither frame nor heading.  Each cell is set in the
width of its column less the padding on both sides; a cell without room for text stays blank.

* `Table.render` gives the lines, each at most as wide as the console.
-/

namespace Denylist.Console

open Text

/-- A column of a table. -/
structure Column where
  /-- The heading. -/
  heading : String
  /-- The width of its text, where that does not depend on the cells. -/
  fixed : Option Nat
  /-- Whether lines are broken between words. -/
  breaksLines : Bool
  /-- What happens to text that is too wide. -/
  overflow : Overflow
deriving DecidableEq, Repr

/-- A table. -/
structure Table where
  /-- The title above it. -/
  title : Option String
  /-- The columns. -/
  columns : List Column
  /-- The rows, with one text for each column. -/
  rows : List (List (List Char))
  /-- Whether it has a frame and a heading row. -/
  framed : Bool
  /-- The blanks on each side of a cell. -/
  padding : Nat
  /-- Whether it takes the whole width of the console. -/
  expands : Bool
deriving DecidableEq, Repr

/-- How the text of a column is set. -/
def Column.style (c : Column) : Style := ⟨c.overflow, .left, c.breaksLines⟩

namespace Table

/-! ### Widths -/

/-- Whether a character ends a line for the purpose of measuring. -/
def isLineEnd (c : Char) : Bool :=
  [0x0A, 0x0B, 0x0C, 0x0D, 0x1C, 0x1D, 0x1E, 0x85, 0x2028, 0x2029].contains c.toNat

/-- The width of the widest line of a text. -/
def textWidth (l : List Char) : Nat :=
  ((piecesBy isLineEnd l).map width).foldl max 0

/-- The cells of the columns: the heading, if it is shown, and what the rows hold. -/
def cells (t : Table) : List (Column × List (List Char)) :=
  t.columns.zipIdx.map fun (c, i) =>
    (c, (if t.framed then [c.heading.toList] else []) ++ t.rows.map fun row => (row[i]?).getD [])

/-- The cells that the frame takes of each line. -/
def frameWidth (t : Table) : Nat := if t.framed then t.columns.length + 1 else 0

/-- The width that a column asks for where there is room for the given number of cells. -/
def asked (t : Table) (room : Nat) (column : Column × List (List Char)) : Nat :=
  let text := column.1.fixed.getD ((column.2.map textWidth).foldl max 0)
  min room (text + 2 * t.padding)

/-- The widths of the columns on a console of some width. -/
def widths (t : Table) (console : Nat) : List Nat :=
  let room := console - t.frameWidth
  assign ⟨room, t.expands⟩
    (t.cells.map fun c => (t.asked room c, c.1.fixed.isNone && c.1.breaksLines))

/-! ### Rows -/

/-- A line as runs of text. -/
abbrev Runs := List (List Char)

/-- The lines of a cell of some width: the text between its paddings. -/
def cellLines (padding space : Nat) (c : Column) (text : List Char) : List Runs :=
  let inner := space - 2 * padding
  let blanks := List.replicate padding ' '
  if inner = 0 then []
  else (wrap c.style inner text).map fun l => cropRuns space [blanks, fit inner l, blanks]

/-- The lines of the cells of a row. -/
def rowCells (padding : Nat) : List Nat → List Column → List (List Char) → List (List Runs)
  | w :: ws, c :: cs, text :: row => cellLines padding w c text :: rowCells padding ws cs row
  | _, _, _ => []

/-- Where the text of a cell stands in a higher row. -/
inductive Placement where
  /-- At the top. -/
  | top
  /-- At the bottom. -/
  | bottom
deriving DecidableEq, Repr

/-- The lines of a cell filled up to a height. -/
def raise (p : Placement) (height space : Nat) (ls : List Runs) : List Runs :=
  let blanks := List.replicate (height - ls.length) [List.replicate space ' ']
  match p with
  | .top => ls ++ blanks
  | .bottom => blanks ++ ls

/-- The strokes of a line of the frame. -/
structure Strokes where
  /-- At the left end. -/
  left : List Char
  /-- Between columns. -/
  inner : List Char
  /-- At the right end. -/
  right : List Char

/-- No strokes. -/
def Strokes.none : Strokes := ⟨[], [], []⟩

/-- The parts of a line between its strokes. -/
def Strokes.join (s : Strokes) (parts : List Runs) : Runs :=
  [s.left] ++ [s.inner].intercalate parts ++ [s.right]

/-- The lines of a row. -/
def rowLines (p : Placement) (s : Strokes) (ws : List Nat) (cells : List (List Runs)) :
    List Runs :=
  let height := (cells.map List.length).foldl max 1
  let raised := List.zipWith (fun w ls => raise p height w ls) ws cells
  (List.range height).map fun i => s.join (raised.map fun ls => (ls[i]?).getD [])

/-- A line of the frame. -/
def rule (s : Strokes) (stroke : Char) (ws : List Nat) : Runs :=
  s.join (ws.map fun w => [List.replicate w stroke])

/-! ### Rendering -/

/-- The lines of the table, however wide they are. -/
def lines (t : Table) (ws : List Nat) : List Runs :=
  let body (s : Strokes) := t.rows.flatMap fun row =>
    rowLines .top s ws (rowCells t.padding ws t.columns row)
  if t.framed then
    let heading := rowCells t.padding ws t.columns (t.columns.map fun c => c.heading.toList)
    [rule ⟨['┏'], ['┳'], ['┓']⟩ '━' ws] ++
      rowLines .bottom ⟨['┃'], ['┃'], ['┃']⟩ ws heading ++
      [rule ⟨['┡'], ['╇'], ['┩']⟩ '━' ws] ++
      body ⟨['│'], ['│'], ['│']⟩ ++
      [rule ⟨['└'], ['┴'], ['┘']⟩ '─' ws]
  else body .none

/-- The lines of the title above a table of some width. -/
def titleLines (t : Table) (space : Nat) : List (List Char) :=
  match t.title with
  | some s => if space = 0 then [] else wrap ⟨.fold, .center, true⟩ space s.toList
  | none => []

/-- The lines of the table on a console of some width. -/
def render (t : Table) (console : Nat) : List (List Char) :=
  let ws := t.widths console
  (t.titleLines (sumOf ws + t.frameWidth)).map (crop console) ++
    (t.lines ws).map fun l => (cropRuns console l).flatten

end Table

end Denylist.Console
