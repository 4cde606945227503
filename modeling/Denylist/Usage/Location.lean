import Denylist.Validation

/-!
# Locations

A place in the analysed sources: a file under the name the facts give it, a line and a column.  The
analysis only passes locations on and sorts by them.
-/

namespace Denylist

/-- A place in a source file; line and column count from one. -/
structure Location where
  /-- The file. -/
  file : String
  /-- The line. -/
  line : Nat
  /-- The column. -/
  column : Nat
  /-- The file has a name. -/
  file_ne : file ≠ ""
  /-- Lines count from one. -/
  line_pos : 0 < line
  /-- Columns count from one. -/
  column_pos : 0 < column
deriving DecidableEq

namespace Location

/-- File, line and column, joined by colons. -/
def text (l : Location) : String :=
  l.file ++ ":" ++ toString l.line ++ ":" ++ toString l.column

/-- Whether a location can be written out. -/
def isWritable (l : Location) : Bool :=
  (Scalar.int l.line).isWritable && (Scalar.int l.column).isWritable

/-- The names of the fields of a location, in their order. -/
def fieldNames : List String := ["file", "line", "column"]

/-- A location from its fields and the issues of whatever stands beside them. -/
def ofChecked (file : Checked { s : String // s ≠ "" }) (line column : Checked { n : Nat // 0 < n })
    (others : List Issue) : Checked Location :=
  match file, line, column, others with
  | .ok f, .ok n, .ok c, [] => .ok ⟨f.1, n.1, c.1, f.2, n.2, c.2⟩
  | f, n, c, l => .error (f.issues ++ n.issues ++ c.issues ++ l)

/-- The location that a table describes; a missing column is the first. -/
def read (d : Document) : Checked Location :=
  match readTable "Location" d with
  | .error l => .error l
  | .ok ms =>
    ofChecked (requiredField "file" readNonempty ms) (requiredField "line" readPositive ms)
      (readField "column" readPositive (.ok ⟨1, by decide⟩) ms)
      (unexpectedMembers fieldNames ms)

end Location

end Denylist
