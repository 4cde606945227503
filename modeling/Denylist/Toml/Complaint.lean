import Denylist.Document.Shown
import Denylist.Fault
import Denylist.Text.Position

/-!
# What can be wrong with a TOML text

Every fault of a TOML text has a place, given as line and column or as the end of the document.  A
reader that fails keeps what was left of the text at that place.
-/

namespace Denylist.Toml

/-- A key: its parts between the dots. -/
abbrev Key := List String

/-- What is wrong at a place of a TOML text. -/
inductive Complaint where
  /-- A line that is neither key and value, nor a header, nor a comment. -/
  | statement
  /-- Something stands behind a statement. -/
  | lineEnd
  /-- The header of a table is not closed. -/
  | tableEnd
  /-- The header of an array of tables is not closed. -/
  | arrayEnd
  /-- A table is declared again. -/
  | declaredTwice (key : Key)
  /-- Something is added to an inline value. -/
  | fixed (key : Key)
  /-- A key is given a second value. -/
  | overwrite
  /-- A dotted key reaches into a table that was declared. -/
  | redefined (key : Key)
  /-- No equals sign follows a key. -/
  | equals
  /-- A key cannot begin here. -/
  | keyPart
  /-- An array is not closed. -/
  | openArray
  /-- An inline table is not closed. -/
  | openTable
  /-- A key occurs twice in an inline table. -/
  | duplicate (name : String)
  /-- A string is not closed. -/
  | openString
  /-- A backslash that begins no escape. -/
  | escape
  /-- Not the hexadecimal digits an escape needs. -/
  | hexadecimal
  /-- An escape for no character. -/
  | noCharacter
  /-- A character that may not stand in a string. -/
  | illegal (c : Char)
  /-- A character that may not stand in a literal string or a comment. -/
  | invalid (c : Char)
  /-- The end mark of a literal string is missing. -/
  | expected (mark : String)
  /-- A date that the calendar does not have. -/
  | date
  /-- No value begins here. -/
  | value
deriving DecidableEq, Repr

/-- The words for a complaint. -/
def Complaint.message : Complaint → String
  | statement => "Invalid statement"
  | lineEnd => "Expected newline or end of document after a statement"
  | tableEnd => "Expected ']' at the end of a table declaration"
  | arrayEnd => "Expected ']]' at the end of an array declaration"
  | declaredTwice key => "Cannot declare " ++ notatedTuple key ++ " twice"
  | fixed key => "Cannot mutate immutable namespace " ++ notatedTuple key
  | overwrite => "Cannot overwrite a value"
  | redefined key => "Cannot redefine namespace " ++ notatedTuple key
  | equals => "Expected '=' after a key in a key/value pair"
  | keyPart => "Invalid initial character for a key part"
  | openArray => "Unclosed array"
  | openTable => "Unclosed inline table"
  | duplicate name => "Duplicate inline table key " ++ Text.quoted name
  | openString => "Unterminated string"
  | escape => "Unescaped '\\' in a string"
  | hexadecimal => "Invalid hex value"
  | noCharacter => "Escaped character is not a Unicode scalar value"
  | illegal c => "Illegal character " ++ Text.quoted (String.singleton c)
  | invalid c => "Found invalid character " ++ Text.quoted (String.singleton c)
  | expected mark => "Expected " ++ Text.quoted mark
  | date => "Invalid date or datetime"
  | value => "Invalid value"

/-- Why reading stopped. -/
inductive Stop where
  /-- The text is not TOML, from the given rest on. -/
  | malformed (what : Complaint) (rest : List Char)
  /-- An integer has more digits than integers may have. -/
  | longInteger (digits : Nat)
deriving DecidableEq, Repr

/-- The outcome of reading a part of a text: what it denotes, and what follows it. -/
abbrev Reading (α : Type) := Except Stop (α × List Char)

/-- Reading that stops with a complaint about the text from `rest` on. -/
def complain {α : Type} (what : Complaint) (rest : List Char) : Except Stop α :=
  .error (.malformed what rest)

/-- Blanks within a line. -/
def isSpace (c : Char) : Bool := c == ' ' || c == '\t'

/-- The text from its first character that is no blank. -/
def skipSpace (l : List Char) : List Char := l.dropWhile isSpace

/-- Control characters other than the tab. -/
def isControl (c : Char) : Bool := (c.toNat < 32 && c != '\t') || c.toNat == 127

/-- Control characters other than the tab and the line feed. -/
def isControlInLines (c : Char) : Bool := isControl c && c != '\n'

end Denylist.Toml
