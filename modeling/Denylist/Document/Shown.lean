import Denylist.Document.Basic
import Denylist.Text.Quoted

/-!
# Documents inside messages

How a value is shown where a message has to name it: texts as quoted literals, lists in brackets,
tables in braces, the absent value as `None`, and three full stops for what a collection holds where
it stands inside of itself.  An integer with too many digits cannot be shown at all.
-/

namespace Denylist

/-- A scalar as a message shows it. -/
def Scalar.notated : Scalar → String
  | .null => "None"
  | .bool b => if b then "True" else "False"
  | .int n => toString n
  | .float x => Decimal.ofFloat x
  | .text s => Text.quoted s
  | .binary bytes => Text.quotedBytes bytes
  | .date d => d.notated
  | .time t => t.notated
  | .moment m => m.notated

/-- Whether a scalar can be written out: an integer has to do with the digits that are allowed. -/
def Scalar.isWritable : Scalar → Bool
  | .int n => n.natAbs < Decimal.pow10 Decimal.maxDigits
  | _ => true

/-- A scalar as plain text: what `notated` gives, less the quotes of a text and the calls of
dates. -/
def Scalar.shown : Scalar → String
  | .text s => s
  | .date d => d.text
  | .time t => t.text
  | .moment m => m.text
  | s => s.notated

namespace Document

mutual

/-- A document as a message shows it. -/
def notated : Document → String
  | .scalar s => s.notated
  | .list l => "[" ++ ", ".intercalate (notatedItems l) ++ "]"
  | .pair a b => "(" ++ notated a ++ ", " ++ notated b ++ ")"
  | .set [] => "set()"
  | .set (m :: ms) => "\x7b" ++ ", ".intercalate ((m :: ms).map Scalar.notated) ++ "\x7d"
  | .table ms => "\x7b" ++ ", ".intercalate (notatedMembers ms) ++ "\x7d"
  | .enclosing isTable => if isTable then "\x7b...\x7d" else "[...]"

/-- The items of a list as a message shows them. -/
def notatedItems : List Document → List String
  | [] => []
  | d :: ds => notated d :: notatedItems ds

/-- The members of a table as a message shows them. -/
def notatedMembers : List (Scalar × Document) → List String
  | [] => []
  | (k, d) :: ds => (k.notated ++ ": " ++ notated d) :: notatedMembers ds

end

mutual

/-- Whether a document can be written out. -/
def isWritable : Document → Bool
  | .scalar s => s.isWritable
  | .list l => areWritable l
  | .pair a b => isWritable a && isWritable b
  | .set l => l.all Scalar.isWritable
  | .table ms => membersAreWritable ms
  | .enclosing _ => true

/-- Whether all items of a list can be written out. -/
def areWritable : List Document → Bool
  | [] => true
  | d :: ds => isWritable d && areWritable ds

/-- Whether all members of a table can be written out. -/
def membersAreWritable : List (Scalar × Document) → Bool
  | [] => true
  | (k, d) :: ds => k.isWritable && isWritable d && membersAreWritable ds

end

/-- A document as plain text: what `notated` gives, less the quotes of a text. -/
def shown : Document → String
  | .scalar s => s.shown
  | d => d.notated

end Document

/-- Texts as a tuple: in parentheses, with a comma after a single one. -/
def notatedTuple : List String → String
  | [] => "()"
  | [s] => "(" ++ Text.quoted s ++ ",)"
  | l => "(" ++ ", ".intercalate (l.map Text.quoted) ++ ")"

end Denylist
