import Denylist.Decimal.Numeral
import Denylist.Document.Shown
import Denylist.Kind
import Denylist.Text.Utf8

/-!
# Checking the fields of a table

Tables from outside are read field by field against what the domain asks for.  All defects are
reported, not only the first: those of the expected fields in the order of the fields, then the
members that nobody expects in the order in which they stand.

A text field takes texts, and octets that are UTF-8.  An integer field also takes a truth value, a
floating-point number that is whole and fits 64 bits, and a text in decimal notation.
-/

namespace Denylist

/-- What is wrong with a value. -/
inductive Defect where
  /-- A field that has to be there is not. -/
  | missing
  /-- Not a text. -/
  | notText
  /-- Octets that are no text. -/
  | notUtf8
  /-- A member that nobody expects. -/
  | unexpected
  /-- A key that is no text. -/
  | keyNotText
  /-- The empty text. -/
  | tooShort
  /-- A number below one. -/
  | belowOne
  /-- Not a table. -/
  | notTable (expected : String)
  /-- Not the name of a kind. -/
  | notKind
  /-- Not an integer. -/
  | notInteger
  /-- Not finite. -/
  | notFinite
  /-- Not whole. -/
  | fractional
  /-- Too large or too long for an integer. -/
  | tooLarge
  /-- A text that is no integer in decimal notation. -/
  | notNumeral
  /-- A value of the right type that breaks a rule of the domain. -/
  | rejected (problem : String)
deriving DecidableEq, Repr

/-- The words for a defect, without the mark of a broken rule. -/
def Defect.plain : Defect → String
  | .missing => "Field required"
  | .notText => "Input should be a valid string"
  | .notUtf8 => "Input should be a valid string, unable to parse raw data as a unicode string"
  | .unexpected => "Extra inputs are not permitted"
  | .keyNotText => "Keys should be strings"
  | .tooShort => "String should have at least 1 character"
  | .belowOne => "Input should be greater than or equal to 1"
  | .notTable expected => s!"Input should be a valid dictionary or instance of {expected}"
  | .notKind => "Input should be 'macro', 'method' or 'type'"
  | .notInteger => "Input should be a valid integer"
  | .notFinite => "Input should be a finite number"
  | .fractional => "Input should be a valid integer, got a number with a fractional part"
  | .tooLarge => "Unable to parse input string as an integer, exceeded maximum size"
  | .notNumeral => "Input should be a valid integer, unable to parse string as an integer"
  | .rejected problem => problem

/-- The words for a defect. -/
def Defect.message : Defect → String
  | .rejected problem => "Value error, " ++ problem
  | d => d.plain

/-- A defect and the keys that lead to it. -/
structure Issue where
  /-- The keys from the outermost table to the value. -/
  place : List String
  /-- What is wrong there. -/
  defect : Defect
deriving DecidableEq, Repr

/-- The keys that lead to an issue, joined by full stops. -/
def Issue.placeText (i : Issue) : String := ".".intercalate i.place

/-- A value read from a document, or all that is wrong with the document. -/
abbrev Checked (α : Type) := Except (List Issue) α

namespace Checked

/-- The one defect of a value. -/
def fail {α : Type} (d : Defect) : Checked α := .error [⟨[], d⟩]

/-- What is wrong, if anything. -/
def issues {α : Type} : Checked α → List Issue
  | .ok _ => []
  | .error l => l

/-- The same value, its issues placed under a key. -/
def under {α : Type} (key : String) : Checked α → Checked α
  | .ok a => .ok a
  | .error l => .error (l.map fun i => ⟨key :: i.place, i.defect⟩)

end Checked

/-! ### Texts -/

/-- A text field. -/
def readText : Document → Checked String
  | .scalar (.text s) => .ok s
  | .scalar (.binary bytes) =>
    match Text.utf8Text? bytes with
    | .ok s => .ok s
    | .error _ => Checked.fail .notUtf8
  | _ => Checked.fail .notText

/-- A text field that may not be empty. -/
def readNonempty (d : Document) : Checked { s : String // s ≠ "" } :=
  match readText d with
  | .error l => .error l
  | .ok s => if h : s ≠ "" then .ok ⟨s, h⟩ else Checked.fail .tooShort

/-- The name of a kind. -/
def readKind (d : Document) : Checked Kind :=
  match readText d with
  | .ok s => match Kind.ofName? s with
    | some k => .ok k
    | none => Checked.fail .notKind
  | .error _ => Checked.fail .notKind

/-! ### Integers -/

/-- The integer a text denotes in decimal notation. -/
def readIntegerText (s : String) : Checked Int :=
  match Numeral.read? s with
  | .ok n => .ok n
  | .error .malformed => Checked.fail .notNumeral
  | .error .tooLong => Checked.fail .tooLarge

/-- The integer a double is, provided it is whole and fits 64 bits with a sign. -/
def readIntegerFloat (x : Float) : Checked Int :=
  match Decimal.Parts.ofFloat x with
  | .finite negative m e _ =>
    let whole := m * Decimal.pow2 e / Decimal.pow2 (-e)
    if m * Decimal.pow2 e % Decimal.pow2 (-e) ≠ 0 then Checked.fail .fractional
    else if Decimal.pow2 63 ≤ whole then Checked.fail .tooLarge
    else .ok (if negative then -(whole : Int) else whole)
  | _ => Checked.fail .notFinite

/-- An integer field. -/
def readInteger : Document → Checked Int
  | .scalar (.int n) => .ok n
  | .scalar (.bool b) => .ok (if b then 1 else 0)
  | .scalar (.float x) => readIntegerFloat x
  | .scalar (.text s) => readIntegerText s
  | .scalar (.binary bytes) =>
    match Text.utf8Text? bytes with
    | .ok s => readIntegerText s
    | .error _ => Checked.fail .notNumeral
  | _ => Checked.fail .notInteger

/-- An integer field of at least one. -/
def readPositive (d : Document) : Checked { n : Nat // 0 < n } :=
  match readInteger d with
  | .error l => .error l
  | .ok n => if h : 0 < n.toNat then .ok ⟨n.toNat, h⟩ else Checked.fail .belowOne

/-! ### Tables -/

/-- The members of a table that is expected under a name. -/
def readTable (expected : String) : Document → Checked (List (Scalar × Document))
  | .table ms => .ok ms
  | _ => Checked.fail (.notTable expected)

/-- A field of a table; `absent` is the answer where the table has no such member. -/
def readField {α : Type} (name : String) (read : Document → Checked α) (absent : Checked α)
    (members : List (Scalar × Document)) : Checked α :=
  Checked.under name (match memberAt? name members with
    | some d => read d
    | none => absent)

/-- A field that has to be there. -/
def requiredField {α : Type} (name : String) (read : Document → Checked α)
    (members : List (Scalar × Document)) : Checked α :=
  readField name read (Checked.fail .missing) members

/-- A key as it is named in the place of an issue. -/
def keyPlace : Scalar → String
  | .text s => s
  | .bool b => if b then "1" else "0"
  | s => if s.isWritable then s.notated else s!"<unprintable {(Document.scalar s).typeName} object>"

/-- The issues of members outside the expected ones, in their order. -/
def unexpectedMembers (expected : List String) (members : List (Scalar × Document)) : List Issue :=
  members.filterMap fun m =>
    match m.1 with
    | .text s => if expected.contains s then none else some ⟨[s], .unexpected⟩
    | k => some ⟨[keyPlace k], .keyNotText⟩

end Denylist
