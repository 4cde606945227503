import Denylist.Calendar
import Denylist.Decimal.Shortest

/-!
# Decoded documents

What a config file or a fact file says once its notation is gone: scalars, lists, and tables that
keep the order of their members.  A table never holds the same key twice.  A later member with the
key of an earlier one takes that one's place, and numbers that are equal are the same key, whether
written as truth value, integer or floating-point number.

A collection may contain itself in some notations.  There a document goes as deep as anyone looks,
and then says that an enclosing collection stands there once more.
-/

namespace Denylist

/-- A value without parts. -/
inductive Scalar where
  /-- No value. -/
  | null
  /-- A truth value. -/
  | bool (b : Bool)
  /-- An integer of any size. -/
  | int (n : Int)
  /-- A floating-point number. -/
  | float (x : Float)
  /-- A text. -/
  | text (s : String)
  /-- Octets. -/
  | binary (bytes : List UInt8)
  /-- A calendar day. -/
  | date (d : Date)
  /-- A time of day. -/
  | time (t : TimeOfDay)
  /-- A moment. -/
  | moment (m : Moment)

/-- A decoded document. -/
inductive Document where
  /-- A value without parts. -/
  | scalar (s : Scalar)
  /-- A list. -/
  | list (items : List Document)
  /-- A key with its value, as an ordered mapping lists them. -/
  | pair (key value : Document)
  /-- A set, with its members in the order in which it lists them. -/
  | set (members : List Scalar)
  /-- A table with its members in order. -/
  | table (members : List (Scalar × Document))
  /-- A collection that encloses this place, a table or a list. -/
  | enclosing (isTable : Bool)

namespace Scalar

/-- The number a scalar counts as in a key, if it is one: mantissa and power of two. -/
def number? : Scalar → Option (Int × Int)
  | .bool b => some (if b then 1 else 0, 0)
  | .int n => some (n, 0)
  | .float x =>
    match Decimal.Parts.ofFloat x with
    | .finite negative m e _ => some (if negative then -m else m, e)
    | _ => none
  | _ => none

/-- Whether `m · 2 ^ e` and `n · 2 ^ f` are the same number. -/
def sameNumber (a b : Int × Int) : Bool :=
  let low := min a.2 b.2
  a.1 * Decimal.pow2 (a.2 - low) == b.1 * Decimal.pow2 (b.2 - low)

/-- Whether two scalars are the same key. -/
def same (a b : Scalar) : Bool :=
  match a, b with
  | .null, .null => true
  | .text s, .text t => s == t
  | .binary s, .binary t => s == t
  | .date s, .date t => s == t
  | .time s, .time t => s == t
  | .moment s, .moment t => s.same t
  | .float x, .float y => x == y
  | .bool b, .bool c => b == c
  | .int m, .int n => m == n
  | a, b =>
    match a.number?, b.number? with
    | some x, some y => sameNumber x y
    | _, _ => false

/-- The text of a scalar that is one. -/
def text? : Scalar → Option String
  | .text s => some s
  | _ => none

end Scalar

namespace Document

/-- The document of no value. -/
def null : Document := .scalar .null

/-- A text as a document. -/
def text (s : String) : Document := .scalar (.text s)

/-- An integer as a document. -/
def int (n : Int) : Document := .scalar (.int n)

/-- A truth value as a document. -/
def bool (b : Bool) : Document := .scalar (.bool b)

/-- A text, or no value. -/
def ofText? (s : Option String) : Document := (s.map text).getD null

/-- An integer, or no value. -/
def ofInt? (n : Option Int) : Document := (n.map int).getD null

/-- The text of a document that is one. -/
def text? : Document → Option String
  | .scalar (.text s) => some s
  | _ => none

theorem eq_text_of_text?_eq_some {d : Document} {s : String} (h : d.text? = some s) :
    d = .text s := by
  unfold text? at h
  split at h
  · exact congrArg text (Option.some.inj h)
  · cases h

/-- The members of a document that is a table. -/
def members? : Document → Option (List (Scalar × Document))
  | .table ms => some ms
  | _ => none

/-- The items of a document that is a list. -/
def items? : Document → Option (List Document)
  | .list l => some l
  | _ => none

/-- Whether a document says nothing: no value, falsehood, zero, or a text or collection in which
there is nothing. -/
def isEmpty : Document → Bool
  | .scalar .null => true
  | .scalar (.bool b) => !b
  | .scalar (.int n) => n == 0
  | .scalar (.float x) => x == 0
  | .scalar (.text s) => s.isEmpty
  | .scalar (.binary bytes) => bytes.isEmpty
  | .list l => l.isEmpty
  | .set l => l.isEmpty
  | .table ms => ms.isEmpty
  | _ => false

/-- The name of the kind of value, as messages give it. -/
def typeName : Document → String
  | .scalar .null => "NoneType"
  | .scalar (.bool _) => "bool"
  | .scalar (.int _) => "int"
  | .scalar (.float _) => "float"
  | .scalar (.text _) => "str"
  | .scalar (.binary _) => "bytes"
  | .scalar (.date _) => "date"
  | .scalar (.time _) => "time"
  | .scalar (.moment _) => "datetime"
  | .list _ => "list"
  | .pair _ _ => "tuple"
  | .set _ => "set"
  | .table _ => "dict"
  | .enclosing isTable => if isTable then "dict" else "list"

end Document

/-! ### Members of a table -/

/-- The members with `key` bound to `value`, given which keys are the same: in place where the key
occurs, else at the end. -/
def putBy {κ α : Type} (same : κ → κ → Bool) (key : κ) (value : α) : List (κ × α) → List (κ × α)
  | [] => [(key, value)]
  | (k, v) :: rest =>
    if same k key then (k, value) :: rest else (k, v) :: putBy same key value rest

/-- Members as written, each key kept at its first place with its last value. -/
def mergeBy {κ α : Type} (same : κ → κ → Bool) (written : List (κ × α)) : List (κ × α) :=
  written.foldl (fun ms m => putBy same m.1 m.2 ms) []

/-- The member of a table under a text key. -/
def memberAt? {α : Type} (name : String) : List (Scalar × α) → Option α
  | [] => none
  | (.text s, v) :: rest => if s = name then some v else memberAt? name rest
  | _ :: rest => memberAt? name rest

/-- A table of the members as written. -/
def Document.ofMembers (written : List (Scalar × Document)) : Document :=
  .table (mergeBy Scalar.same written)

/-- A table with text keys, which are given without repetition. -/
def Document.ofFields (fields : List (String × Document)) : Document :=
  .table (fields.map fun f => (.text f.1, f.2))

/-- The member of a document under a text key, if the document is a table. -/
def Document.at? (name : String) : Document → Option Document
  | .table ms => memberAt? name ms
  | _ => none

end Denylist
