import Denylist.Toml.Complaint

/-!
# The tables of a TOML document

The document grows as its statements are read.  Marks on keys keep it from being changed where it
may not be: a *fixed* key holds an inline value, to which nothing can be added at any depth, and a
*declared* key has had its header, so that it cannot have another.
-/

namespace Denylist.Toml

/-- What a key is marked with. -/
inductive Mark where
  /-- The value is inline: it and all below it stay as they are. -/
  | fixed
  /-- The table has been declared. -/
  | declared
deriving DecidableEq, Repr

/-- The marks set so far, and those that count from the next header on. -/
structure Marks where
  /-- The marked keys. -/
  set : List (Key × Mark)
  /-- Keys that will be marked as declared. -/
  pending : List Key

namespace Marks

/-- No marks. -/
def none : Marks := ⟨[], []⟩

/-- Whether a key is marked; a fixed key also marks those below it. -/
def has (m : Marks) (key : Key) (mark : Mark) : Bool :=
  m.set.any fun p => p.2 == mark && (p.1 == key || (mark == .fixed && p.1.isPrefixOf key))

/-- One more mark. -/
def add (m : Marks) (key : Key) (mark : Mark) : Marks := { m with set := (key, mark) :: m.set }

/-- A mark that counts from the next header on. -/
def defer (m : Marks) (key : Key) : Marks := { m with pending := key :: m.pending }

/-- The deferred marks set. -/
def settle (m : Marks) : Marks := ⟨m.pending.map (fun k => (k, .declared)) ++ m.set, []⟩

/-- The marks of a key and of all below it taken away. -/
def clear (m : Marks) (key : Key) : Marks :=
  { m with set := m.set.filter fun p => !key.isPrefixOf p.1 }

end Marks

/-- The members of a table under construction. -/
abbrev Members := List (Scalar × Document)

/-- The last item of a list changed by a function that may fail. -/
def changeLast? (f : Document → Option Document) : List Document → Option (List Document)
  | [] => none
  | [d] => (f d).map ([·])
  | d :: e :: l => (changeLast? f (e :: l)).map (d :: ·)

/-- The members of the table that a value is or, if `throughLists`, ends with, changed by a function
that may fail. -/
def changeMembers? (throughLists : Bool) (f : Members → Option Members) : Document → Option Document
  | .table ms => (f ms).map .table
  | .list l =>
    if throughLists then
      (changeLast? (fun
        | .table ms => (f ms).map Document.table
        | _ => none) l).map .list
    else none
  | _ => none

/-- The value of a member changed by a function that may fail; a missing member begins as an empty
table. -/
def changeMember? (name : String) (f : Document → Option Document) : Members → Option Members
  | [] => (f (.table [])).map fun d => [(.text name, d)]
  | (k, d) :: ms =>
    if k.text? = some name then (f d).map fun d => (k, d) :: ms
    else (changeMember? name f ms).map ((k, d) :: ·)

/-- The table at a key changed; tables on the way are made where they are missing.  There is no
answer where something else than a table stands on the way. -/
def changeNest? (throughLists : Bool) (f : Members → Option Members) :
    Key → Members → Option Members
  | [], ms => f ms
  | name :: key, ms =>
    changeMember? name (changeMembers? throughLists (changeNest? throughLists f key)) ms

/-- The table at a key, made where it is missing. -/
def openNest? (key : Key) (ms : Members) : Option Members := changeNest? true some key ms

/-- One more empty table at the end of the list at a key, which is made where it is missing. -/
def appendNest? (key : Key) (ms : Members) : Option Members :=
  let last := key.getLast?.getD ""
  changeNest? true (fun inner =>
    match memberAt? last inner with
    | none => some (inner ++ [(.text last, .list [.table []])])
    | some _ => changeMember? last (fun
        | .list l => some (.list (l ++ [.table []]))
        | _ => none) inner) key.dropLast ms

/-- What setting a key to a value may end in. -/
inductive Placed where
  /-- The members with the value in place. -/
  | done (ms : Members)
  /-- Something else than a table stands on the way. -/
  | blocked
  /-- The key has a value. -/
  | taken

/-- The members with a key set to a value. -/
def place (throughLists : Bool) (key : Key) (value : Document) (ms : Members) : Placed :=
  let last := key.getLast?.getD ""
  match changeNest? throughLists some key.dropLast ms with
  | none => .blocked
  | some _ =>
    match changeNest? throughLists (fun inner =>
        if (memberAt? last inner).isSome then none else some (inner ++ [(.text last, value)]))
        key.dropLast ms with
    | some ms => .done ms
    | none => .taken

end Denylist.Toml
