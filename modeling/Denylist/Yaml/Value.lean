import Denylist.Document.SetOrder
import Denylist.Yaml.Merge
import Denylist.Yaml.Scalars

/-!
# Documents of YAML nodes

A node stands for a document according to its tag.  Collections are filled level by level: what
those of one depth contain is looked at before anything deeper is.  A node is looked at once, also
where several aliases lead to it.  The first trouble on the way ends it all.

* `fillAll` looks at all nodes that belong to the document.
* `Graph.toDocument` puts the document together from what was found.  Collections that do not
  contain themselves are put together once each.
-/

namespace Denylist.Yaml

/-- A scalar as a key.  A number that is no number differs even from itself, but it is the same key
where it comes from the same node. -/
structure Key where
  /-- The scalar. -/
  scalar : Scalar
  /-- Its node, or none for the number that `.nan` names, which is one and the same everywhere. -/
  origin : Option Nat

/-- Whether two keys of a mapping are the same. -/
def Key.same (a b : Key) : Bool := a.origin == b.origin || a.scalar.same b.scalar

/-- What is known while collections are being filled. -/
structure Filling where
  /-- The nodes, merged as far as that was done. -/
  nodes : Array Node
  /-- The scalars found so far by the numbers of their nodes. -/
  keys : Array (Option Key)
  /-- Which collections were found. -/
  found : Array Bool
  /-- The collections that have to be filled, the last one first. -/
  ahead : List Nat

/-- Filling collections. -/
abbrev FillM := StateT Filling (Except Trouble)

namespace Node

/-- The text of a scalar, or that of the value under the key `=` of a mapping; the bound is the
depth of mappings. -/
def scalarText? (nodes : Array Node) : Nat → Nat → Option String
  | 0, _ => none
  | fuel + 1, number =>
    match (ofNumber nodes number).content with
    | .scalar text => some text
    | .mapping pairs =>
      match pairs.find? fun p => (ofNumber nodes p.1).tag == .value with
      | some (_, v) => scalarText? nodes fuel v
      | none => none
    | .sequence _ => none

/-- The scalar that a node stands for under a tag that scalars may have. -/
def scalarKey (nodes : Array Node) (tag : Tag) (number : Nat) : Except Trouble Key := do
  match scalarText? nodes (nodes.size + 1) number with
  | none => throw noValue
  | some text =>
    let scalar ← scalarValue tag text
    let isShared := tag == .float && isNanWord text.toList
    return ⟨scalar, if isShared then none else some number⟩

/-- A node looked at: a scalar gives its value, a collection has to be filled. -/
def lookAt (number : Nat) : FillM Unit := do
  let tag := (ofNumber (← get).nodes number).tag
  match tag with
  | .map | .set | .seq | .omap | .pairs => do
    unless (← get).found.getD number true do
      modify fun s =>
        { s with found := s.found.setIfInBounds number true, ahead := number :: s.ahead }
  | .merge | .value | .other => throw noValue
  | _ =>
    if ((← get).keys.getD number none).isNone then
      let key ← scalarKey (← get).nodes tag number
      modify fun s => { s with keys := s.keys.setIfInBounds number (some key) }

/-- The key of a pair looked at, which may not be a collection. -/
def lookAtKey (number : Nat) : FillM Unit := do
  match (ofNumber (← get).nodes number).tag with
  | .map | .set | .seq | .omap | .pairs => throw noValue
  | _ => lookAt number

/-- A change of the table of nodes while collections are being filled. -/
def changeNodes (change : MergeM Unit) : FillM Unit := fun s =>
  let nodes := s.nodes
  let s := { s with nodes := #[] }
  match change.run nodes with
  | .error e => .error e
  | .ok ((), nodes) => .ok ((), { s with nodes })

/-- What a collection contains looked at, from the first item on.  The number bounds the depth at
which mappings are merged into each other. -/
def fill (depth number : Nat) : FillM Unit := do
  let node := ofNumber (← get).nodes number
  match node.tag, node.content with
  | .seq, .sequence items => items.forM lookAt
  | .map, .mapping _ | .set, .mapping _ => do
    changeNodes (mergeFrom depth number 0 [])
    let pairs := (ofNumber (← get).nodes number).pairs
    pairs.forM fun p => do
      lookAtKey p.1
      lookAt p.2
  | .omap, .sequence items | .pairs, .sequence items =>
    items.forM fun item => do
      match (ofNumber (← get).nodes item).content with
      | .mapping [(k, v)] => do
        lookAt k
        lookAt v
      | _ => throw noValue
  | _, _ => throw noValue

/-- All collections ahead filled, and those found on the way; the number bounds the levels. -/
def fillAll (depth : Nat) : Nat → FillM Unit
  | 0 => return
  | fuel + 1 => do
    match (← get).ahead with
    | [] => return
    | level => do
      modify fun s => { s with ahead := [] }
      level.reverse.forM (fill depth)
      fillAll depth fuel

end Node

namespace Filling

/-- The scalar at a node, if it has one. -/
def key? (s : Filling) (number : Nat) : Option Key := s.keys.getD number none

/-- The document of a node, given those of the nodes that it contains. -/
def assemble? (s : Filling) (child : Nat → Option Document) (number : Nat) : Option Document := do
  let node := Node.ofNumber s.nodes number
  match node.tag, node.content with
  | .seq, .sequence items => return .list (← items.mapM child)
  | .map, .mapping pairs => do
    let members ← pairs.mapM fun p => do return (← s.key? p.1, ← child p.2)
    return .table ((mergeBy Key.same members).map fun m => (m.1.scalar, m.2))
  | .set, .mapping pairs => do
    let members ← pairs.mapM fun p => do return (← s.key? p.1, ())
    return .ofMemberList ((mergeBy Key.same members).map fun m => m.1.scalar)
  | .omap, .sequence items | .pairs, .sequence items => do
    let entries ← items.mapM fun item => do
      match (Node.ofNumber s.nodes item).content with
      | .mapping [(k, v)] => return .pair (← child k) (← child v)
      | _ => none
    return .list entries
  | _, _ => none

/-- The document of a node, if it is a scalar or among the documents known so far. -/
def known? (s : Filling) (documents : Array (Option Document)) (number : Nat) : Option Document :=
  match s.key? number with
  | some key => some (.scalar key.scalar)
  | none => documents.getD number none

/-- The documents of collections, each put together from those before it.  A collection that leads
back to itself has none. -/
def documents (s : Filling) (collections : List Nat) : Array (Option Document) :=
  collections.foldl
    (fun documents number =>
      documents.setIfInBounds number (s.assemble? (s.known? documents) number))
    (Array.replicate s.nodes.size none)

/-- The depth down to which a collection that contains itself is written out again.  The entries of
a list within a table stand there, and so do the fields of a place within a record; what is inside
of them is shown at most. -/
def writtenDepth : Nat := 2

/-- A node that stands inside of itself. -/
def enclosing (s : Filling) (number : Nat) : Document :=
  let tag := (Node.ofNumber s.nodes number).tag
  .enclosing (tag == .map || tag == .set)

/-- The document of a node at a depth.  `around` holds the collections that enclose the node from
the depth on where none is written out again; the bound is the length of a path. -/
def build? (s : Filling) (documents : Array (Option Document)) :
    Nat → Nat → List Nat → Nat → Option Document
  | 0, _, _, _ => none
  | fuel + 1, depth, around, number =>
    match s.known? documents number with
    | some d => some d
    | none =>
      if around.contains number then some (s.enclosing number)
      else
        let around := if depth < writtenDepth then [] else number :: around
        s.assemble? (build? s documents fuel (depth + 1) around) number

end Filling

/-- The document of a graph.  A path is at most as long as there are nodes, but for those that are
written out again. -/
def Graph.toDocument (g : Graph) : Except Trouble Document := do
  let size := g.nodes.size
  let start : Filling := ⟨g.nodes, Array.replicate size none, Array.replicate size false, []⟩
  let look : FillM Unit := do
    Node.lookAt g.root
    Node.fillAll (Node.mergeCount g.nodes + 1) (size + 1)
  let ((), s) ← look.run start
  let documents := s.documents g.collections
  match s.build? documents (size + Filling.writtenDepth + 2) 0 [] g.root with
  | some d => return d
  | none => throw noValue

end Denylist.Yaml
