import Denylist.Yaml.Lexer
import Denylist.Yaml.Tag

/-!
# YAML nodes

Nodes are read off the tokens: scalars, sequences and mappings, each with a tag.  The nodes of a
text stand in a table and are told by their places there, so an alias is simply the number of the
node of its anchor, and a collection may contain itself.  A stream has at most one document.

Who reads tokens asks for them one at a time, so a text that breaks off fails only where the missing
token is asked for.
-/

namespace Denylist.Yaml

/-- What a node consists of.  Other nodes are told by their numbers. -/
inductive Content where
  /-- A text. -/
  | scalar (text : String)
  /-- Items in order. -/
  | sequence (items : List Nat)
  /-- Keys and values in order. -/
  | mapping (pairs : List (Nat × Nat))
deriving DecidableEq, Repr

/-- A node. -/
structure Node where
  /-- What it claims to be. -/
  tag : Tag
  /-- What it consists of. -/
  content : Content
deriving DecidableEq, Repr

/-- The nodes of a document. -/
structure Graph where
  /-- The nodes by number. -/
  nodes : Array Node
  /-- The number of the root. -/
  root : Nat
  /-- The collections in the order in which they end in the text. -/
  collections : List Nat

namespace Node

/-- A scalar without text or properties. -/
def empty : Node := ⟨.null, .scalar ""⟩

/-- The node with a number. -/
def ofNumber (nodes : Array Node) (number : Nat) : Node := nodes.getD number empty

/-- The state of reading. -/
structure Reader where
  /-- The tokens ahead. -/
  tokens : List Token
  /-- What stops whoever asks for more. -/
  stop : Trouble
  /-- The nodes so far.  A collection has a number before what it contains. -/
  nodes : Array Node
  /-- The anchors so far and the numbers of their nodes. -/
  anchors : List (String × Nat)
  /-- The handles of tags and what they are short for. -/
  handles : List (String × String)
  /-- The collections that are complete, the last one first. -/
  complete : List Nat

/-- Reading from the tokens ahead. -/
abbrev ReadM := StateT Reader (Except Trouble)

/-- Tokens in an order that makes no node. -/
def disordered {α : Type} : ReadM α := throw (.malformed .order)

/-- The next token. -/
def peek : ReadM Token := do
  let r ← get
  match r.tokens with
  | t :: _ => return t
  | [] => throw r.stop

/-- The next token taken. -/
def take : ReadM Unit := modify fun r => { r with tokens := r.tokens.drop 1 }

/-- A new node under an anchor, which must be new as well. -/
def add (anchor : Option String) (node : Node) : ReadM Nat := do
  let number := (← get).nodes.size
  if let some name := anchor then
    if (← get).anchors.any (·.1 == name) then throw (.malformed .references)
    modify fun r => { r with anchors := (name, number) :: r.anchors }
  modify fun r => { r with nodes := r.nodes.push node }
  return number

/-- What a collection consists of, now that it is complete. -/
def complete (number : Nat) (content : Content) : ReadM Unit :=
  modify fun r =>
    { r with
      nodes := r.nodes.modify number fun n => { n with content }
      complete := number :: r.complete }

/-- The node that an alias stands for. -/
def resolveAlias (name : String) : ReadM Nat := do
  match (← get).anchors.lookup name with
  | none => throw (.malformed .references)
  | some number => return number

/-- Anchor and tag in front of a node, in either order. -/
structure Properties where
  /-- The anchor. -/
  anchor : Option String
  /-- The tag, by its full name. -/
  tag : Option String

/-- The full name of a tag. -/
def tagName (handle : Option String) (suffix : String) : ReadM String := do
  match handle with
  | none => return suffix
  | some h =>
    match (← get).handles.lookup h with
    | some expansion => return expansion ++ suffix
    | none => disordered

/-- A tag, if the next token is one. -/
def tagAhead : ReadM (Option (Option String × String)) := do
  match ← peek with
  | .tag handle suffix => do take; return some (handle, suffix)
  | _ => return none

/-- An anchor, if the next token is one. -/
def anchorAhead : ReadM (Option String) := do
  match ← peek with
  | .anchor name => do take; return some name
  | _ => return none

/-- Anchor and tag in front of a node. -/
def properties : ReadM Properties := do
  let first ← anchorAhead
  let tag ← tagAhead
  let anchor ← if first.isNone && tag.isSome then anchorAhead else pure first
  match tag with
  | none => return ⟨anchor, none⟩
  | some (handle, suffix) => return ⟨anchor, some (← tagName handle suffix)⟩

/-- The tag of a scalar. -/
def scalarTag (name : Option String) (plain : Bool) (text : String) : Tag :=
  match name with
  | none => if plain then .ofPlain text else .str
  | some "!" => .ofPlain text
  | some n => .ofName n

/-- The tag of a collection. -/
def collectionTag (name : Option String) (default : Tag) : Tag :=
  match name with
  | none => default
  | some "!" => default
  | some n => .ofName n

/-- A scalar with properties. -/
def addScalar (p : Properties) (plain : Bool) (text : String) : ReadM Nat :=
  add p.anchor ⟨scalarTag p.tag plain text, .scalar text⟩

/-- A sequence with properties, of the items that are read. -/
def addSequence (p : Properties) (items : ReadM (List Nat)) : ReadM Nat := do
  let number ← add p.anchor ⟨collectionTag p.tag .seq, .sequence []⟩
  complete number (.sequence (← items))
  return number

/-- A mapping with properties, of the keys and values that are read. -/
def addMapping (p : Properties) (pairs : ReadM (List (Nat × Nat))) : ReadM Nat := do
  let number ← add p.anchor ⟨collectionTag p.tag .map, .mapping []⟩
  complete number (.mapping (← pairs))
  return number

/-- Where a node stands: whether block collections may begin there, and whether a sequence may stand
without indentation of its own. -/
structure Place where
  /-- Block collections may begin. -/
  block : Bool
  /-- A sequence needs no indentation. -/
  indentless : Bool

/-- The place of the items of a block sequence. -/
def Place.item : Place := ⟨true, false⟩

/-- The place of the keys and values of a block mapping. -/
def Place.member : Place := ⟨true, true⟩

/-- A place inside of brackets or braces. -/
def Place.flow : Place := ⟨false, false⟩

/-- Whether the next token is among the given ones. -/
def isAhead (l : List Token) : ReadM Bool := return l.contains (← peek)

mutual

/-- A node. -/
def read (place : Place) : Nat → ReadM Nat
  | 0 => disordered
  | fuel + 1 => do
    match ← peek with
    | .alias name => do
      take
      resolveAlias name
    | _ => do
      let p ← properties
      match ← peek, place.indentless, place.block with
      | .blockEntry, true, _ => addSequence p (indentlessItems fuel)
      | .scalar text plain, _, _ => do
        take
        addScalar p plain text
      | .openSequence, _, _ => do
        take
        addSequence p (flowItems true fuel)
      | .openMapping, _, _ => do
        take
        addMapping p (flowMembers true fuel)
      | .blockSequence, _, true => do
        take
        addSequence p (blockItems fuel)
      | .blockMapping, _, true => do
        take
        addMapping p (blockMembers fuel)
      | _, _, _ =>
        if p.anchor.isSome || p.tag.isSome then
          addScalar p (p.tag.isNone || p.tag == some "!") ""
        else disordered

/-- A node, or the empty scalar if the next token is among the given ones. -/
def readUnless (ends : List Token) (place : Place) : Nat → ReadM Nat
  | 0 => disordered
  | fuel + 1 => do
    if ← isAhead ends then add none empty else read place fuel

/-- The items of a block sequence. -/
def blockItems : Nat → ReadM (List Nat)
  | 0 => disordered
  | fuel + 1 => do
    match ← peek with
    | .blockEntry => do
      take
      let d ← readUnless [.blockEntry, .blockEnd] .item fuel
      return d :: (← blockItems fuel)
    | .blockEnd => do
      take
      return []
    | _ => disordered

/-- The items of a sequence without indentation of its own. -/
def indentlessItems : Nat → ReadM (List Nat)
  | 0 => disordered
  | fuel + 1 => do
    match ← peek with
    | .blockEntry => do
      take
      let d ← readUnless [.blockEntry, .key, .value, .blockEnd] .item fuel
      return d :: (← indentlessItems fuel)
    | _ => return []

/-- The value behind a key of a block mapping. -/
def blockValue : Nat → ReadM Nat
  | 0 => disordered
  | fuel + 1 => do
    match ← peek with
    | .value => do
      take
      readUnless [.key, .value, .blockEnd] .member fuel
    | _ => add none empty

/-- The keys and values of a block mapping. -/
def blockMembers : Nat → ReadM (List (Nat × Nat))
  | 0 => disordered
  | fuel + 1 => do
    match ← peek with
    | .key => do
      take
      let k ← readUnless [.key, .value, .blockEnd] .member fuel
      let v ← blockValue fuel
      return (k, v) :: (← blockMembers fuel)
    | .blockEnd => do
      take
      return []
    | _ => disordered

/-- The value behind a key inside of brackets or braces, where `close` ends the collection. -/
def flowValue (close : Token) : Nat → ReadM Nat
  | 0 => disordered
  | fuel + 1 => do
    match ← peek with
    | .value => do
      take
      readUnless [.flowEntry, close] .flow fuel
    | _ => add none empty

/-- The items of a sequence in brackets.  A key with a value is an item of its own, a mapping. -/
def flowItems (first : Bool) : Nat → ReadM (List Nat)
  | 0 => disordered
  | fuel + 1 => do
    if ← isAhead [.closeSequence] then
      take
      return []
    unless first do
      match ← peek with
      | .flowEntry => take
      | _ => disordered
    match ← peek with
    | .key => do
      take
      let d ← addMapping ⟨none, none⟩ do
        let k ← readUnless [.value, .flowEntry, .closeSequence] .flow fuel
        let v ← flowValue .closeSequence fuel
        return [(k, v)]
      return d :: (← flowItems false fuel)
    | .closeSequence => do
      take
      return []
    | _ => do
      let d ← read .flow fuel
      return d :: (← flowItems false fuel)

/-- The keys and values of a mapping in braces.  A node alone is a key without value. -/
def flowMembers (first : Bool) : Nat → ReadM (List (Nat × Nat))
  | 0 => disordered
  | fuel + 1 => do
    if ← isAhead [.closeMapping] then
      take
      return []
    unless first do
      match ← peek with
      | .flowEntry => take
      | _ => disordered
    match ← peek with
    | .key => do
      take
      let k ← readUnless [.value, .flowEntry, .closeMapping] .flow fuel
      let v ← flowValue .closeMapping fuel
      return (k, v) :: (← flowMembers false fuel)
    | .closeMapping => do
      take
      return []
    | _ => do
      let k ← read .flow fuel
      let v ← add none empty
      return (k, v) :: (← flowMembers false fuel)

end

/-! ### Documents -/

/-- The handles that need no directive. -/
def commonHandles : List (String × String) := [("!", "!"), ("!!", Tag.commonStart)]

/-- The directives ahead: whether a version was given, and the handles; the bound is their number.
-/
def directives : Nat → Bool → List (String × String) → ReadM (List (String × String))
  | 0, _, _ => disordered
  | fuel + 1, versioned, handles => do
    match ← peek with
    | .directive d => do
      take
      match d with
      | .version major _ => do
        if versioned || major != 1 then disordered
        directives fuel true handles
      | .handle name expansion => do
        if handles.any (·.1 == name) then disordered
        directives fuel versioned ((name, expansion) :: handles)
      | .other => directives fuel versioned handles
    | _ => return handles

/-- The marks behind documents taken; the bound is their number. -/
def skipEnds : Nat → ReadM Unit
  | 0 => return
  | fuel + 1 => do
    match ← peek with
    | .documentEnd => do
      take
      skipEnds fuel
    | _ => return

/-- The opening of a document with a mark before it. -/
def openDocument (fuel : Nat) : ReadM Unit := do
  let handles ← directives fuel false []
  match ← peek with
  | .documentStart => do
    take
    modify fun r => { r with handles := handles ++ commonHandles }
  | _ => disordered

/-- The root of a document behind its mark. -/
def explicitRoot (fuel : Nat) : ReadM Nat := do
  match ← peek with
  | .directive _ | .documentStart | .documentEnd | .streamEnd => add none empty
  | _ => read .item fuel

/-- Nothing but the end of the stream, possibly behind marks; a further document is refused. -/
def endStream (fuel : Nat) : ReadM Unit := do
  skipEnds fuel
  match ← peek with
  | .streamEnd => return
  | _ => do
    openDocument fuel
    throw (.malformed .references)

/-- The root of the only document, if there is one. -/
def readStream (fuel : Nat) : ReadM (Option Nat) := do
  let explicit (fuel : Nat) : ReadM (Option Nat) := do
    skipEnds fuel
    match ← peek with
    | .streamEnd => return none
    | _ => do
      openDocument fuel
      let root ← explicitRoot fuel
      endStream fuel
      return some root
  match ← peek with
  | .directive _ | .documentStart | .streamEnd => explicit fuel
  | _ => do
    modify fun r => { r with handles := commonHandles }
    let root ← read .item fuel
    endStream fuel
    return some root

end Node

/-- The document that tokens make. -/
def Graph.ofTokens? (t : Lexer.Tokens) : Except Trouble (Option Graph) :=
  let r : Node.Reader := ⟨t.items, t.stop, #[], [], Node.commonHandles, []⟩
  ((Node.readStream (4 * t.items.length + 8)).run r).map fun (root, r) =>
    root.map fun n => ⟨r.nodes, n, r.complete.reverse⟩

end Denylist.Yaml
