import Denylist.Yaml.Node

/-!
# Merging YAML mappings

A mapping with a merge key gets the pairs of the mapping that is its value, or of all mappings in
the sequence that is.  They stand in front of its own pairs, and those of a later mapping in front
of those of an earlier one.  A pair under a merge key is gone from the table of nodes before its
value is looked at.  So each is merged once, also where a mapping is merged into itself, and what a
mapping gives is what the table says at that time.

* `mergeFrom` merges into one mapping.
* `mergeCount` bounds the depth at which mappings are merged into each other.
-/

namespace Denylist.Yaml

/-- A node that stands for no value. -/
def noValue : Trouble := .malformed .values

/-- A change of the table of nodes. -/
abbrev MergeM := StateT (Array Node) (Except Trouble)

namespace Node

/-- The pairs of a node, of which only a mapping has some. -/
def pairs (n : Node) : List (Nat × Nat) :=
  match n.content with
  | .mapping pairs => pairs
  | _ => []

/-- The pairs of the mapping with a number. -/
def pairsOf (number : Nat) : MergeM (List (Nat × Nat)) := return (ofNumber (← get) number).pairs

/-- New pairs for the mapping with a number. -/
def setPairs (number : Nat) (pairs : List (Nat × Nat)) : MergeM Unit :=
  modify fun nodes => nodes.modify number fun n => { n with content := .mapping pairs }

/-- The special key `=` made a text. -/
def valueKeyAsText (number : Nat) : MergeM Unit := do
  if (ofNumber (← get) number).tag == .value then
    modify fun nodes => nodes.modify number fun n => { n with tag := .str }

/-- The number of merge keys that pairs have. -/
def mergeKeys (nodes : Array Node) (pairs : List (Nat × Nat)) : Nat :=
  pairs.countP fun p => (ofNumber nodes p.1).tag == .merge

/-- The number of merge keys in all mappings. -/
def mergeCount (nodes : Array Node) : Nat :=
  nodes.foldl (fun count n => count + mergeKeys nodes n.pairs) 0

/-- What the merge keys of a mapping from a position on give is put in front of its pairs, after
what was merged before.  The bound exceeds the number of merge keys in all mappings. -/
def mergeFrom : Nat → Nat → Nat → List (Nat × Nat) → MergeM Unit
  | 0, _, _, _ => throw noValue
  | fuel + 1, number, position, merged => do
    let pairs ← pairsOf number
    let nodes ← get
    let (passed, ahead) :=
      (pairs.drop position).span fun p => (ofNumber nodes p.1).tag != .merge
    passed.forM fun p => valueKeyAsText p.1
    match ahead with
    | [] => unless merged = [] do setPairs number (merged ++ pairs)
    | (_, source) :: _ => do
      let position := position + passed.length
      setPairs number (pairs.eraseIdx position)
      let mergedPairs (number : Nat) : MergeM (List (Nat × Nat)) := do
        match (ofNumber (← get) number).content with
        | .mapping _ => do
          mergeFrom fuel number 0 []
          pairsOf number
        | _ => throw noValue
      match (ofNumber (← get) source).content with
      | .sequence items => do
        let parts ← items.mapM mergedPairs
        mergeFrom fuel number position (merged ++ parts.reverse.flatten)
      | _ => mergeFrom fuel number position (merged ++ (← mergedPairs source))

end Node

end Denylist.Yaml
