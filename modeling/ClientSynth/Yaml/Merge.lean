import ClientSynth.Yaml.Node

/-!
# Merge keys and default values

Two keys of a mapping are not keys of what it stands for. The value of `<<` is a mapping whose pairs
are put before its own, or a sequence of such mappings, of which the first one's pairs come last.
The value of `=` is the text of the mapping where a text is wanted; elsewhere it is an ordinary key.
`mergeInto` settles both for one mapping, and `scalarText` gives the text of a node.
-/

namespace ClientSynth.Yaml

namespace Nodes

/-- The pairs of a mapping. -/
def pairs (nodes : Nodes) (number : Nat) : List (Nat × Nat) :=
  match (nodes.node number).content with
  | .mapping pairs => pairs
  | _ => []

/-- Whether a node is a mapping. -/
def isMapping (nodes : Nodes) (number : Nat) : Bool :=
  match (nodes.node number).content with
  | .mapping _ => true
  | _ => false

/-- The number of pairs in all mappings. -/
def pairCount (nodes : Nodes) : Nat :=
  nodes.toArray.foldl (fun n node => match node.content with
    | .mapping pairs => n + pairs.length
    | _ => n) 0

/-- The text of a scalar, or of the value at the key `=` of a mapping, through at most so many
mappings. -/
def scalarText (nodes : Nodes) : Nat → Nat → Except Fault String
  | 0, _ => .error .endlessText
  | n + 1, number =>
    match (nodes.node number).content with
    | .scalar text => .ok text
    | .sequence _ => .error .malformed
    | .mapping pairs =>
      match pairs.find? fun p => (nodes.node p.1).tag = .value with
      | some (_, value) => nodes.scalarText n value
      | none => .error .malformed

/-- The value of the first key `<<` among pairs, and the other pairs. -/
def splitMerge? (nodes : Nodes) : List (Nat × Nat) → Option (Nat × List (Nat × Nat))
  | [] => none
  | (key, value) :: rest =>
    if (nodes.node key).tag = .merge then some (value, rest)
    else (nodes.splitMerge? rest).map fun (found, others) => (found, (key, value) :: others)

/-- Makes texts of the keys `=` among pairs. -/
def settleKeys (nodes : Nodes) (pairs : List (Nat × Nat)) : Nodes :=
  pairs.foldl (fun (nodes : Nodes) (key, _) =>
    if (nodes.node key).tag = .value then nodes.retag key .text else nodes) nodes

mutual

/-- Replaces the keys `<<` of a mapping, of which there are at most so many, by the pairs that they
merge, after some that were merged before. The key is gone before its value is looked at, so that a
mapping may merge itself. -/
def mergeInto (number : Nat) (merged : List (Nat × Nat)) (nodes : Nodes) :
    Nat → Except Fault Nodes
  | 0 => .ok nodes
  | n + 1 =>
    let pairs := nodes.pairs number
    match nodes.splitMerge? pairs with
    | none => .ok ((nodes.settleKeys pairs).put number (.mapping (merged ++ pairs)))
    | some (value, others) => do
      let (front, nodes) ← mergeValue value (nodes.put number (.mapping others)) n
      mergeInto number (merged ++ front) nodes n

/-- The pairs that the value of a key `<<` merges. -/
def mergeValue (value : Nat) (nodes : Nodes) : Nat → Except Fault (List (Nat × Nat) × Nodes)
  | 0 => .ok ([], nodes)
  | n + 1 =>
    match (nodes.node value).content with
    | .scalar _ => .error .malformed
    | .mapping _ => (mergeInto value [] nodes n).map fun nodes => (nodes.pairs value, nodes)
    | .sequence items =>
      items.foldlM (fun (front, (nodes : Nodes)) item =>
        if nodes.isMapping item then
          (mergeInto item [] nodes n).map fun nodes => (nodes.pairs item ++ front, nodes)
        else .error .malformed) ([], nodes)

end

end Nodes

end ClientSynth.Yaml
