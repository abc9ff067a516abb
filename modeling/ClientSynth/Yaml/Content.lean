import ClientSynth.Text.Quoted
import ClientSynth.Yaml.Merge
import ClientSynth.Yaml.Number

/-!
# What a YAML text holds

`parse` reads a text. Each node stands for one thing, however many aliases it has. Collections are
filled from the outside in: the collections that are found in one are filled after all those that
were found before them, and of two faults the one that shows first counts.
-/

namespace ClientSynth.Yaml

/-- What a node stands for, with the parts of a collection by their numbers. -/
inductive Meaning where
  | scalar (s : Scalar)
  | list (items : List Nat)
  | pairs (items : List (Nat × Nat))
  | map (entries : List (Scalar × Nat))
  | set (members : List Scalar)
  deriving Inhabited

/-- The state of finding out what nodes stand for. -/
structure Reckoning where
  nodes : Nodes
  /-- What is known, by the numbers of nodes. A collection that waits is known to be empty. -/
  known : Array (Option Meaning)
  /-- The collections that wait to be filled, latest first. -/
  waiting : List Nat
  /-- The number of keys `<<` is not above this. -/
  merges : Nat

/-- A step of finding out what nodes stand for. -/
abbrev Reckon := StateT Reckoning (Except Fault)

namespace Reckon

/-- Remembers what a node stands for. -/
def learn (number : Nat) (m : Meaning) : Reckon Unit :=
  modify fun s => { s with known := s.known.setIfInBounds number (some m) }

/-- A collection that waits to be filled. -/
def wait (number : Nat) (empty : Meaning) : Reckon Meaning := do
  modify fun s => { s with waiting := number :: s.waiting }
  pure empty

/-- The scalar that a node of a tag stands for. -/
def scalar (number : Nat) (tag : Tag) : Reckon Scalar := do
  let nodes := (← get).nodes
  if tag.isScalar then
    let text ← nodes.scalarText nodes.size.succ number
    if tag = .timestamp && nodes.isMapping number then throw .mappedTimestamp
    tag.scalar number text
  else throw .malformed

/-- What a node stands for, with its parts to be filled in later. -/
def meaning (number : Nat) : Reckon Meaning := do
  let s ← get
  match s.known.getD number none with
  | some m => pure m
  | none =>
    let m ← match (s.nodes.node number).tag with
      | .sequence => wait number (.list [])
      | .orderedMap | .pairs => wait number (.pairs [])
      | .mapping => wait number (.map [])
      | .set => wait number (.set [])
      | tag => (scalar number tag).map .scalar
    learn number m
    pure m

/-- The pair of a mapping of one pair. -/
def onePair (number : Nat) : Reckon (Nat × Nat) := do
  match ((← get).nodes.node number).content with
  | .mapping [(key, value)] =>
    let _ ← meaning key
    let _ ← meaning value
    pure (key, value)
  | _ => throw .malformed

/-- The entries of a mapping, whose keys are scalars. -/
def entries (number : Nat) : Reckon (List (Scalar × Nat)) := do
  let s ← get
  if !s.nodes.isMapping number then throw .malformed
  let nodes ← s.nodes.mergeInto number [] s.merges
  set { s with nodes }
  (nodes.pairs number).foldlM (fun table (key, value) => do
    match ← meaning key with
    | .scalar k =>
      let _ ← meaning value
      pure (insertEntry k value table)
    | _ => throw .malformed) []

/-- Fills a collection. -/
def fill (number : Nat) : Reckon Unit := do
  let node := (← get).nodes.node number
  let m ← match node.tag, node.content with
    | .sequence, .sequence items =>
      items.forM fun item => discard (meaning item)
      pure (.list items)
    | .orderedMap, .sequence items | .pairs, .sequence items =>
      (items.mapM onePair).map .pairs
    | .mapping, _ => (entries number).map .map
    | .set, _ => (entries number).map fun es => .set (es.map Prod.fst)
    | _, _ => throw .malformed
  learn number m

/-- Fills the collections that wait, and those found in them, in at most so many rounds. -/
def fillAll : Nat → Reckon Unit
  | 0 => pure ()
  | n + 1 => do
    let s ← get
    if !s.waiting.isEmpty then
      set { s with waiting := [] }
      s.waiting.reverse.forM fill
      fillAll n

end Reckon

/-- The value of a node that is within at most so many others, or `none` if it is within more. -/
def valueWithin (order : SetOrder) (known : Array (Option Meaning)) : Nat → Nat → Option Value
  | 0, _ => none
  | n + 1, number =>
    match (known.getD number none).getD default with
    | .scalar s => some (.scalar s)
    | .list items => do return .list (← items.mapM (valueWithin order known n))
    | .pairs items => do
      return .list (← items.mapM fun (a, b) => do
        return Value.pair (← valueWithin order known n a) (← valueWithin order known n b))
    | .map entries => do
      return .map (← entries.mapM fun (k, v) => do return (k, ← valueWithin order known n v))
    | .set members => some (.set (order.arrange members))

/-- The value that the outermost node of a document stands for. -/
def Graph.value (order : SetOrder) (g : Graph) : Except Fault Value := do
  let size := g.nodes.size
  let start : Reckoning := ⟨g.nodes, Array.replicate size none, [], 2 * g.nodes.pairCount + 2⟩
  let (outer, s) ← (do
    let outer ← Reckon.meaning g.root
    Reckon.fillAll size.succ
    pure outer).run start
  match valueWithin order s.known size.succ g.root with
  | some v => .ok v
  | none => .error (.endless (outer matches .map _))

/-- The value that a text holds, which is nothing if it has no document. -/
def parse (order : SetOrder) (text : String) : Except Fault Value := do
  match ← Graph.ofText? text.toList with
  | none => .ok .null
  | some g => g.value order

/-- The front of a text as a message quotes it. -/
def quotedFront (text : String) : String :=
  String.ofList ((Text.quoted text).toList.take 200)

/-- The text of a fault. -/
def Fault.message : Fault → String
  | .malformed => "this is no YAML document"
  | .calendar fault => fault.message
  | .badInteger base text =>
    "invalid literal for int() with base " ++ Text.ofNat base ++ ": " ++ quotedFront text
  | .tooManyDigits n => (Json.Fault.tooManyDigits n).message
  | .badFloat text => "could not convert string to float: " ++ Text.quoted text
  | .emptyNumber => "string index out of range"
  | .badBool word => Text.quoted word
  | .badTimestamp => "'NoneType' object has no attribute 'groupdict'"
  | .badCharacter code =>
    if code < 0x80000000 then "chr() arg not in range(0x110000)"
    else "Python int too large to convert to C int"
  | .tooManyParts => "int too large to convert to float"
  | .mappedTimestamp => "expected string or bytes-like object, got 'list'"
  | .endlessText | .endless _ => "maximum recursion depth exceeded"

end ClientSynth.Yaml
