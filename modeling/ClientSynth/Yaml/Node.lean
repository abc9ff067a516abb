import ClientSynth.Yaml.Resolve
import ClientSynth.Yaml.Token

/-!
# Nodes of a YAML document

`Graph.ofText?` reads the nodes of the one document in a text. Nodes have numbers, and the parts of
a collection are given by theirs. An alias is the number of the node that it stands for, so that a
node can be a part of several others, and of itself.
-/

namespace ClientSynth.Yaml

/-- What a node holds. -/
inductive Content where
  | scalar (text : String)
  | sequence (items : List Nat)
  | mapping (pairs : List (Nat × Nat))
  deriving Inhabited

/-- A node: a tag and what it holds. -/
structure Node where
  tag : Tag
  content : Content
  deriving Inhabited

/-- Nodes by their numbers. -/
structure Nodes where
  toArray : Array Node

namespace Nodes

/-- No nodes. -/
def empty : Nodes := ⟨#[]⟩

/-- How many nodes there are. -/
def size (nodes : Nodes) : Nat :=
  nodes.toArray.size

/-- The nodes with one more, which has the next number. -/
def push (nodes : Nodes) (node : Node) : Nodes :=
  ⟨nodes.toArray.push node⟩

/-- The node of a number. -/
def node (nodes : Nodes) (number : Nat) : Node :=
  nodes.toArray.getD number default

/-- Puts new content into a node. -/
def put (nodes : Nodes) (number : Nat) (content : Content) : Nodes :=
  ⟨nodes.toArray.modify number fun node => { node with content }⟩

/-- Puts a new tag to a node. -/
def retag (nodes : Nodes) (number : Nat) (tag : Tag) : Nodes :=
  ⟨nodes.toArray.modify number fun node => { node with tag }⟩

end Nodes

/-- The nodes of a document, and the number of the outermost one. -/
structure Graph where
  nodes : Nodes
  root : Nat

/-- The state of building nodes from tokens. -/
structure Building where
  tokens : List Token
  /-- The fault at the end of the tokens. -/
  stop : Fault
  /-- What the handles of tags stand for. -/
  handles : List (String × String)
  /-- The nodes of anchors. -/
  anchors : List (String × Nat)
  nodes : Nodes

/-- A step of building nodes. -/
abbrev Build := StateT Building (Except Fault)

namespace Build

/-- The next token. -/
def peek : Build Token := do
  let s ← get
  match s.tokens with
  | [] => throw s.stop
  | t :: _ => pure t

/-- Takes the next token away. -/
def advance : Build Unit :=
  modify fun s => { s with tokens := s.tokens.tail }

/-- A text that breaks a rule. -/
def malformed : Build α :=
  throw .malformed

/-- Takes the next token away, which has to be a given one. -/
def expect (t : Token) : Build Unit := do
  if (← peek) = t then advance else malformed

/-- Takes the next token away if it is a given one, and tells whether it was. -/
def accept (t : Token) : Build Bool := do
  if (← peek) = t then
    advance
    pure true
  else pure false

/-- Whether the next token is one of some. -/
def isNext (ts : List Token) : Build Bool := do
  pure (ts.contains (← peek))

/-- The anchor and the tag in front of a node. -/
def properties : Build (Option String × Option (Option String × String)) := do
  match ← peek with
  | .anchor name =>
    advance
    match ← peek with
    | .tag handle suffix =>
      advance
      pure (some name, some (handle, suffix))
    | _ => pure (some name, none)
  | .tag handle suffix =>
    advance
    match ← peek with
    | .anchor name =>
      advance
      pure (some name, some (handle, suffix))
    | _ => pure (none, some (handle, suffix))
  | _ => pure (none, none)

/-- The tag in full, unless there is none or just its mark. -/
def fullTag : Option (Option String × String) → Build (Option String)
  | none => pure none
  | some (none, suffix) => pure (if suffix = "!" then none else some suffix)
  | some (some handle, suffix) => do
    match (← get).handles.lookup handle with
    | none => malformed
    | some start => pure (if start ++ suffix = "!" then none else some (start ++ suffix))

/-- Adds a node with its anchor. -/
def add (anchor : Option String) (node : Node) : Build Nat := do
  let s ← get
  let number := s.nodes.size
  let anchors := match anchor with
    | none => s.anchors
    | some name => (name, number) :: s.anchors
  set { s with nodes := s.nodes.push node, anchors }
  pure number

/-- Adds a collection with its anchor. Its parts are read after it, and may be aliases of it. -/
def addCollection (anchor : Option String) (tag : Tag) (content : Build Content) : Build Nat := do
  let number ← add anchor ⟨tag, .sequence []⟩
  let content ← content
  modify fun s => { s with nodes := s.nodes.put number content }
  pure number

/-- Makes sure that an anchor is new. -/
def newAnchor (name : Option String) : Build Unit := do
  match name with
  | none => pure ()
  | some name => if ((← get).anchors.lookup name).isSome then malformed

/-- The node that an alias stands for. -/
def aliased (name : String) : Build Nat := do
  match (← get).anchors.lookup name with
  | some number => pure number
  | none => malformed

/-- Adds the node of a scalar that is not written. -/
def addEmpty : Build Nat :=
  add none ⟨Tag.ofPlain "", .scalar ""⟩

/-- The tag that is written, or another one if there is none. -/
def tagOr (tag : Option String) (default : Tag) : Tag :=
  (tag.map Tag.ofText).getD default

/-- Adds a node of which only the anchor or the tag is written. -/
def addUnwritten (anchor : Option String) (written : Option (Option String × String))
    (tag : Option String) : Build Nat :=
  if anchor.isNone && written.isNone then malformed
  else add anchor ⟨tagOr tag (Tag.ofPlain ""), .scalar ""⟩

mutual

/-- The node that is next. Block collections are allowed only outside brackets, and a sequence
without indentation only as a part of a block mapping. -/
def node (isBlock isIndentless : Bool) : Nat → Build Nat
  | 0 => malformed
  | n + 1 => do
    if let .alias name ← peek then
      advance
      return ← aliased name
    let (anchor, written) ← properties
    let tag ← fullTag written
    let next ← peek
    newAnchor anchor
    let sequence := fun (items : Build (List Nat)) =>
      addCollection anchor (tagOr tag .sequence) (items.map .sequence)
    let mapping := fun (pairs : Build (List (Nat × Nat))) =>
      addCollection anchor (tagOr tag .mapping) (pairs.map .mapping)
    match next with
    | .blockEntry =>
      if isIndentless then sequence (indentlessItems n) else addUnwritten anchor written tag
    | .scalar text isPlain =>
      advance
      let default := if isPlain || written.isSome then Tag.ofPlain text else .text
      add anchor ⟨tagOr tag default, .scalar text⟩
    | .flowSequenceStart =>
      advance
      sequence (flowItems true n)
    | .flowMappingStart =>
      advance
      mapping (flowPairs true n)
    | .blockSequenceStart =>
      if isBlock then
        advance
        sequence (blockItems n)
      else addUnwritten anchor written tag
    | .blockMappingStart =>
      if isBlock then
        advance
        mapping (blockPairs n)
      else addUnwritten anchor written tag
    | _ => addUnwritten anchor written tag

/-- The node that is next, or that of a scalar that is not written if one of some tokens is next. -/
def nodeUnless (ends : List Token) (isBlock isIndentless : Bool) : Nat → Build Nat
  | 0 => malformed
  | n + 1 => do
    if ← isNext ends then addEmpty else node isBlock isIndentless n

/-- The items of a block sequence, up to its end. -/
def blockItems : Nat → Build (List Nat)
  | 0 => malformed
  | n + 1 => do
    if ← accept .blockEntry then
      let first ← nodeUnless [.blockEntry, .blockEnd] true false n
      pure (first :: (← blockItems n))
    else
      expect .blockEnd
      pure []

/-- The items of a sequence without indentation. -/
def indentlessItems : Nat → Build (List Nat)
  | 0 => malformed
  | n + 1 => do
    if ← accept .blockEntry then
      let first ← nodeUnless [.blockEntry, .key, .value, .blockEnd] true false n
      pure (first :: (← indentlessItems n))
    else pure []

/-- The pairs of a block mapping, up to its end. -/
def blockPairs : Nat → Build (List (Nat × Nat))
  | 0 => malformed
  | n + 1 => do
    if ← accept .key then
      let key ← nodeUnless [.key, .value, .blockEnd] true true n
      let value ←
        if ← accept .value then nodeUnless [.key, .value, .blockEnd] true true n else addEmpty
      pure ((key, value) :: (← blockPairs n))
    else
      expect .blockEnd
      pure []

/-- The pair of a key in brackets, after its mark; one of some tokens stands behind the pair. -/
def flowPair (ends : List Token) : Nat → Build (Nat × Nat)
  | 0 => malformed
  | n + 1 => do
    let key ← nodeUnless (.value :: ends) false false n
    let value ← if ← accept .value then nodeUnless ends false false n else addEmpty
    pure (key, value)

/-- The items of a sequence in brackets, up to its end. A key starts a mapping of one pair. -/
def flowItems (isFirst : Bool) : Nat → Build (List Nat)
  | 0 => malformed
  | n + 1 => do
    if ← accept .flowSequenceEnd then return []
    if !isFirst then expect .flowEntry
    if ← accept .key then
      let pair := flowPair [.flowEntry, .flowSequenceEnd] n
      let first ← addCollection none .mapping do pure (.mapping [← pair])
      pure (first :: (← flowItems false n))
    else if ← accept .flowSequenceEnd then pure []
    else
      let first ← node false false n
      pure (first :: (← flowItems false n))

/-- The pairs of a mapping in braces, up to its end. -/
def flowPairs (isFirst : Bool) : Nat → Build (List (Nat × Nat))
  | 0 => malformed
  | n + 1 => do
    if ← accept .flowMappingEnd then return []
    if !isFirst then expect .flowEntry
    if ← accept .key then
      let first ← flowPair [.flowEntry, .flowMappingEnd] n
      pure (first :: (← flowPairs false n))
    else if ← accept .flowMappingEnd then pure []
    else
      let key ← node false false n
      pure ((key, ← addEmpty) :: (← flowPairs false n))

end

/-- The handles that need no directive. -/
def defaultHandles : List (String × String) :=
  [("!", "!"), ("!!", "tag:yaml.org,2002:")]

/-- The directives that are next, of which there are at most so many. -/
def directives (hasVersion : Bool) (handles : List (String × String)) :
    Nat → Build (List (String × String))
  | 0 => malformed
  | n + 1 => do
    match ← peek with
    | .version major =>
      advance
      if hasVersion || major != 1 then malformed else directives true handles n
    | .tagHandle handle start =>
      advance
      if (handles.lookup handle).isSome then malformed
      else directives hasVersion ((handle, start) :: handles) n
    | .otherDirective =>
      advance
      directives hasVersion handles n
    | _ => pure (handles ++ defaultHandles)

/-- Takes away the marks of the end of a document, of which there are at most so many. -/
def skipEnds : Nat → Build Unit
  | 0 => pure ()
  | n + 1 => do
    if ← accept .documentEnd then skipEnds n

/-- Whether a token starts a document or a directive before it. -/
def startsDocument : Token → Bool
  | .version _ | .tagHandle _ _ | .otherDirective | .documentStart => true
  | _ => false

/-- The node of the one document, if there is one. Directives of a second one are read before it is
refused. -/
def document (fuel : Nat) : Build (Option Nat) := do
  let first ← peek
  if first = .streamEnd then return none
  let root ←
    if startsDocument first then
      let handles ← directives false [] fuel
      modify fun s => { s with handles }
      expect .documentStart
      let next ← peek
      if startsDocument next || next = .documentEnd || next = .streamEnd then addEmpty
      else node true false fuel
    else node true false fuel
  skipEnds fuel
  if (← peek) != .streamEnd then
    let _ ← directives false [] fuel
    malformed
  pure (some root)

end Build

/-- The nodes of the one document in a text, or `none` in a text without documents. -/
def Graph.ofText? (text : List Char) : Except Fault (Option Graph) :=
  let (ts, stop) := tokens text
  let start : Building := ⟨ts, stop.getD .malformed, Build.defaultHandles, [], .empty⟩
  ((Build.document (6 * ts.length + 8)).run start).map fun (root, s) =>
    root.map fun root => ⟨s.nodes, root⟩

end ClientSynth.Yaml
