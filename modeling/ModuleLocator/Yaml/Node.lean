import ModuleLocator.CallDepth
import ModuleLocator.Yaml.Event
import ModuleLocator.Yaml.Tag
/-!
The node graph of a YAML document, composed from its events.
-/

namespace ModuleLocator.Yaml

/-- What a node holds: its text, its items, or the number of its list of
pairs. -/
inductive Content where
  | scalar (text : String)
  | seq (items : Array Nat)
  | map (pairs : Nat)
  deriving Repr, Inhabited

/-- A node: its tag, its content, and where it starts. Children are given
by their numbers. -/
structure Node where
  tag : String
  content : Content
  start : Mark := {}
  deriving Repr, Inhabited

/-- The nodes of a document by number, and the lists of pairs of its
mappings by number, each pair a key node and a value node. -/
structure Graph where
  nodes : Array Node := #[]
  pairLists : Array (Array (Nat × Nat)) := #[]
  deriving Repr, Inhabited

namespace Graph

/-- The node of a number. -/
def node (g : Graph) (n : Nat) : Node := g.nodes.getD n default

/-- The tag of a node. -/
def tag (g : Graph) (n : Nat) : String := (g.node n).tag

/-- The pairs in a list of pairs. -/
def pairs (g : Graph) (l : Nat) : Array (Nat × Nat) := g.pairLists.getD l #[]

/-- Add a node, giving its number. -/
def add (g : Graph) (nd : Node) : Graph × Nat :=
  let nodes := g.nodes.push nd
  ({ g with nodes }, nodes.size - 1)

/-- Add a mapping node, starting at `m`, with an empty list of pairs,
giving its number. -/
def addMap (g : Graph) (tag : String) (m : Mark) : Graph × Nat :=
  let pairLists := g.pairLists.push #[]
  let nodes := g.nodes.push ⟨tag, .map (pairLists.size - 1), m⟩
  ({ g with nodes, pairLists }, nodes.size - 1)

/-- Append an item to a sequence node. -/
def pushItem (g : Graph) (n item : Nat) : Graph :=
  { g with nodes := g.nodes.modify n fun
    | ⟨t, .seq items, m⟩ => ⟨t, .seq (items.push item), m⟩
    | nd => nd }

/-- Append a pair to a mapping node's list. -/
def pushPair (g : Graph) (n : Nat) (kv : Nat × Nat) : Graph :=
  match g.node n with
  | ⟨_, .map l, _⟩ => { g with pairLists := g.pairLists.modify l (·.push kv) }
  | _ => g

end Graph

/-- The error of nesting calls too deep, at the check `how` gives when
`lacking` calls are missing. -/
def exhausted (how : Exhaustion) (lacking : Nat) : Fault :=
  .raised Overrun.kind (how.at lacking).message

/-- The error of nesting calls too deep at entering a function. -/
def stackExhausted : Fault := exhausted .entries 1

/-- Whether an event starts a collection. -/
def Event.opens : Event → Bool
  | .sequenceStart .. | .mappingStart .. => true
  | _ => false

/-- Whether an event is a scalar whose tag does not come from its text. -/
def Event.isQuoted : Event → Bool
  | .scalar _ _ resolvable _ => !resolvable
  | _ => false

/-- The calls that composing a node takes beyond two for each level of
nesting above it, and the check that gives out first when they are not
free. A node whose text was read ahead, within an entry of a flow
sequence, takes the fewest; a node of a flow mapping read as it comes
takes more, a quoted one more yet and a collection the most; in a block
collection, a scalar written out takes one more than a missing one. -/
def reach (p : Placement) (e : Event) (ahead : Bool) : Nat × Exhaustion :=
  match p.site with
  | .document | .flowEntry => (13, .entries)
  | .flowKey | .flowValue =>
    if ahead then (13, .entries)
    else if e.opens then (17, .callWhenEven)
    else if e.isQuoted then (16, .callWhenEven)
    else (15, .callWhenEven)
  | .blockKey => if e.opens then (13, .entries) else (15, .callWhenEven)
  | .blockValue =>
    if e.opens && !p.flow then (13, .entries)
    else if e == emptyScalar then (15, .callWhenEven)
    else (16, .callWhenOdd)
  | .blockEntry =>
    if e.opens && !p.flow then (13, .entries)
    else if e == emptyScalar then (15, .entries)
    else (16, .callWhenOne)

/-- The least of the calls that composing any node takes beyond two for
each level of nesting above it. -/
def leastReach : Nat := 13

/-- The parser under the composer, the calls free for composing, the graph
so far, and the anchors of the document by name. -/
structure Composer where
  parser : Parser
  free : Nat
  graph : Graph := {}
  anchors : List (String × Nat) := []

/-- Composing: a computation on the composer that may fail. -/
abbrev ComposeM := StateT Composer (Except Fault)

/-- Run a parsing step on the composer's parser. -/
def parse (m : ParseM α) : ComposeM α := do
  let parser ← modifyGet fun c => (c.parser, { c with parser := default })
  let (a, p) ← (m.run parser : Except Fault (α × Parser))
  modify fun c => { c with parser := p }
  return a

/-- Fail as malformed. -/
def badNode (p : Problem) : ComposeM α := throw (.malformed p)

/-- Fail on events out of order, which the parser never gives. -/
def outOfOrder : ComposeM α := badNode (.marked none none "expected a node" none)

/-- Take the next event. -/
def takeEvent : ComposeM Unit := do let _ ← parse nextEvent

/-- Whether the next event is `e`. -/
def nextEventIs (e : Event) : ComposeM Bool := return (← parse peekEvent) == some e

/-- Add a node to the graph under `anchor`, giving its number. -/
def addNode (anchor : Option String) (f : Graph → Graph × Nat) : ComposeM Nat :=
  modifyGet fun c =>
    let (g, n) := f c.graph
    let anchors := match anchor with
      | some a => c.anchors ++ [(a, n)]
      | none => c.anchors
    (n, { c with graph := g, anchors })

/-- The tag of a scalar: from its text when untagged and resolvable or
tagged `!`, text when untagged otherwise. -/
def scalarTag (tag : Option String) (text : String) (resolvable : Bool) : String :=
  match tag with
  | none => if resolvable then Tag.implicit text else Tag.str
  | some "!" => if resolvable then Tag.implicit text else Tag.str
  | some t => t

/-- The tag of a collection, `dflt` when untagged or tagged `!`. -/
def collectionTag (tag : Option String) (dflt : String) : String :=
  match tag with
  | none => dflt
  | some "!" => dflt
  | some t => t

mutual

/-- Compose a node at nesting `depth`, giving its number; `ahead` says
whether its text was read ahead, and `fuel` bounds the steps. A node needs
two calls for each level above it and those of its `reach`; when that is
more than are free, composing stops, and it stops so also when reading the
node fails where not even the least reach is free. -/
def composeNode : Nat → Nat → Bool → ComposeM Nat
  | 0, _, _ => outOfOrder
  | fuel + 1, depth, ahead => do
    let free := (← get).free
    let e? ← tryCatch (parse peekEvent) fun f => do
      if 2 * depth + leastReach > free then throw (exhausted .entries (2 * depth + leastReach - free))
      throw f
    if let some e := e? then
      let (cost, how) := reach (← get).parser.placement e ahead
      if 2 * depth + cost > free then throw (exhausted how (2 * depth + cost - free))
    let inner := ahead || (← get).parser.placement.site == .flowEntry
    let m ← parse peekMark
    if let some (.alias name) ← parse peekEvent then
      takeEvent
      match (← get).anchors.lookup name with
      | some n => return n
      | none => badNode (.at ("found undefined alias " ++ Text.quote name) m)
    let some e ← parse peekEvent | outOfOrder
    if let some a := e.anchor? then
      if let some first := (← get).anchors.lookup a then
        badNode (.marked (some ("found duplicate anchor " ++ Text.quote a ++ "; first occurrence"))
          (some ((← get).graph.node first).start) "second occurrence" (some m))
    match e with
    | .scalar anchor tag resolvable text =>
      takeEvent
      addNode anchor fun g => g.add ⟨scalarTag tag text resolvable, .scalar text, m⟩
    | .sequenceStart anchor tag =>
      takeEvent
      let n ← addNode anchor fun g => g.add ⟨collectionTag tag Tag.seq, .seq #[], m⟩
      composeItems fuel depth inner n
      takeEvent
      return n
    | .mappingStart anchor tag =>
      takeEvent
      let n ← addNode anchor fun g => g.addMap (collectionTag tag Tag.map) m
      composePairs fuel depth inner n
      takeEvent
      return n
    | _ => outOfOrder

/-- Compose the items of sequence `n` up to its end; `ahead` says whether
their text was read ahead. -/
def composeItems : Nat → Nat → Bool → Nat → ComposeM Unit
  | 0, _, _, _ => outOfOrder
  | fuel + 1, depth, ahead, n => do
    if ← nextEventIs .sequenceEnd then return
    let item ← composeNode fuel (depth + 1) ahead
    modify fun c => { c with graph := c.graph.pushItem n item }
    composeItems fuel depth ahead n

/-- Compose the pairs of mapping `n` up to its end; `ahead` says whether
their text was read ahead. -/
def composePairs : Nat → Nat → Bool → Nat → ComposeM Unit
  | 0, _, _, _ => outOfOrder
  | fuel + 1, depth, ahead, n => do
    if ← nextEventIs .mappingEnd then return
    let k ← composeNode fuel (depth + 1) ahead
    let v ← composeNode fuel (depth + 1) ahead
    modify fun c => { c with graph := c.graph.pushPair n (k, v) }
    composePairs fuel depth ahead n

end

/-- A document: its graph and the number of its root node. -/
structure Document where
  graph : Graph
  root : Nat

/-- Compose the one document of a stream; none when the stream holds no
document. -/
def composeStream (fuel : Nat) : ComposeM (Option Nat) := do
  takeEvent
  let root ←
    if ← nextEventIs .streamEnd then pure none
    else do
      takeEvent
      let n ← composeNode fuel 0 false
      takeEvent
      modify fun c => { c with anchors := [] }
      pure (some n)
  if !(← nextEventIs .streamEnd) then
    let m ← parse peekMark
    let g := (← get).graph
    let first := root.map fun r => (g.node r).start
    badNode (.marked (some "expected a single document in the stream") first "but found another document" (some m))
  takeEvent
  return root

/-- The one document of a stream, none when the stream is empty; `free`
calls are free for composing it. -/
def Document.ofSource (free : Nat) (src : Source) : Except Fault (Option Document) := do
  let parser ← Parser.ofSource src
  let fuel := 4 * (src.chars.size + src.ends.size) + 16
  let (root, c) ← (composeStream fuel).run { parser, free }
  return root.map fun r => ⟨c.graph, r⟩

end ModuleLocator.Yaml
