import FlowScript.Decimal.Digits
import FlowScript.Graph.Node

/-!
# Graphs

A graph holds nodes by number, in the order in which they came in, and wires from outputs to
inputs.  `connect` adds a wire only where it may be; `addWire` restores one unchecked.  Operations
that make wires impossible cut them and say which.

* `connect`: the checks are made in a fixed order, `ConnectError` says which one failed;
* `setInputTag`, `setOutputTag`, `dropInput`, `dropOutput`: the wires cut are returned.
-/

namespace FlowScript

/-- A wire from an output of one node to an input of another. -/
structure Wire where
  source : NodeId
  sourcePort : String
  target : NodeId
  targetPort : String
  deriving DecidableEq, Inhabited

/-- Whether a node is at an end of a wire. -/
def Wire.touches (w : Wire) (id : NodeId) : Bool := w.source == id || w.target == id

/-- A graph of nodes and wires. -/
structure Graph where
  name : String
  nodes : OrderedMap NodeId Node := .empty
  wires : List Wire := []
  deriving DecidableEq

/-- Why a wire is refused. -/
inductive ConnectError
  | selfLoop
  | nodeNotFound (id : NodeId)
  | portNotFound (node : NodeId) (port : String)
  | incompatible (producer consumer : String)
  | alreadyConnected (node : NodeId) (port : String)
  deriving DecidableEq

/-- The report on a refused wire. -/
def ConnectError.message : ConnectError → String
  | selfLoop => "Self-loop not allowed"
  | nodeNotFound id => s!"Node not found: {id}"
  | portNotFound node port => s!"Port not found: {node}.{port}"
  | incompatible producer consumer => s!"Incompatible ports: {producer} -> {consumer}"
  | alreadyConnected node port => s!"Port already connected: {node}.{port}"

namespace Graph

instance : Inhabited Graph := ⟨{ name := "" }⟩

/-! ### Nodes -/

/-- The node with a number. -/
def node? (g : Graph) (id : NodeId) : Option Node := g.nodes.get? id

/-- Put a node under its own number. -/
def addNode (g : Graph) (n : Node) : Graph := { g with nodes := g.nodes.insert n.id n }

/-- Change a node in place. -/
def modifyNode (g : Graph) (id : NodeId) (f : Node → Node) : Graph :=
  { g with nodes := g.nodes.modify id f }

/-- A number above all in use.  It is assumed that the largest number of 32 bits is not in use, so
that there is a next one. -/
def nextId (g : Graph) : NodeId := g.nodes.keys.foldl (fun n id => max n (id + 1)) 1

/-- Remove a node and the wires at it. -/
def removeNode (g : Graph) (id : NodeId) : Graph :=
  { g with nodes := g.nodes.erase id, wires := g.wires.filter (!·.touches id) }

/-! ### Wires -/

/-- The wires that leave an output. -/
def outgoing (g : Graph) (id : NodeId) (port : String) : List Wire :=
  g.wires.filter fun w => w.source == id && w.sourcePort == port

/-- The wires that enter an input. -/
def incoming (g : Graph) (id : NodeId) (port : String) : List Wire :=
  g.wires.filter fun w => w.target == id && w.targetPort == port

/-- The first wire that enters an input. -/
def wireInto? (g : Graph) (id : NodeId) (port : String) : Option Wire :=
  g.wires.find? fun w => w.target == id && w.targetPort == port

/-- The first wire that leaves an output. -/
def wireFrom? (g : Graph) (id : NodeId) (port : String) : Option Wire :=
  g.wires.find? fun w => w.source == id && w.sourcePort == port

/-- How many wires leave an output. -/
def readers (g : Graph) (id : NodeId) (port : String) : Nat := (g.outgoing id port).length

/-- The socket of the value output that feeds an input. -/
def sourceSocket? (g : Graph) (id : NodeId) (port : String) : Option Socket := do
  let w ← g.wireInto? id port
  (← (← g.node? w.source).output? w.sourcePort).tag.socket?

/-- Restore a wire without checks. -/
def addWire (g : Graph) (w : Wire) : Graph := { g with wires := g.wires ++ [w] }

/-- Remove every copy of a wire. -/
def cut (g : Graph) (w : Wire) : Graph := { g with wires := g.wires.filter (· != w) }

/-- Remove every copy of some wires. -/
def cutAll (g : Graph) (ws : List Wire) : Graph := ws.foldl cut g

/-- Add a wire where it may be: between different nodes, between ports that exist and fit, and
without a second wire at a port that takes one. -/
def connect (g : Graph) (w : Wire) : Except ConnectError Graph := do
  if w.source = w.target then throw .selfLoop
  let some source := g.node? w.source | throw (.nodeNotFound w.source)
  let some target := g.node? w.target | throw (.nodeNotFound w.target)
  let some producer := source.output? w.sourcePort | throw (.portNotFound w.source w.sourcePort)
  let some consumer := target.input? w.targetPort | throw (.portNotFound w.target w.targetPort)
  if !producer.tag.compatible consumer.tag then
    throw (.incompatible producer.tag.name consumer.tag.name)
  if !consumer.multi && !(g.incoming w.target w.targetPort).isEmpty then
    throw (.alreadyConnected w.target w.targetPort)
  if !producer.multi && !(g.outgoing w.source w.sourcePort).isEmpty then
    throw (.alreadyConnected w.source w.sourcePort)
  return g.addWire w

/-! ### Ports -/

/-- Retag a port in a map of ports. -/
def retag (ports : OrderedMap String Port) (key : String) (tag : Tag) : OrderedMap String Port :=
  ports.modify key fun p => { p with tag }

/-- Whether the consumer of a wire exists and takes what a producer gives. -/
def consumerTakes (g : Graph) (w : Wire) (producer : Tag) : Bool :=
  match g.node? w.target >>= (·.input? w.targetPort) with
  | none => false
  | some p => producer.compatible p.tag

/-- Whether the producer of a wire exists and gives what a consumer takes. -/
def producerGives (g : Graph) (w : Wire) (consumer : Tag) : Bool :=
  match g.node? w.source >>= (·.output? w.sourcePort) with
  | none => false
  | some p => p.tag.compatible consumer

/-- Retag an output and cut the wires that no longer fit. -/
def setOutputTag (g : Graph) (id : NodeId) (key : String) (tag : Tag) : Graph × List Wire :=
  match g.node? id >>= (·.output? key) with
  | none => (g, [])
  | some port =>
    if port.tag = tag then (g, [])
    else
      let g := g.modifyNode id fun n => { n with outputs := retag n.outputs key tag }
      let stale := (g.outgoing id key).filter fun w => !g.consumerTakes w tag
      (g.cutAll stale, stale)

/-- Retag an input and cut the wires that no longer fit. -/
def setInputTag (g : Graph) (id : NodeId) (key : String) (tag : Tag) : Graph × List Wire :=
  match g.node? id >>= (·.input? key) with
  | none => (g, [])
  | some port =>
    if port.tag = tag then (g, [])
    else
      let g := g.modifyNode id fun n => { n with inputs := retag n.inputs key tag }
      let stale := (g.incoming id key).filter fun w => !g.producerGives w tag
      (g.cutAll stale, stale)

/-- Remove an input and cut its wires. -/
def dropInput (g : Graph) (id : NodeId) (key : String) : Graph × List Wire :=
  let attached := g.incoming id key
  let g := g.modifyNode id fun n => { n with inputs := n.inputs.erase key }
  (g.cutAll attached, attached)

/-- Remove an output and cut its wires. -/
def dropOutput (g : Graph) (id : NodeId) (key : String) : Graph × List Wire :=
  let attached := g.outgoing id key
  let g := g.modifyNode id fun n => { n with outputs := n.outputs.erase key }
  (g.cutAll attached, attached)

end Graph

end FlowScript
