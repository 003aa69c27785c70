import FlowScript.Pass.Emit

/-!
# Running a pass

Flow nodes are compiled where the flow first reaches them and value nodes where they are first
asked for.  Values and flow pass through module calls: an input of a module stands for the
argument at the call, an output for what is wired to it inside, and flow enters and leaves at the
named entries and exits.  A module that is being expanded is not entered again.

* `Program.visit`: compile one occurrence;
* `Program.walk`: asking and following, for a given amount of fuel;
* `Program.fuel`: enough fuel for every pass that ends.
-/

namespace FlowScript

namespace Program

/-- Compile the node at an address: its own text, then the flow after it. -/
def compileNode (p : Program) (w : Walk) (a : Address) (cause : Cause) (n : Node) (kind : Kind) :
    Gen Unit := do
  modify fun s => (s.markProcessed a).note (.emitted a cause s.block.path)
  p.emit w a n kind
  if kind.continuesFlow then
    let _ ← w.follow a flowOutKey

/-- Compile an occurrence, but a flow node only when it is reached first. -/
def visit (p : Program) (w : Walk) (a : Address) (cause : Cause := .entry) : Gen Unit :=
  match p.node? a with
  | none => return ()
  | some n =>
    match p.kind? n with
    | none => p.error a (.unknownComponent n.component)
    | some kind => do
      if kind.hasFlowIn then
        modify (·.note (.arrived a))
        if a ∈ (← get).visited then p.report a .reachedAgain
        else
          modify (·.visit a)
          p.compileNode w a cause n kind
      else p.compileNode w a cause n kind

/-- Compile a value on first demand; flow nodes are left to the flow. -/
def settle (p : Program) (w : Walk) (a : Address) (kind : Kind) : Gen Unit := do
  modify (·.note (.demanded a))
  let s ← get
  if a ∈ s.started then
    if a ∈ s.resolving then p.error a .cyclicValue
  else if kind.isLazy then
    modify fun s => (s.start a).beginResolving a
    p.visit w a .demand
    modify (·.endResolving a)

/-! ### Modules -/

/-- The graph of the module that a node calls, unless it is missing or being expanded. -/
def enter? (p : Program) (a : Address) (n : Node) : Gen (Option Graph) :=
  let name := n.textD moduleKey
  match p.library.get? name with
  | none => do
    p.error a (.moduleNotLoaded name)
    return none
  | some g =>
    if p.expanding a.path name then do
      p.error a (.recursiveCall name)
      return none
    else do
      modify (·.markProcessed a)
      return some g

end Program

/-- The first node of a component with a given name in its data. -/
def Graph.bridge? (g : Graph) (component name : String) : Option Node :=
  g.nodes.values.find? fun n => n.component == component && n.text? "name" == some name

namespace Program

/-- The value of a module input is the argument at the call. -/
def resolveInput (p : Program) (w : Walk) (a : Address) (n : Node) : Gen (Option Producer) :=
  match a.callSite? with
  | none => do
    p.error a .inputOutsideModule
    return none
  | some call => w.resolve call (n.textD "name")

/-- The value of an output of a module call is what is wired to the output inside. -/
def resolveOutput (p : Program) (w : Walk) (a : Address) (n : Node) (port : String) :
    Gen (Option Producer) := do
  match ← p.enter? a n with
  | none => return none
  | some g =>
    match g.bridge? ComponentTable.moduleOutputName port with
    | some inner => w.resolve (a.inside inner.id) "input"
    | none =>
      p.error a (.outputNotFound port)
      return none

/-- Flow that leaves a module goes on after the call. -/
def followExit (p : Program) (w : Walk) (a : Address) (n : Node) : Gen Unit :=
  match a.callSite? with
  | none => p.error a .exitOutsideModule
  | some call => do
    let _ ← w.follow call (n.textD "name")

/-- Flow into a module call goes on after the entry inside. -/
def followEntry (p : Program) (w : Walk) (a : Address) (n : Node) (port : String) : Gen Unit := do
  match ← p.enter? a n with
  | none => return ()
  | some g =>
    match g.bridge? ComponentTable.flowEntryName port with
    | some inner =>
      let _ ← w.follow (a.inside inner.id) "output"
    | none => p.error a (.entryNotFound port)

/-! ### The walk -/

/-- Find the producer at the other end of a wire, by the kind of the node there. -/
def resolveFrom (p : Program) (w : Walk) (a : Address) (n : Node) (port : String) :
    Gen (Option Producer) :=
  match p.kind? n with
  | none => do
    p.error a (.unknownComponent n.component)
    return none
  | some .moduleInput => p.resolveInput w a n
  | some .moduleCall => p.resolveOutput w a n port
  | some .definition =>
    return (slotIndex? "out" port).map fun _ => ⟨a, port⟩
  | some .assignment => w.resolve a "inVariable"
  | some kind => do
    p.settle w a kind
    modify (·.require a)
    return some ⟨a, port⟩

/-- Find the producer of the value at an input. -/
def resolveStep (p : Program) (w : Walk) (a : Address) (port : String) :
    Gen (Option Producer) := do
  modify (·.note (.asked a port))
  match p.feeding? a port with
  | none => return none
  | some (wire, n) => p.resolveFrom w (a.sibling n.id) n wire.sourcePort

/-- Go on at the node that a flow wire leads to, by its kind. -/
def followTo (p : Program) (w : Walk) (a : Address) (n : Node) (port : String) : Gen Unit :=
  match p.kind? n with
  | some .flowExit => p.followExit w a n
  | some .moduleCall => p.followEntry w a n port
  | _ => p.visit w a .flow

/-- Compile what follows a flow output. -/
def followStep (p : Program) (w : Walk) (a : Address) (port : String) : Gen Bool := do
  modify (·.note (.followed a port))
  match p.fedBy? a port with
  | none => return false
  | some (wire, n) =>
    p.followTo w (a.sibling n.id) n wire.targetPort
    return true

/-- Asking and following with a given amount of fuel. -/
def walk (p : Program) : Nat → Walk
  | 0 => .exhausted
  | fuel + 1 => {
      resolve := fun a port => p.resolveStep (p.walk fuel) a port
      follow := fun a port => p.followStep (p.walk fuel) a port }

/-- The graphs of a program. -/
def graphs (p : Program) : List Graph := p.root :: p.library.values

/-- A bound on the number of occurrences below paths of a given length.  A path grows by one for
each module at most, and every number on it is the key or the own number of some node. -/
def occurrences (p : Program) (depth : Nat) : Nat :=
  let nodes := p.graphs.foldl (fun n g => n + g.nodes.size) 0
  Nat.pow (2 * nodes + 2) (p.library.size + depth + 2)

/-- Enough fuel for a pass from below paths of a given length: between two steps that mark an
occurrence no occurrence and wire comes up twice, and each occurrence is marked twice at most. -/
def fuel (p : Program) (depth : Nat) : Nat :=
  let n := p.occurrences depth
  let wires := p.graphs.foldl (fun n g => n + g.wires.length) 0
  (2 * n + 1) * (n * (wires + 2) + 2)

/-- The walk for a pass that starts at an address. -/
def walkFrom (p : Program) (a : Address) : Walk := p.walk (p.fuel a.path.length)

end Program

end FlowScript
