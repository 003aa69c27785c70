import FlowScript.Language.Basic
import FlowScript.Pass.State
import FlowScript.Shape.Initial

/-!
# Programs

A program is what a pass reads and never changes: the language, the root graph, the library of
modules and the settings.  Addresses are looked up in it by following module calls from the root
graph, and problems are recorded at the node of the root graph under which they lie.
-/

namespace FlowScript

/-- The input of a pass. -/
structure Program where
  lang : Language
  root : Graph
  library : Library := .empty
  settings : Settings := {}

namespace Program

/-! ### Looking up addresses -/

/-- The graph that a module call leads to. -/
def calledGraph? (p : Program) (g : Graph) (call : NodeId) : Option Graph :=
  g.node? call >>= p.library.callee?

/-- The graph that a path of module calls leads to. -/
def graphAt? (p : Program) (path : List NodeId) : Option Graph :=
  path.foldlM p.calledGraph? p.root

@[simp] theorem graphAt?_nil (p : Program) : p.graphAt? [] = some p.root := rfl

/-- A longer path is followed one call at a time. -/
theorem graphAt?_concat (p : Program) (path : List NodeId) (call : NodeId) :
    p.graphAt? (path ++ [call]) = (p.graphAt? path).bind (p.calledGraph? · call) := by
  simp only [graphAt?, List.foldlM_append, List.foldlM_cons, List.foldlM_nil, bind_pure]
  rfl

/-- The node at an address. -/
def node? (p : Program) (a : Address) : Option Node := p.graphAt? a.path >>= (·.node? a.id)

/-- The kind of a node. -/
def kind? (p : Program) (n : Node) : Option Kind := p.lang.kind? n.component

/-- The kind of the node at an address. -/
def kindAt? (p : Program) (a : Address) : Option Kind := p.node? a >>= p.kind?

/-- The first wire into an input, and the node it comes from. -/
def feeding? (p : Program) (a : Address) (port : String) : Option (Wire × Node) := do
  let g ← p.graphAt? a.path
  let w ← g.wireInto? a.id port
  return (w, ← g.node? w.source)

/-- The first wire from an output, and the node it goes to. -/
def fedBy? (p : Program) (a : Address) (port : String) : Option (Wire × Node) := do
  let g ← p.graphAt? a.path
  let w ← g.wireFrom? a.id port
  return (w, ← g.node? w.target)

/-- How many wires read an output. -/
def readers (p : Program) (a : Address) (port : String) : Nat :=
  match p.graphAt? a.path with
  | some g => g.readers a.id port
  | none => 0

/-- The module that one call of a path names. -/
def moduleOnPath? (p : Program) (path : List NodeId) (depth : Nat) : Option String := do
  let g ← p.graphAt? (path.take depth)
  (← g.node? (← path[depth]?)).text? moduleKey

/-- Whether a module is being expanded on a path. -/
def expanding (p : Program) (path : List NodeId) (name : String) : Bool :=
  (List.range path.length).any fun depth => p.moduleOnPath? path depth == some name

/-! ### Recording problems -/

/-- A message with the name of the module in front, unless it is about the root graph. -/
def attributed (p : Program) (a : Address) (message : String) : String :=
  if a.path = [] then message
  else match p.graphAt? a.path with
    | some g => g.name ++ ": " ++ message
    | none => message

end Program

namespace Pass

/-- Write the marker for discarded text and record a message about a node. -/
def discard (s : Pass) (settings : Settings) (id : NodeId) (message : String) : Pass :=
  (s.write (some id) settings.discardMarker .marker).addMessage id message

/-- Record a message at an address. -/
def reportText (s : Pass) (p : Program) (a : Address) (message : String) : Pass :=
  s.addMessage a.rootId (p.attributed a message)

/-- Record a message at an address and write the marker. -/
def errorText (s : Pass) (p : Program) (a : Address) (message : String) : Pass :=
  s.discard p.settings a.rootId (p.attributed a message)

end Pass

namespace Program

/-- Record a problem. -/
def report (p : Program) (a : Address) (cause : Problem) : Gen Unit :=
  modify fun s => (s.note (.problem a cause)).reportText p a cause.message

/-- Record a problem and write the marker. -/
def error (p : Program) (a : Address) (cause : Problem) : Gen Unit :=
  modify fun s => (s.note (.problem a cause)).errorText p a cause.message

/-- Write a text that stands for an occurrence. -/
def write (a : Address) (text : String) (role : LineRole := .statement)
    (uses : List Address := []) : Gen Unit :=
  modify (·.write (some a.rootId) text role uses)

end Program

end FlowScript
