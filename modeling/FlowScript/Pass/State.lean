import FlowScript.Diagnostics
import FlowScript.Pass.Address
import FlowScript.Settings
import FlowScript.Text.Lines

/-!
# The state of a compilation pass

A pass writes lines into the innermost open block, gathers imports and diagnostics, and keeps
marks on addresses so that every node is compiled once.  The journal lists what happened, newest
first, so that laws about order and multiplicity can be stated of a finished pass.  For the same
end every line knows its block and the occurrences whose identifiers stand in it.

* `Gen`: actions on a pass; an action without a result ran out of fuel;
* `Pass.write`, `Gen.nested`: lines and blocks;
* `Problem`: what can be wrong with a node, and the words for it.
-/

namespace FlowScript

/-- What a line is for. -/
inductive LineRole
  | statement
  | declaration (address : Address)
  | header
  | placeholder
  | marker
  deriving DecidableEq

/-- A piece of generated text, and the occurrences whose identifiers stand in it. -/
structure Fragment where
  text : String
  uses : List Address := []
  deriving DecidableEq

/-- A line of the body: the node it stands for, its depth, and its text without indentation; the
block it stands in, as the numbers of the blocks around it, innermost first; and the occurrences
whose identifiers stand in it. -/
structure Line where
  owner : Option NodeId
  depth : Nat
  text : String
  role : LineRole := .statement
  block : List Nat := []
  uses : List Address := []
  deriving DecidableEq

/-- The line as it stands in the generated text. -/
def Line.render (s : Settings) (l : Line) : String := s.indentAt l.depth ++ l.text

/-- An open block: its depth, its own number and those of the blocks around it, innermost first,
and its lines so far, newest first. -/
structure Block where
  depth : Nat := 0
  path : List Nat := []
  lines : List Line := []
  deriving DecidableEq

/-- The roles of the parts of a text with several lines: a declaration is made by the first part,
a header ends with the last, and all other parts are plain. -/
def LineRole.ofParts (role : LineRole) (count : Nat) : List LineRole :=
  match role with
  | .header => List.replicate (count - 1) .statement ++ [.header]
  | .declaration a => .declaration a :: List.replicate (count - 1) .statement
  | role => List.replicate count role

/-- The lines of a text in a block, one for each part of it. -/
def Block.linesOf (b : Block) (owner : Option NodeId) (text : Fragment) (role : LineRole) :
    List Line :=
  let parts := Text.splitLines text.text.toList
  (parts.zip (role.ofParts parts.length)).map fun (part, role) => {
    owner, depth := b.depth, text := String.ofList part, role
    block := b.path, uses := text.uses }

/-- What can be wrong with a node. -/
inductive Problem
  | unknownComponent (name : String)
  | reachedAgain
  | cyclicValue
  | inputExpected
  | thenExitExpected
  | notProcessed
  | inputOutsideModule
  | exitOutsideModule
  | moduleNotLoaded (name : String)
  | recursiveCall (name : String)
  | outputNotFound (name : String)
  | entryNotFound (name : String)
  | unknownType (name : String)
  | unknownFunction (name : String)
  | unsupportedArgument (component : String)
  deriving DecidableEq

/-- The words for a problem. -/
def Problem.message : Problem → String
  | unknownComponent name => s!"Unknown component: {name}"
  | reachedAgain => "Flow node is reached more than once"
  | cyclicValue => "cyclic value dependency"
  | inputExpected => "input expected"
  | thenExitExpected => "then exit expected"
  | notProcessed => "Node is not processed"
  | inputOutsideModule => "Input node is not in module"
  | exitOutsideModule => "OutputFlow node is not in module"
  | moduleNotLoaded name => s!"Module '{name}' is not loaded"
  | recursiveCall name => s!"Recursive call of module '{name}'"
  | outputNotFound name => s!"Module output '{name}' not found"
  | entryNotFound name => s!"Module flow input '{name}' not found"
  | unknownType name => s!"Unknown type: {name}"
  | unknownFunction name => s!"Unknown function: {name}"
  | unsupportedArgument component => s!"Unsupported argument type: {component}"

/-- Where a value comes from: an occurrence of a node and one of its outputs. -/
structure Producer where
  address : Address
  port : String
  deriving DecidableEq

/-- What makes a pass compile an occurrence. -/
inductive Cause
  | entry
  | flow
  | demand
  deriving DecidableEq

/-- What happens during a pass. -/
inductive Event
  /-- An input was asked for its producer. -/
  | asked (consumer : Address) (port : String)
  /-- A flow output was followed. -/
  | followed (address : Address) (port : String)
  /-- The value of an occurrence was asked for. -/
  | demanded (address : Address)
  /-- An occurrence that the control flow has to reach was arrived at. -/
  | arrived (address : Address)
  /-- The text of an occurrence was generated into a block. -/
  | emitted (address : Address) (cause : Cause) (block : List Nat)
  /-- A text was handed to an input for the value of its producer. -/
  | referenced (consumer : Address) (port : String) (producer : Producer) (value : Fragment)
  /-- A line was written. -/
  | wrote (line : Line)
  /-- A problem was recorded at an occurrence. -/
  | problem (address : Address) (cause : Problem)
  deriving DecidableEq

/-- The state of a pass. -/
structure Pass where
  block : Block := {}
  /-- How many blocks were opened. -/
  opened : Nat := 0
  diagnostics : Diagnostics := {}
  imports : List String := []
  /-- Expressions that stand for the values of occurrences. -/
  results : OrderedMap Address Fragment := .empty
  /-- Occurrences whose value has been started on. -/
  started : List Address := []
  /-- Occurrences whose value is being worked on. -/
  resolving : List Address := []
  /-- Occurrences that were compiled. -/
  processed : List Address := []
  /-- Occurrences whose value is used, in the order of first use. -/
  required : List Address := []
  /-- Occurrences that the control flow has reached. -/
  visited : List Address := []
  main : Option String := none
  journal : List Event := []

instance : Inhabited Pass := ⟨{}⟩

/-- Actions on a pass; `none` means that the fuel ran out. -/
abbrev Gen := StateT Pass Option

/-- No fuel is left. -/
def Gen.exhausted {α : Type} : Gen α := fun _ => none

/-- Add an element at the end unless it is there. -/
def addNew {α : Type} [DecidableEq α] (l : List α) (x : α) : List α :=
  if x ∈ l then l else l ++ [x]

namespace Pass

/-! ### Updates of the state -/

/-- Note an event. -/
def note (s : Pass) (e : Event) : Pass := { s with journal := e :: s.journal }

/-- Write a text into the open block. -/
def write (s : Pass) (owner : Option NodeId) (text : String) (role : LineRole := .statement)
    (uses : List Address := []) : Pass :=
  let lines := (s.block.linesOf owner ⟨text, uses⟩ role).reverse
  { s with
    block := { s.block with lines := lines ++ s.block.lines }
    journal := lines.map .wrote ++ s.journal }

/-- Record a message about a node. -/
def addMessage (s : Pass) (id : NodeId) (message : String) : Pass :=
  { s with diagnostics := s.diagnostics.addNode id message }

/-- Record imports. -/
def addImports (s : Pass) (names : List String) : Pass :=
  { s with imports := names.foldl addNew s.imports }

/-- Keep the expression for a value. -/
def setResult (s : Pass) (a : Address) (text : String) (uses : List Address := []) : Pass :=
  { s with results := s.results.insert a ⟨text, uses⟩ }

/-- The expression for a value: the one kept, or the identifier. -/
def result (s : Pass) (a : Address) : Fragment := (s.results.get? a).getD ⟨a.ident, [a]⟩

/-- The text of the expression for a value. -/
def resultText (s : Pass) (a : Address) : String := (s.result a).text

/-- Mark a value as started on. -/
def start (s : Pass) (a : Address) : Pass := { s with started := addNew s.started a }

/-- Mark a value as being worked on. -/
def beginResolving (s : Pass) (a : Address) : Pass := { s with resolving := addNew s.resolving a }

/-- Clear the mark of a value being worked on. -/
def endResolving (s : Pass) (a : Address) : Pass :=
  { s with resolving := s.resolving.filter (· ≠ a) }

/-- Mark an occurrence as compiled. -/
def markProcessed (s : Pass) (a : Address) : Pass := { s with processed := addNew s.processed a }

/-- Mark a value as used. -/
def require (s : Pass) (a : Address) : Pass := { s with required := addNew s.required a }

/-- Mark an occurrence as reached by the control flow. -/
def visit (s : Pass) (a : Address) : Pass := { s with visited := addNew s.visited a }

/-- Record a main definition; the first one counts. -/
def setMain (s : Pass) (name : String) : Pass := { s with main := s.main <|> some name }

/-- Open a block below the current one. -/
def openBlock (s : Pass) (extra : Nat) : Pass :=
  { s with
    block := { depth := s.block.depth + extra, path := s.opened :: s.block.path }
    opened := s.opened + 1 }

end Pass

namespace Gen

/-- Run an action in a block below the current one; its lines are handed back. -/
def nested {α : Type} (extra : Nat) (act : Gen α) : Gen (α × Block) := do
  let outer := (← get).block
  modify (·.openBlock extra)
  let result ← act
  let inner := (← get).block
  modify fun s => { s with block := outer }
  return (result, inner)

/-- Append the lines of a closed block. -/
def append (inner : Block) : Gen Unit := modify fun s =>
  { s with block := { s.block with lines := inner.lines ++ s.block.lines } }

/-- Run an action in a block below the current one and append its lines. -/
def inBlock {α : Type} (extra : Nat) (act : Gen α) : Gen α := do
  let (result, inner) ← nested extra act
  append inner
  return result

end Gen

end FlowScript
