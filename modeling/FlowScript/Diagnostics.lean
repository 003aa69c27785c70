import FlowScript.Graph.Storage

/-!
# Diagnostics

Messages about nodes, in the order in which nodes were first diagnosed, and messages about the
whole text.  `LineOwners` says which node each line of the generated body stands for; through it
`LineOwners.remap` brings the errors of a toolchain back to the nodes.
-/

namespace FlowScript

/-- A message about a line of the text. -/
structure GlobalMessage where
  line : Int
  message : String
  deriving DecidableEq

/-- The messages of a compilation. -/
structure Diagnostics where
  nodes : OrderedMap NodeId (List String) := .empty
  global : List GlobalMessage := []
  deriving DecidableEq

/-- A note to show at a node. -/
structure Annotation where
  node : NodeId
  position : Position
  text : String
  deriving DecidableEq

namespace Diagnostics

instance : Inhabited Diagnostics := ⟨{}⟩

/-- Add a message about a node. -/
def addNode (d : Diagnostics) (id : NodeId) (message : String) : Diagnostics :=
  { d with nodes := d.nodes.insert id ((d.nodes.get? id).getD [] ++ [message]) }

/-- Add a message about a line. -/
def addGlobal (d : Diagnostics) (line : Int) (message : String) : Diagnostics :=
  { d with global := d.global ++ [{ line, message }] }

/-- The messages about a node. -/
def messages (d : Diagnostics) (id : NodeId) : List String := (d.nodes.get? id).getD []

/-- The messages about lines, one a line. -/
def globalText (d : Diagnostics) : String :=
  "\n".intercalate (d.global.map fun m => m.message ++ " in line " ++ Decimal.intText m.line)

/-- Whether a node has messages. -/
def hasErrors (d : Diagnostics) : Bool := !d.nodes.entries.isEmpty

/-- Whether there are no messages at all. -/
def isEmpty (d : Diagnostics) : Bool := d.nodes.entries.isEmpty && d.global.isEmpty

/-- A note for each diagnosed node of a graph. -/
def annotations (d : Diagnostics) (g : Graph) : List Annotation :=
  d.nodes.entries.filterMap fun (id, messages) =>
    (g.node? id).map fun n => ⟨id, n.position, "\n".intercalate messages⟩

open Json in
/-- The text in which diagnostics are kept. -/
def store (d : Diagnostics) : String := String.ofList (objectChars [
  ("node_errors", objectChars (d.nodes.entries.map fun (id, messages) =>
    (Decimal.text id, arrayChars (messages.map quoted)))),
  ("global", arrayChars (d.global.map fun m => objectChars [
    ("line", (Decimal.intText m.line).toList), ("message", quoted m.message)]))])

end Diagnostics

/-- An error that a toolchain reports against the generated text. -/
structure ToolError where
  file : String := ""
  line : Nat := 0
  message : String := ""
  fixme : String := ""
  extra : String := ""
  deriving DecidableEq

namespace ToolError

/-- The message with the suggested fix and the detail, where there are any. -/
def annotatedMessage (e : ToolError) : String :=
  e.message ++ (if e.fixme = "" then "" else "\nfixme: " ++ e.fixme) ++
    (if e.extra = "" then "" else "\nextra: " ++ e.extra)

/-- The last segment of the path of the file. -/
def fileName (e : ToolError) : String :=
  String.ofList (e.file.toList.reverse.takeWhile (· != '/')).reverse

open Decoder in
/-- A tool error as a document; fields left out are empty. -/
def decoder : Decoder ToolError :=
  record ["file", "line", "message", "fixme", "extra"] fun f => do
  return {
    file := ← f.getD "file" string ""
    line := ← f.getD "line" (nat Decimal.maxCount) 0
    message := ← f.getD "message" string ""
    fixme := ← f.getD "fixme" string ""
    extra := ← f.getD "extra" string "" }

end ToolError

/-- The nodes that the lines of a body stand for, the height of the imports in front of the body
and of the header in front of the imports. -/
structure LineOwners where
  owners : List (Option NodeId) := []
  importHeight : Nat := 0
  headerLines : Nat := 0
  deriving DecidableEq

namespace LineOwners

/-- The owner of a body line, counted from zero. -/
def owner? (m : LineOwners) (line : Nat) : Option NodeId := (m.owners[line]?).join

/-- The body lines of a node. -/
def linesOf (m : LineOwners) (id : NodeId) : List Nat :=
  m.owners.zipIdx.filterMap fun (owner, line) => if owner = some id then some line else none

/-- The first line of the body as the toolchain counts, from one and with everything in front.  The
sum has 64 bits and wraps around. -/
def firstLine (m : LineOwners) : Nat := (m.headerLines + 1 + m.importHeight) % Nat.pow 2 64

/-- The owner of a line as the toolchain counts. -/
def nodeAt? (m : LineOwners) (line : Nat) : Option NodeId :=
  if m.firstLine ≤ line then m.owner? (line - m.firstLine) else none

/-- A line relative to the header, as a signed 64-bit number. -/
def relativeLine (m : LineOwners) (line : Nat) : Int :=
  Int.bmod ((line : Int) - m.headerLines) (Nat.pow 2 64)

/-- Record one error: at the node that owns its line, else as a message about the line. -/
def record (m : LineOwners) (d : Diagnostics) (e : ToolError) : Diagnostics :=
  match m.nodeAt? e.line with
  | some id => d.addNode id e.annotatedMessage
  | none => d.addGlobal (m.relativeLine e.line) e.message

/-- Record the errors about a file. -/
def remap (m : LineOwners) (d : Diagnostics) (errors : List ToolError) (file : String) :
    Diagnostics :=
  errors.foldl (fun d e => if e.fileName = file then m.record d e else d) d

end LineOwners

end FlowScript
