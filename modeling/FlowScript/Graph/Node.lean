import FlowScript.Decimal.Binary
import FlowScript.Json.Value
import FlowScript.OrderedMap
import FlowScript.Tag
import FlowScript.Text.Blank

/-!
# Nodes and ports

A node is an instance of a component: it has data, a place on the canvas, and ports by direction.
Data are JSON values in the order in which they were first set; they are read as text, as counts
or as flags.
-/

namespace FlowScript

/-- Nodes are numbered within their graph.  The numbers are to have 32 bits, which the type does not
say: stored graphs with larger ones are refused by `NodeId.decoder`, and for new nodes it is assumed
by `Graph.nextId`. -/
abbrev NodeId := Nat

/-- The side of a node on which a port stands. -/
inductive Direction
  | input
  | output
  deriving DecidableEq, Inhabited

/-- A port of a node; `multi` ports take any number of wires, others one. -/
structure Port where
  key : String
  title : String
  direction : Direction
  tag : Tag
  multi : Bool
  deriving DecidableEq, Inhabited

namespace Port

/-- A value input; it takes one wire. -/
def input (key title : String) (socket : Socket) : Port :=
  { key, title, direction := .input, tag := .value socket, multi := false }

/-- A value output. -/
def output (key title : String) (socket : Socket) (multi : Bool) : Port :=
  { key, title, direction := .output, tag := .value socket, multi }

/-- A flow input. -/
def flowIn (key : String) (title : String := "") : Port :=
  { key, title, direction := .input, tag := .flow, multi := false }

/-- A flow output; it leads to one place. -/
def flowOut (key : String) (title : String := "") : Port :=
  { key, title, direction := .output, tag := .flow, multi := false }

end Port

/-- A place on the canvas in 32-bit floats; a coordinate beyond their range has no value. -/
structure Position where
  x : Option Binary
  y : Option Binary
  deriving DecidableEq

namespace Position

/-- The origin of the canvas. -/
def origin : Position := ⟨some ⟨false, 0, 0⟩, some ⟨false, 0, 0⟩⟩

instance : Inhabited Position := ⟨origin⟩

/-- A 64-bit float as a coordinate. -/
def ofDouble (x : Binary) : Option Binary := FloatFormat.double.narrow? .single x

/-- A number as a coordinate; an integer is rounded once. -/
def coordinate : Number → Option Binary
  | .int z => FloatFormat.single.ofInt? z
  | .float x => ofDouble x

/-- The text of a coordinate. -/
def coordinateText (codec : FloatCodec) : Option Binary → String
  | none => "null"
  | some x => codec.singleText x

end Position

/-- The data of a node. -/
abbrev NodeData := OrderedMap String Json

/-- An instance of a component. -/
structure Node where
  id : NodeId
  component : String
  data : NodeData := .empty
  position : Position := .origin
  inputs : OrderedMap String Port := .empty
  outputs : OrderedMap String Port := .empty
  deriving DecidableEq

namespace Node

/-! ### Data -/

/-- The text of a value that has one: strings, numbers and truth values. -/
def valueText? : Json → Option String
  | .str s => some s
  | .num n => some (Json.numberText .standard n)
  | .bool true => some "true"
  | .bool false => some "false"
  | _ => none

/-- A data entry as text. -/
def text? (n : Node) (key : String) : Option String := n.data.get? key >>= valueText?

/-- A data entry as text, empty if there is none. -/
def textD (n : Node) (key : String) : String := (n.text? key).getD ""

/-- A data entry as a count: a natural number, or a string that spells one. -/
def count? (n : Node) (key : String) : Option Nat :=
  match n.data.get? key with
  | some (.num (.int z)) => if 0 ≤ z ∧ z ≤ Decimal.maxCount then some z.toNat else none
  | some (.str s) => Decimal.count? (Text.trim s.toList)
  | _ => none

/-- A data entry as a flag. -/
def flag (n : Node) (key : String) : Bool :=
  match n.data.get? key with
  | some (.bool b) => b
  | some (.str s) => s == "true"
  | _ => false

/-- Set a data entry. -/
def set (n : Node) (key : String) (value : Json) : Node :=
  { n with data := n.data.insert key value }

/-- Set a data entry that is absent or null. -/
def setDefault (n : Node) (key : String) (value : Json) : Node :=
  match n.data.get? key with
  | none | some .null => n.set key value
  | some _ => n

/-- Remove a data entry. -/
def unset (n : Node) (key : String) : Node := { n with data := n.data.erase key }

/-! ### Ports -/

/-- Add an input, or replace the one with its key. -/
def addInput (n : Node) (p : Port) : Node := { n with inputs := n.inputs.insert p.key p }

/-- Add an output, or replace the one with its key. -/
def addOutput (n : Node) (p : Port) : Node := { n with outputs := n.outputs.insert p.key p }

/-- Add a port on its side. -/
def addPort (n : Node) (p : Port) : Node :=
  match p.direction with
  | .input => n.addInput p
  | .output => n.addOutput p

/-- The input with a key. -/
def input? (n : Node) (key : String) : Option Port := n.inputs.get? key

/-- The output with a key. -/
def output? (n : Node) (key : String) : Option Port := n.outputs.get? key

/-- All ports, inputs first. -/
def ports (n : Node) : List Port := n.inputs.values ++ n.outputs.values

end Node

end FlowScript
