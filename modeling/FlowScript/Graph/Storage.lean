import FlowScript.Graph.Basic
import FlowScript.Json.Decode

/-!
# Stored graphs

The text in which graphs are kept: a JSON object with the nodes under their numbers, every field
written in a fixed order.  `Graph.store` writes it and `Graph.restore?` reads it; both leave floats
to a codec.

Maps keep the order of the text.  A node is looked up by the number it is stored under, which need
not be the one it carries.
-/

namespace FlowScript

/-! ### Writing -/

namespace Json

/-- Texts with commas between them. -/
def commaChars : List (List Char) → List Char
  | [] => []
  | [x] => x
  | x :: xs => x ++ ',' :: commaChars xs

/-- An object of texts. -/
def objectChars (members : List (String × List Char)) : List Char :=
  '\x7b' :: (commaChars (members.map fun (k, x) => quoted k ++ ':' :: x) ++ ['\x7d'])

/-- An array of texts. -/
def arrayChars (items : List (List Char)) : List Char := '[' :: (commaChars items ++ [']'])

end Json

open Json

/-- A tag as stored. -/
def Tag.storedChars : Tag → List Char
  | .flow => quoted "Flow"
  | .value s => objectChars [("Value", objectChars [
      ("type_name", quoted s.typeName), ("is_any", boolChars s.isAny)])]

/-- A direction as stored. -/
def Direction.storedChars : Direction → List Char
  | .input => quoted "Input"
  | .output => quoted "Output"

/-- A port as stored. -/
def Port.storedChars (p : Port) : List Char := objectChars [
  ("key", quoted p.key),
  ("title", quoted p.title),
  ("direction", p.direction.storedChars),
  ("tag", p.tag.storedChars),
  ("multi_connect", boolChars p.multi)]

/-- Ports by key as stored. -/
def storedPorts (ports : OrderedMap String Port) : List Char :=
  objectChars (ports.entries.map fun (k, p) => (k, p.storedChars))

/-- A node as stored. -/
def Node.storedChars (codec : FloatCodec) (n : Node) : List Char := objectChars [
  ("id", Decimal.digits n.id),
  ("component", quoted n.component),
  ("data", objectChars (n.data.entries.map fun (k, v) => (k, v.chars codec))),
  ("position", arrayChars [
    (Position.coordinateText codec n.position.x).toList,
    (Position.coordinateText codec n.position.y).toList]),
  ("inputs", storedPorts n.inputs),
  ("outputs", storedPorts n.outputs)]

/-- A wire as stored. -/
def Wire.storedChars (w : Wire) : List Char := objectChars [
  ("from_node", Decimal.digits w.source),
  ("from_port", quoted w.sourcePort),
  ("to_node", Decimal.digits w.target),
  ("to_port", quoted w.targetPort)]

/-- The text of a graph. -/
def Graph.store (codec : FloatCodec) (g : Graph) : String := String.ofList (objectChars [
  ("name", quoted g.name),
  ("nodes", objectChars (g.nodes.entries.map fun (id, n) =>
    (Decimal.text id, n.storedChars codec))),
  ("connections", arrayChars (g.wires.map Wire.storedChars))])

/-! ### Reading -/

open Decoder

/-- The largest node number. -/
def maxNodeId : Nat := Nat.pow 2 32 - 1

/-- A node number. -/
def NodeId.decoder : Decoder NodeId := nat maxNodeId

/-- A node number as a key: digits without escapes and without leading zeros. -/
def NodeId.ofKey? (spelled : List Char) : Option NodeId :=
  if spelled = Decimal.digits (Decimal.ofDigits spelled) ∧ Decimal.ofDigits spelled ≤ maxNodeId then
    some (Decimal.ofDigits spelled)
  else none

/-- A socket. -/
def Socket.decoder : Decoder Socket := record ["type_name", "is_any"] fun f => do
  return { typeName := ← f.need "type_name" string, isAny := ← f.need "is_any" bool }

/-- A tag: `"Flow"`, or an object with the member `Value`. -/
def Tag.decoder : Decoder Tag :=
  choice (fun s => if s = "Flow" then some .flow else none) fun s depth x =>
    if s = "Flow" then Decoder.null Tag.flow depth x
    else if s = "Value" then (Socket.decoder depth x).map .value
    else none

/-- A direction by name. -/
def Direction.ofName? (s : String) : Option Direction :=
  if s = "Input" then some .input else if s = "Output" then some .output else none

/-- A direction. -/
def Direction.decoder : Decoder Direction :=
  choice ofName? fun s depth x => do Decoder.null (← ofName? s) depth x

/-- A port; every field is required. -/
def Port.decoder : Decoder Port :=
  record ["key", "title", "direction", "tag", "multi_connect"] fun f => do
  return {
    key := ← f.need "key" string
    title := ← f.need "title" string
    direction := ← f.need "direction" Direction.decoder
    tag := ← f.need "tag" Tag.decoder
    multi := ← f.need "multi_connect" bool }

/-- A coordinate: any number, rounded to 64 bits first. -/
def Position.coordinateDecoder (codec : FloatCodec) : Decoder (Option Binary)
  | _, .num n => (Number.ofNumeral? codec n).map coordinate
  | _, _ => none

/-- A position: two coordinates. -/
def Position.decoder (codec : FloatCodec) : Decoder Position := fun depth x =>
  (pair (coordinateDecoder codec) depth x).map fun (x, y) => ⟨x, y⟩

/-- A node; every field is required. -/
def Node.decoder (codec : FloatCodec) : Decoder Node :=
  record ["id", "component", "data", "position", "inputs", "outputs"] fun f => do
  return {
    id := ← f.need "id" NodeId.decoder
    component := ← f.need "component" string
    data := ← f.need "data" (Decoder.map (json codec))
    position := ← f.need "position" (Position.decoder codec)
    inputs := ← f.need "inputs" (Decoder.map Port.decoder)
    outputs := ← f.need "outputs" (Decoder.map Port.decoder) }

/-- A wire; every field is required. -/
def Wire.decoder : Decoder Wire :=
  record ["from_node", "from_port", "to_node", "to_port"] fun f => do
  return {
    source := ← f.need "from_node" NodeId.decoder
    sourcePort := ← f.need "from_port" string
    target := ← f.need "to_node" NodeId.decoder
    targetPort := ← f.need "to_port" string }

/-- A graph; every field is required. -/
def Graph.decoder (codec : FloatCodec) : Decoder Graph :=
  record ["name", "nodes", "connections"] fun f => do
  return {
    name := ← f.need "name" string
    nodes := ← f.need "nodes" (mapBy NodeId.ofKey? (Node.decoder codec))
    wires := ← f.need "connections" (list Wire.decoder) }

/-- The graph of a text. -/
def Graph.restore? (codec : FloatCodec) (text : String) : Option Graph :=
  (Graph.decoder codec).run? text

end FlowScript
