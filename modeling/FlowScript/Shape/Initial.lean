import FlowScript.Graph.Library
import FlowScript.Language.Basic
import FlowScript.Shape.Slot

/-!
# Ports of a new node

A new node gets the ports that its kind asks for, according to its data, the types of the language
and, for module calls, the module's own bridges.  Literals that have a default get it as data.

* `Node.equip`: give a node its ports;
* `modulePorts`: the ports of a module call, one for each named bridge of the module;
* `Graph.create`: make a node of a component.
-/

namespace FlowScript

/-- The usual flow input. -/
def flowInKey : String := "fin"

/-- The usual flow output. -/
def flowOutKey : String := "fout"

/-- The value output. -/
def resultKey : String := "result"

/-- A value output under the usual key. -/
def resultPort (t : DataType) (multi : Bool) : Port := .output resultKey "Result" t.socket multi

/-- The title of a numbered slot: numbers are shown from one. -/
def slotTitle (word : String) (i : Nat) : String := word ++ " " ++ Decimal.text (i + 1)

/-- The type that a data entry names; without one, the type for anything. -/
def Node.typeAt (n : Node) (types : TypeTable) (key : String) : DataType :=
  types.getOrAny (n.text? key)

/-- The ports of a module call, one for each named bridge, in the module's node order. -/
def modulePorts (lang : Language) (callee : Graph) : List Port :=
  callee.nodes.values.filterMap fun n =>
    match n.text? "name" with
    | none => none
    | some name =>
      let socket := (n.typeAt lang.types "typeName").socket
      if name = "" then none
      else if n.component = ComponentTable.moduleInputName then some (.input name name socket)
      else if n.component = ComponentTable.moduleOutputName then
        some (.output name name socket true)
      else if n.component = ComponentTable.flowEntryName then some (.flowIn name name)
      else if n.component = ComponentTable.flowExitName then some (.flowOut name name)
      else none

/-- The graph that a module call refers to. -/
def Library.callee? (lib : Library) (n : Node) : Option Graph := n.text? moduleKey >>= lib.get?

namespace Node

/-- Set a default literal, if there is one. -/
def setLiteral (n : Node) (key : String) (default : Option String) : Node :=
  match default with
  | none => n
  | some text => n.setDefault key (.str text)

/-- Add the usual flow input. -/
def addFlowIn (n : Node) : Node := n.addInput (.flowIn flowInKey)

/-- Add the usual flow output. -/
def addFlowOut (n : Node) : Node := n.addOutput (.flowOut flowOutKey)

/-- Add the input of one parameter of a function, with its default literal. -/
def addParam (types : TypeTable) (n : Node) (param : FieldDesc) : Node :=
  match types.get? param.type with
  | none => n
  | some t =>
    (n.setLiteral param.name t.desc.default).addInput (.input param.name param.name t.socket)

/-- Add a numbered pair of an input for anything and an output of a declared type. -/
def addSlotPair (types : TypeTable) (inStem inTitle outStem outTitle : String) (n : Node)
    (i : Nat) : Node :=
  let socket := (n.typeAt types (slotKey "typeName" i)).socket
  (n.addInput (.input (slotKey inStem i) (slotTitle inTitle i) types.any.socket)).addOutput
    (.output (slotKey outStem i) (slotTitle outTitle i) socket true)

/-- Add a numbered exit. -/
def addExit (n : Node) (i : Nat) : Node :=
  n.addOutput (.flowOut (slotKey "out" i) (slotTitle "Output" i))

/-- Add the input of one assigned field, as its data entry describes it. -/
def addField (types : TypeTable) (n : Node) (i : Nat) : Node :=
  let (title, type) := (fieldSlot? n i).getD ("value", none)
  n.addInput (.input (slotKey "inValue" i) title (types.getOrAny type).socket)

/-- Give a node the ports of its kind. -/
def equip (lang : Language) (lib : Library) (kind : Kind) (n : Node) : Node :=
  let types := lang.types
  let condition : Port := .input "inValue" "Condition" types.logic.socket
  match kind with
  | .literal type =>
    match types.get? type with
    | none => n
    | some t => (n.addOutput (resultPort t t.isLocal)).setLiteral "value" t.desc.default
  | .call function sideEffect =>
    match lang.functions.get? function with
    | none => n
    | some f =>
      let t := types.getOrAny (some f.result)
      let n := if t.isVoid then n else n.addOutput (resultPort t t.isLocal)
      let n := if sideEffect then n.addFlowIn.addFlowOut else n
      f.params.foldl (addParam types) n
  | .topLevelCode => n.addFlowOut
  | .definition =>
    (List.range ((n.count? "numArgs").getD 0)).foldl
      (addSlotPair types "arg" "Argument" "out" "Output") n.addFlowOut
  | .code => n.addFlowIn.addFlowOut
  | .sequence => (List.range ((n.count? "numExits").getD 0)).foldl addExit n.addFlowIn
  | .declaration => n.addOutput (resultPort (n.typeAt types "typeName") true)
  | .record => n
  | .branch =>
    (((n.addFlowIn.addFlowOut).addOutput (.flowOut "then" "then")).addOutput
      (.flowOut "else" "else")).addInput condition
  | .whileLoop => ((n.addFlowIn.addFlowOut).addOutput (.flowOut "body" "body")).addInput condition
  | .forLoop =>
    let count := (n.count? "numArgs").getD 1
    let n := (n.addFlowIn.addFlowOut).addOutput (.flowOut "body" "body")
    let n := n.set "numArgs" (.num (.int count))
    (List.range count).foldl (addSlotPair types "range" "Range" "val" "Value") n
  | .moduleCall =>
    match lib.callee? n with
    | none => n
    | some callee => (modulePorts lang callee).foldl addPort n
  | .moduleInput =>
    n.addOutput (.output "output" "Value" (n.typeAt types "typeName").socket true)
  | .moduleOutput => n.addInput (.input "input" "Value" (n.typeAt types "typeName").socket)
  | .flowEntry => n.addOutput (.flowOut "output")
  | .flowExit => n.addInput (.flowIn "input")
  | .assignment =>
    let n := (n.addFlowIn.addFlowOut).addInput (.input "inVariable" "Variable" types.any.socket)
    let n := n.addOutput (resultPort (n.typeAt types "typeName") true)
    (List.range ((n.count? "numArgs").getD 0)).foldl (addField types) n

end Node

/-- A component that the language does not have. -/
structure UnknownComponent where
  name : String
  deriving DecidableEq

/-- The report on an unknown component. -/
def UnknownComponent.message (e : UnknownComponent) : String := s!"Unknown component: {e.name}"

/-- Make a node of a component with some data, under the next number. -/
def Graph.create (g : Graph) (lang : Language) (lib : Library) (component : String)
    (data : NodeData) : Except UnknownComponent (Graph × Node) :=
  match lang.kind? component with
  | none => .error ⟨component⟩
  | some kind =>
    let n := Node.equip lang lib kind { id := g.nextId, component, data }
    .ok (g.addNode n, n)

end FlowScript
