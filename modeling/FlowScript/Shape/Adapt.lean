import FlowScript.Shape.Initial

/-!
# Adapting a node

When the data of a node, its neighbours or its module have changed, its ports are brought in line:
slots are added and removed, outputs are retyped, and wires that no longer fit are cut.

* `Graph.adapt`: adapt one node; the result says which wires were cut.

Each rule is a chain of steps on a graph that note the wires they cut, in order.
-/

namespace FlowScript

/-- A graph and the wires cut so far. -/
structure Adapted where
  graph : Graph
  cut : List Wire := []

namespace Adapted

/-- Change the graph by a step that cuts no wire. -/
def update (a : Adapted) (f : Graph → Graph) : Adapted := { a with graph := f a.graph }

/-- Change the graph by a step that may cut wires. -/
def step (a : Adapted) (f : Graph → Graph × List Wire) : Adapted :=
  let (g, cut) := f a.graph
  { graph := g, cut := a.cut ++ cut }

/-- Cut one wire. -/
def sever (a : Adapted) (w : Wire) : Adapted := a.step fun g => (g.cut w, [w])

end Adapted

/-- The numbers from `a` up to but not including `b`. -/
def between (a b : Nat) : List Nat := List.range' a (b - a)

namespace Graph

variable (lang : Language) (id : NodeId)

/-- The type of the output that feeds an input, if there is one and it is known. -/
def producerType? (g : Graph) (port : String) : Option DataType :=
  g.sourceSocket? id port >>= fun s => lang.types.get? s.typeName

/-- The type of a value input that keeps what it is given.  A producer whose values cannot be kept
is cut off, and the type is then the one for anything. -/
def keptType (a : Adapted) (port : String) (unconnected : DataType) : Adapted × DataType :=
  match a.graph.wireInto? id port with
  | none => (a, unconnected)
  | some w =>
    match a.graph.producerType? lang id port with
    | none => (a, lang.types.any)
    | some t => if !t.isLocal && !t.isAny then (a.sever w, lang.types.any) else (a, t)

/-- Retype an output and note the type in the data. -/
def retypeOutput (a : Adapted) (key dataKey : String) (t : DataType) : Adapted :=
  (a.step fun g => g.setOutputTag id key t.tag).update fun g =>
    g.modifyNode id fun n => n.set dataKey (.str t.name)

/-- An output follows the type declared in the data. -/
def followDeclared (a : Adapted) (key : String) : Adapted :=
  let declared := a.graph.node? id >>= (·.text? "typeName")
  retypeOutput id a key "typeName" (lang.types.getOrAny declared)

/-- An input follows the type of its producer. -/
def followProducer (a : Adapted) : Adapted :=
  let (a, t) := keptType lang id a "input" lang.types.any
  (a.step fun g => g.setInputTag id "input" t.tag).update fun g =>
    g.modifyNode id fun n => n.set "typeName" (.str t.name)

/-- Add a numbered pair of slots for anything. -/
def growSlot (inStem inTitle outStem outTitle : String) (n : Node) (i : Nat) : Node :=
  let any := lang.types.any
  ((n.addInput (.input (slotKey inStem i) (slotTitle inTitle i) any.socket)).addOutput
    (.output (slotKey outStem i) (slotTitle outTitle i) any.socket true)).set
      (slotKey "typeName" i) (.str any.name)

/-- Remove a numbered pair of slots. -/
def shrinkSlot (inStem outStem : String) (a : Adapted) (i : Nat) : Adapted :=
  ((a.step fun g => g.dropInput id (slotKey inStem i)).step fun g =>
    g.dropOutput id (slotKey outStem i)).update fun g =>
      g.modifyNode id fun n => n.unset (slotKey "typeName" i)

/-- Bring the number of paired slots to a count. -/
def resizeSlots (inStem inTitle outStem outTitle : String) (required : Nat) (a : Adapted) :
    Adapted :=
  match a.graph.node? id with
  | none => a
  | some n =>
    let present := slotCount inStem n.inputs.values
    let a := a.update fun g => g.modifyNode id fun n =>
      (between present required).foldl (growSlot lang inStem inTitle outStem outTitle) n
    (between required present).foldl (shrinkSlot id inStem outStem) a

/-- The type of the elements that a producer ranges over: that of its first value input. -/
def elementType (g : Graph) (producer : NodeId) : DataType :=
  let first := do
    let n ← g.node? producer
    let socket ← n.inputs.values.findSome? (·.tag.socket?)
    return socket.typeName
  lang.types.getOrAny first

/-- Type one index of a loop by its range.  A producer that cannot be kept or iterated is cut
off. -/
def adaptRange (a : Adapted) (i : Nat) : Adapted :=
  let range := slotKey "range" i
  let (a, element) :=
    match a.graph.wireInto? id range with
    | none => (a, lang.types.any)
    | some w =>
      match a.graph.producerType? lang id range with
      | some t =>
        if (!t.isLocal && !t.isAny) || !t.isIterable then (a.sever w, lang.types.any)
        else (a, a.graph.elementType lang w.source)
      | none => (a, a.graph.elementType lang w.source)
  retypeOutput id a (slotKey "val" i) (slotKey "typeName" i) element

/-- A loop has as many ranges as its data asks for, at least one by default. -/
def adaptForLoop (a : Adapted) (n : Node) : Adapted :=
  let required := (n.count? "numArgs").getD 1
  let a := a.update fun g => g.modifyNode id fun n => n.set "numArgs" (.num (.int required))
  let a := resizeSlots lang id "range" "Range" "val" "Value" required a
  (List.range required).foldl (adaptRange lang id) a

/-- Type one parameter of a definition by what is wired to it, else as declared. -/
def adaptParam (a : Adapted) (i : Nat) : Adapted :=
  let typeKey := slotKey "typeName" i
  let declared := lang.types.getOrAny (a.graph.node? id >>= (·.text? typeKey))
  let (a, t) := keptType lang id a (slotKey "arg" i) declared
  retypeOutput id a (slotKey "out" i) typeKey t

/-- A definition has as many parameters as its data asks for. -/
def adaptDefinition (a : Adapted) (n : Node) : Adapted :=
  let required := (n.count? "numArgs").getD 0
  let a := resizeSlots lang id "arg" "Argument" "out" "Output" required a
  (List.range required).foldl (adaptParam lang id) a

/-- A sequence has as many exits as its data asks for. -/
def adaptSequence (a : Adapted) (n : Node) : Adapted :=
  let required := (n.count? "numExits").getD 0
  let present := slotCount "out" n.outputs.values
  let a := a.update fun g => g.modifyNode id fun n =>
    (between present required).foldl Node.addExit n
  (between required present).foldl
    (fun a i => a.step fun g => g.dropOutput id (slotKey "out" i)) a

/-- A record keeps the data of as many fields as its data asks for. -/
def adaptRecord (a : Adapted) (n : Node) : Adapted :=
  let required := (n.count? "numArgs").getD 0
  let stale := n.data.keys.filter fun key =>
    match slotIndex? "valueArg" key with
    | none => false
    | some i => required ≤ i
  a.update fun g => g.modifyNode id fun n => stale.foldl Node.unset n

/-- Remove the input and the data of one assigned field. -/
def dropField (a : Adapted) (i : Nat) : Adapted :=
  let key := slotKey "inValue" i
  match a.graph.node? id >>= (·.input? key) with
  | none => a
  | some port =>
    (a.step fun g => g.dropInput id key).update fun g => g.modifyNode id fun n =>
      (n.unset (fieldTypeKey i port.title)).unset (fieldValueKey i port.title)

/-- How many inputs a target asks for: one for each of its fields, as far as counts go, and one if
it has no fields. -/
def fieldCount (fields : Option (List FieldDesc)) (target : Option Node) : Nat :=
  match fields, target with
  | some fields, _ => min fields.length Decimal.maxCount
  | none, some _ => 1
  | none, none => 0

/-- Add the input and the data of one assigned field. -/
def growField (n : Node) (i : Nat) (title : String) (t : DataType) : Node :=
  ((n.addInput (.input (slotKey "inValue" i) title t.socket)).setDefault
    (fieldTypeKey i title) (.str t.name)).setLiteral (fieldValueKey i title) t.desc.default

/-- An assignment has an input for each field of its target, or one for a target without fields.
When the type of the target has changed, the inputs start anew. -/
def adaptAssignment (a : Adapted) : Adapted :=
  let types := lang.types
  let (a, targetType) := keptType lang id a "inVariable" types.any
  let target := a.graph.wireInto? id "inVariable" >>= fun w => a.graph.node? w.source
  let fields := do (← types.get? (← (← target).text? "typeName")).desc.fields
  let required := fieldCount fields target
  match a.graph.node? id with
  | none => a
  | some n =>
    let present := slotCount "inValue" n.inputs.values
    let retyped := (n.output? resultKey).map (·.tag) ≠ some targetType.tag
    let a := if retyped then (List.range present).foldl (dropField id) a else a
    let present := if retyped then 0 else present
    let fieldAt (i : Nat) : String × DataType := match fields with
      | none => ("value", targetType)
      | some fields => match fields[i]? with
        | none => ("value", targetType)
        | some f => (f.name, types.getOrAny (some f.type))
    let a := a.update fun g => g.modifyNode id fun n =>
      (between present required).foldl (fun n i =>
        let (title, t) := fieldAt i
        growField n i title t) n
    let a := (between required present).foldl (dropField id) a
    let a := a.update fun g => g.modifyNode id fun n => n.set "numArgs" (.num (.int required))
    retypeOutput id a resultKey "typeName" targetType

/-- Bring one port of a module call in line with the module: retag it if it is there, else add
it. -/
def adaptPort (a : Adapted) (p : Port) : Adapted :=
  match a.graph.node? id, p.direction with
  | none, _ => a
  | some n, .input =>
    if (n.input? p.key).isSome then a.step fun g => g.setInputTag id p.key p.tag
    else a.update fun g => g.modifyNode id fun n => n.addInput p
  | some n, .output =>
    if (n.output? p.key).isSome then a.step fun g => g.setOutputTag id p.key p.tag
    else a.update fun g => g.modifyNode id fun n => n.addOutput p

/-- A module call has a port for each named bridge of its module. -/
def adaptModuleCall (lib : Library) (a : Adapted) (n : Node) : Adapted :=
  let wanted := match lib.callee? n with
    | none => []
    | some callee => modulePorts lang callee
  let stale (side : Direction) (ports : List Port) : List String :=
    (ports.filter fun p => !wanted.any fun d => d.direction == side && d.key == p.key).map (·.key)
  let a := (stale .input n.inputs.values).foldl (fun a key => a.step fun g => g.dropInput id key) a
  let a := (stale .output n.outputs.values).foldl
    (fun a key => a.step fun g => g.dropOutput id key) a
  wanted.foldl (adaptPort id) a

/-- Bring a node in line with its data, its neighbours and its module; the wires cut on the way
are returned in order. -/
def adapt (g : Graph) (lib : Library) : Graph × List Wire :=
  let a : Adapted := { graph := g }
  let done := match g.node? id with
    | none => a
    | some n =>
      match lang.kind? n.component with
      | some .declaration => followDeclared lang id a resultKey
      | some .moduleInput => followDeclared lang id a "output"
      | some .moduleOutput => followProducer lang id a
      | some .forLoop => adaptForLoop lang id a n
      | some .definition => adaptDefinition lang id a n
      | some .sequence => adaptSequence id a n
      | some .record => adaptRecord id a n
      | some .assignment => adaptAssignment lang id a
      | some .moduleCall => adaptModuleCall lang id lib a n
      | _ => a
  (done.graph, done.cut)

end Graph

end FlowScript
