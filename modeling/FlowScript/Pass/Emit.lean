import FlowScript.Pass.Walk

/-!
# The text of a node

What a node of each kind writes.  Values that are read in one place are kept as expressions, and
values that must not be repeated are declared.

* `Program.recordValue`: keep, declare or just state a value;
* `Program.emit`: the text of a node, by its kind.
-/

namespace FlowScript

/-- A data entry as text, if it is not empty. -/
def Node.filledText? (n : Node) (key : String) : Option String := (n.text? key).filter (· ≠ "")

/-- The name that a definition is given, or its identifier. -/
def Node.nameOr (n : Node) (a : Address) : String := (n.filledText? "name").getD a.ident

namespace Program

/-! ### Values -/

/-- Whether a value has to be declared rather than written in place. -/
def mustBind (p : Program) (t : DataType) (readers : Nat) : Bool :=
  t.isLocal && (1 < readers || !p.settings.optimizeFlow)

/-- Keep a value as an expression or, if it is to be bound, declare it.  A value that nobody can
read is stated without a declaration. -/
def recordValue (a : Address) (t : DataType) (value : Fragment) (bind : Bool) (readers : Nat) :
    Gen Unit :=
  if !bind then modify (·.setResult a value.text value.uses)
  else if t.isVoid || readers == 0 then write a value.text .statement value.uses
  else write a ("let " ++ a.ident ++ " = " ++ value.text) (.declaration a) value.uses

/-- A literal. -/
def emitLiteral (p : Program) (a : Address) (n : Node) (type : String) : Gen Unit :=
  match p.lang.types.get? type with
  | none => p.error a (.unknownType type)
  | some t => do
    modify (·.addImports t.desc.requirements)
    let readers := p.readers a resultKey
    recordValue a t ⟨t.render (n.textD "value") [], []⟩ (p.mustBind t readers) readers

/-- Ask for the value of an argument; where no text can stand for it, it has to be there. -/
def fetch (p : Program) (w : Walk) (a : Address) (key : String) (t : DataType) :
    Gen (Option Producer) :=
  if t.takesText then w.resolve a key else p.demand w a key

/-- The text of one argument: the value at the input, else the literal in the data. -/
def argument (p : Program) (w : Walk) (a : Address) (n : Node) (key : String) (t : DataType) :
    Gen Fragment := do
  match ← p.fetch w a key t with
  | some v => p.reference a key v
  | none =>
    modify (·.addImports t.desc.requirements)
    return ⟨t.render (n.textD key) [], []⟩

/-- Texts of arguments by parameter name, and the occurrences whose identifiers stand in them. -/
structure Arguments where
  texts : OrderedMap String String := .empty
  uses : List Address := []

/-- Add the text of one argument. -/
def Arguments.insert (args : Arguments) (name : String) (value : Fragment) : Arguments :=
  ⟨args.texts.insert name value.text, args.uses ++ value.uses⟩

/-- The texts of the arguments, by parameter name. -/
def arguments (p : Program) (w : Walk) (a : Address) (n : Node) :
    List FieldDesc → Arguments → Gen Arguments
  | [], args => return args
  | param :: params, args =>
    match p.lang.types.get? param.type with
    | none => arguments p w a n params args
    | some t => do
      let value ← p.argument w a n param.name t
      arguments p w a n params (args.insert param.name value)

/-- A call of a function. -/
def emitCall (p : Program) (w : Walk) (a : Address) (n : Node) (function : String)
    (sideEffect : Bool) : Gen Unit :=
  match p.lang.functions.get? function with
  | none => p.error a (.unknownFunction function)
  | some f => do
    let args ← p.arguments w a n f.params {}
    let t := p.lang.types.getOrAny (some f.result)
    modify (·.addImports t.desc.requirements)
    modify (·.addImports f.requirements)
    let readers := p.readers a resultKey
    let bind := sideEffect || p.mustBind t readers
    recordValue a t ⟨f.render args.texts, args.uses⟩ bind readers

/-- A variable. -/
def emitDeclaration (p : Program) (a : Address) (n : Node) : Gen Unit :=
  let t := p.lang.types.getOrAny (n.text? "typeName")
  write a ("var " ++ a.ident ++ ": " ++ t.spelling) (.declaration a)

/-! ### Statements -/

/-- Write a text, if there is one. -/
def writeGiven (a : Address) : Option String → Gen Unit
  | some text => write a text
  | none => return ()

/-- Code given as text. -/
def emitCode (a : Address) (n : Node) : Gen Unit := writeGiven a (n.filledText? "code")

/-- Follow some flow outputs in turn. -/
def followAll (w : Walk) (a : Address) : List String → Gen Unit
  | [] => return ()
  | port :: ports => do
    let _ ← w.follow a port
    followAll w a ports

/-- The exits of a sequence, in the order of their numbers. -/
def emitSequence (w : Walk) (a : Address) (n : Node) : Gen Unit :=
  followAll w a ((List.range (slotCount "out" n.outputs.values)).map (slotKey "out"))

/-- A statement with two arms. -/
def emitBranch (p : Program) (w : Walk) (a : Address) : Gen Unit := do
  match ← p.demand w a "inValue" with
  | none => return ()
  | some v =>
    let condition ← p.reference a "inValue" v
    write a ("if (" ++ condition.text ++ ")") .header condition.uses
    let connected ← p.flowBlock w a "then"
    if !connected then p.report a .thenExitExpected
    write a "else" .header
    let _ ← p.flowBlock w a "else"

/-- A loop under a condition. -/
def emitWhile (p : Program) (w : Walk) (a : Address) : Gen Unit := do
  match ← p.demand w a "inValue" with
  | none => return ()
  | some v =>
    let condition ← p.reference a "inValue" v
    write a ("while (" ++ condition.text ++ ")") .header condition.uses
    let _ ← p.flowBlock w a "body"

/-- The slots of a loop that have a range, each with its text. -/
def loopRanges (p : Program) (w : Walk) (a : Address) : List Nat → Gen (List (Nat × Fragment))
  | [] => return []
  | i :: is => do
    match ← p.valueAt? w a (slotKey "range" i) with
    | some range => return (i, range) :: (← loopRanges p w a is)
    | none => loopRanges p w a is

/-- A loop over ranges. -/
def emitFor (p : Program) (w : Walk) (a : Address) (n : Node) : Gen Unit := do
  let ranges ← p.loopRanges w a (List.range (slotCount "range" n.inputs.values))
  if ranges.isEmpty then p.error a .inputExpected
  else
    let indices := ", ".intercalate (ranges.map (a.indexIdent ·.1))
    let texts := ", ".intercalate (ranges.map (·.2.text))
    write a ("for " ++ indices ++ " in " ++ texts) .header (ranges.flatMap (·.2.uses))
    let _ ← p.flowBlock w a "body"

/-! ### Assignments -/

/-- The literal in the data for a field, rendered. -/
def assignedLiteral? (n : Node) (i : Nat) (title : String) (t : DataType) : Option Fragment :=
  (n.text? (fieldValueKey i title)).map fun text => ⟨t.render text [], []⟩

/-- The literal in the data for a field, unless it is the default of the type. -/
def changedLiteral? (n : Node) (i : Nat) (title : String) (t : DataType) : Option Fragment :=
  if n.text? (fieldValueKey i title) = t.desc.default then none else assignedLiteral? n i title t

/-- Assign a value to a place that the target has. -/
def assign (a : Address) (target : Fragment) (place : String) (value : Fragment) : Gen Unit :=
  write a (target.text ++ place ++ " = " ++ value.text) .statement (target.uses ++ value.uses)

/-- Assign a value to a place that the target has, if there is a value. -/
def assignGiven (a : Address) (target : Fragment) (place : String) : Option Fragment → Gen Unit
  | some value => assign a target place value
  | none => return ()

/-- Assign the fields from a given number on. -/
def assignFields (p : Program) (w : Walk) (a : Address) (n : Node) (target : Fragment) :
    Nat → List FieldDesc → Gen Unit
  | _, [] => return ()
  | i, field :: fields => do
    let value ← p.valueAt? w a (slotKey "inValue" i)
    let t := p.lang.types.getOrAny (some field.type)
    assignGiven a target ("." ++ field.name) (value <|> changedLiteral? n i field.name t)
    assignFields p w a n target (i + 1) fields

/-- An assignment to a variable, or to those of its fields that are given. -/
def emitAssignment (p : Program) (w : Walk) (a : Address) (n : Node) : Gen Unit := do
  match ← p.demand w a "inVariable" with
  | none => return ()
  | some v =>
    let target ← p.reference a "inVariable" v
    let typeName := (p.node? v.address >>= (·.text? "typeName")) <|> n.text? "typeName"
    let t := p.lang.types.getOrAny typeName
    match t.desc.fields with
    | none =>
      let value ← p.valueAt? w a (slotKey "inValue" 0)
      match value <|> assignedLiteral? n 0 "value" t with
      | some value => assign a target "" value
      | none => p.error a .inputExpected
    | some fields =>
      p.assignFields w a n target 0 (fields.take ((n.count? "numArgs").getD 0))

/-! ### Definitions -/

/-- The node whose value is the default of a parameter. -/
def prefill? (p : Program) (a : Address) (i : Nat) : Option Node :=
  (p.feeding? a (slotKey "arg" i)).map (·.2)

/-- The text of one parameter. -/
def parameter? (p : Program) (a : Address) (n : Node) (i : Nat) : Gen (Option String) :=
  let param := a.paramIdent i
  match p.prefill? a i with
  | none =>
    match n.text? (slotKey "typeName" i) >>= p.lang.types.get? with
    | some t => return some (param ++ ": " ++ t.spelling)
    | none => return some param
  | some value =>
    match p.kind? value with
    | some (.literal type) =>
      match p.lang.types.get? type with
      | none => return none
      | some t => do
        modify (·.addImports t.desc.requirements)
        modify (·.markProcessed (a.sibling value.id))
        return some (param ++ " = " ++ t.render (value.textD "value") [])
    | _ => do
      p.error a (.unsupportedArgument value.component)
      return some param

/-- The texts of the parameters. -/
def parameters (p : Program) (a : Address) (n : Node) : List Nat → Gen (List String)
  | [] => return []
  | i :: is => do
    match ← p.parameter? a n i with
    | some text => return text :: (← parameters p a n is)
    | none => parameters p a n is

/-- Record the name of a definition that is marked as the main one. -/
def markMain (n : Node) (name : String) : Gen Unit :=
  if n.flag "mainFuncMark" then modify (·.setMain name) else return ()

/-- A function definition. -/
def emitDefinition (p : Program) (w : Walk) (a : Address) (n : Node) : Gen Unit := do
  let params ← p.parameters a n (List.range ((n.count? "numArgs").getD 0))
  let name := n.nameOr a
  markMain n name
  writeGiven a ((n.filledText? "annotation").map fun text => "[" ++ text ++ "]")
  write a ("def " ++ name ++ "(" ++ "; ".intercalate params ++ ")") .header
  let _ ← p.flowBlock w a flowOutKey
  write a ""

/-- The text of a member of a field description, if it is not empty. -/
def memberText? (field : Json) (key : String) : Option String :=
  match field with
  | .obj members => (members.lookup key >>= Node.valueText?).filter (· ≠ "")
  | _ => none

/-- The line of a field: its name, its type and its default. -/
def fieldLine? (p : Program) (field : Json) : Option String :=
  (memberText? field "valueName").map fun name =>
    match memberText? field "valueType" >>= p.lang.types.get?, memberText? field "value" with
    | some t, some value => name ++ ": " ++ t.spelling ++ " = " ++ t.render value []
    | some t, none => name ++ ": " ++ t.spelling
    | none, some value => name ++ " = " ++ value
    | none, none => name

/-- The lines of the fields of a record. -/
def fieldLines (p : Program) (n : Node) : List String :=
  (List.range ((n.count? "numArgs").getD 0)).filterMap fun i =>
    n.data.get? (slotKey "valueArg" i) >>= p.fieldLine?

/-- Write some texts in turn. -/
def writeAll (a : Address) : List String → Gen Unit
  | [] => return ()
  | text :: texts => do
    write a text
    writeAll a texts

/-- A record definition. -/
def emitRecord (p : Program) (a : Address) (n : Node) : Gen Unit := do
  write a ("struct " ++ n.nameOr a) .header
  Gen.inBlock 1 do
    writeAll a (p.fieldLines n)
    p.fillEmpty a
  write a ""

/-! ### All kinds -/

/-- The text of a node. -/
def emit (p : Program) (w : Walk) (a : Address) (n : Node) : Kind → Gen Unit
  | .literal type => p.emitLiteral a n type
  | .call function sideEffect => p.emitCall w a n function sideEffect
  | .topLevelCode => do
    emitCode a n
    let _ ← w.follow a flowOutKey
  | .code => emitCode a n
  | .sequence => emitSequence w a n
  | .declaration => p.emitDeclaration a n
  | .definition => p.emitDefinition w a n
  | .record => p.emitRecord a n
  | .branch => p.emitBranch w a
  | .whileLoop => p.emitWhile w a
  | .forLoop => p.emitFor w a n
  | .assignment => p.emitAssignment w a n
  | .moduleCall | .moduleInput | .moduleOutput | .flowEntry | .flowExit => return ()

end Program

end FlowScript
