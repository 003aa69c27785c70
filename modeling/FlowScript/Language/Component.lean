import FlowScript.OrderedMap

/-!
# Components

A component is what a node is an instance of.  The kinds are fixed, except that each type that
takes text has a literal and each function a call.

* `Kind.hasFlowIn`, `Kind.continuesFlow`, `Kind.isTopLevel`: how a kind takes part in control
  flow;
* `ComponentTable.builtin`: the fixed kinds under their names.
-/

namespace FlowScript

/-- The kinds of nodes. -/
inductive Kind
  | literal (type : String)
  | call (function : String) (sideEffect : Bool)
  | topLevelCode
  | code
  | sequence
  | declaration
  | definition
  | record
  | branch
  | whileLoop
  | forLoop
  | moduleCall
  | moduleInput
  | moduleOutput
  | flowEntry
  | flowExit
  | assignment
  deriving DecidableEq, Inhabited

namespace Kind

/-- Nodes of this kind start the generated program. -/
def isTopLevel : Kind → Bool
  | definition | record | topLevelCode => true
  | _ => false

/-- Nodes of this kind are compiled where the control flow reaches them. -/
def hasFlowIn : Kind → Bool
  | call _ sideEffect => sideEffect
  | code | sequence | branch | whileLoop | forLoop | assignment | flowExit => true
  | _ => false

/-- Nodes of this kind are compiled where their value is first asked for. -/
def isLazy (k : Kind) : Bool := !k.hasFlowIn

/-- Control flow goes on after nodes of this kind. -/
def continuesFlow : Kind → Bool
  | call _ sideEffect => sideEffect
  | code | branch | whileLoop | forLoop | assignment => true
  | _ => false

end Kind

/-- Kinds of nodes by component name. -/
abbrev ComponentTable := OrderedMap String Kind

namespace ComponentTable

/-- The name under which module calls are known. -/
def moduleCallName : String := "Module"

/-- The name under which value inputs of a module are known. -/
def moduleInputName : String := "Input"

/-- The name under which value outputs of a module are known. -/
def moduleOutputName : String := "Output"

/-- The name under which flow entries of a module are known. -/
def flowEntryName : String := "InputFlow"

/-- The name under which flow exits of a module are known. -/
def flowExitName : String := "OutputFlow"

/-- The fixed kinds. -/
def builtin : ComponentTable := OrderedMap.ofList [
  ("InjectTopLevelCode", .topLevelCode),
  ("InjectCode", .code),
  ("Sequence", .sequence),
  ("Variable", .declaration),
  ("Function", .definition),
  ("If", .branch),
  ("While", .whileLoop),
  ("For", .forLoop),
  (moduleCallName, .moduleCall),
  (moduleInputName, .moduleInput),
  (moduleOutputName, .moduleOutput),
  (flowEntryName, .flowEntry),
  (flowExitName, .flowExit),
  ("Set", .assignment),
  ("Struct", .record)]

end ComponentTable

end FlowScript
