import FlowScript.Json.Decode

/-!
# Language descriptors

What a backend says about its language: types, functions, and which types play a special part.
The core descriptor is shared by all languages and overlays matching types of the language.

* `TypeDesc.overlay`: the core's word counts where it has one;
* decoders for the descriptor documents; every field has a default, except those of a named slot.
-/

namespace FlowScript

/-- A named, typed slot: a parameter of a function or a field of an aggregate. -/
structure FieldDesc where
  name : String
  type : String
  deriving DecidableEq, Inhabited

/-- A type: its machine name, its spelling in generated code, and how its values are written. -/
structure TypeDesc where
  name : String := ""
  spelling : String := ""
  base : Option String := none
  isRef : Bool := false
  template : Option String := none
  validator : Option String := none
  choices : Option (List String) := none
  default : Option String := none
  isLocal : Option Bool := none
  isIterable : Option Bool := none
  requirements : List String := []
  fields : Option (List FieldDesc) := none
  deriving DecidableEq, Inhabited

/-- A function: its machine name, the name it is called by, and its typed parameters. -/
structure FunctionDesc where
  name : String := ""
  callee : String := ""
  result : String := ""
  params : List FieldDesc := []
  template : Option String := none
  sideEffect : Bool := false
  requirements : List String := []
  deriving DecidableEq, Inhabited

/-- The part that is independent of the language. -/
structure CoreDesc where
  types : List TypeDesc := []
  functions : List FunctionDesc := []
  anyTypes : List String := []
  voidTypes : List String := []
  logicType : String := ""
  deriving DecidableEq, Inhabited

/-- The language's own part. -/
structure SurfaceDesc where
  types : List TypeDesc := []
  functions : List FunctionDesc := []
  deriving DecidableEq, Inhabited

/-- Extras for editors. -/
structure ExtraDesc where
  annotations : List String := []
  deriving DecidableEq, Inhabited

namespace TypeDesc

/-- Overlay a core descriptor: what it gives counts, the machine name stays. -/
def overlay (own core : TypeDesc) : TypeDesc where
  name := own.name
  spelling := if core.spelling = "" then own.spelling else core.spelling
  base := core.base <|> own.base
  isRef := own.isRef || core.isRef
  template := core.template <|> own.template
  validator := core.validator <|> own.validator
  choices := core.choices <|> own.choices
  default := core.default <|> own.default
  isLocal := core.isLocal <|> own.isLocal
  isIterable := core.isIterable <|> own.isIterable
  requirements := if core.requirements = [] then own.requirements else core.requirements
  fields := core.fields <|> own.fields

@[simp] theorem overlay_name (own core : TypeDesc) : (own.overlay core).name = own.name := rfl

end TypeDesc

/-! ### Documents -/

open Decoder

/-- A named slot; both fields are required. -/
def FieldDesc.decoder : Decoder FieldDesc := record ["name", "mn"] fun f => do
  return { name := ← f.need "name" string, type := ← f.need "mn" string }

/-- A type descriptor. -/
def TypeDesc.decoder : Decoder TypeDesc :=
  record ["mn", "typeName", "baseMn", "isRef", "ctor", "validator", "enum", "default", "isLocal",
    "isIterable", "requirements", "args"] fun f => do
  return {
    name := ← f.getD "mn" string ""
    spelling := ← f.getD "typeName" string ""
    base := ← f.get? "baseMn" string
    isRef := ← f.getD "isRef" bool false
    template := ← f.get? "ctor" string
    validator := ← f.get? "validator" string
    choices := ← f.get? "enum" (list string)
    default := ← f.get? "default" string
    isLocal := ← f.get? "isLocal" bool
    isIterable := ← f.get? "isIterable" bool
    requirements := ← f.getD "requirements" (list string) []
    fields := ← f.get? "args" (list FieldDesc.decoder) }

/-- A function descriptor. -/
def FunctionDesc.decoder : Decoder FunctionDesc :=
  record ["mn", "name", "resMn", "args", "ctor", "sideeffect", "requirements"] fun f => do
  return {
    name := ← f.getD "mn" string ""
    callee := ← f.getD "name" string ""
    result := ← f.getD "resMn" string ""
    params := ← f.getD "args" (list FieldDesc.decoder) []
    template := ← f.get? "ctor" string
    sideEffect := ← f.getD "sideeffect" bool false
    requirements := ← f.getD "requirements" (list string) [] }

/-- A core descriptor. -/
def CoreDesc.decoder : Decoder CoreDesc :=
  record ["types", "functions", "anyTypes", "voidTypes", "logicType"] fun f => do
  return {
    types := ← f.getD "types" (list TypeDesc.decoder) []
    functions := ← f.getD "functions" (list FunctionDesc.decoder) []
    anyTypes := ← f.getD "anyTypes" (list string) []
    voidTypes := ← f.getD "voidTypes" (list string) []
    logicType := ← f.getD "logicType" string "" }

/-- A language descriptor. -/
def SurfaceDesc.decoder : Decoder SurfaceDesc := record ["types", "functions"] fun f => do
  return {
    types := ← f.getD "types" (list TypeDesc.decoder) []
    functions := ← f.getD "functions" (list FunctionDesc.decoder) [] }

/-- Editor extras. -/
def ExtraDesc.decoder : Decoder ExtraDesc := record ["funcAnnotations"] fun f => do
  return { annotations := ← f.getD "funcAnnotations" (list string) [] }

end FlowScript
