import FlowScript.Language.Descriptor
import FlowScript.Language.Template
import FlowScript.Tag

/-!
# Types of a language

The table of loaded types.  The type that stands for anything comes first and is kept as the
language gives it; every other type of the language is overlaid by the core's word for its base,
unless it is a reference, or for itself, and enters the table under its own name.  A second entry
of a name and an entry whose validator is no pattern are dropped and reported.  What a pattern is,
is up to the reader of patterns that loading is given.

* `PatternReader`: what can be asked of patterns;
* `TypeTable.load`: the table and the reports, or what is missing;
* `DataType.render`: a literal through the template of its type.
-/

namespace FlowScript

/-- A reader of patterns: for a text, whether the pattern matches somewhere in another, or why there
is no pattern. -/
abbrev PatternReader := String → Except String (String → Bool)

/-- Why an entry of a descriptor was dropped. -/
inductive Issue
  | duplicateType (name : String)
  | invalidValidator (type reason : String)
  | unknownArgumentType (function argument type : String)
  | voidArgument (function argument : String)
  | unknownResultType (function type : String)
  deriving DecidableEq

/-- The report on a dropped entry. -/
def Issue.message : Issue → String
  | duplicateType name => s!"Type {name} already exists"
  | invalidValidator type reason => s!"Type {type} has invalid validator: {reason}"
  | unknownArgumentType function argument type =>
    s!"Function's {function} argument {argument} with unknown type {type}"
  | voidArgument function argument => s!"Function's {function} argument {argument} is void"
  | unknownResultType function type => s!"Function {function} has unknown result type {type}"

/-- Why a language cannot be loaded. -/
inductive LanguageError
  | missingAnyType
  | missingLogicType (name : String)
  deriving DecidableEq

/-- What is wrong with the language. -/
def LanguageError.message : LanguageError → String
  | missingAnyType => "Language has no designated any type"
  | missingLogicType name => s!"Logic type '{name}' is not defined by the language"

/-- What loading gives where it succeeds. -/
theorem eq_ok_get_toOption {ε α : Type} {x : Except ε α} (h : x.toOption.isSome = true) :
    x = .ok (x.toOption.get h) := by
  cases x with
  | ok a => rfl
  | error e => exact nomatch h

/-- A loaded type: its descriptor, its part, and its validator as a pattern. -/
structure DataType where
  desc : TypeDesc
  isVoid : Bool
  isAny : Bool
  validator : Option (String → Bool)
  deriving Inhabited

namespace DataType

/-- Load the type of a descriptor, whose validator has to be a pattern. -/
def load (patterns : PatternReader) (desc : TypeDesc) (isVoid isAny : Bool) :
    Except Issue DataType :=
  match desc.validator with
  | none => .ok { desc, isVoid, isAny, validator := none }
  | some text =>
    match patterns text with
    | .ok occursIn => .ok { desc, isVoid, isAny, validator := some occursIn }
    | .error reason => .error (.invalidValidator desc.name reason)

/-- The machine name. -/
def name (t : DataType) : String := t.desc.name

/-- The spelling in generated code. -/
def spelling (t : DataType) : String := t.desc.spelling

/-- Whether values may be bound to a name. -/
def isLocal (t : DataType) : Bool := t.desc.isLocal.getD false

/-- Whether a loop can range over values. -/
def isIterable (t : DataType) : Bool := t.desc.isIterable.getD false

/-- The socket of ports of this type: derived types share the socket of their base. -/
def socket (t : DataType) : Socket := ⟨t.desc.base.getD t.desc.name, t.isAny⟩

/-- The tag of ports of this type. -/
def tag (t : DataType) : Tag := .value t.socket

/-- Whether a value can be typed in. -/
def takesText (t : DataType) : Bool :=
  t.desc.validator.isSome || t.desc.template.isSome || t.desc.choices.isSome

/-- Whether a literal is among the choices and passes the validator. -/
def accepts (t : DataType) (literal : String) : Bool :=
  (match t.desc.choices with
    | none => true
    | some choices => choices.contains literal) &&
  (match t.validator with
    | none => true
    | some occursIn => occursIn literal)

/-- A text through the template of the type: named arguments fill named holes, without any the
text fills the first hole. -/
def render (t : DataType) (text : String) (args : List Template.Argument) : String :=
  match t.desc.template with
  | none => text
  | some template =>
    if args = [] then Template.fillFirst template text else Template.fill template args

end DataType

/-- The types of a language, the one for anything and the one for conditions. -/
structure TypeTable where
  types : OrderedMap String DataType
  any : DataType
  logic : DataType

namespace TypeTable

/-- The type of a machine name. -/
def get? (t : TypeTable) (name : String) : Option DataType := t.types.get? name

/-- The type of a machine name; without one, the type for anything. -/
def getOrAny (t : TypeTable) (name : Option String) : DataType := (name.bind t.get?).getD t.any

/-- The core's word for a type: of its base first, unless it is a reference, then of itself. -/
def overlayFor? (core : OrderedMap String TypeDesc) (desc : TypeDesc) : Option TypeDesc :=
  match desc.base, desc.isRef with
  | some base, false => core.get? base <|> core.get? desc.name
  | _, _ => core.get? desc.name

/-- Enter one type of the language. -/
def enter (patterns : PatternReader) (core : OrderedMap String TypeDesc) (voidTypes : List String)
    (state : OrderedMap String DataType × List Issue) (desc : TypeDesc) :
    OrderedMap String DataType × List Issue :=
  let (types, issues) := state
  if types.contains desc.name then (types, issues ++ [.duplicateType desc.name])
  else
    let merged := match overlayFor? core desc with
      | none => desc
      | some c => desc.overlay c
    match DataType.load patterns merged (voidTypes.contains desc.name) false with
    | .ok t => (types.insert desc.name t, issues)
    | .error issue => (types, issues ++ [issue])

/-- Load the types of a language. -/
def load (patterns : PatternReader) (core : CoreDesc) (surface : SurfaceDesc) :
    Except LanguageError (TypeTable × List Issue) := do
  let coreTypes := OrderedMap.ofList (core.types.map fun d => (d.name, d))
  let isAny (d : TypeDesc) : Bool := core.anyTypes.contains d.name
  let some anyDesc := surface.types.find? isAny | throw .missingAnyType
  let .ok any := DataType.load patterns anyDesc (core.voidTypes.contains anyDesc.name) true
    | throw .missingAnyType
  let start : OrderedMap String DataType := OrderedMap.empty.insert anyDesc.name any
  let (types, issues) := (surface.types.filter (!isAny ·)).foldl
    (enter patterns coreTypes core.voidTypes) (start, [])
  let some logic := types.get? core.logicType | throw (.missingLogicType core.logicType)
  return ({ types, any, logic }, issues)

end TypeTable

end FlowScript
