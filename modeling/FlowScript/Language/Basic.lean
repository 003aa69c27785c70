import FlowScript.Language.Component
import FlowScript.Language.FunctionTable

/-!
# Languages

A language is loaded from the core descriptor, its own and the extras: types, functions, and the
components that nodes may be instances of.

Components are entered in a fixed order: the fixed kinds, a literal for each core type that takes
text (under the spelling of the type, in place of an earlier component of that name), and a call
for each function whose name is still free, the language's functions before the core's.
-/

namespace FlowScript

/-- A loaded language. -/
structure Language where
  types : TypeTable
  functions : FunctionTable
  components : ComponentTable
  annotations : List String
  issues : List Issue

namespace Language

/-- Enter the literal of a core type, if the type is known and takes text. -/
def enterLiteral (core : CoreDesc) (types : TypeTable) (components : ComponentTable)
    (desc : TypeDesc) : ComponentTable :=
  if core.voidTypes.contains desc.name || core.anyTypes.contains desc.name then components
  else
    match types.get? desc.name with
    | none => components
    | some t => if t.takesText then components.insert t.spelling (.literal t.name) else components

/-- Enter the call of a function, if the function is known and its name is free. -/
def enterCall (functions : FunctionTable) (components : ComponentTable) (desc : FunctionDesc) :
    ComponentTable :=
  match functions.get? desc.name with
  | none => components
  | some f =>
    if components.contains f.name then components
    else components.insert f.name (.call f.name f.sideEffect)

/-- Load a language from its descriptors. -/
def load (patterns : PatternReader) (core : CoreDesc) (surface : SurfaceDesc) (extra : ExtraDesc) :
    Except LanguageError Language := do
  let (types, issues) ← TypeTable.load patterns core surface
  let components := core.types.foldl (enterLiteral core types) ComponentTable.builtin
  let (functions, issues) := FunctionTable.load types (.empty, issues) surface.functions
  let components := surface.functions.foldl (enterCall functions) components
  let (functions, issues) := FunctionTable.load types (functions, issues) core.functions
  let components := core.functions.foldl (enterCall functions) components
  return { types, functions, components, annotations := extra.annotations, issues }

/-- The kind of a component. -/
def kind? (lang : Language) (component : String) : Option Kind := lang.components.get? component

end Language

end FlowScript
