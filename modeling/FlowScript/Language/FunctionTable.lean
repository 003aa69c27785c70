import FlowScript.Language.TypeTable

/-!
# Functions of a language

The table of functions whose parameters have known types other than void and whose result type is
known.  A later function of the same machine name takes the place of an earlier one.
-/

namespace FlowScript

namespace FunctionDesc

/-- What is wrong with a parameter. -/
def paramIssue? (types : TypeTable) (desc : FunctionDesc) (param : FieldDesc) : Option Issue :=
  match types.get? param.type with
  | none => some (.unknownArgumentType desc.callee param.name param.type)
  | some t => if t.isVoid then some (.voidArgument desc.callee param.name) else none

/-- The first thing wrong with a function: its parameters in order, then its result. -/
def issue? (types : TypeTable) (desc : FunctionDesc) : Option Issue :=
  match desc.params.findSome? (desc.paramIssue? types) with
  | some issue => some issue
  | none =>
    if (types.get? desc.result).isSome then none
    else some (.unknownResultType desc.callee desc.result)

/-- A call with the given texts of its arguments; an argument without one is empty. -/
def render (desc : FunctionDesc) (args : OrderedMap String String) : String :=
  let text (p : FieldDesc) : String := (args.get? p.name).getD ""
  match desc.template with
  | none => desc.callee ++ "(" ++ ", ".intercalate (desc.params.map text) ++ ")"
  | some template => Template.fill template (desc.params.map fun p => (p.name, text p))

end FunctionDesc

/-- The functions of a language by machine name. -/
abbrev FunctionTable := OrderedMap String FunctionDesc

namespace FunctionTable

/-- Enter one function, or report what is wrong with it. -/
def enter (types : TypeTable) (state : FunctionTable × List Issue) (desc : FunctionDesc) :
    FunctionTable × List Issue :=
  match desc.issue? types with
  | none => (state.1.insert desc.name desc, state.2)
  | some issue => (state.1, state.2 ++ [issue])

/-- Enter a list of functions. -/
def load (types : TypeTable) (state : FunctionTable × List Issue) (descs : List FunctionDesc) :
    FunctionTable × List Issue :=
  descs.foldl (enter types) state

end FunctionTable

end FlowScript
