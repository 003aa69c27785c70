import FlowScript.Proofs.Linked

/-!
# The functions of a loaded language

Loading enters a function only if the types of its parameters are known, and a call only for a
function that is known.  A function that is entered again takes the place of the earlier one, so
calls that were entered before keep a function of their name.

* `FunctionDesc.issue?_eq_none_iff`: when a function is in order;
* `FunctionTable.Regular`, `FunctionTable.regular_load`: what loading sees to;
* `Language.Calls`, `Language.calls_of_load`: every call is a call of a known function;
* `Program.Linked.param_type`, `Program.Linked.function`: the same for programs.
-/

namespace FlowScript

/-- A function is fine if the types of its parameters are known and not void and the type of its
result is known. -/
theorem FunctionDesc.issue?_eq_none_iff {types : TypeTable} {desc : FunctionDesc} :
    desc.issue? types = none ↔
      (∀ param ∈ desc.params, ∃ t, types.get? param.type = some t ∧ t.isVoid = false) ∧
        (types.get? desc.result).isSome = true := by
  have param : ∀ param, desc.paramIssue? types param = none ↔
      ∃ t, types.get? param.type = some t ∧ t.isVoid = false := by
    intro param
    unfold paramIssue?
    cases types.get? param.type with
    | none => simp
    | some t => cases t.isVoid <;> simp
  unfold issue?
  cases hs : desc.params.findSome? (desc.paramIssue? types) with
  | some issue =>
    obtain ⟨x, hx, issues⟩ := List.exists_of_findSome?_eq_some hs
    simp only [reduceCtorEq, false_iff, not_and]
    intro all
    rw [(param x).2 (all x hx)] at issues
    cases issues
  | none =>
    have all := fun x hx => (param x).1 (List.findSome?_eq_none_iff.1 hs x hx)
    rw [and_iff_right all]
    split_ifs with known <;> simp [known]

namespace FunctionTable

/-- Every function of a table stands under its name, and the types of its parameters are known. -/
structure Regular (types : TypeTable) (functions : FunctionTable) : Prop where
  name : ∀ {name f}, functions.get? name = some f → f.name = name
  known : ∀ {name f}, functions.get? name = some f → ∀ param ∈ f.params,
    (types.get? param.type).isSome

theorem regular_empty (types : TypeTable) : Regular types .empty where
  name hf := by cases hf
  known hf := by cases hf

theorem Regular.insert {types : TypeTable} {functions : FunctionTable} (h : Regular types functions)
    {desc : FunctionDesc} (fine : desc.issue? types = none) :
    Regular types (functions.insert desc.name desc) := by
  constructor
  · intro name f hf
    rw [OrderedMap.get?_insert] at hf
    split_ifs at hf with same
    · cases hf
      exact same
    · exact h.name hf
  · intro name f hf
    rw [OrderedMap.get?_insert] at hf
    split_ifs at hf
    · cases hf
      intro param hparam
      obtain ⟨t, ht, -⟩ := (FunctionDesc.issue?_eq_none_iff.1 fine).1 param hparam
      rw [ht]
      rfl
    · exact h.known hf

theorem regular_load {types : TypeTable} {state : FunctionTable × List Issue}
    (h : Regular types state.1) (descs : List FunctionDesc) :
    Regular types (load types state descs).1 := by
  refine List.foldlRecOn descs (enter types) (motive := fun state => Regular types state.1) h ?_
  intro state h desc _
  unfold enter
  cases fine : desc.issue? types with
  | some issue => exact h
  | none => exact h.insert fine

/-- A name that is known stays known while more functions are loaded. -/
theorem isSome_load {types : TypeTable} {state : FunctionTable × List Issue} {name : String}
    (h : (state.1.get? name).isSome) (descs : List FunctionDesc) :
    ((load types state descs).1.get? name).isSome := by
  refine List.foldlRecOn descs (enter types)
    (motive := fun state => (state.1.get? name).isSome = true) h ?_
  intro state h desc _
  unfold enter
  cases desc.issue? types with
  | some issue => exact h
  | none =>
    rw [OrderedMap.get?_insert]
    split_ifs
    · rfl
    · exact h

end FunctionTable

namespace Language

/-- Every call is a call of a function of a table. -/
def Calls (functions : FunctionTable) (components : ComponentTable) : Prop :=
  ∀ component function sideEffect,
    components.get? component = some (.call function sideEffect) → (functions.get? function).isSome

theorem calls_builtin (functions : FunctionTable) : Calls functions ComponentTable.builtin := by
  intro component function sideEffect hk
  simpa using ComponentTable.get?_builtin hk

namespace Calls

variable {functions : FunctionTable} {components : ComponentTable}

theorem enterLiteral (h : Calls functions components) (core : CoreDesc) (types : TypeTable)
    (desc : TypeDesc) : Calls functions (Language.enterLiteral core types components desc) := by
  unfold Language.enterLiteral
  split_ifs
  · exact h
  split
  · exact h
  split_ifs
  · intro component function sideEffect hk
    rw [OrderedMap.get?_insert] at hk
    split_ifs at hk
    · cases hk
    · exact h component function sideEffect hk
  · exact h

theorem enterCall {types : TypeTable} (h : Calls functions components)
    (regular : functions.Regular types) (desc : FunctionDesc) :
    Calls functions (Language.enterCall functions components desc) := by
  unfold Language.enterCall
  split
  · exact h
  rename_i f hf
  split_ifs
  · exact h
  · intro component function sideEffect hk
    rw [OrderedMap.get?_insert] at hk
    split_ifs at hk
    · cases hk
      rw [regular.name hf, hf]
      rfl
    · exact h component function sideEffect hk

theorem foldl_enterCall {types : TypeTable} (h : Calls functions components)
    (regular : functions.Regular types) (descs : List FunctionDesc) :
    Calls functions (descs.foldl (Language.enterCall functions) components) :=
  List.foldlRecOn descs _ (motive := Calls functions) h fun _ hc desc _ => hc.enterCall regular desc

end Calls

/-- The functions of a loaded language are regular, and its calls are calls of them. -/
theorem calls_of_load {patterns : PatternReader} {core : CoreDesc} {surface : SurfaceDesc}
    {extra : ExtraDesc} {lang : Language} (h : load patterns core surface extra = .ok lang) :
    lang.functions.Regular lang.types ∧ Calls lang.functions lang.components := by
  obtain ⟨issues, first, all, -, rfl, rfl, functions, components⟩ := load_eq_ok h
  -- the functions and calls of the surface come first, then those of the core
  have start : FunctionTable.Regular lang.types
      ((.empty, issues) : FunctionTable × List Issue).1 :=
    FunctionTable.regular_empty lang.types
  have first := FunctionTable.regular_load start surface.functions
  have second := FunctionTable.regular_load first core.functions
  have literals : Calls (FunctionTable.load lang.types (.empty, issues) surface.functions).1
      (core.types.foldl (enterLiteral core lang.types) ComponentTable.builtin) :=
    List.foldlRecOn _ _ (motive := Calls _) (calls_builtin _)
      fun _ hc desc _ => hc.enterLiteral core lang.types desc
  have calls := literals.foldl_enterCall first surface.functions
  rw [functions, components]
  refine ⟨second, Calls.foldl_enterCall (fun component function sideEffect hk => ?_) second
    core.functions⟩
  exact FunctionTable.isSome_load (calls component function sideEffect hk) core.functions

end Language

namespace Program.Linked

variable {p : Program}

/-- In a linked program the types of all parameters are known. -/
theorem param_type (h : p.Linked) {function : String} {f : FunctionDesc}
    (hf : p.lang.functions.get? function = some f) {param : FieldDesc} (hparam : param ∈ f.params) :
    (p.lang.types.get? param.type).isSome := by
  obtain ⟨patterns, core, surface, extra, loads⟩ := h.loaded
  exact (Language.calls_of_load loads).1.known hf param hparam

/-- In a linked program every call is a call of a function that is known. -/
theorem function (h : p.Linked) {a : Address} {function : String} {sideEffect : Bool}
    (hk : p.kindAt? a = some (.call function sideEffect)) :
    ∃ f, p.lang.functions.get? function = some f := by
  obtain ⟨patterns, core, surface, extra, loads⟩ := h.loaded
  obtain ⟨n, -, hk⟩ := Option.bind_eq_some_iff.1 hk
  exact Option.isSome_iff_exists.1 ((Language.calls_of_load loads).2 n.component _ _ hk)

end Program.Linked

end FlowScript
