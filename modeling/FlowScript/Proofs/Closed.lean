import FlowScript.Pattern.Basic
import FlowScript.Proofs.Functions
import FlowScript.Proofs.Grounds

/-!
# Loaded languages are closed

Loading drops types and functions that are not in order, lets a later function take the place of an
earlier one, and enters components under names of different sorts.  Whatever it drops or replaces,
each component that is left finds its type or its function, and each function finds the types of its
parameters and of its result.  So no pass looks for a type or a function of its language in vain.

* `TypeTable.Marked`, `TypeTable.marked_of_load`: which types stand for anything;
* `FunctionTable.Fine`, `FunctionTable.fine_load`: no function with an issue is entered;
* `Language.Closed`: what components and functions refer to is there;
* `Program.Provided`: a pass finds the types and functions that it looks for;
* `Language.closed_of_load`: a loaded language is closed, and its passes find what they look for.
-/

namespace FlowScript

/-! ### Types -/

namespace TypeTable

/-- The type that stands for anything is entered under its name, and no other type stands for
anything unless the core says so. -/
structure Marked (anyTypes : List String) (any : DataType) (types : OrderedMap String DataType) :
    Prop where
  any : types.get? any.name = some any
  others : ∀ {name t}, types.get? name = some t → anyTypes.contains name = false →
    t.isAny = false

theorem Marked.enter {anyTypes voidTypes : List String} {any : DataType}
    {state : OrderedMap String DataType × List Issue} (h : Marked anyTypes any state.1)
    (patterns : PatternReader) (core : OrderedMap String TypeDesc) (desc : TypeDesc) :
    Marked anyTypes any (TypeTable.enter patterns core voidTypes state desc).1 := by
  unfold TypeTable.enter
  dsimp only
  split_ifs with known
  · exact h
  · split
    · rename_i t ht
      -- a name that is taken is not entered again, so the type for anything stays
      have fresh : state.1.get? desc.name = none := by
        simpa [OrderedMap.contains] using known
      constructor
      · rw [OrderedMap.get?_insert, if_neg, h.any]
        rintro same
        rw [same, h.any] at fresh
        cases fresh
      · intro name t' ht' other
        rw [OrderedMap.get?_insert] at ht'
        split_ifs at ht'
        · cases ht'
          exact (DataType.load_eq_ok ht).2.1
        · exact h.others ht' other
    · exact h

/-- The types of a loaded table: the one for anything, the one for conditions, and the others. -/
theorem marked_of_load {patterns : PatternReader} {core : CoreDesc} {surface : SurfaceDesc}
    {types : TypeTable} {issues : List Issue}
    (h : load patterns core surface = .ok (types, issues)) :
    Marked core.anyTypes types.any types.types ∧ types.any.isAny = true ∧
      types.get? core.logicType = some types.logic := by
  unfold load at h
  dsimp only at h
  split at h
  · rename_i anyDesc found
    split at h
    · rename_i any hany
      split at h
      · rename_i logic hlogic
        cases h
        obtain ⟨-, isAny, name⟩ := DataType.load_eq_ok hany
        refine ⟨?_, isAny, hlogic⟩
        refine List.foldlRecOn _ (enter patterns _ core.voidTypes)
          (motive := fun state => Marked core.anyTypes any state.1) ?_ fun state hs desc _ =>
            hs.enter patterns _ desc
        constructor
        · rw [name, OrderedMap.get?_insert_self]
        · intro name' t ht other
          rw [OrderedMap.get?_insert] at ht
          split_ifs at ht with same
          · rw [← same, List.find?_some found] at other
            cases other
          · cases ht
      · cases h
    · cases h
  · cases h

end TypeTable

/-! ### Functions -/

namespace FunctionTable

/-- No function of a table has an issue. -/
def Fine (types : TypeTable) (functions : FunctionTable) : Prop :=
  ∀ name f, functions.get? name = some f → f.issue? types = none

theorem fine_load {types : TypeTable} {state : FunctionTable × List Issue}
    (h : Fine types state.1) (descs : List FunctionDesc) :
    Fine types (load types state descs).1 := by
  refine List.foldlRecOn descs (enter types) (motive := fun state => Fine types state.1) h ?_
  intro state h desc _
  unfold enter
  cases fine : desc.issue? types with
  | some issue => exact h
  | none =>
    intro name f hf
    rw [OrderedMap.get?_insert] at hf
    split_ifs at hf
    · cases hf
      exact fine
    · exact h name f hf

end FunctionTable

/-! ### Components -/

namespace Language

/-- What the components and the functions of a language refer to is there. -/
structure Closed (lang : Language) : Prop where
  literal : ∀ {component type}, lang.kind? component = some (.literal type) →
    ∃ t, lang.types.get? type = some t ∧ t.isVoid = false ∧ t.isAny = false ∧
      t.takesText = true
  call : ∀ {component function sideEffect},
    lang.kind? component = some (.call function sideEffect) →
    ∃ f, lang.functions.get? function = some f ∧
      (∀ param ∈ f.params, ∃ t, lang.types.get? param.type = some t ∧ t.isVoid = false) ∧
      (lang.types.get? f.result).isSome = true
  any : lang.types.get? lang.types.any.name = some lang.types.any ∧ lang.types.any.isAny = true

theorem Closed.isSome_literal {lang : Language} (closed : lang.Closed) {component type : String}
    (hk : lang.kind? component = some (.literal type)) : (lang.types.get? type).isSome = true := by
  obtain ⟨t, ht, -⟩ := closed.literal hk
  rw [ht]
  rfl

/-- Every literal is a literal of a type that can be typed in. -/
def Literals (types : TypeTable) (components : ComponentTable) : Prop :=
  ∀ component type, components.get? component = some (.literal type) →
    ∃ t, types.get? type = some t ∧ t.isVoid = false ∧ t.isAny = false ∧ t.takesText = true

namespace Literals

variable {types : TypeTable} {components : ComponentTable}

theorem enterLiteral {core : CoreDesc} (h : Literals types components)
    (named : TypeTable.Named core.voidTypes types.types)
    (marked : TypeTable.Marked core.anyTypes types.any types.types) (desc : TypeDesc) :
    Literals types (Language.enterLiteral core types components desc) := by
  unfold Language.enterLiteral
  split_ifs with skip
  · exact h
  split
  · exact h
  rename_i t ht
  split_ifs with typed
  · intro component type hk
    rw [OrderedMap.get?_insert] at hk
    split_ifs at hk
    · cases hk
      simp only [Bool.or_eq_true, not_or, Bool.not_eq_true] at skip
      obtain ⟨isVoid, name⟩ := named desc.name t ht
      refine ⟨t, by rw [name, ht], ?_, marked.others ht skip.2, typed⟩
      rw [isVoid, skip.1]
    · exact h component type hk
  · exact h

theorem foldl_enterCall (h : Literals types components) (functions : FunctionTable)
    (descs : List FunctionDesc) :
    Literals types (descs.foldl (Language.enterCall functions) components) := by
  refine List.foldlRecOn descs _ (motive := Literals types) h fun components h desc _ => ?_
  unfold Language.enterCall
  split
  · exact h
  split_ifs
  · exact h
  · intro component type hk
    rw [OrderedMap.get?_insert] at hk
    split_ifs at hk
    · cases hk
    · exact h component type hk

end Literals

/-- Whatever loading drops or replaces, what is left refers to what is there. -/
theorem closed_load {patterns : PatternReader} {core : CoreDesc} {surface : SurfaceDesc}
    {extra : ExtraDesc} {lang : Language} (h : load patterns core surface extra = .ok lang) :
    lang.Closed ∧ lang.types.get? core.logicType = some lang.types.logic := by
  have calls := (calls_of_load h).2
  obtain ⟨issues, first, all, ht, rfl, rfl, functions, components⟩ := load_eq_ok h
  have named := TypeTable.named_of_load ht
  obtain ⟨marked, isAny, logic⟩ := TypeTable.marked_of_load ht
  -- the literals are entered first, and the calls that come after leave them as they are
  have builtin : Literals lang.types ComponentTable.builtin := by
    intro component type hk
    simpa using ComponentTable.get?_builtin hk
  have literals : Literals lang.types
      (core.types.foldl (enterLiteral core lang.types) ComponentTable.builtin) :=
    List.foldlRecOn _ _ (motive := Literals lang.types) builtin
      fun _ hc desc _ => hc.enterLiteral named marked desc
  have empty : FunctionTable.Fine lang.types ((.empty, issues) : FunctionTable × List Issue).1 :=
    fun _ _ none => by cases none
  have fine : FunctionTable.Fine lang.types lang.functions :=
    functions ▸ FunctionTable.fine_load (FunctionTable.fine_load empty surface.functions)
      core.functions
  refine ⟨⟨fun hk => ?_, fun hk => ?_, marked.any, isAny⟩, logic⟩
  · exact (components ▸ (literals.foldl_enterCall _ _).foldl_enterCall _ _) _ _ hk
  · obtain ⟨f, hf⟩ := Option.isSome_iff_exists.1 (calls _ _ _ hk)
    exact ⟨f, hf, FunctionDesc.issue?_eq_none_iff.1 (fine _ _ hf)⟩

end Language

/-! ### Passes -/

namespace Program

/-- A pass is provided with the types and functions that it looks for: it reports none as unknown.
Whatever the walk and the state, each parameter of a function that is called gets a text, and each
parameter of a definition is declared. -/
structure Provided (p : Program) : Prop where
  types : ∀ {s a name}, p.Unfolds s → .problem a (.unknownType name) ∉ s.journal
  functions : ∀ {s a name}, p.Unfolds s → .problem a (.unknownFunction name) ∉ s.journal
  arguments : ∀ {n function sideEffect}, p.kind? n = some (.call function sideEffect) →
    ∃ f, p.lang.functions.get? function = some f ∧ ∀ w a s,
      Gen.Sat False (p.arguments w a n f.params {}) s fun args _ =>
        ∀ param ∈ f.params, (args.texts.get? param.name).isSome = true
  parameters : ∀ a n is s,
    Gen.Sat True (p.parameters a n is) s fun texts _ => texts.length = is.length

variable {p : Program}

/-- Texts that are given stay given, and the parameters whose types are known are given theirs. -/
theorem sat_arguments (w : Walk) (a : Address) (n : Node) {params : List FieldDesc}
    (known : ∀ param ∈ params, (p.lang.types.get? param.type).isSome = true) (args : Arguments)
    (s : Pass) :
    Gen.Sat False (p.arguments w a n params args) s fun args' _ =>
      (∀ name, (args.texts.get? name).isSome = true → (args'.texts.get? name).isSome = true) ∧
        ∀ param ∈ params, (args'.texts.get? param.name).isSome = true := by
  induction params generalizing args s with
  | nil => exact ⟨fun _ h => h, nofun⟩
  | cons param params ih =>
    obtain ⟨here, rest⟩ := List.forall_mem_cons.1 known
    obtain ⟨t, ht⟩ := Option.isSome_iff_exists.1 here
    simp only [arguments, ht]
    refine Gen.Sat.bind (Q := fun _ _ => True) ?_ fun value s' _ => ?_
    · unfold Gen.Sat
      split <;> simp
    refine (ih rest (args.insert param.name value) s').mono fun args' _ h => ?_
    have inserted : ∀ name, ((args.insert param.name value).texts.get? name) =
        if param.name = name then some value.text else args.texts.get? name :=
      fun name => OrderedMap.get?_insert ..
    refine ⟨fun name given => h.1 name ?_, List.forall_mem_cons.2 ⟨h.1 _ ?_, h.2⟩⟩
    · rw [inserted]
      split_ifs
      · rfl
      · exact given
    · simp [inserted]

/-- If the types of literals are known then each parameter has a text, which begins with its
identifier. -/
theorem sat_parameter? (known : ∀ {n type}, p.kind? n = some (.literal type) →
      (p.lang.types.get? type).isSome = true) (a : Address) (n : Node) (i : Nat) (s : Pass) :
    Gen.Sat True (p.parameter? a n i) s
      fun text _ => ∃ rest, text = some (a.paramIdent i ++ rest) := by
  have alone : some (a.paramIdent i) = some (a.paramIdent i ++ "") := by rw [String.append_empty]
  unfold parameter?
  dsimp only
  cases p.prefill? a i with
  | none =>
    cases n.text? (slotKey "typeName" i) >>= p.lang.types.get? with
    | none => exact .pure ⟨_, alone⟩
    | some t => exact .pure ⟨_, by rw [String.append_assoc]⟩
  | some value =>
    dsimp only
    split
    · rename_i type hk
      obtain ⟨t, ht⟩ := Option.isSome_iff_exists.1 (known hk)
      rw [ht]
      exact ⟨_, by rw [String.append_assoc]⟩
    · exact ⟨_, alone⟩

theorem sat_parameters (known : ∀ {n type}, p.kind? n = some (.literal type) →
      (p.lang.types.get? type).isSome = true) (a : Address) (n : Node) (is : List Nat) (s : Pass) :
    Gen.Sat True (p.parameters a n is) s fun texts _ =>
      List.Forall₂ (fun i text => ∃ rest, text = a.paramIdent i ++ rest) is texts := by
  induction is generalizing s with
  | nil => exact .pure .nil
  | cons i is ih =>
    refine (sat_parameter? known a n i s).bind fun text s' given => ?_
    obtain ⟨rest, rfl⟩ := given
    exact (ih s').bind fun texts _ all => .pure (.cons ⟨rest, rfl⟩ all)

/-- Programs over a closed language find what they look for. -/
theorem provided_of_closed (closed : p.lang.Closed) : p.Provided where
  types {s a name} unfolds mem := by
    obtain ⟨⟨component, hk⟩, unknown⟩ := unfolds.warrants mem
    obtain ⟨t, ht, -⟩ := closed.literal hk
    rw [ht] at unknown
    cases unknown
  functions {s a name} unfolds mem := by
    obtain ⟨⟨component, sideEffect, hk⟩, unknown⟩ := unfolds.warrants mem
    obtain ⟨f, hf, -⟩ := closed.call hk
    rw [hf] at unknown
    cases unknown
  arguments {n function sideEffect} hk := by
    obtain ⟨f, hf, params, -⟩ := closed.call hk
    refine ⟨f, hf, fun w a s => (sat_arguments w a n (fun param hp => ?_) {} s).mono
      fun args _ h => h.2⟩
    obtain ⟨t, ht, -⟩ := params param hp
    rw [ht]
    rfl
  parameters a n is s := by
    refine (sat_parameters (fun hk => closed.isSome_literal hk) a n is s).mono
      fun texts _ all => all.length_eq.symm

end Program

/-- A loaded language is closed, its type for conditions is the one that the core names, and every
pass over it finds the types and the functions that it looks for. -/
theorem Language.closed_of_load {patterns : PatternReader} {core : CoreDesc}
    {surface : SurfaceDesc} {extra : ExtraDesc} {lang : Language}
    (h : load patterns core surface extra = .ok lang) :
    lang.Closed ∧ lang.types.get? core.logicType = some lang.types.logic ∧
      ∀ p : Program, p.lang = lang → p.Provided := by
  obtain ⟨closed, logic⟩ := closed_load h
  refine ⟨closed, logic, fun p same => ?_⟩
  subst same
  exact Program.provided_of_closed closed

namespace Sample

/-- A core that gives a function of its own in the place of one of the language, and one that cannot
be called. -/
def patchyCore : CoreDesc where
  types := [{ name := "bool", template := some "$" }, { name := "int", template := some "$" },
    { name := "any", template := some "$" }, { name := "void", template := some "$" },
    { name := "rune", validator := some "[a-z]" }]
  anyTypes := ["any"]
  voidTypes := ["void"]
  logicType := "bool"
  functions := [
    { name := "add", callee := "plus", result := "int", params := [⟨"left", "int"⟩] },
    { name := "drop", callee := "drop", result := "void", params := [⟨"value", "void"⟩] }]

/-- A language with a type that is given twice, one whose validator is no pattern, and a function
that gives out a value of it. -/
def patchySurface : SurfaceDesc where
  types := [{ name := "any", spelling := "any" }, { name := "void", spelling := "void" },
    { name := "bool", spelling := "bool" }, { name := "int", spelling := "int" },
    { name := "int", spelling := "int64" }, { name := "bad", validator := some "(" }]
  functions := [
    { name := "add", callee := "add", result := "int", params := [⟨"x", "int"⟩, ⟨"y", "int"⟩] },
    { name := "make", callee := "make", result := "bad" }]

theorem patchy_loads :
    (Language.load Pattern.reader patchyCore patchySurface {}).toOption.isSome = true := by
  decide +kernel

def patchy : Language :=
  (Language.load Pattern.reader patchyCore patchySurface {}).toOption.get patchy_loads

theorem patchy_load_eq : Language.load Pattern.reader patchyCore patchySurface {} = .ok patchy :=
  eq_ok_get_toOption patchy_loads

/-- Four entries are dropped and one is replaced, and the call that was entered before it was
replaced finds the function that took its place. -/
theorem closed_of_load_patchy :
    Language.load Pattern.reader patchyCore patchySurface {} = .ok patchy ∧
      patchy.issues.length = 4 ∧ patchy.kind? "rune" = none ∧ patchy.kind? "add" = some (.call "add" false) ∧
      (∃ f, patchy.functions.get? "add" = some f ∧ f.callee = "plus" ∧
        ∀ param ∈ f.params, ∃ t, patchy.types.get? param.type = some t ∧ t.isVoid = false) ∧
      ∀ root library, Program.Provided { lang := patchy, root, library } := by
  obtain ⟨closed, -, provided⟩ := Language.closed_of_load patchy_load_eq
  have call : patchy.kind? "add" = some (.call "add" false) := by decide +kernel
  obtain ⟨f, hf, params, -⟩ := closed.call call
  have callee : (patchy.functions.get? "add").map (·.callee) = some "plus" := by decide +kernel
  refine ⟨patchy_load_eq, by decide +kernel, by decide +kernel, call, ⟨f, hf, ?_, params⟩, ?_⟩
  · rw [hf] at callee
    exact Option.some.inj callee
  · exact fun root library => provided _ rfl

end Sample

end FlowScript
