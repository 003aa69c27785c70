import FlowScript.Proofs.Closed

/-!
# The side effects of calls

A call is marked as having side effects when it is entered, after the function that stands under its
name at that time.  The functions of the language come first and those of the core later.  Among the
functions of one list the last one counts, for the table and for the mark.  A function of the core
takes the place of one of the language of the same name, but the call has been entered by then and
keeps its mark.

* `FunctionTable.lastFine?`, `FunctionTable.get?_load`: what a list leaves under a name;
* `Language.Marks`: which functions the marks are taken from, kept by `enterCall`;
* `Language.mark_of_load`: the mark of every call, and when it is that of the function called.
-/

namespace FlowScript

namespace FunctionTable

/-- The last function of a name in a list that has no issue. -/
def lastFine? (types : TypeTable) (descs : List FunctionDesc) (name : String) :
    Option FunctionDesc :=
  (descs.filter fun desc => desc.name = name ∧ desc.issue? types = none).getLast?

theorem lastFine?_concat (types : TypeTable) (descs : List FunctionDesc) (desc : FunctionDesc)
    (name : String) :
    lastFine? types (descs ++ [desc]) name =
      if desc.name = name ∧ desc.issue? types = none then some desc
      else lastFine? types descs name := by
  unfold lastFine?
  rw [List.filter_append]
  split_ifs with fine <;> simp [fine]

theorem mem_of_lastFine? {types : TypeTable} {descs : List FunctionDesc} {name : String}
    {f : FunctionDesc} (h : lastFine? types descs name = some f) : f ∈ descs ∧ f.name = name := by
  have mem := List.mem_filter.1 (List.mem_of_getLast? h)
  exact ⟨mem.1, (of_decide_eq_true mem.2).1⟩

/-- Loading a list leaves the last function that has no issue under each name, and the names that
have none as they were. -/
theorem get?_load (types : TypeTable) (state : FunctionTable × List Issue)
    (descs : List FunctionDesc) (name : String) :
    (load types state descs).1.get? name =
      (lastFine? types descs name <|> state.1.get? name) := by
  induction descs using List.reverseRecOn with
  | nil => rfl
  | append_singleton descs desc ih =>
    rw [lastFine?_concat, load, List.foldl_concat, enter]
    rw [load] at ih
    cases fine : desc.issue? types with
    | some issue => simpa using ih
    | none =>
      rw [OrderedMap.get?_insert]
      by_cases same : desc.name = name
      · simp [same]
      · simpa [same] using ih

end FunctionTable

namespace Language

/-! ### Names that are taken -/

section Taken

variable {functions : FunctionTable} {components : ComponentTable}

theorem contains_enterCall {name : String} (h : components.contains name = true)
    (desc : FunctionDesc) : (enterCall functions components desc).contains name = true := by
  unfold enterCall
  split
  · exact h
  split_ifs
  · exact h
  · rw [OrderedMap.contains_iff] at h ⊢
    rw [OrderedMap.keys_insert]
    split_ifs
    · exact h
    · exact List.mem_append_left _ h

/-- Once the calls of a list are entered, the names of its functions are taken. -/
theorem contains_foldl_enterCall {types : TypeTable} (regular : functions.Regular types)
    {descs : List FunctionDesc} {desc : FunctionDesc} (mem : desc ∈ descs)
    (known : (functions.get? desc.name).isSome = true) :
    (descs.foldl (enterCall functions) components).contains desc.name = true := by
  obtain ⟨before, after, rfl⟩ := List.append_of_mem mem
  rw [List.foldl_append, List.foldl_cons]
  refine List.foldlRecOn after _
    (motive := fun (c : ComponentTable) => c.contains desc.name = true) ?_
    fun c hc d _ => contains_enterCall hc d
  obtain ⟨f, hf⟩ := Option.isSome_iff_exists.1 known
  unfold enterCall
  simp only [hf, regular.name hf]
  split_ifs with taken
  · exact taken
  · simp [OrderedMap.contains]

end Taken

/-! ### Marks -/

/-- Every call has the mark of the function that `marking` gives for it. -/
def Marks (marking : String → Option FunctionDesc) (components : ComponentTable) : Prop :=
  ∀ component function sideEffect,
    components.get? component = some (.call function sideEffect) →
      ∃ f, marking function = some f ∧ sideEffect = f.sideEffect

namespace Marks

variable {marking : String → Option FunctionDesc} {components : ComponentTable}

theorem builtin (marking : String → Option FunctionDesc) :
    Marks marking ComponentTable.builtin := by
  intro component function sideEffect hk
  simpa using ComponentTable.get?_builtin hk

theorem enterLiteral (h : Marks marking components) (core : CoreDesc) (types : TypeTable)
    (desc : TypeDesc) : Marks marking (Language.enterLiteral core types components desc) := by
  unfold Language.enterLiteral
  split_ifs
  · exact h
  split
  · exact h
  split_ifs
  · intro component function sideEffect hk
    rw [OrderedMap.get?_insert] at hk
    split_ifs at hk
    · cases hk
    · exact h component function sideEffect hk
  · exact h

variable {types : TypeTable} {functions : FunctionTable}

/-- A call is entered only under a name that is free, so the functions have to be those that the
marks are taken from only where the name is free. -/
theorem enterCall (h : Marks marking components) (regular : functions.Regular types)
    (free : ∀ {name f}, functions.get? name = some f →
      components.contains name = true ∨ marking name = some f)
    (desc : FunctionDesc) : Marks marking (Language.enterCall functions components desc) := by
  unfold Language.enterCall
  split
  · exact h
  rename_i f hf
  split_ifs with taken
  · exact h
  · intro component function sideEffect hk
    rw [OrderedMap.get?_insert] at hk
    split_ifs at hk
    · cases hk
      rw [regular.name hf] at taken ⊢
      exact ⟨f, (free hf).resolve_left taken, rfl⟩
    · exact h component function sideEffect hk

theorem foldl_enterCall (h : Marks marking components) (regular : functions.Regular types)
    (free : ∀ {name f}, functions.get? name = some f →
      components.contains name = true ∨ marking name = some f)
    (descs : List FunctionDesc) :
    Marks marking (descs.foldl (Language.enterCall functions) components) := by
  -- names that are taken stay taken, so what is asked of the free names still holds
  refine (List.foldlRecOn descs _ (motive := fun (c : ComponentTable) => Marks marking c ∧
    ∀ name f, functions.get? name = some f → c.contains name = true ∨ marking name = some f)
    ⟨h, fun _ _ => free⟩ ?_).1
  rintro c ⟨marks, free⟩ desc -
  exact ⟨marks.enterCall regular (fun {name f} => free name f) desc,
    fun name f hf => (free name f hf).imp_left fun taken => contains_enterCall taken desc⟩

end Marks

/-- The functions of a loaded language are those of the core first and of the language second, and
the marks are taken from those of the language first and of the core second. -/
theorem marks_of_load {patterns : PatternReader} {core : CoreDesc} {surface : SurfaceDesc}
    {extra : ExtraDesc} {lang : Language} (h : load patterns core surface extra = .ok lang) :
    (∀ name, lang.functions.get? name =
      (FunctionTable.lastFine? lang.types core.functions name <|>
        FunctionTable.lastFine? lang.types surface.functions name)) ∧
    Marks (fun name => FunctionTable.lastFine? lang.types surface.functions name <|>
      FunctionTable.lastFine? lang.types core.functions name) lang.components := by
  obtain ⟨issues, first, all, -, hfirst, hall, functions, components⟩ := load_eq_ok h
  have inFirst : ∀ name, first.1.get? name =
      FunctionTable.lastFine? lang.types surface.functions name := by
    intro name
    rw [hfirst, FunctionTable.get?_load]
    cases FunctionTable.lastFine? lang.types surface.functions name <;> rfl
  have inAll : ∀ name, all.1.get? name =
      (FunctionTable.lastFine? lang.types core.functions name <|>
        FunctionTable.lastFine? lang.types surface.functions name) := by
    intro name
    rw [hall, FunctionTable.get?_load, inFirst]
  have regularFirst : first.1.Regular lang.types :=
    hfirst ▸ FunctionTable.regular_load (FunctionTable.regular_empty _) surface.functions
  have regularAll : all.1.Regular lang.types :=
    hall ▸ FunctionTable.regular_load regularFirst core.functions
  rw [functions, components]
  refine ⟨inAll, Marks.foldl_enterCall (Marks.foldl_enterCall ?_ regularFirst ?_ _) regularAll ?_ _⟩
  · exact List.foldlRecOn _ _ (motive := Marks _) (Marks.builtin _)
      fun _ marks desc _ => marks.enterLiteral core lang.types desc
  · intro name f hf
    rw [inFirst] at hf
    exact .inr (by simp [hf])
  · -- the names of the language are taken by now
    intro name f hf
    cases own : FunctionTable.lastFine? lang.types surface.functions name with
    | none => exact .inr (by simpa [inAll, own] using hf)
    | some a =>
      obtain ⟨mem, rfl⟩ := FunctionTable.mem_of_lastFine? own
      exact .inl (contains_foldl_enterCall regularFirst mem (by rw [inFirst, own]; rfl))

/-- The mark of a call is that of the last function of its name in the language, or in the core if
the language has none, and the function called is the last one in the core, or in the language if the
core has none.  So the call has the mark of the function called unless both give a function of the
name and the two are marked differently. -/
theorem mark_of_load {patterns : PatternReader} {core : CoreDesc} {surface : SurfaceDesc}
    {extra : ExtraDesc} {lang : Language} (h : load patterns core surface extra = .ok lang)
    {component function : String} {sideEffect : Bool}
    (hk : lang.kind? component = some (.call function sideEffect)) :
    let own := FunctionTable.lastFine? lang.types surface.functions function
    let shared := FunctionTable.lastFine? lang.types core.functions function
    ∃ f marking, lang.functions.get? function = some f ∧
      (shared <|> own) = some f ∧ (own <|> shared) = some marking ∧
      sideEffect = marking.sideEffect ∧
      (sideEffect = f.sideEffect ↔
        ∀ a b, own = some a → shared = some b → a.sideEffect = b.sideEffect) := by
  intro own shared
  obtain ⟨functions, marks⟩ := marks_of_load h
  obtain ⟨marking, found, rfl⟩ := marks component function sideEffect hk
  have found : (own <|> shared) = some marking := found
  have called : lang.functions.get? function = (shared <|> own) := functions function
  rw [called]
  cases hown : own with
  | none =>
    -- the function is one of the core alone
    have hshared : shared = some marking := by simpa [hown] using found
    exact ⟨marking, marking, by simp [hshared], by simp [hshared], by simp [hshared], rfl, by simp⟩
  | some a =>
    have same : a = marking := by simpa [hown] using found
    subst same
    cases hshared : shared with
    | none => exact ⟨a, a, rfl, rfl, rfl, rfl, by simp⟩
    | some b => exact ⟨b, a, rfl, rfl, rfl, rfl, by simp⟩

end Language

namespace Sample

/-- A core with a function that has side effects. -/
def tickingCore : CoreDesc where
  types := [{ name := "bool", template := some "$" }]
  anyTypes := ["any"]
  voidTypes := ["void"]
  logicType := "bool"
  functions := [
    { name := "tick", callee := "tick", result := "int", sideEffect := true },
    { name := "stop", callee := "stop", result := "void", sideEffect := true }]

/-- A language that has a function of the same name without side effects, given twice. -/
def tickingSurface : SurfaceDesc where
  types := [{ name := "any", spelling := "any" }, { name := "void", spelling := "void" },
    { name := "bool", spelling := "bool" }, { name := "int", spelling := "int" }]
  functions := [
    { name := "tick", callee := "tock", result := "int", sideEffect := true },
    { name := "tick", callee := "tick", result := "int" }]

theorem ticking_loads :
    (Language.load Pattern.reader tickingCore tickingSurface {}).toOption.isSome = true := by
  decide +kernel

def ticking : Language :=
  (Language.load Pattern.reader tickingCore tickingSurface {}).toOption.get ticking_loads

theorem ticking_load_eq :
    Language.load Pattern.reader tickingCore tickingSurface {} = .ok ticking :=
  eq_ok_get_toOption ticking_loads

/-- The call of `tick` is not marked, and the function that it calls has side effects. -/
theorem ticking_unmarked :
    Language.load Pattern.reader tickingCore tickingSurface {} = .ok ticking ∧
      ticking.kind? "tick" = some (.call "tick" false) ∧
      (ticking.functions.get? "tick").map (·.sideEffect) = some true :=
  ⟨ticking_load_eq, by decide +kernel, by decide +kernel⟩

/-- The mark of `tick` is that of the last function in the language, and the mark of `stop`, which
the language does not have, is that of the function called. -/
theorem mark_of_load_ticking :
    Language.load Pattern.reader tickingCore tickingSurface {} = .ok ticking ∧
      ticking.kind? "tick" = some (.call "tick" false) ∧
      ticking.kind? "stop" = some (.call "stop" true) ∧
      (∃ marking, FunctionTable.lastFine? ticking.types tickingSurface.functions "tick" =
        some marking ∧ false = marking.sideEffect) ∧
      ∃ f, ticking.functions.get? "stop" = some f ∧ true = f.sideEffect := by
  have tick : ticking.kind? "tick" = some (.call "tick" false) := by decide +kernel
  have stop : ticking.kind? "stop" = some (.call "stop" true) := by decide +kernel
  refine ⟨ticking_load_eq, tick, stop, ?_, ?_⟩
  · have given : (FunctionTable.lastFine? ticking.types tickingSurface.functions "tick").isSome =
        true := by decide +kernel
    obtain ⟨own, hown⟩ := Option.isSome_iff_exists.1 given
    obtain ⟨-, marking, -, -, found, mark, -⟩ := Language.mark_of_load ticking_load_eq tick
    rw [hown] at found
    cases found
    exact ⟨own, hown, mark⟩
  · have none : FunctionTable.lastFine? ticking.types tickingSurface.functions "stop" = none := by
      decide +kernel
    obtain ⟨f, -, hf, -, -, -, same⟩ := Language.mark_of_load ticking_load_eq stop
    refine ⟨f, hf, same.2 fun a b own => ?_⟩
    rw [none] at own
    cases own

end Sample

end FlowScript
