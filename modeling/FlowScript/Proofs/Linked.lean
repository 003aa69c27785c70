import FlowScript.Proofs.Runs
import FlowScript.Proofs.Typing

/-!
# Linked programs

A program is linked when its graphs are made by edits that keep ports where the kinds say, when no
module has two bridges of one name on one side, and when every module call has the ports of its
module.  In a linked program values come from value outputs and flow arrives at nodes that it may
arrive at.

* `Language.Regular`: what loading sees to; `Language.regular_of_load`;
* `Program.Linked`: linked programs;
* `Program.Linked.asked`, `Program.Linked.followed`: a value is asked of a value output, and flow
  is followed to a flow input;
* `Program.Linked.reached_flow`, `Program.Linked.reached_demand`, `Program.Linked.feeds`: what these
  mean for a pass.
-/

namespace FlowScript

/-! ### Loaded languages -/

/-- What a descriptor is loaded to. -/
theorem DataType.load_eq_ok {patterns : PatternReader} {desc : TypeDesc} {isVoid isAny : Bool}
    {t : DataType} (h : load patterns desc isVoid isAny = .ok t) :
    t.isVoid = isVoid ∧ t.isAny = isAny ∧ t.name = desc.name := by
  unfold load at h
  split at h
  · cases h
    exact ⟨rfl, rfl, rfl⟩
  · split at h
    · cases h
      exact ⟨rfl, rfl, rfl⟩
    · cases h

namespace TypeTable

/-- Types stand under their names and are void as the core says. -/
def Named (voidTypes : List String) (types : OrderedMap String DataType) : Prop :=
  ∀ name t, types.get? name = some t → t.isVoid = voidTypes.contains name ∧ t.name = name

theorem Named.insert {voidTypes : List String} {types : OrderedMap String DataType}
    (h : Named voidTypes types) {name : String} {t : DataType}
    (ht : t.isVoid = voidTypes.contains name ∧ t.name = name) :
    Named voidTypes (types.insert name t) := by
  intro name' t' ht'
  rw [OrderedMap.get?_insert] at ht'
  split_ifs at ht' with same
  · cases ht'
    exact same ▸ ht
  · exact h name' t' ht'

theorem Named.enter {voidTypes : List String} {state : OrderedMap String DataType × List Issue}
    (h : Named voidTypes state.1) (patterns : PatternReader) (core : OrderedMap String TypeDesc)
    (desc : TypeDesc) : Named voidTypes (TypeTable.enter patterns core voidTypes state desc).1 := by
  unfold TypeTable.enter
  dsimp only
  split_ifs
  · exact h
  · split
    · rename_i t ht
      obtain ⟨hv, -, hn⟩ := DataType.load_eq_ok ht
      refine h.insert ⟨hv, hn.trans ?_⟩
      cases overlayFor? core desc <;> rfl
    · exact h

theorem named_of_load {patterns : PatternReader} {core : CoreDesc} {surface : SurfaceDesc}
    {types : TypeTable} {issues : List Issue}
    (h : load patterns core surface = .ok (types, issues)) :
    Named core.voidTypes types.types := by
  unfold load at h
  dsimp only at h
  split at h
  · split at h
    · rename_i any hany
      split at h
      · cases h
        have none : Named core.voidTypes .empty := fun name t ht => by cases ht
        refine List.foldlRecOn _ (enter patterns _ core.voidTypes)
          (motive := fun state => Named core.voidTypes state.1) ?_ fun state hs desc _ => ?_
        · obtain ⟨isVoid, -, name⟩ := DataType.load_eq_ok hany
          exact none.insert ⟨isVoid, name⟩
        · exact hs.enter patterns _ desc
      · cases h
    · cases h
  · cases h

end TypeTable

/-- The fixed kinds, by name. -/
theorem ComponentTable.get?_builtin {component : String} {kind : Kind}
    (h : builtin.get? component = some kind) : (component, kind) ∈ [
      ("InjectTopLevelCode", Kind.topLevelCode), ("InjectCode", .code), ("Sequence", .sequence),
      ("Variable", .declaration), ("Function", .definition), ("If", .branch),
      ("While", .whileLoop), ("For", .forLoop), (moduleCallName, .moduleCall),
      (moduleInputName, .moduleInput), (moduleOutputName, .moduleOutput),
      (flowEntryName, .flowEntry), (flowExitName, .flowExit), ("Set", .assignment),
      ("Struct", .record)] :=
  OrderedMap.get?_eq_some_iff.1 h

namespace Language

/-- What loading sees to: every component is a fixed one, a literal of a type that is not void, or
a call. -/
structure Regular (lang : Language) : Prop where
  kind : ∀ {component kind}, lang.kind? component = some kind →
    ComponentTable.builtin.get? component = some kind ∨ (∃ type, kind = .literal type) ∨
      ∃ function sideEffect, kind = .call function sideEffect
  literal : ∀ {component type t}, lang.kind? component = some (.literal type) →
    lang.types.get? type = some t → t.isVoid = false

/-- Components as `Regular` has them, while they are entered. -/
def Entered (types : TypeTable) (components : ComponentTable) : Prop :=
  ∀ component kind, components.get? component = some kind →
    ComponentTable.builtin.get? component = some kind ∨
      (∃ type, kind = .literal type ∧ ∀ t, types.get? type = some t → t.isVoid = false) ∨
      ∃ function sideEffect, kind = .call function sideEffect

theorem Entered.enterLiteral {core : CoreDesc} {types : TypeTable} {components : ComponentTable}
    (h : Entered types components) (named : TypeTable.Named core.voidTypes types.types)
    (desc : TypeDesc) : Entered types (Language.enterLiteral core types components desc) := by
  unfold Language.enterLiteral
  split_ifs with skip
  · exact h
  split
  · exact h
  rename_i t ht
  split_ifs
  · intro component kind hk
    rw [OrderedMap.get?_insert] at hk
    split_ifs at hk
    · cases hk
      refine .inr (.inl ⟨_, rfl, fun t' ht' => ?_⟩)
      obtain ⟨hv, hn⟩ := named desc.name t ht
      rw [hn, ht] at ht'
      cases ht'
      rw [hv]
      simp_all
    · exact h component kind hk
  · exact h

theorem Entered.enterCall {types : TypeTable} {components : ComponentTable}
    (h : Entered types components) (functions : FunctionTable) (desc : FunctionDesc) :
    Entered types (Language.enterCall functions components desc) := by
  unfold Language.enterCall
  split
  · exact h
  split_ifs
  · exact h
  · intro component kind hk
    rw [OrderedMap.get?_insert] at hk
    split_ifs at hk
    · cases hk
      exact .inr (.inr ⟨_, _, rfl⟩)
    · exact h component kind hk

/-- What a language is loaded to: the types, the functions in two steps, and the components. -/
theorem load_eq_ok {patterns : PatternReader} {core : CoreDesc} {surface : SurfaceDesc}
    {extra : ExtraDesc} {lang : Language} (h : load patterns core surface extra = .ok lang) :
    ∃ issues first all, TypeTable.load patterns core surface = .ok (lang.types, issues) ∧
      first = FunctionTable.load lang.types (.empty, issues) surface.functions ∧
      all = FunctionTable.load lang.types first core.functions ∧ lang.functions = all.1 ∧
      lang.components = core.functions.foldl (enterCall all.1)
        (surface.functions.foldl (enterCall first.1)
          (core.types.foldl (enterLiteral core lang.types) ComponentTable.builtin)) := by
  unfold load at h
  cases ht : TypeTable.load patterns core surface with
  | error e =>
    rw [ht] at h
    cases h
  | ok loaded =>
    rw [ht] at h
    cases h
    exact ⟨loaded.2, _, _, rfl, rfl, rfl, rfl, rfl⟩

theorem regular_of_load {patterns : PatternReader} {core : CoreDesc} {surface : SurfaceDesc}
    {extra : ExtraDesc} {lang : Language} (h : load patterns core surface extra = .ok lang) :
    lang.Regular := by
  obtain ⟨issues, first, all, ht, -, -, -, components⟩ := load_eq_ok h
  have named := TypeTable.named_of_load ht
  -- the literals are entered first, then the calls of both descriptors
  have literals : Entered lang.types
      (core.types.foldl (enterLiteral core lang.types) ComponentTable.builtin) :=
    List.foldlRecOn _ _ (motive := Entered lang.types) (fun _ _ hb => .inl hb)
      fun components hc desc _ => hc.enterLiteral named desc
  have calls : ∀ (functions : FunctionTable) (descs : List FunctionDesc)
      {components : ComponentTable}, Entered lang.types components →
        Entered lang.types (descs.foldl (enterCall functions) components) :=
    fun functions descs _ hc => List.foldlRecOn _ _ (motive := Entered lang.types) hc
      fun components hc desc _ => hc.enterCall functions desc
  have entered : Entered lang.types lang.components :=
    components ▸ calls all.1 core.functions (calls first.1 surface.functions literals)
  refine ⟨fun hk => ?_, fun {component type t} hk htype => ?_⟩
  · rcases entered _ _ hk with hb | ⟨type, rfl, -⟩ | hc
    · exact .inl hb
    · exact .inr (.inl ⟨type, rfl⟩)
    · exact .inr (.inr hc)
  · rcases entered _ _ hk with hb | ⟨_, same, filled⟩ | ⟨_, _, hc⟩
    · simpa using ComponentTable.get?_builtin hb
    · cases same
      exact filled t htype
    · cases hc

namespace Regular

variable {lang : Language} {component : String} {kind : Kind}

theorem moduleInput (h : lang.Regular) (hk : lang.kind? component = some .moduleInput) :
    component = ComponentTable.moduleInputName := by
  rcases h.kind hk with hb | ⟨_, hl⟩ | ⟨_, _, hc⟩
  · simpa using ComponentTable.get?_builtin hb
  · cases hl
  · cases hc

theorem moduleCall (h : lang.Regular) (hk : lang.kind? component = some .moduleCall) :
    component = ComponentTable.moduleCallName := by
  rcases h.kind hk with hb | ⟨_, hl⟩ | ⟨_, _, hc⟩
  · simpa using ComponentTable.get?_builtin hb
  · cases hl
  · cases hc

theorem flowExit (h : lang.Regular) (hk : lang.kind? component = some .flowExit) :
    component = ComponentTable.flowExitName := by
  rcases h.kind hk with hb | ⟨_, hl⟩ | ⟨_, _, hc⟩
  · simpa using ComponentTable.get?_builtin hb
  · cases hl
  · cases hc

/-- The component for outputs of a module may be a literal or a call of that name; in any case it
takes no flow under the key of the output, and it is no module call. -/
theorem moduleOutput (h : lang.Regular)
    (hk : lang.kind? ComponentTable.moduleOutputName = some kind) :
    ¬ lang.FlowInput kind "input" ∧ kind ≠ .moduleCall := by
  rcases h.kind hk with hb | ⟨_, rfl⟩ | ⟨_, _, rfl⟩
  · have : kind = .moduleOutput := by
      simpa [ComponentTable.moduleCallName, ComponentTable.moduleInputName,
        ComponentTable.moduleOutputName, ComponentTable.flowEntryName,
        ComponentTable.flowExitName] using ComponentTable.get?_builtin hb
    subst this
    exact ⟨id, nofun⟩
  · exact ⟨id, nofun⟩
  · exact ⟨fun hf => absurd hf.2.1 (by decide), nofun⟩

/-- The component for flow entries of a module gives no value under the key of the entry, and it is
no module call. -/
theorem flowEntry (h : lang.Regular)
    (hk : lang.kind? ComponentTable.flowEntryName = some kind) :
    ¬ kind.ValueOutput "output" ∧ kind ≠ .moduleCall := by
  rcases h.kind hk with hb | ⟨_, rfl⟩ | ⟨_, _, rfl⟩
  · have : kind = .flowEntry := by
      simpa [ComponentTable.moduleCallName, ComponentTable.moduleInputName,
        ComponentTable.moduleOutputName, ComponentTable.flowEntryName,
        ComponentTable.flowExitName] using ComponentTable.get?_builtin hb
    subst this
    exact ⟨id, nofun⟩
  · exact ⟨fun hv => absurd hv (show "output" ≠ resultKey by decide), nofun⟩
  · exact ⟨fun hv => absurd hv (show "output" ≠ resultKey by decide), nofun⟩

end Regular

end Language

/-! ### Linked programs -/

namespace Node

/-- A node has exactly some ports. -/
structure HasPorts (n : Node) (ports : List Port) : Prop where
  inputs : ∀ port, n.input? port.key = some port ↔ port ∈ ports ∧ port.direction = .input
  outputs : ∀ port, n.output? port.key = some port ↔ port ∈ ports ∧ port.direction = .output

/-- A node by which values or flow come into a module. -/
def isInput (n : Node) : Bool :=
  n.component = ComponentTable.moduleInputName || n.component = ComponentTable.flowEntryName

/-- A node by which values or flow leave a module. -/
def isOutput (n : Node) : Bool :=
  n.component = ComponentTable.moduleOutputName || n.component = ComponentTable.flowExitName

end Node

/-- No two nodes of a graph that have a property share a name. -/
def Graph.Distinct (g : Graph) (side : Node → Bool) : Prop :=
  ∀ n ∈ g.nodes.values, ∀ m ∈ g.nodes.values, ∀ name, side n = true → side m = true →
    n.text? "name" = some name → m.text? "name" = some name → n = m

namespace Program

/-- The ports that a module call is to have: those of the module, if there is one. -/
def callPorts (p : Program) (n : Node) : List Port :=
  match p.library.callee? n with
  | none => []
  | some callee => modulePorts p.lang callee

/-- A program whose graphs are made by edits other than retagging by hand, in a loaded language,
whose modules have no two inputs and no two outputs of one name, and whose module calls have the
ports of their modules. -/
structure Linked (p : Program) : Prop where
  loaded : ∃ patterns core surface extra, Language.load patterns core surface extra = .ok p.lang
  built : ∀ g ∈ p.graphs, ∃ name edits, g = Graph.session p.lang name edits ∧
    ∀ e ∈ edits, e.isRetag = false
  inputs : ∀ g ∈ p.library.values, g.Distinct Node.isInput
  outputs : ∀ g ∈ p.library.values, g.Distinct Node.isOutput
  calls : ∀ g ∈ p.graphs, ∀ n ∈ g.nodes.values, p.kind? n = some .moduleCall →
    n.HasPorts (p.callPorts n)

namespace Linked

variable {p : Program}

theorem regular (h : p.Linked) : p.lang.Regular := by
  obtain ⟨patterns, core, surface, extra, loads⟩ := h.loaded
  exact Language.regular_of_load loads

theorem wired (h : p.Linked) {g : Graph} (hg : g ∈ p.graphs) : g.WellWired := by
  obtain ⟨name, edits, rfl, -⟩ := h.built g hg
  exact (Graph.sound_session p.lang name edits).wired

theorem typed (h : p.Linked) {g : Graph} (hg : g ∈ p.graphs) : g.Typed p.lang := by
  obtain ⟨name, edits, rfl, plain⟩ := h.built g hg
  exact Graph.typed_session p.lang name plain

theorem placed (h : p.Linked) : p.Placed := fun _ hg _ _ hn => (h.wired hg).node_id hn

end Linked

/-- A wire that feeds an input joins it to an output of its producer. -/
theorem joined_of_feeding {p : Program} {a : Address} {port : String} {w : Wire} {n : Node}
    {g : Graph} (hg : p.graphAt? a.path = some g) (wired : g.WellWired)
    (hw : p.feeding? a port = some (w, n)) :
    (∃ m q, p.node? a = some m ∧ m.input? port = some q) ∧
      ∃ q, n.output? w.sourcePort = some q := by
  obtain ⟨g', hg', into, hn⟩ := feeding?_eq_some.1 hw
  rw [hg] at hg'
  cases hg'
  have target := List.find?_some into
  simp only [Bool.and_eq_true, beq_iff_eq] at target
  obtain ⟨-, producer, consumer, hp, hc, -⟩ := wired.joins w (List.mem_of_find?_eq_some into)
  rw [target.1, target.2] at hc
  obtain ⟨m, hm, input⟩ := Option.bind_eq_some_iff.1 hc
  refine ⟨⟨m, consumer, ?_, input⟩, producer, by simpa [Graph.output?, hn] using hp⟩
  rw [node?_of_graphAt? hg, hm]

/-! ### Inputs asked for and outputs followed -/

theorem slotKey_ne {stem key : String} (h : ¬ stem.toList <+: key.toList) (i : Nat) :
    slotKey stem i ≠ key := by
  rintro rfl
  exact h ⟨(Decimal.text i).toList, by simp [slotKey, String.toList_append]⟩

/-- No flow enters where a node asks for a value. -/
theorem AskedBy.not_flowInput {p : Program} {n : Node} {kind : Kind} {port : String}
    (h : p.AskedBy n kind port) (other : kind ≠ .moduleCall) : ¬ p.lang.FlowInput kind port := by
  cases kind with
  | call function sideEffect =>
    obtain ⟨f, param, hf, hparam, known, rfl⟩ := h
    exact fun flow => flow.2.2 ⟨f, param, hf, hparam, known, rfl⟩
  | branch | whileLoop =>
    cases h
    exact (show "inValue" ≠ flowInKey by decide)
  | forLoop =>
    obtain ⟨i, rfl⟩ := h
    exact slotKey_ne (by decide) i
  | assignment =>
    rcases h with rfl | ⟨i, rfl⟩
    · exact (show "inVariable" ≠ flowInKey by decide)
    · exact slotKey_ne (by decide) i
  | moduleCall => exact absurd rfl other
  | literal | topLevelCode | code | sequence | declaration | definition | record | moduleInput
  | moduleOutput | flowEntry | flowExit => exact h.elim

/-- No value leaves where flow goes on from a node. -/
theorem FollowedBy.not_valueOutput {p : Program} {n : Node} {kind : Kind} {port : String}
    (h : p.FollowedBy n kind port) (other : kind ≠ .moduleCall) : ¬ kind.ValueOutput port := by
  have flowOut : flowOutKey ≠ resultKey := by decide
  cases kind with
  | call function sideEffect =>
    obtain ⟨-, rfl⟩ := h
    exact flowOut
  | assignment =>
    cases h
    exact flowOut
  | definition =>
    cases h
    rintro ⟨i, hi⟩
    exact slotKey_ne (by decide) i hi.symm
  | forLoop =>
    rintro ⟨i, rfl⟩
    rcases h with h | h
    · exact slotKey_ne (by decide) i h
    · exact slotKey_ne (by decide) i h
  | moduleCall => exact absurd rfl other
  | topLevelCode | code | sequence | branch | whileLoop => exact id
  | literal | declaration | record | moduleInput | moduleOutput | flowEntry | flowExit =>
    exact h.elim

end Program

/-- A port of a module stands for a named bridge on its side, and carries flow or values as the
bridge does. -/
theorem mem_modulePorts {lang : Language} {callee : Graph} {port : Port}
    (h : port ∈ modulePorts lang callee) :
    ∃ m ∈ callee.nodes.values, m.text? "name" = some port.key ∧ port.key ≠ "" ∧
      (port.direction = .input → m.isInput = true ∧
        (port.tag = .flow → m.component = ComponentTable.flowEntryName)) ∧
      (port.direction = .output → m.isOutput = true ∧
        (port.tag ≠ .flow → m.component = ComponentTable.moduleOutputName)) := by
  obtain ⟨m, hm, hport⟩ := List.mem_filterMap.1 h
  refine ⟨m, hm, ?_⟩
  cases hname : m.text? "name" with
  | none => simp [hname] at hport
  | some name =>
    simp only [hname] at hport
    split_ifs at hport with empty input output entry exit <;> cases hport
    · exact ⟨rfl, empty, fun _ => ⟨by simp [Node.isInput, input], nofun⟩, nofun⟩
    · exact ⟨rfl, empty, nofun, fun _ => ⟨by simp [Node.isOutput, output], fun _ => output⟩⟩
    · exact ⟨rfl, empty, fun _ => ⟨by simp [Node.isInput, entry], fun _ => entry⟩, nofun⟩
    · exact ⟨rfl, empty, nofun, fun _ => ⟨by simp [Node.isOutput, exit], fun h => absurd rfl h⟩⟩

theorem Node.text?_of_textD {n : Node} {key text : String} (h : text = n.textD key)
    (filled : text ≠ "") : n.text? key = some text := by
  unfold Node.textD at h
  cases ht : n.text? key with
  | none => exact absurd (by simpa [ht] using h) filled
  | some t => simp [h, ht]

namespace Program

variable {p : Program}

theorem callee?_mem {n : Node} {g : Graph} (h : p.library.callee? n = some g) :
    g ∈ p.library.values := by
  obtain ⟨name, -, hg⟩ := Option.bind_eq_some_iff.1 h
  exact OrderedMap.mem_values_iff.2 ⟨name, hg⟩

namespace Linked

/-- No flow enters a module call where the module has an input for values. -/
theorem call_input (h : p.Linked) {n : Node} {port : String} {q : Port}
    (ports : n.HasPorts (p.callPorts n)) (asked : p.AskedBy n .moduleCall port)
    (hq : n.input? port = some q) (key : q.key = port) : q.tag ≠ .flow := by
  intro flow
  subst key
  obtain ⟨g, m, callee, hm, hk, name⟩ := asked
  obtain ⟨mem, direction⟩ := (ports.inputs q).1 hq
  simp only [callPorts, callee] at mem
  obtain ⟨m', hm', name', filled, input, -⟩ := mem_modulePorts mem
  obtain ⟨side', entry⟩ := input direction
  -- the port stands for a flow entry, which would share its name with the input
  have component := h.regular.moduleInput hk
  have same := h.inputs g (callee?_mem callee) m hm m' hm' q.key (by simp [Node.isInput, component])
    side' (Node.text?_of_textD name filled) name'
  rw [← same, component] at entry
  exact absurd (entry flow) (by decide)

/-- No value leaves a module call where the module has an exit for flow. -/
theorem call_output (h : p.Linked) {n : Node} {port : String} {q : Port}
    (ports : n.HasPorts (p.callPorts n)) (followed : p.FollowedBy n .moduleCall port)
    (hq : n.output? port = some q) (key : q.key = port) : q.tag = .flow := by
  by_contra value
  subst key
  obtain ⟨g, m, callee, hm, hk, name⟩ := followed
  obtain ⟨mem, direction⟩ := (ports.outputs q).1 hq
  simp only [callPorts, callee] at mem
  obtain ⟨m', hm', name', filled, -, output⟩ := mem_modulePorts mem
  obtain ⟨side', plain⟩ := output direction
  have component := h.regular.flowExit hk
  have same := h.outputs g (callee?_mem callee) m hm m' hm' q.key
    (by simp [Node.isOutput, component]) side' (Node.text?_of_textD name filled) name'
  rw [← same, component] at plain
  exact absurd (plain value) (by decide)

/-- The wires of a linked program join ports. -/
theorem joined (h : p.Linked) {a : Address} {port : String} {w : Wire} {n : Node}
    (hw : p.feeding? a port = some (w, n)) :
    (∃ m q, p.node? a = some m ∧ m.input? port = some q) ∧
      ∃ q, n.output? w.sourcePort = some q := by
  obtain ⟨g, hg, -, -⟩ := feeding?_eq_some.1 hw
  exact joined_of_feeding hg (h.wired (graphAt?_mem hg)) hw

/-- A value that is asked for comes from a value output. -/
theorem asked (h : p.Linked) {a : Address} {port : String} {w : Wire} {n : Node}
    (asks : p.Asks a port) (hw : p.feeding? a port = some (w, n)) :
    ∃ q, n.output? w.sourcePort = some q ∧ q.tag ≠ .flow := by
  obtain ⟨g, hg, into, hn⟩ := feeding?_eq_some.1 hw
  have mem := graphAt?_mem hg
  have wired := h.wired mem
  have target := List.find?_some into
  simp only [Bool.and_eq_true, beq_iff_eq] at target
  obtain ⟨-, producer, consumer, hp, hc, fits⟩ := wired.joins w (List.mem_of_find?_eq_some into)
  rw [target.1, target.2] at hc
  have output : n.output? w.sourcePort = some producer := by simpa [Graph.output?, hn] using hp
  refine ⟨producer, output, fun flow => ?_⟩
  have isFlow : consumer.tag = .flow := by
    rw [flow] at fits
    cases htag : consumer.tag with
    | flow => rfl
    | value s => simp [htag, Tag.compatible] at fits
  -- so flow would enter the node that asks for the value
  obtain ⟨m, hm, input⟩ := Option.bind_eq_some_iff.1 hc
  obtain ⟨kind, hk, typed⟩ := (h.typed mem).node hm
  have node : p.node? a = some m := by rw [node?_of_graphAt? hg, hm]
  rcases asks.2 node hk with ⟨component, rfl⟩ | asked
  · rw [component] at hk
    obtain ⟨free, other⟩ := h.regular.moduleOutput hk
    exact free ((typed other).input input isFlow)
  · by_cases other : kind = .moduleCall
    · subst other
      have ports := h.calls g mem m (OrderedMap.mem_values_iff.2 ⟨a.id, hm⟩) hk
      exact h.call_input ports asked input (wired.input_key hc).1 isFlow
    · exact asked.not_flowInput other ((typed other).input input isFlow)

/-- Flow that is followed goes to a flow input. -/
theorem followed (h : p.Linked) {a : Address} {port : String} {w : Wire} {n : Node}
    (follows : p.Follows a port) (hw : p.fedBy? a port = some (w, n)) :
    ∃ q, n.input? w.targetPort = some q ∧ q.tag = .flow := by
  obtain ⟨g, hg, out, hn⟩ := fedBy?_eq_some.1 hw
  have mem := graphAt?_mem hg
  have wired := h.wired mem
  have source := List.find?_some out
  simp only [Bool.and_eq_true, beq_iff_eq] at source
  obtain ⟨-, producer, consumer, hp, hc, fits⟩ := wired.joins w (List.mem_of_find?_eq_some out)
  rw [source.1, source.2] at hp
  have input : n.input? w.targetPort = some consumer := by simpa [Graph.input?, hn] using hc
  refine ⟨consumer, input, ?_⟩
  obtain ⟨m, hm, output⟩ := Option.bind_eq_some_iff.1 hp
  obtain ⟨kind, hk, typed⟩ := (h.typed mem).node hm
  have node : p.node? a = some m := by rw [node?_of_graphAt? hg, hm]
  have isFlow : producer.tag = .flow := by
    by_contra value
    rcases follows.2 node hk with ⟨component, rfl⟩ | followed
    · rw [component] at hk
      obtain ⟨free, other⟩ := h.regular.flowEntry hk
      exact free ((typed other).output output value)
    · by_cases other : kind = .moduleCall
      · subst other
        have ports := h.calls g mem m (OrderedMap.mem_values_iff.2 ⟨a.id, hm⟩) hk
        exact value (h.call_output ports followed output (wired.output_key hp).1)
      · exact followed.not_valueOutput other ((typed other).output output value)
  rw [isFlow] at fits
  cases htag : consumer.tag with
  | flow => rfl
  | value s => simp [htag, Tag.compatible] at fits

/-- Flow only compiles nodes that it may arrive at. -/
theorem reached_flow (h : p.Linked) {a : Address} (reached : p.Reached .flow a) :
    ∃ kind, p.kindAt? a = some kind ∧ kind.hasFlowIn = true := by
  obtain ⟨b, port, w, n, follows, hw, rfl, -, noCall⟩ := reached
  obtain ⟨q, hq, flow⟩ := h.followed follows hw
  have node := h.placed.node?_fedBy hw
  obtain ⟨g, hg, -, hn⟩ := fedBy?_eq_some.1 hw
  obtain ⟨kind, hk, typed⟩ := (h.typed (graphAt?_mem hg)).node hn
  have other : kind ≠ .moduleCall := by
    rintro rfl
    exact noCall hk
  exact ⟨kind, by simp [kindAt?, node, kind?, hk], ((typed other).input hq flow).hasFlowIn⟩

/-- A value is read off an output by which values leave nodes of the kind. -/
theorem feeds_port (h : p.Linked) {v : Producer} {kind : Kind} (feeds : p.Feeds v kind) :
    kind.ValueOutput v.port := by
  obtain ⟨b, port, w, n, asks, hw, rfl, hk, own⟩ := feeds
  obtain ⟨q, hq, noFlow⟩ := h.asked asks hw
  obtain ⟨g, hg, into, hn⟩ := feeding?_eq_some.1 hw
  obtain ⟨kind', hk', typed⟩ := (h.typed (graphAt?_mem hg)).node hn
  have same : kind' = kind := Option.some.inj (hk'.symm.trans hk)
  subst same
  have other : kind' ≠ .moduleCall := by
    rintro rfl
    cases own
  exact (typed other).output hq noFlow

/-- Values that are compiled on demand are literals, variables and calls without effects. -/
theorem reached_demand (h : p.Linked) {a : Address} (reached : p.Reached .demand a) :
    ∃ kind, p.kindAt? a = some kind ∧ kind.isValue = true ∧ kind.hasFlowIn = false := by
  obtain ⟨port, kind, feeds, lazy, other⟩ := reached
  have leaves := h.feeds_port feeds
  obtain ⟨b, q, w, n, -, hw, heq, hk, own⟩ := feeds
  cases heq
  have noFlowIn : kind.hasFlowIn = false := by simpa [Kind.isLazy] using lazy
  refine ⟨kind, by simp [kindAt?, h.placed.node?_feeding hw, hk], ?_, noFlowIn⟩
  cases kind <;> simp_all [Kind.isValue, Kind.ValueOutput, Kind.passesOn, Kind.hasFlowIn]

/-- The value of a literal, a call or a variable is read off its result. -/
theorem feeds_result (h : p.Linked) {v : Producer} {kind : Kind} (feeds : p.Feeds v kind)
    (value : kind.isValue = true) : v.port = resultKey := by
  have leaves := h.feeds_port feeds
  cases kind <;> first | exact leaves | cases value

/-- The value of a literal, a call or a variable is read off its result, and there is one. -/
theorem feeds (h : p.Linked) {v : Producer} {kind : Kind} (feeds : p.Feeds v kind)
    (value : kind.isValue = true) :
    p.readers v.address resultKey ≠ 0 ∧ ∃ n, p.node? v.address = some n ∧
      p.kind? n = some kind ∧ ∃ t, p.resultType? n kind = some t ∧
        (kind ≠ .declaration → t.isVoid = false) := by
  have result := h.feeds_result feeds value
  obtain ⟨b, port, w, n, asks, hw, rfl, hk, -⟩ := feeds
  obtain ⟨q, hq, -⟩ := h.asked asks hw
  have node := h.placed.node?_feeding hw
  obtain ⟨g, hg, into, hn⟩ := feeding?_eq_some.1 hw
  obtain ⟨kind', hk', typed⟩ := (h.typed (graphAt?_mem hg)).node hn
  have same : kind' = kind := Option.some.inj (hk'.symm.trans hk)
  subst same
  have other : kind' ≠ .moduleCall := by
    rintro rfl
    cases value
  dsimp only at result
  rw [result] at hq
  have has := (typed other).result hq
  refine ⟨?_, n, node, hk, ?_⟩
  · -- the wire itself is one of the readers
    have id : n.id = w.source := (h.wired (graphAt?_mem hg)).node_id hn
    have mem : w ∈ g.outgoing n.id resultKey :=
      Graph.mem_outgoing.2 ⟨List.mem_of_find?_eq_some into, id.symm, result⟩
    have graph : p.graphAt? (b.sibling n.id).path = some g := hg
    simp only [readers, graph]
    exact Nat.pos_iff_ne_zero.1 (List.length_pos_of_mem mem)
  · cases kind' with
    | literal type =>
      obtain ⟨t, ht⟩ := Option.isSome_iff_exists.1 has
      exact ⟨t, ht, fun _ => h.regular.literal hk ht⟩
    | call function sideEffect =>
      obtain ⟨f, hf, filled⟩ := has
      exact ⟨_, by simp [resultType?, hf], fun _ => filled⟩
    | declaration => exact ⟨_, rfl, fun no => absurd rfl no⟩
    | _ => cases value

end Linked

end Program

end FlowScript
