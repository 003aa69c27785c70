import FlowScript.Proofs.Session

/-!
# Flow ports and value ports

Which ports of a node carry flow and which carry values is a matter of its kind, except for module
calls, whose ports are those of the module.  Making a node sets this up, and adapting it keeps it:
outputs are only retyped where values leave a node.  Retagging a port by hand does not, so sessions
without such edits are meant here.

* `Node.Typed`: flow enters and values leave where the kind says;
* `TypedAt`: what is kept while one node is adapted, one lemma for each change and each rule;
* `Graph.Typed.apply`, `Graph.typed_session`: one edit, and a whole session.
-/

namespace FlowScript

/-- Kinds whose nodes have a value of their own. -/
def Kind.isValue : Kind → Bool
  | .literal _ | .call _ _ | .declaration => true
  | _ => false

/-- The outputs by which values leave nodes of a kind. -/
def Kind.ValueOutput : Kind → String → Prop
  | .literal _, key | .call _ _, key | .declaration, key | .assignment, key => key = resultKey
  | .definition, key => ∃ i, key = slotKey "out" i
  | .forLoop, key => ∃ i, key = slotKey "val" i
  | .moduleInput, key => key = "output"
  | _, _ => False

namespace Language

/-- A parameter of a function that has a port. -/
def IsParam (lang : Language) (function key : String) : Prop :=
  ∃ f param, lang.functions.get? function = some f ∧ param ∈ f.params ∧
    (lang.types.get? param.type).isSome ∧ key = param.name

/-- The inputs by which flow enters nodes of a kind.  A parameter takes the place of a flow input of
its name. -/
def FlowInput (lang : Language) : Kind → String → Prop
  | .call function sideEffect, key =>
    sideEffect = true ∧ key = flowInKey ∧ ¬ lang.IsParam function key
  | .code, key | .sequence, key | .branch, key | .whileLoop, key | .forLoop, key
  | .assignment, key => key = flowInKey
  | .flowExit, key => key = "input"
  | _, _ => False

/-- A node of a kind has a value that can be read. -/
def HasResult (lang : Language) : Kind → Prop
  | .literal type => (lang.types.get? type).isSome
  | .call function _ => ∃ f, lang.functions.get? function = some f ∧
      (lang.types.getOrAny (some f.result)).isVoid = false
  | _ => True

theorem FlowInput.hasFlowIn {lang : Language} {kind : Kind} {key : String}
    (h : lang.FlowInput kind key) : kind.hasFlowIn = true := by
  cases kind <;> first | rfl | exact h.1 | exact h.elim

end Language

namespace Node

/-- Flow enters a node and values leave it where its kind says. -/
structure Typed (lang : Language) (kind : Kind) (n : Node) : Prop where
  input : ∀ {key port}, n.input? key = some port → port.tag = .flow → lang.FlowInput kind key
  output : ∀ {key port}, n.output? key = some port → port.tag ≠ .flow → kind.ValueOutput key
  result : ∀ {port}, n.output? resultKey = some port → lang.HasResult kind

namespace Typed

variable {lang : Language} {kind : Kind} {n : Node}

theorem of_samePorts {m : Node} (h : n.Typed lang kind) (same : n.SamePorts m) :
    m.Typed lang kind := by
  obtain ⟨-, -, inputs, outputs⟩ := same
  constructor
  · intro key port hp
    rw [input?, inputs] at hp
    exact h.input hp
  · intro key port hp
    rw [output?, outputs] at hp
    exact h.output hp
  · intro port hp
    rw [output?, outputs] at hp
    exact h.result hp

theorem addInput (h : n.Typed lang kind) {p : Port}
    (hp : p.tag = .flow → lang.FlowInput kind p.key) : (n.addInput p).Typed lang kind := by
  refine ⟨fun {key port} hq flow => ?_, h.output, h.result⟩
  rw [input?_addInput] at hq
  split_ifs at hq with hk
  · cases hq
    exact hk ▸ hp flow
  · exact h.input hq flow

theorem addOutput (h : n.Typed lang kind) {p : Port} (hp : p.tag ≠ .flow → kind.ValueOutput p.key)
    (hr : p.key = resultKey → lang.HasResult kind) : (n.addOutput p).Typed lang kind := by
  refine ⟨h.input, fun {key port} hq value => ?_, fun {port} hq => ?_⟩
  · rw [output?_addOutput] at hq
    split_ifs at hq with hk
    · cases hq
      exact hk ▸ hp value
    · exact h.output hq value
  · rw [output?_addOutput] at hq
    split_ifs at hq with hk
    · exact hr hk
    · exact h.result hq

theorem foldl {α : Type} {f : Node → α → Node}
    (hf : ∀ n x, n.Typed lang kind → (f n x).Typed lang kind) (h : n.Typed lang kind)
    (xs : List α) : (xs.foldl f n).Typed lang kind := by
  induction xs generalizing n with
  | nil => exact h
  | cons x xs ih => exact ih (hf n x h)

theorem bare (hi : n.inputs = .empty) (ho : n.outputs = .empty) : n.Typed lang kind := by
  constructor <;> intros <;> simp_all [input?, output?]

theorem setLiteral (h : n.Typed lang kind) (key : String) (default : Option String) :
    (n.setLiteral key default).Typed lang kind :=
  h.of_samePorts (n.samePorts_setLiteral key default)

theorem set (h : n.Typed lang kind) (key : String) (value : Json) :
    (n.set key value).Typed lang kind :=
  h.of_samePorts (n.samePorts_set key value)

/-- A value enters by any input. -/
theorem addValueInput (h : n.Typed lang kind) (key title : String) (socket : Socket) :
    (n.addInput (.input key title socket)).Typed lang kind :=
  h.addInput fun flow => by cases flow

/-- Flow leaves by any output but the result. -/
theorem addFlowOutput (h : n.Typed lang kind) {key : String} (title : String)
    (hk : key ≠ resultKey) : (n.addOutput (.flowOut key title)).Typed lang kind :=
  h.addOutput (fun value => absurd rfl value) fun hr => absurd hr hk

/-- A value leaves by one of the value outputs. -/
theorem addValueOutput (h : n.Typed lang kind) {key title : String} {socket : Socket} {multi : Bool}
    (hk : kind.ValueOutput key) (hr : key = resultKey → lang.HasResult kind) :
    (n.addOutput (.output key title socket multi)).Typed lang kind :=
  h.addOutput (fun _ => hk) hr

theorem addFlowIn (h : n.Typed lang kind) (hk : lang.FlowInput kind flowInKey) :
    n.addFlowIn.Typed lang kind :=
  h.addInput fun _ => hk

theorem addFlowOut (h : n.Typed lang kind) : n.addFlowOut.Typed lang kind :=
  h.addFlowOutput _ (by decide)

theorem addSlotPair (h : n.Typed lang kind) {outStem : String}
    (hk : ∀ i, kind.ValueOutput (slotKey outStem i)) (hr : lang.HasResult kind)
    (types : TypeTable) (inStem inTitle outTitle : String) (i : Nat) :
    (Node.addSlotPair types inStem inTitle outStem outTitle n i).Typed lang kind :=
  (h.addValueInput _ _ _).addValueOutput (hk i) fun _ => hr

theorem addExit (h : n.Typed lang kind) (i : Nat) (hr : lang.HasResult kind) :
    (n.addExit i).Typed lang kind :=
  h.addOutput (fun value => absurd rfl value) fun _ => hr

end Typed

/-! ### New nodes -/

theorem input?_addParam (types : TypeTable) (n : Node) (param : FieldDesc) (key : String) :
    (addParam types n param).input? key =
      if (types.get? param.type).isSome ∧ param.name = key then
        (types.get? param.type).map fun t => .input param.name param.name t.socket
      else n.input? key := by
  unfold addParam
  cases ht : types.get? param.type with
  | none => simp
  | some t =>
    obtain ⟨-, -, inputs, -⟩ := n.samePorts_setLiteral param.name t.desc.default
    rw [input?_addInput]
    simp only [Option.isSome_some, true_and, Option.map_some, input?, inputs]
    rfl

theorem outputs_addParam (types : TypeTable) (n : Node) (param : FieldDesc) :
    (addParam types n param).outputs = n.outputs := by
  unfold addParam
  cases types.get? param.type with
  | none => rfl
  | some t => exact (n.samePorts_setLiteral param.name t.desc.default).2.2.2

/-- Parameters take the place of flow inputs of their names. -/
theorem foldl_addParam (types : TypeTable) (params : List FieldDesc) (n : Node) :
    (params.foldl (addParam types) n).outputs = n.outputs ∧
      ∀ {key port}, (params.foldl (addParam types) n).input? key = some port → port.tag = .flow →
        n.input? key = some port ∧
          ∀ param ∈ params, (types.get? param.type).isSome → param.name ≠ key := by
  induction params generalizing n with
  | nil => exact ⟨rfl, fun hp _ => ⟨hp, by simp⟩⟩
  | cons param params ih =>
    obtain ⟨outputs, inputs⟩ := ih (addParam types n param)
    refine ⟨outputs.trans (outputs_addParam types n param), fun {key port} hp flow => ?_⟩
    obtain ⟨hp, rest⟩ := inputs hp flow
    rw [input?_addParam] at hp
    split_ifs at hp with hk
    · -- the input would be that of the parameter, which takes a value
      obtain ⟨t, -, rfl⟩ := Option.map_eq_some_iff.1 hp
      cases flow
    · refine ⟨hp, fun q hq known same => ?_⟩
      rcases List.mem_cons.1 hq with rfl | hq
      · exact hk ⟨known, same⟩
      · exact rest q hq known same

/-- A call: the flow input is there unless a parameter has taken its place. -/
theorem Typed.foldl_addParam {lang : Language} {function : String} {sideEffect : Bool} {n : Node}
    {f : FunctionDesc} (hf : lang.functions.get? function = some f)
    (inputs : ∀ {key port}, n.input? key = some port → sideEffect = true ∧ key = flowInKey)
    (outputs : ∃ m : Node, m.Typed lang (.call function sideEffect) ∧ m.outputs = n.outputs) :
    (f.params.foldl (addParam lang.types) n).Typed lang (.call function sideEffect) := by
  obtain ⟨m, hm, same⟩ := outputs
  obtain ⟨kept, flow⟩ := Node.foldl_addParam lang.types f.params n
  refine ⟨fun {key port} hp isFlow => ?_, fun {key port} hp value => ?_, fun {port} hp => ?_⟩
  · obtain ⟨hp, free⟩ := flow hp isFlow
    obtain ⟨side, hk⟩ := inputs hp
    refine ⟨side, hk, ?_⟩
    rintro ⟨f', param, hf', hparam, known, hkey⟩
    rw [hf] at hf'
    cases hf'
    exact free param hparam known hkey.symm
  · exact hm.output (by rwa [output?, kept, ← same] at hp) value
  · exact hm.result (by rwa [output?, kept, ← same] at hp)

/-- A new node has its ports where its kind says. -/
theorem typed_equip (lang : Language) (lib : Library) {kind : Kind} (hk : kind ≠ .moduleCall)
    {n : Node} (hi : n.inputs = .empty) (ho : n.outputs = .empty) :
    (equip lang lib kind n).Typed lang kind := by
  have bare : n.Typed lang kind := .bare hi ho
  cases kind with
  | literal type =>
    unfold equip
    cases ht : lang.types.get? type with
    | none => simpa only [ht] using bare
    | some t =>
      have known : lang.HasResult (.literal type) := by simp [Language.HasResult, ht]
      simp only [ht]
      exact (bare.addValueOutput rfl fun _ => known).setLiteral _ _
  | call function sideEffect =>
    unfold equip
    cases hf : lang.functions.get? function with
    | none => simpa only [hf] using bare
    | some f =>
      simp only [hf]
      -- the result comes first, and it is there only if it can be read
      obtain ⟨m, hm, typed, empty⟩ : ∃ m : Node, (if (lang.types.getOrAny (some f.result)).isVoid
          then n else n.addOutput (resultPort (lang.types.getOrAny (some f.result))
            (lang.types.getOrAny (some f.result)).isLocal)) = m ∧
          m.Typed lang (.call function sideEffect) ∧ m.inputs = .empty := by
        refine ⟨_, rfl, ?_⟩
        split_ifs with void
        · exact ⟨bare, hi⟩
        · exact ⟨bare.addValueOutput rfl fun _ => ⟨f, hf, by simpa using void⟩, hi⟩
      rw [hm]
      cases sideEffect with
      | false =>
        exact .foldl_addParam hf (fun hp => by simp [input?, empty] at hp) ⟨m, typed, rfl⟩
      | true =>
        refine .foldl_addParam hf (fun {key port} hp => ?_) ⟨m.addFlowOut, typed.addFlowOut, rfl⟩
        have hp : m.addFlowIn.input? key = some port := hp
        rw [addFlowIn, input?_addInput] at hp
        split_ifs at hp with hk
        · exact ⟨rfl, hk.symm⟩
        · simp [input?, empty] at hp
  | topLevelCode => exact bare.addFlowOut
  | definition =>
    have slots : ∀ i, Kind.definition.ValueOutput (slotKey "out" i) := fun i => ⟨i, rfl⟩
    exact bare.addFlowOut.foldl (fun m i hm => hm.addSlotPair slots trivial ..) _
  | code => exact (bare.addFlowIn rfl).addFlowOut
  | sequence =>
    have result : lang.HasResult .sequence := trivial
    exact (bare.addFlowIn rfl).foldl (fun m i hm => hm.addExit i result) _
  | declaration => exact bare.addValueOutput rfl fun _ => trivial
  | record => exact bare
  | branch =>
    exact (((bare.addFlowIn rfl).addFlowOut.addFlowOutput _ (by decide)).addFlowOutput _
      (by decide)).addValueInput ..
  | whileLoop =>
    exact ((bare.addFlowIn rfl).addFlowOut.addFlowOutput _ (by decide)).addValueInput ..
  | forLoop =>
    have slots : ∀ i, Kind.forLoop.ValueOutput (slotKey "val" i) := fun i => ⟨i, rfl⟩
    exact (((bare.addFlowIn rfl).addFlowOut.addFlowOutput _ (by decide)).set _ _).foldl
      (fun m i hm => hm.addSlotPair slots trivial ..) _
  | moduleCall => exact absurd rfl hk
  | moduleInput => exact bare.addValueOutput rfl fun _ => trivial
  | moduleOutput => exact bare.addValueInput ..
  | flowEntry => exact bare.addFlowOutput _ (by decide)
  | flowExit => exact bare.addInput fun _ => rfl
  | assignment =>
    exact (((bare.addFlowIn rfl).addFlowOut.addValueInput ..).addValueOutput rfl
      fun _ => trivial).foldl (fun m i hm => hm.addValueInput ..) _

end Node

/-! ### Adapting a node -/

/-- Every node is of a known kind and has its ports where its kind says. -/
structure Graph.Typed (lang : Language) (g : Graph) : Prop where
  node : ∀ {id n}, g.node? id = some n → ∃ kind, lang.kind? n.component = some kind ∧
    (kind ≠ .moduleCall → n.Typed lang kind)

/-- A graph on the way of adapting one node, of a given kind. -/
structure TypedAt (lang : Language) (id : NodeId) (kind : Kind) (g : Graph) : Prop where
  typed : g.Typed lang
  kindOf : ∀ {n}, g.node? id = some n → lang.kind? n.component = some kind
  other : kind ≠ .moduleCall

namespace TypedAt

variable {lang : Language} {id : NodeId} {kind : Kind} {g : Graph}

theorem node (h : TypedAt lang id kind g) {n : Node} (hn : g.node? id = some n) :
    n.Typed lang kind := by
  obtain ⟨kind', hk, typed⟩ := h.typed.node hn
  rw [h.kindOf hn] at hk
  cases hk
  exact typed h.other

theorem of_nodes (h : TypedAt lang id kind g) {g' : Graph} (nodes : g'.nodes = g.nodes) :
    TypedAt lang id kind g' := by
  have same : ∀ j, g'.node? j = g.node? j := fun j => by rw [Graph.node?, nodes]; rfl
  exact ⟨⟨fun hn => h.typed.node (same _ ▸ hn)⟩, fun hn => h.kindOf (same _ ▸ hn), h.other⟩

/-- A change of the node that keeps its component. -/
theorem modify (h : TypedAt lang id kind g) {f : Node → Node}
    (component : ∀ n, (f n).component = n.component)
    (hf : ∀ n, n.Typed lang kind → (f n).Typed lang kind) :
    TypedAt lang id kind (g.modifyNode id f) := by
  have changed : ∀ {m}, (g.modifyNode id f).node? id = some m →
      ∃ n, g.node? id = some n ∧ f n = m := by
    intro m hm
    rw [Graph.node?_modifyNode_self] at hm
    exact Option.map_eq_some_iff.1 hm
  refine ⟨⟨fun {j m} hm => ?_⟩, fun {m} hm => ?_, h.other⟩
  · by_cases hj : id = j
    · subst hj
      obtain ⟨n, hn, rfl⟩ := changed hm
      exact ⟨kind, component n ▸ h.kindOf hn, fun _ => hf n (h.node hn)⟩
    · rw [Graph.node?_modifyNode_of_ne g hj] at hm
      exact h.typed.node hm
  · obtain ⟨n, hn, rfl⟩ := changed hm
    exact component n ▸ h.kindOf hn

/-- A data edit. -/
theorem edit (h : TypedAt lang id kind g) {f : Node → Node} (hf : ∀ n : Node, n.SamePorts (f n)) :
    TypedAt lang id kind (g.modifyNode id f) :=
  h.modify (fun n => (hf n).2.1) fun n hn => hn.of_samePorts (hf n)

/-- A value output is retyped. -/
theorem setOutputTag (h : TypedAt lang id kind g) {key : String} (hk : kind.ValueOutput key)
    (t : Tag) : TypedAt lang id kind (g.setOutputTag id key t).1 := by
  unfold Graph.setOutputTag
  split
  · exact h
  · split_ifs
    · exact h
    · refine of_nodes (h.modify (f := fun n => { n with outputs := Graph.retag n.outputs key t })
        (fun _ => rfl) fun n hn => ⟨hn.input, ?_, ?_⟩) (Graph.nodes_cutAll _ _)
      · intro key' port hp value
        have hp : (Graph.retag n.outputs key t).get? key' = some port := hp
        rw [Graph.retag, OrderedMap.get?_modify] at hp
        split_ifs at hp with same
        · exact same ▸ hk
        · exact hn.output hp value
      · intro port hp
        have hp : (Graph.retag n.outputs key t).get? resultKey = some port := hp
        rw [Graph.retag, OrderedMap.get?_modify] at hp
        split_ifs at hp with same
        · obtain ⟨q, hq, -⟩ := Option.map_eq_some_iff.1 hp
          have hq : n.output? resultKey = some q := same ▸ hq
          exact hn.result hq
        · exact hn.result hp

/-- An input is retyped to take values. -/
theorem setInputTag (h : TypedAt lang id kind g) (key : String) (t : DataType) :
    TypedAt lang id kind (g.setInputTag id key t.tag).1 := by
  unfold Graph.setInputTag
  split
  · exact h
  · split_ifs
    · exact h
    · refine of_nodes (h.modify (f := fun n => { n with inputs := Graph.retag n.inputs key t.tag })
        (fun _ => rfl) fun n hn => ⟨?_, hn.output, hn.result⟩) (Graph.nodes_cutAll _ _)
      intro key' port hp flow
      have hp : (Graph.retag n.inputs key t.tag).get? key' = some port := hp
      rw [Graph.retag, OrderedMap.get?_modify] at hp
      split_ifs at hp with same
      · obtain ⟨q, -, rfl⟩ := Option.map_eq_some_iff.1 hp
        cases flow
      · exact hn.input hp flow

theorem dropInput (h : TypedAt lang id kind g) (key : String) :
    TypedAt lang id kind (g.dropInput id key).1 := by
  refine of_nodes (h.modify (f := fun n => { n with inputs := n.inputs.erase key })
    (fun _ => rfl) fun n hn => ⟨?_, hn.output, hn.result⟩) (Graph.nodes_cutAll _ _)
  intro key' port hp flow
  have hp : (n.inputs.erase key).get? key' = some port := hp
  rw [OrderedMap.get?_erase] at hp
  split_ifs at hp
  exact hn.input hp flow

theorem dropOutput (h : TypedAt lang id kind g) (key : String) :
    TypedAt lang id kind (g.dropOutput id key).1 := by
  have kept : ∀ {n : Node} {key' : String} {port : Port},
      (n.outputs.erase key).get? key' = some port → n.output? key' = some port := by
    intro n key' port hp
    rw [OrderedMap.get?_erase] at hp
    split_ifs at hp
    exact hp
  exact of_nodes (h.modify (f := fun n => { n with outputs := n.outputs.erase key })
    (fun _ => rfl) fun n hn => ⟨hn.input, fun hp => hn.output (kept hp),
      fun hp => hn.result (kept hp)⟩) (Graph.nodes_cutAll _ _)

/-! ### The rules -/

section Rules

variable {a : Adapted}

theorem keptType (h : TypedAt lang id kind a.graph) (port : String) (unconnected : DataType) :
    TypedAt lang id kind (Graph.keptType lang id a port unconnected).1.graph := by
  unfold Graph.keptType
  split
  · exact h
  split
  · exact h
  split_ifs
  · exact h.of_nodes rfl
  · exact h

theorem retypeOutput (h : TypedAt lang id kind a.graph) {key : String}
    (hk : kind.ValueOutput key) (dataKey : String) (t : DataType) :
    TypedAt lang id kind (Graph.retypeOutput id a key dataKey t).graph :=
  (h.setOutputTag hk t.tag).edit fun n => n.samePorts_set dataKey _

theorem foldl {α : Type} {f : Adapted → α → Adapted}
    (hf : ∀ a x, TypedAt lang id kind a.graph → TypedAt lang id kind (f a x).graph)
    (h : TypedAt lang id kind a.graph) (xs : List α) :
    TypedAt lang id kind (xs.foldl f a).graph :=
  List.foldlRecOn xs f (motive := fun a => TypedAt lang id kind a.graph) h
    fun a ha x _ => hf a x ha

/-- A change of the node in several steps. -/
theorem modifyAll (h : TypedAt lang id kind a.graph) {α : Type} {f : Node → α → Node}
    (component : ∀ n x, (f n x).component = n.component)
    (hf : ∀ n x, n.Typed lang kind → (f n x).Typed lang kind) (xs : List α) :
    TypedAt lang id kind (a.update fun g => g.modifyNode id fun n => xs.foldl f n).graph := by
  refine h.modify (f := fun n => xs.foldl f n) (fun n => ?_) fun n hn => hn.foldl hf xs
  exact List.foldlRecOn xs f (motive := fun m => m.component = n.component) rfl
    fun m hm x _ => (component m x).trans hm

theorem followProducer (h : TypedAt lang id kind a.graph) :
    TypedAt lang id kind (Graph.followProducer lang id a).graph :=
  ((h.keptType "input" _).setInputTag "input" _).edit fun n => n.samePorts_set "typeName" _

theorem resizeSlots (h : TypedAt lang id kind a.graph) {outStem : String}
    (hk : ∀ i, kind.ValueOutput (slotKey outStem i)) (hr : lang.HasResult kind)
    (inStem inTitle outTitle : String) (required : Nat) :
    TypedAt lang id kind
      (Graph.resizeSlots lang id inStem inTitle outStem outTitle required a).graph := by
  unfold Graph.resizeSlots
  split
  · exact h
  · dsimp only
    refine foldl (fun a i ha => ?_) (h.modifyAll (f := Graph.growSlot lang inStem inTitle outStem
      outTitle) (fun _ _ => rfl) (fun n i hn => ?_) _) _
    · exact ((ha.dropInput _).dropOutput _).edit fun n => n.samePorts_unset _
    · exact ((hn.addValueInput _ _ _).addValueOutput (hk i) fun _ => hr).set _ _

theorem adaptRange (h : TypedAt lang id .forLoop a.graph) (i : Nat) :
    TypedAt lang id .forLoop (Graph.adaptRange lang id a i).graph := by
  have slot : Kind.forLoop.ValueOutput (slotKey "val" i) := ⟨i, rfl⟩
  unfold Graph.adaptRange
  dsimp only
  refine retypeOutput ?_ slot _ _
  split
  · exact h
  split
  · split_ifs
    · exact h.of_nodes rfl
    · exact h
  · exact h

theorem adaptForLoop (h : TypedAt lang id .forLoop a.graph) (n : Node) :
    TypedAt lang id .forLoop (Graph.adaptForLoop lang id a n).graph := by
  have slots : ∀ i, Kind.forLoop.ValueOutput (slotKey "val" i) := fun i => ⟨i, rfl⟩
  exact foldl (fun a i ha => ha.adaptRange i)
    (resizeSlots (h.edit fun n => n.samePorts_set _ _) slots trivial ..) _

theorem adaptDefinition (h : TypedAt lang id .definition a.graph) (n : Node) :
    TypedAt lang id .definition (Graph.adaptDefinition lang id a n).graph := by
  have slots : ∀ i, Kind.definition.ValueOutput (slotKey "out" i) := fun i => ⟨i, rfl⟩
  exact foldl (fun a i ha => (ha.keptType _ _).retypeOutput (slots i) _ _)
    (h.resizeSlots slots trivial ..) _

theorem adaptSequence (h : TypedAt lang id .sequence a.graph) (n : Node) :
    TypedAt lang id .sequence (Graph.adaptSequence id a n).graph := by
  have result : lang.HasResult .sequence := trivial
  exact foldl (f := fun a i => a.step fun g => g.dropOutput id (slotKey "out" i))
    (fun a i ha => ha.dropOutput _)
    (h.modifyAll (f := Node.addExit) (fun _ _ => rfl) (fun n i hn => hn.addExit i result) _) _

theorem adaptRecord (h : TypedAt lang id kind a.graph) (n : Node) :
    TypedAt lang id kind (Graph.adaptRecord id a n).graph :=
  h.modifyAll (f := Node.unset) (fun _ _ => rfl)
    (fun n key hn => hn.of_samePorts (n.samePorts_unset key)) _

theorem dropField (h : TypedAt lang id kind a.graph) (i : Nat) :
    TypedAt lang id kind (Graph.dropField id a i).graph := by
  unfold Graph.dropField
  dsimp only
  split
  · exact h
  · exact (h.dropInput _).edit fun m => (m.samePorts_unset _).trans (Node.samePorts_unset _ _)

theorem adaptAssignment (h : TypedAt lang id .assignment a.graph) :
    TypedAt lang id .assignment (Graph.adaptAssignment lang id a).graph := by
  have kept := h.keptType "inVariable" lang.types.any
  have result : Kind.assignment.ValueOutput resultKey := rfl
  unfold Graph.adaptAssignment
  dsimp only
  generalize Graph.keptType lang id a "inVariable" lang.types.any = k at kept ⊢
  obtain ⟨a', targetType⟩ := k
  dsimp only at kept ⊢
  split
  · exact kept
  · refine retypeOutput (edit ?_ fun n => n.samePorts_set _ _) result _ _
    refine foldl (fun a i ha => ha.dropField i)
      (modifyAll ?_ (fun n i => ?_) (fun n i hn => ?_) _) _
    · split_ifs
      · exact kept.foldl (fun a i ha => ha.dropField i) _
      · exact kept
    · exact ((Node.samePorts_setDefault _ _ _).trans (Node.samePorts_setLiteral _ _ _)).2.1
    · exact (hn.addValueInput _ _ _).of_samePorts
        ((Node.samePorts_setDefault _ _ _).trans (Node.samePorts_setLiteral _ _ _))

end Rules

end TypedAt

/-! ### Sessions -/

/-- An edit that retags a port by hand. -/
def Edit.isRetag : Edit → Bool
  | .retagInput .. | .retagOutput .. => true
  | _ => false

namespace Graph

variable {lang : Language} {g : Graph}

theorem Typed.of_nodes (h : g.Typed lang) {g' : Graph}
    (nodes : ∀ {id n}, g'.node? id = some n → g.node? id = some n) : g'.Typed lang :=
  ⟨fun hn => h.node (nodes hn)⟩

/-- A data edit. -/
theorem Typed.edit (h : g.Typed lang) (id : NodeId) {f : Node → Node}
    (hf : ∀ n : Node, n.SamePorts (f n)) : (g.modifyNode id f).Typed lang := by
  constructor
  intro j m hm
  by_cases hj : id = j
  · subst hj
    rw [node?_modifyNode_self] at hm
    obtain ⟨n, hn, rfl⟩ := Option.map_eq_some_iff.1 hm
    obtain ⟨kind, hk, typed⟩ := h.node hn
    exact ⟨kind, (hf n).2.1 ▸ hk, fun other => (typed other).of_samePorts (hf n)⟩
  · rw [node?_modifyNode_of_ne g hj] at hm
    exact h.node hm

/-- Adapting a node leaves its ports where its kind says. -/
theorem Typed.adapt (h : g.Typed lang) (wired : g.WellWired) (id : NodeId) (lib : Library) :
    (adapt lang id g lib).1.Typed lang := by
  unfold Graph.adapt
  dsimp only
  cases hn : g.node? id with
  | none => exact h
  | some n =>
    obtain ⟨kind, hk, -⟩ := h.node hn
    have start : kind ≠ .moduleCall → TypedAt lang id kind ({ graph := g } : Adapted).graph := by
      refine fun other => ⟨h, fun {m} hm => ?_, other⟩
      have hm : g.node? id = some m := hm
      rw [hn] at hm
      cases hm
      exact hk
    dsimp only
    rw [hk]
    cases kind with
    | declaration =>
      have result : Kind.declaration.ValueOutput resultKey := rfl
      exact ((start nofun).retypeOutput result _ _).typed
    | moduleInput =>
      have output : Kind.moduleInput.ValueOutput "output" := rfl
      exact ((start nofun).retypeOutput output _ _).typed
    | moduleOutput => exact (start nofun).followProducer.typed
    | record => exact ((start nofun).adaptRecord n).typed
    | forLoop => exact ((start nofun).adaptForLoop n).typed
    | definition => exact ((start nofun).adaptDefinition n).typed
    | sequence => exact ((start nofun).adaptSequence n).typed
    | assignment => exact (start nofun).adaptAssignment.typed
    | moduleCall =>
      -- nothing is said of the ports, and the other nodes are left alone
      obtain ⟨ins, outs, adapted⟩ :=
        Adapting.adaptModuleCall lang (a := { graph := g }) (adapting_refl wired hn) lib n
      constructor
      intro j m hm
      by_cases hj : id = j
      · subst hj
        obtain ⟨m', hm', hc, -⟩ := adapted.node
        have same : m' = m := by
          rw [show (adaptModuleCall lang id lib { graph := g } n).graph.node? id = some m from hm]
            at hm'
          exact (Option.some.inj hm').symm
        subst same
        exact ⟨.moduleCall, hc ▸ hk, fun other => absurd rfl other⟩
      · exact h.node ((adapted.others j hj).symm.trans hm)
    | literal | call | topLevelCode | code | branch | whileLoop | flowEntry | flowExit => exact h

/-- A new node is of a known kind. -/
theorem Typed.create (h : g.Typed lang) {library : Library} {component : String} {data : NodeData}
    {g' : Graph} {n : Node} (hc : g.create lang library component data = .ok (g', n)) :
    g'.Typed lang := by
  unfold Graph.create at hc
  cases hk : lang.kind? component with
  | none =>
    rw [hk] at hc
    cases hc
  | some kind =>
    rw [hk] at hc
    have same := Node.sameName_equip lang library kind { id := g.nextId, component, data }
    have typed : kind ≠ .moduleCall → (Node.equip lang library kind
        { id := g.nextId, component, data }).Typed lang kind :=
      fun other => Node.typed_equip lang library other rfl rfl
    cases hc
    constructor
    intro j m hm
    rw [node?_addNode] at hm
    split_ifs at hm
    · cases hm
      exact ⟨kind, same.2 ▸ hk, typed⟩
    · exact h.node hm

/-- Every edit but retagging by hand keeps ports where the kinds say. -/
theorem Typed.apply (h : g.Typed lang) (wired : g.WellWired) {e : Edit}
    (he : e.isRetag = false) : (g.apply lang e).Typed lang := by
  cases e with
  | create library component data =>
    unfold Graph.apply
    dsimp only
    cases hc : g.create lang library component data with
    | ok made => exact h.create hc
    | error _ => exact h
  | set id key value => exact h.edit id fun n => n.samePorts_set key value
  | setDefault id key value => exact h.edit id fun n => n.samePorts_setDefault key value
  | unset id key => exact h.edit id fun n => n.samePorts_unset key
  | connect wire =>
    unfold Graph.apply
    dsimp only
    cases hc : g.connect wire with
    | ok g' =>
      obtain ⟨rfl, -⟩ := connect_eq_ok hc
      exact h.of_nodes id
    | error _ => exact h
  | disconnect wire => exact h.of_nodes id
  | remove id =>
    refine h.of_nodes fun {j n} hn => ?_
    rw [Graph.apply, node?_removeNode] at hn
    split_ifs at hn
    exact hn
  | retagInput | retagOutput => cases he
  | adapt library id => exact h.adapt wired id library

/-- A session without retagging by hand has its ports where the kinds say. -/
theorem typed_session (lang : Language) (name : String) {edits : List Edit}
    (he : ∀ e ∈ edits, e.isRetag = false) : (session lang name edits).Typed lang := by
  induction edits using List.reverseRecOn with
  | nil => exact ⟨fun hn => by cases hn⟩
  | append_singleton edits e ih =>
    rw [session, List.foldl_concat]
    refine (ih fun e he' => he e (by simp [he'])).apply ?_ (he e (by simp))
    exact (sound_session lang name edits).wired

end Graph

end FlowScript
