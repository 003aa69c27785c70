import FlowScript.Pattern.Basic
import FlowScript.Proofs.SlotPairs

/-!
# Adapted nodes have the ports of new ones

The ports of loops, definitions, sequences, declarations and bridges of values follow from the data:
a node gets them all at once when it is new, and one by one when it is adapted, from whatever a
session has left.  Both ways lead to the same ports in the same order.

* `Kind.inputs`, `Kind.outputs`: the ports of a kind for a number of slots and the types of outputs;
* `Node.Formed`: the ports are those that the data ask for; `Node.lists_equip`: a new node has them;
* `Node.InForm`: the ports are those of the kind for some number and types, which every session
  keeps: `Graph.inForm_session`;
* `Graph.ruleFor`: the rule of a kind; `Graph.adapt_eq_ruleFor`: adapting follows it;
* `Graph.formed_adapt`: an adapted node has the ports that its data ask for;
* `Graph.adapt_eq_equip`: an adapted node has the ports of a new node with its data.
-/

namespace FlowScript

/-! ### The ports of a kind -/

/-- A numbered exit. -/
def exitPort (i : Nat) : Port := .flowOut (slotKey "out" i) (slotTitle "Output" i)

/-- No port stands before the exits. -/
theorem exits_apart : ∀ p ∈ ([] : List Port), isSlot "out" p.key = false := by simp

theorem numbered_exits {count : Nat} (hc : count ≤ Decimal.maxCount) :
    Numbered "out" ((row exitPort count).map Port.key) count :=
  numbered_row (fun _ => rfl) exits_apart hc

theorem filter_exits {required count : Nat} (hr : required ≤ count)
    (hc : count ≤ Decimal.maxCount) :
    ((row exitPort count).filter fun p => p.key ∉ (between required count).map (slotKey "out")) =
      row exitPort required :=
  filter_row (fun _ => rfl) exits_apart hr hc

namespace Kind

/-- The kinds whose ports follow from the data of a node. -/
def isFormed : Kind → Bool
  | forLoop | definition | sequence | declaration | moduleInput | moduleOutput => true
  | _ => false

/-- The inputs of a kind, for a number of slots and the types that are asked for. -/
def inputs (any : Socket) (count : Nat) (socket : Nat → Socket) : Kind → List Port
  | forLoop => SlotPair.loop.inputs any count
  | definition => SlotPair.params.inputs any count
  | sequence => [.flowIn flowInKey]
  | moduleOutput => [.input "input" "Value" (socket 0)]
  | _ => []

/-- The outputs of a kind, for a number of slots and the types that are asked for. -/
def outputs (count : Nat) (socket : Nat → Socket) : Kind → List Port
  | forLoop => SlotPair.loop.outputs socket count
  | definition => SlotPair.params.outputs socket count
  | sequence => row exitPort count
  | declaration => [.output resultKey "Result" (socket 0) true]
  | moduleInput => [.output "output" "Value" (socket 0) true]
  | _ => []

/-- The families of slots among the inputs. -/
def inputStems : Kind → List String
  | forLoop => ["range"]
  | definition => ["arg"]
  | _ => []

/-- The families of slots among the outputs. -/
def outputStems : Kind → List String
  | forLoop => ["val"]
  | definition | sequence => ["out"]
  | _ => []

end Kind

namespace Node

/-- How many slots the data of a node ask for. -/
def slotsAsked (kind : Kind) (n : Node) : Nat :=
  match kind with
  | .forLoop => (n.count? "numArgs").getD 1
  | .definition => (n.count? "numArgs").getD 0
  | .sequence => (n.count? "numExits").getD 0
  | _ => 0

/-- The type that the data of a node ask for, for each slot where there are slots. -/
def socketAsked (types : TypeTable) (kind : Kind) (n : Node) (i : Nat) : Socket :=
  match kind with
  | .forLoop | .definition => (n.typeAt types (slotKey "typeName" i)).socket
  | _ => (n.typeAt types "typeName").socket

/-- A node without its ports. -/
def bare (n : Node) : Node := { n with inputs := .empty, outputs := .empty }

/-- The ports of a node are those that its data ask for. -/
def Formed (lang : Language) (kind : Kind) (n : Node) : Prop :=
  n.Lists (kind.inputs lang.types.any.socket (n.slotsAsked kind) (n.socketAsked lang.types kind))
    (kind.outputs (n.slotsAsked kind) (n.socketAsked lang.types kind))

theorem slotsAsked_le (kind : Kind) (n : Node) : n.slotsAsked kind ≤ Decimal.maxCount := by
  unfold slotsAsked
  split
  · exact n.count?_getD_le "numArgs" (by decide)
  · exact n.count?_getD_le "numArgs" (Nat.zero_le _)
  · exact n.count?_getD_le "numExits" (Nat.zero_le _)
  · exact Nat.zero_le _

/-- Slots of a node whose ports are those that its data ask for. -/
theorem Formed.numbered {lang : Language} {kind : Kind} {n : Node} (h : n.Formed lang kind) :
    (∀ stem ∈ kind.inputStems, Numbered stem n.inputs.keys (n.slotsAsked kind)) ∧
      ∀ stem ∈ kind.outputStems, Numbered stem n.outputs.keys (n.slotsAsked kind) := by
  have hc := n.slotsAsked_le kind
  unfold Formed at h
  rw [h.keys_inputs, h.keys_outputs]
  cases kind with
  | forLoop =>
    refine ⟨fun stem hs => ?_, fun stem hs => ?_⟩
    · rw [List.mem_singleton.1 hs]
      exact numbered_row (fun _ => rfl) SlotPair.loop_apart.ins hc
    · rw [List.mem_singleton.1 hs]
      exact numbered_row (fun _ => rfl) SlotPair.loop_apart.outs hc
  | definition =>
    refine ⟨fun stem hs => ?_, fun stem hs => ?_⟩
    · rw [List.mem_singleton.1 hs]
      exact numbered_row (fun _ => rfl) SlotPair.params_apart.ins hc
    · rw [List.mem_singleton.1 hs]
      exact numbered_row (fun _ => rfl) SlotPair.params_apart.outs hc
  | sequence =>
    refine ⟨fun stem hs => absurd hs List.not_mem_nil, fun stem hs => ?_⟩
    rw [List.mem_singleton.1 hs]
    exact numbered_exits hc
  | _ => exact ⟨fun _ hs => absurd hs List.not_mem_nil, fun _ hs => absurd hs List.not_mem_nil⟩

theorem Lists.slotCount_exits {n : Node} {ins : List Port} {count : Nat}
    (h : n.Lists ins (row exitPort count)) (hc : count ≤ Decimal.maxCount) :
    slotCount "out" n.outputs.values = count := by
  refine Numbered.slotCount_eq ?_ fun hp => h.key_outputs hp
  rw [h.keys_outputs]
  exact numbered_exits hc

/-! ### New nodes -/

/-- Exits added one after the other. -/
theorem lists_foldl_addExit {n : Node} {ins : List Port} {a b : Nat} (hab : a ≤ b)
    (hb : b ≤ Decimal.maxCount) (h : n.Lists ins (row exitPort a)) :
    ((between a b).foldl addExit n).Lists ins (row exitPort b) := by
  refine foldl_between (P := fun i (m : Node) => m.Lists ins (row exitPort i)) hab ?_ h
  intro i m hi lists
  have fresh : (exitPort i).key ∉ (row exitPort i).map Port.key :=
    next_notMem_row (fun _ => rfl) exits_apart (by omega)
  rw [row_succ]
  exact lists.addOutput fresh

/-- A new node has the ports that its data ask for. -/
theorem lists_equip (lang : Language) (lib : Library) {kind : Kind} (formed : kind.isFormed = true)
    {n : Node} (hi : n.inputs = .empty) (ho : n.outputs = .empty) :
    (equip lang lib kind n).Lists
      (kind.inputs lang.types.any.socket (n.slotsAsked kind) (n.socketAsked lang.types kind))
      (kind.outputs (n.slotsAsked kind) (n.socketAsked lang.types kind)) := by
  have bare : n.Lists [] [] := .bare hi ho
  have hc := n.slotsAsked_le kind
  cases kind with
  | forLoop =>
    have start : ((n.addFlowIn.addFlowOut.addOutput (.flowOut "body" "body")).set "numArgs"
        (.num (.int (n.slotsAsked .forLoop)))).Lists SlotPair.loop.ins SlotPair.loop.outs :=
      (((bare.addInput (by decide)).addOutput (by decide)).addOutput (by decide)).of_samePorts
        (samePorts_set ..)
    have all := SlotPair.lists_foldl_addSlotPair lang.types SlotPair.loop_apart hc start
    -- noting the count changes no type
    have same : ∀ i < n.slotsAsked .forLoop,
        (typeAt (set (n.addFlowIn.addFlowOut.addOutput (.flowOut "body" "body")) "numArgs"
          (.num (.int (n.slotsAsked .forLoop)))) lang.types (slotKey "typeName" i)).socket =
            n.socketAsked lang.types .forLoop i := by
      intro i _
      unfold typeAt text? socketAsked
      rw [get?_set, if_neg (typeName_ne_numArgs i).symm]
      rfl
    rw [SlotPair.outputs_congr same] at all
    exact all
  | definition =>
    have start : n.addFlowOut.Lists SlotPair.params.ins SlotPair.params.outs :=
      bare.addOutput (by decide)
    exact SlotPair.lists_foldl_addSlotPair lang.types SlotPair.params_apart hc start
  | sequence =>
    have start : n.addFlowIn.Lists [.flowIn flowInKey] (row exitPort 0) :=
      bare.addInput (by decide)
    have all := lists_foldl_addExit (Nat.zero_le _) hc start
    rw [← range_eq_between] at all
    exact all
  | declaration | moduleInput => exact bare.addOutput List.not_mem_nil
  | moduleOutput => exact bare.addInput List.not_mem_nil
  | literal | call | topLevelCode | code | record | branch | whileLoop | moduleCall | flowEntry
  | flowExit | assignment => cases formed

/-! ### Forms on the way -/

/-- An assignment has one variable at most, and a result. -/
structure Assigns (n : Node) : Prop where
  single : ∀ port, n.input? "inVariable" = some port → port.multi = false
  result : resultKey ∈ n.outputs.keys

/-- The ports of a node are those of its kind, for some number of slots and some types. -/
structure InForm (lang : Language) (kind : Kind) (n : Node) : Prop where
  ports : kind.isFormed = true → ∃ count ≤ Decimal.maxCount, ∃ socket,
    n.Lists (kind.inputs lang.types.any.socket count socket) (kind.outputs count socket)
  assigns : kind = .assignment → n.Assigns

theorem Formed.inForm {lang : Language} {kind : Kind} {n : Node} (h : n.Formed lang kind)
    (formed : kind.isFormed = true) : n.InForm lang kind where
  ports _ := ⟨_, n.slotsAsked_le kind, _, h⟩
  assigns e := by
    rw [e] at formed
    cases formed

namespace Assigns

variable {n m : Node}

theorem of_samePorts (h : n.Assigns) (same : n.SamePorts m) : m.Assigns where
  single port hp := h.single port (by unfold input? at hp ⊢; rwa [same.2.2.1] at hp)
  result := by
    rw [same.2.2.2]
    exact h.result

theorem addInput (h : n.Assigns) {p : Port} (hp : p.key ≠ "inVariable") : (n.addInput p).Assigns where
  single port hport := by
    rw [input?_addInput, if_neg hp] at hport
    exact h.single port hport
  result := h.result

theorem dropInput (h : n.Assigns) {key : String} (hk : key ≠ "inVariable") :
    (n.dropInput key).Assigns where
  single port hport := by
    have left : (n.inputs.erase key).get? "inVariable" = some port := hport
    rw [OrderedMap.get?_erase, if_neg hk] at left
    exact h.single port left
  result := h.result

theorem retype (h : n.Assigns) (key dataKey : String) (t : DataType) :
    (n.retype key dataKey t).Assigns where
  single := h.single
  result := by
    show resultKey ∈ (Graph.retag n.outputs key t.tag).keys
    unfold Graph.retag
    rw [OrderedMap.keys_modify]
    exact h.result

theorem addField (h : n.Assigns) (types : TypeTable) (i : Nat) : (Node.addField types n i).Assigns :=
  h.addInput (Program.slotKey_ne (by decide) i)

theorem growField (h : n.Assigns) (i : Nat) (title : String) (t : DataType) :
    (Graph.growField n i title t).Assigns :=
  (h.addInput (Program.slotKey_ne (by decide) i)).of_samePorts
    ((samePorts_setDefault ..).trans (samePorts_setLiteral ..))

theorem foldl {α : Type} {f : Node → α → Node} (hf : ∀ n x, n.Assigns → (f n x).Assigns)
    (xs : List α) (h : n.Assigns) : (xs.foldl f n).Assigns :=
  List.foldlRecOn xs f (motive := Assigns) h fun m hm x _ => hf m x hm

end Assigns

theorem assigns_equip (lang : Language) (lib : Library) (n : Node) :
    (equip lang lib .assignment n).Assigns := by
  refine Assigns.foldl (fun m i hm => hm.addField _ i) _ ⟨fun port hp => ?_, ?_⟩
  · have given : (n.addFlowIn.addInput (.input "inVariable" "Variable" lang.types.any.socket)).input?
        "inVariable" = some port := hp
    rw [input?_addInput] at given
    cases given
    rfl
  · exact OrderedMap.mem_keys_iff.2
      ⟨resultPort (n.typeAt lang.types "typeName") true, OrderedMap.get?_insert_self ..⟩

/-- A new node has ports of its kind. -/
theorem inForm_equip (lang : Language) (lib : Library) (kind : Kind) {n : Node}
    (hi : n.inputs = .empty) (ho : n.outputs = .empty) : (equip lang lib kind n).InForm lang kind where
  ports formed := ⟨_, n.slotsAsked_le kind, _, lists_equip lang lib formed hi ho⟩
  assigns e := by
    rw [e]
    exact assigns_equip lang lib n

theorem InForm.of_samePorts {lang : Language} {kind : Kind} {n m : Node} (h : n.InForm lang kind)
    (same : n.SamePorts m) : m.InForm lang kind where
  ports formed := by
    obtain ⟨count, hc, socket, lists⟩ := h.ports formed
    exact ⟨count, hc, socket, lists.of_samePorts same⟩
  assigns e := (h.assigns e).of_samePorts same

/-- A count that is noted as a number. -/
theorem count?_of_num {n : Node} {key : String} {c : Nat} (hc : c ≤ Decimal.maxCount)
    (h : n.data.get? key = some (.num (.int c))) : n.count? key = some c := by
  unfold count?
  rw [h]
  have range : 0 ≤ (c : Int) ∧ (c : Int) ≤ Decimal.maxCount := by omega
  simp [range]

/-- A node whose only port is an output that has been retyped. -/
theorem lists_retype {types : TypeTable} {t : DataType} (has : types.Has t) {n : Node}
    {key title : String} {o : Socket} (lists : n.Lists [] [.output key title o true]) :
    (n.retype key "typeName" t).Lists []
      [.output key title ((n.retype key "typeName" t).typeAt types "typeName").socket true] := by
  have retagged : [Port.output key title o true].map (Port.retag key t.tag) =
      [.output key title t.socket true] := by
    simp [Port.retag, Port.output, DataType.tag]
  rw [has.typeAt (n.shows_retype ..).data, ← retagged]
  exact (lists.retagOutput key t.tag).of_samePorts (samePorts_set ..)

/-- A node whose only port is an input that has been retyped. -/
theorem lists_retypeInput {types : TypeTable} {t : DataType} (has : types.Has t) {n : Node}
    {key title : String} {o : Socket} (lists : n.Lists [.input key title o] []) :
    ((n.retagInput key t.tag).set "typeName" (.str t.name)).Lists
      [.input key title (((n.retagInput key t.tag).set "typeName" (.str t.name)).typeAt types
        "typeName").socket] [] := by
  have retagged : [Port.input key title o].map (Port.retag key t.tag) =
      [.input key title t.socket] := by
    simp [Port.retag, Port.input, DataType.tag]
  have noted : ((n.retagInput key t.tag).set "typeName" (.str t.name)).data.get? "typeName" =
      some (.str t.name) := by
    rw [get?_set, if_pos rfl]
  rw [has.typeAt noted, ← retagged]
  exact (lists.retagInput key t.tag).of_samePorts (samePorts_set ..)

theorem count?_congr {n m : Node} {key : String} (h : m.data.get? key = n.data.get? key) :
    m.count? key = n.count? key := by
  unfold count?
  rw [h]

end Node

/-! ### Adapting a node of a kind -/

namespace Graph

section Rules

variable {lang : Language} {id : NodeId} {a : Adapted} {n : Node}

/-- A single output that follows the data. -/
theorem formed_followDeclared (cat : lang.types.Catalogued) (hn : a.graph.node? id = some n)
    {key title : String} {o : Socket} (lists : n.Lists [] [.output key title o true]) :
    (followDeclared lang id a key).graph.At id fun m =>
      m.Lists [] [.output key title (m.typeAt lang.types "typeName").socket true] := by
  unfold followDeclared
  refine At.retypeOutput (P := (· = n)) ⟨n, hn, rfl⟩ ?_
  rintro m rfl
  exact Node.lists_retype (cat.has_getOrAny _) lists

/-- Following a producer writes the type that is taken into the port and the data. -/
theorem node?_followProducer (lang : Language) (hn : a.graph.node? id = some n) :
    (followProducer lang id a).graph.node? id =
      some ((n.retagInput "input" (keptType lang id a "input" lang.types.any).2.tag).set "typeName"
        (.str (keptType lang id a "input" lang.types.any).2.name)) := by
  have there : (keptType lang id a "input" lang.types.any).1.graph.node? id = some n :=
    (node?_keptType ..).trans hn
  unfold followProducer
  generalize keptType lang id a "input" lang.types.any = kept at there ⊢
  obtain ⟨b, t⟩ := kept
  have retagged : (b.step fun g => g.setInputTag id "input" t.tag).graph.At id
      (· = n.retagInput "input" t.tag) :=
    At.of_nodes (P := (· = n)) ⟨n, there, rfl⟩ (nodes_setInputTag ..) (by rintro _ rfl; rfl)
  obtain ⟨_, hm, rfl⟩ := retagged
  show (Graph.modifyNode ..).node? id = _
  rw [node?_modifyNode_self, hm]
  rfl

/-- A single input that follows its producer. -/
theorem formed_followProducer (cat : lang.types.Catalogued) (hn : a.graph.node? id = some n)
    {o : Socket} (lists : n.Lists [.input "input" "Value" o] []) :
    (followProducer lang id a).graph.At id fun m =>
      m.Lists [.input "input" "Value" (m.typeAt lang.types "typeName").socket] [] := by
  have has : lang.types.Has (keptType lang id a "input" lang.types.any).2 := by
    rw [keptType_eq]
    exact has_fedType cat (has_sourceType cat id "input") cat.any
  exact ⟨_, node?_followProducer lang hn, Node.lists_retypeInput has lists⟩

/-- Dropping outputs. -/
theorem At.foldl_dropOutput {ins outs : List Port} {d : NodeData} (keys : List String)
    (h : a.graph.At id fun n => n.Lists ins outs ∧ n.data = d) :
    (keys.foldl (fun a key => a.step fun g => g.dropOutput id key) a).graph.At id fun n =>
      n.Lists ins (outs.filter fun p => p.key ∉ keys) ∧ n.data = d := by
  induction keys generalizing a outs with
  | nil => simpa using h
  | cons key keys ih =>
    have step : (a.step fun g => g.dropOutput id key).graph.At id fun n =>
        n.Lists ins (outs.filter (·.key ≠ key)) ∧ n.data = d := by
      refine h.of_nodes (nodes_dropOutput ..) ?_
      rintro n ⟨lists, data⟩
      exact ⟨lists.dropOutput key, data⟩
    have rest := ih step
    rwa [filter_key_notMem_cons] at rest

/-- Exits that are too few are added, and exits that are too many are dropped. -/
theorem formed_adaptSequence (hn : a.graph.node? id = some n) {ins : List Port} {present : Nat}
    (hp : present ≤ Decimal.maxCount) (lists : n.Lists ins (row exitPort present)) :
    (adaptSequence id a n).graph.At id fun m =>
      m.Lists ins (row exitPort ((n.count? "numExits").getD 0)) ∧ m.data = n.data := by
  have hc := n.count?_getD_le "numExits" (Nat.zero_le _)
  unfold adaptSequence
  dsimp only
  rw [lists.slotCount_exits hp]
  rcases le_total present ((n.count? "numExits").getD 0) with hle | hle
  · rw [between_eq_nil hle]
    refine At.edit (P := (· = n)) ⟨n, hn, rfl⟩ ?_
    rintro m rfl
    refine ⟨Node.lists_foldl_addExit hle hc lists, ?_⟩
    exact List.foldlRecOn _ Node.addExit (motive := fun k : Node => k.data = m.data) rfl
      fun _ hk _ _ => hk
  · rw [between_eq_nil hle]
    have start : (a.update fun g => g.modifyNode id fun m => [].foldl Node.addExit m).graph.At id
        fun m => m.Lists ins (row exitPort present) ∧ m.data = n.data :=
      At.edit (P := (· = n)) ⟨n, hn, rfl⟩ (by rintro _ rfl; exact ⟨lists, rfl⟩)
    have dropped := start.foldl_dropOutput
      ((between ((n.count? "numExits").getD 0) present).map (slotKey "out"))
    rw [List.foldl_map] at dropped
    refine dropped.mono ?_
    rintro m ⟨lists, data⟩
    refine ⟨?_, data⟩
    rwa [filter_exits hle hp] at lists

/-- Dropping the input of a field keeps what does not depend on it. -/
theorem At.dropField_of {P : Node → Prop} (h : a.graph.At id P) {i : Nat}
    (drop : ∀ n : Node, P n → P (n.dropInput (slotKey "inValue" i)))
    (data : ∀ n m : Node, P n → n.SamePorts m → P m) : (Graph.dropField id a i).graph.At id P := by
  unfold Graph.dropField
  dsimp only
  split
  · exact h
  · have dropped : (a.step fun g => g.dropInput id (slotKey "inValue" i)).graph.At id P :=
      h.of_nodes (nodes_dropInput ..) drop
    exact dropped.edit fun n hn =>
      data n _ hn ((n.samePorts_unset _).trans (Node.samePorts_unset ..))

theorem At.dropField (h : a.graph.At id Node.Assigns) (i : Nat) :
    (Graph.dropField id a i).graph.At id Node.Assigns :=
  h.dropField_of (fun _ hn => hn.dropInput (Program.slotKey_ne (by decide) i))
    fun _ _ hn same => hn.of_samePorts same

/-- The fields of the type that a target declares. -/
def fieldsOf (types : TypeTable) (target : Option Node) : Option (List FieldDesc) := do
  (← types.get? (← (← target).text? "typeName")).desc.fields

/-- The title and the type of an assigned field. -/
def fieldAt (types : TypeTable) (fields : Option (List FieldDesc)) (t : DataType) (i : Nat) :
    String × DataType :=
  match fields with
  | none => ("value", t)
  | some fields => match fields[i]? with
    | none => ("value", t)
    | some f => (f.name, types.getOrAny (some f.type))

/-- Bring an assignment in line with its target and the type of it. -/
def assignTo (lang : Language) (id : NodeId) (target : Option Node) (t : DataType) (a : Adapted) :
    Adapted :=
  let fields := fieldsOf lang.types target
  let required := fieldCount fields target
  match a.graph.node? id with
  | none => a
  | some n =>
    let present := slotCount "inValue" n.inputs.values
    let retyped := (n.output? resultKey).map (·.tag) ≠ some t.tag
    let a := if retyped then (List.range present).foldl (dropField id) a else a
    let present := if retyped then 0 else present
    let a := a.update fun g => g.modifyNode id fun n =>
      (between present required).foldl (fun n i =>
        growField n i (fieldAt lang.types fields t i).1 (fieldAt lang.types fields t i).2) n
    let a := (between required present).foldl (dropField id) a
    let a := a.update fun g => g.modifyNode id fun n => n.set "numArgs" (.num (.int required))
    retypeOutput id a resultKey "typeName" t

/-- The node that feeds the variable of an assignment. -/
def targetOf (id : NodeId) (g : Graph) : Option Node :=
  g.wireInto? id "inVariable" >>= fun w => g.node? w.source

theorem adaptAssignment_eq (lang : Language) (id : NodeId) (a : Adapted) :
    adaptAssignment lang id a = assignTo lang id
      (targetOf id (keptType lang id a "inVariable" lang.types.any).1.graph)
      (keptType lang id a "inVariable" lang.types.any).2
      (keptType lang id a "inVariable" lang.types.any).1 := rfl

/-- An assignment keeps its variable and its result. -/
theorem assigns_assignTo (lang : Language) (h : a.graph.At id Node.Assigns) (target : Option Node)
    (t : DataType) : (assignTo lang id target t a).graph.At id Node.Assigns := by
  unfold assignTo
  dsimp only
  split
  · exact h
  · refine At.retypeOutput (P := Node.Assigns) ?_ fun n hn => hn.retype _ _ _
    refine At.edit (P := Node.Assigns) ?_ fun n hn => hn.of_samePorts (n.samePorts_set _ _)
    refine At.foldl _ ?_ fun b i _ hb => hb.dropField i
    refine At.edit (P := Node.Assigns) ?_ fun n hn =>
      Node.Assigns.foldl (fun m i hm => hm.growField i _ _) _ hn
    split_ifs
    · exact At.foldl _ h fun b i _ hb => hb.dropField i
    · exact h

/-- Taking the type of an input keeps what is known of the node. -/
theorem At.keptType {P : Node → Prop} (h : a.graph.At id P) (lang : Language) (port : String)
    (unconnected : DataType) : (Graph.keptType lang id a port unconnected).1.graph.At id P := by
  obtain ⟨n, hn, hp⟩ := h
  exact ⟨n, (node?_keptType ..).trans hn, hp⟩

end Rules

/-- The rule of a kind, for the node as it was found. -/
def ruleFor (lang : Language) (id : NodeId) (lib : Library) (kind : Kind) (n : Node)
    (a : Adapted) : Adapted :=
  match kind with
  | .declaration => followDeclared lang id a resultKey
  | .moduleInput => followDeclared lang id a "output"
  | .moduleOutput => followProducer lang id a
  | .forLoop => adaptForLoop lang id a n
  | .definition => adaptDefinition lang id a n
  | .sequence => adaptSequence id a n
  | .record => adaptRecord id a n
  | .assignment => adaptAssignment lang id a
  | .moduleCall => adaptModuleCall lang id lib a n
  | _ => a

variable {lang : Language} {g : Graph} {id : NodeId} {n : Node} {kind : Kind}

theorem adapt_eq_ruleFor (lib : Library) (hn : g.node? id = some n)
    (hk : lang.kind? n.component = some kind) :
    g.adapt lang id lib =
      ((ruleFor lang id lib kind n { graph := g }).graph,
        (ruleFor lang id lib kind n { graph := g }).cut) := by
  unfold Graph.adapt ruleFor
  rw [hn]
  dsimp only
  rw [hk]
  cases kind <;> rfl

/-- A node that is absent, or of no known kind, is left alone. -/
theorem adapt_eq_self (lib : Library)
    (h : ∀ n, g.node? id = some n → lang.kind? n.component = none) :
    g.adapt lang id lib = (g, []) := by
  unfold Graph.adapt
  cases hn : g.node? id with
  | none => rfl
  | some n =>
    dsimp only
    rw [h n hn]

/-- An adapted node has the ports that its data ask for. -/
theorem formed_adapt (cat : lang.types.Catalogued) (wired : g.WellWired)
    (hn : g.node? id = some n) (hk : lang.kind? n.component = some kind)
    (formed : kind.isFormed = true) (form : n.InForm lang kind) (lib : Library) :
    (g.adapt lang id lib).1.At id (Node.Formed lang kind) := by
  obtain ⟨present, hp, socket, lists⟩ := form.ports formed
  rw [adapt_eq_ruleFor lib hn hk]
  cases kind with
  | forLoop =>
    have slotted := slotted_adaptForLoop (a := { graph := g }) cat wired hn hp ⟨socket, lists⟩
    refine slotted.lists.mono ?_
    rintro m ⟨lists, data⟩
    -- the count is in the data
    have hc := n.count?_getD_le "numArgs" (d := 1) (by decide)
    have asked : m.slotsAsked .forLoop = (n.count? "numArgs").getD 1 := by
      unfold Node.slotsAsked
      dsimp only
      rw [Node.count?_of_num hc data]
      rfl
    unfold Node.Formed
    rw [asked]
    exact lists
  | definition =>
    have slotted := slotted_adaptDefinition (a := { graph := g }) cat wired hn hp ⟨socket, lists⟩
    refine slotted.lists.mono ?_
    rintro m ⟨lists, data⟩
    have asked : m.slotsAsked .definition = (n.count? "numArgs").getD 0 := by
      unfold Node.slotsAsked
      dsimp only
      rw [Node.count?_congr data]
    unfold Node.Formed
    rw [asked]
    exact lists
  | sequence =>
    have adapted := formed_adaptSequence (a := { graph := g }) hn hp lists
    refine adapted.mono ?_
    rintro m ⟨lists, data⟩
    have asked : m.slotsAsked .sequence = (n.count? "numExits").getD 0 := by
      have same : m.count? "numExits" = n.count? "numExits" := Node.count?_congr (by rw [data])
      unfold Node.slotsAsked
      dsimp only
      rw [same]
    unfold Node.Formed
    rw [asked]
    exact lists
  | declaration | moduleInput =>
    exact formed_followDeclared (a := { graph := g }) cat hn lists
  | moduleOutput => exact formed_followProducer (a := { graph := g }) cat hn lists
  | literal | call | topLevelCode | code | record | branch | whileLoop | moduleCall | flowEntry
  | flowExit | assignment => cases formed

/-! ### Sessions -/

/-- The nodes of a graph have ports of their kinds. -/
structure InForm (lang : Language) (g : Graph) : Prop where
  node : ∀ {id n kind}, g.node? id = some n → lang.kind? n.component = some kind →
    n.InForm lang kind

namespace InForm

/-- A change of wires alone. -/
theorem of_nodes (h : g.InForm lang) {g' : Graph}
    (nodes : ∀ {id n}, g'.node? id = some n → g.node? id = some n) : g'.InForm lang :=
  ⟨fun hn hk => h.node (nodes hn) hk⟩

/-- A data edit. -/
theorem edit (h : g.InForm lang) (id : NodeId) {f : Node → Node}
    (hf : ∀ n : Node, n.SamePorts (f n)) : (g.modifyNode id f).InForm lang := by
  constructor
  intro j m kind hm hk
  rw [node?_modifyNode] at hm
  split_ifs at hm
  · obtain ⟨n, hn, rfl⟩ := Option.map_eq_some_iff.1 hm
    rw [(hf n).2.1] at hk
    exact (h.node hn hk).of_samePorts (hf n)
  · exact h.node hm hk

/-- A new node. -/
theorem create (h : g.InForm lang) {library : Library} {component : String} {data : NodeData}
    {g' : Graph} {n : Node} (hc : g.create lang library component data = .ok (g', n)) :
    g'.InForm lang := by
  unfold Graph.create at hc
  cases hk : lang.kind? component with
  | none =>
    rw [hk] at hc
    cases hc
  | some kind =>
    rw [hk] at hc
    have same := Node.sameName_equip lang library kind { id := g.nextId, component, data }
    have form : (Node.equip lang library kind { id := g.nextId, component, data }).InForm lang kind :=
      Node.inForm_equip lang library kind rfl rfl
    cases hc
    constructor
    intro j m kind' hm hk'
    rw [node?_addNode] at hm
    split_ifs at hm
    · cases hm
      rw [same.2, hk] at hk'
      cases hk'
      exact form
    · exact h.node hm hk'

/-- An adapted node. -/
theorem adapt (h : g.InForm lang) (cat : lang.types.Catalogued) (wired : g.WellWired)
    (id : NodeId) (lib : Library) : (g.adapt lang id lib).1.InForm lang := by
  have trimmed := (Adapted.changes_adapt lang id g lib).trimmed
  constructor
  intro j m kind hm hk
  by_cases hj : id = j
  · subst hj
    cases hn : g.node? id with
    | none =>
      have absent : ∀ n, g.node? id = some n → lang.kind? n.component = none := by simp [hn]
      rw [adapt_eq_self lib absent] at hm
      cases hn.symm.trans hm
    | some n =>
      obtain ⟨m', hm', place⟩ := trimmed.node n hn
      have same : m' = m := Option.some.inj (hm'.symm.trans hm)
      subst same
      rw [place.2.1] at hk
      have form := h.node hn hk
      refine ⟨fun formed => ?_, ?_⟩
      · have adapted := (formed_adapt cat wired hn hk formed form lib).of_node? hm
        exact (adapted.inForm formed).ports formed
      · rintro rfl
        have start : ({ graph := g } : Adapted).graph.At id Node.Assigns :=
          ⟨n, hn, form.assigns rfl⟩
        have assigns : (adaptAssignment lang id { graph := g }).graph.At id Node.Assigns :=
          assigns_assignTo lang (start.keptType lang "inVariable" lang.types.any) _ _
        rw [adapt_eq_ruleFor lib hn hk] at hm
        exact assigns.of_node? hm
  · exact h.node ((trimmed.others j hj).symm.trans hm) hk

/-- Every edit but retagging by hand keeps the ports those of the kinds. -/
theorem apply (h : g.InForm lang) (cat : lang.types.Catalogued) (wired : g.WellWired) {e : Edit}
    (he : e.isRetag = false) : (g.apply lang e).InForm lang := by
  cases e with
  | create library component data =>
    unfold Graph.apply
    dsimp only
    cases hc : g.create lang library component data with
    | ok made => exact h.create hc
    | error _ => exact h
  | set id key value => exact h.edit id fun n => n.samePorts_set key value
  | setDefault id key value => exact h.edit id fun n => n.samePorts_setDefault key value
  | unset id key => exact h.edit id fun n => n.samePorts_unset key
  | connect wire =>
    unfold Graph.apply
    dsimp only
    cases hc : g.connect wire with
    | ok g' =>
      obtain ⟨rfl, -⟩ := connect_eq_ok hc
      exact h.of_nodes fun hn => hn
    | error _ => exact h
  | disconnect wire => exact h.of_nodes fun hn => hn
  | remove id =>
    refine h.of_nodes fun {j n} hn => ?_
    rw [Graph.apply, node?_removeNode] at hn
    split_ifs at hn
    exact hn
  | retagInput | retagOutput => cases he
  | adapt library id => exact h.adapt cat wired id library

end InForm

/-- A session without retagging by hand leaves nodes with ports of their kinds. -/
theorem inForm_session (cat : lang.types.Catalogued) (name : String) {edits : List Edit}
    (he : ∀ e ∈ edits, e.isRetag = false) : (session lang name edits).InForm lang := by
  induction edits using List.reverseRecOn with
  | nil => exact ⟨fun hn => by cases hn⟩
  | append_singleton edits e ih =>
    rw [session, List.foldl_concat]
    refine (ih fun e he' => he e (by simp [he'])).apply cat ?_ (he e (by simp))
    exact (sound_session lang name edits).wired

/-- Whatever a session has done, a node that has just been adapted has the ports that a new node of
its kind with the same data gets, in the same order.  Its slots are numbered up to the count in the
data, on both sides. -/
theorem adapt_eq_equip {patterns : PatternReader} {core : CoreDesc} {surface : SurfaceDesc}
    {extra : ExtraDesc} (loaded : Language.load patterns core surface extra = .ok lang)
    (name : String) {edits : List Edit}
    (he : ∀ e ∈ edits, e.isRetag = false) (lib : Library)
    (hn : (session lang name edits).node? id = some n)
    (hk : lang.kind? n.component = some kind) (formed : kind.isFormed = true) :
    ∃ m, ((session lang name edits).adapt lang id lib).1.node? id = some m ∧
      m.component = n.component ∧
      m.inputs = (Node.equip lang lib kind m.bare).inputs ∧
      m.outputs = (Node.equip lang lib kind m.bare).outputs ∧
      (∀ stem ∈ kind.inputStems, Numbered stem m.inputs.keys (m.slotsAsked kind)) ∧
      ∀ stem ∈ kind.outputStems, Numbered stem m.outputs.keys (m.slotsAsked kind) := by
  have cat := Language.catalogued_of_load loaded
  have form := (inForm_session cat name he).node hn hk
  obtain ⟨m, hm, adapted⟩ :=
    formed_adapt cat (sound_session lang name edits).wired hn hk formed form lib
  obtain ⟨m', hm', place⟩ := ((Adapted.changes_adapt lang id _ lib).trimmed).node n hn
  have same : m' = m := Option.some.inj (hm'.symm.trans hm)
  subst same
  -- a node without ports has the same data, so it is asked for the same ports
  have fresh : (Node.equip lang lib kind m'.bare).Lists _ _ :=
    Node.lists_equip lang lib formed rfl rfl
  obtain ⟨ins, outs⟩ := Node.Lists.unique adapted fresh
  exact ⟨m', hm, place.2.1, ins, outs, adapted.numbered⟩

end Graph

/-! ### A session in a language with types in layers -/

namespace Sample

def layeredCore : CoreDesc where
  types := [{ name := "bool", template := some "$" }]
  anyTypes := ["any"]
  voidTypes := ["void"]
  logicType := "bool"

/-- Counts are a kind of 32-bit integers, which are a kind of integers. -/
def layeredSurface : SurfaceDesc where
  types := [{ name := "any", spelling := "any" }, { name := "void", spelling := "void" },
    { name := "bool", spelling := "bool" },
    { name := "int", spelling := "int", isLocal := some true },
    { name := "int32", spelling := "int32", base := some "int", isLocal := some true },
    { name := "count", spelling := "count", base := some "int32", isLocal := some true }]

theorem layered_loads :
    (Language.load Pattern.reader layeredCore layeredSurface {}).toOption.isSome = true := by
  decide +kernel

def layered : Language :=
  (Language.load Pattern.reader layeredCore layeredSurface {}).toOption.get layered_loads

theorem layered_load_eq :
    Language.load Pattern.reader layeredCore layeredSurface {} = .ok layered :=
  eq_ok_get_toOption layered_loads

/-- A definition with three parameters, the second of which is a variable, is cut down to two, and
then asked for four. -/
def regrown : List Edit := [
  .create .empty "Variable" (.ofList [("typeName", .str "count")]),
  .create .empty "Function" (.ofList [("numArgs", .num (.int 3)), ("typeName0", .str "int")]),
  .connect ⟨1, "result", 2, "arg1"⟩,
  .adapt .empty 2,
  .set 2 "numArgs" (.str "2"),
  .adapt .empty 2,
  .set 2 "numArgs" (.str " 4 ")]

theorem regrown_node : ((Graph.session layered "main" regrown).node? 2).map
    (fun n => (n.component, n.outputs.keys)) = some ("Function", ["fout", "out0", "out1"]) := by
  decide +kernel

/-- Adapting the definition gives it the ports of a new one with four parameters. -/
theorem adapt_eq_equip_regrown :
    Language.load Pattern.reader layeredCore layeredSurface {} = .ok layered ∧
      (∀ e ∈ regrown, e.isRetag = false) ∧
      ∃ m, ((Graph.session layered "main" regrown).adapt layered 2 .empty).1.node? 2 = some m ∧
        m.outputs = (Node.equip layered .empty .definition m.bare).outputs ∧
        m.slotsAsked .definition = 4 ∧ Numbered "arg" m.inputs.keys 4 := by
  have edits : ∀ e ∈ regrown, e.isRetag = false := by simp [regrown, Edit.isRetag]
  obtain ⟨n, hn, known⟩ := Option.map_eq_some_iff.1 regrown_node
  have kind : layered.kind? n.component = some .definition := by
    rw [(Prod.mk.inj known).1]
    decide +kernel
  obtain ⟨m, hm, -, -, outs, ins, -⟩ :=
    Graph.adapt_eq_equip layered_load_eq "main" edits .empty hn kind rfl
  have asked : (((Graph.session layered "main" regrown).adapt layered 2 .empty).1.node? 2).map
      (·.slotsAsked .definition) = some 4 := by
    decide +kernel
  rw [hm] at asked
  have four : m.slotsAsked .definition = 4 := Option.some.inj asked
  exact ⟨layered_load_eq, edits, m, hm, outs, four, four ▸ ins "arg" (by simp [Kind.inputStems])⟩

end Sample

end FlowScript
