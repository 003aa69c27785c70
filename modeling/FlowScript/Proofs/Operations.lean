import FlowScript.Proofs.CallPorts

/-!
# Graphs with ports removed by hand

Ports may also be removed by hand, at any node.  The numbered slots of a node have gaps then, and a
rule that adds slots by their number may replace a port that is there, without a look at its wires.
Of the invariants of sessions it is left that a node has only ports that its kind may have, and that
a wire joins two ports for flow or two ports for values.

* `Operation`, `Graph.operated`: edits and removals of ports, one after the other;
* `Kind.AllowsInput`, `Kind.AllowsOutput`, `Node.Loose`: the ports that a kind may have;
* `Graph.Hitched`: a wire joins two ports of one nature;
* `Graph.Handled`: what holds on the way of adapting a node, by one lemma for each change and rule;
* `Graph.Loose`: the invariant; `Graph.loose_operated`: it holds whatever the operations.
-/

namespace FlowScript

open FlowScript.Graph

/-- An edit of a graph, or the removal of a port by hand. -/
inductive Operation
  | edit (e : Edit)
  | dropInput (id : NodeId) (key : String)
  | dropOutput (id : NodeId) (key : String)

/-- Whether an operation retags a port by hand. -/
def Operation.isRetag : Operation → Bool
  | .edit e => e.isRetag
  | _ => false

namespace Graph

/-- Do one operation. -/
def operate (lang : Language) (g : Graph) : Operation → Graph
  | .edit e => g.apply lang e
  | .dropInput id key => (g.dropInput id key).1
  | .dropOutput id key => (g.dropOutput id key).1

/-- The graph that a list of operations makes of an empty one. -/
def operated (lang : Language) (name : String) (ops : List Operation) : Graph :=
  ops.foldl (operate lang) { name }

theorem session_eq_operated (lang : Language) (name : String) (edits : List Edit) :
    session lang name edits = operated lang name (edits.map .edit) := by
  unfold session operated
  rw [List.foldl_map]
  rfl

end Graph

theorem mem_between {a b i : Nat} : i ∈ between a b ↔ a ≤ i ∧ i < b := by
  simp only [between, List.mem_range'_1]
  omega

/-- A fold that sets what is seen in one place after the other. -/
theorem look_foldl_between {f : Node → Nat → Node} (look : Node → Nat → Option Port)
    (put : Nat → Option Port)
    (step : ∀ (n : Node) j i, look (f n j) i = if j = i then put i else look n i)
    (n : Node) (a b i : Nat) :
    look ((between a b).foldl f n) i = if a ≤ i ∧ i < b then put i else look n i := by
  rcases le_total a b with hab | hba
  · refine (foldl_between (P := fun j (m : Node) => a ≤ j ∧
      look m i = if a ≤ i ∧ i < j then put i else look n i) hab ?_ ⟨le_rfl, ?_⟩).2
    · rintro j m - ⟨hj, hm⟩
      refine ⟨by omega, ?_⟩
      rw [step, hm]
      by_cases hi : j = i
      · rw [if_pos hi, if_pos (by omega)]
      · rw [if_neg hi]
        refine if_congr ?_ rfl rfl
        omega
    · rw [if_neg (by omega)]
  · rw [between_eq_nil hba, if_neg (by omega)]
    rfl

theorem slotKey_inj {stem : String} {i j : Nat} : slotKey stem i = slotKey stem j ↔ i = j :=
  ⟨slotKey_injective, congrArg (slotKey stem)⟩

/-- Adding the ports of a family one by one sets the places of their numbers. -/
theorem ite_slotKey {stem : String} (put : Nat → Port) (hp : ∀ i, (put i).key = slotKey stem i)
    (o : Option Port) (j i : Nat) :
    (if (put j).key = slotKey stem i then some (put j) else o) =
      if j = i then some (put i) else o := by
  by_cases hi : j = i
  · rw [hi, if_pos (hp i), if_pos rfl]
  · rw [if_neg hi, if_neg]
    rw [hp]
    exact fun e => hi (slotKey_injective e)

/-! ### Ports that a kind may have -/

namespace SlotPair

variable {s : SlotPair} {any : Socket} {p : Port} {i count : Nat}

/-- The input of a pair, or one of the other inputs. -/
def AllowsInput (s : SlotPair) (any : Socket) (p : Port) : Prop :=
  p ∈ s.ins ∨ ∃ i < Decimal.maxCount, p = s.input any i

/-- The output of a pair, of any type, or one of the other outputs. -/
def AllowsOutput (s : SlotPair) (p : Port) : Prop :=
  p ∈ s.outs ∨ ∃ i < Decimal.maxCount, ∃ o, p = s.output (fun _ => o) i

theorem allowsInput_of_mem (hc : count ≤ Decimal.maxCount) (h : p ∈ s.inputs any count) :
    s.AllowsInput any p := by
  rcases List.mem_append.1 h with other | slot
  · exact .inl other
  · obtain ⟨i, hi, rfl⟩ := List.mem_map.1 slot
    exact .inr ⟨i, (List.mem_range.1 hi).trans_le hc, rfl⟩

theorem allowsOutput_of_mem {socket : Nat → Socket} (hc : count ≤ Decimal.maxCount)
    (h : p ∈ s.outputs socket count) : s.AllowsOutput p := by
  rcases List.mem_append.1 h with other | slot
  · exact .inl other
  · obtain ⟨i, hi, rfl⟩ := List.mem_map.1 slot
    exact .inr ⟨i, (List.mem_range.1 hi).trans_le hc, socket i, rfl⟩

/-- Under the key of a slot there is the input of a pair. -/
theorem AllowsInput.eq_input (h : s.AllowsInput any p) (apart : s.Apart)
    (hi : i ≤ Decimal.maxCount) (hk : p.key = slotKey s.inStem i) : p = s.input any i := by
  rcases h with other | ⟨j, -, rfl⟩
  · have slot := isSlot_slotKey s.inStem hi
    rw [← hk, apart.ins p other] at slot
    cases slot
  · obtain rfl := slotKey_injective hk
    rfl

/-- Under the key of a slot there is the output of a pair. -/
theorem AllowsOutput.eq_output (h : s.AllowsOutput p) (apart : s.Apart)
    (hi : i ≤ Decimal.maxCount) (hk : p.key = slotKey s.outStem i) :
    i < Decimal.maxCount ∧ ∃ o, p = s.output (fun _ => o) i := by
  rcases h with other | ⟨j, hj, o, rfl⟩
  · have slot := isSlot_slotKey s.outStem hi
    rw [← hk, apart.outs p other] at slot
    cases slot
  · obtain rfl := slotKey_injective hk
    exact ⟨hj, o, rfl⟩

/-- The output of a pair may be retyped. -/
theorem AllowsOutput.retag (h : s.AllowsOutput p) (apart : s.Apart) (hi : i ≤ Decimal.maxCount)
    (hk : p.key = slotKey s.outStem i) (o : Socket) :
    s.AllowsOutput { p with tag := .value o } := by
  obtain ⟨lt, o', rfl⟩ := h.eq_output apart hi hk
  exact .inr ⟨i, lt, o, rfl⟩

end SlotPair

/-- The inputs that a node of a kind may have, when others have been removed. -/
def Kind.AllowsInput (lang : Language) (p : Port) : Kind → Prop
  | forLoop => SlotPair.loop.AllowsInput lang.types.any.socket p
  | definition => SlotPair.params.AllowsInput lang.types.any.socket p
  | sequence => p = .flowIn flowInKey
  | assignment => isSlot "inValue" p.key = true → p.tag ≠ .flow
  | moduleCall => p.title = p.key ∧ p.multi = false
  | _ => True

/-- The outputs that a node of a kind may have, when others have been removed. -/
def Kind.AllowsOutput (p : Port) : Kind → Prop
  | forLoop => SlotPair.loop.AllowsOutput p
  | definition => SlotPair.params.AllowsOutput p
  | sequence => ∃ i < Decimal.maxCount, p = exitPort i
  | moduleCall => p.title = p.key
  | _ => True

/-- A kind has paired slots and the ports that go with them. -/
structure Kind.Pairs (lang : Language) (kind : Kind) (s : SlotPair) : Prop where
  apart : s.Apart
  input : ∀ p, kind.AllowsInput lang p ↔ s.AllowsInput lang.types.any.socket p
  output : ∀ p, kind.AllowsOutput p ↔ s.AllowsOutput p

theorem Kind.pairs_loop (lang : Language) : Kind.forLoop.Pairs lang .loop :=
  ⟨SlotPair.loop_apart, fun _ => .rfl, fun _ => .rfl⟩

theorem Kind.pairs_params (lang : Language) : Kind.definition.Pairs lang .params :=
  ⟨SlotPair.params_apart, fun _ => .rfl, fun _ => .rfl⟩

theorem Port.tag_input_ne_flow (key title : String) (o : Socket) :
    (Port.input key title o).tag ≠ .flow := by
  intro h
  cases h

theorem Port.tag_output_ne_flow (key title : String) (o : Socket) (multi : Bool) :
    (Port.output key title o multi).tag ≠ .flow := by
  intro h
  cases h

namespace Node

/-- Ports stand in their places, and are ports that the kind may have. -/
structure Loose (lang : Language) (kind : Kind) (n : Node) : Prop where
  keyed : n.Keyed
  input : ∀ {key p}, n.input? key = some p → kind.AllowsInput lang p
  output : ∀ {key p}, n.output? key = some p → kind.AllowsOutput p

theorem input?_dropInput (n : Node) (key k : String) :
    (n.dropInput key).input? k = if key = k then none else n.input? k :=
  OrderedMap.get?_erase ..

theorem output?_dropOutput (n : Node) (key k : String) :
    (n.dropOutput key).output? k = if key = k then none else n.output? k :=
  OrderedMap.get?_erase ..

theorem Lists.mem_inputs {n : Node} {ins outs : List Port} (h : n.Lists ins outs) {key : String}
    {p : Port} (hp : n.input? key = some p) : p ∈ ins := by
  have mem := OrderedMap.get?_eq_some_iff.1 hp
  rw [h.inputs] at mem
  obtain ⟨q, hq, e⟩ := List.mem_map.1 mem
  cases e
  exact hq

theorem Lists.mem_outputs {n : Node} {ins outs : List Port} (h : n.Lists ins outs) {key : String}
    {p : Port} (hp : n.output? key = some p) : p ∈ outs := by
  have mem := OrderedMap.get?_eq_some_iff.1 hp
  rw [h.outputs] at mem
  obtain ⟨q, hq, e⟩ := List.mem_map.1 mem
  cases e
  exact hq

namespace Loose

variable {lang : Language} {kind : Kind} {n m : Node} {p : Port} {key : String} {tag : Tag}

theorem of_samePorts (h : n.Loose lang kind) (same : n.SamePorts m) : m.Loose lang kind where
  keyed := same.keyed h.keyed
  input hp := h.input (by unfold input? at hp ⊢; rwa [same.2.2.1] at hp)
  output hp := h.output (by unfold output? at hp ⊢; rwa [same.2.2.2] at hp)

theorem addInput (h : n.Loose lang kind) (hd : p.direction = .input)
    (ha : kind.AllowsInput lang p) : (n.addInput p).Loose lang kind where
  keyed := h.keyed.addInput hd
  input hq := by
    rw [input?_addInput] at hq
    split_ifs at hq
    · cases hq
      exact ha
    · exact h.input hq
  output := h.output

theorem addOutput (h : n.Loose lang kind) (hd : p.direction = .output)
    (ha : kind.AllowsOutput p) : (n.addOutput p).Loose lang kind where
  keyed := h.keyed.addOutput hd
  input := h.input
  output hq := by
    rw [output?_addOutput] at hq
    split_ifs at hq
    · cases hq
      exact ha
    · exact h.output hq

theorem dropInput (h : n.Loose lang kind) (key : String) : (n.dropInput key).Loose lang kind := by
  have left : ∀ {k q}, (n.dropInput key).input? k = some q → n.input? k = some q := by
    intro k q hq
    rw [input?_dropInput] at hq
    split_ifs at hq
    exact hq
  exact ⟨⟨fun hq => h.keyed.input (left hq), h.keyed.output⟩, fun hq => h.input (left hq), h.output⟩

theorem dropOutput (h : n.Loose lang kind) (key : String) :
    (n.dropOutput key).Loose lang kind := by
  have left : ∀ {k q}, (n.dropOutput key).output? k = some q → n.output? k = some q := by
    intro k q hq
    rw [output?_dropOutput] at hq
    split_ifs at hq
    exact hq
  exact ⟨⟨h.keyed.input, fun hq => h.keyed.output (left hq)⟩, h.input, fun hq => h.output (left hq)⟩

theorem retagInput (h : n.Loose lang kind)
    (ha : ∀ p : Port, kind.AllowsInput lang p → p.key = key →
      kind.AllowsInput lang { p with tag }) : (n.retagInput key tag).Loose lang kind := by
  have old : ∀ {k q}, (n.retagInput key tag).input? k = some q → n.input? k = some q ∨
      ∃ p, k = key ∧ n.input? k = some p ∧ q = { p with tag } := by
    intro k q hq
    rw [input?_retagInput] at hq
    split_ifs at hq with hk
    · obtain ⟨p, hp, rfl⟩ := Option.map_eq_some_iff.1 hq
      exact .inr ⟨p, hk.symm, hp, rfl⟩
    · exact .inl hq
  refine ⟨⟨fun hq => ?_, h.keyed.output⟩, fun hq => ?_, h.output⟩
  · rcases old hq with hq | ⟨p, rfl, hp, rfl⟩
    · exact h.keyed.input hq
    · exact (h.keyed.input hp :)
  · rcases old hq with hq | ⟨p, rfl, hp, rfl⟩
    · exact h.input hq
    · exact ha p (h.input hp) (h.keyed.input hp).1

theorem retagOutput (h : n.Loose lang kind)
    (ha : ∀ p : Port, kind.AllowsOutput p → p.key = key → kind.AllowsOutput { p with tag }) :
    (n.retagOutput key tag).Loose lang kind := by
  have old : ∀ {k q}, (n.retagOutput key tag).output? k = some q → n.output? k = some q ∨
      ∃ p, k = key ∧ n.output? k = some p ∧ q = { p with tag } := by
    intro k q hq
    rw [output?_retagOutput] at hq
    split_ifs at hq with hk
    · obtain ⟨p, hp, rfl⟩ := Option.map_eq_some_iff.1 hq
      exact .inr ⟨p, hk.symm, hp, rfl⟩
    · exact .inl hq
  refine ⟨⟨h.keyed.input, fun hq => ?_⟩, h.input, fun hq => ?_⟩
  · rcases old hq with hq | ⟨p, rfl, hp, rfl⟩
    · exact h.keyed.output hq
    · exact (h.keyed.output hp :)
  · rcases old hq with hq | ⟨p, rfl, hp, rfl⟩
    · exact h.output hq
    · exact ha p (h.output hp) (h.keyed.output hp).1

end Loose

/-! ### New nodes -/

/-- The ports of a module call. -/
theorem allows_of_mem_modulePorts {lang : Language} {callee : Graph} {p : Port}
    (h : p ∈ modulePorts lang callee) :
    p.title = p.key ∧ (p.direction = .input → p.multi = false) := by
  obtain ⟨n, -, hn⟩ := List.mem_filterMap.1 h
  split at hn
  · cases hn
  · split_ifs at hn <;> cases hn <;>
      exact ⟨rfl, by simp [Port.input, Port.output, Port.flowIn, Port.flowOut]⟩

theorem Loose.addPort {lang : Language} {n : Node} (h : n.Loose lang .moduleCall) {callee : Graph}
    {p : Port} (hp : p ∈ modulePorts lang callee) : (n.addPort p).Loose lang .moduleCall := by
  obtain ⟨title, single⟩ := allows_of_mem_modulePorts hp
  unfold Node.addPort
  split
  · exact h.addInput ‹_› ⟨title, single ‹_›⟩
  · exact h.addOutput ‹_› title

theorem loose_bare {lang : Language} {kind : Kind} {n : Node} (hi : n.inputs = .empty)
    (ho : n.outputs = .empty) : n.Loose lang kind where
  keyed := keyed_bare hi ho
  input hp := by
    unfold input? at hp
    rw [hi] at hp
    cases hp
  output hp := by
    unfold output? at hp
    rw [ho] at hp
    cases hp

/-- A new node has ports of its kind. -/
theorem loose_equip (lang : Language) (lib : Library) (kind : Kind) {n : Node}
    (hi : n.inputs = .empty) (ho : n.outputs = .empty) :
    (equip lang lib kind n).Loose lang kind := by
  have keyed := (equip_keyed_shaped lang lib kind hi ho).1
  have hc := n.slotsAsked_le kind
  cases kind with
  | forLoop =>
    have lists : (equip lang lib .forLoop n).Lists _ _ := lists_equip lang lib rfl hi ho
    exact ⟨keyed, fun hp => SlotPair.allowsInput_of_mem hc (lists.mem_inputs hp),
      fun hp => SlotPair.allowsOutput_of_mem hc (lists.mem_outputs hp)⟩
  | definition =>
    have lists : (equip lang lib .definition n).Lists _ _ := lists_equip lang lib rfl hi ho
    exact ⟨keyed, fun hp => SlotPair.allowsInput_of_mem hc (lists.mem_inputs hp),
      fun hp => SlotPair.allowsOutput_of_mem hc (lists.mem_outputs hp)⟩
  | sequence =>
    have lists : (equip lang lib .sequence n).Lists _ _ := lists_equip lang lib rfl hi ho
    refine ⟨keyed, fun hp => List.mem_singleton.1 (lists.mem_inputs hp), fun hp => ?_⟩
    obtain ⟨i, hi, rfl⟩ := List.mem_map.1 (lists.mem_outputs hp)
    exact ⟨i, (List.mem_range.1 hi).trans_le hc, rfl⟩
  | assignment =>
    -- all the inputs that are slots are added as inputs for values
    have bare : n.Loose lang .assignment := loose_bare hi ho
    have notSlot : isSlot "inValue" flowInKey = false := by decide
    have other : Kind.assignment.AllowsInput lang (.flowIn flowInKey) := fun slot => by
      rw [show (Port.flowIn flowInKey).key = flowInKey from rfl, notSlot] at slot
      cases slot
    have start := (((bare.addInput (p := .flowIn flowInKey) rfl other).addOutput
      (p := .flowOut flowOutKey) rfl trivial).addInput
        (p := .input "inVariable" "Variable" lang.types.any.socket) rfl
          fun _ => Port.tag_input_ne_flow _ _ _).addOutput
            (p := resultPort (n.typeAt lang.types "typeName") true) rfl trivial
    exact List.foldlRecOn _ (addField lang.types) (motive := Loose lang .assignment) start
      fun m hm i _ => hm.addInput rfl fun _ => Port.tag_input_ne_flow _ _ _
  | moduleCall =>
    have bare : n.Loose lang .moduleCall := loose_bare hi ho
    unfold equip
    dsimp only
    split
    · exact bare
    · exact List.foldlRecOn _ Node.addPort (motive := Loose lang .moduleCall) bare
        fun m hm p hp => hm.addPort hp
  | _ => exact ⟨keyed, fun _ => trivial, fun _ => trivial⟩

/-! ### Ports that are kept -/

/-- Every port is still there, for flow or for values as it was. -/
structure Keeps (n m : Node) : Prop where
  input : ∀ {key p}, n.input? key = some p → ∃ q, m.input? key = some q ∧
    (q.tag = .flow ↔ p.tag = .flow)
  output : ∀ {key p}, n.output? key = some p → ∃ q, m.output? key = some q ∧
    (q.tag = .flow ↔ p.tag = .flow)

namespace Keeps

variable {n m k : Node} {p : Port}

theorem refl (n : Node) : n.Keeps n := ⟨fun hp => ⟨_, hp, .rfl⟩, fun hp => ⟨_, hp, .rfl⟩⟩

theorem trans (h : n.Keeps m) (h' : m.Keeps k) : n.Keeps k where
  input hp := by
    obtain ⟨q, hq, e⟩ := h.input hp
    obtain ⟨r, hr, e'⟩ := h'.input hq
    exact ⟨r, hr, e'.trans e⟩
  output hp := by
    obtain ⟨q, hq, e⟩ := h.output hp
    obtain ⟨r, hr, e'⟩ := h'.output hq
    exact ⟨r, hr, e'.trans e⟩

theorem of_samePorts (same : n.SamePorts m) : n.Keeps m where
  input hp := ⟨_, same.grows.input hp, .rfl⟩
  output hp := ⟨_, same.grows.output hp, .rfl⟩

/-- A new input, or one in the place of an input of the same nature. -/
theorem addInput (h : ∀ q, n.input? p.key = some q → (p.tag = .flow ↔ q.tag = .flow)) :
    n.Keeps (n.addInput p) where
  input {key q} hq := by
    rw [input?_addInput]
    split_ifs with hk
    · exact ⟨p, rfl, h q (hk ▸ hq)⟩
    · exact ⟨q, hq, .rfl⟩
  output hq := ⟨_, hq, .rfl⟩

/-- A new output, or one in the place of an output of the same nature. -/
theorem addOutput (h : ∀ q, n.output? p.key = some q → (p.tag = .flow ↔ q.tag = .flow)) :
    n.Keeps (n.addOutput p) where
  input hq := ⟨_, hq, .rfl⟩
  output {key q} hq := by
    rw [output?_addOutput]
    split_ifs with hk
    · exact ⟨p, rfl, h q (hk ▸ hq)⟩
    · exact ⟨q, hq, .rfl⟩

end Keeps

/-- A pair of slots is added, or put in the place of one that was there. -/
theorem Loose.growSlot {lang : Language} {kind : Kind} {s : SlotPair} {n : Node} {i : Nat}
    (h : n.Loose lang kind) (pairs : kind.Pairs lang s) (hi : i < Decimal.maxCount) :
    (Graph.growSlot lang s.inStem s.inTitle s.outStem s.outTitle n i).Loose lang kind ∧
      n.Keeps (Graph.growSlot lang s.inStem s.inTitle s.outStem s.outTitle n i) := by
  have widened := h.addInput (p := s.input lang.types.any.socket i) rfl
    ((pairs.input _).2 (.inr ⟨i, hi, rfl⟩))
  have grown := widened.addOutput (p := s.output (fun _ => lang.types.any.socket) i) rfl
    ((pairs.output _).2 (.inr ⟨i, hi, _, rfl⟩))
  have same := samePorts_set ((n.addInput (s.input lang.types.any.socket i)).addOutput
    (s.output (fun _ => lang.types.any.socket) i)) (slotKey "typeName" i) (.str lang.types.any.name)
  refine ⟨grown.of_samePorts same, ((Keeps.addInput fun q hq => ?_).trans
    (.addOutput fun q hq => ?_)).trans (.of_samePorts same)⟩
  · rw [((pairs.input q).1 (h.input hq)).eq_input pairs.apart hi.le (h.keyed.input hq).1]
  · obtain ⟨-, o, rfl⟩ := ((pairs.output q).1 (h.output hq)).eq_output pairs.apart hi.le
      (h.keyed.output hq).1
    exact iff_of_false (Port.tag_output_ne_flow _ _ _ _) (Port.tag_output_ne_flow _ _ _ _)

end Node

/-! ### Wires between ports of one nature -/

theorem Tag.flow_iff_of_compatible {a b : Tag} (h : a.compatible b = true) :
    a = .flow ↔ b = .flow := by
  cases a <;> cases b <;> simp_all [Tag.compatible]

namespace Graph

/-- A wire joins two nodes by ports that are there, both for flow or both for values. -/
def Hitched (g : Graph) (w : Wire) : Prop :=
  w.source ≠ w.target ∧ ∃ producer consumer, g.output? w.source w.sourcePort = some producer ∧
    g.input? w.target w.targetPort = some consumer ∧ (producer.tag = .flow ↔ consumer.tag = .flow)

theorem Joins.hitched {g : Graph} {w : Wire} (h : g.Joins w) : g.Hitched w := by
  obtain ⟨ne, producer, consumer, hp, hc, fit⟩ := h
  exact ⟨ne, producer, consumer, hp, hc, Tag.flow_iff_of_compatible fit⟩

/-- A wire whose ends are as they were. -/
theorem Hitched.of_ends {g g' : Graph} {w : Wire} (h : g.Hitched w)
    (output : g'.output? w.source w.sourcePort = g.output? w.source w.sourcePort)
    (input : g'.input? w.target w.targetPort = g.input? w.target w.targetPort) : g'.Hitched w := by
  obtain ⟨ne, producer, consumer, hp, hc, same⟩ := h
  exact ⟨ne, producer, consumer, output.trans hp, input.trans hc, same⟩

section Retagging

variable (g : Graph) (id : NodeId) (key : String) (tag : Tag)

/-- Retagging an output changes nothing, or leaves it with wires to consumers of the tag only. -/
theorem setOutputTag_cases : g.setOutputTag id key tag = (g, []) ∨
    ∃ stale, g.setOutputTag id key tag =
        ((g.modifyNode id (·.retagOutput key tag)).cutAll stale, stale) ∧
      ∀ w ∈ g.outgoing id key, w ∉ stale →
        (g.modifyNode id (·.retagOutput key tag)).consumerTakes w tag = true := by
  unfold setOutputTag
  split
  · exact .inl rfl
  split_ifs
  · exact .inl rfl
  refine .inr ⟨_, rfl, fun w hw kept => ?_⟩
  by_contra refused
  rw [Bool.not_eq_true] at refused
  exact kept (List.mem_filter.2 ⟨hw, congrArg not refused⟩)

/-- Retagging an input changes nothing, or leaves it with wires from producers of the tag only. -/
theorem setInputTag_cases : g.setInputTag id key tag = (g, []) ∨
    ∃ stale, g.setInputTag id key tag =
        ((g.modifyNode id (·.retagInput key tag)).cutAll stale, stale) ∧
      ∀ w ∈ g.incoming id key, w ∉ stale →
        (g.modifyNode id (·.retagInput key tag)).producerGives w tag = true := by
  unfold setInputTag
  split
  · exact .inl rfl
  split_ifs
  · exact .inl rfl
  refine .inr ⟨_, rfl, fun w hw kept => ?_⟩
  by_contra refused
  rw [Bool.not_eq_true] at refused
  exact kept (List.mem_filter.2 ⟨hw, congrArg not refused⟩)

end Retagging

variable {g : Graph} {id : NodeId} {w : Wire}

theorem Hitched.modifyNode (h : g.Hitched w) {f : Node → Node}
    (hf : ∀ n, g.node? id = some n → n.Keeps (f n)) : (g.modifyNode id f).Hitched w := by
  obtain ⟨ne, producer, consumer, hp, hc, same⟩ := h
  have output : ∃ q, (g.modifyNode id f).output? w.source w.sourcePort = some q ∧
      (q.tag = .flow ↔ producer.tag = .flow) := by
    by_cases hj : id = w.source
    · subst hj
      obtain ⟨n, hn, there⟩ := node?_isSome_of_output? hp
      rw [output?_modifyNode_self hn]
      exact (hf n hn).output there
    · rw [output?_modifyNode_of_ne hj]
      exact ⟨producer, hp, .rfl⟩
  have input : ∃ q, (g.modifyNode id f).input? w.target w.targetPort = some q ∧
      (q.tag = .flow ↔ consumer.tag = .flow) := by
    by_cases hj : id = w.target
    · subst hj
      obtain ⟨n, hn, there⟩ := node?_isSome_of_input? hc
      rw [input?_modifyNode_self hn]
      exact (hf n hn).input there
    · rw [input?_modifyNode_of_ne hj]
      exact ⟨consumer, hc, .rfl⟩
  obtain ⟨p, hp', hp⟩ := output
  obtain ⟨c, hc', hc⟩ := input
  exact ⟨ne, p, c, hp', hc', hp.trans (same.trans hc.symm)⟩

theorem output?_retagOutput (key : String) (tag : Tag) (j : NodeId) (k : String) :
    (g.modifyNode id (·.retagOutput key tag)).output? j k =
      if id = j ∧ key = k then (g.output? j k).map ({ · with tag }) else g.output? j k :=
  output?_retag

theorem input?_retagInput (key : String) (tag : Tag) (j : NodeId) (k : String) :
    (g.modifyNode id (·.retagInput key tag)).input? j k =
      if id = j ∧ key = k then (g.input? j k).map ({ · with tag }) else g.input? j k :=
  input?_retag

theorem hitched_dropInput (h : ∀ w ∈ g.wires, g.Hitched w) (id : NodeId) (key : String) :
    ∀ w ∈ (g.dropInput id key).1.wires, (g.dropInput id key).1.Hitched w := by
  intro w hw
  unfold Graph.dropInput at hw ⊢
  rw [wires_cutAll, List.mem_filter, decide_eq_true_iff] at hw
  obtain ⟨mem, kept⟩ := hw
  have away : ¬ (id = w.target ∧ key = w.targetPort) := fun here =>
    kept (mem_incoming.2 ⟨mem, here.1.symm, here.2.symm⟩)
  refine (h w mem).of_ends ?_ ?_
  · rw [output?_cutAll]
    exact output?_mapInputs (OrderedMap.erase · key)
  · rw [input?_cutAll, input?_dropped, if_neg away]

theorem hitched_dropOutput (h : ∀ w ∈ g.wires, g.Hitched w) (id : NodeId) (key : String) :
    ∀ w ∈ (g.dropOutput id key).1.wires, (g.dropOutput id key).1.Hitched w := by
  intro w hw
  unfold Graph.dropOutput at hw ⊢
  rw [wires_cutAll, List.mem_filter, decide_eq_true_iff] at hw
  obtain ⟨mem, kept⟩ := hw
  have away : ¬ (id = w.source ∧ key = w.sourcePort) := fun here =>
    kept (mem_outgoing.2 ⟨mem, here.1.symm, here.2.symm⟩)
  refine (h w mem).of_ends ?_ ?_
  · rw [output?_cutAll, output?_dropped, if_neg away]
  · rw [input?_cutAll]
    exact input?_mapOutputs (OrderedMap.erase · key)

theorem node?_foldl_dropInput {a : Adapted} {n : Node} (hn : a.graph.node? id = some n)
    (keys : List String) :
    (keys.foldl (fun a key => a.step fun g => g.dropInput id key) a).graph.node? id =
      some (keys.foldl Node.dropInput n) := by
  induction keys generalizing a n with
  | nil => exact hn
  | cons key keys ih =>
    refine ih (a := a.step fun g => g.dropInput id key) ?_
    show ((a.graph.modifyNode id (·.dropInput key)).cutAll _).node? id = _
    rw [node?_cutAll, node?_modifyNode_self, hn]
    rfl

theorem node?_foldl_dropOutput {a : Adapted} {n : Node} (hn : a.graph.node? id = some n)
    (keys : List String) :
    (keys.foldl (fun a key => a.step fun g => g.dropOutput id key) a).graph.node? id =
      some (keys.foldl Node.dropOutput n) := by
  induction keys generalizing a n with
  | nil => exact hn
  | cons key keys ih =>
    refine ih (a := a.step fun g => g.dropOutput id key) ?_
    show ((a.graph.modifyNode id (·.dropOutput key)).cutAll _).node? id = _
    rw [node?_cutAll, node?_modifyNode_self, hn]
    rfl

/-! ### On the way of adapting a node -/

/-- All wires are hitched, and the node that is being adapted is loose. -/
structure Handled (lang : Language) (kind : Kind) (id : NodeId) (g : Graph) : Prop where
  wires : ∀ w ∈ g.wires, g.Hitched w
  node : g.At id (Node.Loose lang kind)

namespace Handled

variable {lang : Language} {kind : Kind}

theorem edit (h : g.Handled lang kind id) {f : Node → Node}
    (loose : ∀ n : Node, n.Loose lang kind → (f n).Loose lang kind ∧ n.Keeps (f n)) :
    (g.modifyNode id f).Handled lang kind id where
  wires w hw := (h.wires w hw).modifyNode fun n hn => (loose n (h.node.of_node? hn)).2
  node := h.node.edit fun n hn => (loose n hn).1

theorem data (h : g.Handled lang kind id) {f : Node → Node} (same : ∀ n : Node, n.SamePorts (f n)) :
    (g.modifyNode id f).Handled lang kind id :=
  h.edit fun n hn => ⟨hn.of_samePorts (same n), .of_samePorts (same n)⟩

theorem cutAll (h : g.Handled lang kind id) (ws : List Wire) :
    (g.cutAll ws).Handled lang kind id where
  wires w hw := by
    rw [wires_cutAll] at hw
    exact (h.wires w (List.mem_of_mem_filter hw)).of_ends (output?_cutAll ..) (input?_cutAll ..)
  node := by
    obtain ⟨n, hn, loose⟩ := h.node
    exact ⟨n, (node?_cutAll ..).trans hn, loose⟩

theorem setOutputTag (h : g.Handled lang kind id) {key : String} {tag : Tag}
    (ha : ∀ p : Port, kind.AllowsOutput p → p.key = key → kind.AllowsOutput { p with tag }) :
    (g.setOutputTag id key tag).1.Handled lang kind id := by
  rcases setOutputTag_cases g id key tag with e | ⟨stale, e, fit⟩
  · rw [e]
    exact h
  · rw [e]
    refine ⟨fun w hw => ?_, ?_⟩
    · rw [wires_cutAll, List.mem_filter, decide_eq_true_iff] at hw
      obtain ⟨mem, kept⟩ := hw
      refine Hitched.of_ends ?_ (output?_cutAll ..) (input?_cutAll ..)
      obtain ⟨ne, producer, consumer, hp, hc, same⟩ := h.wires w mem
      have input : (g.modifyNode id (·.retagOutput key tag)).input? w.target w.targetPort =
          some consumer := (input?_mapOutputs (Graph.retag · key tag)).trans hc
      by_cases here : id = w.source ∧ key = w.sourcePort
      · -- a wire that is left at the output leads to a consumer of the tag
        have takes := fit w (mem_outgoing.2 ⟨mem, here.1.symm, here.2.symm⟩) kept
        unfold consumerTakes at takes
        rw [show (_ >>= _ : Option Port) = _ from input] at takes
        refine ⟨ne, { producer with tag }, consumer, ?_, input, Tag.flow_iff_of_compatible takes⟩
        rw [output?_retagOutput, if_pos here, hp]
        rfl
      · exact ⟨ne, producer, consumer, by rw [output?_retagOutput, if_neg here, hp], input, same⟩
    · obtain ⟨n, hn, loose⟩ := h.node.edit fun n hn => hn.retagOutput ha
      exact ⟨n, (node?_cutAll ..).trans hn, loose⟩

theorem setInputTag (h : g.Handled lang kind id) {key : String} {tag : Tag}
    (ha : ∀ p : Port, kind.AllowsInput lang p → p.key = key →
      kind.AllowsInput lang { p with tag }) :
    (g.setInputTag id key tag).1.Handled lang kind id := by
  rcases setInputTag_cases g id key tag with e | ⟨stale, e, fit⟩
  · rw [e]
    exact h
  · rw [e]
    refine ⟨fun w hw => ?_, ?_⟩
    · rw [wires_cutAll, List.mem_filter, decide_eq_true_iff] at hw
      obtain ⟨mem, kept⟩ := hw
      refine Hitched.of_ends ?_ (output?_cutAll ..) (input?_cutAll ..)
      obtain ⟨ne, producer, consumer, hp, hc, same⟩ := h.wires w mem
      have output : (g.modifyNode id (·.retagInput key tag)).output? w.source w.sourcePort =
          some producer := (output?_mapInputs (Graph.retag · key tag)).trans hp
      by_cases here : id = w.target ∧ key = w.targetPort
      · have gives := fit w (mem_incoming.2 ⟨mem, here.1.symm, here.2.symm⟩) kept
        unfold producerGives at gives
        rw [show (_ >>= _ : Option Port) = _ from output] at gives
        refine ⟨ne, producer, { consumer with tag }, output, ?_, Tag.flow_iff_of_compatible gives⟩
        rw [input?_retagInput, if_pos here, hc]
        rfl
      · exact ⟨ne, producer, consumer, output, by rw [input?_retagInput, if_neg here, hc], same⟩
    · obtain ⟨n, hn, loose⟩ := h.node.edit fun n hn => hn.retagInput ha
      exact ⟨n, (node?_cutAll ..).trans hn, loose⟩

theorem dropInput (h : g.Handled lang kind id) (key : String) :
    (g.dropInput id key).1.Handled lang kind id :=
  ⟨hitched_dropInput h.wires id key,
    h.node.of_nodes (nodes_dropInput ..) fun _ hn => hn.dropInput key⟩

theorem dropOutput (h : g.Handled lang kind id) (key : String) :
    (g.dropOutput id key).1.Handled lang kind id :=
  ⟨hitched_dropOutput h.wires id key,
    h.node.of_nodes (nodes_dropOutput ..) fun _ hn => hn.dropOutput key⟩

/-! ### The rules -/

section Rules

variable {a : Adapted} {s : SlotPair}

theorem foldl {α : Type} {f : Adapted → α → Adapted} (xs : List α)
    (h : a.graph.Handled lang kind id) (hf : ∀ (b : Adapted) x, x ∈ xs →
      b.graph.Handled lang kind id → (f b x).graph.Handled lang kind id) :
    (xs.foldl f a).graph.Handled lang kind id :=
  List.foldlRecOn xs f (motive := fun b => b.graph.Handled lang kind id) h
    fun b hb x hx => hf b x hx hb

theorem keptType (h : a.graph.Handled lang kind id) (port : String) (unconnected : DataType) :
    (Graph.keptType lang id a port unconnected).1.graph.Handled lang kind id := by
  unfold Graph.keptType
  split
  · exact h
  split
  · exact h
  split_ifs
  · exact h.cutAll [_]
  · exact h

theorem retypeOutput (h : a.graph.Handled lang kind id) {key dataKey : String} {t : DataType}
    (ha : ∀ p : Port, kind.AllowsOutput p → p.key = key →
      kind.AllowsOutput { p with tag := t.tag }) :
    (Graph.retypeOutput id a key dataKey t).graph.Handled lang kind id :=
  (h.setOutputTag ha).data fun n => n.samePorts_set dataKey _

theorem shrinkSlot (h : a.graph.Handled lang kind id) (inStem outStem : String) (i : Nat) :
    (Graph.shrinkSlot id inStem outStem a i).graph.Handled lang kind id :=
  ((h.dropInput _).dropOutput _).data fun n => n.samePorts_unset _

theorem resizeSlots (h : a.graph.Handled lang kind id) (pairs : kind.Pairs lang s) {required : Nat}
    (hr : required ≤ Decimal.maxCount) :
    (Graph.resizeSlots lang id s.inStem s.inTitle s.outStem s.outTitle required a).graph.Handled
      lang kind id := by
  unfold Graph.resizeSlots
  split
  · exact h
  · refine foldl _ (h.edit fun n hn => ?_) fun b i _ hb => hb.shrinkSlot s.inStem s.outStem i
    refine List.foldlRecOn _ (growSlot lang s.inStem s.inTitle s.outStem s.outTitle)
      (motive := fun m : Node => m.Loose lang kind ∧ n.Keeps m) ⟨hn, .refl n⟩ fun m hm i hi => ?_
    have bound : i < Decimal.maxCount := (mem_between.1 hi).2.trans_le hr
    obtain ⟨loose, keeps⟩ := hm.1.growSlot pairs bound
    exact ⟨loose, hm.2.trans keeps⟩

/-- Typing the slots of a kind. -/
theorem retypeSlot (h : a.graph.Handled lang kind id) (pairs : kind.Pairs lang s) {i : Nat}
    (hi : i ≤ Decimal.maxCount) (dataKey : String) (t : DataType) :
    (Graph.retypeOutput id a (slotKey s.outStem i) dataKey t).graph.Handled lang kind id :=
  h.retypeOutput fun p hp hk =>
    (pairs.output _).2 (((pairs.output p).1 hp).retag pairs.apart hi hk _)

theorem adaptForLoop (h : a.graph.Handled lang .forLoop id) (n : Node) :
    (Graph.adaptForLoop lang id a n).graph.Handled lang .forLoop id := by
  have hr := n.count?_getD_le "numArgs" (d := 1) (by decide)
  have noted : (a.update fun g => g.modifyNode id fun m =>
      m.set "numArgs" (.num (.int ((n.count? "numArgs").getD 1)))).graph.Handled lang .forLoop id :=
    h.data fun m => m.samePorts_set _ _
  refine foldl _ (noted.resizeSlots (Kind.pairs_loop lang) hr) fun b i hi hb => ?_
  have bound : i ≤ Decimal.maxCount := (List.mem_range.1 hi).le.trans hr
  unfold Graph.adaptRange
  dsimp only
  refine retypeSlot ?_ (Kind.pairs_loop lang) bound _ _
  split
  · exact hb
  split
  · split_ifs
    · exact hb.cutAll [_]
    · exact hb
  · exact hb

theorem adaptDefinition (h : a.graph.Handled lang .definition id) (n : Node) :
    (Graph.adaptDefinition lang id a n).graph.Handled lang .definition id := by
  have hr := n.count?_getD_le "numArgs" (Nat.zero_le _)
  refine foldl _ (h.resizeSlots (Kind.pairs_params lang) hr) fun b i hi hb => ?_
  exact (hb.keptType _ _).retypeSlot (Kind.pairs_params lang)
    ((List.mem_range.1 hi).le.trans hr) _ _

theorem adaptSequence (h : a.graph.Handled lang .sequence id) (n : Node) :
    (Graph.adaptSequence id a n).graph.Handled lang .sequence id := by
  have hr := n.count?_getD_le "numExits" (Nat.zero_le _)
  refine foldl _ (h.edit fun m hm => ?_) fun b i _ hb => hb.dropOutput (slotKey "out" i)
  refine List.foldlRecOn _ Node.addExit
    (motive := fun k : Node => k.Loose lang .sequence ∧ m.Keeps k) ⟨hm, .refl m⟩ fun k hk i hi => ?_
  have bound : i < Decimal.maxCount := (mem_between.1 hi).2.trans_le hr
  refine ⟨hk.1.addOutput (p := exitPort i) rfl ⟨i, bound, rfl⟩, hk.2.trans (.addOutput ?_)⟩
  intro q hq
  obtain ⟨j, -, rfl⟩ := hk.1.output hq
  exact .rfl

theorem dropField (h : a.graph.Handled lang kind id) (i : Nat) :
    (Graph.dropField id a i).graph.Handled lang kind id := by
  unfold Graph.dropField
  dsimp only
  split
  · exact h
  · exact (h.dropInput _).data fun n => (n.samePorts_unset _).trans (Node.samePorts_unset _ _)

/-- The input of a field is added, or put in the place of one that was there. -/
theorem growField {n : Node} (h : n.Loose lang .assignment) {i : Nat} (hi : i ≤ Decimal.maxCount)
    (title : String) (t : DataType) :
    (Graph.growField n i title t).Loose lang .assignment ∧
      n.Keeps (Graph.growField n i title t) := by
  have value := Port.tag_input_ne_flow (slotKey "inValue" i) title t.socket
  have same := (Node.samePorts_setDefault (n.addInput (.input (slotKey "inValue" i) title t.socket))
    (fieldTypeKey i title) (.str t.name)).trans
      (Node.samePorts_setLiteral _ (fieldValueKey i title) t.desc.default)
  refine ⟨(h.addInput rfl fun _ => value).of_samePorts same,
    (Node.Keeps.addInput fun q hq => ?_).trans (.of_samePorts same)⟩
  have slot : isSlot "inValue" q.key = true := by
    rw [(h.keyed.input hq).1]
    exact isSlot_slotKey "inValue" hi
  exact iff_of_false value (h.input hq slot)

theorem adaptAssignment (h : a.graph.Handled lang .assignment id) :
    (Graph.adaptAssignment lang id a).graph.Handled lang .assignment id := by
  have kept := h.keptType "inVariable" lang.types.any
  rw [adaptAssignment_eq]
  generalize targetOf id _ = target
  unfold assignTo
  dsimp only
  split
  · exact kept
  rename_i n hn
  have required := fieldCount_le (fieldsOf lang.types target) target
  refine retypeOutput (data (foldl _ (edit ?_ fun m hm => ?_) fun _ i _ hb => hb.dropField i)
    fun m => m.samePorts_set _ _) fun _ _ _ => trivial
  · split_ifs
    · exact kept.foldl _ fun _ i _ hb => hb.dropField i
    · exact kept
  · refine List.foldlRecOn _ _ (motive := fun k : Node => k.Loose lang .assignment ∧ m.Keeps k)
      ⟨hm, .refl m⟩ fun k hk i hi => ?_
    have bound : i ≤ Decimal.maxCount := (mem_between.1 hi).2.le.trans required
    obtain ⟨loose, keeps⟩ := growField hk.1 bound _ _
    exact ⟨loose, hk.2.trans keeps⟩

theorem adaptPort (h : a.graph.Handled lang .moduleCall id) {callee : Graph} {p : Port}
    (hp : p ∈ modulePorts lang callee) :
    (Graph.adaptPort id a p).graph.Handled lang .moduleCall id := by
  obtain ⟨title, single⟩ := Node.allows_of_mem_modulePorts hp
  unfold Graph.adaptPort
  split
  · exact h
  · rename_i n hn hd
    split_ifs with there
    · exact h.setInputTag fun _ hq _ => hq
    · have absent : n.input? p.key = none := Option.not_isSome_iff_eq_none.1 there
      refine ⟨fun w hw => (h.wires w hw).modifyNode fun m hm => .addInput fun q hq => ?_,
        h.node.edit fun m hm => hm.addInput hd ⟨title, single hd⟩⟩
      rw [hn] at hm
      cases hm
      rw [absent] at hq
      cases hq
  · rename_i n hn hd
    split_ifs with there
    · exact h.setOutputTag fun _ hq _ => hq
    · have absent : n.output? p.key = none := Option.not_isSome_iff_eq_none.1 there
      refine ⟨fun w hw => (h.wires w hw).modifyNode fun m hm => .addOutput fun q hq => ?_,
        h.node.edit fun m hm => hm.addOutput hd title⟩
      rw [hn] at hm
      cases hm
      rw [absent] at hq
      cases hq

theorem adaptModuleCall (h : a.graph.Handled lang .moduleCall id) (lib : Library) (n : Node) :
    (Graph.adaptModuleCall lang id lib a n).graph.Handled lang .moduleCall id := by
  rw [adaptModuleCall_eq]
  refine foldl _ (foldl _ (h.foldl _ fun b key _ hb => hb.dropInput key)
    fun b key _ hb => hb.dropOutput key) fun b p hp hb => ?_
  unfold wantedPorts at hp
  split at hp
  · cases hp
  · exact hb.adaptPort hp

/-- Every rule keeps what holds on the way. -/
theorem ruleFor (h : a.graph.Handled lang kind id) (lib : Library) (n : Node) :
    (Graph.ruleFor lang id lib kind n a).graph.Handled lang kind id := by
  cases kind with
  | declaration => exact h.retypeOutput fun _ _ _ => trivial
  | moduleInput => exact h.retypeOutput fun _ _ _ => trivial
  | moduleOutput =>
    exact ((h.keptType "input" _).setInputTag fun _ _ _ => trivial).data
      fun n => n.samePorts_set _ _
  | forLoop => exact h.adaptForLoop n
  | definition => exact h.adaptDefinition n
  | sequence => exact h.adaptSequence n
  | record =>
    refine h.data fun m => ?_
    exact List.foldlRecOn _ Node.unset (motive := fun m' => m.SamePorts m') ⟨rfl, rfl, rfl, rfl⟩
      fun m' hm key _ => hm.trans (m'.samePorts_unset key)
  | assignment => exact h.adaptAssignment
  | moduleCall => exact h.adaptModuleCall lib n
  | _ => exact h

end Rules

end Handled

/-! ### Operations -/

/-- All wires are hitched, and all nodes have ports that their kinds may have. -/
structure Loose (lang : Language) (g : Graph) : Prop where
  wires : ∀ w ∈ g.wires, g.Hitched w
  node : ∀ {id n kind}, g.node? id = some n → lang.kind? n.component = some kind →
    n.Loose lang kind

namespace Loose

variable {lang : Language} {g' : Graph}

theorem empty (lang : Language) (name : String) : Loose lang { name } where
  wires _ hw := by cases hw
  node hn := by cases hn

/-- A change of one node. -/
theorem change (h : g.Loose lang) (id : NodeId) (wires : ∀ w ∈ g'.wires, g'.Hitched w)
    (others : ∀ j, id ≠ j → g'.node? j = g.node? j)
    (node : ∀ {m kind}, g'.node? id = some m → lang.kind? m.component = some kind →
      m.Loose lang kind) : g'.Loose lang where
  wires := wires
  node {j m kind} hm hk := by
    by_cases hj : id = j
    · subst hj
      exact node hm hk
    · exact h.node ((others j hj).symm.trans hm) hk

/-- A data edit. -/
theorem data (h : g.Loose lang) (id : NodeId) {f : Node → Node}
    (same : ∀ n : Node, n.SamePorts (f n)) : (g.modifyNode id f).Loose lang := by
  refine h.change id (fun w hw => (h.wires w hw).modifyNode fun n _ => .of_samePorts (same n))
    (fun j hj => node?_modifyNode_of_ne g hj f) fun {m kind} hm hk => ?_
  rw [node?_modifyNode_self] at hm
  obtain ⟨n, hn, rfl⟩ := Option.map_eq_some_iff.1 hm
  rw [(same n).2.1] at hk
  exact (h.node hn hk).of_samePorts (same n)

theorem cut (h : g.Loose lang) (w : Wire) : (g.cut w).Loose lang where
  wires v hv := h.wires v (List.mem_of_mem_filter hv)
  node := h.node

theorem dropInput (h : g.Loose lang) (id : NodeId) (key : String) :
    (g.dropInput id key).1.Loose lang := by
  have nodes : ∀ j, (g.dropInput id key).1.node? j = (g.modifyNode id (·.dropInput key)).node? j :=
    fun j => node?_cutAll ..
  refine h.change id (hitched_dropInput h.wires id key)
    (fun j hj => (nodes j).trans (node?_modifyNode_of_ne g hj _)) fun {m kind} hm hk => ?_
  rw [nodes, node?_modifyNode_self] at hm
  obtain ⟨n, hn, rfl⟩ := Option.map_eq_some_iff.1 hm
  exact (h.node hn hk).dropInput key

theorem dropOutput (h : g.Loose lang) (id : NodeId) (key : String) :
    (g.dropOutput id key).1.Loose lang := by
  have nodes : ∀ j, (g.dropOutput id key).1.node? j =
      (g.modifyNode id (·.dropOutput key)).node? j := fun j => node?_cutAll ..
  refine h.change id (hitched_dropOutput h.wires id key)
    (fun j hj => (nodes j).trans (node?_modifyNode_of_ne g hj _)) fun {m kind} hm hk => ?_
  rw [nodes, node?_modifyNode_self] at hm
  obtain ⟨n, hn, rfl⟩ := Option.map_eq_some_iff.1 hm
  exact (h.node hn hk).dropOutput key

theorem removeNode (h : g.Loose lang) (id : NodeId) : (g.removeNode id).Loose lang where
  wires w hw := by
    unfold Graph.removeNode at hw
    obtain ⟨mem, away⟩ := List.mem_filter.1 hw
    have apart : w.source ≠ id ∧ w.target ≠ id := by simpa [Wire.touches, not_or] using away
    refine (h.wires w mem).of_ends ?_ ?_
    · unfold Graph.output?
      rw [node?_removeNode, if_neg apart.1.symm]
    · unfold Graph.input?
      rw [node?_removeNode, if_neg apart.2.symm]
  node {j n kind} hn hk := by
    rw [node?_removeNode] at hn
    split_ifs at hn
    exact h.node hn hk

theorem of_create {library : Library} {component : String} {data : NodeData} {n : Node}
    (hc : g.create lang library component data = .ok (g', n)) {kind : Kind}
    (hk : lang.kind? n.component = some kind) : n.Loose lang kind := by
  unfold Graph.create at hc
  cases made : lang.kind? component with
  | none =>
    rw [made] at hc
    cases hc
  | some kind' =>
    rw [made] at hc
    cases hc
    have same := Node.sameName_equip lang library kind' { id := g.nextId, component, data }
    rw [same.2, made] at hk
    cases hk
    exact Node.loose_equip lang library kind rfl rfl

/-- A new node has a number of its own, so no wire is at it. -/
theorem create (h : g.Loose lang) {library : Library} {component : String} {data : NodeData}
    {n : Node} (hc : g.create lang library component data = .ok (g', n)) : g'.Loose lang := by
  have loose := @of_create _ _ _ _ _ _ _ hc
  obtain ⟨rfl, hid, -⟩ := create_eq_ok hc
  have fresh : g.node? n.id = none := by rw [hid]; exact node?_nextId g
  refine h.change n.id (fun w hw => ?_) (fun j hj => ?_) fun {m kind} hm hk => ?_
  · have mem : w ∈ g.wires := hw
    have ends : ∀ {j}, (g.node? j).isSome → (g.addNode n).node? j = g.node? j := by
      intro j there
      rw [node?_addNode, if_neg]
      rintro rfl
      rw [fresh] at there
      cases there
    obtain ⟨-, producer, consumer, hp, hc, -⟩ := h.wires w mem
    obtain ⟨_, source, -⟩ := node?_isSome_of_output? hp
    obtain ⟨_, target, -⟩ := node?_isSome_of_input? hc
    refine (h.wires w mem).of_ends ?_ ?_
    · unfold Graph.output?
      rw [ends (by rw [source]; rfl)]
    · unfold Graph.input?
      rw [ends (by rw [target]; rfl)]
  · rw [node?_addNode, if_neg hj]
  · rw [node?_addNode, if_pos rfl] at hm
    cases hm
    exact loose hk

/-- Adapting a node leaves it loose. -/
theorem adapt (h : g.Loose lang) (id : NodeId) (lib : Library) :
    (g.adapt lang id lib).1.Loose lang := by
  have trimmed := adapt_trimmed lang id g lib
  cases hn : g.node? id with
  | none =>
    rw [adapt_eq_self lib fun n hn' => by rw [hn] at hn'; cases hn']
    exact h
  | some n =>
    cases hk : lang.kind? n.component with
    | none =>
      rw [adapt_eq_self lib fun n' hn' => by rw [hn] at hn'; cases hn'; exact hk]
      exact h
    | some kind =>
      have start : g.Handled lang kind id := ⟨h.wires, n, hn, h.node hn hk⟩
      have done : (g.adapt lang id lib).1.Handled lang kind id := by
        rw [adapt_eq_ruleFor lib hn hk]
        exact Handled.ruleFor (a := { graph := g }) start lib n
      refine h.change id done.wires trimmed.others fun {m kind'} hm hk' => ?_
      obtain ⟨m', hm', same⟩ := trimmed.node n hn
      rw [hm] at hm'
      cases hm'
      rw [same.2.1, hk] at hk'
      cases hk'
      exact done.node.of_node? hm

/-- Every operation that retags no port by hand keeps a graph loose. -/
theorem operate (h : g.Loose lang) {op : Operation} (ho : op.isRetag = false) :
    (g.operate lang op).Loose lang := by
  cases op with
  | dropInput id key => exact h.dropInput id key
  | dropOutput id key => exact h.dropOutput id key
  | edit e =>
    unfold Graph.operate
    dsimp only
    cases e with
    | create library component data =>
      unfold Graph.apply
      dsimp only
      cases hc : g.create lang library component data with
      | ok made => exact h.create hc
      | error _ => exact h
    | set id key value => exact h.data id fun n => n.samePorts_set key value
    | setDefault id key value => exact h.data id fun n => n.samePorts_setDefault key value
    | unset id key => exact h.data id fun n => n.samePorts_unset key
    | connect wire =>
      unfold Graph.apply
      dsimp only
      cases hc : g.connect wire with
      | ok g' =>
        obtain ⟨rfl, joins, -⟩ := connect_eq_ok hc
        refine ⟨fun w hw => ?_, h.node⟩
        rcases List.mem_append.1 hw with old | new
        · exact h.wires w old
        · rw [List.mem_singleton.1 new]
          exact joins.hitched
      | error _ => exact h
    | disconnect wire => exact h.cut wire
    | remove id => exact h.removeNode id
    | retagInput | retagOutput => cases ho
    | adapt library id => exact h.adapt id library

end Loose

/-- Whatever the operations, if they retag no port by hand, the graph that they make is loose. -/
theorem loose_operated (lang : Language) (name : String) {ops : List Operation}
    (ho : ∀ op ∈ ops, op.isRetag = false) : (operated lang name ops).Loose lang :=
  List.foldlRecOn ops (operate lang) (motive := Loose lang) (.empty lang name)
    fun _ hg op hop => hg.operate (ho op hop)

theorem loose_session (lang : Language) (name : String) {edits : List Edit}
    (he : ∀ e ∈ edits, e.isRetag = false) : (session lang name edits).Loose lang := by
  rw [session_eq_operated]
  refine loose_operated lang name fun op hop => ?_
  obtain ⟨e, mem, rfl⟩ := List.mem_map.1 hop
  exact he e mem

end Graph

end FlowScript
