import FlowScript.Proofs.Slots

/-!
# Well-wired graphs

A graph is well wired when nodes and ports stand where they say they stand, every wire joins two
ports that exist and fit, and a port for one wire has at most one.

* `Graph.WellWired`: the invariant;
* `WellWired.of_sublist`: a change that loses wires, and gives no port another number of wires
  that it takes, keeps the invariant if the wires that are left still join;
* `WellWired.cutAll`, `WellWired.setOutputTag`, …: each operation on graphs keeps the invariant.
-/

namespace FlowScript

namespace Graph

/-- An input of a node. -/
def input? (g : Graph) (id : NodeId) (key : String) : Option Port := g.node? id >>= (·.input? key)

/-- An output of a node. -/
def output? (g : Graph) (id : NodeId) (key : String) : Option Port :=
  g.node? id >>= (·.output? key)

/-- A wire joins an output of one node to an input of another that takes what the output gives. -/
def Joins (g : Graph) (w : Wire) : Prop :=
  w.source ≠ w.target ∧ ∃ producer consumer,
    g.output? w.source w.sourcePort = some producer ∧
    g.input? w.target w.targetPort = some consumer ∧
    producer.tag.compatible consumer.tag = true

/-- Nodes stand under their own number and ports under their own key on their own side, every wire
joins two ports, and a port that takes one wire has at most one. -/
structure WellWired (g : Graph) : Prop where
  node_id : ∀ {id n}, g.node? id = some n → n.id = id
  input_key : ∀ {id key port}, g.input? id key = some port →
    port.key = key ∧ port.direction = .input
  output_key : ∀ {id key port}, g.output? id key = some port →
    port.key = key ∧ port.direction = .output
  joins : ∀ w ∈ g.wires, g.Joins w
  input_single : ∀ {id key port}, g.input? id key = some port → port.multi = false →
    (g.incoming id key).length ≤ 1
  output_single : ∀ {id key port}, g.output? id key = some port → port.multi = false →
    (g.outgoing id key).length ≤ 1

/-! ### Views of the operations -/

section Views

variable (g : Graph) (id j : NodeId) (key : String)

theorem node?_modifyNode (f : Node → Node) :
    (g.modifyNode id f).node? j = if id = j then (g.node? j).map f else g.node? j :=
  OrderedMap.get?_modify g.nodes id j f

theorem node?_modifyNode_self (f : Node → Node) :
    (g.modifyNode id f).node? id = (g.node? id).map f := by
  rw [node?_modifyNode, if_pos rfl]

theorem node?_modifyNode_of_ne {id j : NodeId} (h : id ≠ j) (f : Node → Node) :
    (g.modifyNode id f).node? j = g.node? j := by
  rw [node?_modifyNode, if_neg h]

@[simp] theorem wires_modifyNode (f : Node → Node) : (g.modifyNode id f).wires = g.wires := rfl

theorem node?_addNode (n : Node) :
    (g.addNode n).node? j = if n.id = j then some n else g.node? j :=
  OrderedMap.get?_insert g.nodes n.id j n

theorem node?_removeNode :
    (g.removeNode id).node? j = if id = j then none else g.node? j :=
  OrderedMap.get?_erase g.nodes id j

@[simp] theorem node?_cut (w : Wire) : (g.cut w).node? j = g.node? j := rfl

@[simp] theorem nodes_cutAll (ws : List Wire) : (g.cutAll ws).nodes = g.nodes := by
  induction ws generalizing g with
  | nil => rfl
  | cons w ws ih => exact ih (g.cut w)

@[simp] theorem node?_cutAll (ws : List Wire) : (g.cutAll ws).node? j = g.node? j := by
  unfold node?
  rw [nodes_cutAll]

@[simp] theorem input?_cutAll (ws : List Wire) : (g.cutAll ws).input? j key = g.input? j key := by
  unfold input?
  rw [node?_cutAll]

@[simp] theorem output?_cutAll (ws : List Wire) :
    (g.cutAll ws).output? j key = g.output? j key := by
  unfold output?
  rw [node?_cutAll]

/-- Cutting some wires removes every copy of them and keeps the order of the rest. -/
theorem wires_cutAll (ws : List Wire) :
    (g.cutAll ws).wires = g.wires.filter fun w => w ∉ ws := by
  induction ws generalizing g with
  | nil => simp [cutAll]
  | cons w ws ih =>
    show ((g.cut w).cutAll ws).wires = _
    rw [ih, cut, List.filter_filter]
    apply List.filter_congr
    intro x _
    by_cases hx : x = w <;> simp [hx]

end Views

section Members

variable {g : Graph} {id : NodeId} {key : String} {w : Wire}

theorem mem_incoming :
    w ∈ g.incoming id key ↔ w ∈ g.wires ∧ w.target = id ∧ w.targetPort = key := by
  simp [incoming]

theorem mem_outgoing :
    w ∈ g.outgoing id key ↔ w ∈ g.wires ∧ w.source = id ∧ w.sourcePort = key := by
  simp [outgoing]

theorem node?_isSome_of_input? {port : Port} (h : g.input? id key = some port) :
    ∃ n, g.node? id = some n ∧ n.input? key = some port := by
  simpa [input?, Option.bind_eq_some_iff] using h

theorem node?_isSome_of_output? {port : Port} (h : g.output? id key = some port) :
    ∃ n, g.node? id = some n ∧ n.output? key = some port := by
  simpa [output?, Option.bind_eq_some_iff] using h

end Members

/-! ### Changes that only lose wires -/

namespace WellWired

variable {g g' : Graph}

/-- No wire is at an input that does not exist. -/
theorem incoming_eq_nil (h : g.WellWired) {id : NodeId} {key : String}
    (hn : g.input? id key = none) : g.incoming id key = [] := by
  rw [List.eq_nil_iff_forall_not_mem]
  intro w hin
  obtain ⟨hw, rfl, rfl⟩ := mem_incoming.1 hin
  obtain ⟨-, _, consumer, -, hc, -⟩ := h.joins w hw
  rw [hn] at hc
  cases hc

/-- No wire is at an output that does not exist. -/
theorem outgoing_eq_nil (h : g.WellWired) {id : NodeId} {key : String}
    (hn : g.output? id key = none) : g.outgoing id key = [] := by
  rw [List.eq_nil_iff_forall_not_mem]
  intro w hout
  obtain ⟨hw, rfl, rfl⟩ := mem_outgoing.1 hout
  obtain ⟨-, producer, _, hp, -⟩ := h.joins w hw
  rw [hn] at hp
  cases hp

/-- The wires that are left join, no old port takes another number of wires than before, and new
ports have none: then the invariant is kept. -/
theorem of_sublist (h : g.WellWired) (wires : g'.wires.Sublist g.wires)
    (node_id : ∀ {id n}, g'.node? id = some n → n.id = id)
    (joins : ∀ w ∈ g'.wires, g'.Joins w)
    (input : ∀ {id key port}, g'.input? id key = some port →
      (port.key = key ∧ port.direction = .input) ∧
        ∀ old, g.input? id key = some old → old.multi = port.multi)
    (output : ∀ {id key port}, g'.output? id key = some port →
      (port.key = key ∧ port.direction = .output) ∧
        ∀ old, g.output? id key = some old → old.multi = port.multi) :
    g'.WellWired where
  node_id := node_id
  input_key hp := (input hp).1
  output_key hp := (output hp).1
  joins := joins
  input_single := by
    intro id key port hp hm
    have fewer : (g'.incoming id key).length ≤ (g.incoming id key).length :=
      (wires.filter _).length_le
    cases hold : g.input? id key with
    | none =>
      rw [h.incoming_eq_nil hold] at fewer
      exact fewer.trans (Nat.zero_le 1)
    | some old => exact fewer.trans (h.input_single hold (((input hp).2 old hold).trans hm))
  output_single := by
    intro id key port hp hm
    have fewer : (g'.outgoing id key).length ≤ (g.outgoing id key).length :=
      (wires.filter _).length_le
    cases hold : g.output? id key with
    | none =>
      rw [h.outgoing_eq_nil hold] at fewer
      exact fewer.trans (Nat.zero_le 1)
    | some old => exact fewer.trans (h.output_single hold (((output hp).2 old hold).trans hm))

/-- The same where every port is an old one up to its tag. -/
theorem of_ports (h : g.WellWired) (wires : g'.wires.Sublist g.wires)
    (node_id : ∀ {id n}, g'.node? id = some n → n.id = id)
    (joins : ∀ w ∈ g'.wires, g'.Joins w)
    (input : ∀ {id key port}, g'.input? id key = some port →
      ∃ tag, g.input? id key = some { port with tag })
    (output : ∀ {id key port}, g'.output? id key = some port →
      ∃ tag, g.output? id key = some { port with tag }) :
    g'.WellWired := by
  refine h.of_sublist wires node_id joins ?_ ?_
  · intro id key port hp
    obtain ⟨tag, hold⟩ := input hp
    have hkey := h.input_key hold
    refine ⟨hkey, fun old ho => ?_⟩
    rw [hold] at ho
    cases ho
    rfl
  · intro id key port hp
    obtain ⟨tag, hold⟩ := output hp
    have hkey := h.output_key hold
    refine ⟨hkey, fun old ho => ?_⟩
    rw [hold] at ho
    cases ho
    rfl

theorem cutAll (h : g.WellWired) (ws : List Wire) : (g.cutAll ws).WellWired := by
  refine h.of_ports ?_ ?_ ?_ ?_ ?_
  · rw [wires_cutAll]
    exact List.filter_sublist
  · intro id n hn
    exact h.node_id (by rwa [node?_cutAll] at hn)
  · intro w hw
    rw [wires_cutAll] at hw
    obtain ⟨hne, producer, consumer, hp, hc, hfit⟩ := h.joins w (List.mem_of_mem_filter hw)
    exact ⟨hne, producer, consumer, by simpa using hp, by simpa using hc, hfit⟩
  · intro id key port hp
    exact ⟨port.tag, by rwa [input?_cutAll] at hp⟩
  · intro id key port hp
    exact ⟨port.tag, by rwa [output?_cutAll] at hp⟩

theorem cut (h : g.WellWired) (w : Wire) : (g.cut w).WellWired := h.cutAll [w]

end WellWired

end Graph

/-! ### Growing a node -/

namespace Node

/-- Ports stand under their own key on their own side. -/
structure Keyed (n : Node) : Prop where
  input : ∀ {key port}, n.input? key = some port → port.key = key ∧ port.direction = .input
  output : ∀ {key port}, n.output? key = some port → port.key = key ∧ port.direction = .output

/-- A node that has become another one without losing or changing a port. -/
structure Grows (n n' : Node) : Prop where
  id_eq : n'.id = n.id
  component_eq : n'.component = n.component
  input : ∀ {key port}, n.input? key = some port → n'.input? key = some port
  output : ∀ {key port}, n.output? key = some port → n'.output? key = some port

theorem Grows.refl (n : Node) : n.Grows n := ⟨rfl, rfl, fun hp => hp, fun hp => hp⟩

theorem Grows.trans {a b c : Node} (hab : a.Grows b) (hbc : b.Grows c) : a.Grows c where
  id_eq := hbc.id_eq.trans hab.id_eq
  component_eq := hbc.component_eq.trans hab.component_eq
  input hp := hbc.input (hab.input hp)
  output hp := hbc.output (hab.output hp)

end Node

namespace Graph

theorem WellWired.keyed {g : Graph} (h : g.WellWired) {id : NodeId} {n : Node}
    (hn : g.node? id = some n) : n.Keyed where
  input := by
    intro key port hp
    have hg : g.input? id key = some port := by simpa [input?, hn] using hp
    exact h.input_key hg
  output := by
    intro key port hp
    have hg : g.output? id key = some port := by simpa [output?, hn] using hp
    exact h.output_key hg

section ModifyNode

variable {g : Graph} {id j : NodeId} {key : String} {f : Node → Node}

theorem input?_modifyNode_of_ne (hj : id ≠ j) :
    (g.modifyNode id f).input? j key = g.input? j key := by
  unfold input?
  rw [node?_modifyNode_of_ne g hj]

theorem output?_modifyNode_of_ne (hj : id ≠ j) :
    (g.modifyNode id f).output? j key = g.output? j key := by
  unfold output?
  rw [node?_modifyNode_of_ne g hj]

theorem input?_modifyNode_self {n : Node} (hn : g.node? id = some n) :
    (g.modifyNode id f).input? id key = (f n).input? key := by
  unfold input?
  rw [node?_modifyNode_self, hn]
  rfl

theorem output?_modifyNode_self {n : Node} (hn : g.node? id = some n) :
    (g.modifyNode id f).output? id key = (f n).output? key := by
  unfold output?
  rw [node?_modifyNode_self, hn]
  rfl

theorem modifyNode_of_none (hn : g.node? id = none) : g.modifyNode id f = g := by
  unfold modifyNode
  rw [OrderedMap.modify_of_get?_eq_none hn]

/-- Growing a node keeps the invariant: its new ports have no wires yet. -/
theorem WellWired.modifyNode (h : g.WellWired)
    (hf : ∀ n, g.node? id = some n → n.Grows (f n) ∧ (f n).Keyed) :
    (g.modifyNode id f).WellWired := by
  cases hn : g.node? id with
  | none =>
    rw [modifyNode_of_none hn]
    exact h
  | some n =>
    obtain ⟨grows, keyed⟩ := hf n hn
    -- a port that was there is still there, whichever node it belongs to
    have inputs : ∀ {j key port}, g.input? j key = some port →
        (g.modifyNode id f).input? j key = some port := by
      intro j key port hp
      by_cases hj : id = j
      · subst hj
        rw [input?_modifyNode_self hn]
        exact grows.input (by simpa [input?, hn] using hp)
      · rwa [input?_modifyNode_of_ne hj]
    have outputs : ∀ {j key port}, g.output? j key = some port →
        (g.modifyNode id f).output? j key = some port := by
      intro j key port hp
      by_cases hj : id = j
      · subst hj
        rw [output?_modifyNode_self hn]
        exact grows.output (by simpa [output?, hn] using hp)
      · rwa [output?_modifyNode_of_ne hj]
    refine h.of_sublist (List.Sublist.refl _) ?_ ?_ ?_ ?_
    · intro j m hm
      by_cases hj : id = j
      · subst hj
        rw [node?_modifyNode_self, hn] at hm
        cases hm
        rw [grows.id_eq]
        exact h.node_id hn
      · exact h.node_id (by rwa [node?_modifyNode_of_ne g hj] at hm)
    · intro w hw
      obtain ⟨hne, producer, consumer, hp, hc, hfit⟩ := h.joins w hw
      exact ⟨hne, producer, consumer, outputs hp, inputs hc, hfit⟩
    · intro j key port hp
      refine ⟨?_, fun old hold => ?_⟩
      · by_cases hj : id = j
        · subst hj
          exact keyed.input (by rwa [input?_modifyNode_self hn] at hp)
        · exact h.input_key (by rwa [input?_modifyNode_of_ne hj] at hp)
      · rw [inputs hold] at hp
        cases hp
        rfl
    · intro j key port hp
      refine ⟨?_, fun old hold => ?_⟩
      · by_cases hj : id = j
        · subst hj
          exact keyed.output (by rwa [output?_modifyNode_self hn] at hp)
        · exact h.output_key (by rwa [output?_modifyNode_of_ne hj] at hp)
      · rw [outputs hold] at hp
        cases hp
        rfl

end ModifyNode

/-! ### Retagging and dropping ports -/

section Ports

variable {g : Graph} {id j : NodeId} {key k : String}

/-- Change the outputs of a node. -/
theorem output?_mapOutputs (f : OrderedMap String Port → OrderedMap String Port) :
    (g.modifyNode id fun n => { n with outputs := f n.outputs }).output? j k =
      if id = j then (g.node? j) >>= fun n => (f n.outputs).get? k else g.output? j k := by
  unfold output?
  rw [node?_modifyNode]
  split_ifs
  · cases g.node? j <;> rfl
  · rfl

theorem input?_mapOutputs (f : OrderedMap String Port → OrderedMap String Port) :
    (g.modifyNode id fun n => { n with outputs := f n.outputs }).input? j k = g.input? j k := by
  unfold input?
  rw [node?_modifyNode]
  split_ifs
  · cases g.node? j <;> rfl
  · rfl

/-- Change the inputs of a node. -/
theorem input?_mapInputs (f : OrderedMap String Port → OrderedMap String Port) :
    (g.modifyNode id fun n => { n with inputs := f n.inputs }).input? j k =
      if id = j then (g.node? j) >>= fun n => (f n.inputs).get? k else g.input? j k := by
  unfold input?
  rw [node?_modifyNode]
  split_ifs
  · cases g.node? j <;> rfl
  · rfl

theorem output?_mapInputs (f : OrderedMap String Port → OrderedMap String Port) :
    (g.modifyNode id fun n => { n with inputs := f n.inputs }).output? j k = g.output? j k := by
  unfold output?
  rw [node?_modifyNode]
  split_ifs
  · cases g.node? j <;> rfl
  · rfl

theorem node_id_modifyNode (h : g.WellWired) {f : Node → Node} {n : Node}
    (hn : (g.modifyNode id f).node? j = some n) (hf : ∀ n, (f n).id = n.id) : n.id = j := by
  rw [node?_modifyNode] at hn
  split_ifs at hn with hj
  · obtain ⟨m, hm, rfl⟩ := Option.map_eq_some_iff.1 hn
    rw [hf]
    exact h.node_id hm
  · exact h.node_id hn

theorem output?_retag {tag : Tag} :
    (g.modifyNode id fun n => { n with outputs := retag n.outputs key tag }).output? j k =
      if id = j ∧ key = k then (g.output? j k).map ({ · with tag }) else g.output? j k := by
  rw [output?_mapOutputs (retag · key tag)]
  by_cases hj : id = j <;> by_cases hk : key = k <;> simp [hj, hk, retag, OrderedMap.get?_modify,
    output?, Node.output?, Option.map_bind]

theorem input?_retag {tag : Tag} :
    (g.modifyNode id fun n => { n with inputs := retag n.inputs key tag }).input? j k =
      if id = j ∧ key = k then (g.input? j k).map ({ · with tag }) else g.input? j k := by
  rw [input?_mapInputs (retag · key tag)]
  by_cases hj : id = j <;> by_cases hk : key = k <;> simp [hj, hk, retag, OrderedMap.get?_modify,
    input?, Node.input?, Option.map_bind]

theorem output?_dropped :
    (g.modifyNode id fun n => { n with outputs := n.outputs.erase key }).output? j k =
      if id = j ∧ key = k then none else g.output? j k := by
  rw [output?_mapOutputs (OrderedMap.erase · key)]
  by_cases hj : id = j <;> by_cases hk : key = k <;> simp [hj, hk, OrderedMap.get?_erase,
    output?, Node.output?]

theorem input?_dropped :
    (g.modifyNode id fun n => { n with inputs := n.inputs.erase key }).input? j k =
      if id = j ∧ key = k then none else g.input? j k := by
  rw [input?_mapInputs (OrderedMap.erase · key)]
  by_cases hj : id = j <;> by_cases hk : key = k <;> simp [hj, hk, OrderedMap.get?_erase,
    input?, Node.input?]

end Ports

namespace WellWired

variable {g : Graph}

theorem setOutputTag (h : g.WellWired) (id : NodeId) (key : String) (tag : Tag) :
    (g.setOutputTag id key tag).1.WellWired := by
  unfold Graph.setOutputTag
  split
  · exact h
  split_ifs
  · exact h
  dsimp only
  set g' := g.modifyNode id fun n => { n with outputs := retag n.outputs key tag } with hg'
  have inputs : ∀ j k, g'.input? j k = g.input? j k := fun j k =>
    input?_mapOutputs (retag · key tag)
  refine h.of_ports ?_ ?_ ?_ ?_ ?_
  · rw [wires_cutAll]
    exact List.filter_sublist
  · intro j n hn
    rw [node?_cutAll] at hn
    exact node_id_modifyNode h hn fun _ => rfl
  · intro w hw
    rw [wires_cutAll, List.mem_filter, decide_eq_true_iff] at hw
    obtain ⟨hw, kept⟩ := hw
    obtain ⟨hne, producer, consumer, hp, hc, hfit⟩ := h.joins w hw
    by_cases hat : id = w.source ∧ key = w.sourcePort
    · -- a wire at the retagged output is left only if its consumer takes the new tag
      have takes : g'.consumerTakes w tag = true := by
        by_contra hno
        exact kept (List.mem_filter.2
          ⟨mem_outgoing.2 ⟨hw, hat.1.symm, hat.2.symm⟩, by simpa using hno⟩)
      unfold consumerTakes at takes
      rw [show (_ >>= _ : Option Port) = _ from (inputs w.target w.targetPort).trans hc] at takes
      refine ⟨hne, { producer with tag }, consumer, ?_, ?_, takes⟩
      · rw [output?_cutAll, hg', output?_retag, if_pos hat, hp]
        rfl
      · rw [input?_cutAll, inputs, hc]
    · refine ⟨hne, producer, consumer, ?_, ?_, hfit⟩
      · rw [output?_cutAll, hg', output?_retag, if_neg hat, hp]
      · rw [input?_cutAll, inputs, hc]
  · intro j k port hp
    exact ⟨port.tag, by rwa [input?_cutAll, inputs] at hp⟩
  · intro j k port hp
    rw [output?_cutAll, hg', output?_retag] at hp
    split_ifs at hp
    · obtain ⟨old, hold, rfl⟩ := Option.map_eq_some_iff.1 hp
      exact ⟨old.tag, hold⟩
    · exact ⟨port.tag, hp⟩

theorem setInputTag (h : g.WellWired) (id : NodeId) (key : String) (tag : Tag) :
    (g.setInputTag id key tag).1.WellWired := by
  unfold Graph.setInputTag
  split
  · exact h
  split_ifs
  · exact h
  dsimp only
  set g' := g.modifyNode id fun n => { n with inputs := retag n.inputs key tag } with hg'
  have outputs : ∀ j k, g'.output? j k = g.output? j k := fun j k =>
    output?_mapInputs (retag · key tag)
  refine h.of_ports ?_ ?_ ?_ ?_ ?_
  · rw [wires_cutAll]
    exact List.filter_sublist
  · intro j n hn
    rw [node?_cutAll] at hn
    exact node_id_modifyNode h hn fun _ => rfl
  · intro w hw
    rw [wires_cutAll, List.mem_filter, decide_eq_true_iff] at hw
    obtain ⟨hw, kept⟩ := hw
    obtain ⟨hne, producer, consumer, hp, hc, hfit⟩ := h.joins w hw
    by_cases hat : id = w.target ∧ key = w.targetPort
    · -- a wire at the retagged input is left only if its producer gives the new tag
      have gives : g'.producerGives w tag = true := by
        by_contra hno
        exact kept (List.mem_filter.2
          ⟨mem_incoming.2 ⟨hw, hat.1.symm, hat.2.symm⟩, by simpa using hno⟩)
      unfold producerGives at gives
      rw [show (_ >>= _ : Option Port) = _ from (outputs w.source w.sourcePort).trans hp] at gives
      refine ⟨hne, producer, { consumer with tag }, ?_, ?_, gives⟩
      · rw [output?_cutAll, outputs, hp]
      · rw [input?_cutAll, hg', input?_retag, if_pos hat, hc]
        rfl
    · refine ⟨hne, producer, consumer, ?_, ?_, hfit⟩
      · rw [output?_cutAll, outputs, hp]
      · rw [input?_cutAll, hg', input?_retag, if_neg hat, hc]
  · intro j k port hp
    rw [input?_cutAll, hg', input?_retag] at hp
    split_ifs at hp
    · obtain ⟨old, hold, rfl⟩ := Option.map_eq_some_iff.1 hp
      exact ⟨old.tag, hold⟩
    · exact ⟨port.tag, hp⟩
  · intro j k port hp
    exact ⟨port.tag, by rwa [output?_cutAll, outputs] at hp⟩

theorem dropInput (h : g.WellWired) (id : NodeId) (key : String) :
    (g.dropInput id key).1.WellWired := by
  unfold Graph.dropInput
  dsimp only
  set g' := g.modifyNode id fun n => { n with inputs := n.inputs.erase key } with hg'
  have outputs : ∀ j k, g'.output? j k = g.output? j k := fun j k =>
    output?_mapInputs (OrderedMap.erase · key)
  refine h.of_ports ?_ ?_ ?_ ?_ ?_
  · rw [wires_cutAll]
    exact List.filter_sublist
  · intro j n hn
    rw [node?_cutAll] at hn
    exact node_id_modifyNode h hn fun _ => rfl
  · intro w hw
    rw [wires_cutAll, List.mem_filter, decide_eq_true_iff] at hw
    obtain ⟨hw, kept⟩ := hw
    obtain ⟨hne, producer, consumer, hp, hc, hfit⟩ := h.joins w hw
    have hat : ¬ (id = w.target ∧ key = w.targetPort) := fun hat =>
      kept (mem_incoming.2 ⟨hw, hat.1.symm, hat.2.symm⟩)
    refine ⟨hne, producer, consumer, ?_, ?_, hfit⟩
    · rw [output?_cutAll, outputs, hp]
    · rw [input?_cutAll, hg', input?_dropped, if_neg hat, hc]
  · intro j k port hp
    rw [input?_cutAll, hg', input?_dropped] at hp
    split_ifs at hp
    exact ⟨port.tag, hp⟩
  · intro j k port hp
    exact ⟨port.tag, by rwa [output?_cutAll, outputs] at hp⟩

theorem dropOutput (h : g.WellWired) (id : NodeId) (key : String) :
    (g.dropOutput id key).1.WellWired := by
  unfold Graph.dropOutput
  dsimp only
  set g' := g.modifyNode id fun n => { n with outputs := n.outputs.erase key } with hg'
  have inputs : ∀ j k, g'.input? j k = g.input? j k := fun j k =>
    input?_mapOutputs (OrderedMap.erase · key)
  refine h.of_ports ?_ ?_ ?_ ?_ ?_
  · rw [wires_cutAll]
    exact List.filter_sublist
  · intro j n hn
    rw [node?_cutAll] at hn
    exact node_id_modifyNode h hn fun _ => rfl
  · intro w hw
    rw [wires_cutAll, List.mem_filter, decide_eq_true_iff] at hw
    obtain ⟨hw, kept⟩ := hw
    obtain ⟨hne, producer, consumer, hp, hc, hfit⟩ := h.joins w hw
    have hat : ¬ (id = w.source ∧ key = w.sourcePort) := fun hat =>
      kept (mem_outgoing.2 ⟨hw, hat.1.symm, hat.2.symm⟩)
    refine ⟨hne, producer, consumer, ?_, ?_, hfit⟩
    · rw [output?_cutAll, hg', output?_dropped, if_neg hat, hp]
    · rw [input?_cutAll, inputs, hc]
  · intro j k port hp
    exact ⟨port.tag, by rwa [input?_cutAll, inputs] at hp⟩
  · intro j k port hp
    rw [output?_cutAll, hg', output?_dropped] at hp
    split_ifs at hp
    exact ⟨port.tag, hp⟩

/-! ### Nodes and wires that come and go -/

theorem empty (name : String) : WellWired { name } where
  node_id hn := by cases hn
  input_key hp := by cases hp
  output_key hp := by cases hp
  joins w hw := by cases hw
  input_single _ _ := Nat.zero_le 1
  output_single _ _ := Nat.zero_le 1

theorem removeNode (h : g.WellWired) (id : NodeId) : (g.removeNode id).WellWired := by
  have ports : ∀ j, (g.removeNode id).node? j = if id = j then none else g.node? j :=
    fun j => node?_removeNode g id j
  refine h.of_ports List.filter_sublist ?_ ?_ ?_ ?_
  · intro j n hn
    rw [ports] at hn
    split_ifs at hn
    exact h.node_id hn
  · intro w hw
    obtain ⟨hw, away⟩ := List.mem_filter.1 hw
    simp only [Wire.touches, Bool.not_or, Bool.and_eq_true, Bool.not_eq_true', beq_eq_false_iff_ne]
      at away
    obtain ⟨hne, producer, consumer, hp, hc, hfit⟩ := h.joins w hw
    refine ⟨hne, producer, consumer, ?_, ?_, hfit⟩
    · unfold output?
      rw [ports, if_neg away.1.symm]
      exact hp
    · unfold input?
      rw [ports, if_neg away.2.symm]
      exact hc
  · intro j k port hp
    unfold input? at hp
    rw [ports] at hp
    split_ifs at hp
    · cases hp
    · exact ⟨port.tag, hp⟩
  · intro j k port hp
    unfold output? at hp
    rw [ports] at hp
    split_ifs at hp
    · cases hp
    · exact ⟨port.tag, hp⟩

/-- A node under a free number has no wires yet. -/
theorem addNode (h : g.WellWired) {n : Node} (hfree : g.node? n.id = none) (hn : n.Keyed) :
    (g.addNode n).WellWired := by
  have inputs : ∀ j k, (g.addNode n).input? j k =
      if n.id = j then n.input? k else g.input? j k := by
    intro j k
    unfold input?
    rw [node?_addNode]
    split_ifs <;> rfl
  have outputs : ∀ j k, (g.addNode n).output? j k =
      if n.id = j then n.output? k else g.output? j k := by
    intro j k
    unfold output?
    rw [node?_addNode]
    split_ifs <;> rfl
  refine h.of_sublist (List.Sublist.refl _) ?_ ?_ ?_ ?_
  · intro j m hm
    rw [node?_addNode] at hm
    split_ifs at hm with hj
    · cases hm
      exact hj
    · exact h.node_id hm
  · intro w hw
    obtain ⟨hne, producer, consumer, hp, hc, hfit⟩ := h.joins w hw
    obtain ⟨source, hs, -⟩ := node?_isSome_of_output? hp
    obtain ⟨target, ht, -⟩ := node?_isSome_of_input? hc
    -- both ends of a wire were there before, so neither is the new node
    refine ⟨hne, producer, consumer, ?_, ?_, hfit⟩
    · rw [outputs, if_neg (fun e => by rw [e, hs] at hfree; cases hfree), hp]
    · rw [inputs, if_neg (fun e => by rw [e, ht] at hfree; cases hfree), hc]
  · intro j k port hp
    rw [inputs] at hp
    split_ifs at hp with hj
    · refine ⟨hn.input hp, fun old hold => ?_⟩
      obtain ⟨m, hm, -⟩ := node?_isSome_of_input? hold
      rw [← hj, hfree] at hm
      cases hm
    · refine ⟨h.input_key hp, fun old hold => ?_⟩
      rw [hp] at hold
      cases hold
      rfl
  · intro j k port hp
    rw [outputs] at hp
    split_ifs at hp with hj
    · refine ⟨hn.output hp, fun old hold => ?_⟩
      obtain ⟨m, hm, -⟩ := node?_isSome_of_output? hold
      rw [← hj, hfree] at hm
      cases hm
    · refine ⟨h.output_key hp, fun old hold => ?_⟩
      rw [hp] at hold
      cases hold
      rfl

end WellWired

/-- The next number is above all in use. -/
theorem lt_nextId {g : Graph} {id : NodeId} (h : id ∈ g.nodes.keys) : id < g.nextId := by
  have key : ∀ (l : List NodeId) (start : NodeId),
      start ≤ l.foldl (fun n id => max n (id + 1)) start ∧
        ∀ id ∈ l, id < l.foldl (fun n id => max n (id + 1)) start := by
    intro l
    induction l with
    | nil => intro start; exact ⟨le_rfl, fun id hid => by cases hid⟩
    | cons x rest ih =>
      intro start
      obtain ⟨hle, hlt⟩ := ih (max start (x + 1))
      refine ⟨(le_max_left _ _).trans hle, ?_⟩
      rintro id (_ | ⟨_, hid⟩)
      · exact Nat.lt_of_lt_of_le (Nat.lt_succ_self _) ((le_max_right _ _).trans hle)
      · exact hlt id hid
  exact (key g.nodes.keys 1).2 id h

theorem node?_nextId (g : Graph) : g.node? g.nextId = none := by
  refine OrderedMap.get?_eq_none_iff.2 fun hmem => ?_
  exact lt_irrefl _ (lt_nextId hmem)

/-- A wire is accepted only if it joins and the ports that take one wire are free. -/
theorem connect_eq_ok {g g' : Graph} {w : Wire} (h : g.connect w = .ok g') :
    g' = g.addWire w ∧ g.Joins w ∧
      (∀ {port}, g.input? w.target w.targetPort = some port → port.multi = false →
        g.incoming w.target w.targetPort = []) ∧
      (∀ {port}, g.output? w.source w.sourcePort = some port → port.multi = false →
        g.outgoing w.source w.sourcePort = []) := by
  unfold connect at h
  simp only [throw, throwThe, MonadExceptOf.throw, bind, Except.bind, pure, Except.pure] at h
  split_ifs at h with hne
  split at h <;> [skip; cases h]
  rename_i source hs
  split at h <;> [skip; cases h]
  rename_i target ht
  split at h <;> [skip; cases h]
  rename_i producer hp
  split at h <;> [skip; cases h]
  rename_i consumer hc
  split_ifs at h with hfit hin hout
  cases h
  have hp' : g.output? w.source w.sourcePort = some producer := by simpa [output?, hs] using hp
  have hc' : g.input? w.target w.targetPort = some consumer := by simpa [input?, ht] using hc
  refine ⟨rfl, ⟨hne, producer, consumer, hp', hc', by simpa using hfit⟩, ?_, ?_⟩
  · intro port hport hm
    rw [hc'] at hport
    cases hport
    simpa [hm] using hin
  · intro port hport hm
    rw [hp'] at hport
    cases hport
    simpa [hm] using hout

theorem WellWired.addWire {g : Graph} {w : Wire} (h : g.WellWired) (hw : g.Joins w)
    (hin : ∀ {port}, g.input? w.target w.targetPort = some port → port.multi = false →
      g.incoming w.target w.targetPort = [])
    (hout : ∀ {port}, g.output? w.source w.sourcePort = some port → port.multi = false →
      g.outgoing w.source w.sourcePort = []) : (g.addWire w).WellWired where
  node_id hn := h.node_id hn
  input_key hp := h.input_key hp
  output_key hp := h.output_key hp
  joins := by
    intro v hv
    rcases List.mem_append.1 hv with hv | hv
    · exact h.joins v hv
    · rw [List.mem_singleton.1 hv]
      exact hw
  input_single := by
    intro id key port hp hm
    have hone := h.input_single hp hm
    show ((g.wires ++ [w]).filter _).length ≤ 1
    rw [List.filter_append, List.length_append]
    by_cases hat : w.target = id ∧ w.targetPort = key
    · obtain ⟨rfl, rfl⟩ := hat
      rw [show g.wires.filter _ = [] from hin hp hm]
      simp
    · have : [w].filter (fun v => v.target == id && v.targetPort == key) = [] := by
        simpa using hat
      rw [this]
      exact hone
  output_single := by
    intro id key port hp hm
    have hone := h.output_single hp hm
    show ((g.wires ++ [w]).filter _).length ≤ 1
    rw [List.filter_append, List.length_append]
    by_cases hat : w.source = id ∧ w.sourcePort = key
    · obtain ⟨rfl, rfl⟩ := hat
      rw [show g.wires.filter _ = [] from hout hp hm]
      simp
    · have : [w].filter (fun v => v.source == id && v.sourcePort == key) = [] := by
        simpa using hat
      rw [this]
      exact hone

theorem WellWired.connect {g g' : Graph} {w : Wire} (h : g.WellWired) (hc : g.connect w = .ok g') :
    g'.WellWired := by
  obtain ⟨rfl, hw, hin, hout⟩ := connect_eq_ok hc
  exact h.addWire hw hin hout

end Graph

end FlowScript
