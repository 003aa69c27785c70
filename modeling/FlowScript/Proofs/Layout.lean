import FlowScript.Proofs.Session

/-!
# The ports of a node in order

What the small changes of adapting do to the ports of a node, as lists: ports are added at the end
and retagged or dropped in place, and the ports of a family of slots are a row at the end.

* `Node.Lists n ins outs`: the inputs and the outputs of a node, in order, one lemma for each change;
* `row`: the ports of a family of slots; `filter_row`: what dropping slots leaves;
* `Graph.setInputTag_eq`, `Graph.setOutputTag_eq`: retagging changes the node and cuts wires;
* `Graph.At g id P`: a node of a graph has a property, one lemma for each change of a graph.
-/

namespace FlowScript

/-- The entry of a port among the ports of a side. -/
def Port.entry (p : Port) : String × Port := (p.key, p)

/-- A port that gets a tag if it has a key. -/
def Port.retag (key : String) (tag : Tag) (p : Port) : Port :=
  if p.key = key then { p with tag } else p

namespace Node

/-! ### Changes of one node -/

/-- Retag an input. -/
def retagInput (n : Node) (key : String) (tag : Tag) : Node :=
  { n with inputs := Graph.retag n.inputs key tag }

/-- Retag an output. -/
def retagOutput (n : Node) (key : String) (tag : Tag) : Node :=
  { n with outputs := Graph.retag n.outputs key tag }

/-- Remove an input. -/
def dropInput (n : Node) (key : String) : Node := { n with inputs := n.inputs.erase key }

/-- Remove an output. -/
def dropOutput (n : Node) (key : String) : Node := { n with outputs := n.outputs.erase key }

/-- Retype an output and note the type in the data. -/
def retype (n : Node) (key dataKey : String) (t : DataType) : Node :=
  (n.retagOutput key t.tag).set dataKey (.str t.name)

theorem retagInput_eq_self {n : Node} {key : String} {tag : Tag}
    (h : ∀ port, n.input? key = some port → port.tag = tag) : n.retagInput key tag = n := by
  unfold retagInput Graph.retag
  rw [OrderedMap.modify_eq_self fun port hp => by rw [← h port hp]]

theorem retagOutput_eq_self {n : Node} {key : String} {tag : Tag}
    (h : ∀ port, n.output? key = some port → port.tag = tag) : n.retagOutput key tag = n := by
  unfold retagOutput Graph.retag
  rw [OrderedMap.modify_eq_self fun port hp => by rw [← h port hp]]

theorem set_eq_self {n : Node} {key : String} {value : Json} (h : n.data.get? key = some value) :
    n.set key value = n := by
  unfold set
  rw [OrderedMap.insert_eq_self h]

theorem get?_set (n : Node) (key k : String) (value : Json) :
    (n.set key value).data.get? k = if key = k then some value else n.data.get? k :=
  OrderedMap.get?_insert ..

theorem get?_unset (n : Node) (key k : String) :
    (n.unset key).data.get? k = if key = k then none else n.data.get? k :=
  OrderedMap.get?_erase ..

theorem input?_retagInput (n : Node) (key k : String) (tag : Tag) :
    (n.retagInput key tag).input? k =
      if key = k then (n.input? k).map fun p => { p with tag } else n.input? k :=
  OrderedMap.get?_modify ..

theorem output?_retagOutput (n : Node) (key k : String) (tag : Tag) :
    (n.retagOutput key tag).output? k =
      if key = k then (n.output? k).map fun p => { p with tag } else n.output? k :=
  OrderedMap.get?_modify ..

/-! ### Ports as lists -/

/-- The inputs and the outputs of a node, in order. -/
structure Lists (n : Node) (ins outs : List Port) : Prop where
  inputs : n.inputs.entries = ins.map Port.entry
  outputs : n.outputs.entries = outs.map Port.entry

namespace Lists

variable {n m : Node} {ins outs : List Port}

theorem bare (hi : n.inputs = .empty) (ho : n.outputs = .empty) : n.Lists [] [] :=
  ⟨by rw [hi]; rfl, by rw [ho]; rfl⟩

theorem of_samePorts (h : n.Lists ins outs) (same : n.SamePorts m) : m.Lists ins outs :=
  ⟨by rw [same.2.2.1]; exact h.inputs, by rw [same.2.2.2]; exact h.outputs⟩

/-- The lists say which ports there are. -/
theorem unique (hn : n.Lists ins outs) (hm : m.Lists ins outs) :
    n.inputs = m.inputs ∧ n.outputs = m.outputs :=
  ⟨OrderedMap.ext (hn.inputs.trans hm.inputs.symm), OrderedMap.ext (hn.outputs.trans hm.outputs.symm)⟩

theorem keys_inputs (h : n.Lists ins outs) : n.inputs.keys = ins.map Port.key := by
  unfold OrderedMap.keys
  rw [h.inputs, List.map_map]
  rfl

theorem keys_outputs (h : n.Lists ins outs) : n.outputs.keys = outs.map Port.key := by
  unfold OrderedMap.keys
  rw [h.outputs, List.map_map]
  rfl

theorem key_inputs (h : n.Lists ins outs) {key : String} {port : Port}
    (hp : n.inputs.get? key = some port) : port.key = key := by
  have mem := OrderedMap.get?_eq_some_iff.1 hp
  rw [h.inputs] at mem
  obtain ⟨p, -, e⟩ := List.mem_map.1 mem
  cases e
  rfl

theorem key_outputs (h : n.Lists ins outs) {key : String} {port : Port}
    (hp : n.outputs.get? key = some port) : port.key = key := by
  have mem := OrderedMap.get?_eq_some_iff.1 hp
  rw [h.outputs] at mem
  obtain ⟨p, -, e⟩ := List.mem_map.1 mem
  cases e
  rfl

theorem input? (h : n.Lists ins outs) {p : Port} (hp : p ∈ ins) : n.input? p.key = some p := by
  refine OrderedMap.get?_eq_some_iff.2 ?_
  rw [h.inputs]
  exact List.mem_map_of_mem hp

theorem output? (h : n.Lists ins outs) {p : Port} (hp : p ∈ outs) : n.output? p.key = some p := by
  refine OrderedMap.get?_eq_some_iff.2 ?_
  rw [h.outputs]
  exact List.mem_map_of_mem hp

theorem addInput (h : n.Lists ins outs) {p : Port} (fresh : p.key ∉ ins.map Port.key) :
    (n.addInput p).Lists (ins ++ [p]) outs where
  inputs := by
    rw [← h.keys_inputs] at fresh
    rw [List.map_append, ← h.inputs]
    exact OrderedMap.entries_insert_of_notMem fresh
  outputs := h.outputs

theorem addOutput (h : n.Lists ins outs) {p : Port} (fresh : p.key ∉ outs.map Port.key) :
    (n.addOutput p).Lists ins (outs ++ [p]) where
  inputs := h.inputs
  outputs := by
    rw [← h.keys_outputs] at fresh
    rw [List.map_append, ← h.outputs]
    exact OrderedMap.entries_insert_of_notMem fresh

/-- The entries of retagged ports. -/
theorem entries_retag {ports : OrderedMap String Port} {ps : List Port}
    (h : ports.entries = ps.map Port.entry) (key : String) (tag : Tag) :
    (Graph.retag ports key tag).entries = (ps.map (Port.retag key tag)).map Port.entry := by
  unfold Graph.retag
  rw [OrderedMap.entries_modify, h, List.map_map, List.map_map]
  refine List.map_congr_left fun p _ => ?_
  unfold Port.retag
  by_cases hk : p.key = key <;> simp [Port.entry, hk]

theorem retagInput (h : n.Lists ins outs) (key : String) (tag : Tag) :
    (n.retagInput key tag).Lists (ins.map (Port.retag key tag)) outs :=
  ⟨entries_retag h.inputs key tag, h.outputs⟩

theorem retagOutput (h : n.Lists ins outs) (key : String) (tag : Tag) :
    (n.retagOutput key tag).Lists ins (outs.map (Port.retag key tag)) :=
  ⟨h.inputs, entries_retag h.outputs key tag⟩

/-- The entries of the ports that are left. -/
theorem entries_erase {ports : OrderedMap String Port} {ps : List Port}
    (h : ports.entries = ps.map Port.entry) (key : String) :
    (ports.erase key).entries = (ps.filter (·.key ≠ key)).map Port.entry := by
  show ports.entries.filter _ = _
  rw [h, List.filter_map]
  rfl

theorem dropInput (h : n.Lists ins outs) (key : String) :
    (n.dropInput key).Lists (ins.filter (·.key ≠ key)) outs :=
  ⟨entries_erase h.inputs key, h.outputs⟩

theorem dropOutput (h : n.Lists ins outs) (key : String) :
    (n.dropOutput key).Lists ins (outs.filter (·.key ≠ key)) :=
  ⟨h.inputs, entries_erase h.outputs key⟩

end Lists

/-! ### Types shown by outputs -/

/-- An output has a type, and the data name it. -/
structure Shows (n : Node) (key dataKey : String) (t : DataType) : Prop where
  tag : ∀ port, n.output? key = some port → port.tag = t.tag
  data : n.data.get? dataKey = some (.str t.name)

theorem shows_retype (n : Node) (key dataKey : String) (t : DataType) :
    (n.retype key dataKey t).Shows key dataKey t where
  tag port hp := by
    have shown : (n.retagOutput key t.tag).output? key = some port := hp
    rw [output?_retagOutput, if_pos rfl] at shown
    obtain ⟨old, -, rfl⟩ := Option.map_eq_some_iff.1 shown
    rfl
  data := by
    unfold retype
    rw [get?_set, if_pos rfl]

/-- Retyping another output leaves what an output shows. -/
theorem Shows.retype {n : Node} {k d key dataKey : String} {t : DataType} (h : n.Shows k d t)
    (hk : key ≠ k) (hd : dataKey ≠ d) (t' : DataType) : (n.retype key dataKey t').Shows k d t where
  tag port hp := by
    have shown : (n.retagOutput key t'.tag).output? k = some port := hp
    rw [output?_retagOutput, if_neg hk] at shown
    exact h.tag port shown
  data := by
    unfold Node.retype
    rw [get?_set, if_neg hd]
    exact h.data

end Node

/-! ### Rows of slots -/

/-- The first ports of a numbered family. -/
def row (port : Nat → Port) (count : Nat) : List Port := (List.range count).map port

section Row

variable {stem : String} {port : Nat → Port} (hp : ∀ i, (port i).key = slotKey stem i)
  {others : List Port} (apart : ∀ p ∈ others, isSlot stem p.key = false)

theorem row_succ (port : Nat → Port) (count : Nat) :
    row port (count + 1) = row port count ++ [port count] := by
  simp [row, List.range_succ]

theorem row_congr {port port' : Nat → Port} {count : Nat} (h : ∀ i < count, port i = port' i) :
    row port count = row port' count :=
  List.map_congr_left fun i hi => h i (List.mem_range.1 hi)

theorem mem_row {count i : Nat} (port : Nat → Port) (hi : i < count) : port i ∈ row port count :=
  List.mem_map_of_mem (List.mem_range.2 hi)

include hp

theorem keys_row (count : Nat) :
    (row port count).map Port.key = (List.range count).map (slotKey stem) := by
  rw [row, List.map_map]
  exact List.map_congr_left fun i _ => hp i

include apart

/-- A row stands for the slots of its family. -/
theorem numbered_row {count : Nat} (hc : count ≤ Decimal.maxCount) :
    Numbered stem ((others ++ row port count).map Port.key) count := by
  unfold Numbered
  rw [List.map_append, List.filter_append, keys_row hp]
  have none : (others.map Port.key).filter (isSlot stem) = [] := by
    rw [List.filter_eq_nil_iff]
    intro key hkey
    obtain ⟨p, mem, rfl⟩ := List.mem_map.1 hkey
    rw [apart p mem]
    exact Bool.false_ne_true
  have all : ((List.range count).map (slotKey stem)).filter (isSlot stem) =
      (List.range count).map (slotKey stem) := by
    rw [List.filter_eq_self]
    intro key hkey
    obtain ⟨i, hi, rfl⟩ := List.mem_map.1 hkey
    exact isSlot_slotKey stem (by have := List.mem_range.1 hi; omega)
  rw [none, all, List.nil_append]

/-- The next slot of a row has a new key. -/
theorem next_notMem_row {count : Nat} (hc : count ≤ Decimal.maxCount) :
    (port count).key ∉ (others ++ row port count).map Port.key := by
  rw [hp, (numbered_row hp apart hc).mem_iff hc]
  exact Nat.lt_irrefl count

/-- Dropping the slots from a number on leaves a shorter row. -/
theorem filter_row {required count : Nat} (hr : required ≤ count) (hc : count ≤ Decimal.maxCount) :
    ((others ++ row port count).filter fun p =>
      p.key ∉ (between required count).map (slotKey stem)) = others ++ row port required := by
  have dropped : ∀ {i}, slotKey stem i ∈ (between required count).map (slotKey stem) ↔
      required ≤ i ∧ i < count := by
    intro i
    simp only [List.mem_map, between, List.mem_range'_1]
    constructor
    · rintro ⟨j, hj, e⟩
      have := slotKey_injective e
      omega
    · exact fun hi => ⟨i, by omega, rfl⟩
  rw [List.filter_append]
  congr 1
  · rw [List.filter_eq_self]
    intro p mem
    rw [decide_eq_true_iff]
    intro key
    obtain ⟨i, hi, e⟩ := List.mem_map.1 key
    have bound : i < count := by simp only [between, List.mem_range'_1] at hi; omega
    have slot := isSlot_slotKey stem (i := i) (by omega)
    rw [e, apart p mem] at slot
    cases slot
  · obtain ⟨d, rfl⟩ := Nat.exists_eq_add_of_le hr
    rw [row, List.range_add, List.map_append, List.filter_append, List.filter_eq_self.2,
      List.filter_eq_nil_iff.2, List.append_nil]
    · rfl
    · intro p mem
      obtain ⟨i, hi, rfl⟩ := List.mem_map.1 mem
      obtain ⟨j, hj, rfl⟩ := List.mem_map.1 hi
      have := List.mem_range.1 hj
      simp only [hp, dropped]
      simp
      omega
    · intro p mem
      obtain ⟨i, hi, rfl⟩ := List.mem_map.1 mem
      have := List.mem_range.1 hi
      simp only [hp, dropped]
      simp
      omega

end Row

/-! ### Properties of one node of a graph -/

namespace Graph

/-- A node is there and has a property. -/
def At (g : Graph) (id : NodeId) (P : Node → Prop) : Prop := ∃ n, g.node? id = some n ∧ P n

section Nodes

variable (g : Graph) (id : NodeId) (key : String) (tag : Tag)

theorem modifyNode_eq_self {g : Graph} {id : NodeId} {f : Node → Node}
    (h : ∀ n, g.node? id = some n → f n = n) : g.modifyNode id f = g := by
  unfold modifyNode
  rw [OrderedMap.modify_eq_self h]

theorem setInputTag_eq_self {g : Graph} {id : NodeId} {key : String} {tag : Tag}
    (h : ∀ port, g.input? id key = some port → port.tag = tag) :
    g.setInputTag id key tag = (g, []) := by
  unfold setInputTag
  split
  · rfl
  · rename_i port hport
    rw [if_pos (h port hport)]

theorem setOutputTag_eq_self {g : Graph} {id : NodeId} {key : String} {tag : Tag}
    (h : ∀ port, g.output? id key = some port → port.tag = tag) :
    g.setOutputTag id key tag = (g, []) := by
  unfold setOutputTag
  split
  · rfl
  · rename_i port hport
    rw [if_pos (h port hport)]

/-- Retagging an input is a change of the node that costs it the wires that do not fit. -/
theorem setInputTag_eq : ∃ stale, g.setInputTag id key tag =
      ((g.modifyNode id (·.retagInput key tag)).cutAll stale, stale) ∧
    ∀ w ∈ stale, w ∈ g.incoming id key ∧
      (g.modifyNode id (·.retagInput key tag)).producerGives w tag = false := by
  by_cases h : ∀ port, g.input? id key = some port → port.tag = tag
  · refine ⟨[], ?_, fun w hw => absurd hw List.not_mem_nil⟩
    have same : g.modifyNode id (·.retagInput key tag) = g := by
      refine modifyNode_eq_self fun n hn => Node.retagInput_eq_self fun port hport => h port ?_
      unfold Graph.input?
      rw [hn]
      exact hport
    rw [setInputTag_eq_self h, same]
    rfl
  · push Not at h
    obtain ⟨port, hport, ne⟩ := h
    unfold setInputTag
    rw [show (g.node? id >>= (·.input? key)) = some port from hport]
    dsimp only
    rw [if_neg ne]
    refine ⟨_, rfl, fun w hw => ⟨List.mem_of_mem_filter hw, ?_⟩⟩
    have refused := List.of_mem_filter hw
    simp only [Bool.not_eq_true'] at refused
    exact refused

/-- Retagging an output is a change of the node that costs it the wires that do not fit. -/
theorem setOutputTag_eq : ∃ stale, g.setOutputTag id key tag =
      ((g.modifyNode id (·.retagOutput key tag)).cutAll stale, stale) ∧
    ∀ w ∈ stale, w ∈ g.outgoing id key ∧
      (g.modifyNode id (·.retagOutput key tag)).consumerTakes w tag = false := by
  by_cases h : ∀ port, g.output? id key = some port → port.tag = tag
  · refine ⟨[], ?_, fun w hw => absurd hw List.not_mem_nil⟩
    have same : g.modifyNode id (·.retagOutput key tag) = g := by
      refine modifyNode_eq_self fun n hn => Node.retagOutput_eq_self fun port hport => h port ?_
      unfold Graph.output?
      rw [hn]
      exact hport
    rw [setOutputTag_eq_self h, same]
    rfl
  · push Not at h
    obtain ⟨port, hport, ne⟩ := h
    unfold setOutputTag
    rw [show (g.node? id >>= (·.output? key)) = some port from hport]
    dsimp only
    rw [if_neg ne]
    refine ⟨_, rfl, fun w hw => ⟨List.mem_of_mem_filter hw, ?_⟩⟩
    have refused := List.of_mem_filter hw
    simp only [Bool.not_eq_true'] at refused
    exact refused

theorem nodes_setInputTag :
    (g.setInputTag id key tag).1.nodes = (g.modifyNode id (·.retagInput key tag)).nodes := by
  obtain ⟨stale, e, -⟩ := setInputTag_eq g id key tag
  rw [e, nodes_cutAll]

theorem nodes_setOutputTag :
    (g.setOutputTag id key tag).1.nodes = (g.modifyNode id (·.retagOutput key tag)).nodes := by
  obtain ⟨stale, e, -⟩ := setOutputTag_eq g id key tag
  rw [e, nodes_cutAll]

theorem nodes_dropInput :
    (g.dropInput id key).1.nodes = (g.modifyNode id (·.dropInput key)).nodes :=
  nodes_cutAll ..

theorem nodes_dropOutput :
    (g.dropOutput id key).1.nodes = (g.modifyNode id (·.dropOutput key)).nodes :=
  nodes_cutAll ..

end Nodes

namespace At

variable {g : Graph} {id : NodeId} {P Q : Node → Prop}

theorem mono (h : g.At id P) (hPQ : ∀ n, P n → Q n) : g.At id Q := by
  obtain ⟨n, hn, hp⟩ := h
  exact ⟨n, hn, hPQ n hp⟩

theorem of_node? (h : g.At id P) {n : Node} (hn : g.node? id = some n) : P n := by
  obtain ⟨m, hm, hp⟩ := h
  rw [hn] at hm
  cases hm
  exact hp

theorem edit (h : g.At id P) {f : Node → Node} (hf : ∀ n, P n → Q (f n)) :
    (g.modifyNode id f).At id Q := by
  obtain ⟨n, hn, hp⟩ := h
  refine ⟨f n, ?_, hf n hp⟩
  rw [node?_modifyNode_self, hn]
  rfl

/-- A change with the nodes of an edit. -/
theorem of_nodes (h : g.At id P) {f : Node → Node} {g' : Graph}
    (nodes : g'.nodes = (g.modifyNode id f).nodes) (hf : ∀ n, P n → Q (f n)) : g'.At id Q := by
  obtain ⟨n, hn, hq⟩ := h.edit hf
  exact ⟨n, by unfold node?; rw [nodes]; exact hn, hq⟩

variable {a : Adapted}

theorem retypeOutput (h : a.graph.At id P) {key dataKey : String} {t : DataType}
    (hf : ∀ n, P n → Q (n.retype key dataKey t)) :
    (Graph.retypeOutput id a key dataKey t).graph.At id Q :=
  (h.of_nodes (Q := fun n => Q (n.set dataKey (.str t.name))) (nodes_setOutputTag ..) hf).edit
    fun _ hq => hq

theorem shrinkSlot (h : a.graph.At id P) {inStem outStem : String} {i : Nat}
    (hf : ∀ n, P n → Q (((n.dropInput (slotKey inStem i)).dropOutput (slotKey outStem i)).unset
      (slotKey "typeName" i))) :
    (Graph.shrinkSlot id inStem outStem a i).graph.At id Q := by
  have dropped : (a.step fun g => g.dropInput id (slotKey inStem i)).graph.At id fun n =>
      Q ((n.dropOutput (slotKey outStem i)).unset (slotKey "typeName" i)) :=
    h.of_nodes (nodes_dropInput ..) hf
  exact (dropped.of_nodes (Q := fun n => Q (n.unset (slotKey "typeName" i)))
    (nodes_dropOutput ..) fun _ hq => hq).edit fun _ hq => hq

theorem foldl {α : Type} {f : Adapted → α → Adapted} (xs : List α) (h : a.graph.At id P)
    (hf : ∀ (b : Adapted) x, x ∈ xs → b.graph.At id P → (f b x).graph.At id P) :
    (xs.foldl f a).graph.At id P :=
  List.foldlRecOn xs f (motive := fun b => b.graph.At id P) h fun b hb x hx => hf b x hx hb

end At

end Graph

end FlowScript
