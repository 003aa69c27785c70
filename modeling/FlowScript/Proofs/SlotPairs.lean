import FlowScript.Proofs.Feeding

/-!
# Paired slots of loops and definitions

Loops and definitions have an input and an output for each of a count, after their other ports.  The
pairs are brought to the count and then their outputs are typed one by one, each by what feeds its
input; typing one leaves what was found for the others.

* `SlotPair`: two families of slots after other ports; `SlotPair.Holds`: a node has them up to a
  count;
* `SlotTyping`: a way of typing a slot that finds the same type again;
* `Slotted`: the slots are there and typed, and would be typed the same; `SlotTyping.slotted`: what
  holds after resizing and typing.
-/

namespace FlowScript

/-- A family of slots on each side of a node, after its other ports. -/
structure SlotPair where
  ins : List Port
  outs : List Port
  inStem : String
  inTitle : String
  outStem : String
  outTitle : String

namespace SlotPair

/-- The ranges and the indices of a loop. -/
def loop : SlotPair where
  ins := [.flowIn flowInKey]
  outs := [.flowOut flowOutKey, .flowOut "body" "body"]
  inStem := "range"
  inTitle := "Range"
  outStem := "val"
  outTitle := "Value"

/-- The arguments and the parameters of a definition. -/
def params : SlotPair where
  ins := []
  outs := [.flowOut flowOutKey]
  inStem := "arg"
  inTitle := "Argument"
  outStem := "out"
  outTitle := "Output"

variable (s : SlotPair)

/-- The input of a pair. -/
def input (any : Socket) (i : Nat) : Port :=
  .input (slotKey s.inStem i) (slotTitle s.inTitle i) any

/-- The output of a pair. -/
def output (socket : Nat → Socket) (i : Nat) : Port :=
  .output (slotKey s.outStem i) (slotTitle s.outTitle i) (socket i) true

/-- The inputs of a node with a number of pairs. -/
def inputs (any : Socket) (count : Nat) : List Port := s.ins ++ row (s.input any) count

/-- The outputs of a node with a number of pairs. -/
def outputs (socket : Nat → Socket) (count : Nat) : List Port := s.outs ++ row (s.output socket) count

/-- The other ports are not slots. -/
structure Apart : Prop where
  ins : ∀ p ∈ s.ins, isSlot s.inStem p.key = false
  outs : ∀ p ∈ s.outs, isSlot s.outStem p.key = false

theorem loop_apart : loop.Apart := ⟨by decide, by decide⟩

theorem params_apart : params.Apart := ⟨by decide, by decide⟩

/-- A node has a number of pairs. -/
def Holds (any : Socket) (count : Nat) (n : Node) : Prop :=
  ∃ socket, n.Lists (s.inputs any count) (s.outputs socket count)

variable {s} {any : Socket} {socket : Nat → Socket} {n m : Node} {i count : Nat}

theorem outputs_congr {socket' : Nat → Socket} (h : ∀ i < count, socket i = socket' i) :
    s.outputs socket count = s.outputs socket' count := by
  unfold outputs
  rw [row_congr fun i hi => by rw [output, h i hi, ← output]]

/-- The next pair. -/
theorem lists_next (apart : s.Apart) (hc : count ≤ Decimal.maxCount)
    (h : n.Lists (s.inputs any count) (s.outputs socket count)) :
    ((n.addInput (s.input any count)).addOutput (s.output socket count)).Lists
      (s.inputs any (count + 1)) (s.outputs socket (count + 1)) := by
  have freshIn : (s.input any count).key ∉ (s.inputs any count).map Port.key :=
    next_notMem_row (fun _ => rfl) apart.ins hc
  have freshOut : (s.output socket count).key ∉ (s.outputs socket count).map Port.key :=
    next_notMem_row (fun _ => rfl) apart.outs hc
  have next := (h.addInput freshIn).addOutput freshOut
  unfold inputs outputs at next ⊢
  rwa [row_succ, row_succ, ← List.append_assoc, ← List.append_assoc]

/-- A new node gets its pairs one after the other, each output with the type that is declared. -/
theorem lists_foldl_addSlotPair (types : TypeTable) (apart : s.Apart)
    (hc : count ≤ Decimal.maxCount) (h : n.Lists s.ins s.outs) :
    ((List.range count).foldl
      (Node.addSlotPair types s.inStem s.inTitle s.outStem s.outTitle) n).Lists
        (s.inputs types.any.socket count)
        (s.outputs (fun i => (n.typeAt types (slotKey "typeName" i)).socket) count) := by
  rw [range_eq_between]
  refine (foldl_between (P := fun i (m : Node) => m.data = n.data ∧ m.Lists (s.inputs types.any.socket i)
    (s.outputs (fun i => (n.typeAt types (slotKey "typeName" i)).socket) i)) (Nat.zero_le count)
    ?_ ⟨rfl, ?_⟩).2
  · rintro i m hi ⟨data, lists⟩
    refine ⟨data, ?_⟩
    have declared : m.typeAt types (slotKey "typeName" i) = n.typeAt types (slotKey "typeName" i) := by
      unfold Node.typeAt Node.text?
      rw [data]
    have next := lists_next apart (by omega) lists
    unfold output at next
    dsimp only at next
    rwa [← declared] at next
  · simpa [inputs, outputs, row] using h

namespace Holds

theorem of_samePorts (h : s.Holds any count n) (same : n.SamePorts m) : s.Holds any count m := by
  obtain ⟨socket, lists⟩ := h
  exact ⟨socket, lists.of_samePorts same⟩

/-- The next pair, whatever the type of its output. -/
theorem next (h : s.Holds any count n) (apart : s.Apart) (hc : count ≤ Decimal.maxCount)
    (o : Socket) :
    s.Holds any (count + 1) ((n.addInput (s.input any count)).addOutput
      (.output (slotKey s.outStem count) (slotTitle s.outTitle count) o true)) := by
  obtain ⟨socket, lists⟩ := h
  have changed : s.outputs socket count = s.outputs (Function.update socket count o) count :=
    outputs_congr fun i hi => (Function.update_of_ne hi.ne o socket).symm
  rw [changed] at lists
  have added := lists_next apart hc lists
  unfold output at added
  rw [Function.update_self] at added
  exact ⟨_, added⟩

/-- Retyping the output of a pair. -/
theorem retype (h : s.Holds any count n) (apart : s.Apart) (hi : i ≤ Decimal.maxCount)
    (dataKey : String) (t : DataType) :
    s.Holds any count (n.retype (slotKey s.outStem i) dataKey t) := by
  obtain ⟨socket, lists⟩ := h
  refine ⟨Function.update socket i t.socket, ?_⟩
  have retagged := lists.retagOutput (slotKey s.outStem i) t.tag
  have outs : (s.outputs socket count).map (Port.retag (slotKey s.outStem i) t.tag) =
      s.outputs (Function.update socket i t.socket) count := by
    unfold outputs row
    rw [List.map_append, List.map_map]
    congr 1
    · refine (List.map_congr_left fun p hp => ?_).trans (List.map_id s.outs)
      have other : p.key ≠ slotKey s.outStem i := by
        intro e
        have slot := isSlot_slotKey s.outStem hi
        rw [← e, apart.outs p hp] at slot
        cases slot
      exact if_neg other
    · refine List.map_congr_left fun j _ => ?_
      unfold Function.comp Port.retag output
      by_cases hj : j = i
      · subst hj
        rw [Function.update_self]
        exact if_pos rfl
      · rw [Function.update_of_ne hj]
        exact if_neg fun e => hj (slotKey_injective e)
  rw [outs] at retagged
  exact retagged.of_samePorts (Node.samePorts_set ..)

theorem input? (h : s.Holds any count n) (hi : i < count) :
    n.input? (slotKey s.inStem i) = some (s.input any i) := by
  obtain ⟨socket, lists⟩ := h
  exact lists.input? (List.mem_append_right _ (mem_row _ hi))

/-- Slots are counted by the inputs. -/
theorem slotCount_eq (h : s.Holds any count n) (apart : s.Apart) (hc : count ≤ Decimal.maxCount) :
    slotCount s.inStem n.inputs.values = count := by
  obtain ⟨socket, lists⟩ := h
  refine Numbered.slotCount_eq ?_ fun hp => lists.key_inputs hp
  rw [lists.keys_inputs]
  exact numbered_row (fun _ => rfl) apart.ins hc

end Holds

end SlotPair

/-! ### Bringing pairs to a count -/

namespace Graph

variable {lang : Language} {id : NodeId} {a : Adapted} {s : SlotPair} {key : String}
  {value : Option Json}

theorem filter_key_notMem_cons (ps : List Port) (key : String) (keys : List String) :
    (ps.filter (·.key ≠ key)).filter (·.key ∉ keys) = ps.filter (·.key ∉ key :: keys) := by
  rw [List.filter_filter]
  apply List.filter_congr
  intro p _
  by_cases hp : p.key = key <;> simp [hp]

/-- Dropping pairs of slots. -/
theorem At.foldl_shrinkSlot {ins outs : List Port} {inStem outStem : String} (is : List Nat)
    (hkey : ∀ i, slotKey "typeName" i ≠ key)
    (h : a.graph.At id fun n => n.Lists ins outs ∧ n.data.get? key = value) :
    (is.foldl (Graph.shrinkSlot id inStem outStem) a).graph.At id fun n =>
      n.Lists (ins.filter fun p => p.key ∉ is.map (slotKey inStem))
        (outs.filter fun p => p.key ∉ is.map (slotKey outStem)) ∧ n.data.get? key = value := by
  induction is generalizing a ins outs with
  | nil => simpa using h
  | cons i is ih =>
    have step : (Graph.shrinkSlot id inStem outStem a i).graph.At id fun n =>
        n.Lists (ins.filter (·.key ≠ slotKey inStem i)) (outs.filter (·.key ≠ slotKey outStem i)) ∧
          n.data.get? key = value := by
      refine h.shrinkSlot ?_
      rintro n ⟨lists, data⟩
      constructor
      · exact ((lists.dropInput _).dropOutput _).of_samePorts (Node.samePorts_unset ..)
      · rw [Node.get?_unset, if_neg (hkey i)]
        exact data
    have rest := ih step
    rwa [filter_key_notMem_cons, filter_key_notMem_cons] at rest

/-- Pairs that are too few are added, and pairs that are too many are dropped. -/
theorem At.resizeSlots (apart : s.Apart) {present required : Nat}
    (hp : present ≤ Decimal.maxCount) (hr : required ≤ Decimal.maxCount)
    (hkey : ∀ i, slotKey "typeName" i ≠ key)
    (h : a.graph.At id fun n => s.Holds lang.types.any.socket present n ∧ n.data.get? key = value) :
    (Graph.resizeSlots lang id s.inStem s.inTitle s.outStem s.outTitle required a).graph.At id
      fun n => s.Holds lang.types.any.socket required n ∧ n.data.get? key = value := by
  obtain ⟨n, hn, holds, data⟩ := h
  unfold Graph.resizeSlots
  rw [hn]
  dsimp only
  rw [holds.slotCount_eq apart hp]
  rcases le_total present required with hle | hle
  · rw [between_eq_nil hle]
    have grown : s.Holds lang.types.any.socket required ((between present required).foldl
        (growSlot lang s.inStem s.inTitle s.outStem s.outTitle) n) ∧
        ((between present required).foldl
          (growSlot lang s.inStem s.inTitle s.outStem s.outTitle) n).data.get? key = value := by
      refine foldl_between (P := fun i (m : Node) => s.Holds lang.types.any.socket i m ∧
        m.data.get? key = value) hle ?_ ⟨holds, data⟩
      rintro i m hi ⟨holds, data⟩
      refine ⟨(holds.next apart (by omega) lang.types.any.socket).of_samePorts
        (Node.samePorts_set ..), ?_⟩
      unfold growSlot
      rw [Node.get?_set, if_neg (hkey i)]
      exact data
    refine ⟨_, ?_, grown⟩
    show (a.graph.modifyNode id _).node? id = _
    rw [node?_modifyNode_self, hn]
    rfl
  · rw [between_eq_nil hle]
    obtain ⟨socket, lists⟩ := holds
    have start : (a.update fun g => g.modifyNode id fun n => [].foldl
        (growSlot lang s.inStem s.inTitle s.outStem s.outTitle) n).graph.At id fun n =>
          n.Lists (s.inputs lang.types.any.socket present) (s.outputs socket present) ∧
            n.data.get? key = value :=
      At.edit (P := fun n => n.Lists (s.inputs lang.types.any.socket present)
        (s.outputs socket present) ∧ n.data.get? key = value) ⟨n, hn, lists, data⟩ fun _ hm => hm
    refine (At.foldl_shrinkSlot _ hkey start).mono ?_
    rintro m ⟨lists, data⟩
    refine ⟨⟨socket, ?_⟩, data⟩
    unfold SlotPair.inputs SlotPair.outputs at lists
    rwa [filter_row (fun _ => rfl) apart.ins hle hp, filter_row (fun _ => rfl) apart.outs hle hp]
      at lists

end Graph

/-! ### Typing the pairs -/

open FlowScript.Graph

/-- A way of typing the slots of a family: it cuts the wire into the input of the slot or nothing,
and it finds the same type again where the input is fed as it was left and the data name the type
that was found. -/
structure SlotTyping (lang : Language) (id : NodeId) (inStem : String)
    (τ : Adapted → Nat → Adapted × DataType) : Prop where
  has : ∀ a i, lang.types.Has (τ a i).2
  cuts : ∀ a i, (τ a i).1 = a ∨ ∃ w, a.graph.wireInto? id (slotKey inStem i) = some w ∧
    (τ a i).1 = a.sever w
  again : ∀ {a i g}, a.graph.WellWired →
    (a.graph.incoming id (slotKey inStem i)).length ≤ 1 →
    SameFeed id (slotKey inStem i) (τ a i).1.graph g →
    g.At id (fun n => n.data.get? (slotKey "typeName" i) = some (.str (τ a i).2.name)) →
    ∀ cut, τ ⟨g, cut⟩ i = (⟨g, cut⟩, (τ a i).2)

theorem slotTyping_range {lang : Language} (cat : lang.types.Catalogued) (id : NodeId) :
    SlotTyping lang id "range" (rangeType lang id) where
  has _ _ := has_fedType cat (fun _ _ => cat.has_getOrAny _) cat.any
  cuts _ _ := fedType_cuts
  again {a i g} wired single same _ cut := by
    have given : ∀ {g' w}, SameFeed id (slotKey "range" i) a.graph g' →
        a.graph.wireInto? id (slotKey "range" i) = some w →
          sourceElement lang g' w = sourceElement lang a.graph w :=
      fun same hw => same.elementType wired lang hw
    refine fedType_again wired single given same (fun unwired => ?_) cut
    -- whether it had no wire or lost it, it is for anything
    rcases fedType_unconnected (same.wire.symm.trans unwired) with h | h <;> exact h.symm

theorem slotTyping_param {lang : Language} (cat : lang.types.Catalogued) (id : NodeId) :
    SlotTyping lang id "arg" (paramType lang id) where
  has _ _ := has_fedType cat (has_sourceType cat id _) (cat.has_getOrAny _)
  cuts _ _ := fedType_cuts
  again {a i g} wired single same data cut := by
    have given : ∀ {g' w}, SameFeed id (slotKey "arg" i) a.graph g' →
        a.graph.wireInto? id (slotKey "arg" i) = some w →
          sourceType lang id (slotKey "arg" i) g' w = sourceType lang id (slotKey "arg" i) a.graph w :=
      fun same _ => same.sourceType wired lang _
    refine fedType_again wired single given same (fun _ => ?_) cut
    -- the declared type is the one that was found and noted
    obtain ⟨n, hn, noted⟩ := data
    show lang.types.getOrAny (g.node? id >>= (·.text? (slotKey "typeName" i))) = _
    rw [hn]
    exact (has_fedType cat (has_sourceType cat id _) (cat.has_getOrAny _)).typeAt noted

/-- Type one slot. -/
def typeSlot (id : NodeId) (outStem : String) (τ : Adapted → Nat → Adapted × DataType)
    (a : Adapted) (i : Nat) : Adapted :=
  retypeOutput id (τ a i).1 (slotKey outStem i) (slotKey "typeName" i) (τ a i).2

theorem adaptRange_eq_typeSlot (lang : Language) (id : NodeId) :
    adaptRange lang id = typeSlot id "val" (rangeType lang id) :=
  funext fun a => funext fun i => adaptRange_eq lang id a i

theorem adaptParam_eq_typeSlot (lang : Language) (id : NodeId) :
    adaptParam lang id = typeSlot id "out" (paramType lang id) :=
  funext fun a => funext fun i => adaptParam_eq lang id a i

/-- A slot shows a type of the table, and would be typed the same again. -/
def SlotTyped (lang : Language) (id : NodeId) (outStem : String)
    (τ : Adapted → Nat → Adapted × DataType) (g : Graph) (i : Nat) : Prop :=
  ∃ t, lang.types.Has t ∧ g.At id (·.Shows (slotKey outStem i) (slotKey "typeName" i) t) ∧
    ∀ cut, τ ⟨g, cut⟩ i = (⟨g, cut⟩, t)

/-- A node has a number of pairs and a data entry, and its first slots are typed. -/
structure Slotted (lang : Language) (id : NodeId) (s : SlotPair)
    (τ : Adapted → Nat → Adapted × DataType) (count : Nat) (key : String) (value : Option Json)
    (typed : Nat) (g : Graph) : Prop where
  wired : g.WellWired
  node : g.At id fun n => s.Holds lang.types.any.socket count n ∧ n.data.get? key = value
  typed : ∀ i < typed, SlotTyped lang id s.outStem τ g i

section Run

variable {lang : Language} {id : NodeId} {s : SlotPair} {τ : Adapted → Nat → Adapted × DataType}
  {count typed : Nat} {key : String} {value : Option Json} {a : Adapted} {g : Graph} {i j : Nat}

/-- The inputs of pairs take one wire. -/
theorem Slotted.single (h : Slotted lang id s τ count key value typed g) (hi : i < count) :
    (g.incoming id (slotKey s.inStem i)).length ≤ 1 := by
  obtain ⟨n, hn, holds, -⟩ := h.node
  have input : g.input? id (slotKey s.inStem i) = some (s.input lang.types.any.socket i) := by
    unfold Graph.input?
    rw [hn]
    exact holds.input? hi
  exact h.wired.input_single input rfl

/-- Taking the type of a slot leaves the nodes alone, and the wires into other inputs. -/
theorem SlotTyping.sameFeed (rule : SlotTyping lang id s.inStem τ) (a : Adapted) (hij : i ≠ j) :
    SameFeed id (slotKey s.inStem j) a.graph (τ a i).1.graph := by
  rcases rule.cuts a i with e | ⟨w, hw, e⟩
  · rw [e]
    exact .refl ..
  · rw [e]
    refine SameFeed.sever fun same => hij ?_
    obtain ⟨-, -, there⟩ := mem_incoming.1 (mem_incoming_of_wireInto? hw)
    exact slotKey_injective (there.symm.trans same)

theorem SlotTyping.node? (rule : SlotTyping lang id s.inStem τ) (a : Adapted) (i : Nat)
    (j : NodeId) : (τ a i).1.graph.node? j = a.graph.node? j := by
  rcases rule.cuts a i with e | ⟨w, -, e⟩ <;> rw [e]
  rfl

theorem SlotTyping.wired (rule : SlotTyping lang id s.inStem τ) (h : a.graph.WellWired) (i : Nat) :
    (τ a i).1.graph.WellWired := by
  rcases rule.cuts a i with e | ⟨w, -, e⟩ <;> rw [e]
  · exact h
  · exact h.cut w

theorem SlotTyping.nodeAt (rule : SlotTyping lang id s.inStem τ) {P : Node → Prop}
    (h : a.graph.At id P) (i : Nat) : (τ a i).1.graph.At id P := by
  obtain ⟨n, hn, hp⟩ := h
  exact ⟨n, (rule.node? a i id).trans hn, hp⟩

/-- Typing a slot keeps the slots before it typed. -/
theorem SlotTyping.keep (rule : SlotTyping lang id s.inStem τ)
    (h : Slotted lang id s τ count key value i a.graph) (hi : i < count) (hj : j < i) :
    SlotTyped lang id s.outStem τ (typeSlot id s.outStem τ a i).graph j := by
  obtain ⟨t, has, shows, again⟩ := h.typed j hj
  have kept : (typeSlot id s.outStem τ a i).graph.At id
      (·.Shows (slotKey s.outStem j) (slotKey "typeName" j) t) := by
    refine (rule.nodeAt shows i).retypeOutput fun n hn => hn.retype ?_ ?_ _
    · exact fun e => hj.ne' (slotKey_injective e)
    · exact fun e => hj.ne' (slotKey_injective e)
  have found : τ a j = (a, t) := again a.cut
  refine ⟨t, has, kept, fun cut => ?_⟩
  have same : SameFeed id (slotKey s.inStem j) (τ a j).1.graph
      (typeSlot id s.outStem τ a i).graph := by
    rw [found]
    exact (rule.sameFeed a hj.ne').trans (.retypeOutput (rule.wired h.wired i) ..)
  have repeated := rule.again h.wired (h.single (hj.trans hi)) same
    (kept.mono fun n hn => by rw [found]; exact hn.data) cut
  rwa [found] at repeated

/-- A slot that has been typed would be typed the same. -/
theorem SlotTyping.typed_self (rule : SlotTyping lang id s.inStem τ)
    (h : Slotted lang id s τ count key value i a.graph) (hi : i < count) :
    SlotTyped lang id s.outStem τ (typeSlot id s.outStem τ a i).graph i := by
  have shown : (typeSlot id s.outStem τ a i).graph.At id
      (·.Shows (slotKey s.outStem i) (slotKey "typeName" i) (τ a i).2) :=
    (rule.nodeAt h.node i).retypeOutput fun n _ => n.shows_retype ..
  refine ⟨(τ a i).2, rule.has a i, shown, ?_⟩
  exact rule.again h.wired (h.single hi) (.retypeOutput (rule.wired h.wired i) ..)
    (shown.mono fun n hn => hn.data)

/-- Typing one slot. -/
theorem SlotTyping.step (rule : SlotTyping lang id s.inStem τ) (apart : s.Apart)
    (hc : count ≤ Decimal.maxCount) (hkey : ∀ i, slotKey "typeName" i ≠ key)
    (h : Slotted lang id s τ count key value i a.graph) (hi : i < count) :
    Slotted lang id s τ count key value (i + 1) (typeSlot id s.outStem τ a i).graph where
  wired := by
    obtain ⟨n, hn, -⟩ := rule.nodeAt h.node i
    have start := adapting_refl (rule.wired h.wired i) hn
    exact (start.retypeOutput _ _ _).wired
  node := by
    refine (rule.nodeAt h.node i).retypeOutput ?_
    rintro n ⟨holds, data⟩
    constructor
    · exact holds.retype apart (by omega) _ _
    · unfold Node.retype
      rw [Node.get?_set, if_neg (hkey i)]
      exact data
  typed j hj := by
    rcases Nat.lt_succ_iff_lt_or_eq.1 hj with hlt | rfl
    · exact rule.keep h hi hlt
    · exact rule.typed_self h hi

/-- Typing the slots one after the other. -/
theorem SlotTyping.slotted (rule : SlotTyping lang id s.inStem τ) (apart : s.Apart)
    (hc : count ≤ Decimal.maxCount) (hkey : ∀ i, slotKey "typeName" i ≠ key)
    (h : Slotted lang id s τ count key value 0 a.graph) :
    Slotted lang id s τ count key value count
      ((List.range count).foldl (typeSlot id s.outStem τ) a).graph := by
  rw [range_eq_between]
  exact foldl_between (P := fun i (b : Adapted) => Slotted lang id s τ count key value i b.graph)
    (Nat.zero_le count) (fun i b hi hb => rule.step apart hc hkey hb hi) h

/-- Bringing the pairs to a count, before any is typed. -/
theorem slotted_resizeSlots (apart : s.Apart) {present : Nat} (hp : present ≤ Decimal.maxCount)
    (hc : count ≤ Decimal.maxCount) (hkey : ∀ i, slotKey "typeName" i ≠ key)
    (wired : a.graph.WellWired)
    (h : a.graph.At id fun n => s.Holds lang.types.any.socket present n ∧ n.data.get? key = value) :
    Slotted lang id s τ count key value 0
      (resizeSlots lang id s.inStem s.inTitle s.outStem s.outTitle count a).graph where
  wired := by
    obtain ⟨n, hn, ⟨socket, lists⟩, -⟩ := h
    have ins : Numbered s.inStem n.inputs.keys present := by
      rw [lists.keys_inputs]
      exact numbered_row (fun _ => rfl) apart.ins hp
    have outs : Numbered s.outStem n.outputs.keys present := by
      rw [lists.keys_outputs]
      exact numbered_row (fun _ => rfl) apart.outs hp
    obtain ⟨_, _, -, -, resized⟩ :=
      (adapting_refl wired hn).resizeSlots lang s.inTitle s.outTitle hc ins outs
    exact resized.wired
  node := h.resizeSlots apart hp hc hkey
  typed i hi := absurd hi i.not_lt_zero

/-- When all slots are typed, the outputs have the types that the data name. -/
theorem Slotted.lists (h : Slotted lang id s τ count key value count g) :
    g.At id fun n => n.Lists (s.inputs lang.types.any.socket count)
      (s.outputs (fun i => (n.typeAt lang.types (slotKey "typeName" i)).socket) count) ∧
        n.data.get? key = value := by
  obtain ⟨n, hn, ⟨socket, lists⟩, data⟩ := h.node
  refine ⟨n, hn, ?_, data⟩
  have declared : ∀ i < count,
      socket i = (n.typeAt lang.types (slotKey "typeName" i)).socket := by
    intro i hi
    obtain ⟨t, has, shown, -⟩ := h.typed i hi
    have shows := shown.of_node? hn
    have port : n.output? (slotKey s.outStem i) = some (s.output socket i) :=
      lists.output? (List.mem_append_right _ (mem_row _ hi))
    rw [has.typeAt shows.data]
    exact Tag.value.inj (shows.tag _ port)
  rwa [SlotPair.outputs_congr declared] at lists

end Run

/-! ### Loops and definitions -/

section Rules

variable {lang : Language} {id : NodeId} {a : Adapted} {n : Node} {present : Nat}

theorem typeName_ne_numArgs (i : Nat) : slotKey "typeName" i ≠ "numArgs" :=
  Program.slotKey_ne (by decide) i

/-- Adapting a loop. -/
theorem slotted_adaptForLoop (cat : lang.types.Catalogued) (wired : a.graph.WellWired)
    (hn : a.graph.node? id = some n) (hp : present ≤ Decimal.maxCount)
    (holds : SlotPair.loop.Holds lang.types.any.socket present n) :
    Slotted lang id .loop (rangeType lang id) ((n.count? "numArgs").getD 1) "numArgs"
      (some (.num (.int ((n.count? "numArgs").getD 1)))) ((n.count? "numArgs").getD 1)
      (adaptForLoop lang id a n).graph := by
  have hc := n.count?_getD_le "numArgs" (d := 1) (by decide)
  unfold adaptForLoop
  dsimp only
  rw [adaptRange_eq_typeSlot]
  refine (slotTyping_range cat id).slotted SlotPair.loop_apart hc typeName_ne_numArgs
    (slotted_resizeSlots SlotPair.loop_apart hp hc typeName_ne_numArgs ?_ ?_)
  · exact ((adapting_refl wired hn).edit fun m => m.samePorts_set _ _).wired
  · refine At.edit (P := SlotPair.loop.Holds lang.types.any.socket present) ⟨n, hn, holds⟩ ?_
    intro m hm
    exact ⟨hm.of_samePorts (m.samePorts_set _ _), by rw [Node.get?_set, if_pos rfl]⟩

/-- Adapting a definition. -/
theorem slotted_adaptDefinition (cat : lang.types.Catalogued) (wired : a.graph.WellWired)
    (hn : a.graph.node? id = some n) (hp : present ≤ Decimal.maxCount)
    (holds : SlotPair.params.Holds lang.types.any.socket present n) :
    Slotted lang id .params (paramType lang id) ((n.count? "numArgs").getD 0) "numArgs"
      (n.data.get? "numArgs") ((n.count? "numArgs").getD 0) (adaptDefinition lang id a n).graph := by
  have hc := n.count?_getD_le "numArgs" (Nat.zero_le _)
  unfold adaptDefinition
  dsimp only
  rw [adaptParam_eq_typeSlot]
  exact (slotTyping_param cat id).slotted SlotPair.params_apart hc typeName_ne_numArgs
    (slotted_resizeSlots SlotPair.params_apart hp hc typeName_ne_numArgs wired
      ⟨n, hn, holds, rfl⟩)

end Rules

end FlowScript
