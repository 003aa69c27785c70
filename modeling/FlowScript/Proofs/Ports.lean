import FlowScript.Proofs.Wiring

/-!
# Ports of new and growing nodes

What the operations on one node do to its ports.  Data edits leave them alone, and adding a port
whose key is free makes the node grow.

* `Node.Shaped`: the numbered slots of a kind have no gaps;
* `Node.foldl_nextInput`, `Node.foldl_nextOutput`, `Node.foldl_nextPair`: growing by slots up to a
  count;
* `Node.equip_keyed_shaped`: a new node has its ports in place and no gaps.
-/

namespace FlowScript

namespace Node

/-! ### Data edits -/

section Data

variable (n : Node) (key : String) (value : Json)

@[simp] theorem set_id : (n.set key value).id = n.id := rfl
@[simp] theorem set_component : (n.set key value).component = n.component := rfl
@[simp] theorem set_inputs : (n.set key value).inputs = n.inputs := rfl
@[simp] theorem set_outputs : (n.set key value).outputs = n.outputs := rfl

@[simp] theorem unset_id : (n.unset key).id = n.id := rfl
@[simp] theorem unset_component : (n.unset key).component = n.component := rfl
@[simp] theorem unset_inputs : (n.unset key).inputs = n.inputs := rfl
@[simp] theorem unset_outputs : (n.unset key).outputs = n.outputs := rfl

/-- Another node with the same number, component and ports. -/
def SamePorts (n n' : Node) : Prop :=
  n'.id = n.id ∧ n'.component = n.component ∧ n'.inputs = n.inputs ∧ n'.outputs = n.outputs

theorem samePorts_set : n.SamePorts (n.set key value) := ⟨rfl, rfl, rfl, rfl⟩

theorem samePorts_unset : n.SamePorts (n.unset key) := ⟨rfl, rfl, rfl, rfl⟩

theorem samePorts_setDefault : n.SamePorts (n.setDefault key value) := by
  unfold setDefault
  split <;> exact ⟨rfl, rfl, rfl, rfl⟩

theorem samePorts_setLiteral (default : Option String) :
    n.SamePorts (n.setLiteral key default) := by
  unfold setLiteral
  split
  · exact ⟨rfl, rfl, rfl, rfl⟩
  · exact n.samePorts_setDefault key _

end Data

theorem SamePorts.trans {a b c : Node} (hab : a.SamePorts b) (hbc : b.SamePorts c) :
    a.SamePorts c :=
  ⟨hbc.1.trans hab.1, hbc.2.1.trans hab.2.1, hbc.2.2.1.trans hab.2.2.1, hbc.2.2.2.trans hab.2.2.2⟩

theorem SamePorts.grows {n n' : Node} (h : n.SamePorts n') : n.Grows n' where
  id_eq := h.1
  component_eq := h.2.1
  input hp := by
    unfold input? at hp ⊢
    rwa [h.2.2.1]
  output hp := by
    unfold output? at hp ⊢
    rwa [h.2.2.2]

theorem SamePorts.keyed {n n' : Node} (h : n.SamePorts n') (hn : n.Keyed) : n'.Keyed where
  input hp := hn.input (by unfold input? at hp ⊢; rwa [h.2.2.1] at hp)
  output hp := hn.output (by unfold output? at hp ⊢; rwa [h.2.2.2] at hp)

/-! ### Adding a port -/

theorem input?_addInput (n : Node) (p : Port) (key : String) :
    (n.addInput p).input? key = if p.key = key then some p else n.input? key :=
  OrderedMap.get?_insert n.inputs p.key key p

theorem output?_addOutput (n : Node) (p : Port) (key : String) :
    (n.addOutput p).output? key = if p.key = key then some p else n.output? key :=
  OrderedMap.get?_insert n.outputs p.key key p

theorem Keyed.addInput {n : Node} (h : n.Keyed) {p : Port} (hp : p.direction = .input) :
    (n.addInput p).Keyed where
  input := by
    intro key port hport
    rw [input?_addInput] at hport
    split_ifs at hport with hk
    · cases hport
      exact ⟨hk, hp⟩
    · exact h.input hport
  output hport := h.output hport

theorem Keyed.addOutput {n : Node} (h : n.Keyed) {p : Port} (hp : p.direction = .output) :
    (n.addOutput p).Keyed where
  input hport := h.input hport
  output := by
    intro key port hport
    rw [output?_addOutput] at hport
    split_ifs at hport with hk
    · cases hport
      exact ⟨hk, hp⟩
    · exact h.output hport

theorem Keyed.addPort {n : Node} (h : n.Keyed) (p : Port) : (n.addPort p).Keyed := by
  unfold Node.addPort
  split
  · exact h.addInput ‹_›
  · exact h.addOutput ‹_›

theorem grows_addInput {n : Node} {p : Port} (hp : p.key ∉ n.inputs.keys) :
    n.Grows (n.addInput p) where
  id_eq := rfl
  component_eq := rfl
  input := by
    intro key port hport
    have hmem : key ∈ n.inputs.keys := OrderedMap.mem_keys_iff.2 ⟨port, hport⟩
    rw [input?_addInput, if_neg (by rintro rfl; exact hp hmem), hport]
  output hport := hport

theorem grows_addOutput {n : Node} {p : Port} (hp : p.key ∉ n.outputs.keys) :
    n.Grows (n.addOutput p) where
  id_eq := rfl
  component_eq := rfl
  input hport := hport
  output := by
    intro key port hport
    have hmem : key ∈ n.outputs.keys := OrderedMap.mem_keys_iff.2 ⟨port, hport⟩
    rw [output?_addOutput, if_neg (by rintro rfl; exact hp hmem), hport]

theorem keys_addInput {n : Node} {p : Port} :
    (n.addInput p).inputs.keys =
      if p.key ∈ n.inputs.keys then n.inputs.keys else n.inputs.keys ++ [p.key] :=
  OrderedMap.keys_insert n.inputs p.key p

theorem keys_addOutput {n : Node} {p : Port} :
    (n.addOutput p).outputs.keys =
      if p.key ∈ n.outputs.keys then n.outputs.keys else n.outputs.keys ++ [p.key] :=
  OrderedMap.keys_insert n.outputs p.key p

@[simp] theorem addInput_outputs (n : Node) (p : Port) : (n.addInput p).outputs = n.outputs := rfl

@[simp] theorem addOutput_inputs (n : Node) (p : Port) : (n.addOutput p).inputs = n.inputs := rfl

end Node

/-- Ports under their own keys are counted by their keys. -/
theorem Numbered.slotCount_eq {stem : String} {ports : OrderedMap String Port} {n : Nat}
    (h : Numbered stem ports.keys n)
    (hk : ∀ {key port}, ports.get? key = some port → port.key = key) :
    slotCount stem ports.values = n := by
  have same : ports.values.map Port.key = ports.keys := by
    unfold OrderedMap.values OrderedMap.keys
    rw [List.map_map]
    apply List.map_congr_left
    rintro ⟨key, port⟩ hm
    exact hk (OrderedMap.get?_eq_some_iff.2 hm)
  calc slotCount stem ports.values
      = ((ports.values.map Port.key).filter (isSlot stem)).length := by
        rw [List.filter_map, List.length_map]
        rfl
    _ = n := by rw [same, h, List.length_map, List.length_range]

/-! ### Slots added in turn -/

/-- A fold over the numbers between two bounds, by a fact that each number takes to the next. -/
theorem foldl_between {α : Type} {f : α → Nat → α} {P : Nat → α → Prop} {a b : Nat} {x : α}
    (hab : a ≤ b) (step : ∀ i x, i < b → P i x → P (i + 1) (f x i)) (hx : P a x) :
    P b ((between a b).foldl f x) := by
  obtain ⟨d, rfl⟩ := Nat.exists_eq_add_of_le hab
  unfold between
  rw [Nat.add_sub_cancel_left]
  clear hab
  induction d generalizing a x with
  | zero => exact hx
  | succ d ih =>
    rw [List.range'_succ, List.foldl_cons]
    have hstep := step a x (by omega) hx
    have := ih (a := a + 1) hstep (fun i y hi hy => step i y (by omega) hy)
    rwa [show a + 1 + d = a + (d + 1) by omega] at this

theorem between_eq_nil {a b : Nat} (h : b ≤ a) : between a b = [] := by
  unfold between
  rw [Nat.sub_eq_zero_of_le h]
  rfl

theorem range_eq_between (n : Nat) : List.range n = between 0 n := by
  unfold between
  rw [Nat.sub_zero, List.range_eq_range']

namespace Node

/-- The slots of two families, one on each side, both end at a number. -/
structure Paired (inStem outStem : String) (n : Node) (count : Nat) : Prop where
  keyed : n.Keyed
  input : Numbered inStem n.inputs.keys count
  output : Numbered outStem n.outputs.keys count

theorem Keyed.slotCount_inputs {n : Node} (h : n.Keyed) {stem : String} {count : Nat}
    (hs : Numbered stem n.inputs.keys count) : slotCount stem n.inputs.values = count :=
  hs.slotCount_eq fun hp => (h.input hp).1

theorem Keyed.slotCount_outputs {n : Node} (h : n.Keyed) {stem : String} {count : Nat}
    (hs : Numbered stem n.outputs.keys count) : slotCount stem n.outputs.values = count :=
  hs.slotCount_eq fun hp => (h.output hp).1

/-- The next input of a family. -/
theorem numbered_addInput {n : Node} {stem : String} {i : Nat} (h : Numbered stem n.inputs.keys i)
    (hi : i ≤ Decimal.maxCount) {p : Port} (hp : p.key = slotKey stem i) :
    Numbered stem (n.addInput p).inputs.keys (i + 1) ∧ p.key ∉ n.inputs.keys := by
  have fresh : p.key ∉ n.inputs.keys := by
    rw [hp, h.mem_iff hi]
    exact lt_irrefl i
  rw [keys_addInput, if_neg fresh, hp]
  exact ⟨h.append_next hi, hp ▸ fresh⟩

/-- The next output of a family. -/
theorem numbered_addOutput {n : Node} {stem : String} {i : Nat}
    (h : Numbered stem n.outputs.keys i) (hi : i ≤ Decimal.maxCount) {p : Port}
    (hp : p.key = slotKey stem i) :
    Numbered stem (n.addOutput p).outputs.keys (i + 1) ∧ p.key ∉ n.outputs.keys := by
  have fresh : p.key ∉ n.outputs.keys := by
    rw [hp, h.mem_iff hi]
    exact lt_irrefl i
  rw [keys_addOutput, if_neg fresh, hp]
  exact ⟨h.append_next hi, hp ▸ fresh⟩

/-- An input of another name leaves a family alone. -/
theorem numbered_addInput_other {n : Node} {stem : String} {i : Nat}
    (h : Numbered stem n.inputs.keys i) {p : Port} (hp : isSlot stem p.key = false) :
    Numbered stem (n.addInput p).inputs.keys i := by
  rw [keys_addInput]
  split_ifs
  · exact h
  · exact h.append_other hp

/-- An output of another name leaves a family alone. -/
theorem numbered_addOutput_other {n : Node} {stem : String} {i : Nat}
    (h : Numbered stem n.outputs.keys i) {p : Port} (hp : isSlot stem p.key = false) :
    Numbered stem (n.addOutput p).outputs.keys i := by
  rw [keys_addOutput]
  split_ifs
  · exact h
  · exact h.append_other hp

/-- Adding the next pair of slots, and any data edit after it. -/
theorem Paired.addPair {inStem outStem : String} {n n' : Node} {i : Nat}
    (h : n.Paired inStem outStem i) (hi : i ≤ Decimal.maxCount) {p q : Port}
    (hp : p.key = slotKey inStem i) (hpd : p.direction = .input)
    (hq : q.key = slotKey outStem i) (hqd : q.direction = .output)
    (hn : ((n.addInput p).addOutput q).SamePorts n') :
    n.Grows n' ∧ n'.Paired inStem outStem (i + 1) := by
  obtain ⟨hin, freshIn⟩ := numbered_addInput h.input hi hp
  obtain ⟨hout, freshOut⟩ :=
    numbered_addOutput (n := n.addInput p) (by simpa using h.output) hi hq
  refine ⟨((grows_addInput freshIn).trans (grows_addOutput freshOut)).trans hn.grows,
    hn.keyed ((h.keyed.addInput hpd).addOutput hqd), ?_, ?_⟩
  · rw [hn.2.2.1]
    exact hin
  · rw [hn.2.2.2]
    exact hout

/-- Slots added in turn on the input side, each with data edits. -/
theorem foldl_nextInput {stem : String} {f : Node → Nat → Node} {n : Node} {a b : Nat}
    (hf : ∀ (n : Node) (i : Nat), ∃ p : Port, p.key = slotKey stem i ∧ p.direction = .input ∧
      (n.addInput p).SamePorts (f n i))
    (hab : a ≤ b) (hb : b ≤ Decimal.maxCount) (hn : n.Keyed)
    (h : Numbered stem n.inputs.keys a) :
    n.Grows ((between a b).foldl f n) ∧ ((between a b).foldl f n).Keyed ∧
      Numbered stem ((between a b).foldl f n).inputs.keys b := by
  refine foldl_between (P := fun i m => n.Grows m ∧ m.Keyed ∧ Numbered stem m.inputs.keys i) hab
    ?_ ⟨Grows.refl n, hn, h⟩
  rintro i m hi ⟨grows, keyed, numbered⟩
  obtain ⟨p, hp, hd, hs⟩ := hf m i
  obtain ⟨next, fresh⟩ := numbered_addInput numbered (by omega) hp
  refine ⟨(grows.trans (grows_addInput fresh)).trans hs.grows, hs.keyed (keyed.addInput hd), ?_⟩
  rw [hs.2.2.1]
  exact next

/-- Slots added in turn on the output side, each with data edits. -/
theorem foldl_nextOutput {stem : String} {f : Node → Nat → Node} {n : Node} {a b : Nat}
    (hf : ∀ (n : Node) (i : Nat), ∃ p : Port, p.key = slotKey stem i ∧ p.direction = .output ∧
      (n.addOutput p).SamePorts (f n i))
    (hab : a ≤ b) (hb : b ≤ Decimal.maxCount) (hn : n.Keyed)
    (h : Numbered stem n.outputs.keys a) :
    n.Grows ((between a b).foldl f n) ∧ ((between a b).foldl f n).Keyed ∧
      Numbered stem ((between a b).foldl f n).outputs.keys b := by
  refine foldl_between (P := fun i m => n.Grows m ∧ m.Keyed ∧ Numbered stem m.outputs.keys i) hab
    ?_ ⟨Grows.refl n, hn, h⟩
  rintro i m hi ⟨grows, keyed, numbered⟩
  obtain ⟨p, hp, hd, hs⟩ := hf m i
  obtain ⟨next, fresh⟩ := numbered_addOutput numbered (by omega) hp
  refine ⟨(grows.trans (grows_addOutput fresh)).trans hs.grows, hs.keyed (keyed.addOutput hd), ?_⟩
  rw [hs.2.2.2]
  exact next

/-- Slots added in turn on both sides, each pair with data edits. -/
theorem foldl_nextPair {inStem outStem : String} {f : Node → Nat → Node} {n : Node} {a b : Nat}
    (hf : ∀ (n : Node) (i : Nat), ∃ p q : Port, p.key = slotKey inStem i ∧ p.direction = .input ∧
      q.key = slotKey outStem i ∧ q.direction = .output ∧
      ((n.addInput p).addOutput q).SamePorts (f n i))
    (hab : a ≤ b) (hb : b ≤ Decimal.maxCount) (h : n.Paired inStem outStem a) :
    n.Grows ((between a b).foldl f n) ∧ ((between a b).foldl f n).Paired inStem outStem b := by
  refine foldl_between (P := fun i m => n.Grows m ∧ Paired inStem outStem m i) hab
    ?_ ⟨Grows.refl n, h⟩
  rintro i m hi ⟨grows, paired⟩
  obtain ⟨p, q, hp, hpd, hq, hqd, hs⟩ := hf m i
  obtain ⟨more, next⟩ := paired.addPair (by omega) hp hpd hq hqd hs
  exact ⟨grows.trans more, next⟩

/-! ### New nodes -/

/-- The numbered slots of a node of a kind have no gaps, and paired families end together. -/
def Shaped (kind : Kind) (n : Node) : Prop :=
  match kind with
  | .forLoop => ∃ count, n.Paired "range" "val" count
  | .definition => ∃ count, n.Paired "arg" "out" count
  | .sequence => ∃ count, Numbered "out" n.outputs.keys count
  | .assignment => ∃ count, Numbered "inValue" n.inputs.keys count
  | _ => True

/-- Slots are read off the keys of the ports. -/
theorem Shaped.of_keys {kind : Kind} {n m : Node} (h : n.Shaped kind) (keyed : m.Keyed)
    (hi : m.inputs.keys = n.inputs.keys) (ho : m.outputs.keys = n.outputs.keys) :
    m.Shaped kind := by
  cases kind with
  | forLoop | definition =>
    obtain ⟨count, paired⟩ := h
    exact ⟨count, keyed, hi ▸ paired.input, ho ▸ paired.output⟩
  | sequence =>
    obtain ⟨count, numbered⟩ := h
    exact ⟨count, ho ▸ numbered⟩
  | assignment =>
    obtain ⟨count, numbered⟩ := h
    exact ⟨count, hi ▸ numbered⟩
  | _ => trivial

theorem keyed_bare {n : Node} (hi : n.inputs = .empty) (ho : n.outputs = .empty) : n.Keyed where
  input hp := by
    unfold input? at hp
    rw [hi] at hp
    cases hp
  output hp := by
    unfold output? at hp
    rw [ho] at hp
    cases hp

theorem Keyed.foldl {α : Type} {f : Node → α → Node} (hf : ∀ n x, n.Keyed → (f n x).Keyed)
    (l : List α) {n : Node} (h : n.Keyed) : (l.foldl f n).Keyed := by
  induction l generalizing n with
  | nil => exact h
  | cons x rest ih => exact ih (hf n x h)

theorem Keyed.addFlowIn {n : Node} (h : n.Keyed) : n.addFlowIn.Keyed := h.addInput rfl

theorem Keyed.addFlowOut {n : Node} (h : n.Keyed) : n.addFlowOut.Keyed := h.addOutput rfl

theorem Keyed.addParam {n : Node} (h : n.Keyed) (types : TypeTable) (param : FieldDesc) :
    (Node.addParam types n param).Keyed := by
  unfold Node.addParam
  split
  · exact h
  · exact ((samePorts_setLiteral n _ _).keyed h).addInput rfl

/-- A new node with a count of slot pairs. -/
theorem Paired.foldl_addSlotPair {inStem outStem : String} {n : Node}
    (h : n.Paired inStem outStem 0) {count : Nat} (hc : count ≤ Decimal.maxCount)
    (types : TypeTable) (inTitle outTitle : String) :
    ((List.range count).foldl (Node.addSlotPair types inStem inTitle outStem outTitle) n).Paired
      inStem outStem count := by
  rw [range_eq_between]
  refine (foldl_nextPair (fun n i => ?_) (Nat.zero_le count) hc h).2
  exact ⟨_, _, rfl, rfl, rfl, rfl, ⟨rfl, rfl, rfl, rfl⟩⟩

/-- A new node with a count of exits. -/
theorem Keyed.foldl_addExit {n : Node} (hn : n.Keyed) (h : Numbered "out" n.outputs.keys 0)
    {count : Nat} (hc : count ≤ Decimal.maxCount) :
    ((List.range count).foldl Node.addExit n).Keyed ∧
      Numbered "out" ((List.range count).foldl Node.addExit n).outputs.keys count := by
  rw [range_eq_between]
  refine (foldl_nextOutput (fun n i => ?_) (Nat.zero_le count) hc hn h).2
  exact ⟨_, rfl, rfl, ⟨rfl, rfl, rfl, rfl⟩⟩

/-- A new node with a count of assigned fields. -/
theorem Keyed.foldl_addField {n : Node} (hn : n.Keyed) (h : Numbered "inValue" n.inputs.keys 0)
    {count : Nat} (hc : count ≤ Decimal.maxCount) (types : TypeTable) :
    ((List.range count).foldl (Node.addField types) n).Keyed ∧
      Numbered "inValue" ((List.range count).foldl (Node.addField types) n).inputs.keys count := by
  rw [range_eq_between]
  refine (foldl_nextInput (fun n i => ?_) (Nat.zero_le count) hc hn h).2
  exact ⟨_, rfl, rfl, ⟨rfl, rfl, rfl, rfl⟩⟩

/-- Every kind gives its ports in their places and its slots without gaps. -/
theorem equip_keyed_shaped (lang : Language) (lib : Library) (kind : Kind) {n : Node}
    (hi : n.inputs = .empty) (ho : n.outputs = .empty) :
    (equip lang lib kind n).Keyed ∧ (equip lang lib kind n).Shaped kind := by
  have bare : n.Keyed := keyed_bare hi ho
  have noInputs : ∀ stem, Numbered stem n.inputs.keys 0 := fun stem => by rw [hi]; rfl
  have noOutputs : ∀ stem, Numbered stem n.outputs.keys 0 := fun stem => by rw [ho]; rfl
  cases kind with
  | literal type =>
    refine ⟨?_, trivial⟩
    unfold equip
    dsimp only
    split
    · exact bare
    · exact (samePorts_setLiteral _ _ _).keyed (bare.addOutput rfl)
  | call function sideEffect =>
    refine ⟨?_, trivial⟩
    unfold equip
    dsimp only
    split
    · exact bare
    · refine Keyed.foldl (fun n param hn => hn.addParam _ param) _ ?_
      split_ifs
      · exact bare.addFlowIn.addFlowOut
      · exact (bare.addOutput rfl).addFlowIn.addFlowOut
      · exact bare
      · exact bare.addOutput rfl
  | topLevelCode => exact ⟨bare.addFlowOut, trivial⟩
  | code => exact ⟨bare.addFlowIn.addFlowOut, trivial⟩
  | sequence =>
    have all := bare.addFlowIn.foldl_addExit (noOutputs "out")
      (n.count?_getD_le "numExits" (Nat.zero_le _))
    exact ⟨all.1, _, all.2⟩
  | declaration => exact ⟨bare.addOutput rfl, trivial⟩
  | definition =>
    have start : n.addFlowOut.Paired "arg" "out" 0 :=
      ⟨bare.addFlowOut, noInputs "arg", numbered_addOutput_other (noOutputs "out") rfl⟩
    have all := start.foldl_addSlotPair (n.count?_getD_le "numArgs" (Nat.zero_le _)) lang.types
      "Argument" "Output"
    exact ⟨all.keyed, _, all⟩
  | record => exact ⟨bare, trivial⟩
  | branch =>
    exact ⟨((bare.addFlowIn.addFlowOut.addOutput rfl).addOutput rfl).addInput rfl, trivial⟩
  | whileLoop => exact ⟨(bare.addFlowIn.addFlowOut.addOutput rfl).addInput rfl, trivial⟩
  | forLoop =>
    have start : ((n.addFlowIn.addFlowOut.addOutput (.flowOut "body" "body")).set "numArgs"
        (.num (.int ((n.count? "numArgs").getD 1)))).Paired "range" "val" 0 :=
      ⟨(samePorts_set _ _ _).keyed (bare.addFlowIn.addFlowOut.addOutput rfl),
        numbered_addInput_other (noInputs "range") rfl,
        numbered_addOutput_other (numbered_addOutput_other (noOutputs "val") rfl) rfl⟩
    have all := start.foldl_addSlotPair (n.count?_getD_le "numArgs" (d := 1) (by decide)) lang.types
      "Range" "Value"
    exact ⟨all.keyed, _, all⟩
  | moduleCall =>
    refine ⟨?_, trivial⟩
    unfold equip
    dsimp only
    split
    · exact bare
    · exact Keyed.foldl (fun n p hn => hn.addPort p) _ bare
  | moduleInput => exact ⟨bare.addOutput rfl, trivial⟩
  | moduleOutput => exact ⟨bare.addInput rfl, trivial⟩
  | flowEntry => exact ⟨bare.addOutput rfl, trivial⟩
  | flowExit => exact ⟨bare.addInput rfl, trivial⟩
  | assignment =>
    have notSlot : isSlot "inValue" "inVariable" = false := rfl
    have withIn := numbered_addInput_other (noInputs "inValue") (p := .flowIn flowInKey) rfl
    have start := numbered_addInput_other withIn
      (p := .input "inVariable" "Variable" lang.types.any.socket) notSlot
    have ports : (((n.addFlowIn.addFlowOut).addInput
        (.input "inVariable" "Variable" lang.types.any.socket)).addOutput
          (resultPort (n.typeAt lang.types "typeName") true)).Keyed :=
      (bare.addFlowIn.addFlowOut.addInput rfl).addOutput rfl
    have all := ports.foldl_addField start (n.count?_getD_le "numArgs" (Nat.zero_le _)) lang.types
    exact ⟨all.1, _, all.2⟩

/-- Another node with the same number and component. -/
def SameName (n m : Node) : Prop := m.id = n.id ∧ m.component = n.component

theorem SamePorts.sameName {n m k : Node} (h : m.SamePorts k) (hm : n.SameName m) : n.SameName k :=
  ⟨h.1.trans hm.1, h.2.1.trans hm.2⟩

theorem SameName.foldl {α : Type} {f : Node → α → Node} {n m : Node}
    (hf : ∀ k x, n.SameName k → n.SameName (f k x)) (l : List α) (h : n.SameName m) :
    n.SameName (l.foldl f m) :=
  List.foldlRecOn l f (motive := fun k => n.SameName k) h fun k hk x _ => hf k x hk

theorem SameName.addParam {n m : Node} (h : n.SameName m) (types : TypeTable) (param : FieldDesc) :
    n.SameName (Node.addParam types m param) := by
  unfold Node.addParam
  split
  · exact h
  · exact (samePorts_setLiteral m _ _).sameName h

theorem SameName.addPort {n m : Node} (h : n.SameName m) (p : Port) : n.SameName (m.addPort p) := by
  unfold Node.addPort
  split
  · exact h
  · exact h

/-- Giving a node its ports keeps its number and component. -/
theorem sameName_equip (lang : Language) (lib : Library) (kind : Kind) (n : Node) :
    n.SameName (equip lang lib kind n) := by
  have same : n.SameName n := ⟨rfl, rfl⟩
  cases kind with
  | literal type =>
    unfold equip
    dsimp only
    split
    · exact same
    · exact (samePorts_setLiteral _ _ _).sameName ⟨rfl, rfl⟩
  | call function sideEffect =>
    unfold equip
    dsimp only
    split
    · exact same
    · refine SameName.foldl (fun m param hm => hm.addParam _ param) _ ?_
      split_ifs <;> exact ⟨rfl, rfl⟩
  | moduleCall =>
    unfold equip
    dsimp only
    split
    · exact same
    · exact SameName.foldl (fun m p hm => hm.addPort p) _ same
  | sequence => exact SameName.foldl (f := addExit) (fun m i hm => hm) _ ⟨rfl, rfl⟩
  | definition =>
    exact SameName.foldl (f := addSlotPair lang.types "arg" "Argument" "out" "Output")
      (fun m i hm => hm) _ ⟨rfl, rfl⟩
  | forLoop =>
    exact SameName.foldl (f := addSlotPair lang.types "range" "Range" "val" "Value")
      (fun m i hm => hm) _ ⟨rfl, rfl⟩
  | assignment => exact SameName.foldl (f := addField lang.types) (fun m i hm => hm) _ ⟨rfl, rfl⟩
  | _ => exact ⟨rfl, rfl⟩

end Node

end FlowScript
