import FlowScript.Proofs.Fields

/-!
# Numbered slots after ports were removed

Slots are counted and not looked at one by one: adapting a node adds the slots from the number that
are there up to the number that is asked for, and removes those from the latter up to the former.
After ports were removed by hand this leaves the slots without gaps in some cases only, and an
output that is put in the place of another is not compared with the wires at it.

* `Exact`, `Mendable`: the slots of a family are those below a number; what there must be before;
* `Node.resize`: what bringing the number of pairs to a count does to a node;
* `Graph.SameExit`, `Graph.Regiven`: the wires that leave by an output are left alone, or those that
  do not fit its new tag are cut;
* `Graph.Mended`: what the rules of loops and definitions leave of any node;
* `Graph.adapt_mends_iff`: whatever the operations, when the slots are as asked for afterwards, and
  when all wires at the node fit.
-/

namespace FlowScript

open FlowScript.Graph

/-! ### Families of slots -/

/-- The slots of a family among some keys are those below a number. -/
def Exact (stem : String) (keys : List String) (count : Nat) : Prop :=
  ∀ key, key ∈ keys ∧ isSlot stem key = true ↔ ∃ i < count, key = slotKey stem i

/-- No slot is missing below both the number of slots and the number that is asked for, and there is
none from both numbers on. -/
structure Mendable (stem : String) (keys : List String) (present required : Nat) : Prop where
  below : ∀ i < min present required, slotKey stem i ∈ keys
  above : ∀ key ∈ keys, isSlot stem key = true → ∃ i < max present required, key = slotKey stem i

/-- The slots from one number up to another are added, or those from the other up to the one
removed. -/
theorem exact_iff_mendable {stem : String} {keys keys' : List String} {present required : Nat}
    (hr : required ≤ Decimal.maxCount)
    (canonical : ∀ key ∈ keys, isSlot stem key = true →
      ∃ i < Decimal.maxCount, key = slotKey stem i)
    (canonical' : ∀ key ∈ keys', isSlot stem key = true →
      ∃ i < Decimal.maxCount, key = slotKey stem i)
    (resized : ∀ i, slotKey stem i ∈ keys' ↔
      ¬ (required ≤ i ∧ i < present) ∧ (present ≤ i ∧ i < required ∨ slotKey stem i ∈ keys)) :
    Exact stem keys' required ↔ Mendable stem keys present required := by
  constructor
  · intro exact
    refine ⟨fun i hi => ?_, fun key mem slot => ?_⟩
    · have there := ((exact _).2 ⟨i, by omega, rfl⟩).1
      exact ((resized i).1 there).2.resolve_left (by omega)
    · obtain ⟨i, hi, rfl⟩ := canonical key mem slot
      refine ⟨i, ?_, rfl⟩
      by_contra beyond
      obtain ⟨j, hj, e⟩ := (exact _).1 ⟨(resized i).2 ⟨by omega, .inr mem⟩, slot⟩
      have := slotKey_injective e
      omega
  · intro mendable key
    constructor
    · rintro ⟨mem, slot⟩
      obtain ⟨i, -, rfl⟩ := canonical' key mem slot
      refine ⟨i, ?_, rfl⟩
      obtain ⟨kept, new | old⟩ := (resized i).1 mem
      · exact new.2
      · obtain ⟨j, hj, e⟩ := mendable.above _ old slot
        have := slotKey_injective e
        omega
    · rintro ⟨i, hi, rfl⟩
      refine ⟨(resized i).2 ⟨by omega, ?_⟩, isSlot_slotKey stem (by omega)⟩
      rcases le_or_gt present i with new | old
      · exact .inl ⟨new, hi⟩
      · exact .inr (mendable.below i (by omega))

namespace Node

/-! ### Pairs that are added and removed -/

/-- Remove a numbered pair of slots. -/
def shrink (s : SlotPair) (n : Node) (i : Nat) : Node :=
  ((n.dropInput (slotKey s.inStem i)).dropOutput (slotKey s.outStem i)).unset (slotKey "typeName" i)

/-- Bring the number of pairs from one count to another. -/
def resize (lang : Language) (s : SlotPair) (present required : Nat) (n : Node) : Node :=
  (between required present).foldl (shrink s)
    ((between present required).foldl
      (growSlot lang s.inStem s.inTitle s.outStem s.outTitle) n)

variable (lang : Language) (s : SlotPair) (present required : Nat) (n : Node)

theorem input?_resize (i : Nat) :
    (n.resize lang s present required).input? (slotKey s.inStem i) =
      if required ≤ i ∧ i < present then none
      else if present ≤ i ∧ i < required then some (s.input lang.types.any.socket i)
      else n.input? (slotKey s.inStem i) := by
  have shrunk := look_foldl_between (f := shrink s) (fun n i => n.input? (slotKey s.inStem i))
    (fun _ => none) fun n j i => (input?_dropInput ..).trans (if_congr slotKey_inj rfl rfl)
  have grown := look_foldl_between (f := growSlot lang s.inStem s.inTitle s.outStem s.outTitle)
    (fun n i => n.input? (slotKey s.inStem i)) (fun i => some (s.input lang.types.any.socket i)) ?_
  · exact (shrunk ..).trans (if_congr .rfl rfl (grown ..))
  · intro n j i
    exact (input?_addInput ..).trans
      (ite_slotKey (s.input lang.types.any.socket) (fun _ => rfl) _ j i)

theorem output?_resize (i : Nat) :
    (n.resize lang s present required).output? (slotKey s.outStem i) =
      if required ≤ i ∧ i < present then none
      else if present ≤ i ∧ i < required then some (s.output (fun _ => lang.types.any.socket) i)
      else n.output? (slotKey s.outStem i) := by
  have shrunk := look_foldl_between (f := shrink s) (fun n i => n.output? (slotKey s.outStem i))
    (fun _ => none) fun n j i => (output?_dropOutput ..).trans (if_congr slotKey_inj rfl rfl)
  have grown := look_foldl_between (f := growSlot lang s.inStem s.inTitle s.outStem s.outTitle)
    (fun n i => n.output? (slotKey s.outStem i))
    (fun i => some (s.output (fun _ => lang.types.any.socket) i)) ?_
  · exact (shrunk ..).trans (if_congr .rfl rfl (grown ..))
  · intro n j i
    exact (output?_addOutput ..).trans
      (ite_slotKey (s.output fun _ => lang.types.any.socket) (fun _ => rfl) _ j i)

/-- The tag of the output of a pair before it is typed: that for anything if the pair is added, also
in the place of an output that was there. -/
def tagFound (i : Nat) : Option Tag :=
  if present ≤ i ∧ i < required then some lang.types.any.tag
  else (n.output? (slotKey s.outStem i)).map (·.tag)

theorem tagFound_eq {port : Port} {i : Nat}
    (h : (n.resize lang s present required).output? (slotKey s.outStem i) = some port) :
    ¬ (required ≤ i ∧ i < present) ∧ n.tagFound lang s present required i = some port.tag := by
  rw [output?_resize] at h
  unfold tagFound
  split_ifs at h with gone new
  · cases h
    exact ⟨gone, if_pos new⟩
  · refine ⟨gone, ?_⟩
    rw [if_neg new, h]
    rfl

end Node

namespace Graph

variable {lang : Language} {id : NodeId} {key : String} {g g' g'' : Graph} {w : Wire}

/-! ### Wires that leave by an output -/

/-- A wire leads from an output of a node to another node. -/
structure Leaves (id : NodeId) (key : String) (w : Wire) : Prop where
  source : w.source = id
  sourcePort : w.sourcePort = key
  target : id ≠ w.target

/-- The wires that leave by an output are the same, and so are all other nodes. -/
structure SameExit (id : NodeId) (key : String) (g g' : Graph) : Prop where
  wires : ∀ w, Leaves id key w → (w ∈ g'.wires ↔ w ∈ g.wires)
  others : ∀ j, id ≠ j → g'.node? j = g.node? j

namespace SameExit

theorem refl (id : NodeId) (key : String) (g : Graph) : SameExit id key g g :=
  ⟨fun _ _ => .rfl, fun _ _ => rfl⟩

theorem trans (h : SameExit id key g g') (h' : SameExit id key g' g'') : SameExit id key g g'' :=
  ⟨fun w hw => (h'.wires w hw).trans (h.wires w hw),
    fun j hj => (h'.others j hj).trans (h.others j hj)⟩

theorem consumerTakes (h : SameExit id key g g') (hw : Leaves id key w) (tag : Tag) :
    g'.consumerTakes w tag = g.consumerTakes w tag :=
  consumerTakes_congr (h.others _ hw.target)

theorem edit (id : NodeId) (key : String) (g : Graph) (f : Node → Node) :
    SameExit id key g (g.modifyNode id f) :=
  ⟨fun _ _ => .rfl, fun _ hj => node?_modifyNode_of_ne g hj f⟩

/-- Cutting wires that do not leave by the output. -/
theorem cutAll {ws : List Wire} (hw : ∀ w ∈ ws, ¬ Leaves id key w) :
    SameExit id key g (g.cutAll ws) := by
  refine ⟨fun w leaves => ?_, fun j _ => node?_cutAll g j ws⟩
  rw [wires_cutAll, List.mem_filter, decide_eq_true_iff]
  exact ⟨And.left, fun mem => ⟨mem, fun cut => hw w cut leaves⟩⟩

theorem dropInput (k : String) : SameExit id key g (g.dropInput id k).1 :=
  (edit id key g _).trans (cutAll fun _ hw leaves => leaves.target (mem_incoming.1 hw).2.1.symm)

theorem dropOutput {k : String} (hk : k ≠ key) : SameExit id key g (g.dropOutput id k).1 :=
  (edit id key g _).trans (cutAll fun _ hw leaves =>
    hk ((mem_outgoing.1 hw).2.2.symm.trans leaves.sourcePort))

theorem setOutputTag {k : String} (hk : k ≠ key) (tag : Tag) :
    SameExit id key g (g.setOutputTag id k tag).1 := by
  obtain ⟨stale, e, unfit⟩ := setOutputTag_eq g id k tag
  rw [e]
  exact (edit id key g _).trans (cutAll fun w hw leaves =>
    hk ((mem_outgoing.1 (unfit w hw).1).2.2.symm.trans leaves.sourcePort))

/-- Cutting a wire into the node. -/
theorem sever (hw : w.target = id) : SameExit id key g (g.cut w) := by
  have into : ∀ v ∈ [w], ¬ Leaves id key v := by
    intro v hv leaves
    rw [List.mem_singleton.1 hv] at leaves
    exact leaves.target hw.symm
  exact cutAll into

end SameExit

/-- Of the wires at an output that is retagged, those stay that fit the new tag, and all of them if
it has that tag already. -/
theorem mem_wires_setOutputTag {port : Port} (hp : g.output? id key = some port) (tag : Tag)
    (hw : Leaves id key w) :
    w ∈ (g.setOutputTag id key tag).1.wires ↔
      w ∈ g.wires ∧ (port.tag = tag ∨ g.consumerTakes w tag = true) := by
  by_cases same : port.tag = tag
  · rw [setOutputTag_eq_self fun port' hp' => by rw [hp] at hp'; cases hp'; exact same]
    exact ⟨fun mem => ⟨mem, .inl same⟩, And.left⟩
  · unfold Graph.setOutputTag
    rw [show (g.node? id >>= (·.output? key)) = some port from hp]
    dsimp only
    rw [if_neg same, wires_cutAll, List.mem_filter, decide_eq_true_iff, List.mem_filter,
      consumerTakes_congr (node?_modifyNode_of_ne g hw.target _)]
    constructor
    · rintro ⟨mem, kept⟩
      refine ⟨mem, .inr ?_⟩
      by_contra refused
      rw [Bool.not_eq_true] at refused
      exact kept ⟨mem_outgoing.2 ⟨mem, hw.source, hw.sourcePort⟩, congrArg not refused⟩
    · rintro ⟨mem, fits⟩
      refine ⟨mem, fun stale => ?_⟩
      rw [fits.resolve_left same] at stale
      cases stale.2

/-- An output has a tag that may be new, and the wires at it that fit the new one. -/
structure Regiven (id : NodeId) (key : String) (g g' : Graph) : Prop where
  others : ∀ j, id ≠ j → g'.node? j = g.node? j
  output : ∀ {port}, g.output? id key = some port → ∃ q, g'.output? id key = some q ∧
    ∀ w, Leaves id key w →
      (w ∈ g'.wires ↔ w ∈ g.wires ∧ (port.tag = q.tag ∨ g.consumerTakes w q.tag = true))

namespace Regiven

/-- An output that is as it was. -/
theorem of_same (same : SameExit id key g g') (output : g'.output? id key = g.output? id key) :
    Regiven id key g g' where
  others := same.others
  output {port} hp := ⟨port, output.trans hp, fun w hw =>
    (same.wires w hw).trans ⟨fun mem => ⟨mem, .inl rfl⟩, And.left⟩⟩

/-- Changes elsewhere before. -/
theorem after (same : SameExit id key g g') (output : g'.output? id key = g.output? id key)
    (h : Regiven id key g' g'') : Regiven id key g g'' where
  others j hj := (h.others j hj).trans (same.others j hj)
  output {port} hp := by
    obtain ⟨q, hq, wires⟩ := h.output (output.trans hp)
    refine ⟨q, hq, fun w hw => ?_⟩
    rw [wires w hw, same.wires w hw, same.consumerTakes hw]

/-- Changes elsewhere afterwards. -/
theorem before (h : Regiven id key g g') (same : SameExit id key g' g'')
    (output : g''.output? id key = g'.output? id key) : Regiven id key g g'' where
  others j hj := (same.others j hj).trans (h.others j hj)
  output {port} hp := by
    obtain ⟨q, hq, wires⟩ := h.output hp
    exact ⟨q, output.trans hq, fun w hw => (same.wires w hw).trans (wires w hw)⟩

end Regiven

theorem output?_data {f : Node → Node} (same : ∀ n : Node, n.SamePorts (f n)) (j : NodeId)
    (k : String) : (g.modifyNode id f).output? j k = g.output? j k := by
  by_cases hj : id = j
  · subst hj
    cases hn : g.node? id with
    | none => rw [modifyNode_of_none hn]
    | some n =>
      rw [output?_modifyNode_self hn]
      unfold Graph.output? Node.output?
      rw [hn, (same n).2.2.2]
      rfl
  · exact output?_modifyNode_of_ne hj

theorem output?_retypeOutput (a : Adapted) (key dataKey : String) (t : DataType) (k : String) :
    (retypeOutput id a key dataKey t).graph.output? id k =
      if key = k then (a.graph.output? id k).map fun port => { port with tag := t.tag }
      else a.graph.output? id k := by
  have nodes : (a.graph.setOutputTag id key t.tag).1.output? id k =
      (a.graph.modifyNode id (·.retagOutput key t.tag)).output? id k := by
    unfold Graph.output? node?
    rw [nodes_setOutputTag]
  refine ((output?_data (fun n => n.samePorts_set ..) id k).trans nodes).trans ?_
  rw [output?_retagOutput]
  simp only [true_and]

theorem regiven_retypeOutput (a : Adapted) (key dataKey : String) (t : DataType) :
    Regiven id key a.graph (retypeOutput id a key dataKey t).graph where
  others := (Adapted.Changes.refl.retypeOutput key dataKey t).less.2
  output {port} hp := by
    refine ⟨{ port with tag := t.tag }, ?_, fun w hw => mem_wires_setOutputTag hp t.tag hw⟩
    rw [output?_retypeOutput, if_pos rfl, hp]
    rfl

/-! ### Typing slots -/

section Typing

variable {τ : Adapted → Nat → Adapted × DataType} {inStem outStem : String} {a : Adapted}
  (cuts : ∀ a i, (τ a i).1 = a ∨ ∃ w, a.graph.wireInto? id (slotKey inStem i) = some w ∧
    (τ a i).1 = a.sever w)
include cuts

/-- Finding the type of a slot cuts no wire that leaves the node, and changes no node. -/
theorem sameExit_typing (a : Adapted) (i : Nat) (key : String) :
    SameExit id key a.graph (τ a i).1.graph ∧ ∀ j, (τ a i).1.graph.node? j = a.graph.node? j := by
  rcases cuts a i with e | ⟨w, hw, e⟩ <;> rw [e]
  · exact ⟨.refl .., fun _ => rfl⟩
  · exact ⟨.sever (mem_incoming.1 (mem_incoming_of_wireInto? hw)).2.1, fun _ => rfl⟩

theorem output?_typing (a : Adapted) (i : Nat) (key : String) :
    (τ a i).1.graph.output? id key = a.graph.output? id key := by
  unfold Graph.output?
  rw [(sameExit_typing cuts a i key).2]

/-- Typing a slot leaves the output of another one alone. -/
theorem typeSlot_other (a : Adapted) {i j : Nat} (hij : i ≠ j) :
    SameExit id (slotKey outStem j) a.graph (typeSlot id outStem τ a i).graph ∧
      (typeSlot id outStem τ a i).graph.output? id (slotKey outStem j) =
        a.graph.output? id (slotKey outStem j) := by
  have other : slotKey outStem i ≠ slotKey outStem j := fun e => hij (slotKey_injective e)
  refine ⟨(sameExit_typing cuts a i _).1.trans
    ((SameExit.setOutputTag other _).trans (.edit ..)), ?_⟩
  exact (output?_retypeOutput ..).trans ((if_neg other).trans (output?_typing cuts a i _))

theorem foldl_typeSlot_other (is : List Nat) (a : Adapted) {j : Nat} (hj : j ∉ is) :
    SameExit id (slotKey outStem j) a.graph (is.foldl (typeSlot id outStem τ) a).graph ∧
      (is.foldl (typeSlot id outStem τ) a).graph.output? id (slotKey outStem j) =
        a.graph.output? id (slotKey outStem j) := by
  induction is generalizing a with
  | nil => exact ⟨.refl .., rfl⟩
  | cons i is ih =>
    obtain ⟨ne, rest⟩ := not_or.1 (List.mem_cons.not.1 hj)
    obtain ⟨same', output'⟩ := ih (typeSlot id outStem τ a i) rest
    obtain ⟨same, output⟩ := typeSlot_other cuts a (Ne.symm ne)
    exact ⟨same.trans same', output'.trans output⟩

/-- Each slot is typed once. -/
theorem regiven_foldl_typeSlot (outStem : String) {is : List Nat} (once : is.Nodup) (a : Adapted)
    (j : Nat) :
    Regiven id (slotKey outStem j) a.graph (is.foldl (typeSlot id outStem τ) a).graph := by
  induction is generalizing a with
  | nil => exact .of_same (.refl ..) rfl
  | cons i is ih =>
    obtain ⟨fresh, rest⟩ := List.nodup_cons.1 once
    by_cases hij : i = j
    · subst hij
      obtain ⟨same, output⟩ := foldl_typeSlot_other cuts is (typeSlot id outStem τ a i) fresh
      refine Regiven.before ?_ same output
      exact .after (sameExit_typing cuts a i _).1 (output?_typing cuts a i _)
        (regiven_retypeOutput ..)
    · obtain ⟨same, output⟩ := typeSlot_other cuts a hij
      exact .after same output (ih rest _)

/-- Typing slots changes no input, and adds and removes no output. -/
theorem At.foldl_typeSlot (outStem : String) {n : Node} (hn : a.graph.node? id = some n)
    (is : List Nat) :
    (is.foldl (typeSlot id outStem τ) a).graph.At id fun m =>
      m.inputs = n.inputs ∧ ∀ key, (m.output? key).isSome = (n.output? key).isSome := by
  refine At.foldl is ⟨n, hn, rfl, fun _ => rfl⟩ fun b i _ hb => ?_
  obtain ⟨k, hk, inputs, outputs⟩ := hb
  have there : (τ b i).1.graph.At id (· = k) :=
    ⟨k, ((sameExit_typing cuts b i "").2 id).trans hk, rfl⟩
  refine there.retypeOutput ?_
  rintro _ rfl
  refine ⟨inputs, fun key => ?_⟩
  rw [← outputs key]
  show ((Node.retagOutput _ _ _).output? key).isSome = _
  rw [Node.output?_retagOutput]
  split_ifs
  · rw [Option.isSome_map]
  · rfl

end Typing

/-! ### Loops and definitions -/

section Pairs

variable {s : SlotPair} {a : Adapted} {n : Node}

theorem node?_foldl_shrinkSlot (hn : a.graph.node? id = some n) (is : List Nat) :
    (is.foldl (shrinkSlot id s.inStem s.outStem) a).graph.node? id =
      some (is.foldl (Node.shrink s) n) := by
  induction is generalizing a n with
  | nil => exact hn
  | cons i is ih =>
    have shrunk : (shrinkSlot id s.inStem s.outStem a i).graph.At id (· = n.shrink s i) :=
      At.shrinkSlot (P := (· = n)) ⟨n, hn, rfl⟩ (by rintro _ rfl; rfl)
    obtain ⟨_, hm, rfl⟩ := shrunk
    exact ih hm

theorem node?_resizeSlots (lang : Language) (s : SlotPair) (hn : a.graph.node? id = some n)
    (required : Nat) :
    (resizeSlots lang id s.inStem s.inTitle s.outStem s.outTitle required a).graph.node? id =
      some (n.resize lang s (slotCount s.inStem n.inputs.values) required) := by
  unfold resizeSlots
  rw [hn]
  refine node?_foldl_shrinkSlot ?_ _
  show (a.graph.modifyNode id _).node? id = _
  rw [node?_modifyNode_self, hn]
  rfl

/-- Resizing leaves the wires at the outputs that are not removed. -/
theorem sameExit_resizeSlots (lang : Language) (s : SlotPair) (hn : a.graph.node? id = some n)
    {required i : Nat} (left : ¬ (required ≤ i ∧ i < slotCount s.inStem n.inputs.values)) :
    SameExit id (slotKey s.outStem i) a.graph
      (resizeSlots lang id s.inStem s.inTitle s.outStem s.outTitle required a).graph := by
  unfold resizeSlots
  rw [hn]
  dsimp only
  refine List.foldlRecOn _ (shrinkSlot id s.inStem s.outStem) (motive := fun b : Adapted =>
    SameExit id (slotKey s.outStem i) a.graph b.graph) (.edit ..) fun b hb j hj => ?_
  have other : slotKey s.outStem j ≠ slotKey s.outStem i := fun e => by
    rw [slotKey_injective e] at hj
    exact left (mem_between.1 hj)
  exact hb.trans ((SameExit.dropInput _).trans ((SameExit.dropOutput other).trans (.edit ..)))

end Pairs

/-- Ports from one number up to another are added, and those from the other up to the one
removed. -/
def Resized (present required : Nat) (old new : Nat → Option Port) : Prop :=
  ∀ i, (new i).isSome = true ↔ ¬ (required ≤ i ∧ i < present) ∧
    (present ≤ i ∧ i < required ∨ (old i).isSome = true)

/-- What the rules of loops and definitions leave: both families are resized, and of the wires at an
output those that fit its tag, or all if the tag was found there. -/
structure Mended (lang : Language) (s : SlotPair) (present required : Nat) (id : NodeId) (n : Node)
    (g g' : Graph) : Prop where
  node : g'.At id fun m =>
    Resized present required (n.input? <| slotKey s.inStem ·) (m.input? <| slotKey s.inStem ·) ∧
      Resized present required (n.output? <| slotKey s.outStem ·) (m.output? <| slotKey s.outStem ·)
  exits : ∀ {i q}, g'.output? id (slotKey s.outStem i) = some q →
    ∀ w, Leaves id (slotKey s.outStem i) w → (w ∈ g'.wires ↔ w ∈ g.wires ∧
      (n.tagFound lang s present required i = some q.tag ∨ g.consumerTakes w q.tag = true))

section Mended

variable {s : SlotPair} {a : Adapted} {n : Node} {present required : Nat}

theorem resized_of_eq (put : Nat → Port) {old new : Nat → Option Port}
    (h : ∀ i, new i = if required ≤ i ∧ i < present then none
      else if present ≤ i ∧ i < required then some (put i) else old i) :
    Resized present required old new := by
  intro i
  rw [h i]
  split_ifs with gone added
  · simp [gone]
  · simp [gone, added]
  · simp [gone, added]

/-- Resizing the pairs and then typing each of them. -/
theorem mended_typeSlots (lang : Language) (s : SlotPair)
    {τ : Adapted → Nat → Adapted × DataType}
    (cuts : ∀ a i, (τ a i).1 = a ∨ ∃ w, a.graph.wireInto? id (slotKey s.inStem i) = some w ∧
      (τ a i).1 = a.sever w)
    (hn : a.graph.node? id = some n) (required : Nat) :
    Mended lang s (slotCount s.inStem n.inputs.values) required id n a.graph
      ((List.range required).foldl (typeSlot id s.outStem τ)
        (resizeSlots lang id s.inStem s.inTitle s.outStem s.outTitle required a)).graph := by
  have resized := node?_resizeSlots lang s hn required
  have node := At.foldl_typeSlot cuts s.outStem resized (List.range required)
  constructor
  · obtain ⟨m, hm, inputs, outputs⟩ := node
    refine ⟨m, hm, fun i => ?_, fun i => ?_⟩
    · have same : m.input? (slotKey s.inStem i) = (n.resize lang s
          (slotCount s.inStem n.inputs.values) required).input? (slotKey s.inStem i) := by
        unfold Node.input?
        rw [inputs]
      dsimp only
      rw [same]
      exact resized_of_eq _ (n.input?_resize lang s _ _) i
    · dsimp only
      rw [outputs]
      exact resized_of_eq _ (n.output?_resize lang s _ _) i
  · intro i q hq w hw
    obtain ⟨m, hm, -, outputs⟩ := node
    obtain ⟨m', hm', shown⟩ := node?_isSome_of_output? hq
    cases hm.symm.trans hm'
    -- the output was there before it was typed
    have there := outputs (slotKey s.outStem i)
    rw [shown] at there
    obtain ⟨port, hport⟩ := Option.isSome_iff_exists.1 there.symm
    obtain ⟨left, found⟩ := Node.tagFound_eq lang s _ required n hport
    have same := sameExit_resizeSlots lang s hn left
    have given := regiven_foldl_typeSlot cuts s.outStem (List.nodup_range (n := required))
      (resizeSlots lang id s.inStem s.inTitle s.outStem s.outTitle required a) i
    have before : (resizeSlots lang id s.inStem s.inTitle s.outStem s.outTitle required
        a).graph.output? id (slotKey s.outStem i) = some port := by
      unfold Graph.output?
      rw [resized]
      exact hport
    obtain ⟨q', hq', wires⟩ := given.output before
    cases hq.symm.trans hq'
    rw [wires w hw, same.wires w hw, same.consumerTakes hw, found, Option.some.injEq]

theorem mended_adaptDefinition (lang : Language) (hn : a.graph.node? id = some n) :
    Mended lang .params (slotCount "arg" n.inputs.values) (n.slotsAsked .definition) id n a.graph
      (adaptDefinition lang id a n).graph := by
  unfold adaptDefinition
  rw [adaptParam_eq_typeSlot]
  exact mended_typeSlots lang .params (τ := paramType lang id) (fun _ _ => fedType_cuts) hn _

theorem mended_adaptForLoop (lang : Language) (hn : a.graph.node? id = some n) :
    Mended lang .loop (slotCount "range" n.inputs.values) (n.slotsAsked .forLoop) id n a.graph
      (adaptForLoop lang id a n).graph := by
  -- noting the count changes no port and no other node
  generalize hb : (a.update fun g => g.modifyNode id fun m =>
    m.set "numArgs" (.num (.int ((n.count? "numArgs").getD 1)))) = b
  have noted : b.graph.node? id =
      some (n.set "numArgs" (.num (.int ((n.count? "numArgs").getD 1)))) := by
    rw [← hb]
    show (a.graph.modifyNode id _).node? id = _
    rw [node?_modifyNode_self, hn]
    rfl
  have mended := mended_typeSlots lang .loop (τ := rangeType lang id) (fun _ _ => fedType_cuts)
    noted (n.slotsAsked .forLoop)
  unfold adaptForLoop
  dsimp only
  rw [adaptRange_eq_typeSlot, hb]
  refine ⟨mended.node, fun hq w hw => ?_⟩
  have same : SameExit id w.sourcePort a.graph b.graph := hb ▸ .edit ..
  have leaves : Leaves id w.sourcePort w := ⟨hw.source, rfl, hw.target⟩
  refine (mended.exits hq w hw).trans ?_
  rw [same.wires w leaves, same.consumerTakes leaves]
  exact .rfl

end Mended

/-! ### Wires that do not fit -/

/-- A wire joins two ports that do not fit. -/
def Mismatched (g : Graph) (w : Wire) : Prop :=
  ∃ producer consumer, g.output? w.source w.sourcePort = some producer ∧
    g.input? w.target w.targetPort = some consumer ∧
    producer.tag.compatible consumer.tag = false

theorem consumerTakes_eq {consumer : Port}
    (hc : g.input? w.target w.targetPort = some consumer) (tag : Tag) :
    g.consumerTakes w tag = tag.compatible consumer.tag := by
  unfold Graph.consumerTakes
  rw [show (g.node? w.target >>= (·.input? w.targetPort)) = some consumer from hc]

/-- Hitched ports of which one is for flow fit. -/
theorem compatible_of_flow {producer consumer : Tag}
    (same : producer = .flow ↔ consumer = .flow) (flow : producer = .flow) :
    producer.compatible consumer = true := by
  rw [flow, same.1 flow]
  rfl

/-- A port for anything takes all values. -/
theorem compatible_any {producer : Tag} {o : Socket} (any : o.isAny = true)
    (value : producer ≠ .flow) : producer.compatible (.value o) = true := by
  cases producer with
  | flow => exact absurd rfl value
  | value p =>
    unfold Tag.compatible Socket.fits
    simp [any]

end Graph

/-- The ports beside the slots are for flow. -/
structure SlotPair.Flows (s : SlotPair) : Prop where
  ins : ∀ p ∈ s.ins, p.tag = .flow
  outs : ∀ p ∈ s.outs, p.tag = .flow

theorem SlotPair.loop_flows : SlotPair.loop.Flows := ⟨by decide, by decide⟩

theorem SlotPair.params_flows : SlotPair.params.Flows := ⟨by decide, by decide⟩

namespace Graph

section Fits

variable {lang : Language} {id : NodeId} {g g' : Graph} {kind : Kind} {s : SlotPair} {n m : Node}
  {present required : Nat}

/-- The inputs of a loop or a definition take whatever may be wired to them. -/
theorem compatible_of_input (cat : lang.types.Catalogued) (pairs : kind.Pairs lang s)
    (flows : s.Flows) {producer consumer : Port} (allowed : kind.AllowsInput lang consumer)
    (same : producer.tag = .flow ↔ consumer.tag = .flow) :
    producer.tag.compatible consumer.tag = true := by
  rcases (pairs.input consumer).1 allowed with other | ⟨i, -, rfl⟩
  · exact compatible_of_flow same (same.2 (flows.ins consumer other))
  · have value := Port.tag_input_ne_flow (slotKey s.inStem i) (slotTitle s.inTitle i)
      lang.types.any.socket
    exact compatible_any cat.isAny fun flow => value (same.1 flow)

/-- After the rule for loops or definitions, all wires at the node fit exactly if those fit that
leave by an output whose tag was found there. -/
theorem Mended.fits_iff (mended : Mended lang s present required id n g g')
    (cat : lang.types.Catalogued) (pairs : kind.Pairs lang s) (flows : s.Flows)
    (loose : g.Loose lang) (loose' : g'.Loose lang)
    (others : ∀ j, id ≠ j → g'.node? j = g.node? j) (hm : g'.node? id = some m)
    (hk : lang.kind? m.component = some kind) :
    (∀ w ∈ g'.wires, w.source = id ∨ w.target = id → ¬ g'.Mismatched w) ↔
      ∀ i q, m.output? (slotKey s.outStem i) = some q →
        n.tagFound lang s present required i = some q.tag →
          ∀ w ∈ g.outgoing id (slotKey s.outStem i), g.consumerTakes w q.tag = true := by
  have node := loose'.node hm hk
  have at_m : ∀ {key}, g'.output? id key = m.output? key := by
    intro key
    unfold Graph.output?
    rw [hm]
    rfl
  constructor
  · intro fits i q hq found w hw
    obtain ⟨mem, source, port⟩ := mem_outgoing.1 hw
    have leaves : Leaves id (slotKey s.outStem i) w :=
      ⟨source, port, fun e => (loose.wires w mem).1 (source.trans e)⟩
    have stays := (mended.exits (at_m.trans hq) w leaves).2 ⟨mem, .inl found⟩
    obtain ⟨-, producer, consumer, hp, hc, -⟩ := loose'.wires w stays
    by_contra refused
    rw [Bool.not_eq_true, ← consumerTakes_congr (others _ leaves.target), consumerTakes_eq hc]
      at refused
    refine fits w stays (.inl source) ⟨q, consumer, ?_, hc, refused⟩
    rw [source, port, at_m, hq]
  · rintro good w mem touches ⟨producer, consumer, hp, hc, unfit⟩
    obtain ⟨ne, producer', consumer', hp', hc', same⟩ := loose'.wires w mem
    cases hp.symm.trans hp'
    cases hc.symm.trans hc'
    have fits : producer.tag.compatible consumer.tag = true := by
      rcases touches with source | target
      · rw [source, at_m] at hp
        rcases (pairs.output producer).1 (node.output hp) with other | ⟨i, -, o, rfl⟩
        · exact compatible_of_flow same (flows.outs producer other)
        · have port : w.sourcePort = slotKey s.outStem i := (node.keyed.output hp).1.symm
          rw [port] at hp
          have leaves : Leaves id (slotKey s.outStem i) w := ⟨source, port, source ▸ ne⟩
          obtain ⟨old, found | takes⟩ := (mended.exits (at_m.trans hp) w leaves).1 mem
          · have takes := good i _ hp found w (mem_outgoing.2 ⟨old, source, port⟩)
            rwa [← consumerTakes_congr (others _ leaves.target), consumerTakes_eq hc] at takes
          · rwa [← consumerTakes_congr (others _ leaves.target), consumerTakes_eq hc] at takes
      · obtain ⟨k, hk', input⟩ := node?_isSome_of_input? hc
        rw [target, hm] at hk'
        cases hk'
        exact compatible_of_input cat pairs flows (node.input input) same
    rw [fits] at unfit
    cases unfit

/-- All wires at a sequence fit. -/
theorem fits_of_sequence (loose' : g'.Loose lang) (hm : g'.node? id = some m)
    (hk : lang.kind? m.component = some .sequence) :
    ∀ w ∈ g'.wires, w.source = id ∨ w.target = id → ¬ g'.Mismatched w := by
  rintro w mem touches ⟨producer, consumer, hp, hc, unfit⟩
  obtain ⟨-, producer', consumer', hp', hc', same⟩ := loose'.wires w mem
  cases hp.symm.trans hp'
  cases hc.symm.trans hc'
  have node := loose'.node hm hk
  have flow : producer.tag = .flow := by
    rcases touches with source | target
    · obtain ⟨k, hk', output⟩ := node?_isSome_of_output? hp
      rw [source, hm] at hk'
      cases hk'
      obtain ⟨i, -, rfl⟩ := node.output output
      rfl
    · obtain ⟨k, hk', input⟩ := node?_isSome_of_input? hc
      rw [target, hm] at hk'
      cases hk'
      have entry : consumer = .flowIn flowInKey := node.input input
      rw [same, entry]
      rfl
  rw [compatible_of_flow same flow] at unfit
  cases unfit

end Fits

end Graph

/-! ### Slots of all families -/

namespace Node

variable {lang : Language} {kind : Kind} {s : SlotPair} {n m : Node} {present required : Nat}

theorem mem_keys_inputs {key : String} : key ∈ n.inputs.keys ↔ (n.input? key).isSome = true := by
  rw [OrderedMap.mem_keys_iff, Option.isSome_iff_exists]
  rfl

theorem mem_keys_outputs {key : String} : key ∈ n.outputs.keys ↔ (n.output? key).isSome = true := by
  rw [OrderedMap.mem_keys_iff, Option.isSome_iff_exists]
  rfl

/-- The slots among the inputs have their own keys. -/
theorem Loose.canonical_inputs (loose : n.Loose lang kind) (pairs : kind.Pairs lang s) :
    ∀ key ∈ n.inputs.keys, isSlot s.inStem key = true →
      ∃ i < Decimal.maxCount, key = slotKey s.inStem i := by
  intro key mem slot
  obtain ⟨p, hp⟩ := OrderedMap.mem_keys_iff.1 mem
  have named := (loose.keyed.input hp).1
  rcases (pairs.input p).1 (loose.input hp) with other | ⟨i, hi, rfl⟩
  · rw [← named, pairs.apart.ins p other] at slot
    cases slot
  · exact ⟨i, hi, named.symm⟩

/-- The slots among the outputs have their own keys. -/
theorem Loose.canonical_outputs (loose : n.Loose lang kind) (pairs : kind.Pairs lang s) :
    ∀ key ∈ n.outputs.keys, isSlot s.outStem key = true →
      ∃ i < Decimal.maxCount, key = slotKey s.outStem i := by
  intro key mem slot
  obtain ⟨p, hp⟩ := OrderedMap.mem_keys_iff.1 mem
  have named := (loose.keyed.output hp).1
  rcases (pairs.output p).1 (loose.output hp) with other | ⟨i, hi, o, rfl⟩
  · rw [← named, pairs.apart.outs p other] at slot
    cases slot
  · exact ⟨i, hi, named.symm⟩

theorem Loose.canonical_exits (loose : n.Loose lang .sequence) :
    ∀ key ∈ n.outputs.keys, isSlot "out" key = true →
      ∃ i < Decimal.maxCount, key = slotKey "out" i := by
  intro key mem _
  obtain ⟨p, hp⟩ := OrderedMap.mem_keys_iff.1 mem
  obtain ⟨i, hi, rfl⟩ := loose.output hp
  exact ⟨i, hi, (loose.keyed.output hp).1.symm⟩

/-- How many slots a node has, as far as its rule counts them. -/
def slotsPresent (kind : Kind) (n : Node) : Nat :=
  match kind with
  | .forLoop => slotCount "range" n.inputs.values
  | .definition => slotCount "arg" n.inputs.values
  | .sequence => slotCount "out" n.outputs.values
  | _ => 0

/-- All families of slots are those below a number. -/
def ExactSlots (kind : Kind) (count : Nat) (n : Node) : Prop :=
  (∀ stem ∈ kind.inputStems, Exact stem n.inputs.keys count) ∧
    ∀ stem ∈ kind.outputStems, Exact stem n.outputs.keys count

/-- All families of slots can be mended by counting. -/
def MendableSlots (kind : Kind) (n : Node) : Prop :=
  (∀ stem ∈ kind.inputStems,
      Mendable stem n.inputs.keys (n.slotsPresent kind) (n.slotsAsked kind)) ∧
    ∀ stem ∈ kind.outputStems,
      Mendable stem n.outputs.keys (n.slotsPresent kind) (n.slotsAsked kind)

end Node

/-- The pairs of slots of a kind that has them. -/
def Kind.pair? : Kind → Option SlotPair
  | .forLoop => some .loop
  | .definition => some .params
  | _ => none

namespace Graph

variable {lang : Language} {id : NodeId} {g g' : Graph} {kind : Kind} {s : SlotPair} {n m : Node}
  {present required : Nat}

/-- After the rule for loops or definitions, both families are as asked for exactly if both could be
mended. -/
theorem Mended.exact_iff (mended : Mended lang s present required id n g g')
    (pairs : kind.Pairs lang s) (loose : n.Loose lang kind) (loose' : m.Loose lang kind)
    (hm : g'.node? id = some m) (hr : required ≤ Decimal.maxCount) :
    (Exact s.inStem m.inputs.keys required ∧ Exact s.outStem m.outputs.keys required) ↔
      Mendable s.inStem n.inputs.keys present required ∧
        Mendable s.outStem n.outputs.keys present required := by
  obtain ⟨inputs, outputs⟩ := mended.node.of_node? hm
  refine and_congr ?_ ?_
  · refine exact_iff_mendable hr (loose.canonical_inputs pairs) (loose'.canonical_inputs pairs) ?_
    intro i
    rw [Node.mem_keys_inputs, Node.mem_keys_inputs]
    exact inputs i
  · refine exact_iff_mendable hr (loose.canonical_outputs pairs) (loose'.canonical_outputs pairs) ?_
    intro i
    rw [Node.mem_keys_outputs, Node.mem_keys_outputs]
    exact outputs i

/-- What the rule for loops or definitions leaves, for both families and for the wires. -/
theorem Mended.mends_iff
    (mended : Mended lang s (n.slotsPresent kind) (n.slotsAsked kind) id n g g')
    (cat : lang.types.Catalogued) (pairs : kind.Pairs lang s) (flows : s.Flows)
    (pair : kind.pair? = some s)
    (stems : kind.inputStems = [s.inStem] ∧ kind.outputStems = [s.outStem])
    (loose : g.Loose lang) (loose' : g'.Loose lang)
    (others : ∀ j, id ≠ j → g'.node? j = g.node? j) (hn : g.node? id = some n)
    (hk : lang.kind? n.component = some kind) (hm : g'.node? id = some m)
    (hk' : lang.kind? m.component = some kind) :
    (m.ExactSlots kind (n.slotsAsked kind) ↔ n.MendableSlots kind) ∧
      ((∀ w ∈ g'.wires, w.source = id ∨ w.target = id → ¬ g'.Mismatched w) ↔
        ∀ s, kind.pair? = some s → ∀ i q, m.output? (slotKey s.outStem i) = some q →
          n.tagFound lang s (n.slotsPresent kind) (n.slotsAsked kind) i = some q.tag →
            ∀ w ∈ g.outgoing id (slotKey s.outStem i), g.consumerTakes w q.tag = true) := by
  constructor
  · unfold Node.ExactSlots Node.MendableSlots
    rw [stems.1, stems.2]
    simp only [List.mem_singleton, forall_eq]
    exact mended.exact_iff pairs (loose.node hn hk) (loose'.node hm hk') hm (n.slotsAsked_le kind)
  · rw [mended.fits_iff cat pairs flows loose loose' others hm hk', pair]
    simp only [Option.some.injEq, forall_eq']

/-- The exits of a sequence are resized. -/
theorem resized_adaptSequence {a : Adapted} (hn : a.graph.node? id = some n) :
    (adaptSequence id a n).graph.At id fun m =>
      Resized (n.slotsPresent .sequence) (n.slotsAsked .sequence) (n.output? <| slotKey "out" ·)
        (m.output? <| slotKey "out" ·) := by
  have grown : (a.graph.modifyNode id fun m => (between (n.slotsPresent .sequence)
      (n.slotsAsked .sequence)).foldl Node.addExit m).node? id =
        some ((between (n.slotsPresent .sequence) (n.slotsAsked .sequence)).foldl
          Node.addExit n) := by
    rw [node?_modifyNode_self, hn]
    rfl
  have dropped := node?_foldl_dropOutput (a := a.update fun g => g.modifyNode id fun m =>
    (between (n.slotsPresent .sequence) (n.slotsAsked .sequence)).foldl Node.addExit m) grown
    ((between (n.slotsAsked .sequence) (n.slotsPresent .sequence)).map (slotKey "out"))
  rw [List.foldl_map, List.foldl_map] at dropped
  refine ⟨_, dropped, resized_of_eq exitPort fun i => ?_⟩
  have shrunk := look_foldl_between (f := fun n i => n.dropOutput (slotKey "out" i))
    (fun n i => n.output? (slotKey "out" i)) (fun _ => none) fun n j i =>
      (Node.output?_dropOutput ..).trans (if_congr slotKey_inj rfl rfl)
  have added := look_foldl_between (f := Node.addExit) (fun n i => n.output? (slotKey "out" i))
    (fun i => some (exitPort i)) fun n j i =>
      (Node.output?_addOutput ..).trans (ite_slotKey exitPort (fun _ => rfl) _ j i)
  exact (shrunk ..).trans (if_congr .rfl rfl (added ..))

/-- Whatever the operations have done, removals of ports included, the slots of an adapted loop,
definition or sequence are those that its data ask for exactly if none was missing that counting
passes over and none was left beyond both counts; and all wires at it fit exactly if those fit that
leave by the outputs whose tags the typing finds as it gives them. -/
theorem adapt_mends_iff {patterns : PatternReader} {core : CoreDesc} {surface : SurfaceDesc}
    {extra : ExtraDesc} (loaded : Language.load patterns core surface extra = .ok lang)
    (name : String) {ops : List Operation}
    (ho : ∀ op ∈ ops, op.isRetag = false) (hn : (operated lang name ops).node? id = some n)
    (hk : lang.kind? n.component = some kind)
    (numbered : kind = .forLoop ∨ kind = .definition ∨ kind = .sequence) (lib : Library) :
    ∃ m, ((operated lang name ops).adapt lang id lib).1.node? id = some m ∧
      (m.ExactSlots kind (n.slotsAsked kind) ↔ n.MendableSlots kind) ∧
      ((∀ w ∈ ((operated lang name ops).adapt lang id lib).1.wires, w.source = id ∨ w.target = id →
          ¬ ((operated lang name ops).adapt lang id lib).1.Mismatched w) ↔
        ∀ s, kind.pair? = some s → ∀ i q, m.output? (slotKey s.outStem i) = some q →
          n.tagFound lang s (n.slotsPresent kind) (n.slotsAsked kind) i = some q.tag →
            ∀ w ∈ (operated lang name ops).outgoing id (slotKey s.outStem i),
              (operated lang name ops).consumerTakes w q.tag = true) := by
  have cat := Language.catalogued_of_load loaded
  have loose := loose_operated lang name ho
  generalize operated lang name ops = g at hn loose ⊢
  have loose' := loose.adapt id lib
  have trimmed := adapt_trimmed lang id g lib
  obtain ⟨m, hm, place⟩ := trimmed.node n hn
  have others := trimmed.others
  have hk' : lang.kind? m.component = some kind := place.2.1 ▸ hk
  refine ⟨m, hm, ?_⟩
  rw [adapt_eq_ruleFor lib hn hk] at hm others loose' ⊢
  rcases numbered with rfl | rfl | rfl
  · exact (mended_adaptForLoop (a := { graph := g }) lang hn).mends_iff cat (Kind.pairs_loop lang)
      SlotPair.loop_flows rfl ⟨rfl, rfl⟩ loose loose' others hn hk hm hk'
  · exact (mended_adaptDefinition (a := { graph := g }) lang hn).mends_iff cat
      (Kind.pairs_params lang) SlotPair.params_flows rfl ⟨rfl, rfl⟩ loose loose' others hn hk hm hk'
  · have resized := (resized_adaptSequence (a := { graph := g }) hn).of_node? hm
    constructor
    · unfold Node.ExactSlots Node.MendableSlots Kind.inputStems Kind.outputStems
      simp only [List.mem_singleton, forall_eq, List.not_mem_nil, false_imp_iff, implies_true,
        true_and]
      refine exact_iff_mendable (n.slotsAsked_le .sequence) (loose.node hn hk).canonical_exits
        (loose'.node hm hk').canonical_exits fun i => ?_
      rw [Node.mem_keys_outputs, Node.mem_keys_outputs]
      exact resized i
    · refine iff_of_true (fits_of_sequence loose' hm hk') fun s pair => ?_
      cases pair

end Graph

/-! ### A sample -/

namespace Sample

/-- A loop over two ranges, one of which is removed. -/
def gapped (key : String) : List Operation := [
  .edit (.create .empty "For" (.ofList [("numArgs", .num (.int 2))])),
  .dropInput 1 key]

/-- A loop whose second index feeds an output of integers loses both ranges. -/
def rangeless : List Operation := [
  .edit (.create .empty "For" (.ofList [("numArgs", .num (.int 2)), ("typeName1", .str "int")])),
  .edit (.create .empty "Output" (.ofList [("typeName", .str "int")])),
  .edit (.connect ⟨1, "val1", 2, "input"⟩),
  .dropInput 1 "range0",
  .dropInput 1 "range1"]

theorem gapped_ops (key : String) : ∀ op ∈ gapped key, op.isRetag = false := by
  simp [gapped, Operation.isRetag, Edit.isRetag]

theorem rangeless_ops : ∀ op ∈ rangeless, op.isRetag = false := by
  simp [rangeless, Operation.isRetag, Edit.isRetag]

/-- The first range is not added again, and an index for anything is left wired to an output of
integers. -/
theorem gapped_loop_unmended :
    Language.load Pattern.reader layeredCore layeredSurface {} = .ok layered ∧
      (∀ op ∈ gapped "range0", op.isRetag = false) ∧
      ((Graph.operated layered "main" (gapped "range0")).node? 1).map (·.slotsAsked .forLoop) =
        some 2 ∧
      ((Graph.operated layered "main" (gapped "range0")).adapt layered 1 .empty).1.input? 1
        "range0" = none ∧
      (∀ op ∈ rangeless, op.isRetag = false) ∧
      ((Graph.operated layered "main" rangeless).adapt layered 1 .empty).1.wires =
        [⟨1, "val1", 2, "input"⟩] ∧
      ((Graph.operated layered "main" rangeless).adapt layered 1 .empty).1.Mismatched
        ⟨1, "val1", 2, "input"⟩ := by
  refine ⟨layered_load_eq, gapped_ops _, ?_, ?_, rangeless_ops, ?_,
    .output "val1" "Value 2" layered.types.any.socket true,
    .input "input" "Value" (layered.types.getOrAny (some "int")).socket, ?_, ?_, ?_⟩ <;>
    decide +kernel

theorem gapped_last_node :
    ((Graph.operated layered "main" (gapped "range1")).node? 1).map (fun n => (n.component,
      (n.slotsPresent .forLoop, n.slotsAsked .forLoop), (n.inputs.keys, n.outputs.keys))) =
        some ("For", (1, 2), (["fin", "range0"], ["fout", "body", "val0", "val1"])) := by
  decide +kernel

/-- The last range is added again. -/
theorem adapt_mends_iff_gapped :
    Language.load Pattern.reader layeredCore layeredSurface {} = .ok layered ∧
      (∀ op ∈ gapped "range1", op.isRetag = false) ∧
      ∃ m, ((Graph.operated layered "main" (gapped "range1")).adapt layered 1 .empty).1.node? 1 =
          some m ∧ m.ExactSlots .forLoop 2 := by
  obtain ⟨n, hn, known⟩ := Option.map_eq_some_iff.1 gapped_last_node
  obtain ⟨component, counts, keys⟩ : n.component = "For" ∧
      (n.slotsPresent .forLoop = 1 ∧ n.slotsAsked .forLoop = 2) ∧
        n.inputs.keys = ["fin", "range0"] ∧ n.outputs.keys = ["fout", "body", "val0", "val1"] := by
    simpa using known
  have kind : layered.kind? n.component = some .forLoop := by
    rw [component]
    decide +kernel
  obtain ⟨m, hm, mends, -⟩ := Graph.adapt_mends_iff layered_load_eq "main" (gapped_ops "range1") hn
    kind (.inl rfl) .empty
  have mendable : n.MendableSlots .forLoop := by
    unfold Node.MendableSlots Kind.inputStems Kind.outputStems
    rw [counts.1, counts.2, keys.1, keys.2]
    simp only [List.mem_singleton, forall_eq]
    exact ⟨⟨by decide, by decide⟩, ⟨by decide, by decide⟩⟩
  have slots := mends.2 mendable
  rw [counts.2] at slots
  exact ⟨layered_load_eq, gapped_ops _, m, hm, slots⟩

end Sample

end FlowScript
