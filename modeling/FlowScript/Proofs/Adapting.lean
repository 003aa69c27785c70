import FlowScript.Proofs.Ports

/-!
# What adapting a node keeps

Adapting a node runs through many small changes of one node and of the wires at it.  All of them
keep the graph well wired and the other nodes as they are, and they are followed by the keys of the
node's ports.

* `Adapting base id component ins outs g`: `g` is on the way, with given port keys at the node;
* one lemma for each small change, then one for each rule;
* `Graph.Sound`: a well-wired graph whose nodes have their slots without gaps; `Sound.adapt`.
-/

namespace FlowScript

/-- A graph on the way of adapting one node of a graph: well wired, the other nodes untouched, and
the node with its component and with ports under given keys. -/
structure Adapting (base : Graph) (id : NodeId) (component : String) (ins outs : List String)
    (g : Graph) : Prop where
  wired : g.WellWired
  others : ∀ j, id ≠ j → g.node? j = base.node? j
  node : ∃ n, g.node? id = some n ∧ n.component = component ∧ n.inputs.keys = ins ∧
    n.outputs.keys = outs

namespace Adapting

variable {base g : Graph} {id : NodeId} {component : String} {ins outs : List String}

/-! ### Small changes -/

/-- A change that makes the node grow. -/
theorem grow (h : Adapting base id component ins outs g) {n : Node} (hn : g.node? id = some n)
    {f : Node → Node} (grows : n.Grows (f n)) (keyed : (f n).Keyed) :
    Adapting base id component (f n).inputs.keys (f n).outputs.keys (g.modifyNode id f) := by
  obtain ⟨m, hm, hc, -⟩ := h.node
  rw [hn] at hm
  cases hm
  refine ⟨h.wired.modifyNode ?_, ?_, f n, ?_, grows.component_eq.trans hc, rfl, rfl⟩
  · intro m hm
    rw [hn] at hm
    cases hm
    exact ⟨grows, keyed⟩
  · intro j hj
    rw [Graph.node?_modifyNode_of_ne g hj]
    exact h.others j hj
  · rw [Graph.node?_modifyNode_self, hn]
    rfl

/-- A data edit. -/
theorem edit (h : Adapting base id component ins outs g) {f : Node → Node}
    (hf : ∀ n : Node, n.SamePorts (f n)) :
    Adapting base id component ins outs (g.modifyNode id f) := by
  obtain ⟨n, hn, -, rfl, rfl⟩ := h.node
  have grown := h.grow hn (hf n).grows ((hf n).keyed (h.wired.keyed hn))
  rwa [(hf n).2.2.1, (hf n).2.2.2] at grown

theorem cut (h : Adapting base id component ins outs g) (w : Wire) :
    Adapting base id component ins outs (g.cut w) :=
  ⟨h.wired.cut w, h.others, h.node⟩

theorem setOutputTag (h : Adapting base id component ins outs g) (key : String) (tag : Tag) :
    Adapting base id component ins outs (g.setOutputTag id key tag).1 := by
  refine ⟨h.wired.setOutputTag id key tag, ?_, ?_⟩
  · intro j hj
    rw [← h.others j hj]
    unfold Graph.setOutputTag
    split
    · rfl
    split_ifs
    · rfl
    · rw [Graph.node?_cutAll, Graph.node?_modifyNode_of_ne g hj]
  · obtain ⟨n, hn, hc, hi, ho⟩ := h.node
    unfold Graph.setOutputTag
    split
    · exact ⟨n, hn, hc, hi, ho⟩
    split_ifs
    · exact ⟨n, hn, hc, hi, ho⟩
    · refine ⟨{ n with outputs := Graph.retag n.outputs key tag }, ?_, hc, hi, ?_⟩
      · rw [Graph.node?_cutAll, Graph.node?_modifyNode_self, hn]
        rfl
      · rw [← ho]
        exact OrderedMap.keys_modify _ _ _

theorem setInputTag (h : Adapting base id component ins outs g) (key : String) (tag : Tag) :
    Adapting base id component ins outs (g.setInputTag id key tag).1 := by
  refine ⟨h.wired.setInputTag id key tag, ?_, ?_⟩
  · intro j hj
    rw [← h.others j hj]
    unfold Graph.setInputTag
    split
    · rfl
    split_ifs
    · rfl
    · rw [Graph.node?_cutAll, Graph.node?_modifyNode_of_ne g hj]
  · obtain ⟨n, hn, hc, hi, ho⟩ := h.node
    unfold Graph.setInputTag
    split
    · exact ⟨n, hn, hc, hi, ho⟩
    split_ifs
    · exact ⟨n, hn, hc, hi, ho⟩
    · refine ⟨{ n with inputs := Graph.retag n.inputs key tag }, ?_, hc, ?_, ho⟩
      · rw [Graph.node?_cutAll, Graph.node?_modifyNode_self, hn]
        rfl
      · rw [← hi]
        exact OrderedMap.keys_modify _ _ _

theorem dropInput (h : Adapting base id component ins outs g) (key : String) :
    Adapting base id component (ins.filter (· ≠ key)) outs (g.dropInput id key).1 := by
  refine ⟨h.wired.dropInput id key, ?_, ?_⟩
  · intro j hj
    rw [← h.others j hj]
    unfold Graph.dropInput
    rw [Graph.node?_cutAll, Graph.node?_modifyNode_of_ne g hj]
  · obtain ⟨n, hn, hc, hi, ho⟩ := h.node
    refine ⟨{ n with inputs := n.inputs.erase key }, ?_, hc, ?_, ho⟩
    · unfold Graph.dropInput
      rw [Graph.node?_cutAll, Graph.node?_modifyNode_self, hn]
      rfl
    · rw [← hi]
      exact OrderedMap.keys_erase _ _

theorem dropOutput (h : Adapting base id component ins outs g) (key : String) :
    Adapting base id component ins (outs.filter (· ≠ key)) (g.dropOutput id key).1 := by
  refine ⟨h.wired.dropOutput id key, ?_, ?_⟩
  · intro j hj
    rw [← h.others j hj]
    unfold Graph.dropOutput
    rw [Graph.node?_cutAll, Graph.node?_modifyNode_of_ne g hj]
  · obtain ⟨n, hn, hc, hi, ho⟩ := h.node
    refine ⟨{ n with outputs := n.outputs.erase key }, ?_, hc, hi, ?_⟩
    · unfold Graph.dropOutput
      rw [Graph.node?_cutAll, Graph.node?_modifyNode_self, hn]
      rfl
    · rw [← ho]
      exact OrderedMap.keys_erase _ _

/-! ### Parts of the rules -/

section Rules

variable (lang : Language) {a : Adapted}

theorem keptType (h : Adapting base id component ins outs a.graph) (port : String)
    (unconnected : DataType) :
    Adapting base id component ins outs (Graph.keptType lang id a port unconnected).1.graph := by
  unfold Graph.keptType
  split
  · exact h
  split
  · exact h
  split_ifs
  · exact h.cut _
  · exact h

theorem retypeOutput (h : Adapting base id component ins outs a.graph) (key dataKey : String)
    (t : DataType) :
    Adapting base id component ins outs (Graph.retypeOutput id a key dataKey t).graph :=
  (h.setOutputTag key t.tag).edit fun n => n.samePorts_set dataKey _

theorem followDeclared (h : Adapting base id component ins outs a.graph) (key : String) :
    Adapting base id component ins outs (Graph.followDeclared lang id a key).graph :=
  h.retypeOutput key "typeName" _

theorem followProducer (h : Adapting base id component ins outs a.graph) :
    Adapting base id component ins outs (Graph.followProducer lang id a).graph :=
  ((h.keptType lang "input" _).setInputTag "input" _).edit fun n => n.samePorts_set "typeName" _

theorem adaptRange (h : Adapting base id component ins outs a.graph) (i : Nat) :
    Adapting base id component ins outs (Graph.adaptRange lang id a i).graph := by
  unfold Graph.adaptRange
  dsimp only
  refine retypeOutput ?_ _ _ _
  split
  · exact h
  split
  · split_ifs
    · exact h.cut _
    · exact h
  · exact h

theorem adaptParam (h : Adapting base id component ins outs a.graph) (i : Nat) :
    Adapting base id component ins outs (Graph.adaptParam lang id a i).graph :=
  (h.keptType lang (slotKey "arg" i) _).retypeOutput (slotKey "out" i) _ _

theorem filter_not_mem_cons (l : List String) (key : String) (keys : List String) :
    (l.filter (· ≠ key)).filter (· ∉ keys) = l.filter (· ∉ key :: keys) := by
  rw [List.filter_filter]
  apply List.filter_congr
  intro x _
  by_cases hx : x = key <;> simp [hx]

/-- Dropping a list of pairs of slots. -/
theorem foldl_shrinkSlot (h : Adapting base id component ins outs a.graph)
    (inStem outStem : String) (is : List Nat) :
    Adapting base id component
      (ins.filter fun key => key ∉ is.map (slotKey inStem))
      (outs.filter fun key => key ∉ is.map (slotKey outStem))
      (is.foldl (Graph.shrinkSlot id inStem outStem) a).graph := by
  induction is generalizing a ins outs with
  | nil => simpa using h
  | cons i is ih =>
    have step : Adapting base id component (ins.filter (· ≠ slotKey inStem i))
        (outs.filter (· ≠ slotKey outStem i)) (Graph.shrinkSlot id inStem outStem a i).graph :=
      ((h.dropInput _).dropOutput _).edit fun n => n.samePorts_unset _
    have rest := ih step
    rwa [filter_not_mem_cons, filter_not_mem_cons] at rest

/-- Dropping a list of outputs. -/
theorem foldl_dropOutput (h : Adapting base id component ins outs a.graph) (keys : List String) :
    Adapting base id component ins (outs.filter fun key => key ∉ keys)
      (keys.foldl (fun a key => a.step fun g => g.dropOutput id key) a).graph := by
  induction keys generalizing a outs with
  | nil => simpa using h
  | cons key keys ih =>
    have rest := ih (a := a.step fun g => g.dropOutput id key) (h.dropOutput key)
    rwa [filter_not_mem_cons] at rest

/-- Dropping a list of inputs. -/
theorem foldl_dropInput (h : Adapting base id component ins outs a.graph) (keys : List String) :
    Adapting base id component (ins.filter fun key => key ∉ keys) outs
      (keys.foldl (fun a key => a.step fun g => g.dropInput id key) a).graph := by
  induction keys generalizing a ins with
  | nil => simpa using h
  | cons key keys ih =>
    have rest := ih (a := a.step fun g => g.dropInput id key) (h.dropInput key)
    rwa [filter_not_mem_cons] at rest

/-- Bringing paired slots to a count. -/
theorem resizeSlots (h : Adapting base id component ins outs a.graph)
    {inStem outStem : String} (inTitle outTitle : String) {present required : Nat}
    (hr : required ≤ Decimal.maxCount) (hin : Numbered inStem ins present)
    (hout : Numbered outStem outs present) :
    ∃ ins' outs', Numbered inStem ins' required ∧ Numbered outStem outs' required ∧
      Adapting base id component ins' outs'
        (Graph.resizeSlots lang id inStem inTitle outStem outTitle required a).graph := by
  obtain ⟨n, hn, hc, rfl, rfl⟩ := h.node
  have keyed := h.wired.keyed hn
  unfold Graph.resizeSlots
  rw [hn]
  dsimp only
  rw [keyed.slotCount_inputs hin]
  rcases le_total present required with hle | hle
  · -- the family grows, and nothing is dropped
    rw [between_eq_nil hle]
    obtain ⟨grows, all⟩ := Node.foldl_nextPair
      (f := Graph.growSlot lang inStem inTitle outStem outTitle)
      (fun n i => ⟨_, _, rfl, rfl, rfl, rfl, ⟨rfl, rfl, rfl, rfl⟩⟩) hle hr ⟨keyed, hin, hout⟩
    exact ⟨_, _, all.input, all.output, h.grow hn (f := (between present required).foldl
      (Graph.growSlot lang inStem inTitle outStem outTitle)) grows all.keyed⟩
  · -- nothing is added, and the family is cut off
    rw [between_eq_nil hle]
    refine ⟨_, _, hin.without hle, hout.without hle, foldl_shrinkSlot ?_ inStem outStem _⟩
    exact h.edit fun n => ⟨rfl, rfl, rfl, rfl⟩

/-! ### The rules -/

theorem adaptForLoop (h : Adapting base id component ins outs a.graph) (n : Node) {present : Nat}
    (hin : Numbered "range" ins present) (hout : Numbered "val" outs present) :
    ∃ ins' outs' count, Numbered "range" ins' count ∧ Numbered "val" outs' count ∧
      Adapting base id component ins' outs' (Graph.adaptForLoop lang id a n).graph := by
  have noted : Adapting base id component ins outs (a.update fun g => g.modifyNode id fun m =>
      m.set "numArgs" (.num (.int ((n.count? "numArgs").getD 1)))).graph :=
    h.edit fun m => m.samePorts_set _ _
  obtain ⟨ins', outs', hin', hout', resized⟩ := noted.resizeSlots lang "Range" "Value"
    (n.count?_getD_le "numArgs" (d := 1) (by decide)) hin hout
  refine ⟨ins', outs', _, hin', hout', ?_⟩
  exact List.foldlRecOn _ (Graph.adaptRange lang id)
    (motive := fun a => Adapting base id component ins' outs' a.graph) resized
    fun a ha i _ => ha.adaptRange lang i

theorem adaptDefinition (h : Adapting base id component ins outs a.graph) (n : Node)
    {present : Nat} (hin : Numbered "arg" ins present) (hout : Numbered "out" outs present) :
    ∃ ins' outs' count, Numbered "arg" ins' count ∧ Numbered "out" outs' count ∧
      Adapting base id component ins' outs' (Graph.adaptDefinition lang id a n).graph := by
  obtain ⟨ins', outs', hin', hout', resized⟩ := h.resizeSlots lang "Argument" "Output"
    (n.count?_getD_le "numArgs" (Nat.zero_le _)) hin hout
  refine ⟨ins', outs', _, hin', hout', ?_⟩
  exact List.foldlRecOn _ (Graph.adaptParam lang id)
    (motive := fun a => Adapting base id component ins' outs' a.graph) resized
    fun a ha i _ => ha.adaptParam lang i

theorem adaptSequence (h : Adapting base id component ins outs a.graph) {n : Node}
    (hn : a.graph.node? id = some n) {present : Nat} (hout : Numbered "out" outs present) :
    ∃ ins' outs' count, Numbered "out" outs' count ∧
      Adapting base id component ins' outs' (Graph.adaptSequence id a n).graph := by
  obtain ⟨m, hm, hc, hi, rfl⟩ := h.node
  rw [hn] at hm
  cases hm
  have keyed := h.wired.keyed hn
  have hr := n.count?_getD_le "numExits" (Nat.zero_le _)
  unfold Graph.adaptSequence
  dsimp only
  rw [keyed.slotCount_outputs hout]
  rcases le_total present ((n.count? "numExits").getD 0) with hle | hle
  · rw [between_eq_nil hle]
    obtain ⟨grows, keyed', all⟩ := Node.foldl_nextOutput (f := Node.addExit)
      (fun n i => ⟨_, rfl, rfl, ⟨rfl, rfl, rfl, rfl⟩⟩) hle hr keyed hout
    exact ⟨_, _, _, all,
      h.grow hn (f := fun m => (between present _).foldl Node.addExit m) grows keyed'⟩
  · rw [between_eq_nil hle]
    refine ⟨ins, _, _, hout.without hle, ?_⟩
    have dropped := foldl_dropOutput (a := a.update fun g => g.modifyNode id fun m => m)
      (h.edit fun m => ⟨rfl, rfl, rfl, rfl⟩)
      ((between ((n.count? "numExits").getD 0) present).map (slotKey "out"))
    rwa [List.foldl_map] at dropped

theorem adaptRecord (h : Adapting base id component ins outs a.graph) (n : Node) :
    Adapting base id component ins outs (Graph.adaptRecord id a n).graph := by
  refine h.edit fun m => ?_
  exact List.foldlRecOn _ Node.unset (motive := fun m' => m.SamePorts m') ⟨rfl, rfl, rfl, rfl⟩
    fun m' hm key _ => hm.trans (m'.samePorts_unset key)

theorem dropField (h : Adapting base id component ins outs a.graph) (i : Nat) :
    Adapting base id component (ins.filter (· ≠ slotKey "inValue" i)) outs
      (Graph.dropField id a i).graph := by
  obtain ⟨n, hn, hc, hi, ho⟩ := h.node
  unfold Graph.dropField
  dsimp only
  split
  · -- there is no such input, and none of its key among the keys
    rename_i hnone
    have absent : slotKey "inValue" i ∉ ins := by
      rw [hn] at hnone
      rw [← hi]
      exact OrderedMap.get?_eq_none_iff.1 hnone
    rw [List.filter_eq_self.2]
    · exact h
    · intro key hkey
      simp only [ne_eq, decide_not, Bool.not_eq_eq_eq_not, Bool.not_true, decide_eq_false_iff_not]
      rintro rfl
      exact absent hkey
  · exact (h.dropInput _).edit fun m => (m.samePorts_unset _).trans (Node.samePorts_unset _ _)

theorem foldl_dropField (h : Adapting base id component ins outs a.graph) (is : List Nat) :
    Adapting base id component (ins.filter fun key => key ∉ is.map (slotKey "inValue")) outs
      (is.foldl (Graph.dropField id) a).graph := by
  induction is generalizing a ins with
  | nil => simpa using h
  | cons i is ih =>
    have rest := ih (h.dropField i)
    rwa [filter_not_mem_cons] at rest

/-- Bringing the assigned fields to a count. -/
theorem resizeFields (h : Adapting base id component ins outs a.graph) {present required : Nat}
    (hr : required ≤ Decimal.maxCount) (hin : Numbered "inValue" ins present)
    (fieldAt : Nat → String × DataType) :
    ∃ ins' outs', Numbered "inValue" ins' required ∧ Adapting base id component ins' outs'
      ((between required present).foldl (Graph.dropField id) (a.update fun g =>
        g.modifyNode id fun n => (between present required).foldl
          (fun n i => Graph.growField n i (fieldAt i).1 (fieldAt i).2) n)).graph := by
  obtain ⟨n, hn, hc, rfl, rfl⟩ := h.node
  have keyed := h.wired.keyed hn
  rcases le_total present required with hle | hle
  · rw [between_eq_nil hle]
    obtain ⟨grows, keyed', all⟩ := Node.foldl_nextInput
      (f := fun n i => Graph.growField n i (fieldAt i).1 (fieldAt i).2)
      (fun n i => ⟨_, rfl, rfl, (Node.samePorts_setDefault _ _ _).trans
        (Node.samePorts_setLiteral _ _ _)⟩) hle hr keyed hin
    exact ⟨_, _, all, h.grow hn (f := fun n => (between present required).foldl
      (fun n i => Graph.growField n i (fieldAt i).1 (fieldAt i).2) n) grows keyed'⟩
  · rw [between_eq_nil hle]
    refine ⟨_, n.outputs.keys, hin.without hle, foldl_dropField ?_ _⟩
    exact h.edit fun n => ⟨rfl, rfl, rfl, rfl⟩

theorem adaptAssignment (h : Adapting base id component ins outs a.graph) {present : Nat}
    (hin : Numbered "inValue" ins present) :
    ∃ ins' outs' count, Numbered "inValue" ins' count ∧
      Adapting base id component ins' outs' (Graph.adaptAssignment lang id a).graph := by
  have kept := h.keptType lang "inVariable" lang.types.any
  unfold Graph.adaptAssignment
  dsimp only
  generalize Graph.keptType lang id a "inVariable" lang.types.any = k at kept ⊢
  obtain ⟨a', targetType⟩ := k
  dsimp only at kept ⊢
  obtain ⟨n, hn, hc, rfl, rfl⟩ := kept.node
  rw [hn]
  dsimp only
  rw [(kept.wired.keyed hn).slotCount_inputs hin]
  generalize hreq : Graph.fieldCount _ _ = required
  have hr : required ≤ Decimal.maxCount := hreq ▸ Graph.fieldCount_le _ _
  split_ifs with retyped
  · -- the inputs start anew: all are dropped before the new ones are added
    have cleared := kept.foldl_dropField (List.range present)
    rw [range_eq_between] at cleared ⊢
    obtain ⟨ins', outs', hin', resized⟩ := cleared.resizeFields hr (hin.without (Nat.zero_le _)) _
    have counted := resized.edit fun n => n.samePorts_set "numArgs" (.num (.int required))
    exact ⟨ins', outs', required, hin', counted.retypeOutput _ _ _⟩
  · obtain ⟨ins', outs', hin', resized⟩ := kept.resizeFields hr hin _
    have counted := resized.edit fun n => n.samePorts_set "numArgs" (.num (.int required))
    exact ⟨ins', outs', required, hin', counted.retypeOutput _ _ _⟩

theorem adaptPort (h : Adapting base id component ins outs a.graph) (p : Port) :
    ∃ ins' outs', Adapting base id component ins' outs' (Graph.adaptPort id a p).graph := by
  obtain ⟨n, hn, hc, rfl, rfl⟩ := h.node
  have keyed := h.wired.keyed hn
  unfold Graph.adaptPort
  rw [hn]
  cases hd : p.direction with
  | input =>
    dsimp only
    split_ifs with there
    · exact ⟨_, _, h.setInputTag p.key p.tag⟩
    · have fresh : p.key ∉ n.inputs.keys := by
        refine OrderedMap.get?_eq_none_iff.1 ?_
        simpa [Node.input?] using there
      exact ⟨_, _, h.grow hn (Node.grows_addInput fresh) (keyed.addInput hd)⟩
  | output =>
    dsimp only
    split_ifs with there
    · exact ⟨_, _, h.setOutputTag p.key p.tag⟩
    · have fresh : p.key ∉ n.outputs.keys := by
        refine OrderedMap.get?_eq_none_iff.1 ?_
        simpa [Node.output?] using there
      exact ⟨_, _, h.grow hn (Node.grows_addOutput fresh) (keyed.addOutput hd)⟩

theorem adaptModuleCall (h : Adapting base id component ins outs a.graph) (lib : Library)
    (n : Node) :
    ∃ ins' outs', Adapting base id component ins' outs'
      (Graph.adaptModuleCall lang id lib a n).graph := by
  unfold Graph.adaptModuleCall
  dsimp only
  refine List.foldlRecOn _ (Graph.adaptPort id)
    (motive := fun a => ∃ ins' outs', Adapting base id component ins' outs' a.graph)
    ⟨_, _, (h.foldl_dropInput _).foldl_dropOutput _⟩ ?_
  rintro a ⟨ins', outs', ha⟩ p -
  exact ha.adaptPort p

end Rules

end Adapting

/-! ### Sound graphs -/

namespace Graph

/-- A well-wired graph in which the numbered slots of every node have no gaps. -/
structure Sound (lang : Language) (g : Graph) : Prop where
  wired : g.WellWired
  shaped : ∀ {id n kind}, g.node? id = some n → lang.kind? n.component = some kind → n.Shaped kind

variable {lang : Language} {g : Graph}

/-- Where adapting ends with the slots of the kind in place, the graph is sound again. -/
theorem Sound.of_adapting (h : g.Sound lang) {id : NodeId} {component : String} {kind : Kind}
    (hk : lang.kind? component = some kind) {ins outs : List String} {g' : Graph}
    (ha : Adapting g id component ins outs g')
    (hs : ∀ n : Node, n.Keyed → n.inputs.keys = ins → n.outputs.keys = outs → n.Shaped kind) :
    g'.Sound lang := by
  refine ⟨ha.wired, fun {j m kind'} hm hk' => ?_⟩
  by_cases hj : id = j
  · subst hj
    obtain ⟨n, hn, rfl, hi, ho⟩ := ha.node
    rw [hn] at hm
    cases hm
    rw [hk] at hk'
    cases hk'
    exact hs _ (ha.wired.keyed hn) hi ho
  · rw [ha.others j hj] at hm
    exact h.shaped hm hk'

/-- A change of wires alone keeps a graph sound if it keeps it well wired. -/
theorem Sound.of_nodes (h : g.Sound lang) {g' : Graph} (wired : g'.WellWired)
    (nodes : ∀ {id n}, g'.node? id = some n → g.node? id = some n) : g'.Sound lang :=
  ⟨wired, fun hn hk => h.shaped (nodes hn) hk⟩

/-- A change of one node that keeps the keys of its ports. -/
theorem Sound.of_sameKeys (h : g.Sound lang) {id : NodeId} {n : Node} (hn : g.node? id = some n)
    {g' : Graph} (ha : Adapting g id n.component n.inputs.keys n.outputs.keys g') :
    g'.Sound lang := by
  cases hk : lang.kind? n.component with
  | none =>
    refine ⟨ha.wired, fun {j m kind} hm hk' => ?_⟩
    by_cases hj : id = j
    · subst hj
      obtain ⟨m', hm', hc, -⟩ := ha.node
      rw [hm'] at hm
      cases hm
      rw [hc, hk] at hk'
      cases hk'
    · rw [ha.others j hj] at hm
      exact h.shaped hm hk'
  | some kind =>
    refine h.of_adapting hk ha fun m keyed hi ho => ?_
    exact (h.shaped hn hk).of_keys keyed hi ho

theorem adapting_refl (h : g.WellWired) {id : NodeId} {n : Node} (hn : g.node? id = some n) :
    Adapting g id n.component n.inputs.keys n.outputs.keys g :=
  ⟨h, fun _ _ => rfl, n, hn, rfl, rfl, rfl⟩

/-- Adapting a node keeps a graph sound. -/
theorem Sound.adapt (h : g.Sound lang) (id : NodeId) (lib : Library) :
    (adapt lang id g lib).1.Sound lang := by
  unfold Graph.adapt
  dsimp only
  cases hn : g.node? id with
  | none => exact h
  | some n =>
    have start : Adapting g id n.component n.inputs.keys n.outputs.keys
        ({ graph := g } : Adapted).graph := adapting_refl h.wired hn
    dsimp only
    cases hk : lang.kind? n.component with
    | none => exact h
    | some kind =>
      have shaped := h.shaped hn hk
      cases kind with
      | declaration => exact h.of_adapting hk (start.followDeclared lang _) fun _ _ _ _ => trivial
      | moduleInput => exact h.of_adapting hk (start.followDeclared lang _) fun _ _ _ _ => trivial
      | moduleOutput => exact h.of_adapting hk (start.followProducer lang) fun _ _ _ _ => trivial
      | record => exact h.of_adapting hk (start.adaptRecord n) fun _ _ _ _ => trivial
      | moduleCall =>
        obtain ⟨ins, outs, adapted⟩ := start.adaptModuleCall lang lib n
        exact h.of_adapting hk adapted fun _ _ _ _ => trivial
      | forLoop =>
        obtain ⟨present, paired⟩ := shaped
        -- the two families of slots are resized to one count
        obtain ⟨ins, outs, count, hin, hout, adapted⟩ :=
          start.adaptForLoop lang n paired.input paired.output
        refine h.of_adapting hk adapted fun m keyed hi ho => ⟨count, keyed, ?_, ?_⟩
        · rwa [hi]
        · rwa [ho]
      | definition =>
        obtain ⟨present, paired⟩ := shaped
        obtain ⟨ins, outs, count, hin, hout, adapted⟩ :=
          start.adaptDefinition lang n paired.input paired.output
        refine h.of_adapting hk adapted fun m keyed hi ho => ⟨count, keyed, ?_, ?_⟩
        · rwa [hi]
        · rwa [ho]
      | sequence =>
        obtain ⟨present, numbered⟩ := shaped
        obtain ⟨ins, outs, count, hout, adapted⟩ := start.adaptSequence hn numbered
        refine h.of_adapting hk adapted fun m keyed hi ho => ⟨count, ?_⟩
        rwa [ho]
      | assignment =>
        obtain ⟨present, numbered⟩ := shaped
        obtain ⟨ins, outs, count, hin, adapted⟩ := start.adaptAssignment lang numbered
        refine h.of_adapting hk adapted fun m keyed hi ho => ⟨count, ?_⟩
        rwa [hi]
      | literal | call | topLevelCode | code | branch | whileLoop | flowEntry | flowExit =>
        exact h

end Graph

end FlowScript
