import Mathlib.Data.List.Sort
import FlowScript.Proofs.Linked

/-!
# The exits of a sequence and the ranges of a loop

A sequence follows its exits by counting them, and a loop asks for its ranges in the same way.  That
is right because the slots are numbered from zero without a gap, whatever edits have made the graph.
A sequence has no output beside its exits.

* `Graph.connectedExits`: the exits from which wires lead on, read off the wires;
* `Graph.ExitsOnly`, `Graph.exitsOnly_session`: a sequence has no output beside its exits;
* `Graph.Sound.connectedExits_eq`: counting the exits finds the connected ones, in order;
* `Graph.Sound.ranges_eq`: counting the ranges finds all of them.
-/

namespace FlowScript

/-- A number is read off the key of a slot as it was written. -/
theorem eq_of_slotIndex?_slotKey {stem : String} {i j : Nat}
    (h : slotIndex? stem (slotKey stem i) = some j) : j = i := by
  have read : Decimal.count? (Decimal.digits i) = some j := by
    simpa [slotIndex?, slotKey, Decimal.text, String.toList_append, afterStem?_append] using h
  unfold Decimal.count? at read
  split at read
  · -- no digit is a sign
    rename_i heq
    have digit : Char.isDigit '+' = true :=
      Decimal.isDigit_of_mem_digits (n := i) (by rw [heq]; exact List.mem_cons_self ..)
    exact absurd digit (by decide)
  · unfold Decimal.bareCount? at read
    split_ifs at read
    rw [Decimal.ofDigits_digits] at read
    exact (Option.some.inj read).symm

/-- All outputs of a node are exits. -/
def Node.ExitsOnly (n : Node) : Prop := ∀ key ∈ n.outputs.keys, ∃ i, key = slotKey "out" i

theorem Node.ExitsOnly.addExit {n : Node} (h : n.ExitsOnly) (i : Nat) :
    (n.addExit i).ExitsOnly := by
  intro key mem
  rw [Node.addExit, Node.keys_addOutput] at mem
  split_ifs at mem
  · exact h key mem
  · rcases List.mem_append.1 mem with mem | mem
    · exact h key mem
    · exact ⟨i, List.mem_singleton.1 mem⟩

theorem Node.ExitsOnly.foldl_addExit {n : Node} (h : n.ExitsOnly) (is : List Nat) :
    (is.foldl Node.addExit n).ExitsOnly :=
  List.foldlRecOn is Node.addExit (motive := Node.ExitsOnly) h fun _ hn i _ => hn.addExit i

namespace Graph

variable {lang : Language} {g : Graph} {id : NodeId}

theorem exitsOnly_dropOutput (h : ∀ n, g.node? id = some n → n.ExitsOnly) (key : String) :
    ∀ n, (g.dropOutput id key).1.node? id = some n → n.ExitsOnly := by
  intro n hn
  unfold Graph.dropOutput at hn
  rw [node?_cutAll, node?_modifyNode_self] at hn
  obtain ⟨m, hm, rfl⟩ := Option.map_eq_some_iff.1 hn
  intro other mem
  have mem : other ∈ (m.outputs.erase key).keys := mem
  rw [OrderedMap.keys_erase] at mem
  exact h m hm other (List.mem_filter.1 mem).1

/-- Adapting a sequence gives it no other outputs. -/
theorem exitsOnly_adaptSequence {a : Adapted} (h : ∀ m, a.graph.node? id = some m → m.ExitsOnly)
    (n : Node) : ∀ m, (adaptSequence id a n).graph.node? id = some m → m.ExitsOnly := by
  unfold adaptSequence
  refine List.foldlRecOn _ _ (motive := fun (a : Adapted) =>
    ∀ m : Node, a.graph.node? id = some m → m.ExitsOnly) ?_
    fun a ha i _ => exitsOnly_dropOutput ha _
  intro m hm
  unfold Adapted.update at hm
  rw [node?_modifyNode_self] at hm
  obtain ⟨m', hm', rfl⟩ := Option.map_eq_some_iff.1 hm
  exact (h m' hm').foldl_addExit _

/-- Adapting a node leaves the others alone and keeps its component. -/
theorem Sound.exists_adapting (h : g.Sound lang) {n : Node} (hn : g.node? id = some n)
    (lib : Library) :
    ∃ ins outs, Adapting g id n.component ins outs (Graph.adapt lang id g lib).1 := by
  have start : Adapting g id n.component n.inputs.keys n.outputs.keys
      ({ graph := g } : Adapted).graph := adapting_refl h.wired hn
  unfold Graph.adapt
  simp only [hn]
  cases hk : lang.kind? n.component with
  | none => exact ⟨_, _, start⟩
  | some kind =>
    have shaped := h.shaped hn hk
    cases kind with
    | declaration => exact ⟨_, _, start.followDeclared lang _⟩
    | moduleInput => exact ⟨_, _, start.followDeclared lang _⟩
    | moduleOutput => exact ⟨_, _, start.followProducer lang⟩
    | record => exact ⟨_, _, start.adaptRecord n⟩
    | moduleCall => exact start.adaptModuleCall lang lib n
    | forLoop =>
      obtain ⟨present, paired⟩ := shaped
      obtain ⟨ins, outs, -, -, -, adapted⟩ := start.adaptForLoop lang n paired.input paired.output
      exact ⟨ins, outs, adapted⟩
    | definition =>
      obtain ⟨present, paired⟩ := shaped
      obtain ⟨ins, outs, -, -, -, adapted⟩ :=
        start.adaptDefinition lang n paired.input paired.output
      exact ⟨ins, outs, adapted⟩
    | sequence =>
      obtain ⟨present, numbered⟩ := shaped
      obtain ⟨ins, outs, -, -, adapted⟩ := start.adaptSequence hn numbered
      exact ⟨ins, outs, adapted⟩
    | assignment =>
      obtain ⟨present, numbered⟩ := shaped
      obtain ⟨ins, outs, -, -, adapted⟩ := start.adaptAssignment lang numbered
      exact ⟨ins, outs, adapted⟩
    | literal | call | topLevelCode | code | branch | whileLoop | flowEntry | flowExit =>
      exact ⟨_, _, start⟩

/-! ### Sequences have no output beside their exits -/

/-- The outputs of every sequence are exits. -/
def ExitsOnly (lang : Language) (g : Graph) : Prop :=
  ∀ id n, g.node? id = some n → lang.kind? n.component = some .sequence → n.ExitsOnly

namespace ExitsOnly

/-- What matters of a node is its component and the keys of its outputs. -/
theorem of_nodes {g' : Graph} (h : g.ExitsOnly lang)
    (nodes : ∀ {id n'}, g'.node? id = some n' → ∃ n, g.node? id = some n ∧
      n'.component = n.component ∧ n'.outputs = n.outputs) : g'.ExitsOnly lang := by
  intro id n' hn' hk key mem
  obtain ⟨n, hn, component, outputs⟩ := nodes hn'
  rw [component] at hk
  rw [outputs] at mem
  exact h id n hn hk key mem

theorem edit (h : g.ExitsOnly lang) (id : NodeId) {f : Node → Node}
    (hf : ∀ n : Node, n.SamePorts (f n)) : (g.modifyNode id f).ExitsOnly lang := by
  refine h.of_nodes fun {j n'} hn' => ?_
  rw [node?_modifyNode] at hn'
  split_ifs at hn'
  · obtain ⟨n, hn, rfl⟩ := Option.map_eq_some_iff.1 hn'
    exact ⟨n, hn, (hf n).2.1, (hf n).2.2.2⟩
  · exact ⟨n', hn', rfl, rfl⟩

theorem create (h : g.ExitsOnly lang) {library : Library} {component : String} {data : NodeData}
    {g' : Graph} {n : Node} (hc : g.create lang library component data = .ok (g', n)) :
    g'.ExitsOnly lang := by
  unfold Graph.create at hc
  cases hk : lang.kind? component with
  | none =>
    rw [hk] at hc
    cases hc
  | some kind =>
    rw [hk] at hc
    have same := Node.sameName_equip lang library kind { id := g.nextId, component, data }
    cases hc
    intro j m hm hk'
    rw [node?_addNode] at hm
    split_ifs at hm
    · cases hm
      rw [same.2, hk] at hk'
      cases hk'
      refine Node.ExitsOnly.foldl_addExit (fun key mem => ?_) _
      cases mem
    · exact h j m hm hk'

theorem adapt (h : g.ExitsOnly lang) (sound : g.Sound lang) (id : NodeId) (lib : Library) :
    (Graph.adapt lang id g lib).1.ExitsOnly lang := by
  cases hn : g.node? id with
  | none =>
    unfold Graph.adapt
    simpa only [hn] using h
  | some n =>
    obtain ⟨ins, outs, adapting⟩ := sound.exists_adapting hn lib
    intro j m hm hk
    by_cases hj : id = j
    · subst hj
      obtain ⟨m', hm', component, -⟩ := adapting.node
      rw [hm] at hm'
      cases hm'
      rw [component] at hk
      have alone : ∀ m, ({ graph := g } : Adapted).graph.node? id = some m → m.ExitsOnly := by
        intro m hm
        have hm : g.node? id = some m := hm
        rw [hn] at hm
        cases hm
        exact h id n hn hk
      refine exitsOnly_adaptSequence alone n m ?_
      unfold Graph.adapt at hm
      simpa only [hn, hk] using hm
    · exact h j m ((adapting.others j hj).symm.trans hm) hk

theorem apply (h : g.ExitsOnly lang) (sound : g.Sound lang) {e : Edit} (he : e.isRetag = false) :
    (g.apply lang e).ExitsOnly lang := by
  cases e with
  | create library component data =>
    unfold Graph.apply
    dsimp only
    cases hc : g.create lang library component data with
    | ok made => exact h.create hc
    | error _ => exact h
  | set id key value => exact h.edit id fun n => n.samePorts_set key value
  | setDefault id key value => exact h.edit id fun n => n.samePorts_setDefault key value
  | unset id key => exact h.edit id fun n => n.samePorts_unset key
  | connect wire =>
    unfold Graph.apply
    dsimp only
    cases hc : g.connect wire with
    | ok g' =>
      obtain ⟨rfl, -⟩ := connect_eq_ok hc
      exact h.of_nodes fun hn => ⟨_, hn, rfl, rfl⟩
    | error _ => exact h
  | disconnect wire => exact h.of_nodes fun hn => ⟨_, hn, rfl, rfl⟩
  | remove id =>
    refine h.of_nodes fun {j n} hn => ⟨n, ?_, rfl, rfl⟩
    rw [Graph.apply, node?_removeNode] at hn
    split_ifs at hn
    exact hn
  | retagInput | retagOutput => cases he
  | adapt library id => exact h.adapt sound id library

end ExitsOnly

/-- Whatever the edits, a sequence has no output beside its exits. -/
theorem exitsOnly_session (lang : Language) (name : String) {edits : List Edit}
    (he : ∀ e ∈ edits, e.isRetag = false) : (session lang name edits).ExitsOnly lang := by
  induction edits using List.reverseRecOn with
  | nil => exact fun _ _ hn => by cases hn
  | append_singleton edits e ih =>
    rw [session, List.foldl_concat]
    exact (ih fun e he' => he e (by simp [he'])).apply (sound_session lang name edits)
      (he e (by simp))

/-- No wire leaves a sequence beside its exits. -/
theorem ExitsOnly.wireFrom?_eq_none (h : g.ExitsOnly lang) (wired : g.WellWired) {n : Node}
    (hn : g.node? id = some n) (hk : lang.kind? n.component = some .sequence) {key : String}
    (other : ∀ i, key ≠ slotKey "out" i) : g.wireFrom? id key = none := by
  by_contra leaves
  obtain ⟨w, hw⟩ := Option.ne_none_iff_exists'.1 leaves
  have ends := List.find?_some hw
  simp only [Bool.and_eq_true, beq_iff_eq] at ends
  obtain ⟨-, producer, -, output, -⟩ := wired.joins w (List.mem_of_find?_eq_some hw)
  rw [ends.1, ends.2] at output
  have output : n.output? key = some producer := by simpa [Graph.output?, hn] using output
  obtain ⟨i, heq⟩ := h id n hn hk key (OrderedMap.mem_keys_iff.2 ⟨_, output⟩)
  exact other i heq

/-! ### Counting slots -/

/-- In a sound graph, the ranges of a loop are found by counting them. -/
theorem Sound.ranges_eq (h : g.Sound lang) {n : Node} (hn : g.node? id = some n)
    (hk : lang.kind? n.component = some .forLoop) :
    n.inputs.keys.filter (isSlot "range") =
      (List.range (slotCount "range" n.inputs.values)).map (slotKey "range") := by
  obtain ⟨count, paired⟩ := h.shaped hn hk
  rw [paired.keyed.slotCount_inputs paired.input]
  exact paired.input

/-- The numbers of the exits of a node from which wires lead on, in increasing order. -/
def connectedExits (g : Graph) (id : NodeId) : List Nat :=
  ((g.wires.filter (·.source == id)).filterMap fun w =>
    slotIndex? "out" w.sourcePort).dedup.insertionSort (· ≤ ·)

theorem mem_connectedExits {i : Nat} : i ∈ g.connectedExits id ↔
    ∃ w ∈ g.wires, w.source = id ∧ slotIndex? "out" w.sourcePort = some i := by
  unfold connectedExits
  simp only [List.mem_insertionSort, List.mem_dedup, List.mem_filterMap, List.mem_filter,
    beq_iff_eq, and_assoc]

/-- In a sound graph, the connected exits of a sequence are found by counting its exits. -/
theorem Sound.connectedExits_eq (h : g.Sound lang) {n : Node} (hn : g.node? id = some n)
    (hk : lang.kind? n.component = some .sequence) :
    g.connectedExits id = (List.range (slotCount "out" n.outputs.values)).filter fun i =>
      (g.wireFrom? id (slotKey "out" i)).isSome := by
  obtain ⟨count, numbered⟩ := h.shaped hn hk
  rw [(h.wired.keyed hn).slotCount_outputs numbered]
  have members : ∀ i, i ∈ g.connectedExits id ↔
      i ∈ (List.range count).filter fun i => (g.wireFrom? id (slotKey "out" i)).isSome := by
    intro i
    rw [mem_connectedExits, List.mem_filter, List.mem_range]
    constructor
    · rintro ⟨w, hw, rfl, index⟩
      -- the wire leaves by an output, and the outputs of the family are the slots below the count
      obtain ⟨-, producer, -, output, -⟩ := h.wired.joins w hw
      have output : n.output? w.sourcePort = some producer := by
        simpa [Graph.output?, hn] using output
      have slot : w.sourcePort ∈ n.outputs.keys.filter (isSlot "out") :=
        List.mem_filter.2 ⟨OrderedMap.mem_keys_iff.2 ⟨_, output⟩, by simp [isSlot, index]⟩
      rw [numbered] at slot
      obtain ⟨j, hj, heq⟩ := List.mem_map.1 slot
      rw [← heq] at index
      cases eq_of_slotIndex?_slotKey index
      refine ⟨List.mem_range.1 hj, ?_⟩
      rw [Graph.wireFrom?, List.find?_isSome]
      exact ⟨w, hw, by simp [heq]⟩
    · rintro ⟨hi, connected⟩
      obtain ⟨w, hw⟩ := Option.isSome_iff_exists.1 connected
      have ends := List.find?_some hw
      simp only [Bool.and_eq_true, beq_iff_eq] at ends
      have slot : slotKey "out" i ∈ n.outputs.keys.filter (isSlot "out") := by
        rw [numbered]
        exact List.mem_map_of_mem (List.mem_range.2 hi)
      obtain ⟨j, hj⟩ := Option.isSome_iff_exists.1 (List.mem_filter.1 slot).2
      cases eq_of_slotIndex?_slotKey hj
      exact ⟨w, List.mem_of_find?_eq_some hw, ends.1, by rw [ends.2, hj]⟩
  -- both lists are in order and have no repetitions
  have distinct : (g.connectedExits id).Nodup :=
    (List.perm_insertionSort _ _).nodup_iff.2 (List.nodup_dedup _)
  have same := (List.perm_ext_iff_of_nodup distinct (List.nodup_range.filter _)).2 members
  refine same.eq_of_pairwise (fun _ _ _ _ => Nat.le_antisymm) (List.pairwise_insertionSort _ _) ?_
  exact List.Pairwise.filter _ (List.pairwise_lt_range.imp Nat.le_of_lt)

end Graph

end FlowScript
