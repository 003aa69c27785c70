import FlowScript.Proofs.Operations

/-!
# Module calls and new module calls

An adapted module call has the ports of a new call of the same module, in all respects but one: a
port that stands keeps whether it takes many wires.  An output for values takes many and an exit for
flow takes one, so an output that has become an exit takes many.

* `Node.standing?`: the port in a place before it is retagged;
* `Node.portLike?_foldl_takePort`, `Node.portLike?_foldl_addPort`: what taking over and what adding
  ports, one after the other, leave in a place;
* `Node.pruned`: a node without its ports that are not wanted; `Node.mirrors`: the ports of an
  adapted call against those of a new one;
* `Graph.adapt_mirrors_iff`: whatever a session has done.
-/

namespace FlowScript

open FlowScript.Graph

namespace Node

variable {n b : Node} {p q : Port} {ps : List Port}

/-- The port in a place before it is retagged: the one that is there, else the first that is
added. -/
def standing? (n : Node) (ps : List Port) (q : Port) : Option Port :=
  (n.portLike? q).or (ps.find? (·.Over q))

theorem portLike?_congr (h : p.Over q) (n : Node) : n.portLike? p = n.portLike? q := by
  unfold portLike?
  rw [h.1, h.2]

theorem standing?_congr (h : p.Over q) (n : Node) (ps : List Port) :
    n.standing? ps p = n.standing? ps q := by
  have same : (fun r : Port => decide (r.Over p)) = fun r => decide (r.Over q) := by
    funext r
    refine decide_eq_decide.2 ?_
    unfold Port.Over
    rw [h.1, h.2]
  unfold standing?
  rw [portLike?_congr h, same]

theorem standing?_concat (n : Node) (ps : List Port) (p q : Port) :
    n.standing? (ps ++ [p]) q = (n.standing? ps q).or (if p.Over q then some p else none) := by
  unfold standing?
  rw [List.find?_append, List.find?_singleton, Option.or_assoc]
  simp only [decide_eq_true_eq]

/-! ### Ports one after the other -/

theorem portLike?_takePort_of_over (h : p.Over q) (n : Node) :
    (n.takePort p).portLike? q =
      ((n.portLike? q).or (some p)).map fun r => { r with tag := p.tag } := by
  unfold takePort
  rw [portLike?_congr h]
  cases hq : n.portLike? q with
  | none => rw [if_neg (by simp), portLike?_addPort, if_pos h]; rfl
  | some r => rw [if_pos Option.isSome_some, portLike?_retagLike, if_pos h, hq]; rfl

/-- The port that stands in a place ends with the tag of the last one that is taken over. -/
theorem portLike?_foldl_takePort (ps : List Port) (n : Node) (q : Port) :
    (ps.foldl takePort n).portLike? q = (n.standing? ps q).map fun r =>
      { r with tag := ((ps.reverse.find? (·.Over q)).getD r).tag } := by
  induction ps using List.reverseRecOn with
  | nil =>
    unfold standing?
    rw [List.foldl_nil]
    cases n.portLike? q <;> rfl
  | append_singleton ps p ih =>
    rw [List.foldl_concat, standing?_concat, List.reverse_concat, List.find?_cons]
    by_cases h : p.Over q
    · rw [portLike?_takePort_of_over h, ih, if_pos h, decide_eq_true h]
      cases n.standing? ps q <;> rfl
    · rw [portLike?_takePort h, ih, if_neg h, decide_eq_false h, Option.or_none]

/-- A port that is added replaces the one in its place. -/
theorem portLike?_foldl_addPort (ps : List Port) (n : Node) (q : Port) :
    (ps.foldl addPort n).portLike? q = (ps.reverse.find? (·.Over q)).or (n.portLike? q) := by
  induction ps using List.reverseRecOn with
  | nil => rfl
  | append_singleton ps p ih =>
    rw [List.foldl_concat, List.reverse_concat, List.find?_cons, portLike?_addPort]
    by_cases h : p.Over q
    · rw [if_pos h, decide_eq_true h]
      rfl
    · rw [if_neg h, decide_eq_false h, ih]

theorem mem_of_last (last : ps.reverse.find? (·.Over q) = some p) : p ∈ ps ∧ p.Over q := by
  have here := List.find?_some last
  exact ⟨List.mem_reverse.1 (List.mem_of_find?_eq_some last), of_decide_eq_true here⟩

/-! ### Ports that are not wanted -/

theorem input?_foldl_dropInput (n : Node) (keys : List String) (key : String) :
    (keys.foldl dropInput n).input? key = if key ∈ keys then none else n.input? key := by
  induction keys generalizing n with
  | nil => simp
  | cons k keys ih =>
    rw [List.foldl_cons, ih, input?_dropInput]
    by_cases hk : k = key
    · simp [hk]
    · simp [hk, Ne.symm hk]

theorem output?_foldl_dropOutput (n : Node) (keys : List String) (key : String) :
    (keys.foldl dropOutput n).output? key = if key ∈ keys then none else n.output? key := by
  induction keys generalizing n with
  | nil => simp
  | cons k keys ih =>
    rw [List.foldl_cons, ih, output?_dropOutput]
    by_cases hk : k = key
    · simp [hk]
    · simp [hk, Ne.symm hk]

theorem mem_staleKeys (wanted : List Port) (side : Direction) {ports : OrderedMap String Port}
    (keyed : ∀ {key port}, ports.get? key = some port → port.key = key) (key : String) :
    key ∈ staleKeys wanted side ports.values ↔
      (ports.get? key).isSome ∧ ∀ p ∈ wanted, ¬ (p.direction = side ∧ p.key = key) := by
  unfold staleKeys
  simp only [List.mem_map, List.mem_filter, OrderedMap.mem_values_iff, Bool.not_eq_true',
    List.any_eq_false, Bool.and_eq_true, beq_iff_eq]
  constructor
  · rintro ⟨port, ⟨⟨key', found⟩, unwanted⟩, rfl⟩
    rw [keyed found, found]
    rw [keyed found] at unwanted
    exact ⟨rfl, unwanted⟩
  · rintro ⟨there, unwanted⟩
    obtain ⟨port, found⟩ := Option.isSome_iff_exists.1 there
    exact ⟨port, ⟨⟨key, found⟩, (keyed found).symm ▸ unwanted⟩, keyed found⟩

theorem inputs_foldl_dropOutput (n : Node) (keys : List String) :
    (keys.foldl dropOutput n).inputs = n.inputs :=
  List.foldlRecOn keys dropOutput (motive := fun k : Node => k.inputs = n.inputs) rfl
    fun _ hk _ _ => hk

theorem outputs_foldl_dropInput (n : Node) (keys : List String) :
    (keys.foldl dropInput n).outputs = n.outputs :=
  List.foldlRecOn keys dropInput (motive := fun k : Node => k.outputs = n.outputs) rfl
    fun _ hk _ _ => hk

/-- A node without those of its ports that are in the place of no wanted one. -/
def pruned (wanted : List Port) (n : Node) : Node :=
  (staleKeys wanted .output n.outputs.values).foldl dropOutput
    ((staleKeys wanted .input n.inputs.values).foldl dropInput n)

theorem data_pruned (wanted : List Port) (n : Node) : (n.pruned wanted).data = n.data :=
  List.foldlRecOn _ dropOutput (motive := fun k : Node => k.data = n.data)
    (List.foldlRecOn _ dropInput (motive := fun k : Node => k.data = n.data) rfl
      fun _ hk _ _ => hk) fun _ hk _ _ => hk

/-- A port that is there is left if its key is not stale. -/
theorem prune_eq {o : Option Port} {stale wanted : Prop} [Decidable stale] [Decidable wanted]
    (h : stale ↔ o.isSome ∧ ¬ wanted) :
    (if stale then none else o) = if wanted then o else none := by
  by_cases hw : wanted
  · rw [if_pos hw, if_neg fun hs => (h.1 hs).2 hw]
  · rw [if_neg hw]
    cases o with
    | none => exact ite_self _
    | some p => exact if_pos (h.2 ⟨rfl, hw⟩)

theorem portLike?_pruned (keyed : n.Keyed) (wanted : List Port) (q : Port) :
    (n.pruned wanted).portLike? q = if ∃ p ∈ wanted, p.Over q then n.portLike? q else none := by
  unfold pruned
  cases hd : q.direction with
  | input =>
    have stale : q.key ∈ staleKeys wanted .input n.inputs.values ↔
        (n.input? q.key).isSome ∧ ¬ ∃ p ∈ wanted, p.Over q := by
      refine (mem_staleKeys wanted .input (fun hp => (keyed.input hp).1) q.key).trans ?_
      simp [Port.Over, hd, Node.input?]
    rw [portLike?_of_input hd, portLike?_of_input hd]
    unfold input?
    rw [inputs_foldl_dropOutput]
    exact (input?_foldl_dropInput ..).trans (prune_eq stale)
  | output =>
    have stale : q.key ∈ staleKeys wanted .output n.outputs.values ↔
        (n.output? q.key).isSome ∧ ¬ ∃ p ∈ wanted, p.Over q := by
      refine (mem_staleKeys wanted .output (fun hp => (keyed.output hp).1) q.key).trans ?_
      simp [Port.Over, hd, Node.output?]
    rw [portLike?_of_output hd, portLike?_of_output hd, output?_foldl_dropOutput]
    unfold output?
    rw [outputs_foldl_dropInput]
    exact prune_eq stale

/-! ### Calls against new calls -/

/-- A call that has lost its other ports and taken over the wanted ones has the ports of a node to
which they are added, except that a port that stands keeps whether it takes many wires. -/
theorem mirrors (keyed : n.Keyed) (title : ∀ p ∈ ps, p.title = p.key)
    (standing : ∀ {r}, n.portLike? q = some r → r.Over q ∧ r.title = r.key)
    (bare : b.portLike? q = none) :
    (ps.foldl takePort (n.pruned ps)).portLike? q = ((ps.foldl addPort b).portLike? q).map fun l =>
      { l with multi := ((n.standing? ps l).getD l).multi } := by
  rw [portLike?_foldl_takePort, portLike?_foldl_addPort, bare, Option.or_none]
  cases last : ps.reverse.find? (·.Over q) with
  | none =>
    have unwanted : ∀ p ∈ ps, ¬ p.Over q := fun p hp here =>
      List.find?_eq_none.1 last p (List.mem_reverse.2 hp) (decide_eq_true here)
    have first : ps.find? (·.Over q) = none := List.find?_eq_none.2 fun p hp => by
      simpa using unwanted p hp
    have lost : ¬ ∃ p ∈ ps, p.Over q := fun ⟨p, hp, here⟩ => unwanted p hp here
    unfold standing?
    rw [portLike?_pruned keyed, if_neg lost, first]
    rfl
  | some l =>
    obtain ⟨mem, here⟩ := mem_of_last last
    have same : (n.pruned ps).standing? ps q = n.standing? ps q := by
      unfold standing?
      rw [portLike?_pruned keyed, if_pos ⟨l, mem, here⟩]
    have stands : ∃ r, n.standing? ps q = some r ∧ r.Over q ∧ r.title = r.key := by
      unfold standing?
      cases hq : n.portLike? q with
      | some r => exact ⟨r, rfl, standing hq⟩
      | none =>
        obtain ⟨r, hr⟩ := Option.isSome_iff_exists.1
          (List.find?_isSome.2 ⟨l, mem, decide_eq_true here⟩ : (ps.find? (·.Over q)).isSome)
        have first := List.find?_some hr
        exact ⟨r, hr, of_decide_eq_true first, title r (List.mem_of_find?_eq_some hr)⟩
    obtain ⟨r, hr, at_q, named⟩ := stands
    rw [same, hr]
    simp only [Option.map_some, Option.getD_some, standing?_congr here, hr, Option.some.injEq]
    obtain ⟨key, title', side, tag, multi⟩ := r
    have key_eq := at_q.2.trans here.2.symm
    have side_eq := at_q.1.trans here.1.symm
    have title_eq := named.trans (key_eq.trans (title l mem).symm)
    dsimp only at key_eq side_eq title_eq ⊢
    rw [key_eq, side_eq, title_eq]

/-- Outputs that stand keep only whether they take many wires. -/
theorem Loose.output?_mirrored {lang : Language} (loose : n.Loose lang .moduleCall)
    (title : ∀ p ∈ ps, p.title = p.key) (key : String) :
    (ps.foldl takePort (n.pruned ps)).output? key =
      ((ps.foldl Node.addPort n.bare).output? key).map fun p =>
        { p with multi := ((n.standing? ps p).getD p).multi } :=
  mirrors (q := .flowOut key) loose.keyed title
    (fun hr => ⟨⟨(loose.keyed.output hr).2, (loose.keyed.output hr).1⟩, loose.output hr⟩) rfl

/-- A new call has the ports that are wanted. -/
theorem equip_moduleCall (lang : Language) (lib : Library) (n : Node) :
    equip lang lib .moduleCall n = (wantedPorts lang lib n).foldl addPort n := by
  unfold equip wantedPorts
  dsimp only
  cases lib.callee? n <;> rfl

/-- All inputs of calls take one wire. -/
theorem multi_standing_input {lang : Language} (loose : n.Loose lang .moduleCall)
    (single : ∀ r ∈ ps, r.direction = .input → r.multi = false) (mem : p ∈ ps)
    (hd : p.direction = .input) : ((n.standing? ps p).getD p).multi = p.multi := by
  rw [single p mem hd]
  cases hr : n.standing? ps p with
  | none => exact single p mem hd
  | some r =>
    rcases Option.or_eq_some_iff.1 hr with there | ⟨-, first⟩
    · rw [portLike?_of_input hd] at there
      exact (loose.input there).2
    · have here : r.Over p := by
        have found := List.find?_some first
        exact of_decide_eq_true found
      exact single r (List.mem_of_find?_eq_some first) (here.1.trans hd)

/-- For inputs that makes no difference. -/
theorem Loose.input?_mirrored {lang : Language} (loose : n.Loose lang .moduleCall)
    (titles : ∀ p ∈ ps, p.title = p.key ∧ (p.direction = .input → p.multi = false))
    (key : String) :
    (ps.foldl takePort (n.pruned ps)).input? key = (ps.foldl Node.addPort n.bare).input? key := by
  have inputs : (ps.foldl takePort (n.pruned ps)).input? key = _ :=
    mirrors (q := .flowIn key) (b := n.bare) loose.keyed (fun p hp => (titles p hp).1)
      (fun hr => ⟨⟨(loose.keyed.input hr).2, (loose.keyed.input hr).1⟩, (loose.input hr).1⟩) rfl
  rw [inputs]
  show _ = (ps.foldl Node.addPort n.bare).portLike? (.flowIn key)
  cases hp : (ps.foldl Node.addPort n.bare).portLike? (.flowIn key) with
  | none => rfl
  | some p =>
    rw [portLike?_foldl_addPort, show n.bare.portLike? (.flowIn key) = none from rfl,
      Option.or_none] at hp
    obtain ⟨mem, here⟩ := mem_of_last hp
    rw [Option.map_some, multi_standing_input loose (fun r hr => (titles r hr).2) mem here.1]

theorem titles_wantedPorts (lang : Language) (lib : Library) (n : Node) :
    ∀ p ∈ wantedPorts lang lib n, p.title = p.key ∧ (p.direction = .input → p.multi = false) := by
  intro p hp
  unfold wantedPorts at hp
  split at hp
  · cases hp
  · exact allows_of_mem_modulePorts hp

end Node

namespace Graph

variable {lang : Language} {id : NodeId} {n : Node}

/-- An adapted call has lost the ports that are not wanted, and taken over those that are. -/
theorem node?_adaptModuleCall (lang : Language) (lib : Library) {a : Adapted}
    (hn : a.graph.node? id = some n) :
    (adaptModuleCall lang id lib a n).graph.node? id = some
      ((wantedPorts lang lib n).foldl Node.takePort (n.pruned (wantedPorts lang lib n))) := by
  rw [adaptModuleCall_eq]
  exact node?_foldl_adaptPort (node?_foldl_dropOutput (node?_foldl_dropInput hn _) _) _

/-- Whatever a session has done and whatever modules there are now, an adapted module call has the
inputs of a new call with its data, and its outputs, except that an output that stands keeps
whether it takes many wires; so the outputs are those of a new call exactly if those that stand
agree with the new ones in that. -/
theorem adapt_mirrors_iff (name : String) {edits : List Edit}
    (he : ∀ e ∈ edits, e.isRetag = false) (hn : (session lang name edits).node? id = some n)
    (hk : lang.kind? n.component = some .moduleCall) (lib : Library) :
    ∃ m, ((session lang name edits).adapt lang id lib).1.node? id = some m ∧ m.data = n.data ∧
      (∀ key, m.input? key = (Node.equip lang lib .moduleCall n.bare).input? key) ∧
      (∀ key, m.output? key = ((Node.equip lang lib .moduleCall n.bare).output? key).map fun p =>
        { p with multi := ((n.standing? (wantedPorts lang lib n) p).getD p).multi }) ∧
      ((∀ key, m.output? key = (Node.equip lang lib .moduleCall n.bare).output? key) ↔
        ∀ key p q, (Node.equip lang lib .moduleCall n.bare).output? key = some p →
          n.standing? (wantedPorts lang lib n) p = some q → q.multi = p.multi) := by
  have loose := (loose_session lang name he).node hn hk
  generalize session lang name edits = g at hn ⊢
  have adapted := node?_adaptModuleCall (a := { graph := g }) lang lib hn
  have same : wantedPorts lang lib n.bare = wantedPorts lang lib n := rfl
  have titles := Node.titles_wantedPorts lang lib n
  rw [Node.equip_moduleCall, same]
  rw [adapt_eq_ruleFor lib hn hk]
  generalize wantedPorts lang lib n = ps at adapted titles ⊢
  have title := fun p hp => (titles p hp).1
  have outputs := loose.output?_mirrored title
  refine ⟨_, adapted, ?_, loose.input?_mirrored titles, outputs, ?_⟩
  · exact List.foldlRecOn ps Node.takePort (motive := fun k : Node => k.data = n.data)
      (n.data_pruned ps) fun k hk p _ => (k.data_takePort p).trans hk
  constructor
  · intro all key p q hp hq
    have shown := (outputs key).symm.trans (all key)
    rw [hp] at shown
    simp only [Option.map_some, hq, Option.getD_some, Option.some.injEq] at shown
    exact (congrArg Port.multi shown :)
  · intro agree key
    rw [outputs key]
    cases hp : (ps.foldl Node.addPort n.bare).output? key with
    | none => rfl
    | some p =>
      cases hq : n.standing? ps p with
      | none => rw [Option.map_some, hq, Option.getD_none]
      | some q => rw [Option.map_some, hq, Option.getD_some, agree key p q hp hq]

end Graph

/-! ### A sample -/

namespace Sample

/-- A module with one bridge, under the same name whatever its component. -/
def stepping (component type : String) : Library := .ofList [("step",
  Graph.session layered "step" [.create .empty component
    (.ofList [("name", .str "done"), ("typeName", .str type)])])]

/-- A call of the module as it was made for an output of integers. -/
def stepCall : List Edit :=
  [.create (stepping "Output" "int") "Module" (.ofList [(moduleKey, .str "step")])]

def stepCallNode : Node := Node.equip layered (stepping "Output" "int") .moduleCall
  { id := 1, component := "Module", data := .ofList [(moduleKey, .str "step")] }

theorem stepCall_edits : ∀ e ∈ stepCall, e.isRetag = false := by
  simp [stepCall, Edit.isRetag]

theorem stepCall_node : (Graph.session layered "main" stepCall).node? 1 = some stepCallNode ∧
    layered.kind? stepCallNode.component = some .moduleCall := by
  constructor <;> decide +kernel

/-- An output that has become an exit for flow takes many wires at a call that was there, and one at
a new call. -/
theorem stepCall_exit_multi :
    (∀ e ∈ stepCall, e.isRetag = false) ∧
      layered.kind? stepCallNode.component = some .moduleCall ∧
      ((Graph.session layered "main" stepCall).adapt layered 1
        (stepping "OutputFlow" "any")).1.output? 1 "done" =
          some { Port.flowOut "done" "done" with multi := true } ∧
      (Node.equip layered (stepping "OutputFlow" "any") .moduleCall stepCallNode.bare).output?
        "done" = some (.flowOut "done" "done") := by
  refine ⟨stepCall_edits, stepCall_node.2, ?_, ?_⟩ <;> decide +kernel

/-- An output of another type is that of a new call. -/
theorem adapt_mirrors_iff_stepCall :
    (∀ e ∈ stepCall, e.isRetag = false) ∧
      (Graph.session layered "main" stepCall).node? 1 = some stepCallNode ∧
      layered.kind? stepCallNode.component = some .moduleCall ∧
      ∃ m, ((Graph.session layered "main" stepCall).adapt layered 1
          (stepping "Output" "count")).1.node? 1 = some m ∧
        ∀ key, m.output? key = (Node.equip layered (stepping "Output" "count") .moduleCall
          stepCallNode.bare).output? key := by
  obtain ⟨here, kind⟩ := stepCall_node
  obtain ⟨m, hm, -, -, -, mirrored⟩ :=
    Graph.adapt_mirrors_iff "main" stepCall_edits here kind (stepping "Output" "count")
  refine ⟨stepCall_edits, here, kind, m, hm, mirrored.2 fun key p q hp hq => ?_⟩
  have agree : (Node.equip layered (stepping "Output" "count") .moduleCall
      stepCallNode.bare).outputs.entries.all (fun e => (stepCallNode.standing?
        (wantedPorts layered (stepping "Output" "count") stepCallNode) e.2).all
          (·.multi == e.2.multi)) = true := by
    decide +kernel
  have found := List.all_eq_true.1 agree _ (OrderedMap.get?_eq_some_iff.1 hp)
  rw [hq] at found
  exact beq_iff_eq.1 found

end Sample

end FlowScript
