import FlowScript.Proofs.Rests

/-!
# Module calls that come to rest

A module may have several bridges of one name on one side, with different types: a call then has one
port for them, which is retagged for each of them in turn and ends with the tag of the last.  Following
the rule again retags it through the same tags, and cuts nothing, since the wires that were left fit
every one of them.

* `Port.Over`: two ports are for the same place of a node, so that the later one counts;
* `Node.takePort`: what taking over a port does to a node; `Node.foldl_retagLike_eq_self`: retagging
  through all the tags of a place ends where it began if the last one is shown;
* `Graph.Fits`: all wires at a place fit a tag; `Graph.foldl_adaptPort_of_fits`;
* `rests_adaptModuleCall`: the rule for module calls rests where it has been followed.
-/

namespace FlowScript

open FlowScript.Graph

/-- Two ports are for the same place of a node. -/
def Port.Over (p q : Port) : Prop := p.direction = q.direction ∧ p.key = q.key

instance (p q : Port) : Decidable (p.Over q) := inferInstanceAs (Decidable (_ ∧ _))

namespace Node

/-- The port in the place of another. -/
def portLike? (n : Node) (p : Port) : Option Port :=
  match p.direction with
  | .input => n.input? p.key
  | .output => n.output? p.key

/-- Give the port in the place of another its tag. -/
def retagLike (n : Node) (p : Port) : Node :=
  match p.direction with
  | .input => n.retagInput p.key p.tag
  | .output => n.retagOutput p.key p.tag

/-- Take over a port: retag the one in its place, or add it. -/
def takePort (n : Node) (p : Port) : Node :=
  if (n.portLike? p).isSome then n.retagLike p else n.addPort p

/-- A node has a port in the place of another, with the same tag. -/
def ShowsPort (n : Node) (p : Port) : Prop := ∃ port, n.portLike? p = some port ∧ port.tag = p.tag

variable {n : Node} {p q : Port}

theorem portLike?_of_input (h : p.direction = .input) (n : Node) :
    n.portLike? p = n.input? p.key := by
  unfold portLike?
  rw [h]

theorem portLike?_of_output (h : p.direction = .output) (n : Node) :
    n.portLike? p = n.output? p.key := by
  unfold portLike?
  rw [h]

theorem portLike?_retagLike (n : Node) (p q : Port) :
    (n.retagLike p).portLike? q =
      if p.Over q then (n.portLike? q).map fun port => { port with tag := p.tag }
      else n.portLike? q := by
  obtain ⟨key, title, side, tag, multi⟩ := p
  obtain ⟨key', title', side', tag', multi'⟩ := q
  cases side with
  | input =>
    cases side' with
    | input => simp [retagLike, portLike?, Port.Over, input?_retagInput]
    | output => simp [retagLike, portLike?, Port.Over, retagInput, output?]
  | output =>
    cases side' with
    | input => simp [retagLike, portLike?, Port.Over, retagOutput, input?]
    | output => simp [retagLike, portLike?, Port.Over, output?_retagOutput]

theorem portLike?_addPort (n : Node) (p q : Port) :
    (n.addPort p).portLike? q = if p.Over q then some p else n.portLike? q := by
  obtain ⟨key, title, side, tag, multi⟩ := p
  obtain ⟨key', title', side', tag', multi'⟩ := q
  cases side with
  | input =>
    cases side' with
    | input => simp [addPort, portLike?, Port.Over, input?_addInput]
    | output => simp [addPort, portLike?, Port.Over, addInput, output?]
  | output =>
    cases side' with
    | input => simp [addPort, portLike?, Port.Over, addOutput, input?]
    | output => simp [addPort, portLike?, Port.Over, output?_addOutput]

/-! ### Taking over ports -/

theorem showsPort_takePort (n : Node) (p : Port) : (n.takePort p).ShowsPort p := by
  unfold ShowsPort takePort
  split_ifs with there
  · obtain ⟨port, hport⟩ := Option.isSome_iff_exists.1 there
    refine ⟨{ port with tag := p.tag }, ?_, rfl⟩
    rw [portLike?_retagLike, if_pos ⟨rfl, rfl⟩, hport]
    rfl
  · exact ⟨p, by rw [portLike?_addPort, if_pos ⟨rfl, rfl⟩], rfl⟩

/-- Taking over a port leaves other places alone. -/
theorem portLike?_takePort (h : ¬ p.Over q) (n : Node) :
    (n.takePort p).portLike? q = n.portLike? q := by
  unfold takePort
  split_ifs
  · rw [portLike?_retagLike, if_neg h]
  · rw [portLike?_addPort, if_neg h]

theorem isSome_portLike?_takePort (h : (n.portLike? q).isSome = true) (p : Port) :
    ((n.takePort p).portLike? q).isSome = true := by
  by_cases hpq : p.Over q
  · unfold takePort
    split_ifs
    · rw [portLike?_retagLike, if_pos hpq, Option.isSome_map]
      exact h
    · rw [portLike?_addPort, if_pos hpq]
      rfl
  · rw [portLike?_takePort hpq]
    exact h

/-- Every port that is taken over has a port in its place. -/
theorem isSome_portLike?_foldl_takePort {ps : List Port} (h : p ∈ ps) (n : Node) :
    ((ps.foldl takePort n).portLike? p).isSome = true := by
  obtain ⟨before, after, rfl⟩ := List.append_of_mem h
  rw [List.foldl_append, List.foldl_cons]
  refine List.foldlRecOn after takePort
    (motive := fun m : Node => (m.portLike? p).isSome = true) ?_
    fun m hm q _ => isSome_portLike?_takePort hm q
  obtain ⟨port, hport, -⟩ := showsPort_takePort (before.foldl takePort n) p
  rw [hport]
  rfl

/-- The last port for a place is the one that shows. -/
theorem showsPort_foldl_takePort {after : List Port} (last : ∀ q ∈ after, ¬ q.Over p)
    (before : List Port) (n : Node) : ((before ++ p :: after).foldl takePort n).ShowsPort p := by
  rw [List.foldl_append, List.foldl_cons]
  refine List.foldlRecOn after takePort (motive := fun m : Node => m.ShowsPort p)
    (showsPort_takePort ..) fun m hm q hq => ?_
  obtain ⟨port, hport, tag⟩ := hm
  exact ⟨port, (portLike?_takePort (last q hq) m).trans hport, tag⟩

/-! ### Retagging through the tags of a place -/

theorem retag_retag (ports : OrderedMap String Port) (key : String) (tag tag' : Tag) :
    retag (retag ports key tag) key tag' = retag ports key tag' :=
  OrderedMap.modify_modify ..

theorem retag_comm (ports : OrderedMap String Port) {key key' : String} (h : key ≠ key')
    (tag tag' : Tag) :
    retag (retag ports key tag) key' tag' = retag (retag ports key' tag') key tag :=
  OrderedMap.modify_comm _ h _ _

/-- A later tag for the same place counts. -/
theorem retagLike_retagLike (h : q.Over p) (n : Node) :
    (n.retagLike p).retagLike q = n.retagLike q := by
  unfold retagLike
  rw [h.1]
  cases p.direction with
  | input =>
    simp only [retagInput]
    rw [h.2, retag_retag]
  | output =>
    simp only [retagOutput]
    rw [h.2, retag_retag]

/-- Tags for different places may be given in either order. -/
theorem retagLike_comm (h : ¬ q.Over p) (n : Node) :
    (n.retagLike p).retagLike q = (n.retagLike q).retagLike p := by
  unfold Port.Over at h
  unfold retagLike
  cases hp : p.direction with
  | input =>
    cases hq : q.direction with
    | input =>
      have keys : p.key ≠ q.key := fun e => h ⟨hq.trans hp.symm, e.symm⟩
      simp only [retagInput]
      rw [retag_comm _ keys]
    | output => rfl
  | output =>
    cases hq : q.direction with
    | input => rfl
    | output =>
      have keys : p.key ≠ q.key := fun e => h ⟨hq.trans hp.symm, e.symm⟩
      simp only [retagOutput]
      rw [retag_comm _ keys]

/-- A tag is of no account if another one is given to the same place later. -/
theorem foldl_retagLike_retagLike {ps : List Port} (h : ∃ q ∈ ps, q.Over p) (n : Node) :
    ps.foldl retagLike (n.retagLike p) = ps.foldl retagLike n := by
  induction ps generalizing n with
  | nil =>
    obtain ⟨q, hq, -⟩ := h
    cases hq
  | cons r ps ih =>
    rw [List.foldl_cons, List.foldl_cons]
    by_cases same : r.Over p
    · rw [retagLike_retagLike same]
    · rw [retagLike_comm same]
      obtain ⟨q, hq, later⟩ := h
      rcases List.mem_cons.1 hq with rfl | hq
      · exact absurd later same
      · exact ih ⟨q, hq, later⟩ (n.retagLike r)

theorem ShowsPort.retagLike_eq_self (h : n.ShowsPort p) : n.retagLike p = n := by
  obtain ⟨port, hport, tag⟩ := h
  unfold retagLike
  cases hd : p.direction with
  | input =>
    rw [portLike?_of_input hd] at hport
    refine retagInput_eq_self fun port' hport' => ?_
    rw [hport] at hport'
    cases hport'
    exact tag
  | output =>
    rw [portLike?_of_output hd] at hport
    refine retagOutput_eq_self fun port' hport' => ?_
    rw [hport] at hport'
    cases hport'
    exact tag

/-- A node that shows the last tag of every place goes through all of them and ends as it was. -/
theorem foldl_retagLike_eq_self {ps : List Port}
    (h : ∀ before p after, ps = before ++ p :: after → (∀ q ∈ after, ¬ q.Over p) → n.ShowsPort p) :
    ps.foldl retagLike n = n := by
  induction ps with
  | nil => rfl
  | cons p ps ih =>
    have rest : ps.foldl retagLike n = n := by
      refine ih fun before q after e last => h (p :: before) q after ?_ last
      rw [e]
      rfl
    rw [List.foldl_cons]
    by_cases later : ∃ q ∈ ps, q.Over p
    · rw [foldl_retagLike_retagLike later, rest]
    · have shows : n.ShowsPort p := h [] p ps rfl fun q hq same => later ⟨q, hq, same⟩
      rw [shows.retagLike_eq_self, rest]

/-! ### Ports of a module -/

/-- The ports on a side. -/
def portsOn (n : Node) : Direction → OrderedMap String Port
  | .input => n.inputs
  | .output => n.outputs

/-- Every port of a node is in the place of one of some ports. -/
def Covered (ps : List Port) (n : Node) : Prop :=
  ∀ side, ∀ key ∈ (n.portsOn side).keys, ∃ p ∈ ps, p.direction = side ∧ p.key = key

theorem keys_retagLike (n : Node) (p : Port) (side : Direction) :
    ((n.retagLike p).portsOn side).keys = (n.portsOn side).keys := by
  unfold retagLike
  cases p.direction with
  | input =>
    cases side with
    | input => exact OrderedMap.keys_modify ..
    | output => rfl
  | output =>
    cases side with
    | input => rfl
    | output => exact OrderedMap.keys_modify ..

theorem mem_keys_addPort {n : Node} {p : Port} {side : Direction} {key : String}
    (h : key ∈ ((n.addPort p).portsOn side).keys) :
    key ∈ (n.portsOn side).keys ∨ p.direction = side ∧ p.key = key := by
  unfold addPort at h
  cases hp : p.direction with
  | input =>
    rw [hp] at h
    cases side with
    | input =>
      have added : key ∈ (n.addInput p).inputs.keys := h
      rw [keys_addInput] at added
      split_ifs at added
      · exact .inl added
      · rcases List.mem_append.1 added with old | new
        · exact .inl old
        · exact .inr ⟨rfl, (List.mem_singleton.1 new).symm⟩
    | output => exact .inl h
  | output =>
    rw [hp] at h
    cases side with
    | input => exact .inl h
    | output =>
      have added : key ∈ (n.addOutput p).outputs.keys := h
      rw [keys_addOutput] at added
      split_ifs at added
      · exact .inl added
      · rcases List.mem_append.1 added with old | new
        · exact .inl old
        · exact .inr ⟨rfl, (List.mem_singleton.1 new).symm⟩

theorem Covered.takePort {ps : List Port} (h : n.Covered ps) (hp : p ∈ ps) :
    (n.takePort p).Covered ps := by
  intro side key hkey
  unfold Node.takePort at hkey
  split_ifs at hkey
  · rw [keys_retagLike] at hkey
    exact h side key hkey
  · rcases mem_keys_addPort hkey with old | new
    · exact h side key old
    · exact ⟨p, hp, new⟩

end Node

/-! ### Wires at a place -/

namespace Graph

/-- All wires at a place of a node join it to other nodes and fit a tag. -/
def Fits (g : Graph) (id : NodeId) (p : Port) : Prop :=
  match p.direction with
  | .input => ∀ w ∈ g.incoming id p.key, w.source ≠ id ∧ g.producerGives w p.tag = true
  | .output => ∀ w ∈ g.outgoing id p.key, w.target ≠ id ∧ g.consumerTakes w p.tag = true

variable {g g' : Graph} {id : NodeId} {p : Port} {n : Node}

theorem producerGives_congr {w : Wire} {tag : Tag} (h : g'.node? w.source = g.node? w.source) :
    g'.producerGives w tag = g.producerGives w tag := by
  unfold producerGives
  rw [h]

theorem consumerTakes_congr {w : Wire} {tag : Tag} (h : g'.node? w.target = g.node? w.target) :
    g'.consumerTakes w tag = g.consumerTakes w tag := by
  unfold consumerTakes
  rw [h]

/-- In a well-wired graph, the wires at a place fit the tag that it shows. -/
theorem WellWired.fits (wired : g.WellWired) (h : g.At id (·.ShowsPort p)) : g.Fits id p := by
  obtain ⟨n, hn, port, hport, tag⟩ := h
  unfold Fits
  cases hd : p.direction with
  | input =>
    rw [Node.portLike?_of_input hd] at hport
    intro w hw
    obtain ⟨mem, rfl, into⟩ := mem_incoming.1 hw
    obtain ⟨ne, producer, consumer, hp, hc, fit⟩ := wired.joins w mem
    have same : consumer = port := by
      rw [into] at hc
      unfold Graph.input? at hc
      rw [hn] at hc
      exact Option.some.inj (hc.symm.trans hport)
    refine ⟨ne, ?_⟩
    unfold producerGives
    rw [show (g.node? w.source >>= (·.output? w.sourcePort)) = some producer from hp, ← tag, ← same]
    exact fit
  | output =>
    rw [Node.portLike?_of_output hd] at hport
    intro w hw
    obtain ⟨mem, rfl, outOf⟩ := mem_outgoing.1 hw
    obtain ⟨ne, producer, consumer, hp, hc, fit⟩ := wired.joins w mem
    have same : producer = port := by
      rw [outOf] at hp
      unfold Graph.output? at hp
      rw [hn] at hp
      exact Option.some.inj (hp.symm.trans hport)
    refine ⟨ne.symm, ?_⟩
    unfold consumerTakes
    rw [show (g.node? w.target >>= (·.input? w.targetPort)) = some consumer from hc, ← tag, ← same]
    exact fit

/-- Losing wires and changing the node keep what is left fitting. -/
theorem Fits.of_less (h : g.Fits id p) (wires : ∀ w ∈ g'.wires, w ∈ g.wires)
    (others : ∀ j, id ≠ j → g'.node? j = g.node? j) : g'.Fits id p := by
  unfold Fits at h ⊢
  cases hd : p.direction with
  | input =>
    rw [hd] at h
    intro w hw
    obtain ⟨mem, ends⟩ := mem_incoming.1 hw
    obtain ⟨ne, gives⟩ := h w (mem_incoming.2 ⟨wires w mem, ends⟩)
    exact ⟨ne, (producerGives_congr (others _ ne.symm)).trans gives⟩
  | output =>
    rw [hd] at h
    intro w hw
    obtain ⟨mem, ends⟩ := mem_outgoing.1 hw
    obtain ⟨ne, takes⟩ := h w (mem_outgoing.2 ⟨wires w mem, ends⟩)
    exact ⟨ne, (consumerTakes_congr (others _ ne.symm)).trans takes⟩

theorem Fits.edit (h : g.Fits id p) (f : Node → Node) : (g.modifyNode id f).Fits id p :=
  h.of_less (fun _ hw => hw) fun _ hj => node?_modifyNode_of_ne g hj f

/-- Retagging an input to a tag that all its wires fit. -/
theorem setInputTag_of_fits {key : String} {tag : Tag}
    (h : ∀ w ∈ g.incoming id key, w.source ≠ id ∧ g.producerGives w tag = true) :
    g.setInputTag id key tag = (g.modifyNode id (·.retagInput key tag), []) := by
  obtain ⟨stale, e, unfit⟩ := setInputTag_eq g id key tag
  have none : stale = [] := by
    refine List.eq_nil_iff_forall_not_mem.2 fun w hw => ?_
    obtain ⟨mem, refused⟩ := unfit w hw
    obtain ⟨ne, gives⟩ := h w mem
    rw [producerGives_congr (node?_modifyNode_of_ne g ne.symm _), gives] at refused
    cases refused
  rw [e, none]
  rfl

/-- Retagging an output to a tag that all its wires fit. -/
theorem setOutputTag_of_fits {key : String} {tag : Tag}
    (h : ∀ w ∈ g.outgoing id key, w.target ≠ id ∧ g.consumerTakes w tag = true) :
    g.setOutputTag id key tag = (g.modifyNode id (·.retagOutput key tag), []) := by
  obtain ⟨stale, e, unfit⟩ := setOutputTag_eq g id key tag
  have none : stale = [] := by
    refine List.eq_nil_iff_forall_not_mem.2 fun w hw => ?_
    obtain ⟨mem, refused⟩ := unfit w hw
    obtain ⟨ne, takes⟩ := h w mem
    rw [consumerTakes_congr (node?_modifyNode_of_ne g ne.symm _), takes] at refused
    cases refused
  rw [e, none]
  rfl

/-! ### Taking over ports at a node of a graph -/

theorem adaptPort_of_fits (hn : g.node? id = some n) (there : (n.portLike? p).isSome = true)
    (fits : g.Fits id p) (cut : List Wire) :
    adaptPort id ⟨g, cut⟩ p = ⟨g.modifyNode id (·.retagLike p), cut⟩ := by
  unfold Fits at fits
  unfold adaptPort Node.retagLike
  rw [hn]
  cases hd : p.direction with
  | input =>
    rw [hd] at fits
    rw [Node.portLike?_of_input hd] at there
    dsimp only
    rw [if_pos there]
    unfold Adapted.step
    dsimp only
    rw [setInputTag_of_fits fits, List.append_nil]
  | output =>
    rw [hd] at fits
    rw [Node.portLike?_of_output hd] at there
    dsimp only
    rw [if_pos there]
    unfold Adapted.step
    dsimp only
    rw [setOutputTag_of_fits fits, List.append_nil]

/-- Where all ports are there and all wires fit, taking over ports is retagging. -/
theorem foldl_adaptPort_of_fits {ps : List Port} (fits : ∀ p ∈ ps, g.Fits id p)
    (there : g.At id fun n => ∀ p ∈ ps, (n.portLike? p).isSome = true) (cut : List Wire) :
    ps.foldl (adaptPort id) ⟨g, cut⟩ =
      ⟨g.modifyNode id fun n => ps.foldl Node.retagLike n, cut⟩ := by
  induction ps generalizing g with
  | nil =>
    have idle : (g.modifyNode id fun n => [].foldl Node.retagLike n) = g :=
      modifyNode_eq_self fun _ _ => rfl
    rw [idle]
    rfl
  | cons p ps ih =>
    obtain ⟨n, hn, all⟩ := there
    obtain ⟨here, rest⟩ := List.forall_mem_cons.1 all
    have still : (g.modifyNode id (·.retagLike p)).At id fun n =>
        ∀ q ∈ ps, (n.portLike? q).isSome = true := by
      refine At.edit (P := (· = n)) ⟨n, hn, rfl⟩ ?_
      rintro _ rfl q hq
      rw [Node.portLike?_retagLike]
      split_ifs
      · rw [Option.isSome_map]
        exact rest q hq
      · exact rest q hq
    rw [List.foldl_cons, adaptPort_of_fits hn here (fits p List.mem_cons_self),
      ih (fun q hq => (fits q (List.mem_cons_of_mem p hq)).edit _) still]
    unfold modifyNode
    rw [OrderedMap.modify_modify]
    rfl

theorem node?_adaptPort {a : Adapted} (hn : a.graph.node? id = some n) (p : Port) :
    (adaptPort id a p).graph.node? id = some (n.takePort p) := by
  have changed : (adaptPort id a p).graph.At id (· = n.takePort p) := by
    unfold adaptPort Node.takePort Node.addPort Node.retagLike
    rw [hn]
    cases hd : p.direction with
    | input =>
      rw [Node.portLike?_of_input hd]
      dsimp only
      split_ifs
      · exact At.of_nodes (P := (· = n)) ⟨n, hn, rfl⟩ (nodes_setInputTag ..) (by rintro _ rfl; rfl)
      · exact At.edit (P := (· = n)) ⟨n, hn, rfl⟩ (by rintro _ rfl; rfl)
    | output =>
      rw [Node.portLike?_of_output hd]
      dsimp only
      split_ifs
      · exact At.of_nodes (P := (· = n)) ⟨n, hn, rfl⟩ (nodes_setOutputTag ..) (by rintro _ rfl; rfl)
      · exact At.edit (P := (· = n)) ⟨n, hn, rfl⟩ (by rintro _ rfl; rfl)
  obtain ⟨m, hm, rfl⟩ := changed
  exact hm

theorem node?_foldl_adaptPort {a : Adapted} (hn : a.graph.node? id = some n) (ps : List Port) :
    (ps.foldl (adaptPort id) a).graph.node? id = some (ps.foldl Node.takePort n) := by
  induction ps generalizing a n with
  | nil => exact hn
  | cons p ps ih => exact ih (node?_adaptPort hn p)

/-- The wires that are left fit every port that was taken over. -/
theorem fits_foldl_adaptPort {base : Graph} {component : String} {ins outs : List String}
    {a : Adapted} (h : Adapting base id component ins outs a.graph) {ps : List Port} (hp : p ∈ ps) :
    (ps.foldl (adaptPort id) a).graph.Fits id p := by
  obtain ⟨before, after, rfl⟩ := List.append_of_mem hp
  rw [List.foldl_append, List.foldl_cons]
  obtain ⟨ins', outs', way⟩ : ∃ ins' outs', Adapting base id component ins' outs'
      (before.foldl (adaptPort id) a).graph := by
    refine List.foldlRecOn before (adaptPort id)
      (motive := fun b : Adapted => ∃ ins' outs', Adapting base id component ins' outs' b.graph)
      ⟨ins, outs, h⟩ ?_
    rintro b ⟨_, _, hb⟩ q -
    exact hb.adaptPort q
  obtain ⟨n, hn, -⟩ := way.node
  obtain ⟨_, _, taken⟩ := way.adaptPort p
  have fits : (adaptPort id (before.foldl (adaptPort id) a) p).graph.Fits id p :=
    taken.wired.fits ⟨_, node?_adaptPort hn p, n.showsPort_takePort p⟩
  have changes : Adapted.Changes id (adaptPort id (before.foldl (adaptPort id) a) p)
      (after.foldl (adaptPort id) (adaptPort id (before.foldl (adaptPort id) a) p)) :=
    Adapted.Changes.foldl (fun _ q hb => hb.adaptPort q) after .refl
  exact fits.of_less changes.less.1 changes.less.2

/-! ### The rule -/

/-- The ports that a module call is to have. -/
def wantedPorts (lang : Language) (lib : Library) (n : Node) : List Port :=
  match lib.callee? n with
  | none => []
  | some callee => modulePorts lang callee

/-- The keys of ports on a side that are not wanted. -/
def staleKeys (wanted : List Port) (side : Direction) (ports : List Port) : List String :=
  (ports.filter fun p => !wanted.any fun d => d.direction == side && d.key == p.key).map (·.key)

theorem adaptModuleCall_eq (lang : Language) (id : NodeId) (lib : Library) (a : Adapted) (n : Node) :
    adaptModuleCall lang id lib a n = (wantedPorts lang lib n).foldl (adaptPort id)
      ((staleKeys (wantedPorts lang lib n) .output n.outputs.values).foldl
        (fun a key => a.step fun g => g.dropOutput id key)
        ((staleKeys (wantedPorts lang lib n) .input n.inputs.values).foldl
          (fun a key => a.step fun g => g.dropInput id key) a)) := rfl

/-- A key that is not stale is that of a wanted port. -/
theorem exists_wanted {wanted : List Port} {side : Direction} {ports : OrderedMap String Port}
    (keyed : ∀ {key port}, ports.get? key = some port → port.key = key) {key : String}
    (hkey : key ∈ ports.keys.filter (· ∉ staleKeys wanted side ports.values)) :
    ∃ p ∈ wanted, p.direction = side ∧ p.key = key := by
  obtain ⟨mem, kept⟩ := List.mem_filter.1 hkey
  obtain ⟨port, hport⟩ := OrderedMap.mem_keys_iff.1 mem
  by_contra unwanted
  refine (of_decide_eq_true kept) (List.mem_map.2 ⟨port, List.mem_filter.2 ⟨?_, ?_⟩, keyed hport⟩)
  · exact OrderedMap.mem_values_iff.2 ⟨key, hport⟩
  · rw [Bool.not_eq_true', List.any_eq_false]
    intro p hp
    rw [keyed hport]
    simp only [Bool.and_eq_true, beq_iff_eq]
    exact fun both => unwanted ⟨p, hp, both⟩

/-- A node whose ports are all wanted has no stale ones. -/
theorem staleKeys_eq_nil {wanted : List Port} {side : Direction} {ports : OrderedMap String Port}
    (keyed : ∀ {key port}, ports.get? key = some port → port.key = key)
    (covered : ∀ key ∈ ports.keys, ∃ p ∈ wanted, p.direction = side ∧ p.key = key) :
    staleKeys wanted side ports.values = [] := by
  unfold staleKeys
  rw [List.map_eq_nil_iff, List.filter_eq_nil_iff]
  intro port hport
  obtain ⟨key, found⟩ := OrderedMap.mem_values_iff.1 hport
  obtain ⟨p, hp, side, same⟩ := covered key (OrderedMap.mem_keys_iff.2 ⟨port, found⟩)
  simp only [Bool.not_eq_true', List.any_eq_false, not_forall]
  refine ⟨p, hp, ?_⟩
  simp [side, same, keyed found]

end Graph

theorem Node.data_takePort (n : Node) (p : Port) : (n.takePort p).data = n.data := by
  unfold Node.takePort Node.addPort Node.retagLike
  split_ifs
  · split <;> rfl
  · split <;> rfl

theorem wantedPorts_congr {lang : Language} {lib : Library} {n m : Node} (h : m.data = n.data) :
    wantedPorts lang lib m = wantedPorts lang lib n := by
  unfold wantedPorts Library.callee? Node.text?
  rw [h]

section Rule

variable {lang : Language} {id : NodeId} {lib : Library} {a : Adapted} {n m : Node}

/-- Before it takes over the ports of its module, a call has lost those that are not wanted. -/
theorem exists_dropped (wired : a.graph.WellWired) (hn : a.graph.node? id = some n)
    (wanted : List Port) :
    ∃ d : Adapted, (staleKeys wanted .output n.outputs.values).foldl
        (fun a key => a.step fun g => g.dropOutput id key)
        ((staleKeys wanted .input n.inputs.values).foldl
          (fun a key => a.step fun g => g.dropInput id key) a) = d ∧
      ∃ ins outs k, Adapting a.graph id n.component ins outs d.graph ∧
        d.graph.node? id = some k ∧ k.data = n.data ∧ k.Covered wanted := by
  have dropped := ((adapting_refl wired hn).foldl_dropInput
    (staleKeys wanted .input n.inputs.values)).foldl_dropOutput
      (staleKeys wanted .output n.outputs.values)
  have noted : a.graph.At id fun k => k.data = n.data := ⟨n, hn, rfl⟩
  have kept := At.foldl (staleKeys wanted .output n.outputs.values)
    (At.foldl (staleKeys wanted .input n.inputs.values) noted
      fun (b : Adapted) key _ (hb : b.graph.At id _) =>
        show (b.step fun g => g.dropInput id key).graph.At id _ from
          hb.of_nodes (nodes_dropInput ..) fun _ hk => hk)
    fun (b : Adapted) key _ (hb : b.graph.At id _) =>
      show (b.step fun g => g.dropOutput id key).graph.At id _ from
        hb.of_nodes (nodes_dropOutput ..) fun _ hk => hk
  obtain ⟨k, hk, -, ins, outs⟩ := dropped.node
  have keyed := wired.keyed hn
  refine ⟨_, rfl, _, _, k, dropped, hk, kept.of_node? hk, ?_⟩
  intro side key hkey
  cases side with
  | input =>
    have left : key ∈ k.inputs.keys := hkey
    rw [ins] at left
    exact exists_wanted (fun hp => (keyed.input hp).1) left
  | output =>
    have left : key ∈ k.outputs.keys := hkey
    rw [outs] at left
    exact exists_wanted (fun hp => (keyed.output hp).1) left

/-- Following the rule for module calls again changes nothing. -/
theorem rests_adaptModuleCall (wired : a.graph.WellWired) (hn : a.graph.node? id = some n)
    (hm : (adaptModuleCall lang id lib a n).graph.node? id = some m) :
    Rests (adaptModuleCall lang id lib · m) (adaptModuleCall lang id lib a n).graph := by
  obtain ⟨_, _, adapted⟩ := (adapting_refl wired hn).adaptModuleCall lang lib n
  have keyed := adapted.wired.keyed hm
  rw [adaptModuleCall_eq] at hm ⊢
  obtain ⟨d, e, ins, outs, k, dropped, hk, data, covered⟩ :=
    exists_dropped wired hn (wantedPorts lang lib n)
  rw [e] at hm ⊢
  generalize hw : wantedPorts lang lib n = wanted at hm covered ⊢
  have taken : m = wanted.foldl Node.takePort k := by
    rw [node?_foldl_adaptPort hk] at hm
    exact (Option.some.inj hm).symm
  have wantedAgain : wantedPorts lang lib m = wanted := by
    rw [← hw]
    refine wantedPorts_congr (Eq.trans ?_ data)
    rw [taken]
    exact List.foldlRecOn wanted Node.takePort (motive := fun k' : Node => k'.data = k.data) rfl
      fun k' hk' p _ => (k'.data_takePort p).trans hk'
  have coveredAgain : m.Covered wanted := by
    rw [taken]
    exact List.foldlRecOn wanted Node.takePort (motive := Node.Covered wanted) covered
      fun k' hk' p hp => hk'.takePort hp
  have fits : ∀ p ∈ wanted, (wanted.foldl (adaptPort id) d).graph.Fits id p :=
    fun p hp => fits_foldl_adaptPort dropped hp
  have there : (wanted.foldl (adaptPort id) d).graph.At id fun m =>
      ∀ p ∈ wanted, (m.portLike? p).isSome = true := by
    refine ⟨m, hm, fun p hp => ?_⟩
    rw [taken]
    exact Node.isSome_portLike?_foldl_takePort hp k
  -- the tags go round and end with the last one of each place, which is the one that shows
  have around : wanted.foldl Node.retagLike m = m := by
    refine Node.foldl_retagLike_eq_self fun before p after split last => ?_
    rw [taken, split]
    exact Node.showsPort_foldl_takePort last before k
  intro cut
  dsimp only
  rw [adaptModuleCall_eq, wantedAgain,
    staleKeys_eq_nil (fun hp => (keyed.input hp).1) (coveredAgain .input),
    staleKeys_eq_nil (fun hp => (keyed.output hp).1) (coveredAgain .output)]
  show wanted.foldl (adaptPort id) ⟨_, cut⟩ = _
  rw [foldl_adaptPort_of_fits fits there, modifyNode_eq_self]
  intro m' hm'
  rw [hm] at hm'
  cases hm'
  exact around

end Rule

end FlowScript
