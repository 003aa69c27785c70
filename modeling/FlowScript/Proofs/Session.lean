import FlowScript.Proofs.Adapting

/-!
# Edit sessions

A graph is made by edits from an empty one.  Every edit keeps a graph sound, so the invariants of
well-wired graphs hold after any session, and a refused edit leaves the graph as it was.

* `Edit`, `Graph.apply`, `Graph.session`: edits, one after the other;
* `Graph.Sound.apply`: one edit; `Graph.sound_session`: a whole session.
-/

namespace FlowScript

/-- One edit of a graph. -/
inductive Edit
  | create (library : Library) (component : String) (data : NodeData)
  | set (id : NodeId) (key : String) (value : Json)
  | setDefault (id : NodeId) (key : String) (value : Json)
  | unset (id : NodeId) (key : String)
  | connect (wire : Wire)
  | disconnect (wire : Wire)
  | remove (id : NodeId)
  | retagInput (id : NodeId) (key : String) (tag : Tag)
  | retagOutput (id : NodeId) (key : String) (tag : Tag)
  | adapt (library : Library) (id : NodeId)

namespace Graph

/-- Make one edit. -/
def apply (lang : Language) (g : Graph) : Edit → Graph
  | .create library component data =>
    match g.create lang library component data with
    | .ok (g', _) => g'
    | .error _ => g
  | .set id key value => g.modifyNode id (·.set key value)
  | .setDefault id key value => g.modifyNode id (·.setDefault key value)
  | .unset id key => g.modifyNode id (·.unset key)
  | .connect wire =>
    match g.connect wire with
    | .ok g' => g'
    | .error _ => g
  | .disconnect wire => g.cut wire
  | .remove id => g.removeNode id
  | .retagInput id key tag => (g.setInputTag id key tag).1
  | .retagOutput id key tag => (g.setOutputTag id key tag).1
  | .adapt library id => (g.adapt lang id library).1

/-- The graph that a list of edits makes of an empty one. -/
def session (lang : Language) (name : String) (edits : List Edit) : Graph :=
  edits.foldl (apply lang) { name }

variable {lang : Language} {g : Graph}

/-! ### One edit -/

theorem sound_empty (lang : Language) (name : String) : Sound lang { name } :=
  ⟨WellWired.empty name, fun hn => by cases hn⟩

/-- A change of one node that keeps the graph well wired and the keys of the node's ports, and
changes nothing if the node is absent. -/
theorem Sound.of_change (h : g.Sound lang) {id : NodeId} {g' : Graph}
    (absent : g.node? id = none → g' = g)
    (change : ∀ n, g.node? id = some n →
      Adapting g id n.component n.inputs.keys n.outputs.keys g') : g'.Sound lang := by
  cases hn : g.node? id with
  | none =>
    rw [absent hn]
    exact h
  | some n => exact h.of_sameKeys hn (change n hn)

theorem Sound.edit (h : g.Sound lang) (id : NodeId) {f : Node → Node}
    (hf : ∀ n : Node, n.SamePorts (f n)) : (g.modifyNode id f).Sound lang :=
  h.of_change modifyNode_of_none
    fun _ hn => (adapting_refl h.wired hn).edit hf

theorem Sound.setInputTag (h : g.Sound lang) (id : NodeId) (key : String) (tag : Tag) :
    (g.setInputTag id key tag).1.Sound lang := by
  refine h.of_change (fun hn => ?_) fun n hn => (adapting_refl h.wired hn).setInputTag key tag
  unfold Graph.setInputTag
  rw [hn]
  rfl

theorem Sound.setOutputTag (h : g.Sound lang) (id : NodeId) (key : String) (tag : Tag) :
    (g.setOutputTag id key tag).1.Sound lang := by
  refine h.of_change (fun hn => ?_) fun n hn => (adapting_refl h.wired hn).setOutputTag key tag
  unfold Graph.setOutputTag
  rw [hn]
  rfl

theorem Sound.removeNode (h : g.Sound lang) (id : NodeId) : (g.removeNode id).Sound lang := by
  refine h.of_nodes (h.wired.removeNode id) fun {j n} hn => ?_
  rw [node?_removeNode] at hn
  split_ifs at hn
  exact hn

/-- A node is made of a component of the language, under the next number. -/
theorem create_eq_ok {library : Library} {component : String} {data : NodeData} {g' : Graph}
    {n : Node} (hc : g.create lang library component data = .ok (g', n)) :
    g' = g.addNode n ∧ n.id = g.nextId ∧ n.Keyed ∧
      ∀ {kind}, lang.kind? n.component = some kind → n.Shaped kind := by
  unfold Graph.create at hc
  cases hk : lang.kind? component with
  | none =>
    rw [hk] at hc
    cases hc
  | some kind =>
    rw [hk] at hc
    obtain ⟨keyed, shaped⟩ := Node.equip_keyed_shaped lang library kind
      (n := { id := g.nextId, component, data }) rfl rfl
    have same := Node.sameName_equip lang library kind { id := g.nextId, component, data }
    cases hc
    refine ⟨rfl, same.1, keyed, fun {kind'} hk' => ?_⟩
    rw [same.2, hk] at hk'
    cases hk'
    exact shaped

/-- A new node has a number of its own, so no wire is at it. -/
theorem Sound.create (h : g.Sound lang) {library : Library} {component : String} {data : NodeData}
    {g' : Graph} {n : Node} (hc : g.create lang library component data = .ok (g', n)) :
    g'.Sound lang := by
  obtain ⟨rfl, hid, keyed, shaped⟩ := create_eq_ok hc
  refine ⟨h.wired.addNode (by rw [hid]; exact node?_nextId g) keyed, ?_⟩
  intro j m kind hm hk
  rw [node?_addNode] at hm
  split_ifs at hm
  · cases hm
    exact shaped hk
  · exact h.shaped hm hk

/-- Every edit keeps a graph sound. -/
theorem Sound.apply (h : g.Sound lang) (e : Edit) : (g.apply lang e).Sound lang := by
  cases e with
  | create library component data =>
    unfold Graph.apply
    dsimp only
    cases hc : g.create lang library component data with
    | ok made => exact h.create hc
    | error _ => exact h
  | set id key value => exact h.edit id fun n => n.samePorts_set key value
  | setDefault id key value => exact h.edit id fun n => n.samePorts_setDefault key value
  | unset id key => exact h.edit id fun n => n.samePorts_unset key
  | connect wire =>
    unfold Graph.apply
    dsimp only
    cases hc : g.connect wire with
    | ok g' =>
      obtain ⟨rfl, -⟩ := connect_eq_ok hc
      exact h.of_nodes (h.wired.connect hc) id
    | error _ => exact h
  | disconnect wire => exact h.of_nodes (h.wired.cut wire) id
  | remove id => exact h.removeNode id
  | retagInput id key tag => exact h.setInputTag id key tag
  | retagOutput id key tag => exact h.setOutputTag id key tag
  | adapt library id => exact h.adapt id library

/-! ### Sessions -/

theorem sound_foldl (h : g.Sound lang) (edits : List Edit) :
    (edits.foldl (Graph.apply lang) g).Sound lang := by
  induction edits generalizing g with
  | nil => exact h
  | cons e edits ih => exact ih (h.apply e)

/-- Every session leads to a sound graph. -/
theorem sound_session (lang : Language) (name : String) (edits : List Edit) :
    (session lang name edits).Sound lang :=
  sound_foldl (sound_empty lang name) edits

/-- Whatever the edits, the graph they make is well wired. -/
theorem session_wellWired (lang : Language) (name : String) (edits : List Edit) :
    (session lang name edits).WellWired :=
  (sound_session lang name edits).wired

end Graph

end FlowScript
