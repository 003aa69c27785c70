import FlowScript.Proofs.Layout

/-!
# What adapting a node touches

Whatever its rule, adapting a node comes down to small changes of two sorts: the node is changed in
place, or some of the wires at it are cut and noted.  What holds after every small change holds after
adapting, in any graph, also in one whose wires lead nowhere.

* `Adapted.Changes id a b`: `b` comes from `a` by small changes at one node; one lemma for each
  change and each rule, `Adapted.changes_adapt` for all of them;
* `Graph.Trimmed`: one graph is another one without some wires at a node, and with that node
  changed; `Adapted.Changes.trimmed`: small changes do no more;
* `Graph.adapt_trimmed`: adapting a node does no more.
-/

namespace FlowScript

namespace Node

/-- Another node with the same number and component in the same place. -/
def SamePlace (n m : Node) : Prop :=
  m.id = n.id ∧ m.component = n.component ∧ m.position = n.position

theorem SamePlace.refl (n : Node) : n.SamePlace n := ⟨rfl, rfl, rfl⟩

theorem SamePlace.trans {n m k : Node} (hm : n.SamePlace m) (hk : m.SamePlace k) : n.SamePlace k :=
  ⟨hk.1.trans hm.1, hk.2.1.trans hm.2.1, hk.2.2.trans hm.2.2⟩

theorem samePlace_foldl {α : Type} {f : Node → α → Node} (hf : ∀ (n : Node) x, n.SamePlace (f n x))
    (xs : List α) (n : Node) : n.SamePlace (xs.foldl f n) :=
  List.foldlRecOn xs f (motive := fun m => n.SamePlace m) (.refl n)
    fun m hm x _ => hm.trans (hf m x)

theorem samePlace_setDefault (n : Node) (key : String) (value : Json) :
    n.SamePlace (n.setDefault key value) := by
  unfold setDefault
  split <;> exact ⟨rfl, rfl, rfl⟩

theorem samePlace_setLiteral (n : Node) (key : String) (default : Option String) :
    n.SamePlace (n.setLiteral key default) := by
  unfold setLiteral
  split
  · exact .refl n
  · exact n.samePlace_setDefault key _

end Node

/-! ### Small changes -/

/-- What small changes at a node make of a graph and the wires cut so far. -/
inductive Adapted.Changes (id : NodeId) (a : Adapted) : Adapted → Prop
  | refl : Changes id a a
  | edit {b : Adapted} {f : Node → Node} (h : Changes id a b) (hf : ∀ n : Node, n.SamePlace (f n)) :
    Changes id a (b.update fun g => g.modifyNode id f)
  | cut {b : Adapted} {ws : List Wire} (h : Changes id a b)
    (hw : ∀ w ∈ ws, w ∈ b.graph.wires ∧ w.touches id = true) :
    Changes id a { graph := b.graph.cutAll ws, cut := b.cut ++ ws }

theorem Graph.touches_of_incoming {g : Graph} {id : NodeId} {key : String} {w : Wire}
    (h : w ∈ g.incoming id key) : w ∈ g.wires ∧ w.touches id = true := by
  obtain ⟨hw, rfl, -⟩ := Graph.mem_incoming.1 h
  exact ⟨hw, by simp [Wire.touches]⟩

theorem Graph.touches_of_outgoing {g : Graph} {id : NodeId} {key : String} {w : Wire}
    (h : w ∈ g.outgoing id key) : w ∈ g.wires ∧ w.touches id = true := by
  obtain ⟨hw, rfl, -⟩ := Graph.mem_outgoing.1 h
  exact ⟨hw, by simp [Wire.touches]⟩

theorem Graph.mem_incoming_of_wireInto? {g : Graph} {id : NodeId} {key : String} {w : Wire}
    (h : g.wireInto? id key = some w) : w ∈ g.incoming id key := by
  have ends := List.find?_some h
  simp only [Bool.and_eq_true, beq_iff_eq] at ends
  exact Graph.mem_incoming.2 ⟨List.mem_of_find?_eq_some h, ends⟩

namespace Adapted.Changes

variable {id : NodeId} {a b : Adapted}

/-- A change of the node followed by cutting some of the wires that were at it. -/
theorem editCut (h : Changes id a b) {f : Node → Node} (hf : ∀ n : Node, n.SamePlace (f n))
    {ws : List Wire} (hw : ∀ w ∈ ws, w ∈ b.graph.wires ∧ w.touches id = true) :
    Changes id a { graph := (b.graph.modifyNode id f).cutAll ws, cut := b.cut ++ ws } :=
  (h.edit hf).cut hw

theorem setOutputTag (h : Changes id a b) (key : String) (tag : Tag) :
    Changes id a (b.step fun g => g.setOutputTag id key tag) := by
  obtain ⟨stale, e, unfit⟩ := Graph.setOutputTag_eq b.graph id key tag
  unfold Adapted.step
  dsimp only
  rw [e]
  exact h.editCut (f := (·.retagOutput key tag)) (fun _ => ⟨rfl, rfl, rfl⟩)
    fun w hw => Graph.touches_of_outgoing (unfit w hw).1

theorem setInputTag (h : Changes id a b) (key : String) (tag : Tag) :
    Changes id a (b.step fun g => g.setInputTag id key tag) := by
  obtain ⟨stale, e, unfit⟩ := Graph.setInputTag_eq b.graph id key tag
  unfold Adapted.step
  dsimp only
  rw [e]
  exact h.editCut (f := (·.retagInput key tag)) (fun _ => ⟨rfl, rfl, rfl⟩)
    fun w hw => Graph.touches_of_incoming (unfit w hw).1

theorem dropInput (h : Changes id a b) (key : String) :
    Changes id a (b.step fun g => g.dropInput id key) :=
  h.editCut (f := (·.dropInput key)) (fun _ => ⟨rfl, rfl, rfl⟩)
    fun _ hw => Graph.touches_of_incoming hw

theorem dropOutput (h : Changes id a b) (key : String) :
    Changes id a (b.step fun g => g.dropOutput id key) :=
  h.editCut (f := (·.dropOutput key)) (fun _ => ⟨rfl, rfl, rfl⟩)
    fun _ hw => Graph.touches_of_outgoing hw

theorem sever (h : Changes id a b) {key : String} {w : Wire}
    (hw : b.graph.wireInto? id key = some w) : Changes id a (b.sever w) := by
  have touches : ∀ v ∈ [w], v ∈ b.graph.wires ∧ v.touches id = true := by
    intro v hv
    rw [List.mem_singleton.1 hv]
    exact Graph.touches_of_incoming (Graph.mem_incoming_of_wireInto? hw)
  exact h.cut touches

/-- A change of the node in several steps. -/
theorem editAll (h : Changes id a b) {α : Type} {f : Node → α → Node}
    (hf : ∀ (n : Node) x, n.SamePlace (f n x)) (xs : List α) :
    Changes id a (b.update fun g => g.modifyNode id fun n => xs.foldl f n) :=
  h.edit (Node.samePlace_foldl hf xs)

theorem foldl {α : Type} {f : Adapted → α → Adapted}
    (hf : ∀ b x, Changes id a b → Changes id a (f b x)) (xs : List α) (h : Changes id a b) :
    Changes id a (xs.foldl f b) :=
  List.foldlRecOn xs f (motive := fun b => Changes id a b) h fun b hb x _ => hf b x hb

/-! ### The rules -/

section Rules

variable (lang : Language)

theorem keptType (h : Changes id a b) (port : String) (unconnected : DataType) :
    Changes id a (Graph.keptType lang id b port unconnected).1 := by
  unfold Graph.keptType
  split
  · exact h
  rename_i w hw
  split
  · exact h
  split_ifs
  · exact h.sever hw
  · exact h

theorem retypeOutput (h : Changes id a b) (key dataKey : String) (t : DataType) :
    Changes id a (Graph.retypeOutput id b key dataKey t) :=
  (h.setOutputTag key t.tag).edit fun _ => ⟨rfl, rfl, rfl⟩

theorem followProducer (h : Changes id a b) : Changes id a (Graph.followProducer lang id b) :=
  ((h.keptType lang "input" _).setInputTag "input" _).edit fun _ => ⟨rfl, rfl, rfl⟩

theorem shrinkSlot (h : Changes id a b) (inStem outStem : String) (i : Nat) :
    Changes id a (Graph.shrinkSlot id inStem outStem b i) :=
  ((h.dropInput _).dropOutput _).edit fun _ => ⟨rfl, rfl, rfl⟩

theorem resizeSlots (h : Changes id a b) (inStem inTitle outStem outTitle : String)
    (required : Nat) :
    Changes id a (Graph.resizeSlots lang id inStem inTitle outStem outTitle required b) := by
  unfold Graph.resizeSlots
  split
  · exact h
  · exact foldl (fun _ i hb => hb.shrinkSlot inStem outStem i) _
      (h.editAll (f := Graph.growSlot lang inStem inTitle outStem outTitle)
        (fun _ _ => ⟨rfl, rfl, rfl⟩) _)

theorem adaptRange (h : Changes id a b) (i : Nat) :
    Changes id a (Graph.adaptRange lang id b i) := by
  unfold Graph.adaptRange
  dsimp only
  refine retypeOutput ?_ _ _ _
  split
  · exact h
  rename_i w hw
  split
  · split_ifs
    · exact h.sever hw
    · exact h
  · exact h

theorem adaptForLoop (h : Changes id a b) (n : Node) :
    Changes id a (Graph.adaptForLoop lang id b n) :=
  foldl (fun _ i hb => hb.adaptRange lang i) _
    ((h.edit (f := fun m => m.set "numArgs" _) fun _ => ⟨rfl, rfl, rfl⟩).resizeSlots lang ..)

theorem adaptParam (h : Changes id a b) (i : Nat) :
    Changes id a (Graph.adaptParam lang id b i) :=
  (h.keptType lang _ _).retypeOutput _ _ _

theorem adaptDefinition (h : Changes id a b) (n : Node) :
    Changes id a (Graph.adaptDefinition lang id b n) :=
  foldl (fun _ i hb => hb.adaptParam lang i) _ (h.resizeSlots lang ..)

theorem adaptSequence (h : Changes id a b) (n : Node) :
    Changes id a (Graph.adaptSequence id b n) :=
  foldl (fun _ i hb => hb.dropOutput (slotKey "out" i)) _
    (h.editAll (f := Node.addExit) (fun _ _ => ⟨rfl, rfl, rfl⟩) _)

theorem adaptRecord (h : Changes id a b) (n : Node) : Changes id a (Graph.adaptRecord id b n) :=
  h.editAll (f := Node.unset) (fun _ _ => ⟨rfl, rfl, rfl⟩) _

theorem dropField (h : Changes id a b) (i : Nat) : Changes id a (Graph.dropField id b i) := by
  unfold Graph.dropField
  dsimp only
  split
  · exact h
  · exact (h.dropInput _).edit fun _ => ⟨rfl, rfl, rfl⟩

theorem adaptAssignment (h : Changes id a b) : Changes id a (Graph.adaptAssignment lang id b) := by
  have kept := h.keptType lang "inVariable" lang.types.any
  unfold Graph.adaptAssignment
  dsimp only
  generalize Graph.keptType lang id b "inVariable" lang.types.any = k at kept ⊢
  obtain ⟨b', targetType⟩ := k
  dsimp only at kept ⊢
  split
  · exact kept
  · refine retypeOutput (edit (foldl (fun _ i hb => hb.dropField i) _ (edit ?_ ?_)) ?_) _ _ _
    · split_ifs
      · exact foldl (fun _ i hb => hb.dropField i) _ kept
      · exact kept
    · refine Node.samePlace_foldl (fun m i => ?_) _
      exact ((show m.SamePlace (m.addInput _) from ⟨rfl, rfl, rfl⟩).trans
        (Node.samePlace_setDefault _ _ _)).trans (Node.samePlace_setLiteral _ _ _)
    · exact fun _ => ⟨rfl, rfl, rfl⟩

theorem adaptPort (h : Changes id a b) (p : Port) : Changes id a (Graph.adaptPort id b p) := by
  unfold Graph.adaptPort
  split
  · exact h
  · split_ifs
    · exact h.setInputTag p.key p.tag
    · exact h.edit fun _ => ⟨rfl, rfl, rfl⟩
  · split_ifs
    · exact h.setOutputTag p.key p.tag
    · exact h.edit fun _ => ⟨rfl, rfl, rfl⟩

theorem adaptModuleCall (h : Changes id a b) (lib : Library) (n : Node) :
    Changes id a (Graph.adaptModuleCall lang id lib b n) :=
  foldl (fun _ p hb => hb.adaptPort p) _ (foldl (fun _ key hb => hb.dropOutput key) _
    (foldl (fun _ key hb => hb.dropInput key) _ h))

end Rules

end Adapted.Changes

open Adapted in
/-- Every rule is a chain of small changes. -/
theorem Adapted.changes_adapt (lang : Language) (id : NodeId) (g : Graph) (lib : Library) :
    Changes id { graph := g }
      { graph := (g.adapt lang id lib).1, cut := (g.adapt lang id lib).2 } := by
  unfold Graph.adapt
  dsimp only
  have start : Changes id { graph := g } { graph := g } := .refl
  split
  · exact start
  · rename_i n _
    split
    · exact start.retypeOutput _ _ _
    · exact start.retypeOutput _ _ _
    · exact start.followProducer lang
    · exact start.adaptForLoop lang n
    · exact start.adaptDefinition lang n
    · exact start.adaptSequence n
    · exact start.adaptRecord n
    · exact start.adaptAssignment lang
    · exact start.adaptModuleCall lang lib n
    · exact start

/-! ### What small changes leave alone -/

/-- One graph is another one without some wires at a node, each of them gone with all its copies, and
with the node changed except for its number, component and place. -/
structure Graph.Trimmed (id : NodeId) (g : Graph) (g' : Graph) (cut : List Wire) : Prop where
  wires : g'.wires = g.wires.filter (· ∉ cut)
  cut : ∀ w ∈ cut, w ∈ g.wires ∧ (w.source = id ∨ w.target = id)
  name : g'.name = g.name
  order : g'.nodes.keys = g.nodes.keys
  others : ∀ j, id ≠ j → g'.node? j = g.node? j
  node : ∀ n, g.node? id = some n → ∃ n', g'.node? id = some n' ∧ n.SamePlace n'

namespace Graph.Trimmed

variable {id : NodeId} {g g' : Graph} {cut : List Wire}

theorem refl (id : NodeId) (g : Graph) : Trimmed id g g [] where
  wires := by simp
  cut _ hw := by cases hw
  name := rfl
  order := rfl
  others _ _ := rfl
  node n hn := ⟨n, hn, .refl n⟩

theorem edit (h : Trimmed id g g' cut) {f : Node → Node} (hf : ∀ n : Node, n.SamePlace (f n)) :
    Trimmed id g (g'.modifyNode id f) cut where
  wires := h.wires
  cut := h.cut
  name := h.name
  order := (OrderedMap.keys_modify ..).trans h.order
  others j hj := (node?_modifyNode_of_ne g' hj f).trans (h.others j hj)
  node n hn := by
    obtain ⟨n', hn', same⟩ := h.node n hn
    refine ⟨f n', ?_, same.trans (hf n')⟩
    rw [node?_modifyNode_self, hn']
    rfl

theorem cutAll (h : Trimmed id g g' cut) {ws : List Wire}
    (hw : ∀ w ∈ ws, w ∈ g'.wires ∧ w.touches id = true) :
    Trimmed id g (g'.cutAll ws) (cut ++ ws) where
  wires := by
    rw [wires_cutAll, h.wires, List.filter_filter]
    apply List.filter_congr
    intro w _
    simp [Bool.and_comm]
  cut w mem := by
    rcases List.mem_append.1 mem with mem | mem
    · exact h.cut w mem
    · obtain ⟨there, touches⟩ := hw w mem
      rw [h.wires] at there
      exact ⟨List.mem_of_mem_filter there, by simpa [Wire.touches] using touches⟩
  name := by
    have same : (g'.cutAll ws).name = g'.name :=
      List.foldlRecOn ws Graph.cut (motive := fun k : Graph => k.name = g'.name) rfl
        fun _ hk _ _ => hk
    exact same.trans h.name
  order := by rw [nodes_cutAll, h.order]
  others j hj := (node?_cutAll g' j ws).trans (h.others j hj)
  node n hn := by
    obtain ⟨n', hn', same⟩ := h.node n hn
    exact ⟨n', (node?_cutAll g' id ws).trans hn', same⟩

end Graph.Trimmed

/-- Small changes only trim the graph, and the wires that they note are those that are gone. -/
theorem Adapted.Changes.trimmed {id : NodeId} {g : Graph} {b : Adapted}
    (h : Changes id { graph := g } b) : Graph.Trimmed id g b.graph b.cut := by
  induction h with
  | refl => exact .refl id g
  | edit _ hf ih => exact ih.edit hf
  | cut _ hw ih => exact ih.cutAll hw

/-- Small changes add no wire and leave the other nodes alone. -/
theorem Adapted.Changes.less {id : NodeId} {a b : Adapted} (h : Changes id a b) :
    (∀ w ∈ b.graph.wires, w ∈ a.graph.wires) ∧
      ∀ j, id ≠ j → b.graph.node? j = a.graph.node? j := by
  induction h with
  | refl => exact ⟨fun _ hw => hw, fun _ _ => rfl⟩
  | edit _ _ ih =>
    exact ⟨ih.1, fun j hj => (Graph.node?_modifyNode_of_ne _ hj _).trans (ih.2 j hj)⟩
  | cut _ _ ih =>
    refine ⟨fun w hw => ih.1 w ?_, fun j hj => (Graph.node?_cutAll ..).trans (ih.2 j hj)⟩
    rw [Graph.wires_cutAll] at hw
    exact List.mem_of_mem_filter hw

/-- Adapting a node removes exactly the wires that it returns, each of them a wire at the node, and
changes nothing but the data and the ports of the node. -/
theorem Graph.adapt_trimmed (lang : Language) (id : NodeId) (g : Graph) (lib : Library) :
    Trimmed id g (g.adapt lang id lib).1 (g.adapt lang id lib).2 :=
  (Adapted.changes_adapt lang id g lib).trimmed

end FlowScript
