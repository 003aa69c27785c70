import FlowScript.Proofs.Closed
import FlowScript.Proofs.Trimming

/-!
# Types taken from what feeds an input

Adapting a node reads the type of an input off the wire into it and the node at the other end, and
writes it down at the node.  What is written down is not read again as long as the input is fed the
same, so a type once taken is taken again.

* `TypeTable.Catalogued`: types are found under their own names, as in every loaded language;
* `Graph.SameFeed`: an input of a node is fed the same in two graphs, one lemma for each change;
* `Graph.fedType`: the type of an input, taken from the wire into it; `Graph.fedType_again`: a type
  that was taken is taken again.
-/

namespace FlowScript

/-! ### Types under their names -/

namespace TypeTable

/-- A type is found under its name. -/
def Has (types : TypeTable) (t : DataType) : Prop := types.get? t.name = some t

/-- Types are found under their own names only, and the one for anything is among them. -/
structure Catalogued (types : TypeTable) : Prop where
  name : ∀ {key t}, types.get? key = some t → t.name = key
  any : types.Has types.any
  isAny : types.any.isAny = true

variable {types : TypeTable} {t : DataType}

theorem Has.getOrAny (h : types.Has t) : types.getOrAny (some t.name) = t := by
  simp [TypeTable.getOrAny, show types.get? t.name = some t from h]

theorem Has.typeAt (h : types.Has t) {n : Node} {key : String}
    (data : n.data.get? key = some (.str t.name)) : n.typeAt types key = t := by
  unfold Node.typeAt Node.text?
  rw [data]
  exact h.getOrAny

theorem Catalogued.has (h : types.Catalogued) {key : String} (ht : types.get? key = some t) :
    types.Has t := by
  unfold Has
  rw [h.name ht, ht]

theorem Catalogued.has_getOrAny (h : types.Catalogued) (name : Option String) :
    types.Has (types.getOrAny name) := by
  unfold TypeTable.getOrAny
  cases ht : name.bind types.get? with
  | none => exact h.any
  | some t =>
    obtain ⟨key, -, found⟩ := Option.bind_eq_some_iff.1 ht
    exact h.has found

end TypeTable

theorem Language.catalogued_of_load {patterns : PatternReader} {core : CoreDesc}
    {surface : SurfaceDesc} {extra : ExtraDesc} {lang : Language}
    (h : Language.load patterns core surface extra = .ok lang) : lang.types.Catalogued := by
  obtain ⟨issues, -, -, ht, -⟩ := load_eq_ok h
  have named := TypeTable.named_of_load ht
  obtain ⟨marked, isAny, -⟩ := TypeTable.marked_of_load ht
  exact ⟨fun found => (named _ _ found).2, marked.any, isAny⟩

namespace Graph

variable {id : NodeId} {port : String} {g g' : Graph}

/-! ### Inputs fed the same -/

/-- An input of a node is fed by the same wire, if any, and all other nodes are the same. -/
structure SameFeed (id : NodeId) (port : String) (g g' : Graph) : Prop where
  wire : g'.wireInto? id port = g.wireInto? id port
  others : ∀ j, id ≠ j → g'.node? j = g.node? j

/-- Losing wires that do not enter an input leaves the first one that does. -/
theorem wireInto?_of_filter {p : Wire → Bool} (wires : g'.wires = g.wires.filter p)
    (hp : ∀ w ∈ g.wires, w.target = id → w.targetPort = port → p w = true) :
    g'.wireInto? id port = g.wireInto? id port := by
  unfold wireInto?
  rw [wires, List.find?_filter]
  refine List.find?_congr fun w hw => ?_
  by_cases into : w.target = id ∧ w.targetPort = port
  · simp [hp w hw into.1 into.2, into]
  · have out : (w.target == id && w.targetPort == port) = false := by simpa using into
    simp [out]

/-- The wire into an input for one wire is the only one there. -/
theorem incoming_eq_singleton {w : Wire} (h : g.wireInto? id port = some w)
    (single : (g.incoming id port).length ≤ 1) : g.incoming id port = [w] := by
  have here := mem_incoming_of_wireInto? h
  obtain ⟨x, only⟩ : ∃ x, g.incoming id port = [x] :=
    List.length_eq_one_iff.1 (le_antisymm single (List.length_pos_of_mem here))
  rw [only, List.mem_singleton] at here
  rw [only, here]

/-- An input for one wire has none left when that one is cut. -/
theorem wireInto?_cut {w : Wire} (h : g.wireInto? id port = some w)
    (single : (g.incoming id port).length ≤ 1) : (g.cut w).wireInto? id port = none := by
  unfold wireInto?
  rw [List.find?_eq_none]
  intro v hv hit
  obtain ⟨mem, ne⟩ := List.mem_filter.1 hv
  have there : v ∈ g.incoming id port := mem_incoming.2 ⟨mem, by simpa using hit⟩
  rw [incoming_eq_singleton h single, List.mem_singleton] at there
  rw [there] at ne
  simp at ne

namespace SameFeed

theorem refl (id : NodeId) (port : String) (g : Graph) : SameFeed id port g g :=
  ⟨rfl, fun _ _ => rfl⟩

theorem trans {g'' : Graph} (h : SameFeed id port g g') (h' : SameFeed id port g' g'') :
    SameFeed id port g g'' :=
  ⟨h'.wire.trans h.wire, fun j hj => (h'.others j hj).trans (h.others j hj)⟩

theorem edit (id : NodeId) (port : String) (g : Graph) (f : Node → Node) :
    SameFeed id port g (g.modifyNode id f) :=
  ⟨rfl, fun _ hj => node?_modifyNode_of_ne g hj f⟩

/-- Cutting wires that do not enter the input. -/
theorem cutAll {ws : List Wire} (hw : ∀ w ∈ ws, w.target = id → w.targetPort ≠ port) :
    SameFeed id port g (g.cutAll ws) := by
  refine ⟨wireInto?_of_filter (wires_cutAll g ws) fun w _ ht hp => ?_, fun j _ => node?_cutAll g j ws⟩
  rw [decide_eq_true_iff]
  exact fun mem => hw w mem ht hp

/-- A wire that leaves a node does not enter it. -/
theorem ne_of_outgoing (wired : g.WellWired) {key : String} {w : Wire} (hw : w ∈ g.outgoing id key) :
    w.target ≠ id := by
  obtain ⟨mem, rfl, -⟩ := mem_outgoing.1 hw
  exact (wired.joins w mem).1.symm

theorem setOutputTag (wired : g.WellWired) (port key : String) (tag : Tag) :
    SameFeed id port g (g.setOutputTag id key tag).1 := by
  obtain ⟨stale, e, unfit⟩ := setOutputTag_eq g id key tag
  rw [e]
  refine (edit id port g _).trans (cutAll fun w hw ht => ?_)
  exact absurd ht (ne_of_outgoing wired (unfit w hw).1)

theorem dropInput {key : String} (hk : key ≠ port) : SameFeed id port g (g.dropInput id key).1 := by
  refine (edit id port g _).trans (cutAll fun w hw _ hp => hk ?_)
  exact (mem_incoming.1 hw).2.2.symm.trans hp

theorem sever {w : Wire} (hp : w.targetPort ≠ port) : SameFeed id port g (g.cut w) := by
  have elsewhere : ∀ v ∈ [w], v.target = id → v.targetPort ≠ port := by
    intro v hv _
    rw [List.mem_singleton.1 hv]
    exact hp
  exact cutAll elsewhere

theorem retypeOutput {a : Adapted} (wired : a.graph.WellWired) (port key dataKey : String)
    (t : DataType) : SameFeed id port a.graph (Graph.retypeOutput id a key dataKey t).graph :=
  (setOutputTag wired port key t.tag).trans (edit id port _ _)

/-- The producer of an input is another node, so it is the same. -/
theorem node?_source (h : SameFeed id port g g') (wired : g.WellWired) {w : Wire}
    (hw : g.wireInto? id port = some w) : g'.node? w.source = g.node? w.source := by
  obtain ⟨mem, into, -⟩ := mem_incoming.1 (mem_incoming_of_wireInto? hw)
  exact h.others w.source fun e => (wired.joins w mem).1 (e.symm.trans into.symm)

theorem producerType? (h : SameFeed id port g g') (wired : g.WellWired) (lang : Language) :
    g'.producerType? lang id port = g.producerType? lang id port := by
  unfold Graph.producerType? sourceSocket?
  rw [h.wire]
  cases hw : g.wireInto? id port with
  | none => rfl
  | some w =>
    show ((g'.node? w.source >>= _) >>= _) = ((g.node? w.source >>= _) >>= _)
    rw [h.node?_source wired hw]

theorem elementType (h : SameFeed id port g g') (wired : g.WellWired) (lang : Language) {w : Wire}
    (hw : g.wireInto? id port = some w) :
    g'.elementType lang w.source = g.elementType lang w.source := by
  unfold Graph.elementType
  rw [h.node?_source wired hw]

end SameFeed

/-! ### Types taken again -/

/-- The type of an input: what is given by the wire into it, and a type of its own without one.  A
wire from a type that is refused is cut, and the type is then the one for anything. -/
def fedType (lang : Language) (id : NodeId) (a : Adapted) (port : String) (refuses : DataType → Bool)
    (given : Graph → Wire → DataType) (unconnected : DataType) : Adapted × DataType :=
  match a.graph.wireInto? id port with
  | none => (a, unconnected)
  | some w =>
    if (a.graph.producerType? lang id port).any refuses then (a.sever w, lang.types.any)
    else (a, given a.graph w)

section FedType

variable {lang : Language} {a : Adapted} {refuses : DataType → Bool}
  {given : Graph → Wire → DataType} {unconnected unconnected' : DataType}

theorem fedType_of_none (hw : a.graph.wireInto? id port = none) :
    fedType lang id a port refuses given unconnected = (a, unconnected) := by
  unfold fedType
  rw [hw]

theorem fedType_of_refused {w : Wire} (hw : a.graph.wireInto? id port = some w)
    (h : (a.graph.producerType? lang id port).any refuses = true) :
    fedType lang id a port refuses given unconnected = (a.sever w, lang.types.any) := by
  unfold fedType
  rw [hw]
  exact if_pos h

theorem fedType_of_given {w : Wire} (hw : a.graph.wireInto? id port = some w)
    (h : ¬ (a.graph.producerType? lang id port).any refuses = true) :
    fedType lang id a port refuses given unconnected = (a, given a.graph w) := by
  unfold fedType
  rw [hw]
  exact if_neg h

/-- The type is one of the table. -/
theorem has_fedType (cat : lang.types.Catalogued) (hg : ∀ g w, lang.types.Has (given g w))
    (hu : lang.types.Has unconnected) :
    lang.types.Has (fedType lang id a port refuses given unconnected).2 := by
  unfold fedType
  split
  · exact hu
  split_ifs
  · exact cat.any
  · exact hg _ _

/-- Taking the type of an input cuts the wire into it or nothing. -/
theorem fedType_cuts :
    (fedType lang id a port refuses given unconnected).1 = a ∨
      ∃ w, a.graph.wireInto? id port = some w ∧
        (fedType lang id a port refuses given unconnected).1 = a.sever w := by
  unfold fedType
  split
  · exact .inl rfl
  rename_i w hw
  split_ifs
  · exact .inr ⟨w, hw, rfl⟩
  · exact .inl rfl

/-- Taking the type of an input leaves the nodes alone. -/
theorem node?_fedType (j : NodeId) :
    (fedType lang id a port refuses given unconnected).1.graph.node? j = a.graph.node? j := by
  have cuts : (fedType lang id a port refuses given unconnected).1 = a ∨ _ := fedType_cuts
  rcases cuts with e | ⟨w, -, e⟩ <;> rw [e]
  rfl

/-- An input that is left without a wire has a type of its own, or the one for anything. -/
theorem fedType_unconnected
    (h : (fedType lang id a port refuses given unconnected).1.graph.wireInto? id port = none) :
    (fedType lang id a port refuses given unconnected).2 = unconnected ∨
      (fedType lang id a port refuses given unconnected).2 = lang.types.any := by
  unfold fedType at h ⊢
  split at h
  · exact .inl rfl
  rename_i w hw
  split_ifs at h ⊢
  · exact .inr rfl
  · rw [hw] at h
    cases h

/-- As long as the input is fed as it was left, the same type is taken and nothing more is cut. -/
theorem fedType_again (wired : a.graph.WellWired) (single : (a.graph.incoming id port).length ≤ 1)
    (hg : ∀ {g w}, SameFeed id port a.graph g → a.graph.wireInto? id port = some w →
      given g w = given a.graph w)
    (same : SameFeed id port (fedType lang id a port refuses given unconnected).1.graph g)
    (hu : g.wireInto? id port = none →
      unconnected' = (fedType lang id a port refuses given unconnected).2) (cut : List Wire) :
    fedType lang id ⟨g, cut⟩ port refuses given unconnected' =
      (⟨g, cut⟩, (fedType lang id a port refuses given unconnected).2) := by
  cases hw : a.graph.wireInto? id port with
  | none =>
    rw [fedType_of_none hw] at same hu ⊢
    have still : g.wireInto? id port = none := same.wire.trans hw
    rw [fedType_of_none (a := ⟨g, cut⟩) still, hu still]
  | some w =>
    by_cases refused : (a.graph.producerType? lang id port).any refuses = true
    · -- the only wire was cut, so the input is asked for a type of its own
      rw [fedType_of_refused hw refused] at same hu ⊢
      have still : g.wireInto? id port = none := same.wire.trans (wireInto?_cut hw single)
      rw [fedType_of_none (a := ⟨g, cut⟩) still, hu still]
    · rw [fedType_of_given hw refused] at same ⊢
      have wire : g.wireInto? id port = some w := same.wire.trans hw
      have kept : ¬ (g.producerType? lang id port).any refuses = true := by
        rw [same.producerType? wired lang]
        exact refused
      rw [fedType_of_given (a := ⟨g, cut⟩) wire kept, hg same hw]

end FedType

/-! ### Values that are kept, and ranges -/

/-- A type whose values cannot be kept. -/
def unkept (t : DataType) : Bool := !t.isLocal && !t.isAny

/-- A type whose values cannot be kept or iterated. -/
def unranged (t : DataType) : Bool := unkept t || !t.isIterable

/-- The type of the output at the other end, if it is known. -/
def sourceType (lang : Language) (id : NodeId) (port : String) (g : Graph) (_ : Wire) : DataType :=
  (g.producerType? lang id port).getD lang.types.any

/-- The type of the elements of the node at the other end. -/
def sourceElement (lang : Language) (g : Graph) (w : Wire) : DataType :=
  g.elementType lang w.source

theorem keptType_eq (lang : Language) (id : NodeId) (a : Adapted) (port : String)
    (unconnected : DataType) :
    keptType lang id a port unconnected =
      fedType lang id a port unkept (sourceType lang id port) unconnected := by
  unfold keptType fedType sourceType
  cases a.graph.wireInto? id port with
  | none => rfl
  | some w =>
    cases a.graph.producerType? lang id port with
    | none => rfl
    | some t => rfl

/-- The type of an index of a loop, taken from its range. -/
def rangeType (lang : Language) (id : NodeId) (a : Adapted) (i : Nat) : Adapted × DataType :=
  fedType lang id a (slotKey "range" i) unranged (sourceElement lang) lang.types.any

/-- The type of a parameter, taken from its argument or as declared. -/
def paramType (lang : Language) (id : NodeId) (a : Adapted) (i : Nat) : Adapted × DataType :=
  fedType lang id a (slotKey "arg" i) unkept (sourceType lang id (slotKey "arg" i))
    (lang.types.getOrAny (a.graph.node? id >>= (·.text? (slotKey "typeName" i))))

theorem adaptRange_eq (lang : Language) (id : NodeId) (a : Adapted) (i : Nat) :
    adaptRange lang id a i = retypeOutput id (rangeType lang id a i).1 (slotKey "val" i)
      (slotKey "typeName" i) (rangeType lang id a i).2 := by
  unfold adaptRange rangeType fedType
  dsimp only
  cases a.graph.wireInto? id (slotKey "range" i) with
  | none => rfl
  | some w =>
    cases a.graph.producerType? lang id (slotKey "range" i) with
    | none => rfl
    | some t => rfl

theorem adaptParam_eq (lang : Language) (id : NodeId) (a : Adapted) (i : Nat) :
    adaptParam lang id a i = retypeOutput id (paramType lang id a i).1 (slotKey "out" i)
      (slotKey "typeName" i) (paramType lang id a i).2 := by
  unfold adaptParam paramType
  dsimp only
  rw [keptType_eq]

theorem has_sourceType {lang : Language} (cat : lang.types.Catalogued) (id : NodeId) (port : String)
    (g : Graph) (w : Wire) : lang.types.Has (sourceType lang id port g w) := by
  unfold sourceType
  cases ht : g.producerType? lang id port with
  | none => exact cat.any
  | some t =>
    obtain ⟨s, -, found⟩ := Option.bind_eq_some_iff.1 ht
    exact cat.has found

theorem SameFeed.sourceType (h : SameFeed id port g g') (wired : g.WellWired) (lang : Language)
    (w : Wire) : Graph.sourceType lang id port g' w = Graph.sourceType lang id port g w := by
  unfold Graph.sourceType
  rw [h.producerType? wired lang]

section KeptType

variable {lang : Language} {a : Adapted}

theorem node?_keptType (unconnected : DataType) (j : NodeId) :
    (keptType lang id a port unconnected).1.graph.node? j = a.graph.node? j := by
  rw [keptType_eq, node?_fedType]

/-- As long as the input is fed as it was left, the same type is kept. -/
theorem keptType_again (wired : a.graph.WellWired) (single : (a.graph.incoming id port).length ≤ 1)
    (same : SameFeed id port (keptType lang id a port lang.types.any).1.graph g) (cut : List Wire) :
    keptType lang id ⟨g, cut⟩ port lang.types.any =
      (⟨g, cut⟩, (keptType lang id a port lang.types.any).2) := by
  rw [keptType_eq lang id a] at same ⊢
  rw [keptType_eq]
  refine fedType_again wired single (fun {_ w} h _ => h.sourceType wired lang w) same
    (fun unwired => ?_) cut
  -- whether it had no wire or lost it, it is for anything
  rcases fedType_unconnected (same.wire.symm.trans unwired) with e | e <;> exact e.symm

end KeptType

end Graph

end FlowScript
