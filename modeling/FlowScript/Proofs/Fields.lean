import FlowScript.Proofs.Operations

/-!
# Assignments and the fields of their targets

An adapted assignment has as many inputs as its target has fields.  Whether the inputs start anew is
told by the tag of the result, and types with a common base share a tag: when a target goes from one
such type to another, the inputs that were there keep their names and types.

* `Node.Matches`: an input has the name and the type of a field;
* `Node.Retyped`: the result does not have the tag of a type;
* `Graph.input?_assignTo`: the inputs that bringing an assignment in line leaves;
* `Graph.adapt_fields_iff`: whatever a session has done.
-/

namespace FlowScript

open FlowScript.Graph

namespace Node

/-- The input for a field, if there is such a field, has its name and its type. -/
def Matches (types : TypeTable) (fields : List FieldDesc) (n : Node) (i : Nat) : Prop :=
  ∀ f, fields[i]? = some f → ∃ p, n.input? (slotKey "inValue" i) = some p ∧ p.title = f.name ∧
    p.tag = (types.getOrAny (some f.type)).tag

/-- The result does not have the tag of a type. -/
def Retyped (n : Node) (t : DataType) : Prop := (n.output? resultKey).map (·.tag) ≠ some t.tag

instance (n : Node) (t : DataType) : Decidable (n.Retyped t) :=
  inferInstanceAs (Decidable (_ ≠ _))

/-- The new input for a field. -/
def fieldInput (field : Nat → String × DataType) (i : Nat) : Port :=
  .input (slotKey "inValue" i) (field i).1 (field i).2.socket

theorem input?_growField (n : Node) (i : Nat) (title : String) (t : DataType) (key : String) :
    (growField n i title t).input? key =
      if slotKey "inValue" i = key then some (.input (slotKey "inValue" i) title t.socket)
      else n.input? key := by
  have same := (samePorts_setDefault (n.addInput (.input (slotKey "inValue" i) title t.socket))
    (fieldTypeKey i title) (.str t.name)).trans
      (samePorts_setLiteral _ (fieldValueKey i title) t.desc.default)
  have ports : (growField n i title t).inputs = _ := same.2.2.1
  unfold input?
  rw [ports]
  exact input?_addInput ..

/-- Inputs that are added to replace those in their places, and leave the others. -/
theorem input?_foldl_growField (field : Nat → String × DataType) (n : Node) (a b i : Nat) :
    ((between a b).foldl (fun n i => growField n i (field i).1 (field i).2) n).input?
        (slotKey "inValue" i) =
      if a ≤ i ∧ i < b then some (fieldInput field i) else n.input? (slotKey "inValue" i) := by
  refine look_foldl_between (fun m i => m.input? (slotKey "inValue" i))
    (fun i => some (fieldInput field i)) (fun m j i => ?_) n a b i
  exact (input?_growField ..).trans (ite_slotKey (fieldInput field) (fun _ => rfl) _ j i)

end Node

namespace Graph

variable {lang : Language} {id : NodeId} {a : Adapted} {n : Node}

/-- An assignment that is brought in line has new inputs, all of them if its result is retyped and
otherwise those after the ones that it had. -/
theorem input?_assignTo (hn : a.graph.node? id = some n) (target : Option Node) (t : DataType) :
    (assignTo lang id target t a).graph.At id fun m =>
      ∀ i < fieldCount (fieldsOf lang.types target) target, m.input? (slotKey "inValue" i) =
        if n.Retyped t ∨ slotCount "inValue" n.inputs.values ≤ i then
          some (Node.fieldInput (fieldAt lang.types (fieldsOf lang.types target) t) i)
        else n.input? (slotKey "inValue" i) := by
  unfold assignTo
  dsimp only
  rw [hn]
  dsimp only
  generalize fieldAt lang.types (fieldsOf lang.types target) t = field
  generalize fieldCount (fieldsOf lang.types target) target = required
  generalize slotCount "inValue" n.inputs.values = present
  -- what is noted at the end and what is dropped from the count on leave the inputs below it
  refine At.retypeOutput (P := fun m => ∀ i < required, m.input? (slotKey "inValue" i) = _) ?_
    fun m hm => hm
  refine At.edit (P := fun m => ∀ i < required, m.input? (slotKey "inValue" i) = _) ?_
    fun m hm => hm
  refine At.foldl _ ?_ fun b j hj hb =>
    hb.dropField_of (fun m hm i hi => ?_) fun m k hm same i hi => ?_
  · -- before they are added, the inputs that are not to be new are as they were
    refine At.edit (P := fun m => ¬ n.Retyped t → m.inputs = n.inputs) ?_ fun m hm i hi => ?_
    · split_ifs with retyped
      · have anew : ¬ ¬ n.Retyped t := not_not_intro retyped
        exact At.foldl _ ⟨n, hn, fun same => absurd same anew⟩ fun b j _ hb =>
          hb.dropField_of (fun _ _ same => absurd same anew) fun _ _ _ _ same => absurd same anew
      · exact ⟨n, hn, fun _ => rfl⟩
    · rw [Node.input?_foldl_growField]
      by_cases retyped : n.Retyped t
      · rw [if_pos (show _ ≠ _ from retyped), if_pos ⟨Nat.zero_le i, hi⟩, if_pos (.inl retyped)]
      · have kept : m.input? (slotKey "inValue" i) = n.input? (slotKey "inValue" i) := by
          unfold Node.input?
          rw [hm retyped]
        rw [if_neg (show ¬ _ ≠ _ from retyped), kept]
        refine if_congr ?_ rfl rfl
        simp only [retyped, false_or]
        omega
  · have ne : slotKey "inValue" j ≠ slotKey "inValue" i := fun e => by
      have := slotKey_injective e
      have := (mem_between.1 hj).1
      omega
    rw [Node.input?_dropInput, if_neg ne]
    exact hm i hi
  · unfold Node.input?
    rw [same.2.2.1]
    exact hm i hi

theorem fieldAt_of_some {types : TypeTable} {fields : List FieldDesc} {t : DataType} {i : Nat}
    {f : FieldDesc} (h : fields[i]? = some f) :
    fieldAt types (some fields) t i = (f.name, types.getOrAny (some f.type)) := by
  unfold fieldAt
  dsimp only
  rw [h]

/-- The type of what feeds the variable of an assignment. -/
def variableType (lang : Language) (id : NodeId) (g : Graph) : DataType :=
  (g.producerType? lang id "inVariable").getD lang.types.any

/-- If the variable of an assignment is still connected, its producer was kept and gave the type. -/
theorem keptType_of_connected {g : Graph} {w : Wire}
    (single : (g.incoming id "inVariable").length ≤ 1)
    (hw : (keptType lang id { graph := g } "inVariable" lang.types.any).1.graph.wireInto? id
      "inVariable" = some w) :
    g.wireInto? id "inVariable" = some w ∧
      keptType lang id { graph := g } "inVariable" lang.types.any =
        ({ graph := g }, g.variableType lang id) := by
  rw [keptType_eq] at hw ⊢
  cases hv : g.wireInto? id "inVariable" with
  | none =>
    rw [fedType_of_none (a := { graph := g }) hv] at hw
    cases hv.symm.trans hw
  | some v =>
    by_cases refused : (g.producerType? lang id "inVariable").any unkept = true
    · rw [fedType_of_refused (a := { graph := g }) hv refused] at hw
      cases (wireInto?_cut hv single).symm.trans hw
    · have given : fedType lang id { graph := g } "inVariable" unkept
          (sourceType lang id "inVariable") lang.types.any = _ := fedType_of_given hv refused
      rw [given] at hw ⊢
      exact ⟨hv.symm.trans hw, rfl⟩

/-- An assignment whose variable is still connected has been brought in line with the node at the
other end and with the type that comes from there. -/
theorem adaptAssignment_of_connected {g : Graph} {w : Wire} (wired : g.WellWired)
    (hn : g.node? id = some n) {present : Nat}
    (numbered : Numbered "inValue" n.inputs.keys present) (assigns : n.Assigns)
    (hw : (adaptAssignment lang id { graph := g }).graph.wireInto? id "inVariable" = some w) :
    g.wireInto? id "inVariable" = some w ∧ ∃ target, g.node? w.source = some target ∧
      adaptAssignment lang id { graph := g } =
        assignTo lang id (some target) (g.variableType lang id) { graph := g } := by
  have hn' : (keptType lang id { graph := g } "inVariable" lang.types.any).1.graph.node? id =
      some n := (node?_keptType ..).trans hn
  have wired' := ((adapting_refl wired hn).keptType (a := { graph := g }) lang "inVariable"
    lang.types.any).wired
  have fed := (assigned_assignTo lang wired' hn' numbered
    (targetOf id (keptType lang id { graph := g } "inVariable" lang.types.any).1.graph)
    (keptType lang id { graph := g } "inVariable" lang.types.any).2).feed
  rw [← adaptAssignment_eq] at fed
  obtain ⟨hv, kept⟩ := keptType_of_connected (assigns.incoming_length_le_one wired hn)
    (fed.wire.symm.trans hw)
  obtain ⟨mem, -⟩ := mem_incoming.1 (mem_incoming_of_wireInto? hv)
  obtain ⟨-, producer, -, hp, -⟩ := wired.joins w mem
  obtain ⟨target, ht, -⟩ := node?_isSome_of_output? hp
  have found : targetOf id g = some target := by
    unfold targetOf
    rw [hv]
    exact ht
  refine ⟨hv, target, ht, ?_⟩
  rw [adaptAssignment_eq, kept]
  dsimp only
  rw [found]

/-- Inputs of which those from a number on are new match the fields exactly if the others do. -/
theorem matches_iff {types : TypeTable} {fields : List FieldDesc} {t : DataType} {m : Node}
    {required present : Nat}
    (inputs : ∀ i < required, m.input? (slotKey "inValue" i) =
      if n.Retyped t ∨ present ≤ i then some (Node.fieldInput (fieldAt types (some fields) t) i)
      else n.input? (slotKey "inValue" i)) :
    (∀ i < required, m.Matches types fields i) ↔
      n.Retyped t ∨ ∀ i < required, i < present → n.Matches types fields i := by
  constructor
  · intro all
    by_cases retyped : n.Retyped t
    · exact .inl retyped
    · refine .inr fun i hi old f hf => ?_
      obtain ⟨p, hp, matched⟩ := all i hi f hf
      rw [inputs i hi, if_neg (not_or.2 ⟨retyped, by omega⟩)] at hp
      exact ⟨p, hp, matched⟩
  · intro matched i hi f hf
    rw [inputs i hi]
    split_ifs with new
    · refine ⟨_, rfl, ?_⟩
      unfold Node.fieldInput
      rw [fieldAt_of_some hf]
      exact ⟨rfl, rfl⟩
    · obtain ⟨kept, old⟩ := not_or.1 new
      exact (matched.resolve_left kept) i hi (by omega) f hf

/-- Whatever a session has done, an adapted assignment whose variable is still connected has as many
inputs as its target has fields, or one for a target without fields.  The inputs are new, with the
names and types of the fields, if the result had another tag than the type of the target, and
otherwise those that were there are as they were; so they match the fields exactly if they are new
or matched them before. -/
theorem adapt_fields_iff {patterns : PatternReader} {core : CoreDesc} {surface : SurfaceDesc}
    {extra : ExtraDesc} (loaded : Language.load patterns core surface extra = .ok lang)
    (name : String) {edits : List Edit}
    (he : ∀ e ∈ edits, e.isRetag = false) (hn : (session lang name edits).node? id = some n)
    (hk : lang.kind? n.component = some .assignment) (lib : Library) {w : Wire}
    (hw : ((session lang name edits).adapt lang id lib).1.wireInto? id "inVariable" = some w) :
    ∃ m target, ((session lang name edits).adapt lang id lib).1.node? id = some m ∧
      ((session lang name edits).adapt lang id lib).1.node? w.source = some target ∧
      Numbered "inValue" m.inputs.keys
        (fieldCount (fieldsOf lang.types (some target)) (some target)) ∧
      (∀ i < fieldCount (fieldsOf lang.types (some target)) (some target),
        m.input? (slotKey "inValue" i) =
          if n.Retyped ((session lang name edits).variableType lang id) ∨
              slotCount "inValue" n.inputs.values ≤ i then
            some (Node.fieldInput (fieldAt lang.types (fieldsOf lang.types (some target))
              ((session lang name edits).variableType lang id)) i)
          else n.input? (slotKey "inValue" i)) ∧
      ∀ fields, fieldsOf lang.types (some target) = some fields →
        ((∀ i < min fields.length Decimal.maxCount, m.Matches lang.types fields i) ↔
          n.Retyped ((session lang name edits).variableType lang id) ∨
            ∀ i < min fields.length Decimal.maxCount,
              i < slotCount "inValue" n.inputs.values → n.Matches lang.types fields i) := by
  have cat := Language.catalogued_of_load loaded
  have sound := sound_session lang name edits
  have assigns := ((inForm_session cat name he).node hn hk).assigns rfl
  generalize session lang name edits = g at hn hw sound ⊢
  have adaptedSound := sound.adapt id lib
  obtain ⟨present, numbered⟩ := sound.shaped hn hk
  obtain ⟨m, hm, place⟩ := (adapt_trimmed lang id g lib).node n hn
  obtain ⟨count, counted⟩ := adaptedSound.shaped hm (place.2.1 ▸ hk)
  have keyed := adaptedSound.wired.keyed hm
  rw [adapt_eq_ruleFor lib hn hk] at hm hw ⊢
  obtain ⟨hv, target, ht, rule⟩ :=
    adaptAssignment_of_connected sound.wired hn numbered assigns hw
  have same : ruleFor lang id lib .assignment n { graph := g } = _ := rule
  rw [same] at hm ⊢
  have assigned := assigned_assignTo (a := { graph := g }) lang sound.wired hn numbered
    (some target) (g.variableType lang id)
  have required := (assigned.node.of_node? hm).1
  rw [keyed.slotCount_inputs counted] at required
  have inputs := (input?_assignTo (a := { graph := g }) hn (some target)
    (g.variableType lang id)).of_node? hm
  refine ⟨m, target, hm, (assigned.feed.node?_source sound.wired hv).trans ht, required ▸ counted,
    inputs, fun fields hf => ?_⟩
  rw [hf] at inputs
  exact matches_iff inputs

end Graph

/-! ### A sample -/

namespace Sample

def field (name : String) : FieldDesc := { name, type := "float" }

/-- Complex numbers are a kind of vectors with names of their own for the fields. -/
def planarSurface : SurfaceDesc where
  types := [{ name := "any", spelling := "any" }, { name := "void", spelling := "void" },
    { name := "bool", spelling := "bool" },
    { name := "float", spelling := "float", isLocal := some true },
    { name := "float2", spelling := "float2", isLocal := some true,
      fields := some [field "x", field "y"] },
    { name := "float3", spelling := "float3", isLocal := some true,
      fields := some [field "x", field "y", field "z"] },
    { name := "complex", spelling := "complex", base := some "float2", isLocal := some true,
      fields := some [field "re", field "im"] }]

theorem planar_loads :
    (Language.load Pattern.reader layeredCore planarSurface {}).toOption.isSome = true := by
  decide +kernel

def planar : Language :=
  (Language.load Pattern.reader layeredCore planarSurface {}).toOption.get planar_loads

theorem planar_load_eq : Language.load Pattern.reader layeredCore planarSurface {} = .ok planar :=
  eq_ok_get_toOption planar_loads

/-- A vector is assigned to, and then becomes a variable of another type. -/
def reassigned (type : String) : List Edit := [
  .create .empty "Variable" (.ofList [("typeName", .str "float2")]),
  .create .empty "Set" .empty,
  .connect ⟨1, "result", 2, "inVariable"⟩,
  .adapt .empty 2,
  .set 1 "typeName" (.str type),
  .adapt .empty 1]

theorem reassigned_edits (type : String) : ∀ e ∈ reassigned type, e.isRetag = false := by
  simp [reassigned, Edit.isRetag]

/-- The assignment to what is now a complex number still has the fields of a vector. -/
theorem reassigned_complex_unmatched :
    Language.load Pattern.reader layeredCore planarSurface {} = .ok planar ∧
      (∀ e ∈ reassigned "complex", e.isRetag = false) ∧
      ((Graph.session planar "main" (reassigned "complex")).adapt planar 2 .empty).1.wireInto? 2
        "inVariable" = some ⟨1, "result", 2, "inVariable"⟩ ∧
      fieldsOf planar.types (((Graph.session planar "main" (reassigned "complex")).adapt planar 2
        .empty).1.node? 1) = some [field "re", field "im"] ∧
      (((Graph.session planar "main" (reassigned "complex")).adapt planar 2 .empty).1.input? 2
        "inValue0").map (·.title) = some "x" := by
  refine ⟨planar_load_eq, reassigned_edits _, ?_, ?_, ?_⟩ <;> decide +kernel

theorem reassigned_float3_node :
    ((Graph.session planar "main" (reassigned "float3")).node? 2).map (fun n => (n.component,
      decide (n.Retyped ((Graph.session planar "main" (reassigned "float3")).variableType planar
        2)))) = some ("Set", true) := by
  decide +kernel

/-- The assignment to what is now a longer vector has its three fields. -/
theorem adapt_fields_iff_float3 :
    Language.load Pattern.reader layeredCore planarSurface {} = .ok planar ∧
      (∀ e ∈ reassigned "float3", e.isRetag = false) ∧
      ((Graph.session planar "main" (reassigned "float3")).adapt planar 2 .empty).1.wireInto? 2
        "inVariable" = some ⟨1, "result", 2, "inVariable"⟩ ∧
      ∃ m, ((Graph.session planar "main" (reassigned "float3")).adapt planar 2 .empty).1.node? 2 =
          some m ∧
        Numbered "inValue" m.inputs.keys 3 ∧
        ∀ i < 3, m.Matches planar.types [field "x", field "y", field "z"] i := by
  have wire : ((Graph.session planar "main" (reassigned "float3")).adapt planar 2
      .empty).1.wireInto? 2 "inVariable" = some ⟨1, "result", 2, "inVariable"⟩ := by
    decide +kernel
  have fields : fieldsOf planar.types (((Graph.session planar "main" (reassigned "float3")).adapt
      planar 2 .empty).1.node? 1) = some [field "x", field "y", field "z"] := by
    decide +kernel
  obtain ⟨n, hn, known⟩ := Option.map_eq_some_iff.1 reassigned_float3_node
  obtain ⟨set, retyped⟩ := Prod.mk.inj known
  have kind : planar.kind? n.component = some .assignment := by
    rw [set]
    decide +kernel
  obtain ⟨m, target, hm, ht, counted, -, matched⟩ :=
    Graph.adapt_fields_iff planar_load_eq "main" (reassigned_edits "float3") hn kind .empty wire
  dsimp only at ht
  rw [ht] at fields
  rw [fields] at counted
  exact ⟨planar_load_eq, reassigned_edits _, wire, m, hm, counted,
    (matched _ fields).2 (.inl (of_decide_eq_true retyped))⟩

end Sample

end FlowScript
