import FlowScript.Proofs.Forms

/-!
# Rules that come to rest

A rule of adapting rests at a graph when it leaves the graph alone and cuts nothing.  The rules for
declarations, loops, definitions, sequences, records and assignments rest where they have just been
followed: what they look at is what they have left.

* `Rests f g`: a rule leaves a graph alone, one lemma for each small change;
* `rests_followDeclared`, `rests_adaptForLoop`, `rests_adaptDefinition`, `rests_adaptSequence`,
  `rests_adaptRecord`, `rests_adaptAssignment`: one lemma for each rule.
-/

namespace FlowScript

open FlowScript.Graph

/-- A change leaves a graph as it is and cuts nothing. -/
def Rests (f : Adapted → Adapted) (g : Graph) : Prop := ∀ cut, f ⟨g, cut⟩ = ⟨g, cut⟩

section Changes

variable {g : Graph} {id : NodeId} {lang : Language} {a : Adapted} {n m : Node}

theorem rests_foldl {α : Type} {f : Adapted → α → Adapted} (xs : List α)
    (h : ∀ x ∈ xs, Rests (f · x) g) : Rests (xs.foldl f ·) g := by
  intro cut
  induction xs with
  | nil => rfl
  | cons x xs ih =>
    obtain ⟨here, rest⟩ := List.forall_mem_cons.1 h
    show xs.foldl f (f ⟨g, cut⟩ x) = _
    rw [show f ⟨g, cut⟩ x = ⟨g, cut⟩ from here cut]
    exact ih rest

theorem rests_edit {f : Node → Node} (h : ∀ n, g.node? id = some n → f n = n) :
    Rests (·.update fun g => g.modifyNode id f) g := by
  intro cut
  unfold Adapted.update
  dsimp only
  rw [modifyNode_eq_self h]

/-- An output that shows a type is retyped to it. -/
theorem rests_retypeOutput {key dataKey : String} {t : DataType}
    (h : g.At id (·.Shows key dataKey t)) : Rests (retypeOutput id · key dataKey t) g := by
  obtain ⟨n, hn, shows⟩ := h
  intro cut
  have tagged : g.setOutputTag id key t.tag = (g, []) := by
    refine setOutputTag_eq_self fun port hport => shows.tag port ?_
    unfold Graph.output? at hport
    rwa [hn] at hport
  unfold retypeOutput Adapted.step Adapted.update
  dsimp only
  rw [tagged, List.append_nil, modifyNode_eq_self]
  intro m hm
  rw [hn] at hm
  cases hm
  exact Node.set_eq_self shows.data

end Changes

section Rules

variable {lang : Language} {id : NodeId} {a : Adapted} {n m : Node} {g : Graph}

/-! ### Declarations -/

theorem rests_followDeclared (cat : lang.types.Catalogued) (hn : a.graph.node? id = some n)
    (key : String) :
    Rests (followDeclared lang id · key) (followDeclared lang id a key).graph := by
  have shown : (followDeclared lang id a key).graph.At id
      (·.Shows key "typeName" (n.typeAt lang.types "typeName")) := by
    unfold followDeclared
    rw [hn]
    exact At.retypeOutput (P := (· = n)) ⟨n, hn, rfl⟩ fun m _ => m.shows_retype ..
  generalize (followDeclared lang id a key).graph = g at shown
  intro cut
  unfold followDeclared
  obtain ⟨m, hm, shows⟩ := shown
  -- the type that is declared now is the one that was declared before
  have declared : lang.types.getOrAny (g.node? id >>= (·.text? "typeName")) =
      n.typeAt lang.types "typeName" := by
    rw [hm]
    exact (cat.has_getOrAny _).typeAt shows.data
  dsimp only
  rw [declared]
  exact rests_retypeOutput ⟨m, hm, shows⟩ cut

/-! ### Loops and definitions -/

theorem rests_resizeSlots {s : SlotPair} {count : Nat} (apart : s.Apart)
    (hc : count ≤ Decimal.maxCount) (hm : g.node? id = some m)
    (holds : s.Holds lang.types.any.socket count m) :
    Rests (resizeSlots lang id s.inStem s.inTitle s.outStem s.outTitle count) g := by
  intro cut
  unfold resizeSlots
  rw [hm]
  dsimp only
  rw [holds.slotCount_eq apart hc, between_eq_nil le_rfl]
  exact rests_edit (fun _ _ => rfl) cut

/-- Slots that are typed stay as they are. -/
theorem rests_typeSlots {outStem : String} {τ : Adapted → Nat → Adapted × DataType} {count : Nat}
    (typed : ∀ i < count, SlotTyped lang id outStem τ g i) :
    Rests ((List.range count).foldl (typeSlot id outStem τ) ·) g := by
  refine rests_foldl _ fun i hi cut => ?_
  obtain ⟨t, -, shows, again⟩ := typed i (List.mem_range.1 hi)
  show retypeOutput id (τ ⟨g, cut⟩ i).1 _ _ (τ ⟨g, cut⟩ i).2 = _
  rw [again cut]
  exact rests_retypeOutput shows cut

theorem rests_adaptForLoop {present : Nat} (cat : lang.types.Catalogued)
    (wired : a.graph.WellWired) (hn : a.graph.node? id = some n) (hp : present ≤ Decimal.maxCount)
    (holds : SlotPair.loop.Holds lang.types.any.socket present n)
    (hm : (adaptForLoop lang id a n).graph.node? id = some m) :
    Rests (adaptForLoop lang id · m) (adaptForLoop lang id a n).graph := by
  have hc := n.count?_getD_le "numArgs" (d := 1) (by decide)
  have slotted := slotted_adaptForLoop cat wired hn hp holds
  generalize (adaptForLoop lang id a n).graph = g at hm slotted ⊢
  obtain ⟨held, data⟩ := slotted.node.of_node? hm
  generalize (n.count? "numArgs").getD 1 = count at hc slotted held data
  intro cut
  unfold adaptForLoop
  dsimp only
  rw [Node.count?_of_num hc data]
  have noted : (⟨g, cut⟩ : Adapted).update (fun g => g.modifyNode id fun m =>
      m.set "numArgs" (.num (.int count))) = ⟨g, cut⟩ := by
    refine rests_edit (fun k hk => Node.set_eq_self ?_) cut
    rw [hm] at hk
    cases hk
    exact data
  have resized : resizeSlots lang id "range" "Range" "val" "Value" count ⟨g, cut⟩ = ⟨g, cut⟩ :=
    rests_resizeSlots SlotPair.loop_apart hc hm held cut
  rw [Option.getD_some, noted, resized, adaptRange_eq_typeSlot]
  exact rests_typeSlots slotted.typed cut

theorem rests_adaptDefinition {present : Nat} (cat : lang.types.Catalogued)
    (wired : a.graph.WellWired) (hn : a.graph.node? id = some n) (hp : present ≤ Decimal.maxCount)
    (holds : SlotPair.params.Holds lang.types.any.socket present n)
    (hm : (adaptDefinition lang id a n).graph.node? id = some m) :
    Rests (adaptDefinition lang id · m) (adaptDefinition lang id a n).graph := by
  have hc := n.count?_getD_le "numArgs" (Nat.zero_le _)
  have slotted := slotted_adaptDefinition cat wired hn hp holds
  generalize (adaptDefinition lang id a n).graph = g at hm slotted ⊢
  obtain ⟨held, data⟩ := slotted.node.of_node? hm
  intro cut
  unfold adaptDefinition
  dsimp only
  rw [Node.count?_congr data]
  have resized : resizeSlots lang id "arg" "Argument" "out" "Output"
      ((n.count? "numArgs").getD 0) ⟨g, cut⟩ = ⟨g, cut⟩ :=
    rests_resizeSlots SlotPair.params_apart hc hm held cut
  rw [resized, adaptParam_eq_typeSlot]
  exact rests_typeSlots slotted.typed cut

/-! ### Sequences and records -/

theorem rests_adaptSequence {ins : List Port} {present : Nat} (hn : a.graph.node? id = some n)
    (hp : present ≤ Decimal.maxCount) (lists : n.Lists ins (row exitPort present))
    (hm : (adaptSequence id a n).graph.node? id = some m) :
    Rests (adaptSequence id · m) (adaptSequence id a n).graph := by
  have hc := n.count?_getD_le "numExits" (Nat.zero_le _)
  obtain ⟨left, data⟩ := (formed_adaptSequence hn hp lists).of_node? hm
  generalize (adaptSequence id a n).graph = g at hm ⊢
  intro cut
  have asked : m.count? "numExits" = n.count? "numExits" := Node.count?_congr (by rw [data])
  unfold adaptSequence
  dsimp only
  rw [asked, left.slotCount_exits hc, between_eq_nil le_rfl]
  exact rests_edit (fun _ _ => rfl) cut

theorem Node.keys_foldl_unset (keys : List String) (n : Node) :
    (keys.foldl Node.unset n).data.keys = n.data.keys.filter (· ∉ keys) := by
  induction keys generalizing n with
  | nil => simp
  | cons key keys ih =>
    rw [List.foldl_cons, ih, ← Adapting.filter_not_mem_cons]
    congr 1
    exact OrderedMap.keys_erase ..

theorem Node.get?_foldl_unset {keys : List String} {key : String} (h : key ∉ keys) (n : Node) :
    (keys.foldl Node.unset n).data.get? key = n.data.get? key := by
  induction keys generalizing n with
  | nil => rfl
  | cons k keys ih =>
    obtain ⟨here, rest⟩ := not_or.1 (List.mem_cons.not.1 h)
    rw [List.foldl_cons, ih rest, Node.get?_unset, if_neg fun e => here e.symm]

/-- The data entries of a record that are not asked for. -/
def Node.staleFields (n : Node) : List String :=
  n.data.keys.filter fun key =>
    match slotIndex? "valueArg" key with
    | none => false
    | some i => (n.count? "numArgs").getD 0 ≤ i

theorem adaptRecord_eq (id : NodeId) (a : Adapted) (n : Node) :
    adaptRecord id a n = a.update fun g => g.modifyNode id fun m => n.staleFields.foldl Node.unset m :=
  rfl

/-- The count is not among the fields, so removing fields asks for the same. -/
theorem Node.staleFields_foldl_unset (n : Node) :
    (n.staleFields.foldl Node.unset n).staleFields = [] := by
  have counted : "numArgs" ∉ n.staleFields := by
    unfold staleFields
    intro mem
    have index : slotIndex? "valueArg" "numArgs" = none := by decide
    simpa [index] using List.of_mem_filter mem
  have same : (n.staleFields.foldl Node.unset n).count? "numArgs" = n.count? "numArgs" :=
    count?_congr (get?_foldl_unset counted n)
  rw [List.eq_nil_iff_forall_not_mem]
  intro key mem
  obtain ⟨left, stale⟩ := List.mem_filter.1 mem
  rw [keys_foldl_unset] at left
  rw [same] at stale
  obtain ⟨there, kept⟩ := List.mem_filter.1 left
  have gone : key ∈ n.staleFields := List.mem_filter.2 ⟨there, stale⟩
  simp [gone] at kept

theorem rests_adaptRecord (hn : a.graph.node? id = some n)
    (hm : (adaptRecord id a n).graph.node? id = some m) :
    Rests (adaptRecord id · m) (adaptRecord id a n).graph := by
  rw [adaptRecord_eq] at hm ⊢
  have left : m = n.staleFields.foldl Node.unset n := by
    have there : (a.graph.modifyNode id fun m => n.staleFields.foldl Node.unset m).node? id =
        some m := hm
    rw [node?_modifyNode_self, hn] at there
    exact (Option.some.inj there).symm
  intro cut
  dsimp only
  rw [adaptRecord_eq, left, n.staleFields_foldl_unset]
  exact rests_edit (fun _ _ => rfl) cut

/-! ### Assignments -/

/-- The variable of an assignment is fed the same when fields are dropped. -/
theorem Graph.SameFeed.foldl_dropField (id : NodeId) (is : List Nat) (a : Adapted) :
    SameFeed id "inVariable" a.graph (is.foldl (dropField id) a).graph := by
  refine List.foldlRecOn is (dropField id)
    (motive := fun b : Adapted => SameFeed id "inVariable" a.graph b.graph) (.refl ..) ?_
  intro b hb i _
  refine hb.trans ?_
  unfold dropField
  dsimp only
  split
  · exact .refl ..
  · exact (SameFeed.dropInput (Program.slotKey_ne (by decide) i)).trans (.edit ..)

theorem Graph.SameFeed.targetOf {g' : Graph} (h : SameFeed id "inVariable" g g')
    (wired : g.WellWired) : Graph.targetOf id g' = Graph.targetOf id g := by
  unfold Graph.targetOf
  rw [h.wire]
  cases hw : g.wireInto? id "inVariable" with
  | none => rfl
  | some w => exact h.node?_source wired hw

/-- What following the rule for assignments leaves: the variable is fed the same, there is an input
for each field, and the count and the type of the result are noted. -/
structure Graph.Assigned (id : NodeId) (required : Nat) (t : DataType) (g g' : Graph) : Prop where
  feed : SameFeed id "inVariable" g g'
  node : g'.At id fun m => slotCount "inValue" m.inputs.values = required ∧
    m.data.get? "numArgs" = some (.num (.int required)) ∧ m.Shows resultKey "typeName" t

/-- Bringing the fields to a count, and noting the count and the type. -/
theorem assigned_resized {base : Graph} {component : String} {ins outs : List String}
    (h : Adapting base id component ins outs a.graph) {present required : Nat}
    (numbered : Numbered "inValue" ins present) (hr : required ≤ Decimal.maxCount)
    (field : Nat → String × DataType) (t : DataType) :
    Assigned id required t a.graph (retypeOutput id (((between required present).foldl (dropField id)
      (a.update fun g => g.modifyNode id fun n => (between present required).foldl
        (fun n i => growField n i (field i).1 (field i).2) n)).update fun g =>
          g.modifyNode id fun n => n.set "numArgs" (.num (.int required)))
        resultKey "typeName" t).graph := by
  obtain ⟨ins', outs', numbered', resized⟩ := h.resizeFields hr numbered field
  have fed := SameFeed.foldl_dropField id (between required present) (a.update fun g =>
    g.modifyNode id fun n => (between present required).foldl
      (fun n i => growField n i (field i).1 (field i).2) n)
  generalize (between required present).foldl (dropField id) _ = b at resized fed ⊢
  have counted := resized.edit fun n => n.samePorts_set "numArgs" (.num (.int required))
  have noted : (b.graph.modifyNode id fun n => n.set "numArgs" (.num (.int required))).At id
      fun n => n.data.get? "numArgs" = some (.num (.int required)) := by
    obtain ⟨k, hk, -⟩ := resized.node
    refine At.edit (P := (· = k)) ⟨k, hk, rfl⟩ fun n _ => ?_
    rw [Node.get?_set, if_pos rfl]
  have fedThen := fed.trans (SameFeed.edit id "inVariable" b.graph fun n =>
    n.set "numArgs" (.num (.int required)))
  generalize hc : b.update (fun g => g.modifyNode id fun n =>
    n.set "numArgs" (.num (.int required))) = c
  have graph : c.graph = b.graph.modifyNode id fun n => n.set "numArgs" (.num (.int required)) :=
    hc ▸ rfl
  rw [← graph] at counted noted fedThen
  have retyped := counted.retypeOutput resultKey "typeName" t
  constructor
  · exact (SameFeed.edit ..).trans (fedThen.trans (.retypeOutput counted.wired ..))
  · obtain ⟨m, hm, -, keys, -⟩ := retyped.node
    rw [← keys] at numbered'
    refine ⟨m, hm, (retyped.wired.keyed hm).slotCount_inputs numbered', ?_⟩
    refine (noted.retypeOutput (Q := fun n => n.data.get? "numArgs" = some (.num (.int required)) ∧
      n.Shows resultKey "typeName" t) fun n hn => ⟨?_, n.shows_retype ..⟩).of_node? hm
    unfold Node.retype
    rw [Node.get?_set, if_neg (by decide)]
    exact hn

theorem assigned_assignTo (lang : Language) (wired : a.graph.WellWired)
    (hn : a.graph.node? id = some n) {present : Nat}
    (numbered : Numbered "inValue" n.inputs.keys present) (target : Option Node) (t : DataType) :
    Assigned id (fieldCount (fieldsOf lang.types target) target) t a.graph
      (assignTo lang id target t a).graph := by
  have start := adapting_refl wired hn
  have hr := fieldCount_le (fieldsOf lang.types target) target
  unfold assignTo
  dsimp only
  rw [hn]
  dsimp only
  rw [(wired.keyed hn).slotCount_inputs numbered]
  split_ifs
  · -- the inputs start anew
    have cleared := start.foldl_dropField (List.range present)
    rw [range_eq_between] at cleared ⊢
    have resized := assigned_resized cleared (numbered.without (Nat.zero_le _)) hr
      (fieldAt lang.types (fieldsOf lang.types target) t) t
    exact ⟨(SameFeed.foldl_dropField ..).trans resized.feed, resized.node⟩
  · exact assigned_resized start numbered hr _ t

/-- An assignment that has been brought in line with its target. -/
theorem rests_assignTo {target : Option Node} {t : DataType} {base : Graph}
    (h : Assigned id (fieldCount (fieldsOf lang.types target) target) t base g)
    (assigns : g.At id Node.Assigns) : Rests (assignTo lang id target t) g := by
  obtain ⟨m, hm, counted, noted, shows⟩ := h.node
  obtain ⟨port, hport⟩ := OrderedMap.mem_keys_iff.1 (assigns.of_node? hm).result
  have typed : (m.output? resultKey).map (·.tag) = some t.tag := by
    rw [show m.output? resultKey = some port from hport, Option.map_some, shows.tag port hport]
  intro cut
  unfold assignTo
  dsimp only
  rw [hm]
  dsimp only
  rw [counted, if_neg (not_not.2 typed), if_neg (not_not.2 typed), between_eq_nil le_rfl]
  generalize fieldCount (fieldsOf lang.types target) target = required at noted ⊢
  have idle : (⟨g, cut⟩ : Adapted).update (fun g => g.modifyNode id fun n => n) = ⟨g, cut⟩ :=
    rests_edit (fun _ _ => rfl) cut
  have same : (⟨g, cut⟩ : Adapted).update (fun g => g.modifyNode id fun m =>
      m.set "numArgs" (.num (.int required))) = ⟨g, cut⟩ := by
    refine rests_edit (fun k hk => Node.set_eq_self ?_) cut
    rw [hm] at hk
    cases hk
    exact noted
  simp only [List.foldl_nil]
  rw [idle, same]
  exact rests_retypeOutput ⟨m, hm, shows⟩ cut

/-- The variable of an assignment takes one wire. -/
theorem Node.Assigns.incoming_length_le_one (assigns : n.Assigns) (wired : g.WellWired)
    (hn : g.node? id = some n) : (g.incoming id "inVariable").length ≤ 1 := by
  cases hi : g.input? id "inVariable" with
  | none => simp [wired.incoming_eq_nil hi]
  | some port =>
    refine wired.input_single hi (assigns.single port ?_)
    unfold Graph.input? at hi
    rwa [hn] at hi

theorem rests_adaptAssignment (wired : a.graph.WellWired) (hn : a.graph.node? id = some n)
    {present : Nat} (numbered : Numbered "inValue" n.inputs.keys present) (assigns : n.Assigns) :
    Rests (adaptAssignment lang id) (adaptAssignment lang id a).graph := by
  have start : a.graph.At id Node.Assigns := ⟨n, hn, assigns⟩
  have single := assigns.incoming_length_le_one wired hn
  have wired' := ((adapting_refl wired hn).keptType lang "inVariable" lang.types.any).wired
  have hn' : (keptType lang id a "inVariable" lang.types.any).1.graph.node? id = some n :=
    (node?_keptType ..).trans hn
  -- what the rule does depends on the type of the target and the node that it comes from
  have assigned := assigned_assignTo lang wired' hn' numbered
    (targetOf id (keptType lang id a "inVariable" lang.types.any).1.graph)
    (keptType lang id a "inVariable" lang.types.any).2
  have assigns' := assigns_assignTo lang (start.keptType lang "inVariable" lang.types.any)
    (targetOf id (keptType lang id a "inVariable" lang.types.any).1.graph)
    (keptType lang id a "inVariable" lang.types.any).2
  rw [← adaptAssignment_eq] at assigned assigns'
  generalize (adaptAssignment lang id a).graph = g at assigned assigns' ⊢
  have target := assigned.feed.targetOf wired'
  intro cut
  have again := keptType_again wired single assigned.feed cut
  rw [adaptAssignment_eq, again]
  dsimp only
  rw [target]
  exact rests_assignTo assigned assigns' cut

end Rules

end FlowScript
