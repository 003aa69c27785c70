import FlowScript.Proofs.Closed
import FlowScript.Proofs.Forms
import FlowScript.Proofs.Handing

/-!
# Parameters and their readers

The parameters of a function are numbered in three places: its head lists as many as its data ask
for, its outputs are numbered slots, and a reader takes the number from the output it is wired to.
The first two agree as long as the data have not been edited since the node was adapted, whatever
else a session has done, and then everybody who reads a parameter reads one of the head.

* `Graph.Unedited`: the data of a node are those for which it was last adapted;
* `Graph.Unedited.counted`: its outputs are then numbered up to the count in its data;
* `Program.emitDefinition_writes`: the head of a function;
* `Program.Ends.parameters_agree`: the head lists the parameters, and readers read one of them.
-/

namespace FlowScript

/-! ### Data that were not edited -/

/-- Whether an edit changes the data of a node. -/
def Edit.rewrites (id : NodeId) : Edit → Bool
  | .set j _ _ | .setDefault j _ _ | .unset j _ => j = id
  | _ => false

namespace Graph

variable {lang : Language} {g : Graph} {id : NodeId}

/-- Since a node was adapted, or since it was created, a session has not edited its data. -/
def Unedited (lang : Language) (name : String) (edits : List Edit) (id : NodeId) : Prop :=
  ∃ before after, edits = before ++ after ∧ (∀ e ∈ after, e.rewrites id = false) ∧
    ((session lang name before).node? id = none ∨ ∃ first lib, before = first ++ [.adapt lib id])

/-- The outputs for parameters are numbered up to the count in the data. -/
structure Counted (lang : Language) (id : NodeId) (g : Graph) : Prop where
  outputs : ∀ {n}, g.node? id = some n → lang.kind? n.component = some .definition →
    Numbered "out" n.outputs.keys ((n.count? "numArgs").getD 0)

namespace Counted

/-- A change that leaves the node as it is, or removes it. -/
theorem of_node? (h : g.Counted lang id) {g' : Graph}
    (same : ∀ {n}, g'.node? id = some n → g.node? id = some n) : g'.Counted lang id :=
  ⟨fun hn hk => h.outputs (same hn) hk⟩

/-- A data edit of another node. -/
theorem edit (h : g.Counted lang id) {j : NodeId} (other : j ≠ id) (f : Node → Node) :
    (g.modifyNode j f).Counted lang id := by
  refine h.of_node? fun hn => ?_
  rwa [node?_modifyNode, if_neg other] at hn

/-- A new node. -/
theorem create (h : g.Counted lang id) {library : Library} {component : String} {data : NodeData}
    {g' : Graph} {n : Node} (hc : g.create lang library component data = .ok (g', n)) :
    g'.Counted lang id := by
  unfold Graph.create at hc
  cases hk : lang.kind? component with
  | none =>
    rw [hk] at hc
    cases hc
  | some kind =>
    rw [hk] at hc
    have same := Node.sameName_equip lang library kind { id := g.nextId, component, data }
    cases hc
    constructor
    intro m hm hk'
    rw [node?_addNode] at hm
    split_ifs at hm
    · cases hm
      rw [same.2, hk] at hk'
      cases hk'
      -- the ports are made from the data, and the data stay
      have lists : (Node.equip lang library .definition
          { id := g.nextId, component, data }).Lists _ _ :=
        Node.lists_equip lang library rfl rfl rfl
      have kept : (Node.equip lang library .definition
          { id := g.nextId, component, data }).data = data :=
        List.foldlRecOn _ _ (motive := fun m : Node => m.data = data) rfl fun _ hm _ _ => hm
      rw [lists.keys_outputs, Node.count?_congr (m := Node.equip lang library .definition _)
        (n := { id := g.nextId, component, data }) (by rw [kept])]
      exact numbered_row (fun _ => rfl) SlotPair.params_apart.outs
        (Node.slotsAsked_le .definition _)
    · exact h.outputs hm hk'

end Counted

/-- An adapted node. -/
theorem InForm.counted_adapt (form : g.InForm lang) (cat : lang.types.Catalogued)
    (wired : g.WellWired) (lib : Library) : (g.adapt lang id lib).1.Counted lang id := by
  constructor
  intro m hm hk
  cases hn : g.node? id with
  | none =>
    have absent : ∀ n, g.node? id = some n → lang.kind? n.component = none := by simp [hn]
    rw [adapt_eq_self lib absent, hn] at hm
    cases hm
  | some n =>
    obtain ⟨m', hm', place⟩ := ((Adapted.changes_adapt lang id g lib).trimmed).node n hn
    rw [hm] at hm'
    cases hm'
    rw [place.2.1] at hk
    have formed := (formed_adapt cat wired hn hk rfl (form.node hn hk) lib).of_node? hm
    exact formed.numbered.2 "out" (List.mem_singleton.2 rfl)

/-- Every edit that is not one of the data of the node keeps the count. -/
theorem Counted.apply (h : g.Counted lang id) (form : g.InForm lang) (cat : lang.types.Catalogued)
    (wired : g.WellWired) {e : Edit} (plain : e.isRetag = false) (quiet : e.rewrites id = false) :
    (g.apply lang e).Counted lang id := by
  cases e with
  | create library component data =>
    unfold Graph.apply
    dsimp only
    cases hc : g.create lang library component data with
    | ok made => exact h.create hc
    | error _ => exact h
  | set j | setDefault j | unset j => exact h.edit (by simpa [Edit.rewrites] using quiet) _
  | connect wire =>
    unfold Graph.apply
    dsimp only
    cases hc : g.connect wire with
    | ok g' =>
      obtain ⟨rfl, -⟩ := connect_eq_ok hc
      exact h.of_node? fun hn => hn
    | error _ => exact h
  | disconnect wire => exact h.of_node? fun hn => hn
  | remove j =>
    refine h.of_node? fun hn => ?_
    rw [Graph.apply, node?_removeNode] at hn
    split_ifs at hn
    exact hn
  | retagInput | retagOutput => cases plain
  | adapt library j =>
    by_cases same : j = id
    · subst same
      exact form.counted_adapt cat wired library
    · have others := (Adapted.changes_adapt lang j g library).trimmed.others id same
      exact h.of_node? fun hn => others.symm.trans hn

theorem Unedited.counted (cat : lang.types.Catalogued) {name : String} {edits : List Edit}
    (plain : ∀ e ∈ edits, e.isRetag = false) (h : Unedited lang name edits id) :
    (session lang name edits).Counted lang id := by
  obtain ⟨before, after, rfl, quiet, start⟩ := h
  induction after using List.reverseRecOn with
  | nil =>
    rw [List.append_nil] at plain ⊢
    rcases start with absent | ⟨first, lib, rfl⟩
    · exact ⟨fun hn => by rw [absent] at hn; cases hn⟩
    · rw [session, List.foldl_concat]
      have form : (session lang name first).InForm lang :=
        inForm_session cat name fun e he => plain e (List.mem_append_left _ he)
      exact form.counted_adapt cat (sound_session lang name first).wired lib
  | append_singleton after e ih =>
    rw [← List.append_assoc] at plain ⊢
    have plain' : ∀ e' ∈ before ++ after, e'.isRetag = false :=
      fun e' he => plain e' (List.mem_append_left _ he)
    have counted := ih plain' fun e' he => quiet e' (List.mem_append_left _ he)
    rw [session, List.foldl_concat]
    exact counted.apply (inForm_session cat name plain') cat
      (sound_session lang name (before ++ after)).wired (plain e (by simp)) (quiet e (by simp))

end Graph

/-! ### The head of a function -/

/-- The head of a function with the texts of its parameters. -/
def Node.definitionHead (n : Node) (a : Address) (texts : List String) : String :=
  "def " ++ n.nameOr a ++ "(" ++ "; ".intercalate texts ++ ")"

namespace Program

variable {p : Program} {w : Walk} {a : Address} {n : Node} {s s' : Pass}

/-- The text of a function begins with its head, which has a text for each parameter that the data
ask for. -/
theorem emitDefinition_writes (closed : p.lang.Closed) (hw : w.FaithfulAt p a n .definition)
    (s : Pass) :
    Gen.Sat False (p.emitDefinition w a n) s fun _ s' => ∃ texts s₁,
      List.Forall₂ (fun i text => ∃ rest, text = a.paramIdent i ++ rest)
        (List.range ((n.count? "numArgs").getD 0)) texts ∧ s.Extends s₁ ∧
      (s₁.write (some a.rootId) (n.definitionHead a texts) .header).Extends s' := by
  have listed := sat_parameters (fun hk => closed.isSome_literal hk) a n
    (List.range ((n.count? "numArgs").getD 0)) s
  refine (((quiet_parameters _).sat s).and listed).bind fun texts s₁ hs₁ => ?_
  obtain ⟨asks, listed⟩ := hs₁
  refine ((quiet_markMain (p := p) (a := a) _).sat s₁).bind fun _ s₂ marks => ?_
  refine ((quiet_writeGiven (p := p) _).sat s₂).bind fun _ s₃ annotates => ?_
  refine Gen.Sat.bind (Gen.Sat.modify (Q := fun _ s' =>
    s' = s₃.write (some a.rootId) (n.definitionHead a texts) .header) rfl) ?_
  rintro _ _ rfl
  refine (does_flowBlock (hw.follow rfl) _).bind fun _ s₄ hs₄ => ?_
  obtain ⟨_, follows, -⟩ := hs₄
  exact ⟨texts, s₃, listed, (asks.extends.trans marks.extends).trans annotates.extends,
    follows.extends.trans (.write ..)⟩

/-- A node that the flow cannot arrive at is compiled where it is an entry. -/
theorem Performs.entry_emitted {as : List Address} (h : p.Performs (.entries as) s s')
    (mem : a ∈ as) {kind : Kind} (node : p.node? a = some n) (kindOf : p.kind? n = some kind)
    (free : kind.hasFlowIn = false) : ∃ block, .emitted a .entry block ∈ s'.journal := by
  induction as generalizing s with
  | nil => cases mem
  | cons b as ih =>
    cases h with
    | entry first rest =>
      rcases List.mem_cons.1 mem with rfl | mem
      · cases first with
        | absent none => simp [none] at node
        | unknown node' none =>
          rw [node] at node'
          cases node'
          simp [none] at kindOf
        | again node' kindOf' flowIn =>
          rw [node] at node'
          cases node'
          rw [kindOf] at kindOf'
          cases kindOf'
          simp [free] at flowIn
        | compile _ _ _ _ _ _ _ inner =>
          refine ⟨s.block.path, rest.extends.mem_journal (inner.extends.mem_journal ?_)⟩
          exact Pass.mem_journal_begin.2 (.inl rfl)
      · exact ih rest mem

/-! ### Readers of parameters -/

variable {id : NodeId}

theorem node?_root : p.node? (.root id) = p.root.node? id := node?_of_graphAt? (graphAt?_nil p)

/-- A search ends at a function of the root only with one of its parameters. -/
theorem Resolves.parameter (wired : p.root.WellWired) (node : p.root.node? id = some n)
    (kindOf : p.kind? n = some .definition) {c : Address} {port : String} {v : Producer}
    (h : p.Resolves c port (some v)) (here : v.address = .root id) :
    v.port ∈ n.outputs.keys ∧ isSlot "out" v.port = true := by
  obtain ⟨b, q, wire, m, -, next, fed, rfl⟩ := h.route
  have path : b.path = [] := congrArg Address.path here
  have same : m.id = id := congrArg Address.id here
  -- the wire is one of the root, and comes from the function
  have root : p.graphAt? b.path = some p.root := by rw [path, graphAt?_nil]
  obtain ⟨-, out, output⟩ := joined_of_feeding root wired fed
  obtain ⟨g, hg, -, hm⟩ := feeding?_eq_some.1 fed
  rw [root] at hg
  cases hg
  rw [← wired.node_id hm, same, node] at hm
  cases hm
  refine ⟨OrderedMap.mem_keys_iff.2 ⟨out, output⟩, ?_⟩
  simp only [look, fed, lookAt, kindOf] at next
  split_ifs at next with slot
  exact slot

/-- Whoever reads a function of the root whose data were not edited reads a parameter. -/
theorem Ends.handed_parameter (h : p.Ends s) (wired : p.root.WellWired)
    (counted : p.root.Counted p.lang id) (node : p.root.node? id = some n)
    (kindOf : p.kind? n = some .definition) {c : Address} {port : String} {v : Producer}
    {value : Fragment} (mem : .referenced c port v value ∈ s.journal)
    (here : v.address = .root id) :
    ∃ i < (n.count? "numArgs").getD 0, value.text = (Address.root id).paramIdent i := by
  obtain ⟨key, slot⟩ := (h.resolves mem).parameter wired node kindOf here
  have numbered : v.port ∈ n.outputs.keys.filter (isSlot "out") := List.mem_filter.2 ⟨key, slot⟩
  rw [counted.outputs node kindOf] at numbered
  obtain ⟨i, hi, port⟩ := List.mem_map.1 numbered
  have lt := List.mem_range.1 hi
  have small : i ≤ Decimal.maxCount := lt.le.trans (n.slotsAsked_le .definition)
  obtain ⟨s₀, rfl, -⟩ := h.handed.made mem
  refine ⟨i, lt, ?_⟩
  have kindAt : p.kindAt? (.root id) = some .definition :=
    kindAt?_of_node? (node?_root.trans node) kindOf
  simp only [valueOf, here, kindAt, ← port, slotIndex?_slotKey "out" small]

/-- In a pass over a loaded language, take a function of the root whose data were not edited since
it was adapted.  It is compiled, and the head that is written wherever it is compiled has as many
parameters as the data ask for: each begins with the identifier of the parameter, in the order of
their numbers.  Whoever reads one of its outputs is handed the identifier of one of them. -/
theorem Ends.parameters_agree {patterns : PatternReader} {core : CoreDesc} {surface : SurfaceDesc}
    {extra : ExtraDesc} (loads : Language.load patterns core surface extra = .ok p.lang)
    {name : String} {edits : List Edit}
    (built : p.root = Graph.session p.lang name edits)
    (plain : ∀ e ∈ edits, e.isRetag = false) (node : p.root.node? id = some n)
    (kindOf : p.kind? n = some .definition) (unedited : Graph.Unedited p.lang name edits id)
    (h : p.Ends s) :
    (∃ block, .emitted (.root id) .entry block ∈ s.journal) ∧
      (∀ cause block, .emitted (.root id) cause block ∈ s.journal → ∃ texts,
        s.HasText id block ⟨n.definitionHead (.root id) texts, []⟩ .header ∧
        List.Forall₂ (fun i text => ∃ rest, text = (Address.root id).paramIdent i ++ rest)
          (List.range ((n.count? "numArgs").getD 0)) texts) ∧
      ∀ c port v value, .referenced c port v value ∈ s.journal → v.address = .root id →
        ∃ i < (n.count? "numArgs").getD 0, value.text = (Address.root id).paramIdent i := by
  have wired : p.root.WellWired := by
    rw [built]
    exact (Graph.sound_session p.lang name edits).wired
  have counted : p.root.Counted p.lang id := by
    rw [built]
    exact unedited.counted (Language.catalogued_of_load loads) plain
  have node' : p.node? (.root id) = some n := node?_root.trans node
  refine ⟨?_, fun cause block emitted => ?_, fun c port v value mem here => ?_⟩
  · have entry : Address.root id ∈ p.entries := by
      refine List.mem_map.2 ⟨n, List.mem_filter.2 ⟨?_, ?_⟩, by rw [wired.node_id node]⟩
      · exact OrderedMap.mem_values_iff.2 ⟨id, node⟩
      · simp [kindOf, Kind.isTopLevel]
    exact h.performs.entry_emitted entry node' kindOf rfl
  · obtain ⟨w, s₀, s₁, walks, path, text, later⟩ := h.generated node' kindOf emitted
    obtain ⟨texts, s₂, listed, before, after⟩ :=
      (emitDefinition_writes (Language.closed_load loads).1 walks s₀).eq_some text
    refine ⟨texts, ?_, listed⟩
    have written := h.hasText (after.journal_suffix.trans later)
    rwa [before.path, path] at written
  · exact h.handed_parameter wired counted node kindOf mem here

end Program

namespace Sample

/-- The edits up to the last time that a function with two parameters is adapted: it had one when it
was created. -/
def widened : List Edit := [
  .create .empty "Function" (OrderedMap.ofList [("numArgs", .str "1"), ("typeName0", .str "int")]),
  .set 1 "numArgs" (.str "2"),
  .adapt .empty 1]

/-- The edits after it, which fill in the second parameter and print the first. -/
def filled : List Edit := [
  .create .empty "int" (OrderedMap.ofList [("value", .str "5")]),
  .create .empty "print" .empty,
  .connect ⟨2, "result", 1, "arg1"⟩,
  .connect ⟨1, "fout", 3, "fin"⟩,
  .connect ⟨1, "out0", 3, "value"⟩]

def defined : Program where
  lang := language
  root := Graph.session language "main" (widened ++ filled)

theorem defined_isSome : (defined.runWith? 20).isSome = true := by
  decide +kernel

/-- How the program is compiled. -/
def definedPass : Pass := (defined.runWith? 20).get defined_isSome

theorem defined_ends : defined.Ends definedPass :=
  ⟨20, (Option.some_get _).symm⟩

/-- The function. -/
def definedNode : Node := (defined.root.node? 1).get (by decide +kernel)

theorem node?_defined : defined.root.node? 1 = some definedNode := (Option.some_get _).symm

/-- The head lists both parameters, the second one with its literal, and the reader reads the
first. -/
theorem parameters_agree_defined :
    Graph.Unedited language "main" (widened ++ filled) 1 ∧
      (definedNode.count? "numArgs").getD 0 = 2 ∧
      (definedPass.body.map (·.text)).head? = some "def _1(_1_0: int; _1_1 = 5)" ∧
      (∃ block texts, definedPass.HasText 1 block
          ⟨definedNode.definitionHead (.root 1) texts, []⟩ .header ∧
        List.Forall₂ (fun i text => ∃ rest, text = (Address.root 1).paramIdent i ++ rest) [0, 1]
          texts) ∧
      .referenced ⟨[], 3⟩ "value" ⟨⟨[], 1⟩, "out0"⟩ ⟨"_1_0", []⟩ ∈ definedPass.journal ∧
      ∃ i < 2, "_1_0" = (Address.root 1).paramIdent i := by
  have unedited : Graph.Unedited language "main" (widened ++ filled) 1 :=
    ⟨widened, filled, rfl, by decide +kernel, .inr ⟨widened.dropLast, .empty, rfl⟩⟩
  have count : (definedNode.count? "numArgs").getD 0 = 2 := by decide +kernel
  have read : .referenced ⟨[], 3⟩ "value" ⟨⟨[], 1⟩, "out0"⟩ ⟨"_1_0", []⟩ ∈ definedPass.journal := by
    decide +kernel
  obtain ⟨⟨block, compiled⟩, heads, readers⟩ := defined_ends.parameters_agree load_eq rfl
    (by simp [widened, filled, Edit.isRetag]) node?_defined (by decide +kernel) unedited
  obtain ⟨texts, head, listed⟩ := heads _ _ compiled
  have reader := readers _ _ _ _ read rfl
  rw [count] at listed reader
  exact ⟨unedited, count, by decide +kernel, ⟨block, texts, head, listed⟩, read, reader⟩

end Sample

end FlowScript
