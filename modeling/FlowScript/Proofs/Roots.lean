import FlowScript.Proofs.Declarations
import FlowScript.Proofs.Scripts

/-!
# Lines and messages belong to nodes of the root graph

Module calls are expanded in place, but only the root graph is in view.  Every line and every
message is attributed to a node of it, however deep in modules the text or the problem arises.

* `Program.inRoot_of_node?`: an occurrence lies under a node of the root graph;
* `Program.Rooted`, `Program.Change.rooted`: whatever a pass does, it attributes to such nodes;
* `Program.Ends.attributed_to_root`: lines, messages and annotations of a finished pass.
-/

namespace FlowScript

namespace Diagnostics

theorem mem_keys_addNode {d : Diagnostics} {id id' : NodeId} {message : String} :
    id ∈ (d.addNode id' message).nodes.keys ↔ id ∈ d.nodes.keys ∨ id = id' := by
  unfold addNode
  rw [OrderedMap.keys_insert]
  split_ifs with known
  · constructor
    · exact .inl
    · rintro (mem | rfl)
      · exact mem
      · exact known
  · simp

theorem mem_keys_foldl_addNode {d : Diagnostics} {ids : List NodeId} {id : NodeId}
    {message : String} :
    id ∈ (ids.foldl (·.addNode · message) d).nodes.keys ↔ id ∈ d.nodes.keys ∨ id ∈ ids := by
  induction ids generalizing d with
  | nil => simp
  | cons id' ids ih =>
    rw [List.foldl_cons, ih, mem_keys_addNode, List.mem_cons, or_assoc]

/-- Where every diagnosed node is in the graph, each has one annotation, in the order in which nodes
were first diagnosed. -/
theorem map_node_annotations {d : Diagnostics} {g : Graph}
    (h : ∀ id ∈ d.nodes.keys, ∃ n, g.node? id = some n) :
    (d.annotations g).map (·.node) = d.nodes.keys := by
  unfold annotations OrderedMap.keys
  rw [List.map_filterMap, ← List.filterMap_eq_map]
  refine List.filterMap_congr fun entry mem => ?_
  obtain ⟨n, hn⟩ := h entry.1 (List.mem_map_of_mem mem)
  simp [hn]

/-- An annotation stands at its node and shows the messages about it. -/
theorem of_mem_annotations {d : Diagnostics} {g : Graph} {x : Annotation}
    (h : x ∈ d.annotations g) :
    ∃ n, g.node? x.node = some n ∧ x.position = n.position ∧
      x.text = "\n".intercalate (d.messages x.node) := by
  obtain ⟨⟨id, messages⟩, mem, hx⟩ := List.mem_filterMap.1 h
  obtain ⟨n, hn, rfl⟩ := Option.map_eq_some_iff.1 hx
  have found : d.nodes.get? id = some messages := OrderedMap.get?_eq_some_iff.2 mem
  exact ⟨n, hn, rfl, by simp [Diagnostics.messages, found]⟩

end Diagnostics

theorem Pass.of_mem_unprocessed {s : Pass} {id : NodeId} (h : id ∈ s.unprocessed) :
    ∃ a ∈ s.required, a.rootId = id := by
  unfold unprocessed at h
  rcases mem_foldl_addNew.1 h with h | h
  · cases h
  · obtain ⟨a, mem, rfl⟩ := List.mem_map.1 h
    exact ⟨a, (List.mem_filter.1 mem).1, rfl⟩

namespace Program

variable {p : Program}

/-- A node of the root graph. -/
def InRoot (p : Program) (id : NodeId) : Prop := ∃ n, p.root.node? id = some n

/-- Every occurrence lies under a node of the root graph: the outermost call on the way to it, or
the node itself. -/
theorem inRoot_of_node? {a : Address} {n : Node} (h : p.node? a = some n) : p.InRoot a.rootId := by
  obtain ⟨path, id⟩ := a
  cases path with
  | nil => exact ⟨n, h⟩
  | cons call path =>
    obtain ⟨g, hg, -⟩ := Option.bind_eq_some_iff.1 h
    obtain ⟨outer, called, -⟩ := Option.bind_eq_some_iff.1 hg
    obtain ⟨caller, hcaller, -⟩ := Option.bind_eq_some_iff.1 called
    exact ⟨caller, hcaller⟩

/-- Everything that a state attributes to nodes is attributed to nodes of the root graph. -/
structure Rooted (p : Program) (s : Pass) : Prop where
  lines : ∀ {line}, .wrote line ∈ s.journal → ∃ id, line.owner = some id ∧ p.InRoot id
  messages : ∀ id ∈ s.diagnostics.nodes.keys, p.InRoot id
  required : ∀ a ∈ s.required, p.InRoot a.rootId

namespace Rooted

variable {s s' : Pass}

theorem initial : p.Rooted {} where
  lines h := by cases h
  messages _ h := by cases h
  required _ h := by cases h

/-- Steps that write nothing, report nothing and use no value. -/
theorem of_eq (h : p.Rooted s)
    (lines : ∀ {line}, .wrote line ∈ s'.journal → .wrote line ∈ s.journal)
    (diagnostics : s'.diagnostics = s.diagnostics) (required : s'.required = s.required) :
    p.Rooted s' where
  lines mem := h.lines (lines mem)
  messages := by
    rw [diagnostics]
    exact h.messages
  required := by
    rw [required]
    exact h.required

theorem note (h : p.Rooted s) {e : Event} (plain : e.line? = none) : p.Rooted (s.note e) := by
  refine h.of_eq (fun mem => ?_) rfl rfl
  rcases List.mem_cons.1 mem with rfl | mem
  · cases plain
  · exact mem

theorem write (h : p.Rooted s) {id : NodeId} (root : p.InRoot id) {text : String}
    {role : LineRole} {uses : List Address} : p.Rooted (s.write (some id) text role uses) where
  lines mem := by
    rcases Pass.mem_journal_write.1 mem with ⟨line, hline, heq⟩ | mem
    · cases heq
      obtain ⟨part, -, rfl⟩ := List.mem_map.1 hline
      exact ⟨id, rfl, root⟩
    · exact h.lines mem
  messages := h.messages
  required := h.required

theorem reportAt (h : p.Rooted s) {a : Address} (root : p.InRoot a.rootId) {cause : Problem} :
    p.Rooted (s.reportAt p a cause) where
  lines mem := (h.note (e := .problem a cause) rfl).lines mem
  messages id mem := by
    rcases Diagnostics.mem_keys_addNode.1 mem with mem | rfl
    · exact h.messages id mem
    · exact root
  required := h.required

theorem require (h : p.Rooted s) {a : Address} (root : p.InRoot a.rootId) :
    p.Rooted (s.require a) where
  lines := h.lines
  messages := h.messages
  required b mem := by
    rcases mem_addNew.1 mem with mem | rfl
    · exact h.required b mem
    · exact root

end Rooted

/-- Every single change attributes to nodes of the root graph. -/
theorem Change.rooted (placed : p.Placed) {s s' : Pass} (h : p.Change s s') (hs : p.Rooted s) :
    p.Rooted s' := by
  have root : ∀ {a}, p.There a → p.InRoot a.rootId := by
    intro a there
    obtain ⟨n, node⟩ := there placed
    exact inRoot_of_node? node
  cases h with
  | touch there touches =>
    cases touches with
    | imports | main | process | keep => exact hs.of_eq id rfl rfl
    | report => exact hs.reportAt (root there)
    | write => exact hs.write (root there)
    | reference => exact hs.note rfl
  | note step => exact hs.note (Event.line?_of_isStep step)
  | report there => exact hs.reportAt (root there)
  | begin =>
    exact hs.of_eq (fun mem => Pass.mem_of_mem_begin mem rfl) Pass.diagnostics_begin
      Pass.required_begin
  | require there => exact hs.require (root there)
  | openBlock | closeBlock | start | stop => exact hs.of_eq id rfl rfl

/-- In a program whose nodes stand under their own numbers, a finished pass attributes every line
and every message to a node of the root graph, and so each diagnosed node has one annotation. -/
theorem Ends.attributed_to_root {s : Pass} (h : p.Ends s) (placed : p.Placed) :
    (∀ owner ∈ (s.finish p.settings).lines.owners,
      ∃ id n, owner = some id ∧ p.root.node? id = some n ∧ n.id = id) ∧
    (∀ id ∈ (s.finish p.settings).diagnostics.nodes.keys,
      ∃ n, p.root.node? id = some n ∧ n.id = id) ∧
    (((s.finish p.settings).diagnostics.annotations p.root).map (·.node) =
      (s.finish p.settings).diagnostics.nodes.keys) ∧
    (s.finish p.settings).diagnostics.nodes.keys.Nodup ∧
    ∀ x ∈ (s.finish p.settings).diagnostics.annotations p.root,
      ∃ n, p.root.node? x.node = some n ∧ x.position = n.position ∧
        x.text = "\n".intercalate ((s.finish p.settings).diagnostics.messages x.node) := by
  have rooted : p.Rooted s := h.performs.keeps (fun change => change.rooted placed) trivial .initial
  have stored : ∀ {id}, p.InRoot id → ∃ n, p.root.node? id = some n ∧ n.id = id := by
    rintro id ⟨n, hn⟩
    exact ⟨n, hn, placed p.root (List.mem_cons_self ..) hn⟩
  have messages : ∀ id ∈ (s.finish p.settings).diagnostics.nodes.keys, p.InRoot id := by
    intro id mem
    rcases Diagnostics.mem_keys_foldl_addNode.1 mem with mem | mem
    · exact rooted.messages id mem
    · obtain ⟨a, used, rfl⟩ := Pass.of_mem_unprocessed mem
      exact rooted.required a used
  refine ⟨fun owner mem => ?_, fun id mem => stored (messages id mem), ?_, ?_, ?_⟩
  · obtain ⟨line, inBody, rfl⟩ := List.mem_map.1 mem
    obtain ⟨id, owner, root⟩ := rooted.lines (h.mem_body.1 inBody)
    obtain ⟨n, hn, heq⟩ := stored root
    exact ⟨id, n, owner, hn, heq⟩
  · exact Diagnostics.map_node_annotations messages
  · exact (s.finish p.settings).diagnostics.nodes.nodup
  · exact fun x mem => Diagnostics.of_mem_annotations mem

end Program

namespace Sample

/-- A function calls a module, which calls a module, in which a branch has no condition. -/
def buried : Program where
  lang := language
  root := {
    name := "main"
    nodes := OrderedMap.ofList [
      (1, { id := 1, component := "Function" }),
      (2, {
        id := 2, component := "Module"
        data := OrderedMap.ofList [(moduleKey, .str "outer")] })]
    wires := [⟨1, "fout", 2, "go"⟩] }
  library := OrderedMap.ofList [
    ("outer", {
      name := "outer"
      nodes := OrderedMap.ofList [
        (7, {
          id := 7, component := "InputFlow"
          data := OrderedMap.ofList [("name", .str "go")] }),
        (8, {
          id := 8, component := "Module"
          data := OrderedMap.ofList [(moduleKey, .str "inner")] })]
      wires := [⟨7, "output", 8, "run"⟩] }),
    ("inner", {
      name := "inner"
      nodes := OrderedMap.ofList [
        (4, {
          id := 4, component := "InputFlow"
          data := OrderedMap.ofList [("name", .str "run")] }),
        (5, { id := 5, component := "If" })]
      wires := [⟨4, "output", 5, "fin"⟩] })]

theorem buried_isSome : (buried.runWith? 10).isSome = true := by
  decide +kernel

/-- How the program is compiled. -/
def buriedPass : Pass := (buried.runWith? 10).get buried_isSome

theorem buried_ends : buried.Ends buriedPass :=
  ⟨10, (Option.some_get _).symm⟩

theorem buried_placed : buried.Placed :=
  Program.id_of_entries rfl

/-- The missing condition is a message about the outer call, which is the one node in view. -/
theorem attributed_to_root_buried :
    buried.Placed ∧ .problem ⟨[2, 8], 5⟩ .inputExpected ∈ buriedPass.journal ∧
      (buriedPass.finish buried.settings).diagnostics.nodes.keys = [2] ∧
      ((buriedPass.finish buried.settings).diagnostics.annotations buried.root).map (·.node) =
        [2] ∧
      ∀ owner ∈ (buriedPass.finish buried.settings).lines.owners,
        ∃ id n, owner = some id ∧ buried.root.node? id = some n ∧ n.id = id := by
  have reported : .problem ⟨[2, 8], 5⟩ .inputExpected ∈ buriedPass.journal := by decide +kernel
  have diagnosed : (buriedPass.finish buried.settings).diagnostics.nodes.keys = [2] := by
    decide +kernel
  obtain ⟨owners, -, annotated, -⟩ := buried_ends.attributed_to_root buried_placed
  exact ⟨buried_placed, reported, diagnosed, annotated.trans diagnosed, owners⟩

end Sample

end FlowScript
