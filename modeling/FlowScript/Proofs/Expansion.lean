import FlowScript.Proofs.Grounds
import FlowScript.Proofs.Termination

/-!
# The expansion of modules

Every module call on the way to an occurrence names another module, so the way is never longer than
the library.  A call that names a module on its way is refused: the pass records a problem there,
and nothing inside the call ever comes up, whether or not the pass comes to an end.

* `Program.Unfolds.refused`: calls of modules that are being expanded are refused;
* `Pass.addresses`: the occurrences that come up; `Program.Unfolds.below`: where they lie;
* `callsOn`, `Program.calledModule?`: the calls on a path and the modules that they name;
* `Program.OnPath.expanding_of_called`: a module that is called on a path is found there;
* `Program.Unfolds.expansion`: expansion is bounded, and recursion is caught.
-/

namespace FlowScript

namespace Program

variable {p : Program} {s s' : Pass} {a : Address}

/-! ### Calls that are refused -/

theorem Deed.mem_journal (h : p.Deed s s') {e : Event} (mem : e ∈ s.journal) :
    e ∈ s'.journal := by
  cases h with
  | note | report => exact List.mem_cons_of_mem _ mem
  | refuse => exact List.mem_cons_of_mem _ (List.mem_cons_of_mem _ mem)
  | write => exact List.mem_append_right _ mem
  | _ => exact mem

theorem Deed.refused (h : p.Deed s s') {e : Event} {n : Node} (mem : e ∈ s'.journal)
    (leads : p.LeadsTo e a n) (back : p.CallsBack a n) :
    e ∈ s.journal ∨
      .problem (a.sibling n.id) (.recursiveCall (n.textD moduleKey)) ∈ s'.journal := by
  cases h with
  | note grounds =>
    rcases List.mem_cons.1 mem with rfl | mem
    · rcases leads with ⟨port, w, rfl, wire⟩ | ⟨port, w, rfl, wire⟩
      all_goals exact absurd back (grounds.2 w n wire)
    · exact .inl mem
  | write =>
    rcases Pass.mem_journal_write.1 mem with ⟨l, -, rfl⟩ | mem
    · rcases leads with ⟨port, w, same, -⟩ | ⟨port, w, same, -⟩ <;> cases same
    · exact .inl mem
  | report =>
    rcases List.mem_cons.1 mem with same | mem
    · exact absurd same (leads.ne_problem _ _)
    · exact .inl mem
  | @refuse e' a' n' below leads' back' =>
    rcases List.mem_cons.1 mem with same | mem
    · exact absurd same (leads.ne_problem _ _)
    rcases List.mem_cons.1 mem with rfl | mem
    · -- the wire has one other end
      have same : a = a' ∧ n = n' := by
        rcases leads with ⟨port, w, rfl, wire⟩ | ⟨port, w, rfl, wire⟩ <;>
          rcases leads' with ⟨port', w', same, wire'⟩ | ⟨port', w', same, wire'⟩ <;> cases same
        all_goals
          rw [wire] at wire'
          cases wire'
          exact ⟨rfl, rfl⟩
      obtain ⟨rfl, rfl⟩ := same
      exact .inr (List.mem_cons_self ..)
    · exact .inl mem
  | _ => exact .inl mem

/-- Wherever a pass finds a call of a module that is being expanded, it records a problem. -/
theorem Unfolds.refused (h : p.Unfolds s) {e : Event} {n : Node} (mem : e ∈ s.journal)
    (leads : p.LeadsTo e a n) (back : p.CallsBack a n) :
    .problem (a.sibling n.id) (.recursiveCall (n.textD moduleKey)) ∈ s.journal := by
  refine h.keeps (P := fun s => e ∈ s.journal →
    .problem (a.sibling n.id) (.recursiveCall (n.textD moduleKey)) ∈ s.journal)
    (fun none => by cases none) (fun deed ih mem => ?_) mem
  rcases deed.refused mem leads back with mem | refused
  · exact deed.mem_journal (ih mem)
  · exact refused

end Program

/-! ### The addresses of a pass -/

/-- The occurrence that a line declares, and those whose identifiers stand in it. -/
def Line.addresses (l : Line) : List Address := l.role.declared?.toList ++ l.uses

/-- The occurrences that an event tells of. -/
def Event.addresses : Event → List Address
  | .asked a _ | .followed a _ | .demanded a | .arrived a | .emitted a _ _ | .problem a _ => [a]
  | .referenced a _ v value => a :: v.address :: value.uses
  | .wrote l => l.addresses

namespace Pass

/-- The occurrences with a mark. -/
def marks (s : Pass) : List Address :=
  s.started ++ s.resolving ++ s.processed ++ s.required ++ s.visited

/-- The occurrences that come up in a pass: in its journal, with a mark, or in the expressions that
are kept for values. -/
def addresses (s : Pass) : List Address :=
  s.journal.flatMap Event.addresses ++ s.marks ++
    s.results.entries.flatMap fun (a, e) => a :: e.uses

end Pass

theorem Block.declared_of_mem_linesOf {b : Block} {owner : Option NodeId} {text : Fragment}
    {role : LineRole} {l : Line} (h : l ∈ b.linesOf owner text role) :
    ∀ a ∈ l.role.declared?, a ∈ role.declared? := by
  intro a ha
  cases plain : role.declared? with
  | none =>
    rw [role_of_mem_linesOf plain h] at ha
    cases ha
  | some b =>
    cases role <;> cases plain
    obtain ⟨⟨part, role⟩, mem, rfl⟩ := List.mem_map.1 h
    rcases List.mem_cons.1 (List.of_mem_zip mem).2 with rfl | mem
    · exact ha
    · rw [(List.mem_replicate.1 mem).2] at ha
      cases ha

namespace Program

variable {p : Program} {s s' : Pass}

theorem Deed.below_journal (h : p.Deed s s') {e : Event} (mem : e ∈ s'.journal) :
    e ∈ s.journal ∨ p.AllBelow e.addresses := by
  cases h with
  | note grounds =>
    rcases List.mem_cons.1 mem with rfl | mem
    · refine .inr ?_
      cases e with
      | asked | followed => exact List.forall_mem_singleton.2 grounds.1
      | demanded | arrived | emitted => exact List.forall_mem_singleton.2 grounds
      | referenced =>
        exact List.forall_mem_cons.2 ⟨grounds.1, List.forall_mem_cons.2 grounds.2⟩
      | wrote | problem => cases grounds
    · exact .inl mem
  | write owner text declared used =>
    rcases Pass.mem_journal_write.1 mem with ⟨l, hl, rfl⟩ | mem
    · refine .inr fun a ha => ?_
      rcases List.mem_append.1 ha with ha | ha
      · exact declared a (Block.declared_of_mem_linesOf hl a (Option.mem_toList.1 ha))
      · rw [(Block.of_mem_linesOf hl).2] at ha
        exact used a ha
    · exact .inl mem
  | report below warranted =>
    rcases List.mem_cons.1 mem with rfl | mem
    · exact .inr (List.forall_mem_singleton.2 below)
    · exact .inl mem
  | refuse below leads back =>
    rcases List.mem_cons.1 mem with rfl | mem
    · exact .inr (List.forall_mem_singleton.2 below)
    rcases List.mem_cons.1 mem with rfl | mem
    · rcases leads with ⟨port, w, rfl, -⟩ | ⟨port, w, rfl, -⟩
      all_goals exact .inr (List.forall_mem_singleton.2 below)
    · exact .inl mem
  | _ => exact .inl mem

theorem Deed.below_marks (h : p.Deed s s') (all : p.AllBelow s.marks) : p.AllBelow s'.marks := by
  simp only [Pass.marks, allBelow_append] at all ⊢
  obtain ⟨⟨⟨⟨started, resolving⟩, processed⟩, required⟩, visited⟩ := all
  cases h with
  | process below =>
    exact ⟨⟨⟨⟨started, resolving⟩, processed.addNew below⟩, required⟩, visited⟩
  | require below => exact ⟨⟨⟨⟨started, resolving⟩, processed⟩, required.addNew below⟩, visited⟩
  | visit below => exact ⟨⟨⟨⟨started, resolving⟩, processed⟩, required⟩, visited.addNew below⟩
  | start below =>
    exact ⟨⟨⟨⟨started.addNew below, resolving.addNew below⟩, processed⟩, required⟩, visited⟩
  | stop a =>
    have fewer : p.AllBelow (s.endResolving a).resolving :=
      fun b hb => resolving b (List.mem_of_mem_filter hb)
    exact ⟨⟨⟨⟨started, fewer⟩, processed⟩, required⟩, visited⟩
  | _ => exact ⟨⟨⟨⟨started, resolving⟩, processed⟩, required⟩, visited⟩

theorem Deed.below_results (h : p.Deed s s')
    (all : ∀ a e, s.results.get? a = some e → p.AllBelow (a :: e.uses)) :
    ∀ a e, s'.results.get? a = some e → p.AllBelow (a :: e.uses) := by
  cases h with
  | keep text below used =>
    intro b e he
    rw [Pass.setResult, OrderedMap.get?_insert] at he
    split_ifs at he with same
    · cases he
      exact List.forall_mem_cons.2 ⟨same ▸ below, used⟩
    · exact all b e he
  | _ => exact all

theorem Deed.below (h : p.Deed s s') (all : p.AllBelow s.addresses) : p.AllBelow s'.addresses := by
  simp only [Pass.addresses, allBelow_append] at all ⊢
  obtain ⟨⟨journal, marks⟩, results⟩ := all
  refine ⟨⟨fun a ha => ?_, h.below_marks marks⟩, fun a ha => ?_⟩
  · obtain ⟨e, he, ha⟩ := List.mem_flatMap.1 ha
    rcases h.below_journal he with old | new
    · exact journal a (List.mem_flatMap.2 ⟨e, old, ha⟩)
    · exact new a ha
  · obtain ⟨⟨b, e⟩, he, ha⟩ := List.mem_flatMap.1 ha
    refine h.below_results (fun b e he a ha => ?_) b e (OrderedMap.get?_eq_some_iff.2 he) a ha
    exact results a (List.mem_flatMap.2 ⟨(b, e), OrderedMap.get?_eq_some_iff.1 he, ha⟩)

/-- Whatever comes up in a pass lies below calls that are expanded. -/
theorem Unfolds.below (h : p.Unfolds s) : p.AllBelow s.addresses :=
  h.keeps (P := fun s => p.AllBelow s.addresses) nofun fun deed all => deed.below all

end Program

/-! ### The calls on a path -/

/-- The module calls on a path, outermost first. -/
def callsOn (path : List NodeId) : List Address :=
  path.zipIdx.map fun (id, depth) => ⟨path.take depth, id⟩

theorem callsOn_concat (path : List NodeId) (call : NodeId) :
    callsOn (path ++ [call]) = callsOn path ++ [⟨path, call⟩] := by
  simp only [callsOn, List.zipIdx_append, List.map_append]
  congr 1
  · refine List.map_congr_left fun x mem => ?_
    rw [List.take_append_of_le_length (List.snd_lt_of_mem_zipIdx mem).le]
  · simp

namespace Program

variable {p : Program} {s : Pass} {a : Address} {path : List NodeId}

/-- The module that an occurrence calls. -/
def calledModule? (p : Program) (call : Address) : Option String :=
  (p.node? call).bind fun n =>
    if p.kind? n = some .moduleCall then some (n.textD moduleKey) else none

theorem calledModule?_eq_some {call : Address} {name : String} :
    p.calledModule? call = some name ↔
      ∃ n, p.node? call = some n ∧ p.kind? n = some .moduleCall ∧ n.textD moduleKey = name := by
  simp [calledModule?, Option.bind_eq_some_iff]

theorem OnPath.of_append {rest : List NodeId} (h : p.OnPath (path ++ rest)) : p.OnPath path := by
  induction rest using List.reverseRecOn with
  | nil => simpa using h
  | append_singleton rest call ih =>
    rw [← List.append_assoc] at h
    exact ih h.of_concat.1

theorem expanding_eq_true {name : String} :
    p.expanding path name = true ↔
      ∃ depth < path.length, p.moduleOnPath? path depth = some name := by
  simp [expanding]

/-- On a path that leads to a graph, a module that some call names is found. -/
theorem OnPath.expanding_of_called (h : p.OnPath path) {g : Graph}
    (hg : p.graphAt? path = some g) {call : Address} (mem : call ∈ callsOn path) {name : String}
    (called : p.calledModule? call = some name) : p.expanding path name = true := by
  rw [expanding_eq_true]
  induction h generalizing g with
  | nil => cases mem
  | @snoc path last n callee outer node kind hlib fresh ih =>
    rw [callsOn_concat] at mem
    rcases List.mem_append.1 mem with mem | mem
    · obtain ⟨g₀, hg₀, -⟩ := Option.bind_eq_some_iff.1 node
      obtain ⟨depth, lt, found⟩ := ih hg₀ mem
      exact ⟨depth, by simp; omega, (moduleOnPath?_concat_of_lt lt).trans found⟩
    · obtain rfl := List.mem_singleton.1 mem
      obtain ⟨n', node', -, rfl⟩ := calledModule?_eq_some.1 called
      obtain rfl := Option.some.inj (node.symm.trans node')
      -- the path leads to a graph, so the call has the name of its module in its data
      have inside := graphAt?_inside (a := ⟨path, last⟩) node
      obtain ⟨name, hname, -⟩ := Option.bind_eq_some_iff.1 (inside.symm.trans hg)
      refine ⟨path.length, by simp, (moduleOnPath?_concat_length node).trans ?_⟩
      rw [Node.textD, hname, Option.getD_some]

/-- The calls on a path name different modules of the library. -/
theorem OnPath.exists_called (h : p.OnPath path) :
    ∃ names : List String, (callsOn path).map p.calledModule? = names.map some ∧ names.Nodup ∧
      names ⊆ p.library.keys := by
  induction h with
  | nil => exact ⟨[], rfl, List.nodup_nil, List.nil_subset _⟩
  | @snoc path call n callee outer node kind hlib fresh ih =>
    obtain ⟨names, called, nodup, known⟩ := ih
    obtain ⟨g₀, hg₀, -⟩ := Option.bind_eq_some_iff.1 node
    have new : n.textD moduleKey ∉ names := by
      intro mem
      have mem := List.mem_map_of_mem (f := some) mem
      rw [← called] at mem
      obtain ⟨call', mem', called'⟩ := List.mem_map.1 mem
      simp [outer.expanding_of_called hg₀ mem' called'] at fresh
    have last : p.calledModule? ⟨path, call⟩ = some (n.textD moduleKey) :=
      calledModule?_eq_some.2 ⟨n, node, kind, rfl⟩
    refine ⟨names ++ [n.textD moduleKey], ?_, ?_, ?_⟩
    · rw [callsOn_concat, List.map_append, List.map_append, called, List.map_singleton, last]
      rfl
    · exact List.nodup_append_comm.1 (List.nodup_cons.2 ⟨new, nodup⟩)
    · exact List.append_subset.2 ⟨known, by simpa using OrderedMap.mem_keys_iff.2 ⟨_, hlib⟩⟩

/-- Nothing lies inside a call of a module that is being expanded around it. -/
theorem OnPath.not_inside {b : Address} (h : p.OnPath b.path) {n : Node}
    (node : p.node? (a.sibling n.id) = some n) (back : p.CallsBack a n) :
    ¬ (a.path ++ [n.id]) <+: b.path := by
  rintro ⟨rest, same⟩
  rw [← same] at h
  generalize heq : a.path ++ [n.id] = entered at h
  cases h.of_append with
  | nil => simp at heq
  | snoc outer node' kind callee fresh =>
    obtain ⟨hpath, hid⟩ := List.append_inj' heq rfl
    cases hid
    rw [← hpath] at node' fresh
    obtain rfl := Option.some.inj (node'.symm.trans node)
    simp [back.2.2] at fresh

/-- The other end of a wire is a node of the same graph. -/
theorem LeadsTo.node? {e : Event} {n : Node} (h : p.LeadsTo e a n) (placed : p.Placed) :
    p.node? (a.sibling n.id) = some n := by
  rcases h with ⟨port, w, -, wire⟩ | ⟨port, w, -, wire⟩
  · exact placed.node?_feeding wire
  · exact placed.node?_fedBy wire

theorem LeadsTo.mem_addresses {e : Event} {n : Node} (h : p.LeadsTo e a n)
    (mem : e ∈ s.journal) : a ∈ s.addresses := by
  refine List.mem_append_left _ (List.mem_append_left _ (List.mem_flatMap.2 ⟨e, mem, ?_⟩))
  rcases h with ⟨port, w, rfl, -⟩ | ⟨port, w, rfl, -⟩ <;> exact List.mem_singleton.2 rfl

/-- A call that names a module on its path calls back. -/
theorem OnPath.callsBack (h : p.OnPath a.path) {n : Node} {g : Graph}
    (hg : p.graphAt? a.path = some g) (kind : p.kind? n = some .moduleCall)
    {call : Address} (mem : call ∈ callsOn a.path)
    (called : p.calledModule? call = some (n.textD moduleKey)) : p.CallsBack a n := by
  obtain ⟨names, all, -, known⟩ := h.exists_called
  have named : some (n.textD moduleKey) ∈ names.map some := by
    rw [← all, ← called]
    exact List.mem_map_of_mem mem
  obtain ⟨g', loaded⟩ := OrderedMap.mem_keys_iff.1 (known (by simpa using named))
  exact ⟨kind, by rw [loaded]; rfl, h.expanding_of_called hg mem called⟩

/-- In a program whose nodes stand under their own numbers, the calls on the way to whatever comes
up in a pass name different modules of the library, and there are no more of them than modules.
Where the search for a value or the flow comes to a call that names a module on its way, the pass
records a problem with a message about it, and nothing inside the call comes up. -/
theorem Unfolds.expansion (h : p.Unfolds s) (placed : p.Placed) :
    (∀ a ∈ s.addresses, a.path.length ≤ p.library.size ∧
      ∃ names : List String, (callsOn a.path).map p.calledModule? = names.map some ∧
        names.Nodup ∧ names ⊆ p.library.keys) ∧
    ∀ e ∈ s.journal, ∀ a n, p.LeadsTo e a n → p.kind? n = some .moduleCall →
      (∃ call ∈ callsOn a.path, p.calledModule? call = some (n.textD moduleKey)) →
      .problem (a.sibling n.id) (.recursiveCall (n.textD moduleKey)) ∈ s.journal ∧
        p.attributed (a.sibling n.id) ("Recursive call of module '" ++ n.textD moduleKey ++ "'") ∈
          s.diagnostics.messages (a.sibling n.id).rootId ∧
        ∀ b ∈ s.addresses, ¬ (a.path ++ [n.id]) <+: b.path := by
  have onPath : ∀ a ∈ s.addresses, p.OnPath a.path := fun a mem => h.below a mem placed
  refine ⟨fun a mem => ⟨(onPath a mem).length_le, (onPath a mem).exists_called⟩, ?_⟩
  rintro e mem a n leads kind ⟨call, onWay, called⟩
  have node := leads.node? placed
  obtain ⟨g, hg, -⟩ := Option.bind_eq_some_iff.1 node
  have back := (onPath a (leads.mem_addresses mem)).callsBack hg kind onWay called
  have refused := h.refused mem leads back
  exact ⟨refused, h.message_mem refused, fun b hb => (onPath b hb).not_inside node back⟩

end Program

namespace Sample

/-- A call of a module. -/
def callOf (id : NodeId) (name : String) : Node where
  id := id
  component := "Module"
  data := OrderedMap.ofList [(moduleKey, .str name)]

/-- A module that hands both the flow and the search for a value on to another one. -/
def handOver (name next : String) : Graph where
  name := name
  nodes := OrderedMap.ofList [
    (1, { id := 1, component := "InputFlow", data := OrderedMap.ofList [("name", .str "go")] }),
    (2, callOf 2 next),
    (3, { id := 3, component := "Output", data := OrderedMap.ofList [("name", .str "number")] })]
  wires := [⟨1, "output", 2, "go"⟩, ⟨2, "number", 3, "input"⟩]

/-- One function leads the flow into two modules that call each other, and another one prints a
value that each of them takes from the other. -/
def echoing : Program where
  lang := language
  root := {
    name := "main"
    nodes := OrderedMap.ofList [
      (1, { id := 1, component := "Function" }),
      (2, callOf 2 "ping"),
      (3, { id := 3, component := "Function" }),
      (4, { id := 4, component := "print" }),
      (5, callOf 5 "ping")]
    wires := [⟨1, "fout", 2, "go"⟩, ⟨3, "fout", 4, "fin"⟩, ⟨5, "number", 4, "value"⟩] }
  library := OrderedMap.ofList [("ping", handOver "ping" "pong"), ("pong", handOver "pong" "ping")]

theorem echoing_isSome : (echoing.runWith? 20).isSome = true := by
  decide +kernel

/-- How the program is compiled. -/
def echoingPass : Pass := (echoing.runWith? 20).get echoing_isSome

theorem echoing_ends : echoing.Ends echoingPass :=
  ⟨20, (Option.some_get _).symm⟩

theorem echoing_placed : echoing.Placed :=
  Program.id_of_entries rfl

/-- The module is called back through the other one, once by the flow and once for a value, and both
times the call is refused and nothing inside it comes up. -/
theorem expansion_echoing :
    echoing.Placed ∧ .followed ⟨[2, 2], 1⟩ "output" ∈ echoingPass.journal ∧
      .asked ⟨[5, 2], 3⟩ "input" ∈ echoingPass.journal ∧
      .problem ⟨[2, 2], 2⟩ (.recursiveCall "ping") ∈ echoingPass.journal ∧
      "pong: Recursive call of module 'ping'" ∈ echoingPass.diagnostics.messages 5 ∧
      ∀ b ∈ echoingPass.addresses, b.path.length ≤ 2 ∧ ¬ [2, 2, 2] <+: b.path ∧
        ¬ [5, 2, 2] <+: b.path := by
  obtain ⟨bounded, caught⟩ := echoing_ends.unfolds.expansion echoing_placed
  have followed : .followed ⟨[2, 2], 1⟩ "output" ∈ echoingPass.journal := by decide +kernel
  have asked : .asked ⟨[5, 2], 3⟩ "input" ∈ echoingPass.journal := by decide +kernel
  have flow := caught _ followed ⟨[2, 2], 1⟩ (callOf 2 "ping")
    (.inr ⟨"output", ⟨1, "output", 2, "go"⟩, rfl, by decide +kernel⟩) (by decide +kernel)
    ⟨⟨[], 2⟩, by decide +kernel, by decide +kernel⟩
  have value := caught _ asked ⟨[5, 2], 3⟩ (callOf 2 "ping")
    (.inl ⟨"input", ⟨2, "number", 3, "input"⟩, rfl, by decide +kernel⟩) (by decide +kernel)
    ⟨⟨[], 5⟩, by decide +kernel, by decide +kernel⟩
  have message : echoing.attributed ⟨[5, 2], 2⟩ ("Recursive call of module '" ++
      (callOf 2 "ping").textD moduleKey ++ "'") = "pong: Recursive call of module 'ping'" := by
    decide +kernel
  refine ⟨echoing_placed, followed, asked, flow.1, message ▸ value.2.1, fun b hb => ?_⟩
  exact ⟨(bounded b hb).1, flow.2.2 b hb, value.2.2 b hb⟩

end Sample

end FlowScript
