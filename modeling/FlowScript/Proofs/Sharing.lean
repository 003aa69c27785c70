import FlowScript.Proofs.Expansion
import FlowScript.Proofs.Handing

/-!
# Where expressions are written in place

A local value that more than one wire reads is declared, and everybody gets its identifier.  With
one wire its expression is handed out, to whoever comes to the value through this wire: to one
input, unless the wire leads to the target of an assignment, into a module call or out of a module,
where the value is passed on to any number of inputs.

* `Program.readingInputs`: the inputs that are wired to a result;
* `Program.Relays`, `Program.ValueHop.relays`: the nodes at which values are passed on;
* `Pass.WrittenOutAt`: an expression was handed to an input;
* `Program.Ends.written_out_once`: through which wire, and to how many inputs.
-/

namespace FlowScript

namespace Program

variable {p : Program} {a : Address}

/-! ### Wires from a result -/

/-- The inputs that are wired to the result of an occurrence. -/
def readingInputs (p : Program) (a : Address) : List (Address × String) :=
  match p.graphAt? a.path with
  | none => []
  | some g => (g.outgoing a.id resultKey).map fun w => (a.sibling w.target, w.targetPort)

theorem length_readingInputs (p : Program) (a : Address) :
    (p.readingInputs a).length = p.readers a resultKey := by
  unfold readingInputs readers
  cases p.graphAt? a.path with
  | none => rfl
  | some g => simp [Graph.readers]

/-- An input that is fed from a result is wired to it. -/
theorem Placed.mem_readingInputs (placed : p.Placed) {b : Address} {q : String} {w : Wire}
    {n : Node} (feeding : p.feeding? b q = some (w, n)) (result : w.sourcePort = resultKey) :
    (b, q) ∈ p.readingInputs (b.sibling n.id) := by
  obtain ⟨g, hg, into, hn⟩ := feeding?_eq_some.1 feeding
  have target := List.find?_some into
  simp only [Bool.and_eq_true, beq_iff_eq] at target
  have source : n.id = w.source := placed g (graphAt?_mem hg) hn
  have graph : p.graphAt? (b.sibling n.id).path = some g := hg
  simp only [readingInputs, graph]
  refine List.mem_map.2 ⟨w, ?_, ?_⟩
  · exact Graph.mem_outgoing.2 ⟨List.mem_of_find?_eq_some into, source.symm, result⟩
  · rw [target.1, target.2]
    rfl

/-! ### Nodes at which values are passed on -/

/-- Nodes with an input whose value is read at other nodes: assignments, module calls and the
outputs of modules. -/
def Relays (p : Program) (n : Node) : Prop :=
  p.kind? n = some .assignment ∨ p.kind? n = some .moduleCall ∨
    n.component = ComponentTable.moduleOutputName

theorem ValueHop.onPath (placed : p.Placed) {x y : Address × String} (hop : p.ValueHop x y)
    (here : p.OnPath x.1.path) : p.OnPath y.1.path := by
  cases hop with
  | assignment => exact here
  | @input a _ _ _ n _ _ site => exact (OnPath.callSite (a := a.sibling n.id) here site).1
  | @output a _ _ n inner _ wire enters =>
    exact OnPath.inside (a := a.sibling n.id) here (placed.node?_feeding wire) enters inner.id

/-- A hop leads to a node at which values are passed on. -/
theorem ValueHop.relays (placed : p.Placed) {x y : Address × String} (hop : p.ValueHop x y)
    (here : p.OnPath x.1.path) {m : Node} (node : p.node? y.1 = some m) : p.Relays m := by
  cases hop with
  | assignment wire kind =>
    rw [placed.node?_feeding wire] at node
    cases node
    exact .inl kind
  | @input a _ _ _ n _ _ site =>
    obtain ⟨-, m', node', kind⟩ := OnPath.callSite (a := a.sibling n.id) here site
    rw [node'] at node
    cases node
    exact .inr (.inl kind)
  | output wire enters bridge =>
    rw [placed.node?_bridge (placed.node?_feeding wire) enters bridge node]
    exact .inr (.inr (bridge?_eq_some bridge).2.1)

/-- Hops from an input lead to a node at which values are passed on, if there are any. -/
theorem relays_of_route (placed : p.Placed) {x y : Address × String}
    (route : Relation.ReflTransGen p.ValueHop x y) (here : p.OnPath x.1.path) {m : Node}
    (node : p.node? y.1 = some m) : x = y ∨ p.Relays m := by
  have onPath : ∀ {z}, Relation.ReflTransGen p.ValueHop x z → p.OnPath z.1.path := by
    intro z way
    induction way with
    | refl => exact here
    | tail _ hop ih => exact hop.onPath placed ih
  rcases route.cases_tail with same | ⟨z, way, hop⟩
  · exact .inl same.symm
  · exact .inr (hop.relays placed (onPath way) node)

end Program

/-! ### Expressions that are handed out -/

/-- The value of an occurrence was handed to an input as an expression, not by its identifier. -/
def Pass.WrittenOutAt (s : Pass) (a : Address) (c : Address) (port : String) : Prop :=
  ∃ v value, .referenced c port v value ∈ s.journal ∧ v.address = a ∧ value ≠ ⟨a.ident, [a]⟩

namespace Program

variable {p : Program} {s : Pass} {a : Address}

/-- A value of a kind without numbered outputs is handed out as it is recorded. -/
theorem valueOf_eq_result {v : Producer} {kind : Kind} (hk : p.kindAt? v.address = some kind)
    (value : kind.isValue = true) (s : Pass) : p.valueOf s v = s.result v.address := by
  unfold valueOf
  rw [hk]
  cases kind <;> first | rfl | cases value

/-- A value that is written out may be written in place. -/
theorem Ends.inPlace (h : p.Ends s) {kind : Kind} (hk : p.kindAt? a = some kind)
    (value : kind.isValue = true) {c : Address} {port : String}
    (written : s.WrittenOutAt a c port) : p.InPlace a := by
  obtain ⟨v, text, mem, rfl, other⟩ := written
  obtain ⟨s₀, rfl, -, -, inPlace⟩ := h.handed.made mem
  refine inPlace ?_
  by_contra absent
  refine other ?_
  rw [valueOf_eq_result hk value, Pass.result, Option.not_isSome_iff_eq_none.1 absent]
  rfl

/-- An input to which a value is handed comes to it through a wire from its result. -/
theorem Ends.exists_reading (h : p.Ends s) (linked : p.Linked) {kind : Kind} {c : Address}
    {port : String} {v : Producer} {value : Fragment} (hk : p.kindAt? v.address = some kind)
    (isValue : kind.isValue = true) (mem : .referenced c port v value ∈ s.journal) :
    ∃ x ∈ p.readingInputs v.address, Relation.ReflTransGen p.ValueHop (c, port) x ∧
      ∃ m, p.node? x.1 = some m ∧ ((c, port) = x ∨ p.Relays m) := by
  obtain ⟨s₀, -, settled, -⟩ := h.handed.made mem
  obtain ⟨kind', feeds, -⟩ := settled linked.placed
  rw [feeds.kindAt? linked.placed] at hk
  cases hk
  obtain ⟨b, q, w, n, route, -, feeding, rfl⟩ := (h.resolves mem).route
  have result : w.sourcePort = resultKey := linked.feeds_result feeds isValue
  obtain ⟨⟨m, -, node, -⟩, -⟩ := linked.joined feeding
  have here : p.OnPath c.path := by
    refine h.unfolds.below c ?_ linked.placed
    unfold Pass.addresses
    refine List.mem_append_left _ (List.mem_append_left _ (List.mem_flatMap.2 ⟨_, mem, ?_⟩))
    exact List.mem_cons_self
  exact ⟨(b, q), linked.placed.mem_readingInputs feeding result, route, m, node,
    relays_of_route linked.placed route here node⟩

/-- In a finished pass of a linked program that is optimized, take the local value of a call without
effects.  If more than one wire reads it, its expression is never handed out.  The inputs to which
it is handed come to it through the only wire that reads it, and they are one and the same input,
unless that wire leads to an assignment, to a module call or to the output of a module. -/
theorem Ends.written_out_once (h : p.Ends s) (linked : p.Linked)
    (optimized : p.settings.optimizeFlow = true) {n : Node} {function : String} {t : DataType}
    (node : p.node? a = some n) (call : p.kind? n = some (.call function false))
    (type : p.resultType? n (.call function false) = some t) (isLocal : t.isLocal = true) :
    (1 < p.readers a resultKey → ∀ c port, ¬ s.WrittenOutAt a c port) ∧
      (∀ c port, s.WrittenOutAt a c port → ∃ x, p.readingInputs a = [x] ∧
        Relation.ReflTransGen p.ValueHop (c, port) x) ∧
      ∀ c port c' port', s.WrittenOutAt a c port → s.WrittenOutAt a c' port' →
        (c, port) = (c', port') ∨
          ∃ x m, p.readingInputs a = [x] ∧ p.node? x.1 = some m ∧ p.Relays m := by
  have hk := kindAt?_of_node? node call
  have few : ∀ {c port}, s.WrittenOutAt a c port → p.readers a resultKey ≤ 1 := by
    intro c port written
    obtain ⟨n', kind', t', node', kindOf', type', free⟩ := h.inPlace hk rfl written
    rw [node] at node'
    cases node'
    rw [call] at kindOf'
    cases kindOf'
    rw [type] at type'
    cases type'
    simpa [mustBind, isLocal, optimized] using free
  have through : ∀ {c port}, s.WrittenOutAt a c port → ∃ x, p.readingInputs a = [x] ∧
      Relation.ReflTransGen p.ValueHop (c, port) x ∧
        ∃ m, p.node? x.1 = some m ∧ ((c, port) = x ∨ p.Relays m) := by
    intro c port written
    have few := few written
    obtain ⟨v, value, mem, rfl, -⟩ := written
    obtain ⟨x, reads, route, ends⟩ := h.exists_reading linked hk rfl mem
    refine ⟨x, ?_, route, ends⟩
    rw [← length_readingInputs] at few
    obtain ⟨y, only⟩ := List.length_eq_one_iff.1
      (Nat.le_antisymm few (List.length_pos_of_mem reads))
    rw [only] at reads ⊢
    rw [List.mem_singleton.1 reads]
  refine ⟨fun many c port written => ?_, fun c port written => ?_,
    fun c port c' port' written written' => ?_⟩
  · exact absurd (few written) (by omega)
  · obtain ⟨x, only, route, -⟩ := through written
    exact ⟨x, only, route⟩
  · obtain ⟨x, only, -, m, hm, ends⟩ := through written
    obtain ⟨x', only', -, m', hm', ends'⟩ := through written'
    rw [only] at only'
    cases only'
    rcases ends with same | relays
    · rcases ends' with same' | relays'
      · exact .inl (same.trans same'.symm)
      · exact .inr ⟨x, m', only, hm', relays'⟩
    · exact .inr ⟨x, m, only, hm, relays⟩

end Program

namespace Sample

/-- The edits that make a module which prints the number it is given twice. -/
def echoEdits : List Edit := [
  .create .empty "InputFlow" (OrderedMap.ofList [("name", .str "go")]),
  .create .empty "Input" (OrderedMap.ofList [("name", .str "number"), ("typeName", .str "int")]),
  .create .empty "print" .empty,
  .create .empty "print" .empty,
  .create .empty "OutputFlow" (OrderedMap.ofList [("name", .str "done")]),
  .connect ⟨1, "output", 3, "fin"⟩,
  .connect ⟨2, "output", 3, "value"⟩,
  .connect ⟨3, "fout", 4, "fin"⟩,
  .connect ⟨2, "output", 4, "value"⟩,
  .connect ⟨4, "fout", 5, "input"⟩]

def echoes : Library := OrderedMap.ofList [("echo", Graph.session language "echo" echoEdits)]

/-- The edits that make a function which computes one number for the module, and another one that it
prints twice itself. -/
def echoedEdits : List Edit := [
  .create .empty "Function" .empty,
  .create .empty "int" (OrderedMap.ofList [("value", .str "7")]),
  .create .empty "twice" .empty,
  .create echoes "Module" (OrderedMap.ofList [(moduleKey, .str "echo")]),
  .create .empty "int" (OrderedMap.ofList [("value", .str "8")]),
  .create .empty "twice" .empty,
  .create .empty "print" .empty,
  .create .empty "print" .empty,
  .connect ⟨1, "fout", 4, "go"⟩,
  .connect ⟨2, "result", 3, "value"⟩,
  .connect ⟨3, "result", 4, "number"⟩,
  .connect ⟨5, "result", 6, "value"⟩,
  .connect ⟨4, "done", 7, "fin"⟩,
  .connect ⟨6, "result", 7, "value"⟩,
  .connect ⟨7, "fout", 8, "fin"⟩,
  .connect ⟨6, "result", 8, "value"⟩]

def echoed : Program where
  lang := language
  root := Graph.session language "main" echoedEdits
  library := echoes

theorem echoed_linked : echoed.Linked := by
  refine linked_of_checks rfl (fun g hg => ?_) (by decide +kernel) (by decide +kernel)
    (by decide +kernel)
  rcases List.mem_cons.1 hg with rfl | hg
  · exact ⟨"main", echoedEdits, rfl, by simp [echoedEdits, Edit.isRetag]⟩
  · cases List.mem_singleton.1 hg
    exact ⟨"echo", echoEdits, rfl, by simp [echoEdits, Edit.isRetag]⟩

theorem echoed_isSome : (echoed.runWith? 20).isSome = true := by
  decide +kernel

/-- How the program is compiled. -/
def echoedPass : Pass := (echoed.runWith? 20).get echoed_isSome

theorem echoed_ends : echoed.Ends echoedPass :=
  ⟨20, (Option.some_get _).symm⟩

/-- What computes the number that the module is given. -/
def given : Node := (echoed.node? ⟨[], 3⟩).get (by decide +kernel)

theorem node?_given : echoed.node? ⟨[], 3⟩ = some given := (Option.some_get _).symm

/-- What computes the number that the function prints twice. -/
def shared : Node := (echoed.node? ⟨[], 6⟩).get (by decide +kernel)

theorem node?_shared : echoed.node? ⟨[], 6⟩ = some shared := (Option.some_get _).symm

/-- The type of the number that the module is given. -/
def givenType : DataType := (echoed.resultType? given (.call "twice" false)).get (by decide +kernel)

theorem given_writtenOutAt {id : NodeId} (printed : id = 3 ∨ id = 4) :
    echoedPass.WrittenOutAt ⟨[], 3⟩ ⟨[4], id⟩ "value" := by
  refine ⟨⟨⟨[], 3⟩, resultKey⟩, ⟨"twice(7)", []⟩, ?_, rfl, by decide +kernel⟩
  rcases printed with rfl | rfl <;> decide +kernel

/-- The number that the module is given is read through one wire, which leads to the call of the
module, and is written out at both inputs inside.  The one that is printed twice by the function
itself is not. -/
theorem written_out_once_echoed :
    givenType.isLocal = true ∧ echoedPass.WrittenOutAt ⟨[], 3⟩ ⟨[4], 3⟩ "value" ∧
      (∃ x, echoed.readingInputs ⟨[], 3⟩ = [x] ∧
        Relation.ReflTransGen echoed.ValueHop (⟨[4], 3⟩, "value") x) ∧
      (∃ x m, echoed.readingInputs ⟨[], 3⟩ = [x] ∧ echoed.node? x.1 = some m ∧ echoed.Relays m) ∧
      1 < echoed.readers ⟨[], 6⟩ resultKey ∧
      ∀ c port, ¬ echoedPass.WrittenOutAt ⟨[], 6⟩ c port := by
  have isLocal : givenType.isLocal = true := by decide +kernel
  have first := given_writtenOutAt (.inl rfl)
  have second := given_writtenOutAt (.inr rfl)
  have many : 1 < echoed.readers ⟨[], 6⟩ resultKey := by decide +kernel
  obtain ⟨-, through, apart⟩ := echoed_ends.written_out_once echoed_linked (by decide +kernel)
    node?_given (by decide +kernel) (Option.some_get _).symm isLocal
  have call : echoed.kind? shared = some (.call "twice" false) := by decide +kernel
  have type : echoed.resultType? shared (.call "twice" false) = some givenType :=
    (Option.some_get _).symm
  obtain ⟨never, -, -⟩ := echoed_ends.written_out_once echoed_linked (by decide +kernel)
    node?_shared call type isLocal
  refine ⟨isLocal, first, through _ _ first, ?_, many, never many⟩
  rcases apart _ _ _ _ first second with same | relayed
  · exact absurd same (by decide)
  · exact relayed

/-- A number that is read through one wire may be written out at two inputs. -/
theorem echoed_written_out_twice :
    echoed.Linked ∧ echoed.Ends echoedPass ∧ echoed.settings.optimizeFlow = true ∧
      echoed.kind? given = some (.call "twice" false) ∧ givenType.isLocal = true ∧
      ¬ ∀ c port c' port', echoedPass.WrittenOutAt ⟨[], 3⟩ c port →
        echoedPass.WrittenOutAt ⟨[], 3⟩ c' port' → (c, port) = (c', port') := by
  refine ⟨echoed_linked, echoed_ends, by decide +kernel, by decide +kernel, by decide +kernel,
    fun once => ?_⟩
  have same := once _ _ _ _ (given_writtenOutAt (.inl rfl)) (given_writtenOutAt (.inr rfl))
  exact absurd same (by decide)

end Sample

end FlowScript
