import Mathlib.Logic.Relation
import FlowScript.Proofs.Walking

/-!
# What a pass does, in full

The walk of a pass is told once with everything that it depends on: where the search for a value and
the flow lead, which inputs of a node are asked for and which of its flow outputs are followed, in
which order, and where text and messages come from.  The search and the way of the flow are read off
the graphs; they do not depend on the state of a pass.

* `Next`, `Program.look`, `Program.ahead`: where a wire leads; `Next.chase?`: the end of the way;
* `Program.Touches`: text, messages and records of one occurrence;
* `Program.Script`: what a node of each kind asks for, states and follows;
* `Program.Performs`: what a pass does; `Program.Performs.extends`: it only adds;
* `Program.Performs.found`: it finds what the search in the graphs finds;
* `Program.Performs.keeps`: what each single change keeps is kept.
-/

namespace FlowScript

/-! ### Where wires lead -/

/-- Where a wire leads: nowhere, on to another port, or to what was looked for. -/
inductive Next (α : Type)
  | nothing
  | onward (address : Address) (port : String)
  | found (x : α)

/-- Go on from port to port, in a bounded number of steps, until something is found or there is
nothing. -/
def Next.chase? {α : Type} (step : Address → String → Next α) :
    Nat → Address → String → Option (Option α)
  | 0, _, _ => none
  | fuel + 1, a, port =>
    match step a port with
    | .nothing => some none
    | .onward b q => chase? step fuel b q
    | .found x => some (some x)

theorem Next.chase?_mono {α : Type} {step : Address → String → Next α} {fuel fuel' : Nat}
    (more : fuel ≤ fuel') {a : Address} {port : String} {x : Option α}
    (h : chase? step fuel a port = some x) : chase? step fuel' a port = some x := by
  induction fuel generalizing fuel' a port with
  | zero => cases h
  | succ fuel ih =>
    obtain ⟨fuel', rfl⟩ : ∃ f, fuel' = f + 1 := ⟨fuel' - 1, by omega⟩
    unfold chase? at h ⊢
    cases hs : step a port with
    | nothing => simpa only [hs] using h
    | found y => simpa only [hs] using h
    | onward b q =>
      simp only [hs] at h ⊢
      exact ih (by omega) h

namespace Program

/-- The graph of the module that a call leads into, unless it is missing or being expanded. -/
def entered? (p : Program) (a : Address) (n : Node) : Option Graph :=
  match p.library.get? (n.textD moduleKey) with
  | none => none
  | some g => if p.expanding a.path (n.textD moduleKey) then none else some g

/-- Where the value of an output of a node is found. -/
def lookAt (p : Program) (a : Address) (n : Node) (port : String) : Next Producer :=
  match p.kind? n with
  | none => .nothing
  | some .moduleInput =>
    match a.callSite? with
    | none => .nothing
    | some call => .onward call (n.textD "name")
  | some .moduleCall =>
    match p.entered? a n >>= (·.bridge? ComponentTable.moduleOutputName port) with
    | none => .nothing
    | some inner => .onward (a.inside inner.id) "input"
  | some .definition => if (slotIndex? "out" port).isSome then .found ⟨a, port⟩ else .nothing
  | some .assignment => .onward a "inVariable"
  | some _ => .found ⟨a, port⟩

/-- Where the value at an input is found. -/
def look (p : Program) (a : Address) (port : String) : Next Producer :=
  match p.feeding? a port with
  | none => .nothing
  | some (w, n) => p.lookAt (a.sibling n.id) n w.sourcePort

/-- Where flow into an input of a node goes. -/
def aheadAt (p : Program) (a : Address) (n : Node) (port : String) : Next Address :=
  match p.kind? n with
  | some .flowExit =>
    match a.callSite? with
    | none => .nothing
    | some call => .onward call (n.textD "name")
  | some .moduleCall =>
    match p.entered? a n >>= (·.bridge? ComponentTable.flowEntryName port) with
    | none => .nothing
    | some inner => .onward (a.inside inner.id) "output"
  | _ => .found a

/-- Where flow from an output goes. -/
def ahead (p : Program) (a : Address) (port : String) : Next Address :=
  match p.fedBy? a port with
  | none => .nothing
  | some (w, n) => p.aheadAt (a.sibling n.id) n w.targetPort

/-- The search for the value at an input, over assignments and in and out of modules, ends with a
producer or with nothing. -/
def Resolves (p : Program) (a : Address) (port : String) (v : Option Producer) : Prop :=
  ∃ fuel, Next.chase? p.look fuel a port = some v

variable {p : Program}

theorem kindAt?_of_node? {a : Address} {n : Node} {kind : Kind} (node : p.node? a = some n)
    (hk : p.kind? n = some kind) : p.kindAt? a = some kind := by
  simp [kindAt?, node, hk]

theorem entered?_eq_some {a : Address} {n : Node} {g : Graph} :
    p.entered? a n = some g ↔ p.library.get? (n.textD moduleKey) = some g ∧
      p.expanding a.path (n.textD moduleKey) = false := by
  unfold entered?
  split
  · simp_all
  · split_ifs <;> simp_all

/-- The search for a value goes on by hops. -/
theorem valueHop_of_look {a b : Address} {port q : String} (h : p.look a port = .onward b q) :
    p.ValueHop (a, port) (b, q) := by
  unfold look at h
  split at h
  · cases h
  rename_i w n wire
  unfold lookAt at h
  split at h
  · cases h
  · rename_i kind
    split at h
    · cases h
    · cases h
      exact .input wire kind (by assumption)
  · rename_i kind
    split at h
    · cases h
    · rename_i inner bridge
      cases h
      obtain ⟨g, entered, bridge⟩ := Option.bind_eq_some_iff.1 bridge
      exact .output wire ⟨kind, entered?_eq_some.1 entered⟩ bridge
  · split_ifs at h
  · rename_i kind
    cases h
    exact .assignment wire kind
  · cases h

/-- The flow goes in and out of modules by hops. -/
theorem flowHop_of_ahead {a b : Address} {port q : String} (h : p.ahead a port = .onward b q) :
    p.FlowHop (a, port) (b, q) := by
  unfold ahead at h
  split at h
  · cases h
  rename_i w n wire
  unfold aheadAt at h
  split at h
  · rename_i kind
    split at h
    · cases h
    · cases h
      exact .exit wire kind (by assumption)
  · rename_i kind
    split at h
    · cases h
    · rename_i inner bridge
      cases h
      obtain ⟨g, entered, bridge⟩ := Option.bind_eq_some_iff.1 bridge
      exact .entry wire ⟨kind, entered?_eq_some.1 entered⟩ bridge
  · cases h

theorem Resolves.nothing {a : Address} {port : String} (h : p.look a port = .nothing) :
    p.Resolves a port none :=
  ⟨1, by simp [Next.chase?, h]⟩

theorem Resolves.found {a : Address} {port : String} {v : Producer}
    (h : p.look a port = .found v) : p.Resolves a port (some v) :=
  ⟨1, by simp [Next.chase?, h]⟩

theorem Resolves.onward {a b : Address} {port q : String} {v : Option Producer}
    (h : p.look a port = .onward b q) (hv : p.Resolves b q v) : p.Resolves a port v := by
  obtain ⟨fuel, hv⟩ := hv
  exact ⟨fuel + 1, by simpa [Next.chase?, h] using hv⟩

/-- The search has one end at most. -/
theorem Resolves.unique {a : Address} {port : String} {v v' : Option Producer}
    (h : p.Resolves a port v) (h' : p.Resolves a port v') : v = v' := by
  obtain ⟨fuel, h⟩ := h
  obtain ⟨fuel', h'⟩ := h'
  have hv := Next.chase?_mono (Nat.le_max_left fuel fuel') h
  have hv' := Next.chase?_mono (Nat.le_max_right fuel fuel') h'
  exact Option.some.inj (hv.symm.trans hv')

/-! ### What compiling a node consists of -/

/-- What compiling a node does beside its own text and messages. -/
inductive Move
  /-- It asks for the value at an input. -/
  | ask (port : String) (found : Option Producer)
  /-- It states a call that has effects. -/
  | state (text : String)
  /-- It follows a flow output. -/
  | follow (port : String)

/-- The flow output that a move follows. -/
def Move.followed? : Move → Option String
  | .follow port => some port
  | _ => none

/-- The names that the types and the functions of the language ask to import. -/
def Requires (p : Program) (name : String) : Prop :=
  (∃ type, name ∈ (p.lang.types.getOrAny type).desc.requirements) ∨
    ∃ function f, p.lang.functions.get? function = some f ∧ name ∈ f.requirements

end Program

/-- Whether a problem is found while the text of an occurrence is written.  The others are found on
the way from one occurrence to another. -/
def Problem.isOwn : Problem → Bool
  | .reachedAgain | .cyclicValue => false
  | _ => true

namespace Program

/-- Text, messages and records of one occurrence. -/
inductive Touches (p : Program) (a : Address) : Pass → Pass → Prop
  | imports {s : Pass} {names : List String} (required : ∀ name ∈ names, p.Requires name) :
      Touches p a s (s.addImports names)
  | main {s : Pass} (name : String) : Touches p a s (s.setMain name)
  | process {s : Pass} (b : Address) : Touches p a s (s.markProcessed b)
  | report {s : Pass} {cause : Problem} (own : cause.isOwn = true) :
      Touches p a s (s.reportAt p a cause)
  | write {s : Pass} (text : String) (role : LineRole) (uses : List Address) :
      Touches p a s (s.write (some a.rootId) text role uses)
  | reference {s : Pass} {port : String} {v : Producer} (resolves : p.Resolves a port (some v)) :
      Touches p a s (s.note (.referenced a port v (p.valueOf s v)))
  | keep {s : Pass} (text : String) (uses : List Address) :
      Touches p a s (s.setResult a text uses)

/-- The inputs that a node of a kind asks for, in order.  What an assignment asks for after its
target depends on the type of the target. -/
def askList (p : Program) (n : Node) : Kind → List String
  | .call function _ =>
    match p.lang.functions.get? function with
    | none => []
    | some f =>
      (f.params.filter fun param => (p.lang.types.get? param.type).isSome).map (·.name)
  | .branch | .whileLoop => ["inValue"]
  | .forLoop => (List.range (slotCount "range" n.inputs.values)).map (slotKey "range")
  | _ => []

end Program

/-- The flow outputs that a node of a kind follows while its text is written, in order.  The arms of
a branch or a loop are followed only if what it depends on was found. -/
def Node.arms (n : Node) (kind : Kind) (opened : Bool) : List String :=
  match kind with
  | .topLevelCode | .definition => [flowOutKey]
  | .sequence => (List.range (slotCount "out" n.outputs.values)).map (slotKey "out")
  | .branch => if opened then ["then", "else"] else []
  | .whileLoop | .forLoop => if opened then ["body"] else []
  | _ => []

/-- The flow outputs that a node of a kind follows, in order: its arms, then the way on. -/
def Node.exits (n : Node) (kind : Kind) (opened : Bool) : List String :=
  n.arms kind opened ++ if kind.continuesFlow then [flowOutKey] else []

/-- Whether an event is noted while the text of an occurrence is written. -/
def Event.isText : Event → Bool
  | .wrote _ | .referenced _ _ _ _ => true
  | .problem _ cause => cause.isOwn
  | _ => false

/-- Whether an event is noted on the way from one node to another. -/
def Event.isStep : Event → Bool
  | .asked _ _ | .followed _ _ | .demanded _ | .arrived _ => true
  | _ => false

/-- Whether an event is noted where the compilation of an occurrence begins. -/
def Event.isBeginning : Event → Bool
  | .arrived _ | .emitted _ _ _ => true
  | _ => false

theorem Event.line?_of_isStep {e : Event} (step : e.isStep = true) : e.line? = none := by
  cases e <;> first | rfl | cases step

namespace Pass

variable {s : Pass} {a : Address} {cause : Cause} {kind : Kind}

/-! ### Beginning to compile changes no more than the marks and the journal -/

@[simp] theorem started_begin : (s.begin a cause kind).started = s.started := by
  unfold begin
  cases kind.hasFlowIn <;> rfl

@[simp] theorem resolving_begin : (s.begin a cause kind).resolving = s.resolving := by
  unfold begin
  cases kind.hasFlowIn <;> rfl

@[simp] theorem required_begin : (s.begin a cause kind).required = s.required := by
  unfold begin
  cases kind.hasFlowIn <;> rfl

@[simp] theorem diagnostics_begin : (s.begin a cause kind).diagnostics = s.diagnostics := by
  unfold begin
  cases kind.hasFlowIn <;> rfl

@[simp] theorem imports_begin : (s.begin a cause kind).imports = s.imports := by
  unfold begin
  cases kind.hasFlowIn <;> rfl

/-- The journal tells of the arrival of the flow and of the occurrence. -/
theorem mem_of_mem_begin {e : Event} (mem : e ∈ (s.begin a cause kind).journal)
    (other : e.isBeginning = false) : e ∈ s.journal := by
  have arrived : e ≠ .arrived a := by
    rintro rfl
    cases other
  have emitted : e ≠ .emitted a cause s.block.path := by
    rintro rfl
    cases other
  unfold begin at mem
  cases flow : kind.hasFlowIn <;> simp_all [note, markProcessed, visit]

end Pass

namespace Program

variable {p : Program}

/-- The statement of a call: the call itself, or the declaration of its value. -/
def StatementOf (f : FunctionDesc) (a : Address) (text : String) : Prop :=
  ∃ args, text = f.render args ∨ text = "let " ++ a.ident ++ " = " ++ f.render args

/-- What compiling a node states: a call that has effects. -/
def States (p : Program) (a : Address) (kind : Kind) (stated : List String) : Prop :=
  match kind with
  | .call function true =>
    match p.lang.functions.get? function with
    | none => stated = []
    | some f => ∃ text, stated = [text] ∧ StatementOf f a text
  | _ => stated = []

/-- The text of a node is generated by the rule for its kind. -/
def Generates (p : Program) (a : Address) (n : Node) (kind : Kind) (s s' : Pass) : Prop :=
  ∃ fuel, p.emit (p.walk fuel) a n kind s = some ((), s')

/-- What compiling a node of a kind does: it asks for values, states what it has to, and follows
some flow outputs, in this order.  The outputs may depend on whether any value was found. -/
inductive Script (p : Program) (a : Address) (n : Node) (kind : Kind)
    (ports : Bool → List String) : List Move → Prop
  | mk {answers : List (String × Option Producer)} {stated : List String}
      (asked : ∀ x ∈ answers, p.AskedBy n kind x.1)
      (all : kind ≠ .assignment → answers.map Prod.fst = p.askList n kind)
      (states : p.States a kind stated) :
      Script p a n kind ports (answers.map (fun x => .ask x.1 x.2) ++ stated.map .state ++
        (ports (answers.any fun x => x.2.isSome)).map .follow)

section Script

variable {a : Address} {n : Node} {kind : Kind} {ports : Bool → List String} {ms : List Move}
  {port : String}

theorem Script.askedBy (h : p.Script a n kind ports ms) {v : Option Producer}
    (mem : .ask port v ∈ ms) : p.AskedBy n kind port := by
  cases h with
  | mk asked _ _ =>
    simp only [List.mem_append, List.mem_map, Move.ask.injEq, reduceCtorEq, and_false,
      exists_false, or_false] at mem
    obtain ⟨x, hx, rfl, -⟩ := mem
    exact asked x hx

/-- The outputs that compiling a node follows depend on what it finds at the inputs that it asks
for. -/
theorem Script.exists_answers (h : p.Script a n kind ports ms) :
    ∃ answers : List (String × Option Producer), (∀ x ∈ answers, .ask x.1 x.2 ∈ ms) ∧
      (kind ≠ .assignment → answers.map Prod.fst = p.askList n kind) ∧
      ms.filterMap Move.followed? = ports (answers.any fun x => x.2.isSome) := by
  cases h with
  | @mk answers stated _ all _ =>
    refine ⟨answers, fun x hx => ?_, all, ?_⟩
    · have asked := List.mem_map_of_mem (f := fun x => Move.ask x.1 x.2) hx
      exact List.mem_append_left _ (List.mem_append_left _ asked)
    · have asks : (answers.map fun x => Move.ask x.1 x.2).filterMap Move.followed? = [] := by
        simp [List.filterMap_eq_nil_iff, Move.followed?]
      have states : (stated.map Move.state).filterMap Move.followed? = [] := by
        simp [List.filterMap_eq_nil_iff, Move.followed?]
      have follows : ∀ l : List String, (l.map Move.follow).filterMap Move.followed? = l := by
        intro l
        rw [List.filterMap_map]
        exact List.filterMap_some
      rw [List.filterMap_append, List.filterMap_append, asks, states, follows, List.append_nil,
        List.nil_append]

theorem Script.exists_ask (h : p.Script a n kind ports ms) (other : kind ≠ .assignment)
    (mem : port ∈ p.askList n kind) : ∃ v, .ask port v ∈ ms := by
  obtain ⟨answers, asked, all, -⟩ := h.exists_answers
  rw [← all other] at mem
  obtain ⟨x, hx, rfl⟩ := List.mem_map.1 mem
  exact ⟨x.2, asked x hx⟩

/-- Compiling a call that has effects states it before the flow goes on. -/
theorem Script.exists_statement {function : String} {f : FunctionDesc}
    (h : p.Script a n (.call function true) ports ms)
    (hf : p.lang.functions.get? function = some f) :
    ∃ front text back, ms = front ++ .state text :: back ∧
      front.filterMap Move.followed? = [] ∧ StatementOf f a text := by
  cases h with
  | @mk answers stated _ _ states =>
    simp only [States, hf] at states
    obtain ⟨text, rfl, statement⟩ := states
    refine ⟨_, text, _, by rw [List.map_singleton, List.append_assoc]; rfl, ?_, statement⟩
    simp [List.filterMap_eq_nil_iff, Move.followed?]

end Script

/-- What a pass is doing. -/
inductive Activity
  /-- Asking for the value at an input. -/
  | ask (a : Address) (port : String) (found : Option Producer)
  /-- Compiling a value unless that has been done or is left to the flow. -/
  | settle (a : Address) (kind : Kind)
  /-- Following a flow output. -/
  | follow (a : Address) (port : String)
  /-- Compiling an occurrence. -/
  | visit (cause : Cause) (a : Address)
  /-- Compiling some entries in turn. -/
  | entries (as : List Address)
  /-- Making the moves of an occurrence, with its text between them. -/
  | moves (a : Address) (ms : List Move)

/-- What a pass does, with everything that it depends on. -/
inductive Performs (p : Program) : Activity → Pass → Pass → Prop
  | idle {a : Address} {s : Pass} : Performs p (.moves a []) s s
  | touch {a : Address} {s s' : Pass} (touches : p.Touches a s s') : Performs p (.moves a []) s s'
  | asks {a : Address} {port : String} {v : Option Producer} {s s' : Pass}
      (inner : Performs p (.ask a port v) s s') : Performs p (.moves a [.ask port v]) s s'
  | states {a : Address} {s : Pass} (text : String) (role : LineRole) (uses : List Address) :
      Performs p (.moves a [.state text]) s (s.write (some a.rootId) text role uses)
  | follows {a : Address} {port : String} {s s' : Pass}
      (inner : Performs p (.follow a port) s s') : Performs p (.moves a [.follow port]) s s'
  | append {a : Address} {ms ms' : List Move} {s₁ s₂ s₃ : Pass}
      (first : Performs p (.moves a ms) s₁ s₂) (second : Performs p (.moves a ms') s₂ s₃) :
      Performs p (.moves a (ms ++ ms')) s₁ s₃
  | block {a : Address} {ms : List Move} {s s' : Pass} (extra : Nat)
      (inner : Performs p (.moves a ms) (s.openBlock extra) s') :
      Performs p (.moves a ms) s (s'.closeBlock s.block)
  | unwired {a : Address} {port : String} {s : Pass} (wire : p.feeding? a port = none) :
      Performs p (.ask a port none) s (s.note (.asked a port))
  | refused {a : Address} {port : String} {w : Wire} {n : Node} {s s' : Pass}
      (wire : p.feeding? a port = some (w, n)) (next : p.look a port = .nothing)
      (inner : Performs p (.moves (a.sibling n.id) []) (s.note (.asked a port)) s') :
      Performs p (.ask a port none) s s'
  | onward {a b : Address} {port q : String} {w : Wire} {n : Node} {v : Option Producer}
      {s s₁ s' : Pass} (wire : p.feeding? a port = some (w, n))
      (next : p.look a port = .onward b q)
      (inner : Performs p (.moves (a.sibling n.id) []) (s.note (.asked a port)) s₁)
      (rest : Performs p (.ask b q v) s₁ s') : Performs p (.ask a port v) s s'
  | parameter {a : Address} {port : String} {w : Wire} {n : Node} {s : Pass}
      (wire : p.feeding? a port = some (w, n)) (kind : p.kind? n = some .definition)
      (slot : (slotIndex? "out" w.sourcePort).isSome = true) :
      Performs p (.ask a port (some ⟨a.sibling n.id, w.sourcePort⟩)) s (s.note (.asked a port))
  | own {a : Address} {port : String} {w : Wire} {n : Node} {kind : Kind} {s s' : Pass}
      (wire : p.feeding? a port = some (w, n)) (kindOf : p.kind? n = some kind)
      (own : kind.passesOn = false) (other : kind ≠ .definition)
      (inner : Performs p (.settle (a.sibling n.id) kind)
        ((s.note (.asked a port)).note (.demanded (a.sibling n.id))) s') :
      Performs p (.ask a port (some ⟨a.sibling n.id, w.sourcePort⟩)) s
        (s'.require (a.sibling n.id))
  | settled {a : Address} {kind : Kind} {s : Pass} (started : a ∈ s.started)
      (done : a ∉ s.resolving) : Performs p (.settle a kind) s s
  | cyclic {a : Address} {kind : Kind} {s : Pass} (started : a ∈ s.started)
      (resolving : a ∈ s.resolving) :
      Performs p (.settle a kind) s
        ((s.reportAt p a .cyclicValue).write (some a.rootId) p.settings.discardMarker .marker)
  | left {a : Address} {kind : Kind} {s : Pass} (fresh : a ∉ s.started)
      (flow : kind.isLazy = false) : Performs p (.settle a kind) s s
  | compiled {a : Address} {kind : Kind} {s s' : Pass} (fresh : a ∉ s.started)
      (lazy : kind.isLazy = true)
      (inner : Performs p (.visit .demand a) ((s.start a).beginResolving a) s') :
      Performs p (.settle a kind) s (s'.endResolving a)
  | unled {a : Address} {port : String} {s : Pass} (wire : p.fedBy? a port = none) :
      Performs p (.follow a port) s (s.note (.followed a port))
  | stopped {a : Address} {port : String} {w : Wire} {n : Node} {s s' : Pass}
      (wire : p.fedBy? a port = some (w, n)) (next : p.ahead a port = .nothing)
      (inner : Performs p (.moves (a.sibling n.id) []) (s.note (.followed a port)) s') :
      Performs p (.follow a port) s s'
  | through {a b : Address} {port q : String} {w : Wire} {n : Node} {s s₁ s' : Pass}
      (wire : p.fedBy? a port = some (w, n)) (next : p.ahead a port = .onward b q)
      (inner : Performs p (.moves (a.sibling n.id) []) (s.note (.followed a port)) s₁)
      (rest : Performs p (.follow b q) s₁ s') : Performs p (.follow a port) s s'
  | arrive {a b : Address} {port : String} {s s' : Pass} (next : p.ahead a port = .found b)
      (inner : Performs p (.visit .flow b) (s.note (.followed a port)) s') :
      Performs p (.follow a port) s s'
  | absent {cause : Cause} {a : Address} {s : Pass} (node : p.node? a = none) :
      Performs p (.visit cause a) s s
  | unknown {cause : Cause} {a : Address} {n : Node} {s s' : Pass} (node : p.node? a = some n)
      (kind : p.kind? n = none) (inner : Performs p (.moves a []) s s') :
      Performs p (.visit cause a) s s'
  | again {cause : Cause} {a : Address} {n : Node} {kind : Kind} {s : Pass}
      (node : p.node? a = some n) (kindOf : p.kind? n = some kind)
      (flowIn : kind.hasFlowIn = true) (visited : a ∈ s.visited) :
      Performs p (.visit cause a) s ((s.note (.arrived a)).reportAt p a .reachedAgain)
  | compile {cause : Cause} {a : Address} {n : Node} {kind : Kind} {ms : List Move}
      {s s₁ s' : Pass} (reached : p.Placed → p.Reached cause a) (node : p.node? a = some n)
      (kindOf : p.kind? n = some kind) (fresh : kind.hasFlowIn = true → a ∉ s.visited)
      (script : p.Script a n kind (n.exits kind) ms)
      (text : p.Generates a n kind (s.begin a cause kind) s₁) (after : s₁.Extends s')
      (inner : Performs p (.moves a ms) (s.begin a cause kind) s') :
      Performs p (.visit cause a) s s'
  | finished {s : Pass} : Performs p (.entries []) s s
  | entry {a : Address} {as : List Address} {s₁ s₂ s₃ : Pass}
      (first : Performs p (.visit .entry a) s₁ s₂) (rest : Performs p (.entries as) s₂ s₃) :
      Performs p (.entries (a :: as)) s₁ s₃

/-! ### It only adds -/

theorem Touches.extends {a : Address} {s s' : Pass} (h : p.Touches a s s') : s.Extends s' := by
  cases h with
  | imports | main => exact { Pass.Extends.refl _ with }
  | process => exact .markProcessed ..
  | report => exact .reportAt ..
  | write => exact .write ..
  | reference => exact .note _ rfl rfl
  | keep => exact .setResult ..

/-- Whatever a pass does, it only adds to its state. -/
theorem Performs.extends {act : Activity} {s s' : Pass} (h : p.Performs act s s') :
    s.Extends s' := by
  induction h with
  | idle | settled | left | absent | finished => exact .refl _
  | touch touches => exact touches.extends
  | asks _ ih | follows _ ih => exact ih
  | states => exact .write ..
  | append _ _ ih ih' => exact ih.trans ih'
  | block _ _ ih => exact .closeBlock ih
  | unwired | parameter | unled => exact .note _ rfl rfl
  | refused _ _ _ ih | stopped _ _ _ ih => exact (Pass.Extends.note _ rfl rfl).trans ih
  | onward _ _ _ _ ih ih' | through _ _ _ _ ih ih' =>
    exact ((Pass.Extends.note _ rfl rfl).trans ih).trans ih'
  | own _ _ _ _ _ ih =>
    refine (Pass.Extends.trans ?_ ih).trans (.require ..)
    exact (Pass.Extends.note _ rfl rfl).trans (.note _ rfl rfl)
  | cyclic => exact (Pass.Extends.reportAt ..).trans (.write ..)
  | compiled fresh _ _ ih => exact .settle fresh ih
  | arrive _ _ ih => exact (Pass.Extends.note _ rfl rfl).trans ih
  | unknown _ _ _ ih => exact ih
  | again => exact (Pass.Extends.note _ rfl rfl).trans (.reportAt ..)
  | compile _ _ _ _ _ _ _ _ ih => exact (Pass.Extends.begin ..).trans ih
  | entry _ _ ih ih' => exact ih.trans ih'

/-- What a pass finds is what the search in the graphs finds. -/
def Activity.Found (p : Program) : Activity → Prop
  | .ask a port v => p.Resolves a port v
  | .moves a ms => ∀ port v, .ask port v ∈ ms → p.Resolves a port v
  | _ => True

theorem look_own {a : Address} {port : String} {w : Wire} {n : Node} {kind : Kind}
    (wire : p.feeding? a port = some (w, n)) (kindOf : p.kind? n = some kind)
    (own : kind.passesOn = false) (other : kind ≠ .definition) :
    p.look a port = .found ⟨a.sibling n.id, w.sourcePort⟩ := by
  simp only [look, wire, lookAt, kindOf]
  cases kind <;> simp_all [Kind.passesOn]

theorem Performs.found {act : Activity} {s s' : Pass} (h : p.Performs act s s') :
    act.Found p := by
  induction h with
  | idle | touch => exact fun _ _ mem => by cases mem
  | states | follows => exact fun _ _ mem => by cases List.mem_singleton.1 mem
  | asks _ ih =>
    intro port v mem
    cases List.mem_singleton.1 mem
    exact ih
  | append _ _ ih ih' =>
    intro port v mem
    rcases List.mem_append.1 mem with mem | mem
    · exact ih port v mem
    · exact ih' port v mem
  | block _ _ ih => exact ih
  | unwired wire => exact .nothing (by simp only [look, wire])
  | refused _ next => exact .nothing next
  | onward _ next _ _ _ ih => exact .onward next ih
  | parameter wire kind slot => exact .found (by simp [look, wire, lookAt, kind, slot])
  | own wire kindOf own other => exact .found (look_own wire kindOf own other)
  | _ => trivial

/-- Touching an occurrence notes only its text. -/
theorem Touches.of_mem_journal {a : Address} {s s' : Pass} (h : p.Touches a s s') {e : Event}
    (mem : e ∈ s'.journal) (other : e.isText = false) : e ∈ s.journal := by
  cases h with
  | imports | main | process | keep => exact mem
  | report own =>
    rcases List.mem_cons.1 mem with rfl | mem
    · exact absurd other (by simp [Event.isText, own])
    · exact mem
  | write =>
    rcases List.mem_append.1 mem with mem | mem
    · obtain ⟨line, -, rfl⟩ := List.mem_map.1 mem
      cases other
    · exact mem
  | reference =>
    rcases List.mem_cons.1 mem with rfl | mem
    · cases other
    · exact mem

/-! ### Single changes -/

/-- An occurrence is there, at least where nodes stand under their own numbers. -/
def There (p : Program) (a : Address) : Prop := p.Placed → ∃ n, p.node? a = some n

/-- The single changes that a pass makes to its state. -/
inductive Change (p : Program) : Pass → Pass → Prop
  | touch {a : Address} {s s' : Pass} (there : p.There a) (touches : p.Touches a s s') :
      Change p s s'
  | note {s : Pass} {e : Event} (step : e.isStep = true) : Change p s (s.note e)
  | report {a : Address} {s : Pass} {cause : Problem} (there : p.There a) :
      Change p s (s.reportAt p a cause)
  | begin {a : Address} {s : Pass} {cause : Cause} {kind : Kind}
      (kindAt : p.kindAt? a = some kind) (fresh : kind.hasFlowIn = true → a ∉ s.visited) :
      Change p s (s.begin a cause kind)
  | require {a : Address} {s : Pass} (there : p.There a) : Change p s (s.require a)
  | openBlock {s : Pass} (extra : Nat) : Change p s (s.openBlock extra)
  | closeBlock {s : Pass} (outer : Block) : Change p s (s.closeBlock outer)
  | start {s : Pass} (a : Address) : Change p s ((s.start a).beginResolving a)
  | stop {s : Pass} (a : Address) : Change p s (s.endResolving a)

/-- The occurrence at which an activity writes and reports is there. -/
def Activity.There (p : Program) : Activity → Prop
  | .moves a _ | .settle a _ => p.There a
  | _ => True

/-- Whatever a pass does is a chain of single changes. -/
theorem Performs.changes {act : Activity} {s s' : Pass} (h : p.Performs act s s')
    (there : act.There p) : Relation.ReflTransGen p.Change s s' := by
  have feeding : ∀ {a port w n}, p.feeding? a port = some (w, n) → p.There (a.sibling n.id) :=
    fun wire placed => ⟨_, placed.node?_feeding wire⟩
  have fedBy : ∀ {a port w n}, p.fedBy? a port = some (w, n) → p.There (a.sibling n.id) :=
    fun wire placed => ⟨_, placed.node?_fedBy wire⟩
  induction h with
  | idle | settled | left | absent | finished => exact .refl
  | touch touches => exact .single (.touch there touches)
  | asks _ ih | follows _ ih => exact ih trivial
  | states text role uses => exact .single (.touch there (.write text role uses))
  | append _ _ ih ih' => exact (ih there).trans (ih' there)
  | block extra _ ih => exact ((ih there).head (.openBlock extra)).tail (.closeBlock _)
  | unwired | parameter | unled => exact .single (.note rfl)
  | refused wire _ _ ih => exact (ih (feeding wire)).head (.note rfl)
  | stopped wire _ _ ih => exact (ih (fedBy wire)).head (.note rfl)
  | onward wire _ _ _ ih ih' => exact ((ih (feeding wire)).head (.note rfl)).trans (ih' trivial)
  | through wire _ _ _ ih ih' => exact ((ih (fedBy wire)).head (.note rfl)).trans (ih' trivial)
  | own wire _ _ _ _ ih =>
    have settled := ((ih (feeding wire)).head (.note rfl)).head (.note rfl)
    exact settled.tail (.require (feeding wire))
  | cyclic => exact (Relation.ReflTransGen.single (.report there)).tail (.touch there (.write ..))
  | compiled _ _ _ ih => exact ((ih trivial).head (.start _)).tail (.stop _)
  | arrive _ _ ih => exact (ih trivial).head (.note rfl)
  | unknown node _ _ ih => exact ih fun _ => ⟨_, node⟩
  | again node =>
    exact (Relation.ReflTransGen.single (.note rfl)).tail (.report fun _ => ⟨_, node⟩)
  | compile _ node kindOf fresh _ _ _ _ ih =>
    exact (ih fun _ => ⟨_, node⟩).head (.begin (kindAt?_of_node? node kindOf) fresh)
  | entry _ _ ih ih' => exact (ih trivial).trans (ih' trivial)

/-- What every single change keeps is kept by whatever a pass does. -/
theorem Performs.keeps {P : Pass → Prop} (step : ∀ {s s'}, p.Change s s' → P s → P s')
    {act : Activity} {s s' : Pass} (h : p.Performs act s s') (there : act.There p) (hs : P s) :
    P s' := by
  have chain := h.changes there
  clear h
  induction chain with
  | refl => exact hs
  | tail _ change ih => exact step change ih

end Program

end FlowScript
