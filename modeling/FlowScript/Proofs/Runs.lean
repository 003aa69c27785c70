import FlowScript.Compile
import FlowScript.Proofs.Slots

/-!
# What a pass can do

A pass is described once by what its steps do to the state, with the conditions under which each
step is taken.  Laws of finished passes are proved by induction on this description, and never look
into the text that nodes of each kind write.

* `Program.Placed`: every node is stored under its own number;
* `Program.OnPath`: the paths on which modules are expanded;
* `Program.Asks`, `Program.Follows`: the inputs and outputs that a pass looks at;
* `Program.Settled`: what is known of a producer when its value is referred to;
* `Program.Runs`: the steps of a pass;
* `Program.Runs.extends`: what every run of steps keeps.
-/

namespace FlowScript

namespace Program

/-- Every node is stored under its own number. -/
def Placed (p : Program) : Prop :=
  ∀ g ∈ p.graphs, ∀ {id n}, g.node? id = some n → n.id = id

/-- Whether nodes stand under their own numbers can be read off the entries. -/
theorem id_of_entries {graphs : List Graph}
    (stored : (graphs.all fun g => g.nodes.entries.all fun x => x.2.id = x.1) = true) :
    ∀ g ∈ graphs, ∀ {id n}, g.node? id = some n → n.id = id := by
  intro g hg id n hn
  have entry := List.all_eq_true.1 (List.all_eq_true.1 stored g hg) (id, n)
    (OrderedMap.get?_eq_some_iff.1 hn)
  simpa using entry

theorem graphAt?_mem {p : Program} {path : List NodeId} {g : Graph}
    (h : p.graphAt? path = some g) : g ∈ p.graphs := by
  induction path using List.reverseRecOn with
  | nil =>
    cases h
    exact List.mem_cons_self ..
  | append_singleton path call _ =>
    rw [graphAt?_concat] at h
    obtain ⟨outer, -, h⟩ := Option.bind_eq_some_iff.1 h
    obtain ⟨n, -, h⟩ := Option.bind_eq_some_iff.1 h
    obtain ⟨name, -, h⟩ := Option.bind_eq_some_iff.1 h
    exact List.mem_cons_of_mem _ (OrderedMap.mem_values_iff.2 ⟨name, h⟩)

theorem feeding?_eq_some {p : Program} {a : Address} {port : String} {w : Wire} {n : Node} :
    p.feeding? a port = some (w, n) ↔ ∃ g, p.graphAt? a.path = some g ∧
      g.wireInto? a.id port = some w ∧ g.node? w.source = some n := by
  simp only [feeding?, Option.bind_eq_bind, Option.bind_eq_some_iff, Option.pure_def,
    Option.some.injEq, Prod.mk.injEq]
  constructor
  · rintro ⟨g, hg, w', hw, n', hn, rfl, rfl⟩
    exact ⟨g, hg, hw, hn⟩
  · rintro ⟨g, hg, hw, hn⟩
    exact ⟨g, hg, w, hw, n, hn, rfl, rfl⟩

theorem fedBy?_eq_some {p : Program} {a : Address} {port : String} {w : Wire} {n : Node} :
    p.fedBy? a port = some (w, n) ↔ ∃ g, p.graphAt? a.path = some g ∧
      g.wireFrom? a.id port = some w ∧ g.node? w.target = some n := by
  simp only [fedBy?, Option.bind_eq_bind, Option.bind_eq_some_iff, Option.pure_def,
    Option.some.injEq, Prod.mk.injEq]
  constructor
  · rintro ⟨g, hg, w', hw, n', hn, rfl, rfl⟩
    exact ⟨g, hg, hw, hn⟩
  · rintro ⟨g, hg, hw, hn⟩
    exact ⟨g, hg, w, hw, n, hn, rfl, rfl⟩

theorem node?_of_graphAt? {p : Program} {a : Address} {g : Graph}
    (hg : p.graphAt? a.path = some g) : p.node? a = g.node? a.id := by
  simp [node?, hg]

/-- In a program whose nodes stand under their own numbers, a neighbour is found again by its
number. -/
theorem Placed.node?_sibling {p : Program} (placed : p.Placed) {a : Address} {g : Graph}
    {id : NodeId} {n : Node} (hg : p.graphAt? a.path = some g) (hn : g.node? id = some n) :
    p.node? (a.sibling n.id) = some n := by
  rw [node?_of_graphAt? (a := a.sibling n.id) hg, show (a.sibling n.id).id = id from
    placed g (graphAt?_mem hg) hn]
  exact hn

theorem Placed.node?_feeding {p : Program} (placed : p.Placed) {a : Address} {port : String}
    {w : Wire} {n : Node} (h : p.feeding? a port = some (w, n)) :
    p.node? (a.sibling n.id) = some n := by
  obtain ⟨g, hg, -, hn⟩ := feeding?_eq_some.1 h
  exact placed.node?_sibling hg hn

theorem Placed.node?_fedBy {p : Program} (placed : p.Placed) {a : Address} {port : String}
    {w : Wire} {n : Node} (h : p.fedBy? a port = some (w, n)) :
    p.node? (a.sibling n.id) = some n := by
  obtain ⟨g, hg, -, hn⟩ := fedBy?_eq_some.1 h
  exact placed.node?_sibling hg hn

/-- The paths on which modules are expanded: each call names a module that the library has and
that is not being expanded around it. -/
inductive OnPath (p : Program) : List NodeId → Prop
  | nil : OnPath p []
  | snoc {path : List NodeId} {call : NodeId} {n : Node} {g : Graph} (outer : OnPath p path)
      (node : p.node? ⟨path, call⟩ = some n) (kind : p.kind? n = some .moduleCall)
      (callee : p.library.get? (n.textD moduleKey) = some g)
      (fresh : p.expanding path (n.textD moduleKey) = false) : OnPath p (path ++ [call])

/-! ### Inputs asked for and outputs followed -/

/-- The inputs at which a node of a kind asks for a value. -/
def AskedBy (p : Program) (n : Node) (kind : Kind) (port : String) : Prop :=
  match kind with
  | .call function _ => ∃ f param, p.lang.functions.get? function = some f ∧ param ∈ f.params ∧
      (p.lang.types.get? param.type).isSome ∧ port = param.name
  | .branch | .whileLoop => port = "inValue"
  | .forLoop => ∃ i, port = slotKey "range" i
  | .assignment => port = "inVariable" ∨ ∃ i, port = slotKey "inValue" i
  | .moduleCall => ∃ g m, p.library.callee? n = some g ∧ m ∈ g.nodes.values ∧
      p.kind? m = some .moduleInput ∧ port = m.textD "name"
  | _ => False

/-- The outputs along which flow goes on from a node of a kind. -/
def FollowedBy (p : Program) (n : Node) (kind : Kind) (port : String) : Prop :=
  match kind with
  | .call _ sideEffect => sideEffect = true ∧ port = flowOutKey
  | .topLevelCode | .code | .definition | .assignment => port = flowOutKey
  | .sequence => ∃ i, port = slotKey "out" i
  | .branch => port = "then" ∨ port = "else" ∨ port = flowOutKey
  | .whileLoop | .forLoop => port = "body" ∨ port = flowOutKey
  | .moduleCall => ∃ g m, p.library.callee? n = some g ∧ m ∈ g.nodes.values ∧
      p.kind? m = some .flowExit ∧ port = m.textD "name"
  | _ => False

/-- An input of an occurrence is asked for a value, by the node or from outside its module. -/
def Asks (p : Program) (a : Address) (port : String) : Prop :=
  p.OnPath a.path ∧ ∀ {n kind}, p.node? a = some n → p.kind? n = some kind →
    (n.component = ComponentTable.moduleOutputName ∧ port = "input") ∨ p.AskedBy n kind port

/-- An output of an occurrence is followed, by the node or from outside its module. -/
def Follows (p : Program) (a : Address) (port : String) : Prop :=
  p.OnPath a.path ∧ ∀ {n kind}, p.node? a = some n → p.kind? n = some kind →
    (n.component = ComponentTable.flowEntryName ∧ port = "output") ∨ p.FollowedBy n kind port

end Program

/-- Kinds whose value is looked for at another node. -/
def Kind.passesOn : Kind → Bool
  | .moduleInput | .moduleCall | .assignment => true
  | _ => false

namespace Program

/-- A producer at the other end of a wire into an input that is asked for a value. -/
def Feeds (p : Program) (v : Producer) (kind : Kind) : Prop :=
  ∃ b port w n, p.Asks b port ∧ p.feeding? b port = some (w, n) ∧
    v = ⟨b.sibling n.id, w.sourcePort⟩ ∧ p.kind? n = some kind ∧ kind.passesOn = false

/-- Where an occurrence is when it is compiled. -/
def Reached (p : Program) : Cause → Address → Prop
  | .entry, a => a ∈ p.entries
  | .flow, a => ∃ b port w n, p.Follows b port ∧ p.fedBy? b port = some (w, n) ∧
      a = b.sibling n.id ∧ p.kind? n ≠ some .flowExit ∧ p.kind? n ≠ some .moduleCall
  | .demand, a => ∃ port kind, p.Feeds ⟨a, port⟩ kind ∧ kind.isLazy = true ∧ kind ≠ .definition

/-- What is known of a producer when its value is referred to: a parameter has its name, and any
other value is compiled, or left to the flow, or on a cycle that has been reported. -/
def Settled (p : Program) (s : Pass) (v : Producer) : Prop :=
  ∃ kind, p.Feeds v kind ∧
    ((kind = .definition ∧ (slotIndex? "out" v.port).isSome) ∨
      kind ≠ .definition ∧ v.address ∈ s.required ∧
        (kind.isLazy = true → v.address ∈ s.started ∧
          (v.address ∈ s.resolving → .problem v.address .cyclicValue ∈ s.journal)))

/-- The type of the value of a node, for the kinds whose values are recorded. -/
def resultType? (p : Program) (n : Node) : Kind → Option DataType
  | .literal type => p.lang.types.get? type
  | .call function _ =>
    (p.lang.functions.get? function).map fun f => p.lang.types.getOrAny (some f.result)
  | .declaration => some (p.lang.types.getOrAny (n.text? "typeName"))
  | _ => none

end Program

/-- The occurrence that a line of this role declares. -/
def LineRole.declared? : LineRole → Option Address
  | .declaration a => some a
  | _ => none

namespace Pass

/-- Every one of some occurrences stands in a text that was handed out before. -/
def Known (s : Pass) (uses : List Address) : Prop :=
  ∀ a ∈ uses, ∃ consumer port v value,
    .referenced consumer port v value ∈ s.journal ∧ a ∈ value.uses

/-- Record a problem at an occurrence. -/
def reportAt (s : Pass) (p : Program) (a : Address) (cause : Problem) : Pass :=
  (s.note (.problem a cause)).reportText p a cause.message

/-- Begin to compile an occurrence. -/
def begin (s : Pass) (a : Address) (cause : Cause) (kind : Kind) : Pass :=
  let s := if kind.hasFlowIn then (s.note (.arrived a)).visit a else s
  (s.markProcessed a).note (.emitted a cause s.block.path)

/-- Close a block and append its lines to the one around it. -/
def closeBlock (s : Pass) (outer : Block) : Pass :=
  { s with block := { outer with lines := s.block.lines ++ outer.lines } }

end Pass

/-- A text that declares the identifier of an occurrence. -/
def Address.DeclaredBy (a : Address) (text : String) : Prop :=
  (∃ value, text = "let " ++ a.ident ++ " = " ++ value) ∨
    ∃ type, text = "var " ++ a.ident ++ ": " ++ type

namespace Program

/-- How the value of an occurrence is recorded: kept as an expression, declared, or not at all. -/
inductive Records (p : Program) (a : Address) (n : Node) (kind : Kind) : Pass → Pass → Prop
  | keep {s : Pass} {t : DataType} {text : String} {uses : List Address}
      (type : p.resultType? n kind = some t) (inline : p.mustBind t (p.readers a resultKey) = false)
      (pure : kind.hasFlowIn = false) (known : s.Known uses) :
      Records p a n kind s (s.setResult a text uses)
  | declare {s : Pass} {t : DataType} {text : String} {uses : List Address}
      (type : p.resultType? n kind = some t) (declares : a.DeclaredBy text)
      (known : s.Known uses) :
      Records p a n kind s (s.write (some a.rootId) text (.declaration a) uses)
  | nothing {s : Pass}
      (unread : ∀ t, p.resultType? n kind = some t →
        kind ≠ .declaration ∧ (t.isVoid = true ∨ p.readers a resultKey = 0)) :
      Records p a n kind s s

/-- What a run of steps is for: nothing in particular, or compiling an occurrence. -/
inductive Task
  | steps
  | visit (cause : Cause) (a : Address)

/-- The steps of a pass. -/
inductive Runs (p : Program) : Task → Pass → Pass → Prop
  | refl {s : Pass} : Runs p .steps s s
  | trans {s₁ s₂ s₃ : Pass} (first : Runs p .steps s₁ s₂) (second : Runs p .steps s₂ s₃) :
      Runs p .steps s₁ s₃
  | asked {s : Pass} {a : Address} {port : String} (asks : p.Placed → p.Asks a port) :
      Runs p .steps s (s.note (.asked a port))
  | followed {s : Pass} {a : Address} {port : String} (follows : p.Placed → p.Follows a port) :
      Runs p .steps s (s.note (.followed a port))
  | demanded {s : Pass} {a : Address} : Runs p .steps s (s.note (.demanded a))
  | imports {s : Pass} (names : List String) : Runs p .steps s (s.addImports names)
  | main {s : Pass} (name : String) : Runs p .steps s (s.setMain name)
  | process {s : Pass} {a : Address}
      (kind : p.Placed →
        p.kindAt? a = some .moduleCall ∨ ∃ type, p.kindAt? a = some (.literal type)) :
      Runs p .steps s (s.markProcessed a)
  | require {s : Pass} {a : Address} : Runs p .steps s (s.require a)
  | report {s : Pass} {a : Address} {cause : Problem} (other : cause ≠ .reachedAgain) :
      Runs p .steps s (s.reportAt p a cause)
  | reference {s : Pass} {a : Address} {port : String} {v : Producer}
      (settled : p.Placed → p.Settled s v) :
      Runs p .steps s (s.note (.referenced a port v (p.valueOf s v)))
  | write {s : Pass} {owner : Option NodeId} {text : String} {role : LineRole}
      {uses : List Address} (plain : role.declared? = none) (known : s.Known uses) :
      Runs p .steps s (s.write owner text role uses)
  | block {s s' : Pass} (extra : Nat) (inner : Runs p .steps (s.openBlock extra) s') :
      Runs p .steps s (s'.closeBlock s.block)
  | settle {s s' : Pass} {a : Address} (fresh : a ∉ s.started)
      (reached : p.Placed → p.Reached .demand a)
      (inner : Runs p (.visit .demand a) ((s.start a).beginResolving a) s') :
      Runs p .steps s (s'.endResolving a)
  | arrive {s s' : Pass} {cause : Cause} {a : Address} (cause_ne : cause ≠ .demand)
      (reached : p.Placed → p.Reached cause a) (inner : Runs p (.visit cause a) s s') :
      Runs p .steps s s'
  | absent {s : Pass} {cause : Cause} {a : Address} (node : p.node? a = none) :
      Runs p (.visit cause a) s s
  | unknown {s s' : Pass} {cause : Cause} {a : Address} (kind : p.kindAt? a = none)
      (inner : Runs p .steps s s') : Runs p (.visit cause a) s s'
  | again {s : Pass} {cause : Cause} {a : Address} {kind : Kind} (kindAt : p.kindAt? a = some kind)
      (flowIn : kind.hasFlowIn = true) (visited : a ∈ s.visited) :
      Runs p (.visit cause a) s ((s.note (.arrived a)).reportAt p a .reachedAgain)
  | emit {s s₁ s₂ s₃ : Pass} {cause : Cause} {a : Address} {n : Node} {kind : Kind}
      (node : p.node? a = some n) (kindOf : p.kind? n = some kind)
      (fresh : kind.hasFlowIn = true → a ∉ s.visited)
      (before : Runs p .steps (s.begin a cause kind) s₁) (records : p.Records a n kind s₁ s₂)
      (after : Runs p .steps s₂ s₃) : Runs p (.visit cause a) s s₃

end Program

/-! ### What every run keeps -/

theorem mem_addNew {α : Type} [DecidableEq α] {l : List α} {x y : α} :
    x ∈ addNew l y ↔ x ∈ l ∨ x = y := by
  unfold addNew
  split <;> rename_i hy
  · constructor
    · exact Or.inl
    · rintro (hx | rfl)
      · exact hx
      · exact hy
  · simp

theorem Diagnostics.isEmpty_addNode (d : Diagnostics) (id : NodeId) (message : String) :
    (d.addNode id message).isEmpty = false := by
  have mem : id ∈ (d.addNode id message).nodes.keys :=
    OrderedMap.mem_keys_iff.2 ⟨_, OrderedMap.get?_insert_self _ _ _⟩
  have nonempty : (d.addNode id message).nodes.entries ≠ [] := by
    intro h
    simp [OrderedMap.keys, h] at mem
  simp [isEmpty, nonempty]

/-- The line that an event tells of. -/
def Event.line? : Event → Option Line
  | .wrote line => some line
  | _ => none

/-- Whether an event tells of a problem. -/
def Event.isProblem : Event → Bool
  | .problem _ _ => true
  | _ => false

@[simp] theorem Event.filterMap_line?_wrote (lines : List Line) :
    (lines.map Event.wrote).filterMap Event.line? = lines := by
  induction lines with
  | nil => rfl
  | cons l lines ih => simpa [Event.line?] using ih

namespace Pass

/-- A later state of a pass: the journal and the marks have grown, the lines written are those of
the journal, and the same blocks are open. -/
structure Extends (s s' : Pass) : Prop where
  grows : ∃ new, s'.journal = new ++ s.journal ∧
    s'.block.lines = new.filterMap Event.line? ++ s.block.lines
  depth : s'.block.depth = s.block.depth
  path : s'.block.path = s.block.path
  started : s.started ⊆ s'.started
  visited : s.visited ⊆ s'.visited
  processed : s.processed ⊆ s'.processed
  required : s.required ⊆ s'.required
  resolving : (∀ a ∈ s.resolving, a ∈ s.started) → s'.resolving = s.resolving
  kept : ∀ {a}, (s.results.get? a).isSome → (s'.results.get? a).isSome
  diagnosed : s'.diagnostics.isEmpty = true → s.diagnostics.isEmpty = true
  problems : ∀ {a cause}, .problem a cause ∈ s'.journal →
    .problem a cause ∈ s.journal ∨ s'.diagnostics.isEmpty = false

namespace Extends

variable {s s' s'' : Pass}

theorem refl (s : Pass) : s.Extends s where
  grows := ⟨[], rfl, rfl⟩
  depth := rfl
  path := rfl
  started := List.Subset.refl _
  visited := List.Subset.refl _
  processed := List.Subset.refl _
  required := List.Subset.refl _
  resolving _ := rfl
  kept h := h
  diagnosed h := h
  problems h := .inl h

theorem mem_journal (h : s.Extends s') {e : Event} (he : e ∈ s.journal) : e ∈ s'.journal := by
  obtain ⟨new, hj, -⟩ := h.grows
  rw [hj]
  exact List.mem_append_right new he

theorem trans (h : s.Extends s') (h' : s'.Extends s'') : s.Extends s'' where
  grows := by
    obtain ⟨new, hj, hl⟩ := h.grows
    obtain ⟨new', hj', hl'⟩ := h'.grows
    exact ⟨new' ++ new, by rw [hj', hj, List.append_assoc], by
      rw [hl', hl, List.filterMap_append, List.append_assoc]⟩
  depth := h'.depth.trans h.depth
  path := h'.path.trans h.path
  started := List.Subset.trans h.started h'.started
  visited := List.Subset.trans h.visited h'.visited
  processed := List.Subset.trans h.processed h'.processed
  required := List.Subset.trans h.required h'.required
  resolving hs := by
    have first := h.resolving hs
    rw [h'.resolving, first]
    intro a ha
    exact h.started (hs a (first ▸ ha))
  kept hk := h'.kept (h.kept hk)
  diagnosed hd := h.diagnosed (h'.diagnosed hd)
  problems hp := by
    rcases h'.problems hp with hp' | hd
    · rcases h.problems hp' with hp'' | hd'
      · exact .inl hp''
      · refine .inr ?_
        by_contra hne
        simp [h'.diagnosed (by simpa using hne)] at hd'
    · exact .inr hd

/-- An event that is neither a line nor a problem. -/
theorem note (s : Pass) {e : Event} (line : e.line? = none) (problem : e.isProblem = false) :
    s.Extends (s.note e) :=
  { refl s with
    grows := ⟨[e], rfl, by simp [line]; rfl⟩
    problems := fun {a cause} hp => by
      rcases List.mem_cons.1 hp with rfl | hp
      · cases problem
      · exact .inl hp }

theorem write (s : Pass) (owner : Option NodeId) (text : String) (role : LineRole)
    (uses : List Address) : s.Extends (s.write owner text role uses) :=
  { refl s with
    grows := ⟨_, rfl, by simp only [Event.filterMap_line?_wrote]; rfl⟩
    problems := fun {a cause} hp => by
      rcases List.mem_append.1 hp with hp | hp
      · simp at hp
      · exact .inl hp }

theorem reportAt (s : Pass) (p : Program) (a : Address) (cause : Problem) :
    s.Extends (s.reportAt p a cause) :=
  { refl s with
    grows := ⟨[.problem a cause], rfl, rfl⟩
    diagnosed := fun h => by
      rw [show (s.reportAt p a cause).diagnostics.isEmpty = false from
        Diagnostics.isEmpty_addNode _ _ _] at h
      cases h
    problems := fun _ => .inr (Diagnostics.isEmpty_addNode _ _ _) }

theorem markProcessed (s : Pass) (a : Address) : s.Extends (s.markProcessed a) :=
  { refl s with processed := fun _ hx => mem_addNew.2 (.inl hx) }

theorem require (s : Pass) (a : Address) : s.Extends (s.require a) :=
  { refl s with required := fun _ hx => mem_addNew.2 (.inl hx) }

theorem visit (s : Pass) (a : Address) : s.Extends (s.visit a) :=
  { refl s with visited := fun _ hx => mem_addNew.2 (.inl hx) }

theorem begin (s : Pass) (a : Address) (cause : Cause) (kind : Kind) :
    s.Extends (s.begin a cause kind) := by
  unfold Pass.begin
  dsimp only
  refine trans ?_ (trans (markProcessed _ a) (note _ rfl rfl))
  split
  · exact (note s rfl rfl).trans (visit _ a)
  · exact refl s

theorem setResult (s : Pass) (a : Address) (text : String) (uses : List Address) :
    s.Extends (s.setResult a text uses) :=
  { refl s with
    kept := fun {b} hb => by
      unfold Pass.setResult
      rw [OrderedMap.get?_insert]
      split
      · rfl
      · exact hb }

theorem closeBlock {extra : Nat} (h : (s.openBlock extra).Extends s') :
    s.Extends (s'.closeBlock s.block) :=
  { h with
    grows := by
      obtain ⟨new, hj, hl⟩ := h.grows
      refine ⟨new, hj, ?_⟩
      show s'.block.lines ++ s.block.lines = _
      rw [hl]
      simp [openBlock]
    depth := rfl
    path := rfl }

/-- Working on a value leaves the values that are being worked on as they were. -/
theorem settle {a : Address} (fresh : a ∉ s.started)
    (h : ((s.start a).beginResolving a).Extends s') : s.Extends (s'.endResolving a) :=
  { h with
    started := fun _ hx => h.started (mem_addNew.2 (.inl hx))
    resolving := by
      intro hs
      have inner : s'.resolving = addNew s.resolving a := h.resolving fun x hx => by
        rcases mem_addNew.1 hx with hx | rfl
        · exact mem_addNew.2 (.inl (hs x hx))
        · exact mem_addNew.2 (.inr rfl)
      have absent : a ∉ s.resolving := fun ha => fresh (hs a ha)
      show s'.resolving.filter (· ≠ a) = s.resolving
      rw [inner, addNew, if_neg absent, List.filter_append]
      have others : s.resolving.filter (· ≠ a) = s.resolving :=
        List.filter_eq_self.2 fun x hx => by
          simp only [ne_eq, decide_not, Bool.not_eq_eq_eq_not, Bool.not_true,
            decide_eq_false_iff_not]
          rintro rfl
          exact absent hx
      rw [others]
      simp }

end Extends

end Pass

namespace Program

variable {p : Program}

theorem Records.extends {a : Address} {n : Node} {kind : Kind} {s s' : Pass}
    (h : p.Records a n kind s s') : s.Extends s' := by
  cases h with
  | keep => exact .setResult ..
  | declare => exact .write ..
  | nothing => exact .refl s

/-- Steps only add. -/
theorem Runs.extends {task : Task} {s s' : Pass} (h : p.Runs task s s') : s.Extends s' := by
  induction h with
  | refl => exact .refl _
  | trans _ _ ih ih' => exact ih.trans ih'
  | asked | followed | demanded | reference => exact .note _ rfl rfl
  | imports | main => exact { Pass.Extends.refl _ with }
  | process => exact .markProcessed ..
  | require => exact .require ..
  | report => exact .reportAt ..
  | write => exact .write ..
  | block _ _ ih => exact .closeBlock ih
  | settle fresh _ _ ih => exact .settle fresh ih
  | arrive _ _ _ ih => exact ih
  | absent => exact .refl _
  | unknown _ _ ih => exact ih
  | again => exact (Pass.Extends.note _ rfl rfl).trans (.reportAt ..)
  | emit _ _ _ _ records _ ih ih' =>
    exact (Pass.Extends.begin ..).trans (ih.trans (records.extends.trans ih'))

end Program

end FlowScript
