import FlowScript.Proofs.Actions

/-!
# Compiling occurrences and walking between them

Compiling an occurrence, settling a value, and finding the other end of a wire take the steps of a
pass.  The places to which a value or the flow is passed on without a step that marks an occurrence
are the hops; the rules here leave open what is known of the places that hops lead to.

* `Program.ValueHop`, `Program.FlowHop`: where values and flow are passed on;
* `sat_visit`, `sat_settle`, `sat_resolveStep`, `sat_followStep`: one action each;
* `Walk.Sound`, `sound_step`, `sound_walk`: asking and following, step by step and with any fuel;
* `Program.Ends`, `Program.Ends.runs`: a finished pass is made of steps.
-/

namespace FlowScript

namespace Program

variable {p : Program}

/-! ### Paths -/

theorem OnPath.of_concat {path : List NodeId} {call : NodeId} (h : p.OnPath (path ++ [call])) :
    p.OnPath path ∧ ∃ n g, p.node? ⟨path, call⟩ = some n ∧ p.kind? n = some .moduleCall ∧
      p.library.get? (n.textD moduleKey) = some g := by
  generalize heq : path ++ [call] = whole at h
  cases h with
  | nil => simp at heq
  | snoc outer node kind callee fresh =>
    obtain ⟨rfl, hcall⟩ := List.append_inj' heq rfl
    cases hcall
    exact ⟨outer, _, _, node, kind, callee⟩

/-- A call site lies on the path of what is inside it. -/
theorem OnPath.callSite {a call : Address} (h : p.OnPath a.path) (hc : a.callSite? = some call) :
    p.OnPath call.path ∧ ∃ n, p.node? call = some n ∧ p.kind? n = some .moduleCall := by
  have inside := Address.inside_of_callSite? hc
  rw [← inside] at h
  obtain ⟨outer, n, g, hn, hk, -⟩ := OnPath.of_concat h
  exact ⟨outer, n, hn, hk⟩

/-- The graph inside a call is the module that the call names. -/
theorem graphAt?_inside {a : Address} {n : Node} (hn : p.node? a = some n) :
    p.graphAt? (a.path ++ [a.id]) = p.library.callee? n := by
  obtain ⟨g, hg, hn⟩ := Option.bind_eq_some_iff.1 hn
  rw [graphAt?_concat, hg]
  simp [calledGraph?, hn]

/-- The bridge of a name is a node of the module. -/
theorem bridge?_eq_some {g : Graph} {component name : String} {n : Node}
    (h : g.bridge? component name = some n) :
    n ∈ g.nodes.values ∧ n.component = component ∧ n.text? "name" = some name := by
  refine ⟨List.mem_of_find?_eq_some h, ?_⟩
  simpa using List.find?_some h

/-! ### Hops -/

/-- A call leads into a module of the library that is not being expanded around it. -/
def Enters (p : Program) (a : Address) (n : Node) (g : Graph) : Prop :=
  p.kind? n = some .moduleCall ∧ p.library.get? (n.textD moduleKey) = some g ∧
    p.expanding a.path (n.textD moduleKey) = false

/-- Where the value of an input is looked for next: at the target of an assignment, at the call
for an input of a module, and inside the module for an output of a call. -/
inductive ValueHop (p : Program) : Address × String → Address × String → Prop
  | assignment {a : Address} {port : String} {w : Wire} {n : Node}
      (wire : p.feeding? a port = some (w, n)) (kind : p.kind? n = some .assignment) :
      ValueHop p (a, port) (a.sibling n.id, "inVariable")
  | input {a call : Address} {port : String} {w : Wire} {n : Node}
      (wire : p.feeding? a port = some (w, n)) (kind : p.kind? n = some .moduleInput)
      (site : (a.sibling n.id).callSite? = some call) :
      ValueHop p (a, port) (call, n.textD "name")
  | output {a : Address} {port : String} {w : Wire} {n inner : Node} {g : Graph}
      (wire : p.feeding? a port = some (w, n)) (enters : p.Enters (a.sibling n.id) n g)
      (bridge : g.bridge? ComponentTable.moduleOutputName w.sourcePort = some inner) :
      ValueHop p (a, port) ((a.sibling n.id).inside inner.id, "input")

/-- Where flow goes on without a mark: after the call for an exit of a module, inside the module
for a call, and after a definition or top-level code. -/
inductive FlowHop (p : Program) : Address × String → Address × String → Prop
  | exit {a call : Address} {port : String} {w : Wire} {n : Node}
      (wire : p.fedBy? a port = some (w, n)) (kind : p.kind? n = some .flowExit)
      (site : (a.sibling n.id).callSite? = some call) :
      FlowHop p (a, port) (call, n.textD "name")
  | entry {a : Address} {port : String} {w : Wire} {n inner : Node} {g : Graph}
      (wire : p.fedBy? a port = some (w, n)) (enters : p.Enters (a.sibling n.id) n g)
      (bridge : g.bridge? ComponentTable.flowEntryName w.targetPort = some inner) :
      FlowHop p (a, port) ((a.sibling n.id).inside inner.id, "output")
  | through {a : Address} {port : String} {w : Wire} {n : Node}
      (wire : p.fedBy? a port = some (w, n))
      (kind : p.kind? n = some .definition ∨ p.kind? n = some .topLevelCode) :
      FlowHop p (a, port) (a.sibling n.id, flowOutKey)

/-- A path goes on inside a call that enters a module. -/
theorem OnPath.inside {a : Address} {n : Node} {g : Graph} (h : p.OnPath a.path)
    (hn : p.node? a = some n) (enters : p.Enters a n g) (id : NodeId) :
    p.OnPath (a.inside id).path :=
  .snoc h hn enters.1 enters.2.1 enters.2.2

/-- What is found inside a call under the number of a bridge is the bridge. -/
theorem Placed.node?_bridge (placed : p.Placed) {a : Address} {n inner m : Node} {g : Graph}
    {component name : String} (hn : p.node? a = some n) (enters : p.Enters a n g)
    (bridge : g.bridge? component name = some inner) (hm : p.node? (a.inside inner.id) = some m) :
    m = inner := by
  obtain ⟨g', hg', hm⟩ := Option.bind_eq_some_iff.1 hm
  rw [show (a.inside inner.id).path = a.path ++ [a.id] from rfl, graphAt?_inside hn] at hg'
  obtain ⟨name', hname, hlib⟩ := Option.bind_eq_some_iff.1 hg'
  have same : g' = g := by
    have := enters.2.1
    rw [Node.textD, hname, Option.getD_some, hlib] at this
    exact Option.some.inj this
  subst same
  obtain ⟨k, hk⟩ := OrderedMap.mem_values_iff.1 (bridge?_eq_some bridge).1
  have mem : g' ∈ p.graphs := List.mem_cons_of_mem _ (OrderedMap.mem_values_iff.2 ⟨_, hlib⟩)
  have hid : inner.id = k := placed g' mem hk
  rw [show (a.inside inner.id).id = k from hid, show g'.node? k = some inner from hk] at hm
  exact (Option.some.inj hm).symm

theorem Placed.asks_hop (placed : p.Placed) {a b : Address} {port q : String}
    (asks : p.Asks a port) (hop : p.ValueHop (a, port) (b, q)) : p.Asks b q := by
  cases hop with
  | assignment wire kind =>
    refine ⟨asks.1, fun {m kind'} hm hk' => .inr ?_⟩
    rw [placed.node?_feeding wire] at hm
    cases hm
    rw [kind] at hk'
    cases hk'
    exact .inl rfl
  | @input _ _ _ w n wire kind site =>
    obtain ⟨outer, m, hm, hkind⟩ := OnPath.callSite (a := a.sibling n.id) asks.1 site
    refine ⟨outer, fun {m' kind'} hm' hk' => .inr ?_⟩
    rw [hm] at hm'
    cases hm'
    rw [hkind] at hk'
    cases hk'
    obtain ⟨g, hg, -, hn⟩ := feeding?_eq_some.1 wire
    refine ⟨g, n, ?_, OrderedMap.mem_values_iff.2 ⟨_, hn⟩, kind, rfl⟩
    rw [← graphAt?_inside hm, ← hg]
    exact congrArg (fun x : Address => p.graphAt? x.path) (Address.inside_of_callSite? site)
  | @output _ _ w n inner g wire enters bridge =>
    have hn := placed.node?_feeding wire
    refine ⟨OnPath.inside (a := a.sibling n.id) asks.1 hn enters inner.id, ?_⟩
    refine fun {m kind'} hm _ => .inl ⟨?_, rfl⟩
    rw [placed.node?_bridge hn enters bridge hm]
    exact (bridge?_eq_some bridge).2.1

theorem Placed.follows_hop (placed : p.Placed) {a b : Address} {port q : String}
    (follows : p.Follows a port) (hop : p.FlowHop (a, port) (b, q)) : p.Follows b q := by
  cases hop with
  | @exit _ _ _ w n wire kind site =>
    obtain ⟨outer, m, hm, hkind⟩ := OnPath.callSite (a := a.sibling n.id) follows.1 site
    refine ⟨outer, fun {m' kind'} hm' hk' => .inr ?_⟩
    rw [hm] at hm'
    cases hm'
    rw [hkind] at hk'
    cases hk'
    obtain ⟨g, hg, -, hn⟩ := fedBy?_eq_some.1 wire
    refine ⟨g, n, ?_, OrderedMap.mem_values_iff.2 ⟨_, hn⟩, kind, rfl⟩
    rw [← graphAt?_inside hm, ← hg]
    exact congrArg (fun x : Address => p.graphAt? x.path) (Address.inside_of_callSite? site)
  | @entry _ _ w n inner g wire enters bridge =>
    have hn := placed.node?_fedBy wire
    refine ⟨OnPath.inside (a := a.sibling n.id) follows.1 hn enters inner.id, ?_⟩
    refine fun {m kind'} hm _ => .inl ⟨?_, rfl⟩
    rw [placed.node?_bridge hn enters bridge hm]
    exact (bridge?_eq_some bridge).2.1
  | through wire kind =>
    refine ⟨follows.1, fun {m kind'} hm hk' => .inr ?_⟩
    rw [placed.node?_fedBy wire] at hm
    cases hm
    rcases kind with kind | kind <;> rw [kind] at hk' <;> cases hk' <;> rfl

end Program

/-! ### Compiling an occurrence -/

section Visit

variable {p : Program} {w : Walk} {a : Address} {t : Prop} {s : Pass}

/-- The text of a node and the flow after it. -/
theorem sat_compileNode {m : Mode} {n : Node} {kind : Kind} {cause : Cause} {s₀ : Pass}
    (hn : p.node? a = some n) (hk : p.kind? n = some kind)
    (fresh : kind.hasFlowIn = true → a ∉ s₀.visited)
    (hs : ((s.markProcessed a).note (.emitted a cause s.block.path)) = s₀.begin a cause kind)
    (hw : w.SoundAt m p a n kind) (holds : m.holds (s₀.begin a cause kind)) :
    Gen.Sat m.total (p.compileNode w a cause n kind) s
      fun _ s' => p.Runs (.visit cause a) s₀ s' := by
  unfold Program.compileNode
  refine Gen.Sat.bind (Gen.Sat.modify (Q := fun _ s' => s' = s₀.begin a cause kind) hs) ?_
  rintro _ _ rfl
  refine (Mode.emits_emit hw _ holds trivial).bind fun _ s' hs' => ?_
  obtain ⟨s₁, s₂, before, records, after⟩ := hs'
  split_ifs with hc
  · have holds' : m.holds s' :=
      m.holds_extends ((before.extends.trans records.extends).trans after.extends) holds
    have followed : p.FollowedBy n kind flowOutKey := by
      cases kind <;> simp_all [Kind.continuesFlow, Program.FollowedBy]
    refine (hw.follow followed s' holds' trivial).bind fun _ s'' hs'' => ?_
    exact .emit hn hk fresh before records (after.trans hs''.1)
  · exact .emit hn hk fresh before records after

/-- Compiling an occurrence, from what is known of the walk once it has begun. -/
theorem sat_visit {cause : Cause}
    (hw : ∀ {n kind}, p.node? a = some n → p.kind? n = some kind →
      (kind.hasFlowIn = true → a ∉ s.visited) →
      ∃ m : Mode, m.total = t ∧ w.SoundAt m p a n kind ∧ m.holds (s.begin a cause kind)) :
    Gen.Sat t (p.visit w a cause) s fun _ s' => p.Runs (.visit cause a) s s' := by
  unfold Program.visit
  cases hn : p.node? a with
  | none => exact .absent hn
  | some n =>
    dsimp only
    cases hk : p.kind? n with
    | none =>
      have unknown : p.kindAt? a = none := by simp [Program.kindAt?, hn, hk]
      have other : Problem.unknownComponent n.component ≠ .reachedAgain := by simp
      have reported := Mode.takes_error (m := ⟨t, fun _ => True, fun _ _ _ => trivial⟩) (p := p) a
        (.unknownComponent n.component) other s trivial trivial
      exact reported.mono fun _ s' hs' => .unknown unknown hs'.1
    | some kind =>
      dsimp only
      split_ifs with hf
      · refine Gen.Sat.bind (Gen.Sat.modify (Q := fun _ s' => s' = s.note (.arrived a)) rfl) ?_
        rintro _ _ rfl
        refine Gen.Sat.bind (Gen.Sat.get (Q := fun x s' => x = s.note (.arrived a) ∧
          s' = s.note (.arrived a)) ⟨rfl, rfl⟩) ?_
        rintro _ _ ⟨rfl, rfl⟩
        split_ifs with hv
        · have kindAt : p.kindAt? a = some kind := by simp [Program.kindAt?, hn, hk]
          exact .again kindAt hf hv
        · obtain ⟨m, rfl, sound, holds⟩ := hw hn hk fun _ => hv
          refine Gen.Sat.bind (Gen.Sat.modify (Q := fun _ s' =>
            s' = (s.note (.arrived a)).visit a) rfl) ?_
          rintro _ _ rfl
          refine sat_compileNode hn hk (fun _ => hv) ?_ sound holds
          simp only [Pass.begin, hf, if_true]
      · obtain ⟨m, rfl, sound, holds⟩ := hw hn hk fun h => absurd h hf
        refine sat_compileNode hn hk (fun h => absurd h hf) ?_ sound holds
        simp only [Pass.begin, hf]
        rfl

/-- Settling a value: it is started on, and being worked on only if a cycle is reported. -/
theorem sat_settle {kind : Kind}
    (reached : kind.isLazy = true → p.Placed → p.Reached .demand a)
    (hw : a ∉ s.started → kind.isLazy = true → Gen.Sat t (p.visit w a .demand)
      (((s.note (.demanded a)).start a).beginResolving a)
      fun _ s' => p.Runs (.visit .demand a)
        (((s.note (.demanded a)).start a).beginResolving a) s') :
    Gen.Sat t (p.settle w a kind) s fun _ s' => p.Runs .steps s s' ∧
      (kind.isLazy = true → a ∈ s'.started ∧
        (a ∈ s'.resolving → .problem a .cyclicValue ∈ s'.journal)) := by
  have noted : p.Runs .steps s (s.note (.demanded a)) := .demanded
  unfold Program.settle
  refine Gen.Sat.bind (Gen.Sat.modify (Q := fun _ s' => s' = s.note (.demanded a)) rfl) ?_
  rintro _ _ rfl
  refine Gen.Sat.bind (Gen.Sat.get (Q := fun x s' => x = s.note (.demanded a) ∧
    s' = s.note (.demanded a)) ⟨rfl, rfl⟩) ?_
  rintro _ _ ⟨rfl, rfl⟩
  split_ifs with hstarted hresolving hlazy
  · -- a value that is being worked on depends on itself
    have reported := Mode.takes_error (m := ⟨t, fun _ => True, fun _ _ _ => trivial⟩) (p := p) a
      .cyclicValue nofun (s.note (.demanded a)) trivial trivial
    refine reported.mono fun _ s' hs' => ⟨noted.trans hs'.1, fun _ => ⟨?_, fun _ => hs'.2⟩⟩
    exact hs'.1.extends.started hstarted
  · exact ⟨noted, fun _ => ⟨hstarted, fun h => absurd h hresolving⟩⟩
  · refine Gen.Sat.bind (Gen.Sat.modify (Q := fun _ s' =>
      s' = ((s.note (.demanded a)).start a).beginResolving a) rfl) ?_
    rintro _ _ rfl
    refine (hw hstarted hlazy).bind fun _ s' hs' => ?_
    refine ⟨noted.trans (.settle hstarted (reached hlazy) hs'), fun _ => ⟨?_, fun h => ?_⟩⟩
    · exact hs'.extends.started (mem_addNew.2 (.inr rfl))
    · exact absurd (List.mem_filter.1 h).2 (by simp)
  · exact ⟨noted, fun h => absurd h hlazy⟩

end Visit

/-! ### Finding the other end of a wire -/

section Step

variable {p : Program} {w : Walk} {a : Address} {port : String} {t : Prop} {s : Pass}

/-- An error that says nothing about the end of actions. -/
theorem sat_error (a : Address) (cause : Problem) (other : cause ≠ .reachedAgain) :
    Gen.Sat t (p.error a cause) s fun _ s' => p.Runs .steps s s' :=
  (Mode.takes_error (m := ⟨t, fun _ => True, fun _ _ _ => trivial⟩) a cause other s trivial
    trivial).mono fun _ _ h => h.1

/-- What asking for a value from a state leads to. -/
def Finds (p : Program) (s : Pass) (v : Option Producer) (s' : Pass) : Prop :=
  p.Runs .steps s s' ∧ ∀ u ∈ v, p.Placed → p.Settled s' u

theorem Finds.after {s₁ s₂ : Pass} {v : Option Producer} (h : p.Runs .steps s s₁)
    (hv : Finds p s₁ v s₂) : Finds p s v s₂ :=
  ⟨h.trans hv.1, hv.2⟩

theorem sat_nothing (cause : Problem) (other : cause ≠ .reachedAgain) {b : Address} :
    Gen.Sat t (do p.error b cause; return none) s (Finds p s) :=
  (sat_error b cause other).bind fun _ _ h => ⟨h, fun _ hu => by cases hu⟩

/-- Entering a module succeeds where the call leads into one. -/
theorem sat_enter? {b : Address} {n : Node} (node : p.Placed → p.node? b = some n)
    (kind : p.kind? n = some .moduleCall) :
    Gen.Sat t (p.enter? b n) s fun g s' => p.Runs .steps s s' ∧ ∀ g' ∈ g, p.Enters b n g' := by
  have refuse : ∀ cause, cause ≠ .reachedAgain → Gen.Sat t (do p.error b cause; return none) s
      fun (g : Option Graph) s' => p.Runs .steps s s' ∧ ∀ g' ∈ g, p.Enters b n g' := by
    intro cause other
    exact (sat_error b cause other).bind fun _ _ h => ⟨h, fun _ hg => by cases hg⟩
  unfold Program.enter?
  dsimp only
  cases hlib : p.library.get? (n.textD moduleKey) with
  | none => exact refuse (.moduleNotLoaded _) nofun
  | some g =>
    dsimp only
    split_ifs with hexp
    · exact refuse (.recursiveCall _) nofun
    · refine ⟨.process fun placed => .inl ?_, fun g' hg' => ?_⟩
      · simp [Program.kindAt?, node placed, kind]
      · cases hg'
        exact ⟨kind, hlib, by simpa using hexp⟩

/-- The value of the node at the other end of a wire, for kinds that have one of their own. -/
theorem sat_ownValue {wire : Wire} {n : Node} {kind : Kind} (asks : p.Placed → p.Asks a port)
    (hfeed : p.feeding? a port = some (wire, n)) (hk : p.kind? n = some kind)
    (own : kind.passesOn = false) (other : kind ≠ .definition)
    (deep : (p.Placed → p.Reached .demand (a.sibling n.id)) → ∀ s', s.Extends s' →
      a.sibling n.id ∉ s'.started →
      Gen.Sat t (p.visit w (a.sibling n.id) .demand)
        ((s'.start (a.sibling n.id)).beginResolving (a.sibling n.id))
        fun _ s'' => p.Runs (.visit .demand (a.sibling n.id))
          ((s'.start (a.sibling n.id)).beginResolving (a.sibling n.id)) s'') :
    Gen.Sat t (do
      p.settle w (a.sibling n.id) kind
      modify (·.require (a.sibling n.id))
      return some ⟨a.sibling n.id, wire.sourcePort⟩) s (Finds p s) := by
  have feeds : p.Placed → p.Feeds ⟨a.sibling n.id, wire.sourcePort⟩ kind :=
    fun placed => ⟨a, port, wire, n, asks placed, hfeed, rfl, hk, own⟩
  have reached : kind.isLazy = true → p.Placed → p.Reached .demand (a.sibling n.id) :=
    fun lazy placed => ⟨wire.sourcePort, kind, feeds placed, lazy, other⟩
  refine (sat_settle reached fun hstarted lazy => ?_).bind fun _ s₁ hs₁ => ?_
  · exact deep (reached lazy) _ (.note _ rfl rfl) hstarted
  · refine ⟨hs₁.1.trans .require, fun u hu placed => ?_⟩
    cases hu
    refine ⟨kind, feeds placed, .inr ⟨other, mem_addNew.2 (.inr rfl), fun lazy => ?_⟩⟩
    exact hs₁.2 lazy

/-- The producer at the other end of a wire. -/
theorem sat_resolveStep (asks : p.Placed → p.Asks a port)
    (hop : ∀ {b q}, p.ValueHop (a, port) (b, q) → ∀ {s'}, s.Extends s' →
      Gen.Sat t (w.resolve b q) s' (Finds p s'))
    (deep : ∀ {b}, (p.Placed → p.Reached .demand b) → ∀ {s'}, s.Extends s' → b ∉ s'.started →
      Gen.Sat t (p.visit w b .demand) ((s'.start b).beginResolving b)
        fun _ s'' => p.Runs (.visit .demand b) ((s'.start b).beginResolving b) s'') :
    Gen.Sat t (p.resolveStep w a port) s (Finds p s) := by
  have noted : p.Runs .steps s (s.note (.asked a port)) := .asked asks
  unfold Program.resolveStep
  refine Gen.Sat.bind (Gen.Sat.modify (Q := fun _ s' => s' = s.note (.asked a port)) rfl) ?_
  rintro _ _ rfl
  refine Gen.Sat.mono (Q := Finds p (s.note (.asked a port))) ?_ fun _ _ h => h.after noted
  cases hfeed : p.feeding? a port with
  | none => exact ⟨.refl, fun _ hu => by cases hu⟩
  | some found =>
    obtain ⟨wire, n⟩ := found
    have node : p.Placed → p.node? (a.sibling n.id) = some n :=
      fun placed => placed.node?_feeding hfeed
    have passOn : ∀ {b q}, p.ValueHop (a, port) (b, q) →
        Gen.Sat t (w.resolve b q) (s.note (.asked a port)) (Finds p (s.note (.asked a port))) :=
      fun h => hop h noted.extends
    have settled : ∀ {kind}, p.kind? n = some kind → kind.passesOn = false → kind ≠ .definition →
        Gen.Sat t (do
          p.settle w (a.sibling n.id) kind
          modify (·.require (a.sibling n.id))
          return some ⟨a.sibling n.id, wire.sourcePort⟩) (s.note (.asked a port))
          (Finds p (s.note (.asked a port))) :=
      fun hk own other => sat_ownValue asks hfeed hk own other fun reached s' ext new =>
        deep reached (noted.extends.trans ext) new
    unfold Program.resolveFrom
    dsimp only
    cases hk : p.kind? n with
    | none => exact sat_nothing (.unknownComponent n.component) nofun
    | some kind =>
      cases kind with
      | moduleInput =>
        show Gen.Sat t (p.resolveInput w (a.sibling n.id) n) _ _
        unfold Program.resolveInput
        cases hsite : (a.sibling n.id).callSite? with
        | none => exact sat_nothing .inputOutsideModule nofun
        | some call => exact passOn (.input hfeed hk hsite)
      | moduleCall =>
        show Gen.Sat t (p.resolveOutput w (a.sibling n.id) n wire.sourcePort) _ _
        unfold Program.resolveOutput
        refine (sat_enter? node hk).bind fun g s₁ hs₁ => ?_
        refine Gen.Sat.mono (Q := Finds p s₁) ?_ fun _ _ h => h.after hs₁.1
        cases g with
        | none => exact ⟨.refl, fun _ hu => by cases hu⟩
        | some g =>
          dsimp only
          cases hbridge : g.bridge? ComponentTable.moduleOutputName wire.sourcePort with
          | none => exact sat_nothing (.outputNotFound _) nofun
          | some inner =>
            exact hop (.output hfeed (hs₁.2 g rfl) hbridge) (noted.extends.trans hs₁.1.extends)
      | definition =>
        refine ⟨.refl, fun u hu placed => ?_⟩
        obtain ⟨i, hi, rfl⟩ := Option.map_eq_some_iff.1 hu
        refine ⟨.definition, ⟨a, port, wire, n, asks placed, hfeed, rfl, hk, rfl⟩, .inl ⟨rfl, ?_⟩⟩
        simp [hi]
      | assignment => exact passOn (.assignment hfeed hk)
      | _ => exact settled hk rfl nofun

/-- What follows a flow output. -/
theorem sat_followStep (follows : p.Placed → p.Follows a port)
    (hop : ∀ {b q}, p.FlowHop (a, port) (b, q) → ∀ {s'}, s.Extends s' →
      Gen.Sat t (w.follow b q) s' fun _ s'' => p.Runs .steps s' s'')
    (deep : ∀ {wire n}, p.fedBy? a port = some (wire, n) → p.kind? n ≠ some .flowExit →
      p.kind? n ≠ some .moduleCall → ∀ {s'}, s.Extends s' →
      Gen.Sat t (p.visit w (a.sibling n.id) .flow) s'
        fun _ s'' => p.Runs (.visit .flow (a.sibling n.id)) s' s'') :
    Gen.Sat t (p.followStep w a port) s fun _ s' => p.Runs .steps s s' := by
  have noted : p.Runs .steps s (s.note (.followed a port)) := .followed follows
  unfold Program.followStep
  refine Gen.Sat.bind (Gen.Sat.modify (Q := fun _ s' => s' = s.note (.followed a port)) rfl) ?_
  rintro _ _ rfl
  cases hfed : p.fedBy? a port with
  | none => exact noted
  | some found =>
    obtain ⟨wire, n⟩ := found
    have node : p.Placed → p.node? (a.sibling n.id) = some n :=
      fun placed => placed.node?_fedBy hfed
    have visited : p.kind? n ≠ some .flowExit → p.kind? n ≠ some .moduleCall →
        Gen.Sat t (p.visit w (a.sibling n.id) .flow) (s.note (.followed a port))
          fun _ s' => p.Runs .steps (s.note (.followed a port)) s' := by
      intro exit call
      have other : Cause.flow ≠ .demand := nofun
      refine (deep hfed exit call noted.extends).mono fun _ s' hs' => ?_
      refine .arrive other (fun placed => ?_) hs'
      exact ⟨a, port, wire, n, follows placed, hfed, rfl, exit, call⟩
    suffices step : Gen.Sat t (p.followTo w (a.sibling n.id) n wire.targetPort)
        (s.note (.followed a port)) fun _ s' => p.Runs .steps (s.note (.followed a port)) s' by
      refine step.bind fun _ s' hs' => ?_
      exact noted.trans hs'
    unfold Program.followTo
    cases hk : p.kind? n with
    | none => exact visited (by simp [hk]) (by simp [hk])
    | some kind =>
      cases kind with
      | flowExit =>
        show Gen.Sat t (p.followExit w (a.sibling n.id) n) _ _
        unfold Program.followExit
        cases hsite : (a.sibling n.id).callSite? with
        | none => exact sat_error _ .exitOutsideModule nofun
        | some call =>
          refine (hop (.exit hfed hk hsite) noted.extends).bind fun _ s' hs' => ?_
          exact hs'
      | moduleCall =>
        show Gen.Sat t (p.followEntry w (a.sibling n.id) n wire.targetPort) _ _
        unfold Program.followEntry
        refine (sat_enter? node hk).bind fun g s₁ hs₁ => ?_
        cases g with
        | none => exact hs₁.1
        | some g =>
          dsimp only
          cases hbridge : g.bridge? ComponentTable.flowEntryName wire.targetPort with
          | none => exact (sat_error _ (.entryNotFound _) nofun).mono fun _ _ h => hs₁.1.trans h
          | some inner =>
            have onward := hop (.entry hfed (hs₁.2 g rfl) hbridge)
              (noted.extends.trans hs₁.1.extends)
            exact onward.bind fun _ s' hs' => hs₁.1.trans hs'
      | _ => exact visited (by simp [hk]) (by simp [hk])

end Step

/-! ### The walk of a pass -/

/-- A walk takes steps from all ports that a pass looks at. -/
structure Walk.Sound (m : Mode) (p : Program) (w : Walk) : Prop where
  resolve : ∀ {a port}, (p.Placed → p.Asks a port) → w.ResolvesAt m p a port
  follow : ∀ {a port}, (p.Placed → p.Follows a port) → w.FollowsAt m p a port

namespace Program

variable {p : Program}

theorem Reached.onPath {cause : Cause} {a : Address} (h : p.Reached cause a) :
    p.OnPath a.path := by
  cases cause with
  | entry =>
    obtain ⟨n, -, rfl⟩ := List.mem_map.1 h
    exact .nil
  | flow =>
    obtain ⟨b, port, w, n, follows, -, rfl, -⟩ := h
    exact follows.1
  | demand =>
    obtain ⟨port, kind, ⟨b, q, w, n, asks, -, heq, -⟩, -⟩ := h
    cases heq
    exact asks.1

theorem asks_of_askedBy {a : Address} {n : Node} {kind : Kind} {port : String}
    (here : p.OnPath a.path) (hn : p.node? a = some n) (hk : p.kind? n = some kind)
    (asked : p.AskedBy n kind port) : p.Asks a port := by
  refine ⟨here, fun {n' kind'} hn' hk' => ?_⟩
  rw [hn] at hn'
  cases hn'
  rw [hk] at hk'
  cases hk'
  exact .inr asked

theorem follows_of_followedBy {a : Address} {n : Node} {kind : Kind} {port : String}
    (here : p.OnPath a.path) (hn : p.node? a = some n) (hk : p.kind? n = some kind)
    (followed : p.FollowedBy n kind port) : p.Follows a port := by
  refine ⟨here, fun {n' kind'} hn' hk' => ?_⟩
  rw [hn] at hn'
  cases hn'
  rw [hk] at hk'
  cases hk'
  exact .inr followed

theorem soundAt_of_sound {m : Mode} {w : Walk} (hw : w.Sound m p) {a : Address} {n : Node}
    {kind : Kind} (here : p.Placed → p.OnPath a.path) (hn : p.node? a = some n)
    (hk : p.kind? n = some kind) : w.SoundAt m p a n kind where
  resolve asked := hw.resolve fun placed => asks_of_askedBy (here placed) hn hk asked
  follow followed := hw.follow fun placed => follows_of_followedBy (here placed) hn hk followed

/-- Compiling an occurrence with a walk that takes steps, if it comes to an end. -/
theorem sat_visit_of_sound {w : Walk} (hw : w.Sound .partial p) {cause : Cause} {a : Address}
    (reached : p.Placed → p.Reached cause a) {s : Pass} :
    Gen.Sat False (p.visit w a cause) s fun _ s' => p.Runs (.visit cause a) s s' := by
  refine sat_visit fun {n kind} hn hk _ => ⟨.partial, rfl, ?_, trivial⟩
  exact soundAt_of_sound hw (fun placed => (reached placed).onPath) hn hk

/-- Asking and following take steps if what they go on with does. -/
theorem sound_step {w : Walk} (hw : w.Sound .partial p) :
    Walk.Sound .partial p ⟨p.resolveStep w, p.followStep w⟩ := by
  constructor
  · intro a port asks s _ _
    refine sat_resolveStep asks (fun hop s' _ => ?_) fun reached s' _ _ => ?_
    · exact hw.resolve (fun placed => placed.asks_hop (asks placed) hop) s' trivial trivial
    · exact sat_visit_of_sound hw reached
  · intro a port follows s _ _
    refine (sat_followStep follows (fun hop s' _ => ?_) fun hfed exit call s' _ => ?_).mono
      fun _ _ h => ⟨h, trivial⟩
    · refine (hw.follow (fun placed => placed.follows_hop (follows placed) hop) s' trivial
        trivial).mono fun _ _ h => h.1
    · refine sat_visit_of_sound hw fun placed => ?_
      exact ⟨a, port, _, _, follows placed, hfed, rfl, exit, call⟩

/-- Whatever the fuel, asking and following take steps. -/
theorem sound_walk (p : Program) (fuel : Nat) : (p.walk fuel).Sound .partial p := by
  induction fuel with
  | zero => exact ⟨fun _ s _ _ => id, fun _ s _ _ => id⟩
  | succ fuel ih => exact sound_step ih

/-- Compiling the entries in turn takes steps. -/
theorem sat_visitAll {w : Walk} (hw : w.Sound .partial p) {as : List Address}
    (has : as ⊆ p.entries) (s : Pass) :
    Gen.Sat False (p.visitAll w as) s fun _ s' => p.Runs .steps s s' := by
  induction as generalizing s with
  | nil => exact .refl
  | cons a as ih =>
    have reached : p.Placed → p.Reached .entry a := fun _ => has (List.mem_cons_self ..)
    unfold visitAll
    refine (sat_visit_of_sound hw reached).bind fun _ s' hs' => ?_
    refine (ih (fun b hb => has (List.mem_cons_of_mem _ hb)) s').mono fun _ s'' hs'' => ?_
    have other : Cause.entry ≠ .demand := nofun
    have arrived : p.Runs .steps s s' := .arrive other reached hs'
    exact arrived.trans hs''

/-- A pass over a program comes to an end in a state. -/
def Ends (p : Program) (s : Pass) : Prop := ∃ fuel, p.runWith? fuel = some s

/-- A finished pass is made of steps. -/
theorem Ends.runs {s : Pass} (h : p.Ends s) : p.Runs .steps {} s := by
  obtain ⟨fuel, h⟩ := h
  obtain ⟨⟨x, s'⟩, hrun, rfl⟩ := Option.map_eq_some_iff.1 h
  exact (sat_visitAll (p.sound_walk fuel) (List.Subset.refl _) {}).eq_some hrun

end Program

end FlowScript
