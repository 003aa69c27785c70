import FlowScript.Proofs.Functions
import FlowScript.Proofs.Placement

/-!
# Cyclic values are reported exactly where they are

A call without effects depends on the values that are found for its arguments.  A value that is
asked for while it is being worked on is reported as cyclic, and such reports are exact: there is
one if and only if some value that is asked for leads into a cycle of dependencies, and every value
that is reported lies on one.

* `Program.Depends`: the dependencies, read off the graphs;
* `Program.Performs.grounded`: without a report, what has been worked on rests on no cycle;
* `Program.Performs.reportsCycles`: what is reported lies on a cycle;
* `Program.Ends.cyclicValue_iff`: both, for a finished pass.
-/

namespace FlowScript

open Relation

/-- Whether an event tells that a value was asked for. -/
def Event.isDemand : Event → Bool
  | .demanded _ => true
  | _ => false

namespace Program

variable {p : Program}

/-! ### Dependencies -/

/-- A call without effects depends on each occurrence without flow input at which the search for the
value of one of its arguments ends. -/
def Depends (p : Program) (a b : Address) : Prop :=
  ∃ function f param port, p.kindAt? a = some (.call function false) ∧
    p.lang.functions.get? function = some f ∧ param ∈ f.params ∧
    p.Resolves a param.name (some ⟨b, port⟩) ∧ p.Flowless b

/-- An occurrence from which no chain of dependencies goes on for ever. -/
def Grounded (p : Program) (a : Address) : Prop := Acc (Function.swap p.Depends) a

theorem grounded_of_kind {a : Address} {kind : Kind} (hk : p.kindAt? a = some kind)
    (other : ∀ function, kind ≠ .call function false) : p.Grounded a := by
  refine ⟨a, fun b depends => ?_⟩
  obtain ⟨function, -, -, -, call, -⟩ := depends
  rw [hk] at call
  cases call
  exact absurd rfl (other function)

/-- What is grounded leads into no cycle. -/
theorem Grounded.not_cyclic {a c : Address} (h : p.Grounded a)
    (reaches : ReflTransGen p.Depends a c) : ¬ TransGen p.Depends c c := by
  have grounded : p.Grounded c := by
    induction reaches with
    | refl => exact h
    | tail _ step ih => exact ih.inv step
  have chains : Acc (TransGen (Function.swap p.Depends)) c := grounded.transGen
  intro cyclic
  clear h reaches grounded
  induction chains with
  | intro c _ ih => exact ih c cyclic.swap cyclic

/-! ### Without a report there is no cycle -/

/-- What has been worked on to the end is grounded. -/
def Rests (p : Program) (s : Pass) : Prop :=
  ∀ a ∈ s.started, a ∉ s.resolving → p.Grounded a

/-- The values that an activity finds, or the dependencies of what it compiles, are grounded. -/
def Activity.Grounds (p : Program) : Activity → Prop
  | .ask _ _ v => ∀ u ∈ v, p.Flowless u.address → p.Grounded u.address
  | .settle a kind => kind.hasFlowIn = false → p.Grounded a
  | .visit _ a => ∀ b, p.Depends a b → p.Grounded b
  | .moves _ ms => ∀ port u, .ask port (some u) ∈ ms → p.Flowless u.address → p.Grounded u.address
  | .follow _ _ | .entries _ => True

/-- What an activity leaves behind: grounded values, also those that it asked for. -/
structure Leaves (p : Program) (act : Activity) (s s' : Pass) : Prop where
  grounds : act.Grounds p
  rests : p.Rests s'
  demanded : ∀ {a}, .demanded a ∈ s'.journal → .demanded a ∈ s.journal ∨ p.Grounded a

theorem Leaves.of_note {act act' : Activity} {s s' : Pass} {e : Event}
    (h : p.Leaves act (s.note e) s') (grounds : act'.Grounds p) (other : e.isDemand = false) :
    p.Leaves act' s s' := by
  refine ⟨grounds, h.rests, fun mem => ?_⟩
  rcases h.demanded mem with mem | grounded
  · rcases List.mem_cons.1 mem with rfl | mem
    · cases other
    · exact .inl mem
  · exact .inr grounded

theorem Leaves.trans {act₁ act₂ act : Activity} {s₁ s₂ s₃ : Pass} (h : p.Leaves act₁ s₁ s₂)
    (h' : p.Leaves act₂ s₂ s₃) (grounds : act.Grounds p) : p.Leaves act s₁ s₃ := by
  refine ⟨grounds, h'.rests, fun mem => ?_⟩
  rcases h'.demanded mem with mem | grounded
  · exact h.demanded mem
  · exact .inr grounded

/-- Nothing is started on or asked for. -/
theorem Leaves.still {act : Activity} {s s' : Pass} (rests : p.Rests s)
    (started : s'.started = s.started) (resolving : s'.resolving = s.resolving)
    (journal : ∀ {a}, .demanded a ∈ s'.journal → .demanded a ∈ s.journal)
    (grounds : act.Grounds p) : p.Leaves act s s' := by
  refine ⟨grounds, ?_, fun mem => .inl (journal mem)⟩
  unfold Rests
  rw [started, resolving]
  exact rests

theorem Leaves.note {act : Activity} {s : Pass} {e : Event} (rests : p.Rests s)
    (other : e.isDemand = false) (grounds : act.Grounds p) : p.Leaves act s (s.note e) := by
  refine .still rests rfl rfl (fun mem => ?_) grounds
  rcases List.mem_cons.1 mem with rfl | mem
  · cases other
  · exact mem

theorem Touches.marks {a : Address} {s s' : Pass} (h : p.Touches a s s') :
    s'.started = s.started ∧ s'.resolving = s.resolving := by
  cases h <;> exact ⟨rfl, rfl⟩

/-- The dependencies of an occurrence are among the values that its script asks for. -/
theorem Script.mem_of_depends (linked : p.Linked) {a b : Address} {n : Node} {kind : Kind}
    {ports : Bool → List String} {ms : List Move} (script : p.Script a n kind ports ms)
    (hk : p.kindAt? a = some kind) (found : ∀ port v, .ask port v ∈ ms → p.Resolves a port v)
    (depends : p.Depends a b) :
    p.Flowless b ∧ ∃ port u, .ask port (some u) ∈ ms ∧ u.address = b := by
  obtain ⟨function, f, param, port, call, hf, hparam, resolves, flowless⟩ := depends
  rw [hk] at call
  cases call
  have listed : param.name ∈ p.askList n (.call function false) := by
    simp only [askList, hf]
    exact List.mem_map.2 ⟨param, List.mem_filter.2 ⟨hparam, linked.param_type hf hparam⟩, rfl⟩
  obtain ⟨v, asked⟩ := script.exists_ask (by simp) listed
  have same := (found _ _ asked).unique resolves
  subst same
  exact ⟨flowless, param.name, _, asked, rfl⟩

/-- A pass that reports no cycle leaves grounded values behind. -/
theorem Performs.grounded (linked : p.Linked) {act : Activity} {s s' : Pass}
    (h : p.Performs act s s') (acyclic : s'.Acyclic) (rests : p.Rests s) :
    p.Leaves act s s' := by
  have nothing : ∀ {a port}, (Activity.ask a port none).Grounds p := fun _ hu => by cases hu
  induction h with
  | idle => exact .still rests rfl rfl id fun _ _ mem => by cases mem
  | touch touches =>
    obtain ⟨started, resolving⟩ := touches.marks
    exact .still rests started resolving (fun mem => touches.of_mem_journal mem rfl)
      fun _ _ mem => by cases mem
  | asks _ ih =>
    obtain ⟨grounds, rests, demanded⟩ := ih acyclic rests
    refine ⟨fun port u mem => ?_, rests, demanded⟩
    cases List.mem_singleton.1 mem
    exact grounds u rfl
  | @states a s text role uses =>
    have touches : p.Touches a s (s.write (some a.rootId) text role uses) := .write ..
    exact .still rests rfl rfl (fun mem => touches.of_mem_journal mem rfl)
      fun _ _ mem => by cases List.mem_singleton.1 mem
  | follows _ ih =>
    obtain ⟨-, rests, demanded⟩ := ih acyclic rests
    refine ⟨fun _ _ mem => ?_, rests, demanded⟩
    cases List.mem_singleton.1 mem
  | append _ second ih ih' =>
    have first := ih (acyclic.of_extends second.extends) rests
    have second := ih' acyclic first.rests
    refine first.trans second fun port u mem => ?_
    rcases List.mem_append.1 mem with mem | mem
    · exact first.grounds port u mem
    · exact second.grounds port u mem
  | block _ _ ih =>
    obtain ⟨grounds, rests, demanded⟩ := ih acyclic rests
    exact ⟨grounds, rests, demanded⟩
  | unwired => exact .note rests rfl nothing
  | refused _ _ _ ih => exact (ih acyclic rests).of_note nothing rfl
  | onward _ _ _ rest ih ih' =>
    have before := ih (acyclic.of_extends rest.extends) rests
    have after := ih' acyclic before.rests
    exact (before.trans after after.grounds).of_note after.grounds rfl
  | @parameter a _ _ n _ wire kind slot =>
    -- a parameter is no call, and depends on nothing
    have hk := kindAt?_of_node? (linked.placed.node?_feeding wire) kind
    refine .note rests rfl fun u hu _ => ?_
    cases hu
    exact grounded_of_kind hk (by simp)
  | @own a port w n kind s s' wire kindOf _ _ inner ih =>
    obtain ⟨settled, rests', demanded⟩ := ih acyclic rests
    have hk := kindAt?_of_node? (linked.placed.node?_feeding wire) kindOf
    have grounded : p.Grounded (a.sibling n.id) := by
      cases flow : kind.hasFlowIn with
      | false => exact settled flow
      | true =>
        refine grounded_of_kind hk fun function call => ?_
        rw [call] at flow
        cases flow
    refine ⟨fun u hu _ => ?_, rests', fun mem => ?_⟩
    · cases hu
      exact grounded
    · rcases demanded mem with mem | grounded
      · rcases List.mem_cons.1 mem with heq | mem
        · cases heq
          exact .inr grounded
        · rcases List.mem_cons.1 mem with heq | mem
          · cases heq
          · exact .inl mem
      · exact .inr grounded
  | settled started done => exact .still rests rfl rfl id fun _ => rests _ started done
  | cyclic =>
    exact absurd (List.mem_append_right _ (List.mem_cons_self ..)) (acyclic _)
  | left _ flow =>
    refine .still rests rfl rfl id fun none => ?_
    simp [Kind.isLazy, none] at flow
  | @compiled a kind s s' fresh lazy inner ih =>
    have started : p.Rests ((s.start a).beginResolving a) := by
      intro b mem notResolving
      rw [show ((s.start a).beginResolving a).resolving = addNew s.resolving a from rfl,
        mem_addNew, not_or] at notResolving
      rcases mem_addNew.1 mem with mem | rfl
      · exact rests b mem notResolving.1
      · exact absurd rfl notResolving.2
    obtain ⟨grounds, rests', demanded⟩ := ih acyclic started
    have grounded : p.Grounded a := ⟨a, grounds⟩
    refine ⟨fun _ => grounded, fun b mem notResolving => ?_, demanded⟩
    by_cases same : b = a
    · rw [same]
      exact grounded
    · refine rests' b mem fun resolving => notResolving ?_
      exact List.mem_filter.2 ⟨resolving, by simpa using same⟩
  | unled => exact .note rests rfl trivial
  | stopped _ _ _ ih => exact (ih acyclic rests).of_note trivial rfl
  | through _ _ _ rest ih ih' =>
    have before := ih (acyclic.of_extends rest.extends) rests
    have after := ih' acyclic before.rests
    exact (before.trans after after.grounds).of_note trivial rfl
  | arrive _ _ ih => exact (ih acyclic rests).of_note trivial rfl
  | absent node =>
    refine .still rests rfl rfl id fun b depends => ?_
    obtain ⟨function, -, -, -, call, -⟩ := depends
    simp [kindAt?, node] at call
  | unknown node kind _ ih =>
    obtain ⟨-, rests, demanded⟩ := ih acyclic rests
    refine ⟨fun b depends => ?_, rests, demanded⟩
    obtain ⟨function, -, -, -, call, -⟩ := depends
    simp [kindAt?, node, kind] at call
  | again node kindOf flowIn =>
    refine .still rests rfl rfl (fun mem => ?_) fun b depends => ?_
    · rcases List.mem_cons.1 mem with heq | mem
      · cases heq
      · rcases List.mem_cons.1 mem with heq | mem
        · cases heq
        · exact mem
    · obtain ⟨function, -, -, -, call, -⟩ := depends
      simp only [kindAt?, node, Option.bind_eq_bind, Option.bind_some, kindOf,
        Option.some.injEq] at call
      rw [call] at flowIn
      cases flowIn
  | @compile cause a n kind ms s _ s' _ node kindOf _ script _ _ inner ih =>
    have begun : p.Rests (s.begin a cause kind) := by
      unfold Rests
      rw [Pass.started_begin, Pass.resolving_begin]
      exact rests
    obtain ⟨grounds, rests', demanded⟩ := ih acyclic begun
    refine ⟨fun b depends => ?_, rests', fun mem => ?_⟩
    · have hk := kindAt?_of_node? node kindOf
      obtain ⟨flowless, port, u, mem, rfl⟩ :=
        script.mem_of_depends linked hk inner.found depends
      exact grounds port u mem flowless
    · rcases demanded mem with mem | grounded
      · exact .inl (Pass.mem_of_mem_begin mem rfl)
      · exact .inr grounded
  | finished => exact .still rests rfl rfl id trivial
  | entry _ rest ih ih' =>
    have first := ih (acyclic.of_extends rest.extends) rests
    exact first.trans (ih' acyclic first.rests) trivial

/-! ### What is reported lies on a cycle -/

/-- The values that are being worked on have been started on, and no flow enters them. -/
structure Stacked (p : Program) (s : Pass) : Prop where
  started : ∀ a ∈ s.resolving, a ∈ s.started
  flowless : ∀ a ∈ s.resolving, p.Flowless a

theorem Stacked.of_extends {s s' : Pass} (h : p.Stacked s) (hs : s.Extends s') : p.Stacked s' := by
  have same := hs.resolving h.started
  constructor
  · rw [same]
    exact fun a mem => hs.started (h.started a mem)
  · rw [same]
    exact h.flowless

theorem Stacked.note {s : Pass} (h : p.Stacked s) (e : Event) : p.Stacked (s.note e) :=
  ⟨h.started, h.flowless⟩

/-- What is found at an input is depended on by all that is being worked on. -/
def Under (p : Program) (rs : List Address) (a : Address) (port : String) : Prop :=
  ∀ b q, p.Resolves a port (some ⟨b, q⟩) → p.Flowless b → ∀ r ∈ rs, TransGen p.Depends r b

/-- How an activity stands to what is being worked on: values depend on each other all the way down,
and flow is followed only when nothing is being worked on. -/
def Activity.Below (p : Program) (rs : List Address) : Activity → Prop
  | .ask a port _ => p.Under rs a port
  | .settle a kind => p.kindAt? a = some kind ∧
      (p.Flowless a → ∀ r ∈ rs, TransGen p.Depends r a)
  | .visit .demand a => ∀ r ∈ rs, ReflTransGen p.Depends r a
  | .visit _ _ | .follow _ _ | .entries _ => rs = []
  | .moves a ms => (∀ port v, .ask port v ∈ ms → p.Under rs a port) ∧
      ∀ port, .follow port ∈ ms → rs = []

/-- A value that is being settled has been asked for. -/
def Activity.Noted (s : Pass) : Activity → Prop
  | .settle a _ => .demanded a ∈ s.journal
  | _ => True

/-- The cycles that are reported between two states are there, at values that were asked for. -/
def Reports (p : Program) (s s' : Pass) : Prop :=
  ∀ a, .problem a .cyclicValue ∈ s'.journal →
    .problem a .cyclicValue ∈ s.journal ∨ .demanded a ∈ s'.journal ∧ TransGen p.Depends a a

theorem Reports.still {s s' : Pass}
    (h : ∀ {a}, .problem a .cyclicValue ∈ s'.journal → .problem a .cyclicValue ∈ s.journal) :
    p.Reports s s' :=
  fun _ mem => .inl (h mem)

theorem Reports.trans {s₁ s₂ s₃ : Pass} (h : p.Reports s₁ s₂) (h' : p.Reports s₂ s₃)
    (hs : s₂.Extends s₃) : p.Reports s₁ s₃ := by
  intro a mem
  rcases h' a mem with mem | found
  · rcases h a mem with mem | ⟨demanded, cyclic⟩
    · exact .inl mem
    · exact .inr ⟨hs.mem_journal demanded, cyclic⟩
  · exact .inr found

theorem Reports.note {s : Pass} {e : Event} (sound : e.isProblem = false) :
    p.Reports s (s.note e) := by
  refine .still fun mem => ?_
  rcases List.mem_cons.1 mem with rfl | mem
  · cases sound
  · exact mem

theorem Reports.of_note {s s' : Pass} {e : Event} (h : p.Reports (s.note e) s')
    (sound : e.isProblem = false) : p.Reports s s' := by
  intro a mem
  rcases h a mem with mem | found
  · rcases List.mem_cons.1 mem with rfl | mem
    · cases sound
    · exact .inl mem
  · exact .inr found

/-- Values follow no flow. -/
theorem Script.followed_eq_nil {a : Address} {n : Node} {kind : Kind} {ms : List Move}
    (h : p.Script a n kind (n.exits kind) ms) (value : kind.isValue = true)
    (noFlow : kind.hasFlowIn = false) : ms.filterMap Move.followed? = [] := by
  obtain ⟨answers, -, -, follows⟩ := h.exists_answers
  rw [follows]
  cases kind with
  | literal | declaration => rfl
  | call function sideEffect =>
    cases noFlow
    rfl
  | _ => cases value

/-- Compiling a value keeps its dependencies under what is being worked on, and compiling anything
else happens when nothing is. -/
theorem Script.below (linked : p.Linked) {cause : Cause} {a : Address} {n : Node} {kind : Kind}
    {ms : List Move} {rs : List Address} (script : p.Script a n kind (n.exits kind) ms)
    (hk : p.kindAt? a = some kind) (reached : p.Reached cause a)
    (below : (Activity.visit cause a).Below p rs) : (Activity.moves a ms).Below p rs := by
  cases cause with
  | entry | flow =>
    have empty : rs = [] := below
    subst empty
    exact ⟨fun _ _ _ _ _ _ _ _ mem => (List.not_mem_nil mem).elim, fun _ _ => rfl⟩
  | demand =>
    obtain ⟨kind', hk', value, noFlow⟩ := linked.reached_demand reached
    rw [hk] at hk'
    cases hk'
    constructor
    · intro port v mem b q resolves flowless r hr
      have asked := script.askedBy mem
      cases kind with
      | call function sideEffect =>
        cases noFlow
        obtain ⟨f, param, hf, hparam, -, rfl⟩ := asked
        have depends : p.Depends a b := ⟨function, f, param, q, hk, hf, hparam, resolves, flowless⟩
        exact TransGen.tail' (below r hr) depends
      | literal | declaration => exact asked.elim
      | _ => cases value
    · intro port mem
      have followed : port ∈ ms.filterMap Move.followed? := List.mem_filterMap.2 ⟨_, mem, rfl⟩
      rw [script.followed_eq_nil value noFlow] at followed
      cases followed

/-- Every cycle that a pass reports is there. -/
theorem Performs.reportsCycles (linked : p.Linked) {act : Activity} {s s' : Pass}
    (h : p.Performs act s s') (stacked : p.Stacked s) (below : act.Below p s.resolving)
    (noted : act.Noted s) : p.Reports s s' := by
  have quiet : ∀ {a rs}, (Activity.moves a []).Below p rs :=
    ⟨fun _ _ mem => (List.not_mem_nil mem).elim, fun _ mem => (List.not_mem_nil mem).elim⟩
  induction h with
  | idle | settled | left | absent | finished => exact .still id
  | touch touches => exact .still fun mem => touches.of_mem_journal mem rfl
  | asks _ ih => exact ih stacked (below.1 _ _ (List.mem_singleton.2 rfl)) trivial
  | @states a s text role uses =>
    have touches : p.Touches a s (s.write (some a.rootId) text role uses) := .write ..
    exact .still fun mem => touches.of_mem_journal mem rfl
  | follows _ ih => exact ih stacked (below.2 _ (List.mem_singleton.2 rfl)) trivial
  | append first second ih ih' =>
    have same := first.extends.resolving stacked.started
    refine (ih stacked ⟨?_, ?_⟩ trivial).trans
      (ih' (stacked.of_extends first.extends) ?_ trivial) second.extends
    · exact fun port v mem => below.1 port v (List.mem_append_left _ mem)
    · exact fun port mem => below.2 port (List.mem_append_left _ mem)
    · rw [same]
      exact ⟨fun port v mem => below.1 port v (List.mem_append_right _ mem),
        fun port mem => below.2 port (List.mem_append_right _ mem)⟩
  | block _ _ ih => exact ih ⟨stacked.started, stacked.flowless⟩ below trivial
  | unwired | parameter | unled => exact .note rfl
  | refused _ _ _ ih | stopped _ _ _ ih =>
    exact (ih (stacked.note _) quiet trivial).of_note rfl
  | @onward a b port q w n v s s₁ s' _ next inner rest ih ih' =>
    have same : s₁.resolving = s.resolving := inner.extends.resolving (stacked.note _).started
    have under : p.Under s₁.resolving b q := by
      rw [same]
      exact fun c r resolves => below c r (.onward next resolves)
    have onward := ih' ((stacked.note _).of_extends inner.extends) under trivial
    exact ((ih (stacked.note _) quiet trivial).trans onward rest.extends).of_note rfl
  | @own a port w n kind s s' wire kindOf own other inner ih =>
    have hk := kindAt?_of_node? (linked.placed.node?_feeding wire) kindOf
    have found : p.Resolves a port (some ⟨a.sibling n.id, w.sourcePort⟩) :=
      .found (look_own wire kindOf own other)
    have settled := ih ((stacked.note _).note _) ⟨hk, below _ _ found⟩ (List.mem_cons_self ..)
    exact (settled.of_note rfl).of_note rfl
  | @cyclic a kind s started resolving =>
    have cyclic : TransGen p.Depends a a := below.2 (stacked.flowless a resolving) a resolving
    intro b mem
    rcases List.mem_append.1 mem with mem' | mem'
    · obtain ⟨line, -, heq⟩ := List.mem_map.1 mem'
      cases heq
    · rcases List.mem_cons.1 mem' with heq | old
      · cases heq
        exact .inr ⟨List.mem_append_right _ (List.mem_cons_of_mem _ noted), cyclic⟩
      · exact .inl old
  | @compiled a kind s s' fresh lazy inner ih =>
    have flowless : p.Flowless a := ⟨kind, below.1, by simpa [Kind.isLazy] using lazy⟩
    refine ih ⟨fun b mem => ?_, fun b mem => ?_⟩ (fun r mem => ?_) trivial
    · rcases mem_addNew.1 mem with mem | rfl
      · exact mem_addNew.2 (.inl (stacked.started b mem))
      · exact mem_addNew.2 (.inr rfl)
    · rcases mem_addNew.1 mem with mem | rfl
      · exact stacked.flowless b mem
      · exact flowless
    · rcases mem_addNew.1 mem with mem | rfl
      · exact (below.2 flowless r mem).to_reflTransGen
      · exact .refl
  | through _ _ inner rest ih ih' =>
    have same := inner.extends.resolving (stacked.note _).started
    have onward := ih' ((stacked.note _).of_extends inner.extends) (same.trans below) trivial
    exact ((ih (stacked.note _) quiet trivial).trans onward rest.extends).of_note rfl
  | arrive _ _ ih => exact (ih (stacked.note _) below trivial).of_note rfl
  | unknown _ _ _ ih => exact ih stacked quiet trivial
  | again =>
    refine .still fun mem => ?_
    rcases List.mem_cons.1 mem with heq | mem
    · cases heq
    · rcases List.mem_cons.1 mem with heq | mem
      · cases heq
      · exact mem
  | @compile cause a n kind ms s _ s' reached node kindOf _ script _ _ _ ih =>
    have hk := kindAt?_of_node? node kindOf
    have begun : p.Stacked (s.begin a cause kind) := by
      constructor
      · rw [Pass.started_begin, Pass.resolving_begin]
        exact stacked.started
      · rw [Pass.resolving_begin]
        exact stacked.flowless
    have inner := script.below linked hk (reached linked.placed) below
    intro b mem
    rcases ih begun (by rwa [Pass.resolving_begin]) trivial b mem with mem | found
    · exact .inl (Pass.mem_of_mem_begin mem rfl)
    · exact .inr found
  | entry first rest ih ih' =>
    have same := first.extends.resolving stacked.started
    exact (ih stacked below trivial).trans
      (ih' (stacked.of_extends first.extends) (same.trans below) trivial) rest.extends

/-- In a finished pass of a linked program, a cyclic value is reported if and only if some value
that is asked for leads into a cycle of dependencies, and every value that is reported lies on one.
-/
theorem Ends.cyclicValue_iff {s : Pass} (h : p.Ends s) (linked : p.Linked) :
    ((∃ a, .problem a .cyclicValue ∈ s.journal) ↔
      ∃ a c, .demanded a ∈ s.journal ∧ ReflTransGen p.Depends a c ∧ TransGen p.Depends c c) ∧
    ∀ a, .problem a .cyclicValue ∈ s.journal → TransGen p.Depends a a := by
  have stacked : p.Stacked {} :=
    ⟨fun _ mem => (List.not_mem_nil mem).elim, fun _ mem => (List.not_mem_nil mem).elim⟩
  have reported : ∀ {a}, .problem a .cyclicValue ∈ s.journal →
      .demanded a ∈ s.journal ∧ TransGen p.Depends a a := by
    intro a mem
    rcases h.performs.reportsCycles linked stacked rfl trivial a mem with mem | found
    · cases mem
    · exact found
  refine ⟨⟨fun ⟨a, mem⟩ => ?_, fun ⟨a, c, demanded, reaches, cyclic⟩ => ?_⟩, fun a mem => ?_⟩
  · obtain ⟨demanded, cyclic⟩ := reported mem
    exact ⟨a, a, demanded, .refl, cyclic⟩
  · -- without a report all that was asked for is grounded
    by_contra none
    have acyclic : s.Acyclic := fun b mem => none ⟨b, mem⟩
    have left := h.performs.grounded linked acyclic fun _ mem => by cases mem
    rcases left.demanded demanded with mem | grounded
    · cases mem
    · exact grounded.not_cyclic reaches cyclic
  · exact (reported mem).2

end Program

namespace Sample

/-- Links that can be checked: modules without two inputs or two outputs of one name, and calls with
just the ports of their modules, in the same order. -/
theorem linked_of_checks {p : Program} (lang : p.lang = language)
    (built : ∀ g ∈ p.graphs, ∃ name edits, g = Graph.session language name edits ∧
      ∀ e ∈ edits, e.isRetag = false)
    (sides : ∀ g ∈ p.library.values, ∀ n ∈ g.nodes.values, ∀ m ∈ g.nodes.values,
      n.isInput ∧ m.isInput ∨ n.isOutput ∧ m.isOutput → n.text? "name" = m.text? "name" → n = m)
    (inputs : ∀ g ∈ p.graphs, ∀ n ∈ g.nodes.values, p.kind? n = some .moduleCall →
      n.inputs.entries =
        ((p.callPorts n).filter (·.direction = .input)).map fun q => (q.key, q))
    (outputs : ∀ g ∈ p.graphs, ∀ n ∈ g.nodes.values, p.kind? n = some .moduleCall →
      n.outputs.entries =
        ((p.callPorts n).filter (·.direction = .output)).map fun q => (q.key, q)) :
    p.Linked := by
  refine ⟨⟨Pattern.reader, core, surface, {}, by rw [lang]; exact load_eq⟩, by rwa [lang],
    fun g hg n hn m hm _ sideN sideM name name' =>
      sides g hg n hn m hm (.inl ⟨sideN, sideM⟩) (name.trans name'.symm),
    fun g hg n hn m hm _ sideN sideM name name' =>
      sides g hg n hn m hm (.inr ⟨sideN, sideM⟩) (name.trans name'.symm),
    fun g hg n hn hk => ⟨fun port => ?_, fun port => ?_⟩⟩
  · rw [Node.input?, OrderedMap.get?_eq_some_iff, inputs g hg n hn hk]
    simp
  · rw [Node.output?, OrderedMap.get?_eq_some_iff, outputs g hg n hn hk]
    simp

/-- The edits that make a function which prints a number that is computed from a number that is
computed from it. -/
def circledEdits : List Edit := [
  .create .empty "Function" .empty,
  .create .empty "print" .empty,
  .create .empty "twice" .empty,
  .create .empty "twice" .empty,
  .create .empty "twice" .empty,
  .connect ⟨1, "fout", 2, "fin"⟩,
  .connect ⟨3, "result", 2, "value"⟩,
  .connect ⟨4, "result", 3, "value"⟩,
  .connect ⟨5, "result", 4, "value"⟩,
  .connect ⟨4, "result", 5, "value"⟩]

def circled : Program where
  lang := language
  root := Graph.session language "main" circledEdits

theorem circled_linked : circled.Linked := by
  refine linked_of_checks rfl (fun g hg => ?_) (by decide +kernel) (by decide +kernel)
    (by decide +kernel)
  cases List.mem_singleton.1 hg
  exact ⟨"main", circledEdits, rfl, by simp [circledEdits, Edit.isRetag]⟩

theorem circled_isSome : (circled.runWith? 20).isSome = true := by
  decide +kernel

/-- How the program is compiled. -/
def circledPass : Pass := (circled.runWith? 20).get circled_isSome

theorem circled_ends : circled.Ends circledPass :=
  ⟨20, (Option.some_get _).symm⟩

/-- The number that is printed leads into a cycle but does not lie on it: the two numbers after it
do, and the first of them is reported. -/
theorem cyclicValue_iff_circled :
    .problem ⟨[], 4⟩ .cyclicValue ∈ circledPass.journal ∧
      TransGen circled.Depends ⟨[], 4⟩ ⟨[], 4⟩ ∧
      (∃ a c, .demanded a ∈ circledPass.journal ∧ ReflTransGen circled.Depends a c ∧
        TransGen circled.Depends c c) ∧
      ¬ ∃ a c, .demanded a ∈ scatteredPass.journal ∧ ReflTransGen scattered.Depends a c ∧
        TransGen scattered.Depends c c := by
  have reported : .problem ⟨[], 4⟩ .cyclicValue ∈ circledPass.journal := by decide +kernel
  have quiet : (scatteredPass.journal.all fun e => !e.isProblem) = true := by decide +kernel
  obtain ⟨reports, onCycle⟩ := circled_ends.cyclicValue_iff circled_linked
  refine ⟨reported, onCycle _ reported, reports.1 ⟨_, reported⟩, fun cyclic => ?_⟩
  obtain ⟨a, mem⟩ := (scattered_ends.cyclicValue_iff scattered_linked).1.2 cyclic
  rw [List.all_eq_true] at quiet
  cases quiet _ mem

end Sample

end FlowScript
