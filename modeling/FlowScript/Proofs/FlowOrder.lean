import FlowScript.Proofs.FlowWalk

/-!
# Flow nodes are compiled in the order of the flow

The journal of a pass names the nodes with a flow input in the order in which they are compiled.
That is the order of the flow through the graphs, and the statements of calls that have effects
stand in the text in this order too.

* `Program.flow`: the flow nodes that a pass has compiled, in order;
* `Program.Performs.tracks`: they are those that the flow has reached;
* `Program.Segment`, `Program.Performs.weaves`: what happens from one flow node to the next;
* `Program.Ends.flow_order`: the order of the flow, for a finished pass.
-/

namespace FlowScript

namespace Pass

/-! ### What happens between two states -/

/-- What happened between two states of a pass, in order. -/
def since (s s' : Pass) : List Event :=
  (s'.journal.take (s'.journal.length - s.journal.length)).reverse

variable {s s' s'' : Pass}

theorem since_eq {new : List Event} (h : s'.journal = new ++ s.journal) :
    s.since s' = new.reverse := by
  simp [since, h]

theorem since_trans (h : s.Extends s') (h' : s'.Extends s'') :
    s.since s'' = s.since s' ++ s'.since s'' := by
  obtain ⟨new, journal, -⟩ := h.grows
  obtain ⟨new', journal', -⟩ := h'.grows
  have whole : s''.journal = (new' ++ new) ++ s.journal := by
    rw [journal', journal, List.append_assoc]
  rw [since_eq journal, since_eq journal', since_eq whole, List.reverse_append]

theorem since_note (s : Pass) (e : Event) : s.since (s.note e) = [e] := by
  have journal : (s.note e).journal = [e] ++ s.journal := rfl
  rw [since_eq journal]
  rfl

theorem since_write (s : Pass) (owner : Option NodeId) (text : String) (role : LineRole)
    (uses : List Address) : s.since (s.write owner text role uses) =
      (s.block.linesOf owner ⟨text, uses⟩ role).map .wrote := by
  have journal : (s.write owner text role uses).journal =
    (s.block.linesOf owner ⟨text, uses⟩ role).reverse.map .wrote ++ s.journal := rfl
  rw [since_eq journal, List.map_reverse, List.reverse_reverse]

theorem since_begin (s : Pass) (a : Address) (cause : Cause) (kind : Kind) :
    s.since (s.begin a cause kind) =
      (if kind.hasFlowIn then [.arrived a] else []) ++ [.emitted a cause s.block.path] := by
  have journal : (s.begin a cause kind).journal = .emitted a cause s.block.path ::
      (if kind.hasFlowIn then [.arrived a] else []) ++ s.journal := by
    unfold begin
    cases kind.hasFlowIn <;> rfl
  rw [since_eq journal]
  cases kind.hasFlowIn <;> rfl

end Pass

namespace Program

/-- The occurrence that an event tells to be compiled, if the flow has to reach it. -/
def flowOf? (p : Program) : Event → Option Address
  | .emitted a _ _ => if (p.kindAt? a).any Kind.hasFlowIn then some a else none
  | _ => none

/-- The flow nodes that were compiled, in order. -/
def flow (p : Program) (s : Pass) : List Address := (s.journal.filterMap p.flowOf?).reverse

variable {p : Program} {s s' : Pass} {a : Address}

/-- No flow node is compiled. -/
def Calm (p : Program) (es : List Event) : Prop := es.filterMap p.flowOf? = []

theorem Calm.append {es es' : List Event} (h : p.Calm es) (h' : p.Calm es') :
    p.Calm (es ++ es') := by
  rw [Calm, List.filterMap_append, h, h', List.append_nil]

theorem calm_wrote (lines : List Line) : p.Calm (lines.map Event.wrote) := by
  simp [Calm, List.filterMap_eq_nil_iff, flowOf?]

theorem calm_arrived (a : Address) : p.Calm [.arrived a] := rfl

theorem flow_since (h : s.Extends s') :
    p.flow s' = p.flow s ++ (s.since s').filterMap p.flowOf? := by
  obtain ⟨new, journal, -⟩ := h.grows
  rw [Pass.since_eq journal, flow, flow, journal, List.filterMap_append, List.reverse_append,
    List.filterMap_reverse]

theorem flow_eq_of_calm (h : s.Extends s') (calm : p.Calm (s.since s')) : p.flow s' = p.flow s := by
  rw [flow_since h, calm, List.append_nil]

/-! ### What is compiled is what the flow has reached -/

theorem flow_note {e : Event} (none : p.flowOf? e = none) : p.flow (s.note e) = p.flow s := by
  simp [flow, Pass.note, none]

theorem flow_begin {kind : Kind} (cause : Cause) (kindAt : p.kindAt? a = some kind) :
    p.flow (s.begin a cause kind) = if kind.hasFlowIn then p.flow s ++ [a] else p.flow s := by
  rw [flow_since (.begin ..), Pass.since_begin]
  cases flowIn : kind.hasFlowIn <;> simp [flowOf?, kindAt, flowIn, List.filterMap_cons]

theorem Touches.flow_eq (h : p.Touches a s s') : p.flow s' = p.flow s := by
  cases h with
  | imports | main | process | keep => rfl
  | report => exact flow_note rfl
  | write =>
    refine flow_eq_of_calm (.write ..) ?_
    rw [Pass.since_write]
    exact calm_wrote _
  | reference => exact flow_note rfl

/-- As the flow reaches nodes, they are compiled, each once. -/
structure Tracks (p : Program) (s s' : Pass) : Prop where
  reached : ∃ more, s'.visited = s.visited ++ more ∧ p.flow s' = p.flow s ++ more
  distinct : s.visited.Nodup → s'.visited.Nodup

theorem Tracks.still (visited : s'.visited = s.visited) (flow : p.flow s' = p.flow s) :
    p.Tracks s s' := by
  constructor
  · exact ⟨[], by rw [visited, List.append_nil], by rw [flow, List.append_nil]⟩
  · rw [visited]
    exact id

theorem Tracks.trans {s'' : Pass} (h : p.Tracks s s') (h' : p.Tracks s' s'') : p.Tracks s s'' := by
  obtain ⟨more, visited, flow⟩ := h.reached
  obtain ⟨more', visited', flow'⟩ := h'.reached
  refine ⟨⟨more ++ more', ?_, ?_⟩, fun distinct => h'.distinct (h.distinct distinct)⟩
  · rw [visited', visited, List.append_assoc]
  · rw [flow', flow, List.append_assoc]

theorem Change.tracks (h : p.Change s s') : p.Tracks s s' := by
  cases h with
  | touch _ touches => exact .still touches.visited touches.flow_eq
  | @note _ e step =>
    have other : p.flowOf? e = none := by cases e <;> first | rfl | cases step
    exact .still rfl (flow_note other)
  | report => exact .still rfl (flow_note rfl)
  | @begin a s cause kind kindAt fresh =>
    have visited := visited_begin_of_fresh cause fresh
    have flow := flow_begin (s := s) cause kindAt
    cases flowIn : kind.hasFlowIn with
    | false =>
      simp only [flowIn, Bool.false_eq_true, if_false] at visited flow
      exact .still visited flow
    | true =>
      simp only [flowIn, if_true] at visited flow
      refine ⟨⟨[a], visited, flow⟩, fun distinct => ?_⟩
      rw [visited]
      exact List.nodup_append.2 ⟨distinct, List.nodup_singleton a, by
        rintro b hb c hc rfl
        cases List.mem_singleton.1 hc
        exact fresh flowIn hb⟩
  | require | openBlock | closeBlock | start | stop => exact .still rfl rfl

theorem Performs.tracks {act : Activity} (h : p.Performs act s s') (there : act.There p) :
    p.Tracks s s' :=
  h.keeps (fun change tracks => tracks.trans change.tracks) there (.still rfl rfl)

/-- Where the flow reaches nothing, no flow node is compiled. -/
theorem Performs.calm {act : Activity} (h : p.Performs act s s') (there : act.There p)
    (same : s'.visited = s.visited) : p.Calm (s.since s') := by
  obtain ⟨more, visited, flow⟩ := (h.tracks there).reached
  have none : more = [] := by simpa [same] using visited
  rw [flow_since h.extends, none] at flow
  exact List.append_cancel_left flow

/-! ### From one flow node to the next -/

/-- What happens from the compilation of a flow node to that of the next one.  If the node is a
call, its statement is written. -/
structure Segment (p : Program) (a : Address) (es : List Event) : Prop where
  starts : ∃ cause block, es.head? = some (.emitted a cause block)
  alone : es.filterMap p.flowOf? = [a]
  states : ∀ {function}, p.kindAt? a = some (.call function true) →
    ∃ f b text role uses, p.lang.functions.get? function = some f ∧ StatementOf f a text ∧
      (Block.linesOf b (some a.rootId) ⟨text, uses⟩ role).map .wrote <:+: es

theorem Segment.of_emitted {cause : Cause} {block : List Nat} {rest : List Event}
    (own : p.flowOf? (.emitted a cause block) = some a) (calm : p.Calm rest)
    (states : ∀ {function}, p.kindAt? a = some (.call function true) →
      ∃ f b text role uses, p.lang.functions.get? function = some f ∧ StatementOf f a text ∧
        (Block.linesOf b (some a.rootId) ⟨text, uses⟩ role).map .wrote <:+: rest) :
    p.Segment a (.emitted a cause block :: rest) := by
  refine ⟨⟨cause, block, rfl⟩, ?_, fun hk => ?_⟩
  · rw [List.filterMap_cons, own, calm]
  · obtain ⟨f, b, text, role, uses, hf, statement, inside⟩ := states hk
    have inside := inside.trans (List.suffix_cons (.emitted a cause block) rest).isInfix
    exact ⟨f, b, text, role, uses, hf, statement, inside⟩

theorem Segment.append {es es' : List Event} (h : p.Segment a es) (calm : p.Calm es') :
    p.Segment a (es ++ es') := by
  obtain ⟨cause, block, first⟩ := h.starts
  refine ⟨⟨cause, block, ?_⟩, ?_, fun hk => ?_⟩
  · rw [List.head?_append, first, Option.some_or]
  · rw [List.filterMap_append, h.alone, calm, List.append_nil]
  · obtain ⟨f, b, text, role, uses, hf, statement, inside⟩ := h.states hk
    have inside := inside.trans (List.prefix_append es es').isInfix
    exact ⟨f, b, text, role, uses, hf, statement, inside⟩

/-- A course of events in which flow nodes are compiled one after the other, each with its
statement. -/
inductive Woven (p : Program) : List Event → Prop
  | calm {es : List Event} (h : p.Calm es) : Woven p es
  | node {a : Address} {before own rest : List Event} (quiet : p.Calm before)
      (segment : p.Segment a own) (woven : Woven p rest) : Woven p (before ++ (own ++ rest))

namespace Woven

variable {es es' : List Event}

theorem after (h : p.Woven es') (calm : p.Calm es) : p.Woven (es ++ es') := by
  cases h with
  | calm h => exact .calm (calm.append h)
  | node quiet segment rest =>
    rw [← List.append_assoc]
    exact .node (calm.append quiet) segment rest

theorem append (h : p.Woven es) (h' : p.Woven es') : p.Woven (es ++ es') := by
  induction h with
  | calm h => exact h'.after h
  | node quiet segment _ ih =>
    rw [List.append_assoc, List.append_assoc]
    exact .node quiet segment ih

/-- The course of events falls into what happens before the first flow node and a segment for each
flow node. -/
theorem segments (h : p.Woven es) : ∃ front parts, es = front ++ parts.flatten ∧ p.Calm front ∧
    List.Forall₂ p.Segment (es.filterMap p.flowOf?) parts := by
  induction h with
  | @calm es h => exact ⟨es, [], by simp, h, by rw [h]; exact .nil⟩
  | @node a before own rest quiet segment _ ih =>
    obtain ⟨front, parts, rfl, calm, each⟩ := ih
    refine ⟨before, (own ++ front) :: parts, by simp, quiet, ?_⟩
    rw [List.filterMap_append, quiet, List.filterMap_append, segment.alone]
    exact .cons (segment.append calm) each

end Woven

/-- How the events during an activity are woven.  A statement is written before any flow output
after it is followed. -/
def Activity.Weaves (p : Program) (es : List Event) : Activity → Prop
  | .ask _ _ _ | .settle _ _ | .visit .demand _ => True
  | .visit _ _ | .follow _ _ | .entries _ => p.Woven es
  | .moves a ms => p.Woven es ∧ ∀ front text back, ms = front ++ .state text :: back →
      front.filterMap Move.followed? = [] → ∃ own rest b role uses, p.Calm own ∧ p.Woven rest ∧
        es = own ++ (Block.linesOf b (some a.rootId) ⟨text, uses⟩ role).map .wrote ++ rest

theorem Activity.Weaves.visit {cause : Cause} {es : List Event} (h : cause ≠ .demand → p.Woven es) :
    (Activity.visit cause a).Weaves p es := by
  cases cause with
  | demand => trivial
  | entry | flow => exact h (by simp)

/-- Moves that state nothing. -/
theorem Activity.Weaves.moves {ms : List Move} {es : List Event} (h : p.Woven es)
    (none : ∀ text, .state text ∉ ms) : (Activity.moves a ms).Weaves p es := by
  refine ⟨h, ?_⟩
  rintro front text back rfl -
  exact absurd (by simp) (none text)

/-- A statement that is made in the second of two parts comes after what happens in the first, where
nothing is followed. -/
theorem Activity.Weaves.append {ms ms' : List Move} {es es' : List Event}
    (h : (Activity.moves a ms).Weaves p es) (h' : (Activity.moves a ms').Weaves p es')
    (calm : ms.filterMap Move.followed? = [] → p.Calm es) :
    (Activity.moves a (ms ++ ms')).Weaves p (es ++ es') := by
  obtain ⟨woven, stated⟩ := h
  obtain ⟨woven', stated'⟩ := h'
  refine ⟨woven.append woven', fun front text back heq none => ?_⟩
  have later : ∀ mid, front = ms ++ mid → ms' = mid ++ .state text :: back →
      ∃ own rest b role uses, p.Calm own ∧ p.Woven rest ∧ es ++ es' =
        own ++ (Block.linesOf b (some a.rootId) ⟨text, uses⟩ role).map .wrote ++ rest := by
    rintro mid rfl heq
    rw [List.filterMap_append, List.append_eq_nil_iff] at none
    obtain ⟨own, rest, b, role, uses, quiet, woven, events⟩ := stated' mid text back heq none.2
    exact ⟨es ++ own, rest, b, role, uses, (calm none.1).append quiet, woven, by
      rw [events, List.append_assoc, List.append_assoc, List.append_assoc]⟩
  rcases List.append_eq_append_iff.1 heq with ⟨mid, start, tail⟩ | ⟨mid, start, tail⟩
  · exact later mid start tail
  · cases mid with
    | nil => exact later [] (by simpa using start.symm) tail.symm
    | cons m mid =>
      cases tail
      obtain ⟨own, rest, b, role, uses, quiet, woven, events⟩ := stated front text mid start none
      exact ⟨own, rest ++ es', b, role, uses, quiet, woven.append woven', by
        rw [events, List.append_assoc]⟩

/-- Compiling a flow node opens a segment, which for a call reaches to its statement; what the flow
does then is woven by itself.  Other nodes open none. -/
theorem Activity.Weaves.of_script (linked : p.Linked) {n : Node} {kind : Kind} {ms : List Move}
    {es : List Event} {cause : Cause} {block : List Nat} (h : (Activity.moves a ms).Weaves p es)
    (node : p.node? a = some n) (kindOf : p.kind? n = some kind)
    (script : p.Script a n kind (n.exits kind) ms) :
    p.Woven ((if kind.hasFlowIn then [.arrived a] else []) ++ [.emitted a cause block] ++ es) := by
  have hk := kindAt?_of_node? node kindOf
  obtain ⟨woven, stated⟩ := h
  cases flowIn : kind.hasFlowIn with
  | false =>
    refine woven.after ?_
    simp [Calm, flowOf?, hk, flowIn]
  | true =>
    have own : p.flowOf? (.emitted a cause block) = some a := by simp [flowOf?, hk, flowIn]
    by_cases call : ∃ function, kind = .call function true
    · obtain ⟨function, rfl⟩ := call
      obtain ⟨f, hf⟩ := linked.function hk
      obtain ⟨front, text, back, heq, none, statement⟩ := script.exists_statement hf
      obtain ⟨asked, rest, b, role, uses, calm, woven, events⟩ := stated front text back heq none
      have segment : p.Segment a (.emitted a cause block ::
          (asked ++ (b.linesOf (some a.rootId) ⟨text, uses⟩ role).map .wrote)) := by
        refine .of_emitted own (calm.append (calm_wrote _)) fun hk' => ?_
        rw [hk] at hk'
        cases hk'
        exact ⟨f, b, text, role, uses, hf, statement, (List.suffix_append ..).isInfix⟩
      rw [events]
      simpa using Woven.node (calm_arrived a) segment woven
    · have segment : p.Segment a [.emitted a cause block] := by
        refine .of_emitted own rfl fun hk' => ?_
        rw [hk] at hk'
        cases hk'
        exact absurd ⟨_, rfl⟩ call
      simpa using Woven.node (calm_arrived a) segment woven

/-- Flow nodes are compiled one after the other, each with its statement. -/
theorem Performs.weaves (linked : p.Linked) {act : Activity} (h : p.Performs act s s')
    (there : act.There p) : act.Weaves p (s.since s') := by
  induction h with
  | idle => exact .moves (.calm (Performs.idle.calm there rfl)) (by simp)
  | touch touches =>
    exact .moves (.calm ((Performs.touch touches).calm there touches.visited)) (by simp)
  | asks inner =>
    exact .moves (.calm (inner.calm trivial (inner.flows linked))) (by simp)
  | @states a s text role uses =>
    have lines := s.since_write (some a.rootId) text role uses
    refine ⟨.calm (by rw [lines]; exact calm_wrote _), fun front text' back heq none => ?_⟩
    cases front with
    | cons m front => simp at heq
    | nil =>
      cases heq
      exact ⟨[], [], s.block, role, uses, rfl, .calm rfl, by simpa using lines⟩
  | follows _ ih => exact .moves (ih trivial) (by simp)
  | append first second ih ih' =>
    rw [Pass.since_trans first.extends second.extends]
    exact (ih there).append (ih' there) fun none =>
      first.calm there ((first.flows linked).of_moves none)
  | block _ _ ih => exact ih there
  -- nothing is claimed where values are asked for: the flow reaches nothing there
  | unwired | refused | onward | parameter | own | settled | cyclic | left | compiled => trivial
  | unled wire => exact Woven.calm ((Performs.unled wire).calm trivial rfl)
  | stopped wire next inner _ =>
    exact Woven.calm ((Performs.stopped wire next inner).calm trivial
      ((inner.flows linked).of_moves rfl))
  | @through a _ port _ _ n s _ _ wire _ inner rest _ ih' =>
    have sibling : p.There (a.sibling n.id) := fun placed => ⟨n, placed.node?_fedBy wire⟩
    have before := inner.calm sibling ((inner.flows linked).of_moves rfl)
    have onward : p.Woven _ := ih' trivial
    rw [Pass.since_trans (.note s rfl rfl) (inner.extends.trans rest.extends), Pass.since_note,
      Pass.since_trans inner.extends rest.extends]
    exact (onward.after before).after rfl
  | @arrive a _ port s _ _ inner ih =>
    have onward : p.Woven _ := ih trivial
    rw [Pass.since_trans (.note s rfl rfl) inner.extends, Pass.since_note]
    exact onward.after rfl
  | @absent cause a s node =>
    have whole : p.Performs (.visit cause a) s s := .absent node
    exact .visit fun _ => .calm (whole.calm trivial rfl)
  | @unknown cause a _ s s' node kind inner _ =>
    have whole : p.Performs (.visit cause a) s s' := .unknown node kind inner
    exact .visit fun _ => .calm (whole.calm trivial ((inner.flows linked).of_moves rfl))
  | @again cause a _ _ s node kindOf flowIn visited =>
    have whole : p.Performs (.visit cause a) s _ := .again node kindOf flowIn visited
    exact .visit fun _ => .calm (whole.calm trivial rfl)
  | @compile cause a n kind ms s _ s' reached node kindOf fresh script _ _ inner ih =>
    rw [Pass.since_trans (.begin ..) inner.extends, Pass.since_begin]
    exact .visit fun _ => (ih fun _ => ⟨n, node⟩).of_script linked node kindOf script
  | finished => exact Woven.calm (Performs.finished.calm trivial rfl)
  | entry first rest ih ih' =>
    rw [Pass.since_trans first.extends rest.extends]
    exact Woven.append (ih trivial) (ih' trivial)

/-- In a finished pass of a linked program the flow nodes are compiled in the order in which the
flow through the graphs reaches them, each once.  Asking for values compiles none, and from one flow
node to the next the statement of the first is written, if it is a call. -/
theorem Ends.flow_order (h : p.Ends s) (linked : p.Linked) :
    (∃ least, ∀ fuel ≥ least, p.flowOrder? fuel = some (p.flow s)) ∧
    (p.flow s).Nodup ∧
    (∀ fuel a port s₀ v s₁, p.Asks a port → (p.walk fuel).resolve a port s₀ = some (v, s₁) →
      p.flow s₁ = p.flow s₀) ∧
    s.body = s.journal.reverse.filterMap Event.line? ∧
    ∃ front parts, s.journal.reverse = front ++ parts.flatten ∧ p.Calm front ∧
      List.Forall₂ p.Segment (p.flow s) parts := by
  have performs := h.performs
  obtain ⟨⟨more, visited, flow⟩, distinct⟩ := performs.tracks trivial
  have reached : p.flow s = s.visited := by
    rw [visited, flow]
    rfl
  refine ⟨?_, ?_, fun fuel a port s₀ v s₁ asks run => ?_, ?_, ?_⟩
  · rw [reached]
    exact performs.flows linked
  · rw [reached]
    exact distinct List.nodup_nil
  · have asked := ((p.faithful_walk fuel).resolve (fun _ => asks) s₀).eq_some run
    exact flow_eq_of_calm asked.extends (asked.calm trivial (asked.flows linked))
  · rw [h.body_eq, List.filterMap_reverse]
  · have woven : p.Woven (({} : Pass).since s) := performs.weaves linked trivial
    have whole : ({} : Pass).since s = s.journal.reverse :=
      Pass.since_eq (by simp)
    rw [whole] at woven
    have segments := woven.segments
    rwa [List.filterMap_reverse] at segments

end Program

namespace Sample

/-- A module that prints. -/
def printerEdits : List Edit := [
  .create .empty "InputFlow" (OrderedMap.ofList [("name", .str "go")]),
  .create .empty "print" .empty,
  .create .empty "OutputFlow" (OrderedMap.ofList [("name", .str "done")]),
  .connect ⟨1, "output", 2, "fin"⟩,
  .connect ⟨2, "fout", 3, "input"⟩]

def printers : Library :=
  OrderedMap.ofList [("printer", Graph.session language "printer" printerEdits)]

/-- The edits that make a sequence whose last exit is wired first and whose second exit not at all.
The first leads to a branch without a condition, which goes on to print what is read much later; the
last leads through a module to the reading. -/
def stagedEdits : List Edit := [
  .create .empty "Function" .empty,
  .create .empty "Sequence" (OrderedMap.ofList [("numExits", .str "3")]),
  .create .empty "If" .empty,
  .create .empty "print" .empty,
  .create .empty "print" .empty,
  .create printers "Module" (OrderedMap.ofList [(moduleKey, .str "printer")]),
  .create .empty "read" .empty,
  .connect ⟨1, "fout", 2, "fin"⟩,
  .connect ⟨2, "out2", 6, "go"⟩,
  .connect ⟨2, "out0", 3, "fin"⟩,
  .connect ⟨3, "then", 4, "fin"⟩,
  .connect ⟨3, "fout", 5, "fin"⟩,
  .connect ⟨6, "done", 7, "fin"⟩,
  .connect ⟨7, "result", 5, "value"⟩]

def staged : Program where
  lang := language
  root := Graph.session language "main" stagedEdits
  library := printers

theorem staged_linked : staged.Linked := by
  refine linked_of_checks rfl (fun g hg => ?_) (by decide +kernel) (by decide +kernel)
    (by decide +kernel)
  rcases List.mem_cons.1 hg with rfl | hg
  · exact ⟨"main", stagedEdits, rfl, by simp [stagedEdits, Edit.isRetag]⟩
  · cases List.mem_singleton.1 hg
    exact ⟨"printer", printerEdits, rfl, by simp [printerEdits, Edit.isRetag]⟩

theorem staged_isSome : (staged.runWith? 20).isSome = true := by
  decide +kernel

/-- How the program is compiled. -/
def stagedPass : Pass := (staged.runWith? 20).get staged_isSome

theorem staged_ends : staged.Ends stagedPass :=
  ⟨20, (Option.some_get _).symm⟩

/-- The arm of the branch is passed over, and the flow goes through the module to the reading, which
is asked for before the flow reaches it. -/
theorem flow_order_staged :
    staged.Linked ∧ .demanded ⟨[], 7⟩ ∈ stagedPass.journal ∧
      (∃ least, ∀ fuel ≥ least, staged.flowOrder? fuel =
        some [⟨[], 2⟩, ⟨[], 3⟩, ⟨[], 5⟩, ⟨[6], 2⟩, ⟨[], 7⟩]) ∧
      ∃ front parts, stagedPass.journal.reverse = front ++ parts.flatten ∧
        List.Forall₂ staged.Segment [⟨[], 2⟩, ⟨[], 3⟩, ⟨[], 5⟩, ⟨[6], 2⟩, ⟨[], 7⟩] parts := by
  have order : staged.flow stagedPass = [⟨[], 2⟩, ⟨[], 3⟩, ⟨[], 5⟩, ⟨[6], 2⟩, ⟨[], 7⟩] := by
    decide +kernel
  have asked : .demanded ⟨[], 7⟩ ∈ stagedPass.journal := by decide +kernel
  obtain ⟨walk, -, -, -, front, parts, whole, -, segments⟩ := staged_ends.flow_order staged_linked
  rw [order] at walk segments
  exact ⟨staged_linked, asked, walk, front, parts, whole, segments⟩

end Sample

end FlowScript
