import FlowScript.Proofs.Cycles
import FlowScript.Proofs.Exits

/-!
# The way of the flow

The way that the flow takes through the graphs, told without a pass: from node to node, depth first,
each node once.  What is asked for along the way matters only where a branch or a loop is entered,
and there only whether a value is found.  A pass reaches the same nodes in the same order.

* `Program.ways`: the flow outputs that lead on from a node, in order;
* `Program.flowAlong?`, `Program.flowInto?`, `Program.flowOrder?`: the way of the flow, in a bounded
  number of steps;
* `Yields`: what a bounded computation gives if the bound is large enough;
* `Program.Performs.flows`: a pass takes the way of the flow.
-/

namespace FlowScript

/-! ### Enough fuel -/

/-- With enough fuel a computation gives a result. -/
def Yields {α : Type} (f : Nat → Option α) (x : α) : Prop :=
  ∃ least, ∀ fuel ≥ least, f fuel = some x

namespace Yields

variable {α β : Type} {f g : Nat → Option α} {x y : α}

theorem const (x : α) : Yields (fun _ => some x) x := ⟨0, fun _ _ => rfl⟩

theorem unique (h : Yields f x) (h' : Yields f y) : x = y := by
  obtain ⟨least, h⟩ := h
  obtain ⟨least', h'⟩ := h'
  have hx := h (max least least') (Nat.le_max_left ..)
  have hy := h' (max least least') (Nat.le_max_right ..)
  exact Option.some.inj (hx.symm.trans hy)

theorem congr (h : Yields f x) (same : ∀ fuel, f (fuel + 1) = g (fuel + 1)) : Yields g x := by
  obtain ⟨least, h⟩ := h
  refine ⟨least + 1, fun fuel more => ?_⟩
  obtain ⟨fuel, rfl⟩ : ∃ n, fuel = n + 1 := ⟨fuel - 1, by omega⟩
  rw [← same]
  exact h _ (by omega)

theorem step (h : Yields f x) (next : ∀ fuel, g (fuel + 1) = f fuel) : Yields g x := by
  obtain ⟨least, h⟩ := h
  refine ⟨least + 1, fun fuel more => ?_⟩
  obtain ⟨fuel, rfl⟩ : ∃ n, fuel = n + 1 := ⟨fuel - 1, by omega⟩
  rw [next]
  exact h _ (by omega)

theorem bind {k : Nat → α → Option β} {z : β} (h : Yields f x)
    (hk : Yields (fun fuel => k fuel x) z) : Yields (fun fuel => f fuel >>= k fuel) z := by
  obtain ⟨least, h⟩ := h
  obtain ⟨least', hk⟩ := hk
  refine ⟨max least least', fun fuel more => ?_⟩
  have first := h fuel (by omega)
  simp only [first, Option.bind_eq_bind, Option.bind_some]
  exact hk fuel (by omega)

theorem foldlM_append {k : Nat → β → α → Option β} {l l' : List α} {b b' b'' : β}
    (h : Yields (fun fuel => l.foldlM (k fuel) b) b')
    (h' : Yields (fun fuel => l'.foldlM (k fuel) b') b'') :
    Yields (fun fuel => (l ++ l').foldlM (k fuel) b) b'' := by
  simp only [List.foldlM_append]
  exact h.bind h'

end Yields

namespace Program

/-! ### The way, read off the graphs -/

/-- Whether a value is found at any of some inputs. -/
def anyFound? (p : Program) (fuel : Nat) (a : Address) : List String → Option Bool
  | [] => some false
  | port :: ports => do
    let found ← Next.chase? p.look fuel a port
    let others ← p.anyFound? fuel a ports
    return found.isSome || others

/-- Whether the arms of a node are entered: those of a branch and of a loop under a condition if the
condition is found, those of a loop over ranges if any range is. -/
def opened? (p : Program) (fuel : Nat) (a : Address) (n : Node) : Kind → Option Bool
  | .branch | .whileLoop => p.anyFound? fuel a ["inValue"]
  | .forLoop => p.anyFound? fuel a (n.inputs.keys.filter (isSlot "range"))
  | _ => some true

/-- The flow outputs that lead on from a node, in the order in which the flow takes them. -/
def ways (p : Program) (a : Address) (opened : Bool) : Kind → List String
  | .topLevelCode | .definition | .code | .assignment | .call _ true => [flowOutKey]
  | .sequence =>
    ((p.graphAt? a.path).elim [] (·.connectedExits a.id)).map (slotKey "out") ++ [flowOutKey]
  | .branch => (if opened then ["then", "else"] else []) ++ [flowOutKey]
  | .whileLoop | .forLoop => (if opened then ["body"] else []) ++ [flowOutKey]
  | _ => []

/-- The flow goes into a node and along its ways, unless it has seen the node.  Only nodes that the
flow has to reach are seen. -/
def flowInto? (p : Program) (along : Address → List Address → String → Option (List Address))
    (fuel : Nat) (seen : List Address) (a : Address) : Option (List Address) :=
  match p.node? a with
  | none => some seen
  | some n =>
    match p.kind? n with
    | none => some seen
    | some kind =>
      if kind.hasFlowIn ∧ a ∈ seen then some seen
      else do
        let opened ← p.opened? fuel a n kind
        (p.ways a opened kind).foldlM (along a) (if kind.hasFlowIn then seen ++ [a] else seen)

/-- The flow goes on from an output. -/
def flowAlong? (p : Program) : Nat → Address → List Address → String → Option (List Address)
  | 0, _, _, _ => none
  | fuel + 1, a, seen, port =>
    match p.ahead a port with
    | .nothing => some seen
    | .onward b q => p.flowAlong? fuel b seen q
    | .found b => p.flowInto? (p.flowAlong? fuel) fuel seen b

/-- The nodes that the flow reaches from the entries of the program, in order. -/
def flowOrder? (p : Program) (fuel : Nat) : Option (List Address) :=
  p.entries.foldlM (p.flowInto? (p.flowAlong? fuel) fuel) []

variable {p : Program}

theorem Resolves.yields {a : Address} {port : String} {v : Option Producer}
    (h : p.Resolves a port v) : Yields (fun fuel => Next.chase? p.look fuel a port) v := by
  obtain ⟨least, h⟩ := h
  exact ⟨least, fun fuel more => Next.chase?_mono more h⟩

theorem yields_anyFound {a : Address} {answers : List (String × Option Producer)}
    (found : ∀ x ∈ answers, p.Resolves a x.1 x.2) :
    Yields (fun fuel => p.anyFound? fuel a (answers.map Prod.fst))
      (answers.any fun x => x.2.isSome) := by
  induction answers with
  | nil => exact .const false
  | cons x answers ih =>
    have first := (found x (List.mem_cons_self ..)).yields
    have others := ih fun y hy => found y (List.mem_cons_of_mem x hy)
    exact first.bind (others.bind (.const _))

/-! ### The outputs that are followed -/

namespace Linked

theorem sound (h : p.Linked) {g : Graph} (hg : g ∈ p.graphs) : g.Sound p.lang := by
  obtain ⟨name, edits, rfl, -⟩ := h.built g hg
  exact Graph.sound_session ..

theorem exitsOnly (h : p.Linked) {g : Graph} (hg : g ∈ p.graphs) : g.ExitsOnly p.lang := by
  obtain ⟨name, edits, rfl, plain⟩ := h.built g hg
  exact Graph.exitsOnly_session _ _ plain

/-- The arms of a node are entered if the flow finds what the node finds. -/
theorem yields_opened (linked : p.Linked) {a : Address} {n : Node} {kind : Kind}
    (node : p.node? a = some n) (hk : p.kind? n = some kind)
    {answers : List (String × Option Producer)} (found : ∀ x ∈ answers, p.Resolves a x.1 x.2)
    (all : kind ≠ .assignment → answers.map Prod.fst = p.askList n kind) :
    ∃ opened, Yields (fun fuel => p.opened? fuel a n kind) opened ∧
      n.exits kind (answers.any fun x => x.2.isSome) = n.exits kind opened := by
  have any := yields_anyFound found
  cases kind with
  | branch | whileLoop =>
    rw [all (by simp)] at any
    exact ⟨_, any, rfl⟩
  | forLoop =>
    obtain ⟨g, hg, hn⟩ := Option.bind_eq_some_iff.1 node
    rw [all (by simp), askList, ← (linked.sound (graphAt?_mem hg)).ranges_eq hn hk] at any
    exact ⟨_, any, rfl⟩
  -- no other node has arms, and its exits do not depend on what is found
  | _ => exact ⟨true, .const true, rfl⟩

/-- Nothing is wired to the outputs that are counted and not connected, and nothing to an output of
a sequence that is no exit. -/
theorem foldlM_ways (linked : p.Linked) {a : Address} {n : Node} {kind : Kind}
    (node : p.node? a = some n) (hk : p.kind? n = some kind) (opened : Bool) (fuel : Nat)
    (seen : List Address) :
    (p.ways a opened kind).foldlM (p.flowAlong? (fuel + 1) a) seen =
      (n.exits kind opened).foldlM (p.flowAlong? (fuel + 1) a) seen := by
  cases kind with
  | sequence =>
    obtain ⟨g, hg, hn⟩ := Option.bind_eq_some_iff.1 node
    have mem := graphAt?_mem hg
    -- the flow goes nowhere from an output without a wire
    have still : ∀ {port}, g.wireFrom? a.id port = none → ∀ seen,
        p.flowAlong? (fuel + 1) a seen port = some seen := by
      intro port none seen
      have unled : p.fedBy? a port = Option.none := by simp [fedBy?, hg, none]
      simp [flowAlong?, ahead, unled]
    have out : g.wireFrom? a.id flowOutKey = none :=
      (linked.exitsOnly mem).wireFrom?_eq_none (linked.wired mem) hn hk fun i =>
        (slotKey_ne (by decide) i).symm
    have counted : ∀ seen i, (if (g.wireFrom? a.id (slotKey "out" i)).isSome then
        p.flowAlong? (fuel + 1) a seen (slotKey "out" i) else pure seen) =
        p.flowAlong? (fuel + 1) a seen (slotKey "out" i) := by
      intro seen i
      split_ifs with connected
      · rfl
      · exact (still (by simpa using connected) seen).symm
    simp only [ways, hg, Option.elim_some, (linked.sound mem).connectedExits_eq hn hk, Node.exits,
      Node.arms, Kind.continuesFlow, List.foldlM_append, List.foldlM_map, List.foldlM_filter,
      counted, List.foldlM_cons, still out, List.foldlM_nil]
    rfl
  | call function sideEffect => cases sideEffect <;> rfl
  | _ => rfl

/-- The flow goes along the outputs that compiling a node follows. -/
theorem yields_into (linked : p.Linked) {a : Address} {n : Node} {kind : Kind} {ms : List Move}
    {seen seen' : List Address} (node : p.node? a = some n) (hk : p.kind? n = some kind)
    (fresh : kind.hasFlowIn = true → a ∉ seen) (script : p.Script a n kind (n.exits kind) ms)
    (found : ∀ port v, .ask port v ∈ ms → p.Resolves a port v)
    (along : Yields (fun fuel => (ms.filterMap Move.followed?).foldlM (p.flowAlong? fuel a)
      (if kind.hasFlowIn then seen ++ [a] else seen)) seen') :
    Yields (fun fuel => p.flowInto? (p.flowAlong? fuel) fuel seen a) seen' := by
  obtain ⟨answers, asked, all, follows⟩ := script.exists_answers
  obtain ⟨opened, yields, same⟩ := linked.yields_opened node hk
    (fun x hx => found x.1 x.2 (asked x hx)) all
  rw [follows, same] at along
  have into := yields.bind (k := fun fuel opened => (p.ways a opened kind).foldlM
    (p.flowAlong? fuel a) (if kind.hasFlowIn then seen ++ [a] else seen))
    (along.congr fun fuel => (linked.foldlM_ways node hk opened fuel _).symm)
  refine into.congr fun fuel => ?_
  have unseen : ¬ (kind.hasFlowIn = true ∧ a ∈ seen) := fun h => fresh h.1 h.2
  simp only [flowInto?, node, hk, if_neg unseen]

end Linked

/-! ### A pass takes the way of the flow -/

/-- How an activity changes what the flow has seen.  Asking for values changes nothing. -/
def Activity.Flows (p : Program) (seen seen' : List Address) : Activity → Prop
  | .ask _ _ _ | .settle _ _ | .visit .demand _ => seen' = seen
  | .visit _ a => Yields (fun fuel => p.flowInto? (p.flowAlong? fuel) fuel seen a) seen'
  | .follow a port => Yields (fun fuel => p.flowAlong? fuel a seen port) seen'
  | .entries as => Yields (fun fuel => as.foldlM (p.flowInto? (p.flowAlong? fuel) fuel) seen) seen'
  | .moves a ms =>
    Yields (fun fuel => (ms.filterMap Move.followed?).foldlM (p.flowAlong? fuel a) seen) seen'

namespace Activity.Flows

variable {a : Address} {seen seen' : List Address}

/-- Moves that follow nothing leave what the flow has seen. -/
theorem of_moves {ms : List Move} (h : (Activity.moves a ms).Flows p seen seen')
    (none : ms.filterMap Move.followed? = []) : seen' = seen := by
  simp only [Activity.Flows] at h
  rw [none] at h
  exact h.unique (.const seen)

theorem moves {ms : List Move} (none : ms.filterMap Move.followed? = []) (same : seen' = seen) :
    (Activity.moves a ms).Flows p seen seen' := by
  simp only [Activity.Flows]
  rw [none, same]
  exact .const seen

theorem visit {cause : Cause} (demand : cause = .demand → seen' = seen)
    (into : Yields (fun fuel => p.flowInto? (p.flowAlong? fuel) fuel seen a) seen') :
    (Activity.visit cause a).Flows p seen seen' := by
  cases cause with
  | demand => exact demand rfl
  | entry | flow => exact into

end Activity.Flows

@[simp] theorem visited_note (s : Pass) (e : Event) : (s.note e).visited = s.visited := rfl

@[simp] theorem visited_reportAt (s : Pass) (a : Address) (cause : Problem) :
    (s.reportAt p a cause).visited = s.visited := rfl

theorem Touches.visited {a : Address} {s s' : Pass} (h : p.Touches a s s') :
    s'.visited = s.visited := by
  cases h <;> rfl

/-- What the flow has seen once it has reached a node. -/
theorem visited_begin_of_fresh {s : Pass} {a : Address} {kind : Kind} (cause : Cause)
    (fresh : kind.hasFlowIn = true → a ∉ s.visited) :
    (s.begin a cause kind).visited =
      if kind.hasFlowIn then s.visited ++ [a] else s.visited := by
  rw [Pass.visited_begin]
  split_ifs with flow
  · rw [addNew, if_neg (fresh flow)]
  · rfl

/-- A pass takes the way of the flow, whatever values it asks for. -/
theorem Performs.flows (linked : p.Linked) {act : Activity} {s s' : Pass}
    (h : p.Performs act s s') : act.Flows p s.visited s'.visited := by
  induction h with
  | idle => exact .moves rfl rfl
  | touch touches => exact .moves rfl touches.visited
  | asks _ ih => exact .moves rfl ih
  | states => exact .moves rfl rfl
  | follows _ ih => exact ih.bind (.const _)
  | append _ _ ih ih' =>
    simp only [Activity.Flows] at *
    rw [List.filterMap_append]
    exact ih.foldlM_append ih'
  | block _ _ ih => exact ih
  | unwired | parameter | settled | cyclic | left => rfl
  | refused _ _ _ ih => exact ih.of_moves rfl
  | onward _ _ _ _ ih ih' => exact ih'.trans (ih.of_moves rfl)
  | own _ _ _ _ _ ih => exact ih
  | compiled _ _ _ ih => exact ih
  | unled wire => exact (Yields.const _).step fun fuel => by simp [flowAlong?, ahead, wire]
  | stopped _ next _ ih =>
    rw [ih.of_moves rfl]
    exact (Yields.const _).step fun fuel => by simp [flowAlong?, next]
  | through _ next _ _ ih ih' =>
    rw [ih.of_moves rfl] at ih'
    exact ih'.step fun fuel => by simp [flowAlong?, next]
  | arrive next _ ih => exact ih.step fun fuel => by simp [flowAlong?, next]
  | absent node =>
    exact .visit (fun _ => rfl) ((Yields.const _).congr fun fuel => by simp [flowInto?, node])
  | unknown node kind _ ih =>
    rw [ih.of_moves rfl]
    exact .visit (fun _ => rfl)
      ((Yields.const _).congr fun fuel => by simp [flowInto?, node, kind])
  | again node kindOf flowIn visited =>
    exact .visit (fun _ => rfl)
      ((Yields.const _).congr fun fuel => by simp [flowInto?, node, kindOf, flowIn, visited])
  | @compile cause a n kind ms s _ s' reached node kindOf fresh script _ _ inner ih =>
    have begun := visited_begin_of_fresh cause fresh
    refine .visit (fun demand => ?_) ?_
    · -- a value that is asked for follows nothing
      subst demand
      obtain ⟨kind', hk', value, noFlow⟩ := linked.reached_demand (reached linked.placed)
      have same : kind = kind' := by simpa [kindAt?, node, kindOf] using hk'
      subst same
      rw [ih.of_moves (script.followed_eq_nil value noFlow), begun, noFlow]
      rfl
    · simp only [Activity.Flows] at ih
      rw [begun] at ih
      exact linked.yields_into node kindOf fresh script inner.found ih
  | finished => exact .const _
  | entry _ _ ih ih' => exact ih.bind ih'

end Program

end FlowScript
