import FlowScript.Proofs.Once
import FlowScript.Proofs.Fuel
import Mathlib.Data.Finset.Card
import Mathlib.Logic.Relation
import Mathlib.Tactic.GCongr
import Mathlib.Tactic.Ring

/-!
# Every pass comes to an end

A pass looks back along the wires of values and forward along those of the flow.  Some of these
steps mark an occurrence, which happens twice at most to each of the finitely many occurrences; the
others are hops.  Where no chain of hops comes back to where it began, there are only so many hops
between two marks, and the fuel of a pass covers both.

* `Short`, `short_of_acyclic`: chains of hops have bounded length;
* `OnPath.length_le`: the places a pass can reach are finitely many, whatever modules call;
* `Program.unmarked`: how many marks are left to be made;
* `resolvesAt_walk`, `followsAt_walk`, `sound_within`: asking and following with enough fuel;
* `Program.needed_le_fuel`: the fuel of a pass is enough.
-/

namespace FlowScript

/-! ### Chains of hops -/

section Chains

variable {σ : Type} {hop : σ → σ → Prop}

/-- All chains of hops from a place have fewer hops than a number. -/
def Short (hop : σ → σ → Prop) : Nat → σ → Prop
  | 0, _ => False
  | n + 1, x => ∀ y, hop x y → Short hop n y

/-- The places from which a chain has come are all different, so there are never more of them than
places to hop from. -/
theorem short_of_seen [DecidableEq σ] {P : σ → Prop} {places : Finset σ}
    (closed : ∀ x y, P x → hop x y → P y) (mem : ∀ x y, P x → hop x y → x ∈ places)
    (acyclic : ∀ x, P x → ¬ Relation.TransGen hop x x) {n : Nat} (seen : Finset σ)
    (inside : seen ⊆ places) (room : places.card ≤ seen.card + n) {x : σ} (hx : P x)
    (reached : ∀ y ∈ seen, Relation.TransGen hop y x) : Short hop (n + 1) x := by
  -- on the room that is left: each hop uses up the place that it leaves
  induction n generalizing seen x with
  | zero =>
    intro y hxy
    have full : seen = places := Finset.eq_of_subset_of_card_le inside room
    have again : x ∈ seen := full ▸ mem x y hx hxy
    exact acyclic x hx (reached x again)
  | succ n ih =>
    intro y hxy
    have new : x ∉ seen := fun again => acyclic x hx (reached x again)
    refine ih (insert x seen) ?_ ?_ (closed x y hx hxy) fun z hz => ?_
    · exact Finset.insert_subset (mem x y hx hxy) inside
    · rw [Finset.card_insert_of_notMem new]
      omega
    · rcases Finset.mem_insert.1 hz with rfl | hz
      · exact .single hxy
      · exact (reached z hz).tail hxy

/-- Without cycles a chain is no longer than there are places to hop from. -/
theorem short_of_acyclic [DecidableEq σ] {P : σ → Prop} {places : Finset σ}
    (closed : ∀ x y, P x → hop x y → P y) (mem : ∀ x y, P x → hop x y → x ∈ places)
    (acyclic : ∀ x, P x → ¬ Relation.TransGen hop x x) {x : σ} (hx : P x) :
    Short hop (places.card + 1) x := by
  have room : places.card ≤ (∅ : Finset σ).card + places.card := by simp
  exact short_of_seen closed mem acyclic ∅ (Finset.empty_subset _) room hx (by simp)

end Chains

/-! ### The places of a program -/

/-- The lists over some numbers of at most a given length. -/
def pathsOver (ids : List NodeId) : Nat → List (List NodeId)
  | 0 => [[]]
  | n + 1 => [] :: ids.flatMap fun id => (pathsOver ids n).map (id :: ·)

theorem mem_pathsOver {ids path : List NodeId} {n : Nat} (hids : path ⊆ ids)
    (hn : path.length ≤ n) : path ∈ pathsOver ids n := by
  induction n generalizing path with
  | zero =>
    obtain rfl := List.length_eq_zero_iff.1 (Nat.le_zero.1 hn)
    exact List.mem_singleton.2 rfl
  | succ n ih =>
    cases path with
    | nil => exact List.mem_cons_self ..
    | cons id path =>
      obtain ⟨hid, hpath⟩ := List.cons_subset.1 hids
      have hn : path.length ≤ n := Nat.le_of_succ_le_succ hn
      refine List.mem_cons_of_mem _ (List.mem_flatMap.2 ⟨id, hid, ?_⟩)
      exact List.mem_map_of_mem (ih hpath hn)

theorem length_pathsOver_le (ids : List NodeId) (n : Nat) :
    (pathsOver ids n).length ≤ (ids.length + 1) ^ n := by
  induction n with
  | zero => simp [pathsOver]
  | succ n ih =>
    have one : 1 ≤ (ids.length + 1) ^ n := Nat.one_le_pow _ _ (Nat.succ_pos _)
    have count : (pathsOver ids (n + 1)).length = ids.length * (pathsOver ids n).length + 1 := by
      simp [pathsOver, List.length_flatMap]
    rw [count, pow_succ, Nat.mul_comm _ (ids.length + 1), Nat.add_mul, Nat.one_mul]
    exact Nat.add_le_add (Nat.mul_le_mul_left _ ih) one

namespace Program

variable (p : Program)

/-- The numbers under which nodes are stored. -/
def nodeIds : List NodeId := p.graphs.flatMap (·.nodes.keys)

/-- The wires of all graphs. -/
def wires : List Wire := p.graphs.flatMap (·.wires)

/-- The paths along which modules can be called without calling one inside itself. -/
def paths : List (List NodeId) := pathsOver p.nodeIds p.library.size

/-- What these paths and the elements of a list make together. -/
def onPaths {α β : Type} [DecidableEq β] (l : List α) (f : List NodeId → α → β) : Finset β :=
  (p.paths.flatMap fun path => l.map (f path)).toFinset

theorem card_onPaths_le {α β : Type} [DecidableEq β] (l : List α) (f : List NodeId → α → β) :
    (p.onPaths l f).card ≤ p.paths.length * l.length := by
  refine (List.toFinset_card_le _).trans (le_of_eq ?_)
  simp [List.length_flatMap]

/-- The occurrences of nodes. -/
def addresses : Finset Address := p.onPaths p.nodeIds Address.mk

/-- The places with a wire, by one end of each wire. -/
def places (tip : Wire → NodeId × String) : Finset (Address × String) :=
  p.onPaths p.wires fun path w => (⟨path, (tip w).1⟩, (tip w).2)

/-! ### Paths -/

variable {p}

theorem mem_nodeIds {a : Address} {n : Node} (h : p.node? a = some n) : a.id ∈ p.nodeIds := by
  obtain ⟨g, hg, hn⟩ := Option.bind_eq_some_iff.1 h
  exact List.mem_flatMap.2 ⟨g, graphAt?_mem hg, OrderedMap.mem_keys_iff.2 ⟨n, hn⟩⟩

theorem moduleOnPath?_concat_of_lt {path : List NodeId} {call : NodeId} {depth : Nat}
    (h : depth < path.length) :
    p.moduleOnPath? (path ++ [call]) depth = p.moduleOnPath? path depth := by
  simp only [moduleOnPath?, List.take_append_of_le_length h.le, List.getElem?_append_left h]

theorem moduleOnPath?_concat_length {path : List NodeId} {call : NodeId} {n : Node}
    (h : p.node? ⟨path, call⟩ = some n) :
    p.moduleOnPath? (path ++ [call]) path.length = n.text? moduleKey := by
  obtain ⟨g, hg, hn⟩ := Option.bind_eq_some_iff.1 h
  simp only [moduleOnPath?, List.take_left, List.getElem?_concat_length]
  rw [show p.graphAt? path = some g from hg]
  show (g.node? call).bind _ = _
  rw [show g.node? call = some n from hn]
  rfl

/-- A module that is not being expanded on a path is none of those called on it. -/
theorem notMem_of_expanding {path : List NodeId} {name : String}
    (h : p.expanding path name = false) {names : List String}
    (found : ∀ name ∈ names, ∃ depth < path.length, p.moduleOnPath? path depth = some name) :
    name ∉ names := by
  intro mem
  obtain ⟨depth, hd, hm⟩ := found name mem
  have other := List.any_eq_false.1 h depth (List.mem_range.2 hd)
  simp [hm] at other

/-- A path that leads to a graph calls modules of different names. -/
theorem OnPath.exists_names {path : List NodeId} (h : p.OnPath path) {g : Graph}
    (hg : p.graphAt? path = some g) : ∃ names : List String, names.length = path.length ∧
      names.Nodup ∧ names ⊆ p.library.keys ∧
      ∀ name ∈ names, ∃ depth < path.length, p.moduleOnPath? path depth = some name := by
  induction h generalizing g with
  | nil => exact ⟨[], rfl, List.nodup_nil, List.nil_subset _, nofun⟩
  | @snoc path call n callee outer node kind hlib fresh ih =>
    obtain ⟨g₀, hg₀, -⟩ := Option.bind_eq_some_iff.1 node
    obtain ⟨names, hlen, nodup, known, found⟩ := ih hg₀
    -- the path leads to a graph, so the last call has the name of its module in its data
    have inside := graphAt?_inside (a := ⟨path, call⟩) node
    obtain ⟨name, hname, -⟩ := Option.bind_eq_some_iff.1 (inside.symm.trans hg)
    have htext : n.textD moduleKey = name := by rw [Node.textD, hname, Option.getD_some]
    rw [htext] at hlib fresh
    have new : name ∉ names := notMem_of_expanding fresh found
    refine ⟨names ++ [name], by simp [hlen], ?_, ?_, fun name' mem => ?_⟩
    · exact List.nodup_append_comm.1 (List.nodup_cons.2 ⟨new, nodup⟩)
    · exact List.append_subset.2 ⟨known, by simpa using OrderedMap.mem_keys_iff.2 ⟨_, hlib⟩⟩
    · rcases List.mem_append.1 mem with mem | mem
      · obtain ⟨depth, hd, hm⟩ := found name' mem
        exact ⟨depth, by simp; omega, (moduleOnPath?_concat_of_lt hd).trans hm⟩
      · obtain rfl := List.mem_singleton.1 mem
        exact ⟨path.length, by simp, (moduleOnPath?_concat_length node).trans hname⟩

/-- No module is called inside itself, so there are no more calls on a path than modules. -/
theorem OnPath.length_le {path : List NodeId} (h : p.OnPath path) :
    path.length ≤ p.library.size := by
  cases h with
  | nil => exact Nat.zero_le _
  | @snoc path call n callee outer node kind hlib fresh =>
    -- the whole path need not lead to a graph, but the one without its last call does
    obtain ⟨g, hg, -⟩ := Option.bind_eq_some_iff.1 node
    obtain ⟨names, hlen, nodup, known, found⟩ := outer.exists_names hg
    have new : n.textD moduleKey ∉ names := notMem_of_expanding fresh found
    have all : n.textD moduleKey :: names ⊆ p.library.keys :=
      List.cons_subset.2 ⟨OrderedMap.mem_keys_iff.2 ⟨_, hlib⟩, known⟩
    have count := (List.subperm_of_subset (List.nodup_cons.2 ⟨new, nodup⟩) all).length_le
    simpa [hlen, OrderedMap.keys, OrderedMap.size] using count

theorem OnPath.subset_nodeIds {path : List NodeId} (h : p.OnPath path) : path ⊆ p.nodeIds := by
  induction h with
  | nil => exact List.nil_subset _
  | snoc outer node kind callee fresh ih =>
    exact List.append_subset.2 ⟨ih, by simpa using mem_nodeIds node⟩

theorem OnPath.mem_onPaths {path : List NodeId} (h : p.OnPath path) {α β : Type} [DecidableEq β]
    {l : List α} (f : List NodeId → α → β) {x : α} (hx : x ∈ l) : f path x ∈ p.onPaths l f := by
  refine List.mem_toFinset.2 (List.mem_flatMap.2 ⟨path, ?_, List.mem_map_of_mem hx⟩)
  exact mem_pathsOver h.subset_nodeIds h.length_le

theorem mem_addresses {a : Address} {n : Node} (here : p.OnPath a.path)
    (hn : p.node? a = some n) : a ∈ p.addresses :=
  here.mem_onPaths Address.mk (mem_nodeIds hn)

theorem mem_places {a : Address} {port : String} {g : Graph} {w : Wire}
    {tip : Wire → NodeId × String} (here : p.OnPath a.path) (hg : p.graphAt? a.path = some g)
    (hw : w ∈ g.wires) (htip : tip w = (a.id, port)) : (a, port) ∈ p.places tip := by
  have known : w ∈ p.wires := List.mem_flatMap.2 ⟨g, graphAt?_mem hg, hw⟩
  have mem := here.mem_onPaths (fun path w => (Address.mk path (tip w).1, (tip w).2)) known
  rw [htip] at mem
  exact mem

/-! ### Marks left to make -/

/-- How often an occurrence can still be marked, as started on or as visited. -/
def unmarked (p : Program) (s : Pass) : Nat :=
  (p.addresses \ s.started.toFinset).card + (p.addresses \ s.visited.toFinset).card

theorem card_unmarked_le {marks marks' : List Address} (h : marks ⊆ marks') :
    (p.addresses \ marks'.toFinset).card ≤ (p.addresses \ marks.toFinset).card := by
  refine Finset.card_le_card (Finset.sdiff_subset_sdiff (Finset.Subset.refl _) fun a ha => ?_)
  exact List.mem_toFinset.2 (h (List.mem_toFinset.1 ha))

theorem card_unmarked_lt {marks marks' : List Address} (h : marks ⊆ marks') {a : Address}
    (here : a ∈ p.addresses) (new : a ∉ marks) (marked : a ∈ marks') :
    (p.addresses \ marks'.toFinset).card < (p.addresses \ marks.toFinset).card := by
  refine Finset.card_lt_card ((Finset.ssubset_iff_of_subset fun b hb => ?_).2 ⟨a, ?_, ?_⟩)
  · simp only [Finset.mem_sdiff, List.mem_toFinset] at hb ⊢
    exact ⟨hb.1, fun mem => hb.2 (h mem)⟩
  · simp [here, new]
  · simp [marked]

theorem unmarked_le {s s' : Pass} (started : s.started ⊆ s'.started)
    (visited : s.visited ⊆ s'.visited) : p.unmarked s' ≤ p.unmarked s :=
  Nat.add_le_add (card_unmarked_le started) (card_unmarked_le visited)

theorem unmarked_lt_of_started {s s' : Pass} (started : s.started ⊆ s'.started)
    (visited : s.visited ⊆ s'.visited) {a : Address} (here : a ∈ p.addresses)
    (new : a ∉ s.started) (marked : a ∈ s'.started) : p.unmarked s' < p.unmarked s :=
  Nat.add_lt_add_of_lt_of_le (card_unmarked_lt started here new marked) (card_unmarked_le visited)

theorem unmarked_lt_of_visited {s s' : Pass} (started : s.started ⊆ s'.started)
    (visited : s.visited ⊆ s'.visited) {a : Address} (here : a ∈ p.addresses)
    (new : a ∉ s.visited) (marked : a ∈ s'.visited) : p.unmarked s' < p.unmarked s :=
  Nat.add_lt_add_of_le_of_lt (card_unmarked_le started) (card_unmarked_lt visited here new marked)

/-- Actions that come to an end, from states with a number of marks left to make. -/
def within (p : Program) (marks : Nat) : Mode where
  total := True
  holds s := p.unmarked s ≤ marks
  closed started visited := (unmarked_le started visited).trans

/-! ### Chains of hops in a program -/

/-- The number of hops after which a value has been found. -/
def valueHops (p : Program) : Nat := (p.places fun w => (w.target, w.targetPort)).card + 1

/-- The number of hops after which the flow has come to a mark or to its end. -/
def flowHops (p : Program) : Nat := (p.places fun w => (w.source, w.sourcePort)).card + 1

/-- No value is handed on in a circle. -/
def ValuesAcyclic (p : Program) : Prop :=
  ∀ x : Address × String, p.OnPath x.1.path → ¬ Relation.TransGen p.ValueHop x x

/-- The flow is not handed on in a circle. -/
def FlowAcyclic (p : Program) : Prop :=
  ∀ x : Address × String, p.OnPath x.1.path → ¬ Relation.TransGen p.FlowHop x x

theorem ValueHop.wired {x y : Address × String} (h : p.ValueHop x y) :
    ∃ w n, p.feeding? x.1 x.2 = some (w, n) := by
  cases h with
  | assignment wire kind => exact ⟨_, _, wire⟩
  | input wire kind site => exact ⟨_, _, wire⟩
  | output wire enters bridge => exact ⟨_, _, wire⟩

theorem FlowHop.wired {x y : Address × String} (h : p.FlowHop x y) :
    ∃ w n, p.fedBy? x.1 x.2 = some (w, n) := by
  cases h with
  | exit wire kind site => exact ⟨_, _, wire⟩
  | entry wire enters bridge => exact ⟨_, _, wire⟩
  | through wire kind => exact ⟨_, _, wire⟩

theorem Placed.short_valueHop (placed : p.Placed) (acyclic : p.ValuesAcyclic) {a : Address}
    {port : String} (asks : p.Asks a port) : Short p.ValueHop p.valueHops (a, port) := by
  refine short_of_acyclic (P := fun x => p.Asks x.1 x.2) ?_ ?_ (fun x hx => acyclic x hx.1) asks
  · rintro ⟨a, port⟩ ⟨b, q⟩ asks hop
    exact placed.asks_hop asks hop
  · rintro ⟨a, port⟩ y asks hop
    obtain ⟨w, n, wire⟩ := hop.wired
    obtain ⟨g, hg, hw, -⟩ := feeding?_eq_some.1 wire
    refine mem_places asks.1 hg (List.mem_of_find?_eq_some hw) ?_
    simpa using List.find?_some hw

theorem Placed.short_flowHop (placed : p.Placed) (acyclic : p.FlowAcyclic) {a : Address}
    {port : String} (follows : p.Follows a port) : Short p.FlowHop p.flowHops (a, port) := by
  refine short_of_acyclic (P := fun x => p.Follows x.1 x.2) ?_ ?_ (fun x hx => acyclic x hx.1)
    follows
  · rintro ⟨a, port⟩ ⟨b, q⟩ follows hop
    exact placed.follows_hop follows hop
  · rintro ⟨a, port⟩ y follows hop
    obtain ⟨w, n, wire⟩ := hop.wired
    obtain ⟨g, hg, hw, -⟩ := fedBy?_eq_some.1 wire
    refine mem_places follows.1 hg (List.mem_of_find?_eq_some hw) ?_
    simpa using List.find?_some hw

/-! ### Enough fuel -/

/-- Once a mark is made, what is known for fewer marks applies. -/
theorem exists_soundAt {w : Walk} {marks : Nat} (below : ∀ k < marks, w.Sound (p.within k) p)
    {a : Address} {n : Node} {kind : Kind} (here : p.OnPath a.path) (hn : p.node? a = some n)
    (hk : p.kind? n = some kind) {s : Pass} (fewer : p.unmarked s < marks) :
    ∃ m : Mode, m.total = True ∧ w.SoundAt m p a n kind ∧ m.holds s :=
  ⟨p.within (p.unmarked s), rfl, soundAt_of_sound (below _ fewer) (fun _ => here) hn hk,
    Nat.le_refl _⟩

/-- Asking for a value comes to an end: a hop leaves a shorter chain, and a value that is compiled
is marked first. -/
theorem resolvesAt_walk (placed : p.Placed) {marks base : Nat}
    (below : ∀ fuel ≥ base, ∀ k < marks, (p.walk fuel).Sound (p.within k) p) {n : Nat}
    {a : Address} {port : String} (asks : p.Asks a port)
    (short : Short p.ValueHop n (a, port)) {fuel : Nat} (enough : base + n ≤ fuel) :
    (p.walk fuel).ResolvesAt (p.within marks) p a port := by
  induction n generalizing a port fuel with
  | zero => exact short.elim
  | succ n ih =>
    obtain ⟨fuel, rfl⟩ : ∃ f, fuel = f + 1 := ⟨fuel - 1, by omega⟩
    intro s holds _
    refine sat_resolveStep (fun _ => asks) (fun hop s' ext => ?_) fun {b} reached s' ext new => ?_
    · exact ih (placed.asks_hop asks hop) (short _ hop) (by omega) s'
        ((p.within marks).holds_extends ext holds) trivial
    · have here := (reached placed).onPath
      refine sat_visit fun {m kind} hn hk _ => ?_
      refine exists_soundAt (below fuel (by omega)) here hn hk ?_
      have before : p.unmarked s' ≤ marks := (p.within marks).holds_extends ext holds
      -- it was not started on before, and is now
      have begun := Pass.Extends.begin ((s'.start b).beginResolving b) b .demand kind
      have kept : s'.started ⊆ _ := fun c hc => begun.started (mem_addNew.2 (.inl hc))
      have marked := begun.started (mem_addNew.2 (.inr rfl) : b ∈ (s'.start b).started)
      exact Nat.lt_of_lt_of_le (unmarked_lt_of_started (s := s') kept begun.visited
        (mem_addresses here hn) new marked) before

/-- Nodes that are compiled without a mark follow the flow only where it is a hop. -/
theorem FollowedBy.through {n : Node} {kind : Kind} {port : String}
    (h : p.FollowedBy n kind port) (unmarked : kind.hasFlowIn = false)
    (other : kind ≠ .moduleCall) :
    (kind = .definition ∨ kind = .topLevelCode) ∧ port = flowOutKey := by
  cases kind <;> simp_all [FollowedBy, Kind.hasFlowIn]

/-- Following the flow comes to an end: a hop leaves a shorter chain, a node that the flow has to
arrive at is marked first, and the other nodes only ask for values. -/
theorem followsAt_walk (placed : p.Placed) {marks base : Nat}
    (below : ∀ fuel ≥ base, ∀ k < marks, (p.walk fuel).Sound (p.within k) p)
    (resolves : ∀ fuel ≥ base, ∀ {a port}, p.Asks a port →
      (p.walk fuel).ResolvesAt (p.within marks) p a port)
    {n : Nat} {a : Address} {port : String} (follows : p.Follows a port)
    (short : Short p.FlowHop n (a, port)) {fuel : Nat} (enough : base + n ≤ fuel) :
    (p.walk fuel).FollowsAt (p.within marks) p a port := by
  induction n generalizing a port fuel with
  | zero => exact short.elim
  | succ n ih =>
    obtain ⟨fuel, rfl⟩ : ∃ f, fuel = f + 1 := ⟨fuel - 1, by omega⟩
    have onward : ∀ {b q}, p.FlowHop (a, port) (b, q) →
        (p.walk fuel).FollowsAt (p.within marks) p b q :=
      fun hop => ih (placed.follows_hop follows hop) (short _ hop) (by omega)
    intro s holds _
    refine (sat_followStep (fun _ => follows) (fun hop s' ext => ?_)
      fun {wire m} hfed exit call s' ext => ?_).mono fun _ _ h => ⟨h, trivial⟩
    · have holds' := (p.within marks).holds_extends ext holds
      exact (onward hop s' holds' trivial).mono fun _ _ h => h.1
    · have here : p.OnPath (a.sibling m.id).path := follows.1
      have before : p.unmarked s' ≤ marks := (p.within marks).holds_extends ext holds
      refine sat_visit fun {m' kind} hn hk new => ?_
      obtain rfl : m' = m := by
        rw [placed.node?_fedBy hfed] at hn
        exact (Option.some.inj hn).symm
      have begun := Pass.Extends.begin s' (a.sibling m'.id) .flow kind
      by_cases flowIn : kind.hasFlowIn = true
      · have marked : a.sibling m'.id ∈ (s'.begin (a.sibling m'.id) .flow kind).visited := by
          rw [Pass.visited_begin, if_pos flowIn]
          exact mem_addNew.2 (.inr rfl)
        refine exists_soundAt (below fuel (by omega)) here hn hk ?_
        exact Nat.lt_of_lt_of_le (unmarked_lt_of_visited begun.started begun.visited
          (mem_addresses here hn) (new flowIn) marked) before
      · refine ⟨p.within marks, rfl, ⟨fun asked => ?_, fun followed => ?_⟩,
          (p.within marks).holds_extends begun before⟩
        · exact resolves fuel (by omega) (asks_of_askedBy here hn hk asked)
        · -- no mark is made here, so the flow has to go on by a hop
          have other : kind ≠ .moduleCall := fun h => call (h ▸ hk)
          obtain ⟨through, rfl⟩ := followed.through (by simpa using flowIn) other
          refine onward (.through hfed ?_)
          rcases through with rfl | rfl
          · exact .inl hk
          · exact .inr hk

/-- The fuel with which asking and following come to an end, by the marks left to make. -/
def needed (p : Program) (marks : Nat) : Nat := (marks + 1) * (p.valueHops + p.flowHops)

/-- With enough fuel for the marks that are left, asking and following come to an end. -/
theorem sound_within (placed : p.Placed) (values : p.ValuesAcyclic) (flow : p.FlowAcyclic)
    (marks : Nat) {fuel : Nat} (enough : p.needed marks ≤ fuel) :
    (p.walk fuel).Sound (p.within marks) p := by
  induction marks using Nat.strongRecOn generalizing fuel with
  | ind marks ih =>
    have below : ∀ fuel ≥ marks * (p.valueHops + p.flowHops), ∀ k < marks,
        (p.walk fuel).Sound (p.within k) p := by
      intro fuel hfuel k hk
      have fewer : p.needed k ≤ marks * (p.valueHops + p.flowHops) := Nat.mul_le_mul_right _ hk
      exact ih k hk (fewer.trans hfuel)
    -- following asks for values without making a mark first, so these come first
    have resolves : ∀ fuel ≥ marks * (p.valueHops + p.flowHops) + p.valueHops, ∀ {a port},
        p.Asks a port → (p.walk fuel).ResolvesAt (p.within marks) p a port := by
      intro fuel hfuel a port asks
      exact resolvesAt_walk placed below asks (placed.short_valueHop values asks) hfuel
    have split : p.needed marks =
        marks * (p.valueHops + p.flowHops) + p.valueHops + p.flowHops := by
      rw [needed, Nat.add_mul, Nat.one_mul, Nat.add_assoc]
    constructor
    · intro a port asks
      exact resolves fuel (by omega) (asks placed)
    · intro a port follows
      have short := placed.short_flowHop flow (follows placed)
      refine followsAt_walk placed (fun f hf => below f (by omega)) resolves (follows placed)
        short (by omega)

theorem foldl_add_eq_sum {α : Type} (f : α → Nat) (l : List α) (start : Nat) :
    l.foldl (fun n x => n + f x) start = start + (l.map f).sum := by
  induction l generalizing start with
  | nil => simp
  | cons x l ih => simp [ih, Nat.add_assoc]

/-- The fuel of a pass covers the marks of all occurrences and the hops between them. -/
theorem needed_le_fuel (p : Program) (s : Pass) : p.needed (p.unmarked s) ≤ p.fuel 0 := by
  have nodes : p.graphs.foldl (fun n g => n + g.nodes.size) 0 = p.nodeIds.length := by
    simp [foldl_add_eq_sum, nodeIds, List.length_flatMap, OrderedMap.keys, OrderedMap.size]
  have wires : p.graphs.foldl (fun n g => n + g.wires.length) 0 = p.wires.length := by
    simp [foldl_add_eq_sum, Program.wires, List.length_flatMap]
  have paths : p.paths.length ≤ (p.nodeIds.length + 1) ^ p.library.size := length_pathsOver_le ..
  -- there are at least twice as many occurrences as paths, and as addresses on paths
  have many : 2 * (p.paths.length * (p.nodeIds.length + 1)) ≤ p.occurrences 0 := by
    have base : p.nodeIds.length + 1 ≤ 2 * p.nodeIds.length + 2 := by omega
    calc 2 * (p.paths.length * (p.nodeIds.length + 1))
        ≤ 2 * ((p.nodeIds.length + 1) ^ p.library.size * (p.nodeIds.length + 1)) := by gcongr
      _ = (p.nodeIds.length + 1) ^ p.library.size * (2 * p.nodeIds.length + 2) := by ring
      _ ≤ (2 * p.nodeIds.length + 2) ^ p.library.size * (2 * p.nodeIds.length + 2) := by gcongr
      _ = (2 * p.nodeIds.length + 2) ^ (p.library.size + 1) := (pow_succ _ _).symm
      _ ≤ (2 * p.nodeIds.length + 2) ^ (p.library.size + 2) :=
          Nat.pow_le_pow_right (by omega) (by omega)
      _ = p.occurrences 0 := by rw [occurrences, nodes]; rfl
  have marks : p.unmarked s ≤ p.occurrences 0 := by
    have started := Finset.card_le_card (Finset.sdiff_subset (s := p.addresses)
      (t := s.started.toFinset))
    have visited := Finset.card_le_card (Finset.sdiff_subset (s := p.addresses)
      (t := s.visited.toFinset))
    have all : p.addresses.card ≤ _ := p.card_onPaths_le p.nodeIds Address.mk
    rw [Nat.mul_add] at many
    unfold unmarked
    omega
  have hops : p.valueHops + p.flowHops ≤ p.occurrences 0 * (p.wires.length + 2) + 2 := by
    have card : ∀ tip, (p.places tip).card ≤ p.paths.length * p.wires.length :=
      fun tip => p.card_onPaths_le p.wires _
    have into := card fun w => (w.target, w.targetPort)
    have out := card fun w => (w.source, w.sourcePort)
    have twice : 2 * p.paths.length ≤ p.occurrences 0 := by
      rw [Nat.mul_add] at many
      omega
    have wide : 2 * (p.paths.length * p.wires.length) ≤ p.occurrences 0 * p.wires.length := by
      rw [← Nat.mul_assoc]
      exact Nat.mul_le_mul_right _ twice
    unfold valueHops flowHops
    rw [Nat.mul_add]
    omega
  unfold needed fuel
  rw [wires]
  exact Nat.mul_le_mul (by omega) hops

/-- With enough fuel all entries are compiled. -/
theorem sat_visitAll_within {marks : Nat} {w : Walk} (sound : w.Sound (p.within marks) p)
    {as : List Address} (has : as ⊆ p.entries) {s : Pass} (holds : (p.within marks).holds s) :
    Gen.Sat True (p.visitAll w as) s fun _ _ => True := by
  induction as generalizing s with
  | nil => trivial
  | cons a as ih =>
    have reached : p.Reached .entry a := has (List.mem_cons_self ..)
    unfold visitAll
    have visited : Gen.Sat True (p.visit w a) s fun _ s' => p.Runs (.visit .entry a) s s' := by
      refine sat_visit fun {n kind} hn hk _ => ⟨p.within marks, rfl, ?_, ?_⟩
      · exact soundAt_of_sound sound (fun _ => reached.onPath) hn hk
      · exact (p.within marks).holds_extends (.begin ..) holds
    refine visited.bind fun _ s' hs' => ih (fun b hb => has (List.mem_cons_of_mem _ hb)) ?_
    exact (p.within marks).holds_extends hs'.extends holds

/-- A pass comes to an end, and more fuel makes no difference.  If all nodes stand under their own
numbers, then it is enough that no value is handed on in a circle of assignments and of inputs and
outputs of modules, and the flow not in a circle of entries and exits of modules, definitions and
top-level code.  Values may depend on themselves, the flow may come back to where it was, and
modules may call each other. -/
theorem run?_eq_some (placed : p.Placed) (values : p.ValuesAcyclic) (flow : p.FlowAcyclic) :
    ∃ s, p.run? = some s ∧ ∀ fuel ≥ p.fuel 0, p.runWith? fuel = some s := by
  have sound := sound_within placed values flow _ (p.needed_le_fuel {})
  have done := sat_visitAll_within sound (List.Subset.refl _) (Nat.le_refl (p.unmarked {}))
  obtain ⟨x, s, hs⟩ := done.exists_eq
  have ends : p.run? = some s := Option.map_eq_some_iff.2 ⟨(x, s), hs, rfl⟩
  exact ⟨s, ends, fun _ more => p.runWith?_mono more ends⟩

end Program

namespace Sample

/-- A module that hands the flow on to another one. -/
def relay (name next : String) : Graph where
  name := name
  nodes := OrderedMap.ofList [
    (1, { id := 1, component := "InputFlow", data := OrderedMap.ofList [("name", .str "go")] }),
    (2, { id := 2, component := "Module", data := OrderedMap.ofList [("module", .str next)] })]
  wires := [⟨1, "output", 2, "go"⟩]

/-- Two modules that call each other, statements that follow each other in a circle, numbers that
depend on each other, and a number handed on by an assignment. -/
def circular : Program where
  lang := language
  root := {
    name := "main"
    nodes := OrderedMap.ofList [
      (1, { id := 1, component := "Function" }),
      (2, { id := 2, component := "Module", data := OrderedMap.ofList [("module", .str "ping")] }),
      (3, { id := 3, component := "Function" }),
      (4, { id := 4, component := "print" }),
      (5, { id := 5, component := "Set" }),
      (6, { id := 6, component := "twice" }),
      (7, { id := 7, component := "twice" })]
    wires := [⟨1, "fout", 2, "go"⟩, ⟨3, "fout", 4, "fin"⟩, ⟨4, "fout", 5, "fin"⟩,
      ⟨5, "fout", 4, "fin"⟩, ⟨5, "result", 4, "value"⟩, ⟨6, "result", 5, "inVariable"⟩,
      ⟨6, "result", 7, "value"⟩, ⟨7, "result", 6, "value"⟩] }
  library := OrderedMap.ofList [("ping", relay "ping" "pong"), ("pong", relay "pong" "ping")]

theorem circular_placed : circular.Placed :=
  Program.id_of_entries rfl

/-- A hop leads to the target of an assignment, and none goes on from there. -/
theorem circular_valuesAcyclic : circular.ValuesAcyclic := by
  have sources : (circular.graphs.all fun g => g.wires.all fun w => (g.node? w.source).all fun n =>
      circular.kind? n ≠ some .moduleInput && circular.kind? n ≠ some .moduleCall &&
        (circular.kind? n ≠ some .assignment || w.targetPort ≠ "inVariable")) = true := by
    decide +kernel
  have hops : ∀ x y, circular.ValueHop x y → x.2 ≠ "inVariable" ∧ y.2 = "inVariable" := by
    intro x y hop
    obtain ⟨w, n, wire⟩ := hop.wired
    obtain ⟨g, hg, hw, hn⟩ := Program.feeding?_eq_some.1 wire
    have source := List.all_eq_true.1 (List.all_eq_true.1 sources g (Program.graphAt?_mem hg)) w
      (List.mem_of_find?_eq_some hw)
    have target : w.target = x.1.id ∧ w.targetPort = x.2 := by simpa using List.find?_some hw
    simp [hn, target.2] at source
    cases hop with
    | assignment wire' kind => simp_all
    | input wire' kind site => simp_all
    | output wire' enters bridge => simp_all [Program.Enters]
  intro x _ cycle
  obtain ⟨y, hop, -⟩ := Relation.TransGen.head'_iff.1 cycle
  obtain ⟨z, -, hop'⟩ := Relation.TransGen.tail'_iff.1 cycle
  exact (hops x y hop).1 (hops z x hop').2

/-- Every hop leads deeper into modules. -/
theorem circular_flowAcyclic : circular.FlowAcyclic := by
  have targets : (circular.graphs.all fun g => g.wires.all fun w => (g.node? w.target).all fun n =>
      circular.kind? n ≠ some .flowExit && circular.kind? n ≠ some .definition &&
        circular.kind? n ≠ some .topLevelCode) = true := by
    decide +kernel
  have hops : ∀ x y, circular.FlowHop x y → x.1.path.length < y.1.path.length := by
    intro x y hop
    obtain ⟨w, n, wire⟩ := hop.wired
    obtain ⟨g, hg, hw, hn⟩ := Program.fedBy?_eq_some.1 wire
    have target := List.all_eq_true.1 (List.all_eq_true.1 targets g (Program.graphAt?_mem hg)) w
      (List.mem_of_find?_eq_some hw)
    simp [hn] at target
    cases hop with
    | exit wire' kind site => simp_all
    | entry wire' enters bridge => simp [Address.inside, Address.sibling]
    | through wire' kind => simp_all
  intro x _ cycle
  have longer : ∀ {y}, Relation.TransGen circular.FlowHop x y →
      x.1.path.length < y.1.path.length := by
    intro y chain
    induction chain with
    | single hop => exact hops _ _ hop
    | tail _ hop ih => exact ih.trans (hops _ _ hop)
  exact Nat.lt_irrefl _ (longer cycle)

/-- The pass over the program comes to an end. -/
theorem run?_circular : ∃ s, circular.run? = some s ∧
    ∀ fuel ≥ circular.fuel 0, circular.runWith? fuel = some s :=
  Program.run?_eq_some circular_placed circular_valuesAcyclic circular_flowAcyclic

end Sample

end FlowScript
