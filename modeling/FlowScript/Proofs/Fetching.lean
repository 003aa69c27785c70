import FlowScript.Proofs.Collecting

/-!
# The order in which modules are fetched

Collecting keeps the names that it has still to look at in one list, in which a name may stand many
times, and drops a name that it knows when its turn comes.  It fetches what a recursive walk meets
that goes into every name where it first meets it, before it goes on to the next one.

* `Source.Visits`: the names that such a walk meets, in order; `Visits.unique`: there is one order;
* `Visits.mem_iff`: the names met are those that can be reached through references;
* `Library.fetchInTurn`: fetching names in turn, up to the first one that fails;
* `Library.collectPending_eq_fetchInTurn`: the list of pending names does the work of the recursion;
* `Library.collect_visits`: what is collected for a graph.
-/

namespace FlowScript

namespace Source

/-- The graph under a name; a name that the source does not know stands for an empty graph. -/
def graphOf (s : Source) (name : String) : Graph := (s.graphs.get? name).getD { name }

/-- The names that the graph under a name refers to. -/
def references (s : Source) (name : String) : List String := (s.graphOf name).references

/-- A name and the graph under it. -/
def entry (s : Source) (name : String) : String × Graph := (name, s.graphOf name)

/-- A depth-first walk through some names, when some have been seen, visits names in an order: a
name that has been seen is passed over, and any other is visited, then what it refers to, then the
rest. -/
inductive Visits (s : Source) : (seen names order : List String) → Prop
  | nil {seen : List String} : Visits s seen [] []
  | skip {seen rest order : List String} {name : String} (known : name ∈ seen)
    (after : Visits s seen rest order) : Visits s seen (name :: rest) order
  | enter {seen rest inner outer : List String} {name : String} (fresh : name ∉ seen)
    (inside : Visits s (seen ++ [name]) (s.references name) inner)
    (after : Visits s (seen ++ name :: inner) rest outer) :
    Visits s seen (name :: rest) (name :: (inner ++ outer))

namespace Visits

variable {s : Source} {seen names order : List String}

/-- No name is visited twice, and none that has been seen. -/
theorem nodup (h : s.Visits seen names order) : order.Nodup ∧ ∀ name ∈ order, name ∉ seen := by
  induction h with
  | nil => exact ⟨.nil, fun _ mem => absurd mem List.not_mem_nil⟩
  | skip _ _ ih => exact ih
  | enter fresh _ _ inside after =>
    simp only [List.mem_append, List.mem_cons, List.not_mem_nil, or_false, not_or] at inside after
    refine ⟨?_, ?_⟩
    · rw [List.nodup_cons, List.nodup_append]
      refine ⟨?_, inside.1, after.1, ?_⟩
      · intro mem
        rcases List.mem_append.1 mem with mem | mem
        · exact (inside.2 _ mem).2 rfl
        · exact (after.2 _ mem).2.1 rfl
      · rintro x hx _ hy rfl
        exact (after.2 x hy).2.2 hx
    · intro x hx
      rcases List.mem_cons.1 hx with rfl | hx
      · exact fresh
      · rcases List.mem_append.1 hx with hx | hx
        · exact (inside.2 x hx).1
        · exact (after.2 x hx).1

/-- The order is given by the names. -/
theorem unique {order' : List String} (h : s.Visits seen names order)
    (h' : s.Visits seen names order') : order' = order := by
  induction h generalizing order' with
  | nil =>
    cases h'
    rfl
  | skip known _ ih =>
    cases h' with
    | skip _ after => exact ih after
    | enter fresh _ _ => exact absurd known fresh
  | enter fresh _ _ inside after =>
    cases h' with
    | skip known _ => exact absurd known fresh
    | enter _ inside' after' =>
      obtain rfl := inside inside'
      rw [after after']

/-- Two walks, one after the other. -/
theorem append {names' order' : List String} (h : s.Visits seen names order)
    (h' : s.Visits (seen ++ order) names' order') :
    s.Visits seen (names ++ names') (order ++ order') := by
  induction h with
  | nil => simpa using h'
  | skip known _ ih => exact .skip known (ih h')
  | enter fresh inside _ _ ih =>
    have rest := ih (by simpa using h')
    rw [List.cons_append, List.cons_append, List.append_assoc]
    exact .enter fresh inside rest

/-- A walk through some names and then others. -/
theorem of_append {names' : List String} (h : s.Visits seen (names ++ names') order) :
    ∃ inner outer, order = inner ++ outer ∧ s.Visits seen names inner ∧
      s.Visits (seen ++ inner) names' outer := by
  induction names generalizing seen order with
  | nil => exact ⟨[], order, rfl, .nil, by simpa using h⟩
  | cons name names ih =>
    cases h with
    | skip known after =>
      obtain ⟨inner, outer, rfl, first, second⟩ := ih after
      exact ⟨inner, outer, rfl, .skip known first, second⟩
    | @enter _ _ deep _ _ fresh inside after =>
      obtain ⟨inner, outer, rfl, first, second⟩ := ih after
      refine ⟨name :: (deep ++ inner), outer, by simp, .enter fresh inside first, ?_⟩
      simpa using second

/-! ### Reachable names -/

/-- A name is visited because it can be reached. -/
theorem reached (h : s.Visits seen names order) : ∀ name ∈ order, ∃ first ∈ names,
    Relation.ReflTransGen (fun a b => b ∈ s.references a) first name := by
  induction h with
  | nil => exact fun _ mem => absurd mem List.not_mem_nil
  | skip _ _ ih =>
    intro x hx
    obtain ⟨first, mem, path⟩ := ih x hx
    exact ⟨first, List.mem_cons_of_mem _ mem, path⟩
  | @enter _ _ _ _ name _ _ _ inside after =>
    intro x hx
    rcases List.mem_cons.1 hx with rfl | hx
    · exact ⟨x, List.mem_cons_self, .refl⟩
    · rcases List.mem_append.1 hx with hx | hx
      · obtain ⟨first, mem, path⟩ := inside x hx
        exact ⟨name, List.mem_cons_self, .head mem path⟩
      · obtain ⟨first, mem, path⟩ := after x hx
        exact ⟨first, List.mem_cons_of_mem _ mem, path⟩

/-- The names themselves are seen in the end, and what the visited names refer to. -/
theorem covers (h : s.Visits seen names order) :
    (∀ name ∈ names, name ∈ seen ++ order) ∧
      ∀ name ∈ order, ∀ next ∈ s.references name, next ∈ seen ++ order := by
  induction h with
  | nil => simp
  | skip known _ ih =>
    refine ⟨fun x hx => ?_, ih.2⟩
    rcases List.mem_cons.1 hx with rfl | hx
    · exact List.mem_append_left _ known
    · exact ih.1 x hx
  | @enter seen rest inner outer name _ _ _ inside after =>
    -- what is seen after the inner walk is seen in the end
    have inner_le : ∀ x, x ∈ seen ++ [name] ++ inner → x ∈ seen ++ name :: (inner ++ outer) := by
      intro x hx
      simp only [List.mem_append, List.mem_cons, List.not_mem_nil, or_false] at hx ⊢
      tauto
    have outer_eq : seen ++ name :: inner ++ outer = seen ++ name :: (inner ++ outer) := by simp
    rw [outer_eq] at after
    refine ⟨fun x hx => ?_, fun x hx next hnext => ?_⟩
    · rcases List.mem_cons.1 hx with rfl | hx
      · simp
      · exact after.1 x hx
    · rcases List.mem_cons.1 hx with rfl | hx
      · exact inner_le next (inside.1 next hnext)
      · rcases List.mem_append.1 hx with hx | hx
        · exact inner_le next (inside.2 x hx next hnext)
        · exact after.2 x hx next hnext

/-- When nothing has been seen before, the walk visits what can be reached. -/
theorem mem_iff (h : s.Visits [] names order) {name : String} :
    name ∈ order ↔ ∃ first ∈ names,
      Relation.ReflTransGen (fun a b => b ∈ s.references a) first name := by
  refine ⟨h.reached name, ?_⟩
  rintro ⟨first, mem, path⟩
  induction path with
  | refl => exact h.covers.1 first mem
  | tail _ edge ih => exact h.covers.2 _ ih _ edge

end Visits

end Source

/-! ### Pending names -/

namespace Library

variable {s : Source} {lib : Library} {names order fetched rest : List String} {name : String}

theorem keys_insert_fresh (fresh : name ∉ lib.keys) (g : Graph) :
    (lib.insert name g).keys = lib.keys ++ [name] := by
  rw [OrderedMap.keys_insert, if_neg fresh]

/-- There is a walk through any names: collecting them, if nothing fails, goes the same way. -/
theorem exists_visits (s : Source) (lib : Library) (names : List String) :
    ∃ order, s.Visits lib.keys names order := by
  -- the induction is that of collecting from the graphs of the source alone
  fun_induction collectPending ⟨s.graphs, .empty⟩ lib [] names with
  | case1 => exact ⟨[], .nil⟩
  | case2 lib _ name rest known ih =>
    obtain ⟨order, after⟩ := ih
    exact ⟨order, .skip (OrderedMap.contains_iff.1 known) after⟩
  | case3 _ _ _ _ _ _ failing => cases failing
  | case4 lib _ name rest new _ module found ih =>
    have fresh : name ∉ lib.keys := mt OrderedMap.contains_iff.2 new
    have refers : s.references name = module.references := by
      simp [Source.references, Source.graphOf, show s.graphs.get? name = some module from found]
    obtain ⟨order, walk⟩ := ih
    rw [keys_insert_fresh fresh, ← refers] at walk
    obtain ⟨inner, outer, -, inside, after⟩ := walk.of_append
    exact ⟨_, .enter fresh inside (by simpa using after)⟩
  | case5 lib _ name rest new _ absent ih =>
    have fresh : name ∉ lib.keys := mt OrderedMap.contains_iff.2 new
    have inside : s.Visits (lib.keys ++ [name]) (s.references name) [] := by
      unfold Source.references Source.graphOf
      rw [show s.graphs.get? name = none from absent]
      exact .nil
    obtain ⟨order, after⟩ := ih
    rw [keys_insert_fresh fresh] at after
    exact ⟨_, .enter fresh inside after⟩

/-- Fetch names one after the other, up to the first one that cannot be fetched. -/
def fetchInTurn (s : Source) (lib : Library) (fetched : List String) :
    (names : List String) → Collected
  | [] => { library := lib, fetched, failure := none }
  | name :: names =>
    match s.failures.get? name with
    | some reason =>
      { library := lib, fetched := fetched ++ [name], failure := some { name, reason } }
    | none => fetchInTurn s (lib.insert name (s.graphOf name)) (fetched ++ [name]) names

/-- Collecting pending names fetches in turn what the walk through them visits. -/
theorem collectPending_eq_fetchInTurn (h : s.Visits lib.keys names order) :
    collectPending s lib fetched names = fetchInTurn s lib fetched order := by
  fun_induction collectPending s lib fetched names generalizing order with
  | case1 =>
    cases h
    rfl
  | case2 lib fetched name rest known ih =>
    cases h with
    | skip _ after => exact ih after
    | enter fresh _ _ => exact absurd (OrderedMap.contains_iff.1 known) fresh
  | case3 lib fetched name rest new reason fails =>
    cases h with
    | skip known _ => exact absurd (OrderedMap.contains_iff.2 known) new
    | enter => simp only [fetchInTurn, fails]
  | case4 lib fetched name rest new able module found ih =>
    cases h with
    | skip known _ => exact absurd (OrderedMap.contains_iff.2 known) new
    | @enter _ _ inner outer _ fresh inside after =>
      -- what the name refers to is put before the rest, so that one walk follows the other
      have graph : s.graphOf name = module := by simp [Source.graphOf, found]
      have walk : s.Visits (lib.keys ++ [name]) (module.references ++ rest) (inner ++ outer) := by
        rw [← graph]
        exact inside.append (by simpa using after)
      rw [← keys_insert_fresh fresh module] at walk
      simp only [fetchInTurn, able, graph]
      exact ih walk
  | case5 lib fetched name rest new able absent ih =>
    cases h with
    | skip known _ => exact absurd (OrderedMap.contains_iff.2 known) new
    | @enter _ _ inner outer _ fresh inside after =>
      have graph : s.graphOf name = { name } := by simp [Source.graphOf, absent]
      have none : inner = [] := by
        unfold Source.references at inside
        rw [graph] at inside
        exact Source.Visits.nil.unique inside
      rw [none, ← keys_insert_fresh fresh { name }] at after
      simp only [fetchInTurn, able, graph, none]
      exact ih after

/-! ### Fetching in turn -/

/-- A library with the graphs of a source under further names. -/
def fetchAll (lib : Library) (s : Source) (names : List String) : Library :=
  lib.insertMany (names.map s.entry)

theorem entries_fetchAll (s : Source) (distinct : names.Nodup) :
    (fetchAll .empty s names).entries = names.map s.entry := by
  have keys : (names.map s.entry).map Prod.fst = names := by
    rw [List.map_map]
    exact List.map_id names
  exact OrderedMap.entries_insertMany (m := .empty) (by rwa [← keys] at distinct)

theorem fetchInTurn_of_able (able : ∀ name ∈ names, s.failures.get? name = none)
    (lib : Library) (fetched : List String) :
    fetchInTurn s lib fetched names =
      { library := lib.fetchAll s names, fetched := fetched ++ names, failure := none } := by
  induction names generalizing lib fetched with
  | nil => simp [fetchInTurn, fetchAll, OrderedMap.insertMany]
  | cons name names ih =>
    obtain ⟨this, others⟩ := List.forall_mem_cons.1 able
    simp only [fetchInTurn, this]
    rw [ih others, List.append_assoc]
    rfl

theorem fetchInTurn_of_fails {before after : List String} {reason : String}
    (able : ∀ name ∈ before, s.failures.get? name = none)
    (fails : s.failures.get? name = some reason) (lib : Library) (fetched : List String) :
    fetchInTurn s lib fetched (before ++ name :: after) =
      { library := lib.fetchAll s before, fetched := fetched ++ before ++ [name],
        failure := some { name, reason } } := by
  induction before generalizing lib fetched with
  | nil => simp [fetchInTurn, fails, fetchAll, OrderedMap.insertMany]
  | cons first before ih =>
    obtain ⟨this, others⟩ := List.forall_mem_cons.1 able
    rw [List.cons_append]
    simp only [fetchInTurn, this]
    rw [ih others, List.append_assoc fetched]
    rfl

/-! ### Collecting for a graph -/

/-- What is collected for a graph from a source.  There is one depth-first walk through the
references of the graph, and it visits every name that can be reached from it, once.  If all of them
can be fetched, they are fetched and held in the order of the walk, each with the graph of the
source, or an empty one.  Otherwise collecting ends with the first one that cannot be fetched, and
holds those before it. -/
theorem collect_visits (g : Graph) (s : Source) :
    ∃ order, (∀ order', s.Visits [] g.references order' ↔ order' = order) ∧ order.Nodup ∧
      (∀ name, name ∈ order ↔ name ≠ "" ∧ ∃ first ∈ g.references,
        Relation.ReflTransGen (fun a b => b ∈ s.references a) first name) ∧
      ((∀ name ∈ order, s.failures.get? name = none) →
        (collect .empty g s).failure = none ∧ (collect .empty g s).fetched = order ∧
          (collect .empty g s).library.entries = order.map s.entry) ∧
      ∀ before name after reason, order = before ++ name :: after →
        (∀ x ∈ before, s.failures.get? x = none) → s.failures.get? name = some reason →
          (collect .empty g s).failure = some { name, reason } ∧
            (collect .empty g s).fetched = before ++ [name] ∧
            (collect .empty g s).library.entries = before.map s.entry := by
  obtain ⟨order, walk⟩ := exists_visits s .empty g.references
  have start : s.Visits [] g.references order := walk
  have named : ∀ name ∈ order, name ≠ "" := by
    intro name mem
    obtain ⟨first, there, path⟩ := start.reached name mem
    rcases path.cases_tail with rfl | ⟨x, -, edge⟩
    · exact Graph.ne_of_mem_references there
    · exact Graph.ne_of_mem_references edge
  have collected : collect .empty g s = fetchInTurn s .empty [] order :=
    collectPending_eq_fetchInTurn walk
  refine ⟨order, fun order' => ⟨fun h => start.unique h, fun e => e ▸ start⟩, start.nodup.1,
    fun name => ⟨fun mem => ⟨named name mem, start.reached name mem⟩, fun h => start.mem_iff.2 h.2⟩,
    fun able => ?_, fun before name after reason split able fails => ?_⟩
  · rw [collected, fetchInTurn_of_able able]
    exact ⟨rfl, rfl, entries_fetchAll s start.nodup.1⟩
  · have distinct : before.Nodup := start.nodup.1.sublist (split ▸ List.sublist_append_left ..)
    rw [collected, split, fetchInTurn_of_fails able fails]
    exact ⟨rfl, rfl, entries_fetchAll s distinct⟩

end Library

namespace Sample

/-- A graph of module calls. -/
def calling (name : String) (callees : List String) : Graph :=
  callees.foldl (fun g callee => g.addNode
    { id := g.nextId, component := "Module", data := .ofList [(moduleKey, .str callee)] }) { name }

/-- Two modules that call each other, one of which also calls a third one, with some failures. -/
def looped (failures : List (String × String)) : Source where
  graphs := .ofList [("loop", calling "loop" ["", "back"]), ("back", calling "back" ["loop", "leaf"])]
  failures := .ofList failures

def loopRoot : Graph := calling "main" ["loop", "loop", "lost"]

/-- The walk comes to the third module before it comes to the last call of the root. -/
theorem looped_visits (failures : List (String × String)) :
    (looped failures).Visits [] loopRoot.references ["loop", "back", "leaf", "lost"] := by
  have root : loopRoot.references = ["loop", "loop", "lost"] := by decide +kernel
  have loop : (looped failures).references "loop" = ["back"] := by
    show (looped []).references "loop" = _
    decide +kernel
  have back : (looped failures).references "back" = ["loop", "leaf"] := by
    show (looped []).references "back" = _
    decide +kernel
  have leaf : (looped failures).references "leaf" = [] := by
    show (looped []).references "leaf" = _
    decide +kernel
  have lost : (looped failures).references "lost" = [] := by
    show (looped []).references "lost" = _
    decide +kernel
  rw [root]
  refine @Source.Visits.enter _ _ _ ["back", "leaf"] ["lost"] _ (by decide) ?_ ?_
  · rw [loop]
    refine @Source.Visits.enter _ _ _ ["leaf"] [] _ (by decide) ?_ .nil
    rw [back]
    refine .skip (by decide) (@Source.Visits.enter _ _ _ [] [] _ (by decide) ?_ .nil)
    rw [leaf]
    exact .nil
  · refine .skip (by decide) (@Source.Visits.enter _ _ _ [] [] _ (by decide) ?_ .nil)
    rw [lost]
    exact .nil

/-- All four are collected in this order, or the first two if the third one fails. -/
theorem collect_visits_looped :
    (Library.collect .empty loopRoot (looped [])).failure = none ∧
      (Library.collect .empty loopRoot (looped [])).fetched = ["loop", "back", "leaf", "lost"] ∧
      (Library.collect .empty loopRoot (looped [])).library.keys = ["loop", "back", "leaf", "lost"] ∧
      (Library.collect .empty loopRoot (looped [("leaf", "offline")])).failure =
        some ⟨"leaf", "offline"⟩ ∧
      (Library.collect .empty loopRoot (looped [("leaf", "offline")])).library.keys =
        ["loop", "back"] := by
  obtain ⟨order, walk, -, -, all, -⟩ := Library.collect_visits loopRoot (looped [])
  obtain rfl := (walk _).1 (looped_visits [])
  obtain ⟨failure, fetched, entries⟩ := all fun name _ => rfl
  obtain ⟨order', walk', -, -, -, stop⟩ :=
    Library.collect_visits loopRoot (looped [("leaf", "offline")])
  obtain rfl := (walk' _).1 (looped_visits [("leaf", "offline")])
  obtain ⟨failure', -, entries'⟩ :=
    stop ["loop", "back"] "leaf" ["lost"] "offline" rfl (by decide +kernel) (by decide +kernel)
  refine ⟨failure, fetched, ?_, failure', ?_⟩
  · unfold OrderedMap.keys
    rw [entries]
    rfl
  · unfold OrderedMap.keys
    rw [entries']
    rfl

end Sample

end FlowScript
