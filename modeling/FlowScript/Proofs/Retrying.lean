import FlowScript.Proofs.Fetching

/-!
# Collecting again after a failure

One library may be filled by many calls, and a call that fails leaves in it what was fetched before
the failure.  A later call passes over a name that the library holds, with all that stands behind
it.  So a module whose own references were still to be fetched when a call failed may keep them
missing, also after a call that succeeds.

* `Library.Leads`: the modules that a graph refers to, directly or through modules that are held;
  `Library.CompleteFor`: all of these are held;
* `Source.Visits.mem_iff_fresh`: a walk goes through names that have not been seen;
* `Library.abandoned`: the modules that were fetched by calls that failed;
* `Library.Covers.collectInTurn`: the references of all other modules are held;
* `Library.completeFor_collect_iff`: when a graph has all its modules after a call that succeeds.
-/

namespace FlowScript

/-! ### Names behind names that have been seen -/

namespace Source

variable {s : Source} {seen names order : List String}

/-- The graph under a name refers to another name, which has not been seen. -/
def Onward (s : Source) (seen : List String) (name next : String) : Prop :=
  next ∈ s.references name ∧ next ∉ seen

theorem Onward.of_append {more : List String} {first name : String}
    (path : Relation.ReflTransGen (s.Onward (seen ++ more)) first name) :
    Relation.ReflTransGen (s.Onward seen) first name := by
  refine Relation.ReflTransGen.mono ?_ _ _ path
  exact fun _ _ step => ⟨step.1, mt (List.mem_append_left more) step.2⟩

namespace Visits

/-- A name is visited because it can be reached through names that have not been seen. -/
theorem reached_fresh (h : s.Visits seen names order) :
    ∀ name ∈ order, ∃ first ∈ names, first ∉ seen ∧
      Relation.ReflTransGen (s.Onward seen) first name := by
  induction h with
  | nil => exact fun _ mem => absurd mem List.not_mem_nil
  | skip _ _ ih =>
    intro x hx
    obtain ⟨first, mem, fresh, path⟩ := ih x hx
    exact ⟨first, List.mem_cons_of_mem _ mem, fresh, path⟩
  | @enter seen _ inner _ name fresh _ _ inside after =>
    intro x hx
    rcases List.mem_cons.1 hx with rfl | hx
    · exact ⟨x, List.mem_cons_self, fresh, .refl⟩
    · rcases List.mem_append.1 hx with hx | hx
      · obtain ⟨first, mem, new, path⟩ := inside x hx
        have new := mt (List.mem_append_left [name]) new
        exact ⟨name, List.mem_cons_self, fresh, .head ⟨mem, new⟩ (Onward.of_append path)⟩
      · obtain ⟨first, mem, new, path⟩ := after x hx
        have new := mt (List.mem_append_left (name :: inner)) new
        exact ⟨first, List.mem_cons_of_mem _ mem, new, Onward.of_append path⟩

/-- The walk visits what can be reached through names that have not been seen. -/
theorem mem_iff_fresh (h : s.Visits seen names order) {name : String} :
    name ∈ order ↔ ∃ first ∈ names, first ∉ seen ∧
      Relation.ReflTransGen (s.Onward seen) first name := by
  refine ⟨h.reached_fresh name, ?_⟩
  rintro ⟨first, mem, fresh, path⟩
  induction path with
  | refl => exact (List.mem_append.1 (h.covers.1 first mem)).resolve_left fresh
  | tail _ edge ih => exact (List.mem_append.1 (h.covers.2 _ ih _ edge.1)).resolve_left edge.2

end Visits

end Source

namespace Library

variable {s : Source} {lib : Library} {g : Graph} {names : List String}

/-! ### One call -/

theorem get?_fetchAll (lib : Library) (s : Source) (names : List String) (name : String) :
    (lib.fetchAll s names).get? name =
      if name ∈ names then some (s.graphOf name) else lib.get? name := by
  induction names generalizing lib with
  | nil => rfl
  | cons first names ih =>
    have step : lib.fetchAll s (first :: names) =
        fetchAll (lib.insert first (s.graphOf first)) s names := rfl
    rw [step, ih, OrderedMap.get?_insert]
    by_cases later : name ∈ names
    · simp [later]
    · by_cases same : first = name
      · simp [same]
      · simp [later, same, Ne.symm same]

theorem mem_keys_fetchAll {name : String} :
    name ∈ (lib.fetchAll s names).keys ↔ name ∈ lib.keys ∨ name ∈ names := by
  rw [OrderedMap.mem_keys_iff, OrderedMap.mem_keys_iff, get?_fetchAll]
  by_cases mem : name ∈ names
  · simp [mem]
  · simp [mem]

/-- Of names that are fetched in turn all are held in the end, or those before a failure. -/
theorem exists_fetchInTurn (s : Source) (lib : Library) (fetched names : List String) :
    ∃ held, (fetchInTurn s lib fetched names).library = lib.fetchAll s held ∧
      (∀ name ∈ held, name ∈ names) ∧
      ((fetchInTurn s lib fetched names).failure = none →
        held = names ∧ (fetchInTurn s lib fetched names).fetched = fetched ++ names) := by
  induction names generalizing lib fetched with
  | nil => exact ⟨[], rfl, by simp, fun _ => ⟨rfl, (List.append_nil _).symm⟩⟩
  | cons name names ih =>
    cases fails : s.failures.get? name with
    | some reason =>
      simp only [fetchInTurn, fails]
      exact ⟨[], rfl, by simp, by simp⟩
    | none =>
      simp only [fetchInTurn, fails]
      obtain ⟨held, library, sub, done⟩ :=
        ih (lib.insert name (s.graphOf name)) (fetched ++ [name])
      refine ⟨name :: held, library, ?_, fun succeeds => ?_⟩
      · intro x hx
        exact (List.mem_cons.1 hx).elim (· ▸ List.mem_cons_self) fun hx =>
          List.mem_cons_of_mem _ (sub x hx)
      · obtain ⟨rfl, all⟩ := done succeeds
        exact ⟨rfl, by rw [all, List.append_assoc, List.singleton_append]⟩

theorem collect_eq_fetchInTurn (lib : Library) {order : List String}
    (walk : s.Visits lib.keys g.references order) :
    lib.collect g s = fetchInTurn s lib [] order :=
  collectPending_eq_fetchInTurn walk

/-- A call walks through the names that are not held, and holds what it visits: everything, unless
it fails. -/
theorem exists_fetchAll (lib : Library) (g : Graph) (s : Source) :
    ∃ order held, s.Visits lib.keys g.references order ∧
      (lib.collect g s).library = lib.fetchAll s held ∧ (∀ name ∈ held, name ∈ order) ∧
      ((lib.collect g s).failure = none → held = order ∧ (lib.collect g s).fetched = order) := by
  obtain ⟨order, walk⟩ := exists_visits s lib g.references
  obtain ⟨held, fetches⟩ := exists_fetchInTurn s lib [] order
  rw [← lib.collect_eq_fetchInTurn walk] at fetches
  exact ⟨order, held, walk, fetches⟩

/-- What a library holds is left as it is. -/
theorem within_collect (lib : Library) (g : Graph) (s : Source) :
    lib.Within (lib.collect g s).library := by
  obtain ⟨order, held, walk, library, sub, -⟩ := exists_fetchAll lib g s
  intro name m hm
  have old : name ∉ held := fun mem =>
    walk.nodup.2 name (sub name mem) (OrderedMap.mem_keys_iff.2 ⟨m, hm⟩)
  rw [library, get?_fetchAll, if_neg old, hm]

/-! ### Calls in turn -/

/-- The references of all modules of a library but some are in the library. -/
def Covers (lib : Library) (except : List String) : Prop :=
  ∀ name m, lib.get? name = some m → name ∉ except → ∀ next ∈ m.references, next ∈ lib.keys

/-- The modules of one library that another one does not hold. -/
def since (lib old : Library) : List String := lib.keys.filter (!old.contains ·)

/-- A call that succeeds leaves no reference of its own behind. -/
theorem Covers.collect_of_success {except : List String} (h : lib.Covers except)
    (done : (lib.collect g s).failure = none) : (lib.collect g s).library.Covers except := by
  obtain ⟨order, held, walk, library, -, succeeds⟩ := exists_fetchAll lib g s
  obtain ⟨rfl, -⟩ := succeeds done
  intro name m hm outside next mem
  rw [library, mem_keys_fetchAll]
  rw [library, get?_fetchAll] at hm
  split_ifs at hm with fetched
  · cases hm
    exact List.mem_append.1 (walk.covers.2 name fetched next mem)
  · exact .inl (h name m hm outside next mem)

/-- After any call, this holds of all modules but those that the call fetched. -/
theorem Covers.collect {except : List String} (h : lib.Covers except) (g : Graph) (s : Source) :
    (lib.collect g s).library.Covers (except ++ since (lib.collect g s).library lib) := by
  intro name m hm outside next mem
  obtain ⟨outside, old⟩ := not_or.1 (mt List.mem_append.2 outside)
  have held : name ∈ lib.keys := by
    by_contra fresh
    refine old (List.mem_filter.2 ⟨OrderedMap.mem_keys_iff.2 ⟨m, hm⟩, ?_⟩)
    simpa using mt OrderedMap.contains_iff.1 fresh
  obtain ⟨m', hm'⟩ := OrderedMap.mem_keys_iff.1 held
  obtain rfl : m' = m := Option.some.inj ((within_collect lib g s hm').symm.trans hm)
  obtain ⟨m', there⟩ := OrderedMap.mem_keys_iff.1 (h name m' hm' outside next mem)
  exact OrderedMap.mem_keys_iff.2 ⟨m', within_collect lib g s there⟩

/-- The library after calls in turn, for graphs with sources of their own. -/
def collectInTurn (lib : Library) : (calls : List (Graph × Source)) → Library
  | [] => lib
  | (g, s) :: calls => collectInTurn (lib.collect g s).library calls

/-- The modules that were fetched by those of the calls that failed. -/
def abandoned (lib : Library) : (calls : List (Graph × Source)) → List String
  | [] => []
  | (g, s) :: calls =>
    (if (lib.collect g s).failure = none then [] else since (lib.collect g s).library lib) ++
      abandoned (lib.collect g s).library calls

/-- After calls in turn, the references of all modules are held, but for those that were fetched by
calls that failed. -/
theorem Covers.collectInTurn {except : List String} (h : lib.Covers except)
    (calls : List (Graph × Source)) :
    (lib.collectInTurn calls).Covers (except ++ lib.abandoned calls) := by
  induction calls generalizing lib except with
  | nil =>
    rw [abandoned, List.append_nil]
    exact h
  | cons call calls ih =>
    obtain ⟨g, s⟩ := call
    rw [abandoned, ← List.append_assoc]
    refine ih ?_
    split_ifs with done
    · rw [List.append_nil]
      exact h.collect_of_success done
    · exact h.collect g s

/-! ### Complete libraries -/

/-- A graph leads to the modules that it refers to, and through a module that the library holds to
those that this one refers to. -/
inductive Leads (lib : Library) (g : Graph) : String → Prop
  | direct {name : String} (mem : name ∈ g.references) : Leads lib g name
  | through {name next : String} {m : Graph} (via : Leads lib g name)
    (held : lib.get? name = some m) (mem : next ∈ m.references) : Leads lib g next

/-- The library holds all modules that a graph leads to. -/
def CompleteFor (lib : Library) (g : Graph) : Prop := ∀ name, lib.Leads g name → name ∈ lib.keys

/-- A library is complete for a graph if it holds the references of the graph and of the modules
that the graph leads to. -/
theorem completeFor_iff : lib.CompleteFor g ↔ (∀ name ∈ g.references, name ∈ lib.keys) ∧
    ∀ {name m}, lib.Leads g name → lib.get? name = some m →
      ∀ next ∈ m.references, next ∈ lib.keys := by
  constructor
  · intro complete
    exact ⟨fun name mem => complete name (.direct mem), fun leads held next mem =>
      complete next (.through leads held mem)⟩
  · rintro ⟨direct, through⟩ name leads
    cases leads with
    | direct mem => exact direct name mem
    | through via held mem => exact through via held name mem

/-- One library is filled by calls, of which any may fail, and then a call for a graph succeeds.
This call fetches what the graph refers to through names that were not held before, and the library
holds all references of the graph.  It is complete for the graph exactly if it holds the references
of those modules behind the graph that were fetched by calls that failed. -/
theorem completeFor_collect_iff {calls : List (Graph × Source)} {lib : Library}
    (filled : collectInTurn .empty calls = lib) {g : Graph} {s : Source} {c : Collected}
    (call : lib.collect g s = c) (done : c.failure = none) :
    (∀ name, name ∈ c.fetched ↔ ∃ first ∈ g.references, first ∉ lib.keys ∧
      Relation.ReflTransGen (s.Onward lib.keys) first name) ∧
      (∀ name ∈ g.references, name ∈ c.library.keys) ∧
      (c.library.CompleteFor g ↔ ∀ name ∈ abandoned .empty calls, c.library.Leads g name →
        ∀ m, c.library.get? name = some m → ∀ next ∈ m.references, next ∈ c.library.keys) := by
  subst call
  have covers : (lib.collect g s).library.Covers (abandoned .empty calls) := by
    have start : Covers .empty [] := fun _ _ held => by cases held
    have before := start.collectInTurn calls
    rw [filled] at before
    exact before.collect_of_success done
  obtain ⟨order, held, walk, library, -, succeeds⟩ := exists_fetchAll lib g s
  obtain ⟨rfl, fetched⟩ := succeeds done
  have direct : ∀ name ∈ g.references, name ∈ (lib.collect g s).library.keys := by
    intro name mem
    rw [library, mem_keys_fetchAll]
    exact List.mem_append.1 (walk.covers.1 name mem)
  refine ⟨fun name => by rw [fetched]; exact walk.mem_iff_fresh, direct, ?_⟩
  rw [completeFor_iff]
  constructor
  · rintro ⟨-, through⟩ name - leads m hm
    exact through leads hm
  · refine fun missed => ⟨direct, fun {name m} leads hm => ?_⟩
    -- only a module that a failed call fetched may miss references
    by_cases failed : name ∈ abandoned .empty calls
    · exact missed name failed leads m hm
    · exact covers name m hm failed

end Library

namespace Sample

/-- What is left when the last name of the root cannot be fetched. -/
def kept : Library := Library.fetchAll .empty (looped []) ["loop", "back", "leaf"]

theorem collect_loopRoot : Library.collect .empty loopRoot (looped [("lost", "offline")]) =
    { library := kept, fetched := ["loop", "back", "leaf", "lost"],
      failure := some ⟨"lost", "offline"⟩ } :=
  Library.collect_eq_fetchInTurn .empty (looped_visits [("lost", "offline")])

theorem collect_kept : kept.collect loopRoot (looped []) =
    { library := kept.fetchAll (looped []) ["lost"], fetched := ["lost"], failure := none } := by
  have walk : (looped []).Visits kept.keys loopRoot.references ["lost"] := by
    rw [show loopRoot.references = ["loop", "loop", "lost"] by decide +kernel]
    refine .skip (by decide +kernel) (.skip (by decide +kernel) ?_)
    refine @Source.Visits.enter _ _ _ [] [] _ (by decide +kernel) ?_ .nil
    rw [show (looped []).references "lost" = [] by decide +kernel]
    exact .nil
  exact Library.collect_eq_fetchInTurn _ walk

/-- A call again fetches the name that failed, and that is all: the modules before it were fetched
with their references. -/
theorem completeFor_collect_kept :
    Library.collectInTurn .empty [(loopRoot, looped [("lost", "offline")])] = kept ∧
      Library.abandoned .empty [(loopRoot, looped [("lost", "offline")])] =
        ["loop", "back", "leaf"] ∧
      (kept.collect loopRoot (looped [])).failure = none ∧
      (kept.collect loopRoot (looped [])).fetched = ["lost"] ∧
      (kept.collect loopRoot (looped [])).library.CompleteFor loopRoot := by
  have filled : Library.collectInTurn .empty [(loopRoot, looped [("lost", "offline")])] = kept := by
    simp only [Library.collectInTurn, collect_loopRoot]
  have failed : Library.abandoned .empty [(loopRoot, looped [("lost", "offline")])] =
      ["loop", "back", "leaf"] := by
    simp only [Library.abandoned, collect_loopRoot]
    decide +kernel
  obtain ⟨-, -, complete⟩ := Library.completeFor_collect_iff filled collect_kept rfl
  refine ⟨filled, failed, by rw [collect_kept], by rw [collect_kept], ?_⟩
  rw [collect_kept, complete]
  have references : ∀ e ∈ (kept.fetchAll (looped []) ["lost"]).entries, ∀ next ∈ e.2.references,
      next ∈ (kept.fetchAll (looped []) ["lost"]).keys := by
    decide +kernel
  intro name _ _ m hm
  exact references (name, m) (OrderedMap.get?_eq_some_iff.1 hm)

/-- A module that calls another one, with some failures. -/
def chained (failures : List (String × String)) : Source where
  graphs := .ofList [("a", calling "a" ["b"]), ("b", calling "b" [])]
  failures := .ofList failures

def chainRoot : Graph := calling "main" ["a"]

/-- What is left when the inner module cannot be fetched. -/
def cut : Library := Library.fetchAll .empty (chained []) ["a"]

theorem collect_chainRoot : Library.collect .empty chainRoot (chained [("b", "offline")]) =
    { library := cut, fetched := ["a", "b"], failure := some ⟨"b", "offline"⟩ } := by
  have walk : (chained [("b", "offline")]).Visits [] chainRoot.references ["a", "b"] := by
    rw [show chainRoot.references = ["a"] by decide +kernel]
    refine @Source.Visits.enter _ _ _ ["b"] [] _ (by decide +kernel) ?_ .nil
    rw [show (chained [("b", "offline")]).references "a" = ["b"] by decide +kernel]
    refine @Source.Visits.enter _ _ _ [] [] _ (by decide +kernel) ?_ .nil
    rw [show (chained [("b", "offline")]).references "b" = [] by decide +kernel]
    exact .nil
  exact Library.collect_eq_fetchInTurn .empty walk

theorem collect_cut : cut.collect chainRoot (chained []) =
    { library := cut, fetched := [], failure := none } := by
  have walk : (chained []).Visits cut.keys chainRoot.references [] := by
    rw [show chainRoot.references = ["a"] by decide +kernel]
    exact .skip (by decide +kernel) .nil
  exact Library.collect_eq_fetchInTurn _ walk

/-- A call again succeeds without the inner module: the library holds the outer one, and passes over
it. -/
theorem not_completeFor_collect_cut :
    Library.collectInTurn .empty [(chainRoot, chained [("b", "offline")])] = cut ∧
      (cut.collect chainRoot (chained [])).failure = none ∧
      ¬ (cut.collect chainRoot (chained [])).library.CompleteFor chainRoot := by
  refine ⟨?_, by rw [collect_cut], fun complete => ?_⟩
  · simp only [Library.collectInTurn, collect_chainRoot]
  · rw [collect_cut] at complete
    have outer : cut.Leads chainRoot "a" := .direct (by decide +kernel)
    have held : cut.get? "a" = some (calling "a" ["b"]) := by decide +kernel
    exact absurd (complete "b" (outer.through held (by decide +kernel))) (by decide +kernel)

end Sample

end FlowScript
