import FlowScript.Proofs.Linked
import FlowScript.Proofs.Lockstep
import FlowScript.Proofs.Roots
import FlowScript.Proofs.Termination

/-!
# Collected modules are enough

Collecting follows the names in module calls, and a pass follows module calls by their kind and
their place.  A pass enters no module but those that were collected: with a library that holds these
and more, a graph is compiled in the same way.

* `Library.Collecting`: what holds while names are pending; `Collecting.collectPending`: and in the
  end;
* `Program.SelfContained`: every module that is referred to is in the library;
* `SelfContained.parallel`: more modules leave a pass as it is; `Library.Within.fuel_le`: and only
  give it more fuel;
* `compileFrom_eq_compile`: collecting first, or compiling with a library that is large enough.
-/

namespace FlowScript

/-! ### Collecting -/

/-- References are not empty. -/
theorem Graph.ne_of_mem_references {g : Graph} {name : String} (h : name ∈ g.references) :
    name ≠ "" := by
  obtain ⟨n, -, hn⟩ := List.mem_filterMap.1 h
  split_ifs at hn
  simpa using (Option.filter_eq_some_iff.1 hn).2

namespace Library

/-- While modules are collected for a graph, everything that the graph or a collected module refers
to is collected or pending, no name is empty, and modules are as the source has them, or empty. -/
structure Collecting (g : Graph) (source : Source) (lib : Library) (pending : List String) :
    Prop where
  covered : ∀ m ∈ g :: lib.values, ∀ name ∈ m.references, name ∈ lib.keys ∨ name ∈ pending
  named : ∀ name, name ∈ lib.keys ∨ name ∈ pending → name ≠ ""
  origin : ∀ m ∈ lib.values, m ∈ source.graphs.values ∨ ∃ name, m = { name }

namespace Collecting

variable {g : Graph} {source : Source} {lib : Library} {name : String} {pending : List String}

theorem start (g : Graph) (source : Source) : Collecting g source .empty g.references where
  covered m hm name mem := by
    obtain rfl : m = g := by simpa [OrderedMap.values, OrderedMap.empty] using hm
    exact .inr mem
  named name mem := by
    refine Graph.ne_of_mem_references (g := g) ?_
    simpa [OrderedMap.keys, OrderedMap.empty] using mem
  origin := nofun

/-- A name that was collected before is dropped. -/
theorem skip (h : Collecting g source lib (name :: pending)) (known : name ∈ lib.keys) :
    Collecting g source lib pending where
  covered m hm x mem := by
    rcases h.covered m hm x mem with there | there
    · exact .inl there
    · rcases List.mem_cons.1 there with rfl | there
      · exact .inl known
      · exact .inr there
  named x mem := h.named x (mem.imp_right (List.mem_cons_of_mem _))
  origin := h.origin

/-- The references of a module that is fetched are pending from then on. -/
theorem fetch (h : Collecting g source lib (name :: pending)) {module : Graph}
    (origin : module ∈ source.graphs.values ∨ ∃ name, module = { name }) :
    Collecting g source (lib.insert name module) (module.references ++ pending) := by
  have keys : ∀ x, x ∈ (lib.insert name module).keys ↔ x = name ∨ x ∈ lib.keys := by
    intro x
    rw [OrderedMap.mem_keys_iff, OrderedMap.mem_keys_iff, OrderedMap.get?_insert]
    by_cases same : name = x
    · simp [same]
    · simp [same, Ne.symm same]
  have values : ∀ m ∈ (lib.insert name module).values, m = module ∨ m ∈ lib.values := by
    intro m hm
    obtain ⟨k, hk⟩ := OrderedMap.mem_values_iff.1 hm
    rw [OrderedMap.get?_insert] at hk
    split_ifs at hk
    · exact .inl (Option.some.inj hk).symm
    · exact .inr (OrderedMap.mem_values_iff.2 ⟨k, hk⟩)
  constructor
  · intro m hm x mem
    rw [keys, List.mem_append]
    have old : m = module ∨ m ∈ g :: lib.values := by
      rcases List.mem_cons.1 hm with rfl | hm
      · exact .inr (List.mem_cons_self ..)
      · exact (values m hm).imp_right (List.mem_cons_of_mem _)
    rcases old with rfl | hm
    · exact .inr (.inl mem)
    · rcases h.covered m hm x mem with there | there
      · exact .inl (.inr there)
      · rcases List.mem_cons.1 there with rfl | there
        · exact .inl (.inl rfl)
        · exact .inr (.inr there)
  · intro x mem
    rw [keys, List.mem_append] at mem
    rcases mem with (rfl | there) | (there | there)
    · exact h.named x (.inr (List.mem_cons_self ..))
    · exact h.named x (.inl there)
    · exact Graph.ne_of_mem_references there
    · exact h.named x (.inr (List.mem_cons_of_mem _ there))
  · intro m hm
    rcases values m hm with rfl | hm
    · exact origin
    · exact h.origin m hm

/-- When collecting has come to an end without a failure, no name is pending. -/
theorem collectPending (h : Collecting g source lib pending) {fetched : List String}
    (done : (Library.collectPending source lib fetched pending).failure = none) :
    Collecting g source (Library.collectPending source lib fetched pending).library [] := by
  fun_induction Library.collectPending source lib fetched pending with
  | case1 => exact h
  | case2 lib fetched name rest known ih => 
    exact ih (h.skip (OrderedMap.contains_iff.1 known)) done
  | case3 => cases done
  | case4 lib fetched name rest fresh failing module found ih =>
    exact ih (h.fetch (.inl (OrderedMap.mem_values_iff.2 ⟨name, found⟩))) done
  | case5 lib fetched name rest fresh failing absent ih =>
    exact ih (h.fetch (.inr ⟨name, rfl⟩)) done

end Collecting

/-- One library holds what another one holds, with the same graphs under the same names. -/
def Within (lib lib' : Library) : Prop :=
  ∀ {name m}, lib.get? name = some m → lib'.get? name = some m

namespace Within

variable {lib lib' : Library} (h : lib.Within lib')
include h

theorem subperm : lib.entries.Subperm lib'.entries :=
  List.subperm_of_subset (lib.nodup.of_map _) fun _ mem =>
    OrderedMap.get?_eq_some_iff.1 (h (OrderedMap.get?_eq_some_iff.2 mem))

theorem sum_le (f : Graph → Nat) : (lib.values.map f).sum ≤ (lib'.values.map f).sum := by
  obtain ⟨l, perm, sub⟩ := h.subperm
  unfold OrderedMap.values
  rw [List.map_map, List.map_map, ← (perm.map _).sum_eq]
  exact (sub.map _).sum_le_sum fun _ _ => Nat.zero_le _

/-- More modules give a program more fuel. -/
theorem fuel_le (lang : Language) (g : Graph) (c : Settings) (depth : Nat) :
    Program.fuel ⟨lang, g, lib, c⟩ depth ≤ Program.fuel ⟨lang, g, lib', c⟩ depth := by
  have size : lib.size ≤ lib'.size := h.subperm.length_le
  have nodes := h.sum_le (·.nodes.size)
  have wires := h.sum_le (·.wires.length)
  have occurrences : Program.occurrences ⟨lang, g, lib, c⟩ depth ≤
      Program.occurrences ⟨lang, g, lib', c⟩ depth := by
    simp only [Program.occurrences, Program.graphs, Program.foldl_add_eq_sum, List.map_cons,
      List.sum_cons]
    exact (Nat.pow_le_pow_left (by omega) _).trans (Nat.pow_le_pow_right (by omega) (by omega))
  simp only [Program.fuel, Program.graphs, Program.foldl_add_eq_sum, List.map_cons, List.sum_cons]
  gcongr

end Within

end Library

/-! ### Programs with all their modules -/

namespace Program

variable {p : Program}

/-- Every module that a graph of the program refers to is in the library, under a name. -/
structure SelfContained (p : Program) : Prop where
  references : ∀ g ∈ p.graphs, ∀ name ∈ g.references, name ∈ p.library.keys
  named : p.library.get? "" = none

/-- A module call refers to the module that it names. -/
theorem mem_references {g : Graph} {id : NodeId} {n : Node} (regular : p.lang.Regular)
    (hn : g.node? id = some n) (call : p.kind? n = some .moduleCall)
    (filled : n.textD moduleKey ≠ "") : n.textD moduleKey ∈ g.references := by
  refine List.mem_filterMap.2 ⟨n, OrderedMap.mem_values_iff.2 ⟨id, hn⟩, ?_⟩
  rw [if_pos (regular.moduleCall call), Node.text?_of_textD rfl filled, Option.filter_some,
    if_pos (by simpa using filled)]

/-- More modules, under names, leave the graphs on the way of a pass as they are. -/
theorem SelfContained.parallel (h : p.SelfContained) (regular : p.lang.Regular) (placed : p.Placed)
    {library : Library} (within : p.library.Within library) (named : library.get? "" = none) :
    p.Parallel { p with library } p.OnPath where
  lang := rfl
  nil := .nil
  outer here := here.of_concat.1
  graph := by
    intro path here
    induction here with
    | nil => rfl
    | @snoc path call n g outer node kind callee fresh ih =>
      -- a call on the way names a module, since no module has the empty name
      have filled : n.textD moduleKey ≠ "" := by
        intro empty
        rw [empty, h.named] at callee
        cases callee
      have text := Node.text?_of_textD rfl filled
      have node' : Program.node? { p with library } ⟨path, call⟩ = some n := by
        rw [← node, node?, node?, ih]
      rw [graphAt?_inside node, graphAt?_inside node', Library.callee?, Library.callee?, text]
      exact (within callee).trans callee.symm
  callee := by
    intro path n here holds call
    by_cases filled : n.textD moduleKey = ""
    · rw [filled, h.named, named]
    · -- the kind of the node and its name make it a reference, which is in both libraries
      obtain ⟨g, id, hg, hn⟩ := holds
      have mem := h.references g (graphAt?_mem hg) _ (mem_references regular hn call filled)
      obtain ⟨m, hm⟩ := OrderedMap.mem_keys_iff.1 mem
      exact (within hm).trans hm.symm
  inner := by
    intro path n here holds call entered
    obtain ⟨g, id, hg, hn⟩ := holds
    obtain ⟨m, hm⟩ := Option.isSome_iff_exists.1 entered
    obtain ⟨callee, fresh⟩ := entered?_eq_some.1 hm
    exact .snoc here (placed.node?_sibling (a := ⟨path, n.id⟩) hg hn) call callee fresh

end Program

namespace Library.Collecting

variable {g : Graph} {source : Source} {lib : Library} (h : Collecting g source lib [])
  (lang : Language) (c : Settings)
include h

theorem selfContained : Program.SelfContained ⟨lang, g, lib, c⟩ where
  references m hm name mem := (h.covered m hm name mem).resolve_right List.not_mem_nil
  named := OrderedMap.get?_eq_none_iff.2 fun mem => h.named "" (.inl mem) rfl

theorem placed (placed : ∀ m ∈ g :: source.graphs.values, ∀ {id n}, m.node? id = some n → n.id = id) :
    Program.Placed ⟨lang, g, lib, c⟩ := by
  intro m hm id n hn
  rcases List.mem_cons.1 hm with rfl | hm
  · exact placed _ (List.mem_cons_self ..) hn
  · rcases h.origin m hm with fetched | ⟨name, rfl⟩
    · exact placed m (List.mem_cons_of_mem _ fetched) hn
    · cases hn

end Library.Collecting

/-- Under the same settings, passes at the same step have the same output. -/
theorem Pass.Alike.finish_eq {c : Settings} {s s' : Pass} (h : Alike c c s s') :
    s.finish c = s'.finish c := by
  have imports : s.importText c = s'.importText c := by simp only [importText, h.imports]
  have height : s.importHeight = s'.importHeight := by simp only [importHeight, h.imports]
  have texts : s.bodyText c = s'.bodyText c :=
    congrArg String.join <| h.map_body (.refl c) fun line => by
      simp only [Line.render, line.depth, line.text (.refl c)]
  have owners := h.map_body (.refl c) fun line => line.owner
  simp only [finish, Output.mk.injEq, imports, texts, height, owners, true_and]
  exact ⟨h.imports, h.main, h.diagnostics⟩

/-- A graph whose modules are collected from a source is compiled as with any library that holds
the collected modules and, under names, whatever else: the output is the same, and one pass comes to
an end where the other does. -/
theorem compileFrom_eq_compile {lang : Language} {patterns : PatternReader} {core : CoreDesc}
    {surface : SurfaceDesc} {extra : ExtraDesc}
    (loaded : Language.load patterns core surface extra = .ok lang) {g : Graph}
    {source : Source}
    (placed : ∀ m ∈ g :: source.graphs.values, ∀ {id n}, m.node? id = some n → n.id = id)
    {c : Settings} {result : Option Output} (success : compileFrom lang g source c = .ok result)
    {library : Library} (within : (Library.collect .empty g source).library.Within library)
    (named : library.get? "" = none) :
    (∀ o, result = some o → compile lang g library c = some o) ∧
      ((∃ s, Program.Ends ⟨lang, g, (Library.collect .empty g source).library, c⟩ s) ↔
        ∃ s, Program.Ends ⟨lang, g, library, c⟩ s) ∧
      ∀ s s', Program.Ends ⟨lang, g, (Library.collect .empty g source).library, c⟩ s →
        Program.Ends ⟨lang, g, library, c⟩ s' → s.finish c = s'.finish c := by
  obtain ⟨done, rfl⟩ : (Library.collect .empty g source).failure = none ∧
      result = compile lang g (Library.collect .empty g source).library c := by
    unfold compileFrom at success
    dsimp only at success
    split at success
    · cases success
    · rename_i done
      exact ⟨done, (Except.ok.inj success).symm⟩
  have complete := (Library.Collecting.start g source).collectPending done
  have parallel := (complete.selfContained lang c).parallel (Language.regular_of_load loaded)
    (complete.placed lang c placed) within named
  refine ⟨fun o compiled => ?_, parallel.ends_iff, fun s s' ends ends' =>
    (parallel.alike ends ends').finish_eq⟩
  obtain ⟨s, ran, rfl⟩ := Option.map_eq_some_iff.1 compiled
  -- the pass with the larger library ends with the same fuel, and it has more
  obtain ⟨s', ran', alike⟩ := parallel.exists_runWith? ran
  have more := within.fuel_le lang g c 0
  exact Option.map_eq_some_iff.2 ⟨s', Program.runWith?_mono _ more ran', alike.finish_eq.symm⟩

/-- A name that is not collected yet and that the source has a graph for is fetched. -/
theorem Library.collectPending_fetch {source : Source} {lib : Library} {name : String}
    {module : Graph} {fetched rest : List String} (fresh : lib.contains name = false)
    (able : source.failures.get? name = none) (found : source.graphs.get? name = some module) :
    collectPending source lib fetched (name :: rest) =
      collectPending source (lib.insert name module) (fetched ++ [name])
        (module.references ++ rest) := by
  rw [collectPending, dif_neg (by simp [fresh])]
  simp only [able]
  split
  · rename_i m hm
    cases hm.symm.trans found
    rfl
  · rename_i absent
    cases absent.symm.trans found

namespace Sample

/-- A module of the program. -/
def shelf (name : String) : Graph := (buried.library.get? name).getD { name }

/-- A source of modules, of which the program calls two, one in the other. -/
def stock : Source where
  graphs := OrderedMap.ofList [("inner", shelf "inner"), ("spare", { name := "spare" }),
    ("outer", shelf "outer")]

theorem collect_stock : Library.collect .empty buried.root stock =
    { library := buried.library, fetched := ["outer", "inner"], failure := none } := by
  have root : buried.root.references = ["outer"] := by decide +kernel
  have outer : stock.graphs.get? "outer" = some (shelf "outer") := by decide +kernel
  have calls : (shelf "outer").references ++ [] = ["inner"] := by decide +kernel
  have inner : stock.graphs.get? "inner" = some (shelf "inner") := by decide +kernel
  have last : (shelf "inner").references ++ [] = [] := by decide +kernel
  have all : (OrderedMap.empty.insert "outer" (shelf "outer")).insert "inner" (shelf "inner") =
      buried.library := by
    decide +kernel
  rw [Library.collect, root, Library.collectPending_fetch rfl rfl outer, calls,
    Library.collectPending_fetch rfl rfl inner, last, Library.collectPending, all]
  rfl

/-- The program is compiled from the source as with all modules of the source for a library. -/
theorem compileFrom_eq_compile_stock :
    compileFrom language buried.root stock = .ok (some (buriedPass.finish buried.settings)) ∧
      (Library.collect .empty buried.root stock).library.size < stock.graphs.size ∧
      compile language buried.root stock.graphs =
        some (buriedPass.finish buried.settings) := by
  have ran : buried.run? = some buriedPass :=
    buried.runWith?_mono (by decide +kernel) (Option.some_get buried_isSome).symm
  have success : compileFrom language buried.root stock =
      .ok (some (buriedPass.finish buried.settings)) := by
    have compiled : buried.compile? = some (buriedPass.finish buried.settings) := by
      rw [Program.compile?, ran, Option.map_some]
    simp only [compileFrom, collect_stock]
    exact congrArg Except.ok compiled
  have placed : ∀ m ∈ buried.root :: stock.graphs.values, ∀ {id n}, m.node? id = some n →
      n.id = id :=
    Program.id_of_entries rfl
  have within : (Library.collect .empty buried.root stock).library.Within stock.graphs := by
    have held : (buried.library.entries.all fun x => stock.graphs.get? x.1 = some x.2) = true := by
      decide +kernel
    rw [List.all_eq_true] at held
    rw [collect_stock]
    intro name m hm
    simpa using held _ (OrderedMap.get?_eq_some_iff.1 hm)
  obtain ⟨same, -, -⟩ := compileFrom_eq_compile load_eq placed success within (by decide +kernel)
  exact ⟨success, by rw [collect_stock]; decide +kernel, same _ rfl⟩

end Sample

end FlowScript
