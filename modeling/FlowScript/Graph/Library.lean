import FlowScript.Graph.Basic
import FlowScript.Language.Component

/-!
# Module libraries

Graphs refer to other graphs, their modules, by name.  `Library.collect` fetches everything that
a graph refers to, directly or through other modules, each name once and in the order of a
depth-first walk.  A name that the source does not know stands for an empty graph.  A failure
stops the walk and leaves what was fetched before it.
-/

namespace FlowScript

/-- The data entry of a module call that names its module. -/
def moduleKey : String := "module"

/-- Modules by name. -/
abbrev Library := OrderedMap String Graph

/-- Where modules are fetched from: graphs by name, and names that cannot be fetched, with the
reason. -/
structure Source where
  graphs : OrderedMap String Graph := .empty
  failures : OrderedMap String String := .empty

/-- A module that could not be fetched. -/
structure FetchError where
  name : String
  reason : String
  deriving DecidableEq

/-- The report on a module that could not be fetched. -/
def FetchError.message (e : FetchError) : String :=
  s!"Failed to load module '{e.name}': {e.reason}"

/-- The modules that a graph refers to, in node order, with repetitions. -/
def Graph.references (g : Graph) : List String :=
  g.nodes.values.filterMap fun n =>
    if n.component = ComponentTable.moduleCallName then
      (n.text? moduleKey).filter (· ≠ "")
    else none

/-- The outcome of collecting: the library, the names asked for in order, and the failure. -/
structure Collected where
  library : Library
  fetched : List String
  failure : Option FetchError

namespace Library

/-- How many graphs of a source are not in a library yet. -/
def missing (s : Source) (lib : Library) : Nat :=
  (s.graphs.keys.filter fun name => !lib.contains name).length

theorem missing_insert_lt {s : Source} {lib : Library} {name : String} {g module : Graph}
    (hs : s.graphs.get? name = some g) (hl : lib.contains name = false) :
    missing s (lib.insert name module) < missing s lib := by
  have mem : name ∈ s.graphs.keys := by
    have : s.graphs.get? name ≠ none := by rw [hs]; simp
    exact Decidable.not_not.1 fun h => this (OrderedMap.get?_eq_none_iff.2 h)
  have grows : ∀ k, lib.contains k = true → (lib.insert name module).contains k = true := by
    intro k hk
    rw [OrderedMap.contains_iff] at hk ⊢
    rw [OrderedMap.keys_insert]
    split
    · exact hk
    · exact List.mem_append_left _ hk
  have inserted : (lib.insert name module).contains name = true := by
    simp [OrderedMap.contains]
  have key : ∀ l : List String,
      (l.filter fun k => !(lib.insert name module).contains k).length ≤
        (l.filter fun k => !lib.contains k).length ∧
      (name ∈ l → (l.filter fun k => !(lib.insert name module).contains k).length <
        (l.filter fun k => !lib.contains k).length) := by
    intro l
    induction l with
    | nil => simp
    | cons k rest ih =>
      by_cases hk : k = name
      · subst hk
        simp only [List.filter_cons, inserted, hl, Bool.not_true, Bool.not_false,
          Bool.false_eq_true, ↓reduceIte, List.length_cons]
        exact ⟨by omega, fun _ => by omega⟩
      · cases hc : lib.contains k with
        | true =>
          simp only [List.filter_cons, hc, grows k hc, Bool.not_true, Bool.false_eq_true,
            ↓reduceIte, List.mem_cons]
          exact ⟨ih.1, fun h => ih.2 (h.resolve_left fun e => hk e.symm)⟩
        | false =>
          cases hi : (lib.insert name module).contains k with
          | true =>
            simp only [List.filter_cons, hc, hi, Bool.not_true, Bool.not_false,
              Bool.false_eq_true, ↓reduceIte, List.length_cons]
            exact ⟨by omega, fun _ => by omega⟩
          | false =>
            simp only [List.filter_cons, hc, hi, Bool.not_false, ↓reduceIte, List.length_cons,
              List.mem_cons]
            refine ⟨by omega, fun h => ?_⟩
            have := ih.2 (h.resolve_left fun e => hk e.symm)
            omega
  exact (key s.graphs.keys).2 mem

theorem missing_insert_eq {s : Source} {lib : Library} {name : String} {module : Graph}
    (hs : s.graphs.get? name = none) :
    missing s (lib.insert name module) = missing s lib := by
  have absent : name ∉ s.graphs.keys := OrderedMap.get?_eq_none_iff.1 hs
  unfold missing
  congr 1
  apply List.filter_congr
  intro k hk
  have hne : ¬ name = k := fun e => absent (e ▸ hk)
  simp [OrderedMap.contains, OrderedMap.get?_insert, hne]

/-- Fetch pending names and what they refer to, the first one first. -/
def collectPending (s : Source) (lib : Library) (fetched : List String) :
    (pending : List String) → Collected
  | [] => { library := lib, fetched, failure := none }
  | name :: rest =>
    if _hl : lib.contains name = true then collectPending s lib fetched rest
    else
      match s.failures.get? name with
      | some reason =>
        { library := lib, fetched := fetched ++ [name], failure := some { name, reason } }
      | none =>
        match _hs : s.graphs.get? name with
        | some module =>
          collectPending s (lib.insert name module) (fetched ++ [name])
            (module.references ++ rest)
        | none => collectPending s (lib.insert name { name }) (fetched ++ [name]) rest
termination_by pending => (missing s lib, pending.length)
decreasing_by
  · exact Prod.Lex.right _ (by simp)
  · exact Prod.Lex.left _ _ (missing_insert_lt (by assumption) (by simp_all))
  · rw [missing_insert_eq (by assumption)]
    exact Prod.Lex.right _ (by simp)

/-- Fetch everything that a graph refers to and that the library does not hold yet. -/
def collect (lib : Library) (g : Graph) (s : Source) : Collected :=
  collectPending s lib [] g.references

end Library

end FlowScript
