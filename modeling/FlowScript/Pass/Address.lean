import FlowScript.Decimal.Digits
import FlowScript.Graph.Node

/-!
# Addresses

Module calls are expanded in place, so a node of a module occurs once for each way to call it.  An
address names one occurrence: the module calls on the way, outermost first, and the node in the
graph that they lead to.  Identifiers made up for generated text are built from addresses.
-/

namespace FlowScript

/-- One occurrence of a node in the expanded program. -/
structure Address where
  path : List NodeId
  id : NodeId
  deriving DecidableEq, Inhabited

namespace Address

/-- The address of a node of the root graph. -/
def root (id : NodeId) : Address := ⟨[], id⟩

/-- Another node of the same graph. -/
def sibling (a : Address) (id : NodeId) : Address := ⟨a.path, id⟩

/-- The node of the root graph under which the occurrence lies. -/
def rootId (a : Address) : NodeId := a.path.head?.getD a.id

/-- The numbers on the way to the node and its own. -/
def numbers (a : Address) : List NodeId := a.path ++ [a.id]

/-- The numbers in decimal, with underscores between them. -/
def suffix (a : Address) : String := "_".intercalate (a.numbers.map Decimal.text)

/-- The identifier of the value of the occurrence. -/
def ident (a : Address) : String := "_" ++ a.suffix

/-- The identifier of one parameter of a definition. -/
def paramIdent (a : Address) (i : Nat) : String := a.ident ++ "_" ++ Decimal.text i

/-- The identifier of one index of a loop. -/
def indexIdent (a : Address) (i : Nat) : String := "x" ++ Decimal.text i ++ "_" ++ a.suffix

/-- The innermost module call, in the graph that makes it. -/
def callSite? (a : Address) : Option Address :=
  a.path.getLast?.map fun id => ⟨a.path.dropLast, id⟩

/-- A node of the module that the occurrence calls. -/
def inside (a : Address) (id : NodeId) : Address := ⟨a.path ++ [a.id], id⟩

@[simp] theorem callSite?_root (id : NodeId) : (root id).callSite? = none := rfl

@[simp] theorem callSite?_inside (a : Address) (id : NodeId) :
    (a.inside id).callSite? = some a := by
  simp [callSite?, inside]

theorem inside_of_callSite? {a b : Address} (h : a.callSite? = some b) : b.inside a.id = a := by
  obtain ⟨path, id⟩ := a
  simp only [callSite?, Option.map_eq_some_iff] at h
  obtain ⟨x, hx, rfl⟩ := h
  simp only [inside]
  rw [← List.dropLast_concat_getLast (l := path) (by intro e; simp [e] at hx)]
  congr 1
  simp only [List.getLast?_eq_some_iff] at hx
  obtain ⟨ys, rfl⟩ := hx
  simp

@[simp] theorem rootId_inside (a : Address) (id : NodeId) : (a.inside id).rootId = a.rootId := by
  obtain ⟨path, n⟩ := a
  cases path <;> simp [rootId, inside]

end Address

end FlowScript
