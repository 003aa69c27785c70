import Mathlib.Data.List.Basic
import Mathlib.Tactic
import FlowScript.Shape.Adapt

/-!
# Numbered slots without gaps

A family of slots is added to from its end and shortened from its end, so its numbers run from zero
without a gap as long as nobody else removes a port.

* `Numbered stem keys n`: the slots of a family among some keys are those below `n`, in order;
* `Numbered.append_next`, `Numbered.without`: growing by the next slot and shrinking to a count;
* `Node.count?_le`: a count read from data is one that slots can be numbered by.
-/

namespace FlowScript

theorem Decimal.le_maxCount_of_bareCount? {cs : List Char} {n : Nat}
    (h : Decimal.bareCount? cs = some n) : n ≤ Decimal.maxCount := by
  unfold Decimal.bareCount? at h
  split_ifs at h with hc
  cases h
  exact hc.2.2

theorem Decimal.le_maxCount_of_count? {cs : List Char} {n : Nat}
    (h : Decimal.count? cs = some n) : n ≤ Decimal.maxCount := by
  unfold Decimal.count? at h
  split at h <;> exact Decimal.le_maxCount_of_bareCount? h

/-- A count in the data is at most `maxCount`. -/
theorem Node.count?_le {n : Node} {key : String} {c : Nat} (h : n.count? key = some c) :
    c ≤ Decimal.maxCount := by
  unfold Node.count? at h
  split at h
  · split_ifs at h with hz
    cases h
    omega
  · exact Decimal.le_maxCount_of_count? h
  · cases h

theorem Node.count?_getD_le (n : Node) (key : String) {d : Nat} (hd : d ≤ Decimal.maxCount) :
    (n.count? key).getD d ≤ Decimal.maxCount := by
  cases h : n.count? key with
  | none => exact hd
  | some c => exact Node.count?_le h

theorem Graph.fieldCount_le (fields : Option (List FieldDesc)) (target : Option Node) :
    Graph.fieldCount fields target ≤ Decimal.maxCount := by
  unfold Graph.fieldCount
  split
  · exact Nat.min_le_right _ _
  · decide
  · exact Nat.zero_le _

/-! ### Keys of a family -/

theorem slotKey_injective {stem : String} {i j : Nat} (h : slotKey stem i = slotKey stem j) :
    i = j := by
  have h' := congrArg String.toList h
  simp only [slotKey, Decimal.text, String.toList_append, String.toList_ofList,
    List.append_cancel_left_eq] at h'
  exact Decimal.digits_injective h'

/-- Whether a key belongs to a family of slots. -/
def isSlot (stem key : String) : Bool := (slotIndex? stem key).isSome

theorem isSlot_slotKey (stem : String) {i : Nat} (h : i ≤ Decimal.maxCount) :
    isSlot stem (slotKey stem i) = true := by
  simp [isSlot, slotIndex?_slotKey stem h]

/-- The slots of a family among some keys are those below a number, in order. -/
def Numbered (stem : String) (keys : List String) (n : Nat) : Prop :=
  keys.filter (isSlot stem) = (List.range n).map (slotKey stem)

namespace Numbered

variable {stem : String} {keys : List String} {n : Nat}

theorem mem_iff (h : Numbered stem keys n) {i : Nat} (hi : i ≤ Decimal.maxCount) :
    slotKey stem i ∈ keys ↔ i < n := by
  have key : slotKey stem i ∈ keys.filter (isSlot stem) ↔ slotKey stem i ∈ keys := by
    simp [isSlot_slotKey stem hi]
  rw [← key, h]
  simp only [List.mem_map, List.mem_range]
  constructor
  · rintro ⟨j, hj, e⟩
    exact slotKey_injective e ▸ hj
  · exact fun hi => ⟨i, hi, rfl⟩

/-- A key of no slot of the family changes nothing. -/
theorem append_other (h : Numbered stem keys n) {key : String} (hk : isSlot stem key = false) :
    Numbered stem (keys ++ [key]) n := by
  unfold Numbered
  rw [List.filter_append, h]
  simp [hk]

/-- The next slot makes the family longer by one. -/
theorem append_next (h : Numbered stem keys n) (hn : n ≤ Decimal.maxCount) :
    Numbered stem (keys ++ [slotKey stem n]) (n + 1) := by
  unfold Numbered
  rw [List.filter_append, h, List.range_succ, List.map_append]
  simp [isSlot_slotKey stem hn]

/-- Without the slots from a number on, the family ends there. -/
theorem without (h : Numbered stem keys n) {m : Nat} (hm : m ≤ n) :
    Numbered stem (keys.filter fun key => key ∉ (between m n).map (slotKey stem)) m := by
  unfold Numbered
  rw [List.filter_comm, h, List.filter_map]
  congr 1
  have below : ∀ i ∈ List.range n,
      (((fun key => decide (key ∉ (between m n).map (slotKey stem))) ∘ slotKey stem) i = true ↔
        i < m) := by
    intro i hi
    rw [Function.comp_apply, decide_eq_true_iff]
    simp only [List.mem_map, between, List.mem_range'_1, not_exists, not_and,
      List.mem_range] at hi ⊢
    constructor
    · intro hall
      by_contra hge
      exact hall i ⟨by omega, by omega⟩ rfl
    · rintro hlt j hj e
      have := slotKey_injective e
      omega
  obtain ⟨d, rfl⟩ := Nat.exists_eq_add_of_le hm
  rw [List.range_add, List.filter_append, List.filter_eq_self.2, List.filter_eq_nil_iff.2,
    List.append_nil]
  · intro i hi
    have hi' : i ∈ List.range (m + d) := by rw [List.range_add]; exact List.mem_append_right _ hi
    rw [below i hi']
    simp only [List.mem_map, List.mem_range] at hi
    omega
  · intro i hi
    have hi' : i ∈ List.range (m + d) := by rw [List.range_add]; exact List.mem_append_left _ hi
    rw [below i hi']
    exact List.mem_range.1 hi

end Numbered

end FlowScript
