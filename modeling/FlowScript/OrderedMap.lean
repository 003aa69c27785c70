/-!
# Insertion-ordered maps

A map that remembers the order in which its keys first came in.  Replacing a value keeps the
key's place, erasing a key keeps the order of the rest, and no key occurs twice: the last fact
is part of the type, so every operation below carries its proof.

* `get?`, `contains`, `keys`, `size`: the views;
* `insert`, `modify`, `erase`, `ofList`: the operations, each with its effect on the keys and on
  look-up.
-/

namespace FlowScript

/-- A finite map whose entries stand in the order of first insertion. -/
structure OrderedMap (κ ν : Type) where
  entries : List (κ × ν)
  nodup : (entries.map Prod.fst).Nodup

namespace OrderedMap

variable {κ ν μ : Type}

/-- The keys in order. -/
def keys (m : OrderedMap κ ν) : List κ := m.entries.map Prod.fst

/-- The values in order of their keys. -/
def values (m : OrderedMap κ ν) : List ν := m.entries.map Prod.snd

/-- The number of keys. -/
def size (m : OrderedMap κ ν) : Nat := m.entries.length

/-- The map without keys. -/
def empty : OrderedMap κ ν := ⟨[], .nil⟩

instance : EmptyCollection (OrderedMap κ ν) := ⟨empty⟩

instance : Inhabited (OrderedMap κ ν) := ⟨empty⟩

/-- Two maps with the same entries are equal. -/
@[ext] theorem ext {m n : OrderedMap κ ν} (h : m.entries = n.entries) : m = n := by
  cases m; cases n; simp only at h; subst h; rfl

instance [DecidableEq κ] [DecidableEq ν] : DecidableEq (OrderedMap κ ν) := fun m n =>
  decidable_of_iff (m.entries = n.entries) ⟨ext, fun h => h ▸ rfl⟩

variable [DecidableEq κ]

/-! ### Operations on entry lists -/

/-- The value beside the first occurrence of a key. -/
def lookupEntry (k : κ) : List (κ × ν) → Option ν
  | [] => none
  | (k', v) :: rest => if k' = k then some v else lookupEntry k rest

/-- Replace the value of a key in place, or append the key. -/
def insertEntry (k : κ) (v : ν) : List (κ × ν) → List (κ × ν)
  | [] => [(k, v)]
  | (k', v') :: rest => if k' = k then (k', v) :: rest else (k', v') :: insertEntry k v rest

/-- Change the value of a key in place. -/
def modifyEntry (k : κ) (f : ν → ν) : List (κ × ν) → List (κ × ν)
  | [] => []
  | (k', v) :: rest => if k' = k then (k', f v) :: rest else (k', v) :: modifyEntry k f rest

theorem lookupEntry_eq_none_iff {k : κ} {l : List (κ × ν)} :
    lookupEntry k l = none ↔ k ∉ l.map Prod.fst := by
  induction l with
  | nil => simp [lookupEntry]
  | cons e rest ih =>
    obtain ⟨k', v⟩ := e
    by_cases h : k' = k
    · simp [lookupEntry, h]
    · simp [lookupEntry, h, ih, Ne.symm h]

theorem map_fst_insertEntry (k : κ) (v : ν) (l : List (κ × ν)) :
    (insertEntry k v l).map Prod.fst =
      if k ∈ l.map Prod.fst then l.map Prod.fst else l.map Prod.fst ++ [k] := by
  induction l with
  | nil => simp [insertEntry]
  | cons e rest ih =>
    obtain ⟨k', v'⟩ := e
    by_cases h : k' = k
    · simp [insertEntry, h]
    · have h' : ¬ k = k' := fun e => h e.symm
      simp only [insertEntry, h, ↓reduceIte, List.map_cons, ih, List.mem_cons, h', false_or]
      split <;> simp

theorem map_fst_modifyEntry (k : κ) (f : ν → ν) (l : List (κ × ν)) :
    (modifyEntry k f l).map Prod.fst = l.map Prod.fst := by
  induction l with
  | nil => rfl
  | cons e rest ih =>
    obtain ⟨k', v⟩ := e
    by_cases h : k' = k <;> simp [modifyEntry, h, ih]

theorem nodup_insertEntry {k : κ} {v : ν} {l : List (κ × ν)} (h : (l.map Prod.fst).Nodup) :
    ((insertEntry k v l).map Prod.fst).Nodup := by
  rw [map_fst_insertEntry]
  split
  · exact h
  · rename_i hk
    refine List.nodup_append.2 ⟨h, by simp, ?_⟩
    intro a ha b hb e
    simp only [List.mem_singleton] at hb
    exact hk (hb ▸ e ▸ ha)

/-! ### The map operations -/

/-- The value of a key. -/
def get? (m : OrderedMap κ ν) (k : κ) : Option ν := lookupEntry k m.entries

/-- Whether a key is present. -/
def contains (m : OrderedMap κ ν) (k : κ) : Bool := (m.get? k).isSome

/-- Set the value of a key: a present key keeps its place, a new one goes to the end. -/
def insert (m : OrderedMap κ ν) (k : κ) (v : ν) : OrderedMap κ ν :=
  ⟨insertEntry k v m.entries, nodup_insertEntry m.nodup⟩

/-- Change the value of a key, if it is present. -/
def modify (m : OrderedMap κ ν) (k : κ) (f : ν → ν) : OrderedMap κ ν :=
  ⟨modifyEntry k f m.entries, by rw [map_fst_modifyEntry]; exact m.nodup⟩

/-- Keep the entries that pass a test, in order. -/
def filter (m : OrderedMap κ ν) (p : κ → ν → Bool) : OrderedMap κ ν :=
  ⟨m.entries.filter fun e => p e.1 e.2, m.nodup.sublist (List.filter_sublist.map Prod.fst)⟩

/-- Remove a key, keeping the order of the rest. -/
def erase (m : OrderedMap κ ν) (k : κ) : OrderedMap κ ν := m.filter fun k' _ => decide (k' ≠ k)

/-- Insert entries one after another: a repeated key keeps its first place and its last value. -/
def insertMany (m : OrderedMap κ ν) (l : List (κ × ν)) : OrderedMap κ ν :=
  l.foldl (fun m e => m.insert e.1 e.2) m

/-- The map of a list of entries. -/
def ofList (l : List (κ × ν)) : OrderedMap κ ν := insertMany empty l

/-! ### What the operations do to the views -/

@[simp] theorem get?_empty (k : κ) : (empty : OrderedMap κ ν).get? k = none := rfl

theorem contains_iff {m : OrderedMap κ ν} {k : κ} : m.contains k = true ↔ k ∈ m.keys := by
  unfold contains keys get?
  rw [Option.isSome_iff_ne_none, Ne, lookupEntry_eq_none_iff, Decidable.not_not]

theorem get?_eq_none_iff {m : OrderedMap κ ν} {k : κ} : m.get? k = none ↔ k ∉ m.keys :=
  lookupEntry_eq_none_iff

theorem mem_keys_iff {m : OrderedMap κ ν} {k : κ} : k ∈ m.keys ↔ ∃ v, m.get? k = some v := by
  rw [← Option.isSome_iff_exists, ← contains_iff, contains]

theorem lookupEntry_eq_some_iff {k : κ} {v : ν} {l : List (κ × ν)} (h : (l.map Prod.fst).Nodup) :
    lookupEntry k l = some v ↔ (k, v) ∈ l := by
  induction l with
  | nil => simp [lookupEntry]
  | cons e rest ih =>
    obtain ⟨k', v'⟩ := e
    rw [List.map_cons, List.nodup_cons] at h
    by_cases hk : k' = k
    · subst hk
      have absent : (k', v) ∉ rest := fun hm => h.1 (List.mem_map.2 ⟨_, hm, rfl⟩)
      simp [lookupEntry, absent, eq_comm]
    · have : ¬ k = k' := fun e => hk e.symm
      simp [lookupEntry, hk, this, ih h.2]

theorem get?_eq_some_iff {m : OrderedMap κ ν} {k : κ} {v : ν} :
    m.get? k = some v ↔ (k, v) ∈ m.entries := lookupEntry_eq_some_iff m.nodup

theorem mem_values_iff {m : OrderedMap κ ν} {v : ν} : v ∈ m.values ↔ ∃ k, m.get? k = some v := by
  simp only [values, List.mem_map, get?_eq_some_iff, Prod.exists, exists_eq_right]

theorem lookupEntry_insertEntry (k k₂ : κ) (v : ν) (l : List (κ × ν)) :
    lookupEntry k₂ (insertEntry k v l) = if k = k₂ then some v else lookupEntry k₂ l := by
  induction l with
  | nil => simp [insertEntry, lookupEntry]
  | cons e rest ih =>
    obtain ⟨k', v'⟩ := e
    by_cases h : k' = k
    · subst h
      by_cases h₂ : k' = k₂ <;> simp [insertEntry, lookupEntry, h₂]
    · by_cases h₂ : k' = k₂
      · subst h₂
        have : ¬ k = k' := fun e => h e.symm
        simp [insertEntry, lookupEntry, h, this]
      · simp [insertEntry, lookupEntry, h, h₂, ih]

theorem get?_insert (m : OrderedMap κ ν) (k k₂ : κ) (v : ν) :
    (m.insert k v).get? k₂ = if k = k₂ then some v else m.get? k₂ :=
  lookupEntry_insertEntry k k₂ v m.entries

@[simp] theorem get?_insert_self (m : OrderedMap κ ν) (k : κ) (v : ν) :
    (m.insert k v).get? k = some v := by rw [get?_insert]; simp

theorem keys_insert (m : OrderedMap κ ν) (k : κ) (v : ν) :
    (m.insert k v).keys = if k ∈ m.keys then m.keys else m.keys ++ [k] :=
  map_fst_insertEntry k v m.entries

@[simp] theorem keys_modify (m : OrderedMap κ ν) (k : κ) (f : ν → ν) :
    (m.modify k f).keys = m.keys := map_fst_modifyEntry k f m.entries

theorem lookupEntry_modifyEntry (k k₂ : κ) (f : ν → ν) (l : List (κ × ν)) :
    lookupEntry k₂ (modifyEntry k f l) =
      if k = k₂ then (lookupEntry k₂ l).map f else lookupEntry k₂ l := by
  induction l with
  | nil => simp [modifyEntry, lookupEntry]
  | cons e rest ih =>
    obtain ⟨k', v'⟩ := e
    by_cases h : k' = k
    · subst h
      by_cases h₂ : k' = k₂ <;> simp [modifyEntry, lookupEntry, h₂]
    · by_cases h₂ : k' = k₂
      · subst h₂
        have : ¬ k = k' := fun e => h e.symm
        simp [modifyEntry, lookupEntry, h, this]
      · simp [modifyEntry, lookupEntry, h, h₂, ih]

theorem get?_modify (m : OrderedMap κ ν) (k k₂ : κ) (f : ν → ν) :
    (m.modify k f).get? k₂ = if k = k₂ then (m.get? k₂).map f else m.get? k₂ :=
  lookupEntry_modifyEntry k k₂ f m.entries

/-- Changing an absent key does nothing. -/
theorem modify_of_get?_eq_none {m : OrderedMap κ ν} {k : κ} {f : ν → ν} (h : m.get? k = none) :
    m.modify k f = m := by
  have key : ∀ l : List (κ × ν), lookupEntry k l = none → modifyEntry k f l = l := by
    intro l
    induction l with
    | nil => intro _; rfl
    | cons e rest ih =>
      obtain ⟨k', v⟩ := e
      by_cases hk : k' = k
      · simp [lookupEntry, hk]
      · intro hl
        simp only [lookupEntry, hk, ↓reduceIte] at hl
        simp [modifyEntry, hk, ih hl]
  exact ext (key m.entries h)

theorem keys_erase (m : OrderedMap κ ν) (k : κ) :
    (m.erase k).keys = m.keys.filter fun k' => decide (k' ≠ k) := by
  unfold erase filter keys
  rw [List.filter_map]
  rfl

theorem lookupEntry_filter_ne (k k₂ : κ) (l : List (κ × ν)) :
    lookupEntry k₂ (l.filter fun e => decide (e.1 ≠ k)) =
      if k = k₂ then none else lookupEntry k₂ l := by
  induction l with
  | nil => simp [lookupEntry]
  | cons e rest ih =>
    obtain ⟨k', v'⟩ := e
    by_cases h : k' = k
    · subst h
      by_cases h₂ : k' = k₂
      · simp only [h₂, ↓reduceIte] at ih ⊢
        simpa using ih
      · simpa [h₂, lookupEntry] using ih
    · by_cases h₂ : k' = k₂
      · subst h₂
        have : ¬ k = k' := fun e => h e.symm
        simp [lookupEntry, h, this]
      · simp only [ne_eq, h, not_false_eq_true, decide_true, List.filter_cons_of_pos, lookupEntry,
          h₂, ↓reduceIte]
        exact ih

theorem get?_erase (m : OrderedMap κ ν) (k k₂ : κ) :
    (m.erase k).get? k₂ = if k = k₂ then none else m.get? k₂ :=
  lookupEntry_filter_ne k k₂ m.entries

/-! ### Entries in order -/

theorem insertEntry_of_notMem {k : κ} {v : ν} {l : List (κ × ν)} (h : k ∉ l.map Prod.fst) :
    insertEntry k v l = l ++ [(k, v)] := by
  induction l with
  | nil => rfl
  | cons e rest ih =>
    obtain ⟨k', v'⟩ := e
    simp only [List.map_cons, List.mem_cons, not_or] at h
    simp [insertEntry, Ne.symm h.1, ih h.2]

/-- Entries with new keys come to stand at the end. -/
theorem entries_insertMany {m : OrderedMap κ ν} {l : List (κ × ν)}
    (h : ((m.entries ++ l).map Prod.fst).Nodup) : (m.insertMany l).entries = m.entries ++ l := by
  induction l generalizing m with
  | nil => simp [insertMany]
  | cons e rest ih =>
    have new : e.1 ∉ m.entries.map Prod.fst := by
      intro mem
      simp only [List.map_append, List.map_cons, List.nodup_append] at h
      exact h.2.2 e.1 mem e.1 List.mem_cons_self rfl
    have entries : (m.insert e.1 e.2).entries = m.entries ++ [e] := insertEntry_of_notMem new
    have step := ih (m := m.insert e.1 e.2) (by simpa [entries] using h)
    simpa [entries, insertMany] using step

theorem ofList_entries (m : OrderedMap κ ν) : ofList m.entries = m :=
  ext (entries_insertMany (m := empty) m.nodup)

theorem entries_insert_of_notMem {m : OrderedMap κ ν} {k : κ} {v : ν} (h : k ∉ m.keys) :
    (m.insert k v).entries = m.entries ++ [(k, v)] := insertEntry_of_notMem h

theorem entries_modify (m : OrderedMap κ ν) (k : κ) (f : ν → ν) :
    (m.modify k f).entries = m.entries.map fun e => if e.1 = k then (e.1, f e.2) else e := by
  have key : ∀ l : List (κ × ν), (l.map Prod.fst).Nodup →
      modifyEntry k f l = l.map fun e => if e.1 = k then (e.1, f e.2) else e := by
    intro l
    induction l with
    | nil => intro _; rfl
    | cons e rest ih =>
      obtain ⟨k', v⟩ := e
      intro hd
      rw [List.map_cons, List.nodup_cons] at hd
      by_cases hk : k' = k
      · -- the key does not occur again, so the rest is left alone
        subst hk
        have same : (rest.map fun e => if e.1 = k' then (e.1, f e.2) else e) = rest := by
          refine (List.map_congr_left fun e he => ?_).trans (List.map_id rest)
          have hk : e.1 ≠ k' := fun h => hd.1 (List.mem_map.2 ⟨e, he, h⟩)
          exact if_neg hk
        simp [modifyEntry, same]
      · simp [modifyEntry, hk, ih hd.2]
  exact key m.entries m.nodup

/-- Changing a value to itself does nothing. -/
theorem modify_eq_self {m : OrderedMap κ ν} {k : κ} {f : ν → ν}
    (h : ∀ v, m.get? k = some v → f v = v) : m.modify k f = m := by
  refine ext ((entries_modify m k f).trans ?_)
  refine (List.map_congr_left fun e he => ?_).trans (List.map_id m.entries)
  by_cases hk : e.1 = k
  · rw [if_pos hk, h e.2 (get?_eq_some_iff.2 (hk ▸ he))]
    rfl
  · rw [if_neg hk]
    rfl

/-- Two changes of the value of one key are one. -/
theorem modify_modify (m : OrderedMap κ ν) (k : κ) (f f' : ν → ν) :
    (m.modify k f).modify k f' = m.modify k fun v => f' (f v) := by
  refine ext ?_
  rw [entries_modify, entries_modify, entries_modify, List.map_map]
  refine List.map_congr_left fun e _ => ?_
  by_cases hk : e.1 = k <;> simp [hk]

/-- Changes of the values of different keys may be made in either order. -/
theorem modify_comm (m : OrderedMap κ ν) {k k' : κ} (hk : k ≠ k') (f f' : ν → ν) :
    (m.modify k f).modify k' f' = (m.modify k' f').modify k f := by
  refine ext ?_
  rw [entries_modify, entries_modify, entries_modify, entries_modify, List.map_map, List.map_map]
  refine List.map_congr_left fun e _ => ?_
  by_cases h : e.1 = k
  · simp [h, hk]
  · by_cases h' : e.1 = k'
    · simp [h', hk.symm]
    · simp [h, h']

/-- Setting a key to the value that it has does nothing. -/
theorem insert_eq_self {m : OrderedMap κ ν} {k : κ} {v : ν} (h : m.get? k = some v) :
    m.insert k v = m := by
  have key : ∀ l : List (κ × ν), lookupEntry k l = some v → insertEntry k v l = l := by
    intro l
    induction l with
    | nil => intro hl; cases hl
    | cons e rest ih =>
      obtain ⟨k', v'⟩ := e
      by_cases hk : k' = k
      · simp [lookupEntry, insertEntry, hk, eq_comm]
      · intro hl
        simp only [lookupEntry, hk, ↓reduceIte] at hl
        simp [insertEntry, hk, ih hl]
  exact ext (key m.entries h)

end OrderedMap

end FlowScript
