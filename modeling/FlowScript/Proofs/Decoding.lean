import FlowScript.Proofs.Reading

/-!
# Decoding what is written

Decoders that give back the value whose characters they are given.  A decoder may open only so many
containers, so it is said how many it needs.

* `Decoder.Accepts`: the characters stand for the value;
* `Decoder.accepts_list`, `Decoder.accepts_mapBy`: for arrays and for objects with keys of one kind;
* `Decoder.accepts_record`: for objects with a field for each name.
-/

namespace FlowScript

open Document

namespace Decoder

variable {α : Type}

/-- The characters stand for the value where at least so many containers may be opened. -/
def Accepts (d : Decoder α) (need : Nat) (cs : List Char) (x : α) : Prop :=
  ∃ doc, Reads cs doc ∧ ∀ depth, need ≤ depth → d depth doc = some x

section

variable {d : Decoder α} {need : Nat} {cs cs' : List Char} {doc : Document} {x y : α}

theorem Accepts.mono (h : d.Accepts need cs x) {more : Nat} (le : need ≤ more) :
    d.Accepts more cs x := by
  obtain ⟨doc, read, decode⟩ := h
  exact ⟨doc, read, fun depth enough => decode depth (le.trans enough)⟩

/-- A container is opened, and its contents are decoded with one container less to open. -/
theorem Accepts.container (read : Reads cs doc)
    (decode : ∀ depth, need ≤ depth → d (depth + 1) doc = some x) : d.Accepts (need + 1) cs x := by
  refine ⟨doc, read, fun depth enough => ?_⟩
  obtain ⟨depth, rfl⟩ : ∃ k, depth = k + 1 := ⟨depth - 1, by omega⟩
  exact decode depth (by omega)

theorem accepts_pair (hx : d.Accepts need cs x) (hy : d.Accepts need cs' y) :
    (pair d).Accepts (need + 1) (Json.arrayChars [cs, cs']) (x, y) := by
  obtain ⟨doc, read, decode⟩ := hx
  obtain ⟨doc', read', decode'⟩ := hy
  refine .container (.array (.cons read (.cons read' .nil))) fun depth enough => ?_
  simp [pair, decode depth enough, decode' depth enough]

end

theorem accepts_string (s : String) : string.Accepts 0 (Json.quoted s) s :=
  ⟨.str (spell s), .string s, fun _ _ => unescaped?_spell s⟩

theorem accepts_bool (b : Bool) : bool.Accepts 0 (Json.boolChars b) b :=
  ⟨.bool b, .bool b, fun _ _ => rfl⟩

theorem accepts_nat {n bound : Nat} (h : n ≤ bound) : (nat bound).Accepts 0 (Decimal.digits n) n :=
  ⟨_, .numeral (readNumeral?_digits n), fun _ _ => by simp [nat, h]⟩

/-! ### Arrays and maps -/

section

variable {d : Decoder α} {need : Nat} {write : α → List Char}

theorem accepts_list {xs : List α} (h : ∀ x ∈ xs, d.Accepts need (write x) x) :
    (list d).Accepts (need + 1) (Json.arrayChars (xs.map write)) xs := by
  have items : ∃ docs, List.Forall₂ Reads (xs.map write) docs ∧
      ∀ depth, need ≤ depth → docs.mapM (d depth) = some xs := by
    induction xs with
    | nil => exact ⟨[], .nil, fun _ _ => rfl⟩
    | cons x xs ih =>
      obtain ⟨doc, read, decode⟩ := h x List.mem_cons_self
      obtain ⟨docs, reads, decodes⟩ := ih fun y hy => h y (List.mem_cons_of_mem _ hy)
      refine ⟨doc :: docs, .cons read reads, fun depth enough => ?_⟩
      simp [decode depth enough, decodes depth enough]
  obtain ⟨docs, reads, decodes⟩ := items
  exact .container (.array reads) decodes

variable {κ : Type} {key : List Char → Option κ} {name : κ → String}

theorem exists_members {entries : List (κ × α)}
    (keys : ∀ e ∈ entries, key (spell (name e.1)) = some e.1)
    (values : ∀ e ∈ entries, d.Accepts need (write e.2) e.2) :
    ∃ docs, Reads.Named (entries.map fun (k, v) => (name k, write v)) docs ∧
      ∀ depth, need ≤ depth →
        (docs.map fun (k, x) => (spell k, x)).mapM
          (fun (k, x) => do return (← key k, ← d depth x)) = some entries := by
  induction entries with
  | nil => exact ⟨[], .nil, fun _ _ => rfl⟩
  | cons e entries ih =>
    obtain ⟨k, v⟩ := e
    obtain ⟨doc, read, decode⟩ := values _ List.mem_cons_self
    have head := keys _ List.mem_cons_self
    obtain ⟨docs, reads, decodes⟩ := ih (fun e he => keys e (List.mem_cons_of_mem _ he))
      fun e he => values e (List.mem_cons_of_mem _ he)
    refine ⟨(name k, doc) :: docs, .cons ⟨rfl, read⟩ reads, fun depth enough => ?_⟩
    rw [List.map_cons, List.mapM_cons, decodes depth enough]
    simp [head, decode depth enough]

/-- The entries of a map are read back in their order. -/
theorem accepts_mapBy [DecidableEq κ] {m : OrderedMap κ α}
    (keys : ∀ k ∈ m.keys, key (spell (name k)) = some k)
    (values : ∀ v ∈ m.values, d.Accepts need (write v) v) :
    (mapBy key d).Accepts (need + 1)
      (Json.objectChars (m.entries.map fun (k, v) => (name k, write v))) m := by
  obtain ⟨docs, reads, decodes⟩ := exists_members (fun e he => keys e.1 (List.mem_map_of_mem he))
    fun e he => values e.2 (List.mem_map_of_mem he)
  refine .container (.object reads) fun depth enough => ?_
  rw [mapBy, decodes depth enough]
  simp [OrderedMap.ofList_entries]

theorem accepts_map {m : OrderedMap String α}
    (values : ∀ v ∈ m.values, d.Accepts need (write v) v) :
    (map d).Accepts (need + 1)
      (Json.objectChars (m.entries.map fun (k, v) => (k, write v))) m :=
  accepts_mapBy (fun k _ => unescaped?_spell k) values

end

/-! ### Records -/

theorem mapM_unescaped? (docs : List (String × Document)) :
    (docs.map fun (k, x) => (spell k, x)).mapM
      (fun (k, x) => do return (← Document.unescaped? k, x)) = some docs := by
  induction docs with
  | nil => rfl
  | cons doc docs ih =>
    rw [List.map_cons, List.mapM_cons, ih]
    simp

/-- A record whose fields are all there, in order. -/
theorem fields?_object {names : List String} {docs : List (String × Document)}
    (same : docs.map Prod.fst = names) (nodup : names.Nodup) (depth : Nat) :
    fields? names (depth + 1) (.obj (docs.map fun (k, x) => (spell k, x))) =
      some ⟨depth, docs⟩ := by
  have known : docs.filter (fun m => names.contains m.1) = docs := by
    refine List.filter_eq_self.2 fun m hm => ?_
    simp only [← same, List.contains_eq_mem, decide_eq_true_eq]
    exact List.mem_map_of_mem hm
  rw [fields?, mapM_unescaped?]
  simp only [Option.bind_eq_bind, Option.bind_some, known, same, if_pos nodup]

theorem accepts_record {names : List String} {build : Fields → Option α} {need : Nat}
    {texts : List (String × List Char)} {x : α} (docs : List (String × Document))
    (reads : Reads.Named texts docs) (same : docs.map Prod.fst = names) (nodup : names.Nodup)
    (built : ∀ depth, need ≤ depth → build ⟨depth, docs⟩ = some x) :
    (record names build).Accepts (need + 1) (Json.objectChars texts) x := by
  refine .container (.object reads) fun depth enough => ?_
  rw [record, fields?_object same nodup]
  exact built depth enough

end Decoder

end FlowScript
