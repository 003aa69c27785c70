import FlowScript.Proofs.Forms
import FlowScript.Proofs.Handing
import FlowScript.Proofs.Identifiers

/-!
# Loop indices and the heads of loops

A loop has as many indices as it has slots for ranges, and whoever reads an index is handed its
identifier.  The head of the loop lists only the indices of the slots at which a range is found.
So the identifier that is handed out is bound by the head if there is a range in the same slot.

* `Program.HasRange`: slots at which a range is found;
* `Address.loopHead`, `Program.emitFor_writes`: the head of a loop;
* `Program.Linked.index`: an index is read off a numbered output;
* `Program.Ends.index_listed_iff`: which identifiers are in the head.
-/

namespace FlowScript

/-- The head of a loop over the ranges of some slots. -/
def Address.loopHead (a : Address) (ranges : List (Nat × Fragment)) : Fragment where
  text := "for " ++ ", ".intercalate (ranges.map (a.indexIdent ·.1)) ++ " in " ++
    ", ".intercalate (ranges.map (·.2.text))
  uses := ranges.flatMap (·.2.uses)

namespace Program

variable {p : Program} {w : Walk} {a : Address} {n : Node}

/-! ### The head of a loop -/

/-- A range is found at a slot of a loop. -/
def HasRange (p : Program) (a : Address) (i : Nat) : Prop :=
  ∃ v, p.Resolves a (slotKey "range" i) (some v)

/-- The ranges of a loop are those of the slots that have one, among some slots and in their
order. -/
structure RangesAt (p : Program) (a : Address) (is : List Nat) (ranges : List (Nat × Fragment)) :
    Prop where
  sublist : (ranges.map Prod.fst).Sublist is
  mem_iff : ∀ i ∈ is, i ∈ ranges.map Prod.fst ↔ p.HasRange a i

namespace RangesAt

variable {is : List Nat} {i : Nat} {ranges : List (Nat × Fragment)}

theorem skip (h : p.RangesAt a is ranges) (none : ¬ p.HasRange a i) :
    p.RangesAt a (i :: is) ranges where
  sublist := h.sublist.cons i
  mem_iff j hj := by
    rcases List.mem_cons.1 hj with rfl | hj
    · refine ⟨fun listed => ?_, fun has => absurd has none⟩
      exact (h.mem_iff j (h.sublist.subset listed)).1 listed
    · exact h.mem_iff j hj

theorem cons (h : p.RangesAt a is ranges) (has : p.HasRange a i) (range : Fragment) :
    p.RangesAt a (i :: is) ((i, range) :: ranges) where
  sublist := h.sublist.cons_cons i
  mem_iff j hj := by
    by_cases same : j = i
    · subst same
      exact ⟨fun _ => has, fun _ => List.mem_cons_self⟩
    · have hj := (List.mem_cons.1 hj).resolve_left same
      rw [List.map_cons, List.mem_cons, ← h.mem_iff j hj]
      exact or_iff_right same

end RangesAt

theorem does_rangesAt (is : List Nat)
    (h : ∀ i, p.Fetches a (slotKey "range" i) (w.resolve a (slotKey "range" i))) :
    p.Does a (p.loopRanges w a is) fun ranges _ => p.RangesAt a is ranges := by
  induction is with
  | nil => exact .pure ⟨List.Sublist.refl _, fun _ mem => by cases mem⟩
  | cons i is ih =>
    refine Does.bind (does_valueAt? (h i)) fun value ms hms => ?_
    obtain ⟨v, -, found, resolves⟩ := hms
    cases value with
    | none =>
      have none : ¬ p.HasRange a i := by
        rintro ⟨u, resolves'⟩
        rw [resolves.unique resolves'] at found
        cases found
      exact ih.mono fun ranges _ here => here.skip none
    | some range =>
      obtain ⟨u, rfl⟩ := Option.isSome_iff_exists.1 found
      exact Does.bind ih fun ranges _ here => .pure (here.cons ⟨u, resolves⟩ range)

/-- The text of a loop begins with its head, and without a range there is a message instead. -/
theorem emitFor_writes (hw : w.FaithfulAt p a n .forLoop) (s : Pass) :
    Gen.Sat False (p.emitFor w a n) s fun _ s' =>
      .problem a .inputExpected ∈ s'.journal ∨ ∃ ranges s₁,
        p.RangesAt a (List.range (slotCount "range" n.inputs.values)) ranges ∧ s.Extends s₁ ∧
        (s₁.write (some a.rootId) (a.loopHead ranges).text .header
          (a.loopHead ranges).uses).Extends s' := by
  refine (does_rangesAt _ (fun i => hw.resolve ⟨i, rfl⟩) s).bind fun ranges s₁ hs₁ => ?_
  obtain ⟨_, asks, here⟩ := hs₁
  split_ifs
  · refine .inl ?_
    exact List.mem_append_right _ List.mem_cons_self
  · refine Gen.Sat.bind (Gen.Sat.modify (Q := fun _ s' => s' = s₁.write (some a.rootId)
      (a.loopHead ranges).text .header (a.loopHead ranges).uses) rfl) ?_
    rintro _ _ rfl
    refine (does_flowBlock (hw.follow (.inl rfl)) _).bind fun _ s' hs' => ?_
    obtain ⟨_, follows, -⟩ := hs'
    exact .inr ⟨ranges, s₁, here, asks.extends, follows.extends⟩

/-! ### Slots of a loop -/

/-- Slots among the keys of a row. -/
theorem lt_of_mem_row {stem : String} {port : Nat → Port} {others : List Port} {i count : Nat}
    (hp : ∀ i, (port i).key = slotKey stem i)
    (apart : ∀ q ∈ others, ¬ stem.toList <+: q.key.toList)
    (mem : slotKey stem i ∈ (others ++ row port count).map Port.key) : i < count := by
  rw [List.map_append, keys_row hp] at mem
  rcases List.mem_append.1 mem with other | slot
  · obtain ⟨q, hq, key⟩ := List.mem_map.1 other
    exact absurd key.symm (slotKey_ne (apart q hq) i)
  · obtain ⟨j, hj, key⟩ := List.mem_map.1 slot
    rw [← slotKey_injective key]
    exact List.mem_range.1 hj

theorem Linked.inForm (h : p.Linked) {g : Graph} (hg : g ∈ p.graphs) : g.InForm p.lang := by
  obtain ⟨patterns, core, surface, extra, loads⟩ := h.loaded
  obtain ⟨name, edits, rfl, plain⟩ := h.built g hg
  exact Graph.inForm_session (Language.catalogued_of_load loads) name plain

/-- A loop has its ranges and indices in slots with the same numbers. -/
theorem Linked.loop_slots (h : p.Linked) (node : p.node? a = some n)
    (kindOf : p.kind? n = some .forLoop) :
    ∃ count ≤ Decimal.maxCount, SlotPair.loop.Holds p.lang.types.any.socket count n := by
  obtain ⟨g, hg, hn⟩ := Option.bind_eq_some_iff.1 node
  obtain ⟨count, small, socket, lists⟩ :=
    ((h.inForm (graphAt?_mem hg)).node hn kindOf).ports rfl
  exact ⟨count, small, socket, lists⟩

theorem Resolves.exists_feeding {port : String} {v : Producer} (h : p.Resolves a port (some v)) :
    ∃ wire m, p.feeding? a port = some (wire, m) := by
  cases hw : p.feeding? a port with
  | none =>
    have nothing : p.Resolves a port none := .nothing (by simp only [look, hw])
    cases h.unique nothing
  | some fed => exact ⟨fed.1, fed.2, rfl⟩

/-- Only slots have ranges. -/
theorem Linked.lt_slotCount (h : p.Linked) (node : p.node? a = some n)
    (kindOf : p.kind? n = some .forLoop) {i : Nat} (has : p.HasRange a i) :
    i < slotCount "range" n.inputs.values := by
  obtain ⟨count, small, holds⟩ := h.loop_slots node kindOf
  have slots : slotCount "range" n.inputs.values = count :=
    holds.slotCount_eq SlotPair.loop_apart small
  rw [slots]
  obtain ⟨v, resolves⟩ := has
  obtain ⟨wire, m, fed⟩ := resolves.exists_feeding
  obtain ⟨⟨m', q, node', input⟩, -⟩ := h.joined fed
  rw [node] at node'
  cases node'
  obtain ⟨socket, lists⟩ := holds
  have key : slotKey "range" i ∈ n.inputs.keys := OrderedMap.mem_keys_iff.2 ⟨q, input⟩
  rw [lists.keys_inputs] at key
  exact lt_of_mem_row (fun _ => rfl) (by decide) key

/-- The value of a loop is read off the output of an index. -/
theorem Linked.index (h : p.Linked) {v : Producer} (feeds : p.Feeds v .forLoop) :
    ∃ i ≤ Decimal.maxCount, v.port = slotKey "val" i := by
  obtain ⟨i, port⟩ : ∃ i, v.port = slotKey "val" i := h.feeds_port feeds
  obtain ⟨b, q, wire, n, -, fed, rfl, kindOf, -⟩ := feeds
  obtain ⟨-, out, output⟩ := h.joined fed
  obtain ⟨count, small, socket, lists⟩ := h.loop_slots (h.placed.node?_feeding fed) kindOf
  have key : slotKey "val" i ∈ n.outputs.keys := by
    rw [← port]
    exact OrderedMap.mem_keys_iff.2 ⟨out, output⟩
  rw [lists.keys_outputs] at key
  have lt : i < count := lt_of_mem_row (fun _ => rfl) (by decide) key
  exact ⟨i, by omega, port⟩

/-! ### Indices that are read -/

variable {s : Pass}

/-- A loop whose index is handed out has been compiled, once. -/
theorem Ends.loop_compiled (h : p.Ends s) (placed : p.Placed)
    (clean : (s.finish p.settings).diagnostics.isEmpty = true)
    (loop : p.kindAt? a = some .forLoop) (required : a ∈ s.required) :
    s.count (Event.emits a) = 1 ∧ ∃ cause block, .emitted a cause block ∈ s.journal := by
  have emissions := h.runs.emissions_flowIn loop rfl
  have initial : ({} : Pass).count (Event.emits a) = 0 := rfl
  simp only [initial, List.not_mem_nil, if_false] at emissions
  obtain ⟨-, complete⟩ := Pass.clean_finish clean
  rcases h.runs.processed placed (complete a required) with
    none | ⟨cause, block, emitted⟩ | call | ⟨_, literal⟩
  · cases none
  · have compiled : 0 < s.count (Event.emits a) :=
      List.countP_pos_iff.2 ⟨_, emitted, by simp [Event.emits]⟩
    refine ⟨?_, cause, block, emitted⟩
    split_ifs at emissions <;> omega
  · rw [loop] at call
    cases call
  · rw [loop] at literal
    cases literal

/-- The head of a loop that was compiled in a pass without diagnostics stands in the body, and lists
the indices of the slots that have a range. -/
theorem Ends.loop_head (h : p.Ends s) (linked : p.Linked) (clean : s.diagnostics.isEmpty = true)
    (loop : p.kindAt? a = some .forLoop) {cause : Cause} {block : List Nat}
    (emitted : .emitted a cause block ∈ s.journal) :
    ∃ ranges, s.HasText a.rootId block (a.loopHead ranges) .header ∧
      (ranges.map Prod.fst).Pairwise (· < ·) ∧ ∀ j, j ∈ ranges.map Prod.fst ↔ p.HasRange a j := by
  obtain ⟨n, node, kindOf⟩ := Option.bind_eq_some_iff.1 loop
  obtain ⟨w, s₀, s₁, walks, path, text, later⟩ := h.generated node kindOf emitted
  rcases (emitFor_writes walks s₀).eq_some text with problem | ⟨ranges, s₂, here, before, after⟩
  · exact absurd (later.subset problem) (h.no_problem clean)
  · refine ⟨ranges, ?_, List.pairwise_lt_range.sublist here.sublist, fun j => ?_⟩
    · have written := h.hasText (after.journal_suffix.trans later)
      rwa [before.path, path] at written
    · constructor
      · exact fun listed => (here.mem_iff j (here.sublist.subset listed)).1 listed
      · intro has
        exact (here.mem_iff j (List.mem_range.2 (linked.lt_slotCount node kindOf has))).2 has

/-- In a pass of a linked program without diagnostics, whoever reads an index of a loop is handed
the identifier with its number.  The loop is compiled once, and its head lists the indices of the
slots that have a range, in order.  So the identifier is bound by the head if and only if there is a
range in the slot with the same number. -/
theorem Ends.index_listed_iff (h : p.Ends s) (linked : p.Linked)
    (clean : (s.finish p.settings).diagnostics.isEmpty = true) {c : Address} {port : String}
    {v : Producer} {value : Fragment} (mem : .referenced c port v value ∈ s.journal)
    (loop : p.kindAt? v.address = some .forLoop) :
    ∃ i cause block ranges, v.port = slotKey "val" i ∧
      value = ⟨v.address.indexIdent i, []⟩ ∧ s.count (Event.emits v.address) = 1 ∧
      .emitted v.address cause block ∈ s.journal ∧
      s.HasText v.address.rootId block (v.address.loopHead ranges) .header ∧
      (ranges.map Prod.fst).Pairwise (· < ·) ∧
      (∀ j, j ∈ ranges.map Prod.fst ↔ p.HasRange v.address j) ∧
      (value.text ∈ ranges.map (v.address.indexIdent ·.1) ↔ p.HasRange v.address i) := by
  obtain ⟨s₀, rfl, settled, grown, -⟩ := h.handed.made mem
  obtain ⟨kind, feeds, known⟩ := settled linked.placed
  obtain rfl : kind = .forLoop :=
    Option.some.inj ((feeds.kindAt? linked.placed).symm.trans loop)
  obtain ⟨other, -⟩ | ⟨-, required, -⟩ := known
  · cases other
  obtain ⟨i, small, index⟩ := linked.index feeds
  have text : p.valueOf s₀ v = ⟨v.address.indexIdent i, []⟩ := by
    simp only [valueOf, loop, index, slotIndex?_slotKey "val" small]
  obtain ⟨once, cause, block, emitted⟩ :=
    h.loop_compiled linked.placed clean loop (grown required)
  obtain ⟨ranges, head, sorted, listed⟩ :=
    h.loop_head linked (Pass.clean_finish clean).1 loop emitted
  refine ⟨i, cause, block, ranges, index, text, once, emitted, head, sorted, listed, ?_⟩
  rw [text, ← listed i]
  simp only [List.mem_map]
  constructor
  · rintro ⟨r, hr, ident⟩
    exact ⟨r, hr, (Address.indexIdent_injective ident).2⟩
  · rintro ⟨r, hr, rfl⟩
    exact ⟨r, hr, rfl⟩

end Program

namespace Sample

/-- The edits that make a function with a loop that has two slots, but a range only in the first of
them.  It prints both indices. -/
def rangedEdits : List Edit := [
  .create .empty "Function" .empty,
  .create .empty "For" (OrderedMap.ofList [("numArgs", .str "2"), ("typeName0", .str "int"),
    ("typeName1", .str "int")]),
  .create .empty "int" (OrderedMap.ofList [("value", .str "7")]),
  .create .empty "print" .empty,
  .create .empty "print" .empty,
  .connect ⟨1, "fout", 2, "fin"⟩,
  .connect ⟨3, "result", 2, "range0"⟩,
  .connect ⟨2, "body", 4, "fin"⟩,
  .connect ⟨2, "val0", 4, "value"⟩,
  .connect ⟨4, "fout", 5, "fin"⟩,
  .connect ⟨2, "val1", 5, "value"⟩]

def ranged : Program where
  lang := language
  root := Graph.session language "main" rangedEdits

theorem ranged_linked : ranged.Linked := by
  refine linked_of_checks rfl (fun g hg => ?_) (by decide +kernel) (by decide +kernel)
    (by decide +kernel)
  cases List.mem_singleton.1 hg
  exact ⟨"main", rangedEdits, rfl, by simp [rangedEdits, Edit.isRetag]⟩

theorem ranged_isSome : (ranged.runWith? 20).isSome = true := by
  decide +kernel

/-- How the program is compiled. -/
def rangedPass : Pass := (ranged.runWith? 20).get ranged_isSome

theorem ranged_ends : ranged.Ends rangedPass :=
  ⟨20, (Option.some_get _).symm⟩

theorem ranged_clean : (rangedPass.finish ranged.settings).diagnostics.isEmpty = true := by
  decide +kernel

theorem ranged_hasRange (i : Nat) (slot : i < 2) : ranged.HasRange ⟨[], 2⟩ i ↔ i = 0 := by
  constructor
  · rintro ⟨v, found⟩
    by_contra other
    obtain rfl : i = 1 := by omega
    have nothing : ranged.Resolves ⟨[], 2⟩ "range1" none := ⟨1, by decide +kernel⟩
    cases found.unique nothing
  · rintro rfl
    exact ⟨⟨⟨[], 3⟩, resultKey⟩, 1, by decide +kernel⟩

/-- Both indices are handed out by their identifiers, and the head of the loop lists the first one
only. -/
theorem index_listed_iff_ranged :
    .referenced ⟨[], 4⟩ "value" ⟨⟨[], 2⟩, "val0"⟩ ⟨"x0_2", []⟩ ∈ rangedPass.journal ∧
      .referenced ⟨[], 5⟩ "value" ⟨⟨[], 2⟩, "val1"⟩ ⟨"x1_2", []⟩ ∈ rangedPass.journal ∧
      (∃ block ranges, rangedPass.HasText 2 block (Address.loopHead ⟨[], 2⟩ ranges) .header ∧
        "x0_2" ∈ ranges.map (Address.indexIdent ⟨[], 2⟩ ·.1)) ∧
      ∃ block ranges, rangedPass.HasText 2 block (Address.loopHead ⟨[], 2⟩ ranges) .header ∧
        "x1_2" ∉ ranges.map (Address.indexIdent ⟨[], 2⟩ ·.1) := by
  have first : .referenced ⟨[], 4⟩ "value" ⟨⟨[], 2⟩, "val0"⟩ ⟨"x0_2", []⟩ ∈ rangedPass.journal := by
    decide +kernel
  have second : .referenced ⟨[], 5⟩ "value" ⟨⟨[], 2⟩, "val1"⟩ ⟨"x1_2", []⟩ ∈
      rangedPass.journal := by
    decide +kernel
  have loop : ranged.kindAt? ⟨[], 2⟩ = some .forLoop := by decide +kernel
  refine ⟨first, second, ?_, ?_⟩
  · obtain ⟨i, -, block, ranges, port, -, -, -, head, -, -, bound⟩ :=
      ranged_ends.index_listed_iff ranged_linked ranged_clean first loop
    obtain rfl : 0 = i := slotKey_injective (show slotKey "val" 0 = slotKey "val" i from port)
    exact ⟨block, ranges, head, bound.2 ((ranged_hasRange 0 (by decide)).2 rfl)⟩
  · obtain ⟨i, -, block, ranges, port, -, -, -, head, -, -, bound⟩ :=
      ranged_ends.index_listed_iff ranged_linked ranged_clean second loop
    obtain rfl : 1 = i := slotKey_injective (show slotKey "val" 1 = slotKey "val" i from port)
    refine ⟨block, ranges, head, fun listed => ?_⟩
    exact absurd ((ranged_hasRange 1 (by decide)).1 (bound.1 listed)) (by decide)

/-- An index that is read may not be bound: the only line of the loop itself does not have it. -/
theorem ranged_index_unbound :
    ranged.Linked ∧ ranged.Ends rangedPass ∧
      (rangedPass.finish ranged.settings).diagnostics.isEmpty = true ∧
      ranged.kindAt? ⟨[], 2⟩ = some .forLoop ∧
      .referenced ⟨[], 5⟩ "value" ⟨⟨[], 2⟩, "val1"⟩ ⟨"x1_2", []⟩ ∈ rangedPass.journal ∧
      (∀ l ∈ rangedPass.body, l.owner = some 2 → l.text = "for x0_2 in 7") ∧
      ¬ "x1_2".toList <:+: "for x0_2 in 7".toList :=
  ⟨ranged_linked, ranged_ends, ranged_clean, by decide +kernel, by decide +kernel,
    by decide +kernel, by decide +kernel⟩

end Sample

end FlowScript
