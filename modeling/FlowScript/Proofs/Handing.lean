import FlowScript.Proofs.Declarations
import FlowScript.Proofs.Scripts

/-!
# Texts that are handed out, and texts that are generated

The journal of a pass tells which text was handed to which input, and which occurrence was compiled
in which block.  Both can be traced back: a text was made from an earlier state, for the producer
that the search in the graphs finds, and the text of an occurrence was generated by the rule for its
kind.

* `Program.InPlace`: values that may be written in place;
* `Program.Handed`, `Program.Runs.handed`: where the texts that were handed out come from;
* `Program.Ends.resolves`: they are for the producers that the search finds;
* `Program.Resolves.route`: the search takes hops and then a wire;
* `Program.Generated`, `Program.Ends.generated`: where the texts of occurrences come from;
* `Pass.HasText`, `Program.Ends.hasText`: what is written along the way stands in the body.
-/

namespace FlowScript

namespace Program

variable {p : Program} {s s' : Pass} {a : Address}

/-! ### Texts that are handed out -/

/-- The value of an occurrence may be written in place. -/
def InPlace (p : Program) (a : Address) : Prop :=
  ∃ n kind t, p.node? a = some n ∧ p.kind? n = some kind ∧ p.resultType? n kind = some t ∧
    p.mustBind t (p.readers a resultKey) = false

/-- A text was made for the value of a producer in an earlier state, in which the producer was
settled and an expression was kept for it only if it may be written in place. -/
def MadeFor (p : Program) (s : Pass) (v : Producer) (value : Fragment) : Prop :=
  ∃ s₀ : Pass, value = p.valueOf s₀ v ∧ (p.Placed → p.Settled s₀ v) ∧ s₀.required ⊆ s.required ∧
    ((s₀.results.get? v.address).isSome → p.InPlace v.address)

/-- Expressions are kept for values that may be written in place, and every text that was handed
out was made for its producer. -/
structure Handed (p : Program) (s : Pass) : Prop where
  kept : ∀ {a}, (s.results.get? a).isSome → p.InPlace a
  made : ∀ {c port v value}, .referenced c port v value ∈ s.journal → p.MadeFor s v value

namespace Handed

/-- Steps that hand out nothing and keep no expression. -/
theorem grow (h : p.Handed s) (results : s'.results = s.results)
    (required : s.required ⊆ s'.required)
    (journal : ∀ {c port v value}, .referenced c port v value ∈ s'.journal →
      .referenced c port v value ∈ s.journal) : p.Handed s' where
  kept held := h.kept (results ▸ held)
  made mem := by
    obtain ⟨s₀, text, settled, sub, inPlace⟩ := h.made (journal mem)
    exact ⟨s₀, text, settled, List.Subset.trans sub required, inPlace⟩

theorem note (h : p.Handed s) {e : Event}
    (silent : ∀ c port v value, e ≠ .referenced c port v value) : p.Handed (s.note e) :=
  h.grow rfl (List.Subset.refl _) fun mem =>
    (List.mem_cons.1 mem).resolve_left fun same => silent _ _ _ _ same.symm

theorem write (h : p.Handed s) (owner : Option NodeId) (text : String) (role : LineRole)
    (uses : List Address) : p.Handed (s.write owner text role uses) :=
  h.grow rfl (List.Subset.refl _) fun mem => by
    rcases Pass.mem_journal_write.1 mem with ⟨l, -, same⟩ | mem
    · cases same
    · exact mem

theorem reportAt (h : p.Handed s) (a : Address) (cause : Problem) :
    p.Handed (s.reportAt p a cause) :=
  (h.note (e := .problem a cause) nofun).grow rfl (List.Subset.refl _) id

theorem begin (h : p.Handed s) (a : Address) (cause : Cause) (kind : Kind) :
    p.Handed (s.begin a cause kind) := by
  refine h.grow ?_ (by rw [Pass.required_begin]; exact List.Subset.refl _) fun mem => ?_
  · unfold Pass.begin
    cases kind.hasFlowIn <;> rfl
  · exact Pass.mem_of_mem_begin mem rfl

/-- The text for a producer that is settled. -/
theorem reference (h : p.Handed s) {v : Producer} (settled : p.Placed → p.Settled s v) (c : Address)
    (port : String) : p.Handed (s.note (.referenced c port v (p.valueOf s v))) where
  kept := h.kept
  made mem := by
    rcases List.mem_cons.1 mem with same | mem
    · cases same
      exact ⟨s, rfl, settled, List.Subset.refl _, h.kept⟩
    · exact h.made mem

theorem records (h : p.Handed s) {n : Node} {kind : Kind} (node : p.node? a = some n)
    (kindOf : p.kind? n = some kind) (records : p.Records a n kind s s') : p.Handed s' := by
  cases records with
  | @keep t _ _ type inline =>
    refine ⟨fun {b} held => ?_, h.made⟩
    unfold Pass.setResult at held
    rw [OrderedMap.get?_insert] at held
    split_ifs at held with same
    · exact same ▸ ⟨n, kind, t, node, kindOf, type, inline⟩
    · exact h.kept held
  | declare => exact h.write ..
  | nothing => exact h

end Handed

/-- Whatever steps a pass takes, texts are made for their producers. -/
theorem Runs.handed {task : Task} (h : p.Runs task s s') (hs : p.Handed s) : p.Handed s' := by
  induction h with
  | refl | absent => exact hs
  | trans _ _ ih ih' => exact ih' (ih hs)
  | asked | followed | demanded => exact hs.note nofun
  | imports | main | process => exact hs.grow rfl (List.Subset.refl _) id
  | require => exact hs.grow rfl (Pass.Extends.require ..).required id
  | report => exact hs.reportAt ..
  | reference settled => exact hs.reference settled ..
  | write => exact hs.write ..
  | block extra _ ih =>
    have opened := ih (hs.grow rfl (List.Subset.refl _) id)
    exact opened.grow rfl (List.Subset.refl _) id
  | settle _ _ _ ih =>
    have started := ih (hs.grow rfl (List.Subset.refl _) id)
    exact started.grow rfl (List.Subset.refl _) id
  | arrive _ _ _ ih | unknown _ _ ih => exact ih hs
  | again =>
    refine Handed.reportAt ?_ _ _
    exact hs.note nofun
  | emit node kindOf _ _ records _ ih ih' =>
    exact ih' ((ih (hs.begin ..)).records node kindOf records)

theorem handed_initial (p : Program) : p.Handed {} where
  kept held := by cases held
  made mem := by cases mem

theorem Ends.handed (h : p.Ends s) : p.Handed s := h.runs.handed (handed_initial p)

/-! ### Producers that are found -/

theorem Feeds.kindAt? {v : Producer} {kind : Kind} (h : p.Feeds v kind) (placed : p.Placed) :
    p.kindAt? v.address = some kind := by
  obtain ⟨b, port, w, n, -, wire, rfl, kindOf, -⟩ := h
  exact kindAt?_of_node? (placed.node?_feeding wire) kindOf

/-- A single change hands out a text only for the producer that the search in the graphs finds. -/
theorem Change.referenced (h : p.Change s s') {c : Address} {port : String} {v : Producer}
    {value : Fragment} (mem : .referenced c port v value ∈ s'.journal) :
    .referenced c port v value ∈ s.journal ∨ p.Resolves c port (some v) := by
  cases h with
  | touch _ touches =>
    cases touches with
    | imports | main | process | keep => exact .inl mem
    | report => exact .inl ((List.mem_cons.1 mem).resolve_left (by simp))
    | write =>
      rcases Pass.mem_journal_write.1 mem with ⟨l, -, same⟩ | mem
      · cases same
      · exact .inl mem
    | reference resolves =>
      rcases List.mem_cons.1 mem with same | mem
      · cases same
        exact .inr resolves
      · exact .inl mem
  | note step =>
    rcases List.mem_cons.1 mem with rfl | mem
    · cases step
    · exact .inl mem
  | report => exact .inl ((List.mem_cons.1 mem).resolve_left (by simp))
  | begin => exact .inl (Pass.mem_of_mem_begin mem rfl)
  | require | openBlock | closeBlock | start | stop => exact .inl mem

/-- A text is handed to an input for the producer that the search in the graphs finds. -/
theorem Ends.resolves (h : p.Ends s) {c : Address} {port : String} {v : Producer}
    {value : Fragment} (mem : .referenced c port v value ∈ s.journal) :
    p.Resolves c port (some v) := by
  have all : ∀ c port v value, .referenced c port v value ∈ s.journal →
      p.Resolves c port (some v) := by
    refine h.performs.keeps (P := fun s => ∀ c port v value,
      .referenced c port v value ∈ s.journal → p.Resolves c port (some v)) ?_ trivial (by simp)
    intro s s' change hs c port v value mem
    rcases change.referenced mem with mem | found
    · exact hs c port v value mem
    · exact found
  exact all c port v value mem

theorem feeding_of_look {v : Producer} {c : Address} {port : String}
    (h : p.look c port = .found v) :
    ∃ w n, p.feeding? c port = some (w, n) ∧ v = ⟨c.sibling n.id, w.sourcePort⟩ := by
  unfold look at h
  split at h
  · cases h
  rename_i w n wire
  refine ⟨w, n, wire, ?_⟩
  unfold lookAt at h
  split at h
  · cases h
  · split at h <;> cases h
  · split at h <;> cases h
  · split_ifs at h
    cases h
    rfl
  · cases h
  · cases h
    rfl

/-- The search for a value takes hops, and then a wire from its producer. -/
theorem Resolves.route {c : Address} {port : String} {v : Producer}
    (h : p.Resolves c port (some v)) :
    ∃ b q w n, Relation.ReflTransGen p.ValueHop (c, port) (b, q) ∧ p.look b q = .found v ∧
      p.feeding? b q = some (w, n) ∧ v = ⟨b.sibling n.id, w.sourcePort⟩ := by
  obtain ⟨fuel, h⟩ := h
  induction fuel generalizing c port with
  | zero => cases h
  | succ fuel ih =>
    unfold Next.chase? at h
    cases next : p.look c port with
    | nothing => simp [next] at h
    | onward b q =>
      rw [next] at h
      obtain ⟨b', q', w, n, way, ends⟩ := ih h
      exact ⟨b', q', w, n, .head (valueHop_of_look next) way, ends⟩
    | found u =>
      rw [next] at h
      cases h
      obtain ⟨w, n, feeding, producer⟩ := feeding_of_look next
      exact ⟨c, port, w, n, .refl, next, feeding, producer⟩

/-! ### Texts that are generated -/

/-- An occurrence was compiled in a block: the rule for its kind has generated its text, and the
journal has grown since. -/
def Generated (p : Program) (a : Address) (cause : Cause) (block : List Nat) (s : Pass) : Prop :=
  ∃ n kind, ∃ s₀ s₁ : Pass, (p.Placed → p.Reached cause a) ∧ p.node? a = some n ∧
    p.kind? n = some kind ∧ s₀.block.path = block ∧
    p.Generates a n kind (s₀.begin a cause kind) s₁ ∧ s₁.journal <:+ s.journal

theorem Generated.mono {cause : Cause} {block : List Nat} (h : p.Generated a cause block s)
    (later : s.journal <:+ s'.journal) : p.Generated a cause block s' := by
  obtain ⟨n, kind, s₀, s₁, reached, node, kindOf, path, text, before⟩ := h
  exact ⟨n, kind, s₀, s₁, reached, node, kindOf, path, text, before.trans later⟩

end Program

theorem Pass.Extends.journal_suffix {s s' : Pass} (h : s.Extends s') :
    s.journal <:+ s'.journal := by
  obtain ⟨new, journal, -⟩ := h.grows
  exact ⟨new, journal.symm⟩

namespace Program

variable {p : Program} {s s' : Pass} {a : Address} {cause : Cause} {block : List Nat}

/-- Whatever was compiled between two states has its text generated. -/
structure Accounts (p : Program) (s s' : Pass) : Prop where
  emitted : ∀ {a cause block}, .emitted a cause block ∈ s'.journal →
    .emitted a cause block ∈ s.journal ∨ p.Generated a cause block s'

namespace Accounts

theorem quiet (same : ∀ {a cause block}, .emitted a cause block ∈ s'.journal →
    .emitted a cause block ∈ s.journal) : p.Accounts s s' where
  emitted mem := .inl (same mem)

theorem trans {s'' : Pass} (h : p.Accounts s s') (h' : p.Accounts s' s'') (later : s'.Extends s'') :
    p.Accounts s s'' where
  emitted mem := by
    rcases h'.emitted mem with mem | generated
    · exact (h.emitted mem).imp_right fun generated => generated.mono later.journal_suffix
    · exact .inr generated

theorem note {e : Event} (step : e.isStep = true) : p.Accounts s (s.note e) := by
  refine quiet fun mem => (List.mem_cons.1 mem).resolve_left ?_
  rintro rfl
  cases step

theorem write (owner : Option NodeId) (text : String) (role : LineRole) (uses : List Address) :
    p.Accounts s (s.write owner text role uses) := by
  refine quiet fun mem => ?_
  rcases Pass.mem_journal_write.1 mem with ⟨l, -, same⟩ | mem
  · cases same
  · exact mem

theorem reportAt (a : Address) (cause : Problem) : p.Accounts s (s.reportAt p a cause) :=
  quiet fun mem => (List.mem_cons.1 mem).resolve_left (by simp)

end Accounts

/-- The text of whatever is compiled is generated by the rule for its kind. -/
theorem Performs.accounts {act : Activity} (h : p.Performs act s s') : p.Accounts s s' := by
  induction h with
  | idle | settled | left | absent | finished => exact .quiet id
  | touch touches => exact .quiet fun mem => touches.of_mem_journal mem rfl
  | asks _ ih | follows _ ih => exact ih
  | states => exact .write ..
  | append _ second ih ih' => exact ih.trans ih' second.extends
  | block _ _ ih => exact ⟨ih.emitted⟩
  | unwired | parameter | unled => exact .note rfl
  | refused _ _ inner ih | stopped _ _ inner ih => exact (Accounts.note rfl).trans ih inner.extends
  | onward _ _ inner rest ih ih' | through _ _ inner rest ih ih' =>
    exact ((Accounts.note rfl).trans ih inner.extends).trans ih' rest.extends
  | own _ _ _ _ inner ih =>
    have settled := (Accounts.note rfl).trans ih inner.extends
    have noted := (Pass.Extends.note _ rfl rfl).trans inner.extends
    have asked := (Accounts.note rfl).trans settled noted
    exact ⟨asked.emitted⟩
  | cyclic => exact (Accounts.reportAt ..).trans (.write ..) (.write ..)
  | compiled _ _ _ ih => exact ⟨ih.emitted⟩
  | arrive _ inner ih => exact (Accounts.note rfl).trans ih inner.extends
  | unknown _ _ _ ih => exact ih
  | again => exact (Accounts.note rfl).trans (.reportAt ..) (.reportAt ..)
  | @compile cause a n kind ms s s₁ s' reached node kindOf _ _ text after inner ih =>
    refine ⟨fun mem => ?_⟩
    rcases ih.emitted mem with mem | generated
    · rcases Pass.mem_journal_begin.1 mem with same | ⟨-, same⟩ | mem
      · cases same
        exact .inr ⟨n, kind, s, s₁, reached, node, kindOf, rfl, text, after.journal_suffix⟩
      · cases same
      · exact .inl mem
    · exact .inr generated
  | entry _ rest ih ih' => exact ih.trans ih' rest.extends

/-- The text of an occurrence that was compiled has been generated in its block, by a walk that asks
and follows as told. -/
theorem Ends.generated (h : p.Ends s) {n : Node} {kind : Kind} (node : p.node? a = some n)
    (kindOf : p.kind? n = some kind) (mem : .emitted a cause block ∈ s.journal) :
    ∃ w s₀ s₁, w.FaithfulAt p a n kind ∧ s₀.block.path = block ∧
      p.emit w a n kind s₀ = some ((), s₁) ∧ s₁.journal <:+ s.journal := by
  obtain ⟨n', kind', s₀, s₁, reached, node', kindOf', path, ⟨fuel, text⟩, later⟩ :=
    (h.performs.accounts.emitted mem).resolve_left (by simp)
  rw [node] at node'
  cases node'
  rw [kindOf] at kindOf'
  cases kindOf'
  refine ⟨p.walk fuel, s₀.begin a cause kind, s₁, ?_, ?_, text, later⟩
  · exact faithfulAt_of_faithful (p.faithful_walk fuel) (fun placed => (reached placed).onPath)
      node kindOf
  · rw [(Pass.Extends.begin ..).path, path]

end Program

/-! ### Texts in the body -/

/-- The lines of a text stand in the body, one after the other, in a block. -/
def Pass.HasText (s : Pass) (owner : NodeId) (block : List Nat) (text : Fragment)
    (role : LineRole) : Prop :=
  ∃ b : Block, b.path = block ∧ b.linesOf (some owner) text role <:+: s.body

namespace Program

variable {p : Program} {s s₁ : Pass}

/-- What is written along the way stands in the body in the end. -/
theorem Ends.hasText (h : p.Ends s) {owner : NodeId} {text : String} {role : LineRole}
    {uses : List Address}
    (later : (s₁.write (some owner) text role uses).journal <:+ s.journal) :
    s.HasText owner s₁.block.path ⟨text, uses⟩ role := by
  obtain ⟨new, journal⟩ := later
  have written : ∀ ls : List Line, (ls.map Event.wrote).filterMap Event.line? = ls := by
    intro ls
    rw [List.filterMap_map]
    exact List.filterMap_some
  refine ⟨s₁.block, rfl, (s₁.journal.filterMap Event.line?).reverse,
    (new.filterMap Event.line?).reverse, ?_⟩
  rw [h.body_eq, ← journal, Pass.write, List.filterMap_append, List.filterMap_append, written]
  simp [List.append_assoc]

end Program

end FlowScript
