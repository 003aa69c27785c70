import FlowScript.Proofs.Grounds
import FlowScript.Proofs.Scripts

/-!
# Values that the flow never computes

A value that is asked for is compiled at once, unless its node waits for the flow.  A pass that
comes to an end reports the nodes that have waited in vain, each node of the root graph once, and
nothing else is reported in the same words.

* `Program.Demands`: what is asked for is marked as used, and compiled unless it waits;
* `Program.Runs.processed_of_started`: a value that is started on is compiled;
* `Diagnostics.messages_foldl_addNode`: the last messages of a pass;
* `Program.Waits`: a value that is asked for and never computed;
* `Program.Ends.count_notProcessed`: the nodes that are reported as not processed.
-/

namespace FlowScript

namespace Program

variable {p : Program} {s s' s'' : Pass}

/-! ### What is asked for -/

/-- Between two states, what is asked for is what is marked as used, and it is started on unless it
waits for the flow. -/
structure Demands (p : Program) (s s' : Pass) : Prop where
  required : ∀ a ∈ s'.required, a ∈ s.required ∨ .demanded a ∈ s'.journal ∧
    ∃ kind, p.kindAt? a = some kind ∧ (kind.isLazy = true → a ∈ s'.started)
  demanded : ∀ a, .demanded a ∈ s'.journal → .demanded a ∈ s.journal ∨ a ∈ s'.required

namespace Demands

/-- Nothing is asked for. -/
theorem quiet (required : s'.required = s.required)
    (journal : ∀ a, .demanded a ∈ s'.journal → .demanded a ∈ s.journal) : p.Demands s s' where
  required _ mem := .inl (required ▸ mem)
  demanded a mem := .inl (journal a mem)

theorem refl (s : Pass) : p.Demands s s := quiet rfl fun _ mem => mem

theorem trans (h : p.Demands s s') (h' : p.Demands s' s'') (later : s'.Extends s'') :
    p.Demands s s'' where
  required a mem := by
    rcases h'.required a mem with mem | new
    · rcases h.required a mem with mem | ⟨asked, kind, hk, started⟩
      · exact .inl mem
      · exact .inr ⟨later.mem_journal asked, kind, hk, fun lazy => later.started (started lazy)⟩
    · exact .inr new
  demanded a mem := by
    rcases h'.demanded a mem with mem | new
    · exact (h.demanded a mem).imp_right fun mem => later.required mem
    · exact .inr new

theorem note {e : Event} (other : ∀ a, e ≠ .demanded a) : p.Demands s (s.note e) := by
  refine quiet rfl fun a mem => ?_
  rcases List.mem_cons.1 mem with same | mem
  · exact absurd same.symm (other a)
  · exact mem

theorem write (owner : Option NodeId) (text : String) (role : LineRole) (uses : List Address) :
    p.Demands s (s.write owner text role uses) := by
  refine quiet rfl fun a mem => ?_
  rcases Pass.mem_journal_write.1 mem with ⟨l, -, same⟩ | mem
  · cases same
  · exact mem

theorem reportAt (a : Address) (cause : Problem) : p.Demands s (s.reportAt p a cause) := by
  refine quiet rfl fun b mem => ?_
  rcases List.mem_cons.1 mem with same | mem
  · cases same
  · exact mem

end Demands

/-- A value that no flow computes is started on when it is asked for. -/
theorem Performs.started_of_settle {a : Address} {kind : Kind}
    (h : p.Performs (.settle a kind) s s') (lazy : kind.isLazy = true) : a ∈ s'.started := by
  cases h with
  | settled started => exact started
  | cyclic started => exact started
  | left _ flow =>
    rw [lazy] at flow
    cases flow
  | compiled _ _ inner => exact inner.extends.started (mem_addNew.2 (.inr rfl))

theorem Performs.demands (placed : p.Placed) {act : Activity} (h : p.Performs act s s') :
    p.Demands s s' := by
  induction h with
  | idle | settled | left | absent | finished => exact .refl _
  | touch touches =>
    refine .quiet ?_ fun a mem => touches.of_mem_journal mem rfl
    cases touches <;> rfl
  | asks _ ih | follows _ ih | unknown _ _ _ ih => exact ih
  | states text role uses => exact .write _ text role uses
  | append _ second ih ih' => exact ih.trans ih' second.extends
  | block _ _ ih => exact ⟨ih.required, ih.demanded⟩
  | unwired | parameter | unled => exact .note (by simp)
  | refused _ _ inner ih | stopped _ _ inner ih =>
    exact Demands.trans (.note (by simp)) ih inner.extends
  | onward _ _ inner rest ih ih' | through _ _ inner rest ih ih' =>
    exact (Demands.trans (.note (by simp)) ih inner.extends).trans ih' rest.extends
  | @own a port w n kind s s' wire kindOf _ _ inner ih =>
    have kindAt := kindAt?_of_node? (placed.node?_feeding wire) kindOf
    have asked : .demanded (a.sibling n.id) ∈ s'.journal :=
      inner.extends.mem_journal (List.mem_cons_self ..)
    constructor
    · intro b mem
      rcases mem_addNew.1 mem with mem | rfl
      · exact ih.required b mem
      · exact .inr ⟨asked, kind, kindAt, inner.started_of_settle⟩
    · intro b mem
      rcases ih.demanded b mem with mem | mem
      · rcases List.mem_cons.1 mem with same | mem
        · cases same
          exact .inr (mem_addNew.2 (.inr rfl))
        · rcases List.mem_cons.1 mem with same | mem
          · cases same
          · exact .inl mem
      · exact .inr (mem_addNew.2 (.inl mem))
  | cyclic => exact Demands.trans (.reportAt _ _) (.write _ _ _ _) (.write ..)
  | compiled _ _ _ ih => exact ⟨ih.required, ih.demanded⟩
  | arrive _ inner ih => exact Demands.trans (.note (by simp)) ih inner.extends
  | again => exact Demands.trans (.note (by simp)) (.reportAt _ _) (.reportAt ..)
  | compile _ _ _ _ _ _ _ inner ih =>
    refine Demands.trans (.quiet Pass.required_begin fun a mem => ?_) ih inner.extends
    exact Pass.mem_of_mem_begin mem rfl
  | entry _ rest ih ih' => exact ih.trans ih' rest.extends

/-! ### What is compiled -/

theorem Runs.processed_of_visit {cause : Cause} {a : Address} {kind : Kind}
    (h : p.Runs (.visit cause a) s s') (hk : p.kindAt? a = some kind)
    (noFlow : kind.hasFlowIn = false) : a ∈ s'.processed := by
  cases h with
  | absent node => simp [kindAt?, node] at hk
  | unknown none => simp [none] at hk
  | again kindAt flowIn =>
    rw [hk] at kindAt
    cases kindAt
    simp [noFlow] at flowIn
  | emit _ _ _ before records after =>
    have later := (before.extends.trans records.extends).trans after.extends
    exact later.processed (mem_addNew.2 (.inr rfl))

/-- A value that is started on is compiled. -/
theorem Runs.processed_of_started (placed : p.Placed) {task : Task} (h : p.Runs task s s')
    {a : Address} (mem : a ∈ s'.started) : a ∈ s.started ∨ a ∈ s'.processed := by
  induction h with
  | refl | asked | followed | demanded | imports | main | process | require | report | reference
  | write | absent | again => exact .inl mem
  | trans _ second ih ih' =>
    rcases ih' mem with mem | done
    · exact (ih mem).imp_right fun done => second.extends.processed done
    · exact .inr done
  | block _ _ ih => exact ih mem
  | settle _ reached inner ih =>
    rcases ih mem with mem | done
    · rcases mem_addNew.1 mem with mem | rfl
      · exact .inl mem
      · obtain ⟨port, kind, ⟨b, q, w, n, -, wire, heq, hk, -⟩, lazy, -⟩ := reached placed
        cases heq
        have kindAt := kindAt?_of_node? (placed.node?_feeding wire) hk
        exact .inr (inner.processed_of_visit kindAt (by simpa [Kind.isLazy] using lazy))
    · exact .inr done
  | arrive _ _ _ ih => exact ih mem
  | unknown _ _ ih => exact ih mem
  | @emit s s₁ s₂ s₃ cause b n kind node kindOf fresh before records after ih ih' =>
    rcases ih' mem with mem | done
    · have same : s₂.started = s₁.started := by cases records <;> rfl
      rw [same] at mem
      rcases ih mem with mem | done
      · exact .inl (Pass.started_begin ▸ mem)
      · exact .inr ((records.extends.trans after.extends).processed done)
    · exact .inr done

/-- Whatever is compiled is marked as compiled. -/
theorem Change.processed_of_emitted (h : p.Change s s')
    (all : ∀ a cause block, .emitted a cause block ∈ s.journal → a ∈ s.processed) :
    ∀ a cause block, .emitted a cause block ∈ s'.journal → a ∈ s'.processed := by
  intro a cause block mem
  cases h with
  | touch _ touches =>
    exact touches.extends.processed (all a cause block (touches.of_mem_journal mem rfl))
  | note step =>
    rcases List.mem_cons.1 mem with rfl | mem
    · cases step
    · exact all a cause block mem
  | report =>
    rcases List.mem_cons.1 mem with same | mem
    · cases same
    · exact all a cause block mem
  | @begin b _ _ _ _ _ =>
    rcases Pass.mem_journal_begin.1 mem with same | ⟨-, same⟩ | mem
    · cases same
      exact mem_addNew.2 (.inr rfl)
    · cases same
    · exact (Pass.Extends.begin ..).processed (all a cause block mem)
  | require | openBlock | closeBlock | start | stop => exact all a cause block mem

end Program

/-! ### The last messages -/

theorem nodup_foldl_addNew {α : Type} [DecidableEq α] {xs l : List α} (h : l.Nodup) :
    (xs.foldl addNew l).Nodup := by
  refine List.foldlRecOn xs addNew (motive := List.Nodup) h fun l h x _ => ?_
  unfold addNew
  split_ifs with known
  · exact h
  · exact List.nodup_append_comm.1 (List.nodup_cons.2 ⟨known, h⟩)

/-- A message that is added for each of some nodes. -/
theorem Diagnostics.messages_foldl_addNode (d : Diagnostics) (ids : List NodeId) (id : NodeId)
    (message : String) :
    (ids.foldl (·.addNode · message) d).messages id =
      d.messages id ++ List.replicate (ids.count id) message := by
  induction ids generalizing d with
  | nil => simp
  | cons x xs ih =>
    rw [List.foldl_cons, ih, messages_addNode, List.count_cons]
    by_cases same : x = id
    · simp [same, List.replicate_succ]
    · simp [same]

theorem Pass.mem_unprocessed {s : Pass} {id : NodeId} :
    id ∈ s.unprocessed ↔ ∃ a ∈ s.required, a ∉ s.processed ∧ a.rootId = id := by
  simp [unprocessed, mem_foldl_addNew, and_assoc]

/-- A node is reported as not processed once if a value below it was used and not compiled. -/
theorem Pass.messages_finish (s : Pass) (settings : Settings) (id : NodeId) :
    (s.finish settings).diagnostics.messages id = s.diagnostics.messages id ++
      if id ∈ s.unprocessed then [Problem.notProcessed.message] else [] := by
  have nodup : s.unprocessed.Nodup := nodup_foldl_addNew List.nodup_nil
  rw [show (s.finish settings).diagnostics = s.unprocessed.foldl
    (·.addNode · Problem.notProcessed.message) s.diagnostics from rfl,
    Diagnostics.messages_foldl_addNode]
  split_ifs with mem
  · rw [List.count_eq_one_of_mem nodup mem]
    rfl
  · rw [List.count_eq_zero_of_not_mem mem]
    rfl

/-! ### Other words -/

theorem head?_toList_append (front rest : String) {c : Char} (h : front.toList.head? = some c) :
    (front ++ rest).toList.head? = some c := by
  rw [String.toList_append, List.head?_append, h]
  rfl

/-- The words for other problems begin with other letters. -/
theorem Problem.head?_message {cause : Problem} (other : cause ≠ .notProcessed) :
    ∃ c, cause.message.toList.head? = some c ∧ c ≠ 'N' := by
  have unknown := fun what name => head?_toList_append ("Unknown " ++ what) name
    (head?_toList_append "Unknown " what (c := 'U') (by decide))
  have module := fun name => head?_toList_append "Module '" name (c := 'M') (by decide)
  cases cause with
  | notProcessed => exact absurd rfl other
  | reachedAgain => exact ⟨'F', by decide, by decide⟩
  | cyclicValue => exact ⟨'c', by decide, by decide⟩
  | inputExpected => exact ⟨'i', by decide, by decide⟩
  | thenExitExpected => exact ⟨'t', by decide, by decide⟩
  | inputOutsideModule => exact ⟨'I', by decide, by decide⟩
  | exitOutsideModule => exact ⟨'O', by decide, by decide⟩
  | unknownComponent name => exact ⟨'U', unknown "component: " name, by decide⟩
  | unknownType name => exact ⟨'U', unknown "type: " name, by decide⟩
  | unknownFunction name => exact ⟨'U', unknown "function: " name, by decide⟩
  | unsupportedArgument component =>
    exact ⟨'U', head?_toList_append "Unsupported argument type: " component (by decide), by decide⟩
  | moduleNotLoaded name =>
    exact ⟨'M', head?_toList_append _ "' is not loaded" (module name), by decide⟩
  | recursiveCall name =>
    have front := head?_toList_append "Recursive call of module '" name (c := 'R') (by decide)
    exact ⟨'R', head?_toList_append _ "'" front, by decide⟩
  | outputNotFound name =>
    have front := head?_toList_append "Module output '" name (c := 'M') (by decide)
    exact ⟨'M', head?_toList_append _ "' not found" front, by decide⟩
  | entryNotFound name =>
    have front := head?_toList_append "Module flow input '" name (c := 'M') (by decide)
    exact ⟨'M', head?_toList_append _ "' not found" front, by decide⟩

theorem Problem.message_ne_notProcessed {cause : Problem} (other : cause ≠ .notProcessed) :
    cause.message ≠ Problem.notProcessed.message := by
  intro same
  obtain ⟨c, first, ne⟩ := head?_message other
  rw [same] at first
  exact ne (Option.some.inj (first.symm.trans (by decide)))

namespace Program

variable {p : Program} {s : Pass}

/-- A message about a node inside a module has a colon after the name of the module. -/
theorem attributed_ne_notProcessed {cause : Problem} (other : cause ≠ .notProcessed)
    (a : Address) : p.attributed a cause.message ≠ Problem.notProcessed.message := by
  have plain := Problem.message_ne_notProcessed other
  unfold attributed
  split_ifs
  · exact plain
  · split
    · rename_i g _
      intro same
      have colon : ':' ∈ (g.name ++ ": " ++ cause.message).toList := by
        rw [String.toList_append, String.toList_append]
        exact List.mem_append_left _ (List.mem_append_right _ (by decide))
      rw [same] at colon
      exact absurd colon (by decide)
    · exact plain

/-- While it is under way, a pass reports no node as not processed. -/
theorem Unfolds.notProcessed_notMem (h : p.Unfolds s) (id : NodeId) :
    Problem.notProcessed.message ∉ s.diagnostics.messages id := by
  rw [h.messages, messagesAt]
  intro mem
  obtain ⟨e, mem, text⟩ := List.mem_filterMap.1 mem
  cases e with
  | problem a cause =>
    simp only [messageAt?] at text
    split_ifs at text
    have other : cause ≠ .notProcessed := by
      rintro rfl
      exact h.warrants (List.mem_reverse.1 mem)
    exact attributed_ne_notProcessed other a (Option.some.inj text)
  | _ => cases text

/-! ### Waiting in vain -/

/-- A value was asked for and left to the flow, which never computed it. -/
def Waits (p : Program) (s : Pass) (a : Address) : Prop :=
  a ∈ s.required ∧ (∃ kind, p.kindAt? a = some kind ∧ kind.hasFlowIn = true) ∧
    ∀ cause block, .emitted a cause block ∉ s.journal

namespace Ends

variable (h : p.Ends s) (placed : p.Placed)

include h placed

theorem demands : p.Demands {} s := h.performs.demands placed

/-- What is marked as used is what was asked for. -/
theorem mem_required_iff {a : Address} : a ∈ s.required ↔ .demanded a ∈ s.journal := by
  constructor
  · intro mem
    rcases (h.demands placed).required a mem with none | ⟨asked, -⟩
    · cases none
    · exact asked
  · intro mem
    rcases (h.demands placed).demanded a mem with none | required
    · cases none
    · exact required

/-- The values that are used and not compiled are those that wait for the flow. -/
theorem waits_iff {a : Address} : p.Waits s a ↔ a ∈ s.required ∧ a ∉ s.processed := by
  constructor
  · rintro ⟨required, ⟨kind, hk, flowIn⟩, never⟩
    refine ⟨required, fun processed => ?_⟩
    rcases h.runs.processed placed processed with none | ⟨cause, block, mem⟩ | call | ⟨_, literal⟩
    · cases none
    · exact never cause block mem
    · rw [hk] at call
      cases call
      cases flowIn
    · rw [hk] at literal
      cases literal
      cases flowIn
  · rintro ⟨required, left⟩
    have emitted := h.performs.keeps Change.processed_of_emitted trivial
      (fun _ _ _ none => by cases none)
    refine ⟨required, ?_, fun cause block mem => left (emitted a cause block mem)⟩
    rcases (h.demands placed).required a required with none | ⟨-, kind, hk, started⟩
    · cases none
    refine ⟨kind, hk, ?_⟩
    -- a value that no flow computes has been started on, and so it is compiled
    by_contra noFlow
    have lazy : kind.isLazy = true := by simpa [Kind.isLazy] using noFlow
    rcases h.runs.processed_of_started placed (started lazy) with none | processed
    · cases none
    · exact left processed

end Ends

/-- A finished pass reports a node of the root graph as not processed, once, if some value below the
node was asked for and left to a flow that never computed it, and otherwise not.  The values that
were asked for are those that are marked as used. -/
theorem Ends.count_notProcessed (h : p.Ends s) (placed : p.Placed) (id : NodeId) :
    ((∃ a, a.rootId = id ∧ p.Waits s a) →
        ((s.finish p.settings).diagnostics.messages id).count Problem.notProcessed.message = 1) ∧
      ((¬ ∃ a, a.rootId = id ∧ p.Waits s a) →
        Problem.notProcessed.message ∉ (s.finish p.settings).diagnostics.messages id) ∧
      ∀ a, a ∈ s.required ↔ .demanded a ∈ s.journal := by
  have reported : id ∈ s.unprocessed ↔ ∃ a, a.rootId = id ∧ p.Waits s a := by
    rw [Pass.mem_unprocessed]
    constructor
    · rintro ⟨a, required, left, root⟩
      exact ⟨a, root, (h.waits_iff placed).2 ⟨required, left⟩⟩
    · rintro ⟨a, root, waits⟩
      obtain ⟨required, left⟩ := (h.waits_iff placed).1 waits
      exact ⟨a, required, left, root⟩
  have before := h.unfolds.notProcessed_notMem id
  rw [Pass.messages_finish, ← reported]
  refine ⟨fun mem => ?_, fun none => ?_, fun a => h.mem_required_iff placed⟩
  · rw [if_pos mem, List.count_append, List.count_eq_zero_of_not_mem before,
      List.count_singleton_self]
  · rwa [if_neg none, List.append_nil]

end Program

namespace Sample

/-- A function prints what a module gives out, which are two numbers that are never read, and twice
a number that is read afterwards. -/
def waiting : Program where
  lang := language
  root := {
    name := "main"
    nodes := OrderedMap.ofList [
      (1, { id := 1, component := "Function" }),
      (2, {
        id := 2, component := "Module"
        data := OrderedMap.ofList [(moduleKey, .str "store")] }),
      (3, { id := 3, component := "print" }),
      (4, { id := 4, component := "print" }),
      (5, { id := 5, component := "print" }),
      (6, { id := 6, component := "twice" }),
      (7, { id := 7, component := "read" })]
    wires := [⟨1, "fout", 3, "fin"⟩, ⟨3, "fout", 4, "fin"⟩, ⟨4, "fout", 5, "fin"⟩,
      ⟨5, "fout", 7, "fin"⟩, ⟨2, "first", 3, "value"⟩, ⟨2, "second", 4, "value"⟩,
      ⟨6, "result", 5, "value"⟩, ⟨7, "result", 6, "value"⟩] }
  library := OrderedMap.ofList [
    ("store", {
      name := "store"
      nodes := OrderedMap.ofList [
        (1, { id := 1, component := "read" }),
        (2, { id := 2, component := "read" }),
        (3, {
          id := 3, component := "Output"
          data := OrderedMap.ofList [("name", .str "first")] }),
        (4, {
          id := 4, component := "Output"
          data := OrderedMap.ofList [("name", .str "second")] })]
      wires := [⟨1, "result", 3, "input"⟩, ⟨2, "result", 4, "input"⟩] })]

theorem waiting_isSome : (waiting.runWith? 20).isSome = true := by
  decide +kernel

/-- How the program is compiled. -/
def waitingPass : Pass := (waiting.runWith? 20).get waiting_isSome

theorem waiting_ends : waiting.Ends waitingPass :=
  ⟨20, (Option.some_get _).symm⟩

theorem waiting_placed : waiting.Placed :=
  Program.id_of_entries rfl

/-- An occurrence of a call that the journal does not tell of. -/
theorem waits_of_checks {a : Address} (required : a ∈ waitingPass.required)
    (kind : waiting.kindAt? a = some (.call "read" true))
    (never : (waitingPass.journal.all fun e => !e.emits a) = true) :
    waiting.Waits waitingPass a := by
  refine ⟨required, ⟨_, kind, rfl⟩, fun cause block mem => ?_⟩
  simpa [Event.emits] using List.all_eq_true.1 never _ mem

/-- Two numbers wait below the call of the module, which is reported once.  The number that is read
after it was asked for is not reported. -/
theorem count_notProcessed_waiting :
    waiting.Placed ∧ waiting.Waits waitingPass ⟨[2], 1⟩ ∧ waiting.Waits waitingPass ⟨[2], 2⟩ ∧
      ((waitingPass.finish waiting.settings).diagnostics.messages 2).count
        "Node is not processed" = 1 ∧
      ⟨[], 7⟩ ∈ waitingPass.required ∧
      "Node is not processed" ∉ (waitingPass.finish waiting.settings).diagnostics.messages 7 := by
  have first : waiting.Waits waitingPass ⟨[2], 1⟩ :=
    waits_of_checks (by decide +kernel) (by decide +kernel) (by decide +kernel)
  have second : waiting.Waits waitingPass ⟨[2], 2⟩ :=
    waits_of_checks (by decide +kernel) (by decide +kernel) (by decide +kernel)
  have required : ⟨[], 7⟩ ∈ waitingPass.required := by decide +kernel
  refine ⟨waiting_placed, first, second, ?_, required, ?_⟩
  · exact (waiting_ends.count_notProcessed waiting_placed 2).1 ⟨⟨[2], 1⟩, rfl, first⟩
  · refine (waiting_ends.count_notProcessed waiting_placed 7).2.1 ?_
    rintro ⟨a, root, required, -, never⟩
    -- what lies below the node is the node itself, and the flow has come to it
    have below : (waitingPass.required.all fun a => a.rootId = 7 → a = ⟨[], 7⟩) = true := by
      decide +kernel
    obtain rfl := of_decide_eq_true (List.all_eq_true.1 below a required) root
    exact never .flow [0] (by decide +kernel)

end Sample

end FlowScript
