import FlowScript.Proofs.Declarations
import FlowScript.Proofs.Scripts

/-!
# When values are compiled and where they are declared

A node that the flow enters is compiled when the flow arrives there for the first time, and any
other value when it is demanded for the first time; nothing comes in between.  So it is known which
block is open then, and the value is declared in that block.  A line that uses the value sees the
declaration if and only if it comes later and stands in that block or below.

* `Pass.FirstThen`: something happens for the first time, and something else follows at once;
* `Program.Prompt`: whatever was compiled was compiled at the first arrival or the first demand;
* `Program.Performs.prompt`: a pass stays prompt;
* `Program.Ends.uses_declared`: where the values are declared that a line uses.
-/

namespace FlowScript

namespace Pass

variable {s s' : Pass} {a : Address} {cause : Cause} {kind : Kind}

/-- The one event happens for the first time, and the other follows at once. -/
def FirstThen (s : Pass) (e e' : Event) : Prop :=
  ∃ later earlier, s.journal = later ++ e' :: e :: earlier ∧ e ∉ earlier

theorem FirstThen.of_suffix {e e' : Event} (h : s.FirstThen e e')
    (suffix : s.journal <:+ s'.journal) : s'.FirstThen e e' := by
  obtain ⟨later, earlier, journal, first⟩ := h
  obtain ⟨new, grown⟩ := suffix
  exact ⟨new ++ later, earlier, by rw [← grown, journal, List.append_assoc], first⟩

theorem Extends.suffix (h : s.Extends s') : s.journal <:+ s'.journal := by
  obtain ⟨new, grown, -⟩ := h.grows
  exact ⟨new, grown.symm⟩

theorem journal_begin_of_flow (flowIn : kind.hasFlowIn = true) :
    (s.begin a cause kind).journal =
      .emitted a cause s.block.path :: .arrived a :: s.journal := by
  simp [begin, flowIn, note, visit, markProcessed]

theorem journal_begin_of_noFlow (noFlow : kind.hasFlowIn = false) :
    (s.begin a cause kind).journal = .emitted a cause s.block.path :: s.journal := by
  simp [begin, noFlow, note, markProcessed]

end Pass

namespace Program

variable {p : Program} {s s' : Pass} {a : Address}

/-- An occurrence of a node that no flow enters. -/
def Flowless (p : Program) (a : Address) : Prop :=
  ∃ kind, p.kindAt? a = some kind ∧ kind.hasFlowIn = false

/-! ### Nodes are compiled promptly -/

/-- Where the flow arrives it leaves its mark, and the values without flow input that are demanded
are started on.  What the flow enters was compiled at its first arrival, and what was compiled on
demand, at the first demand. -/
structure Prompt (p : Program) (s : Pass) : Prop where
  visited {a : Address} : .arrived a ∈ s.journal → a ∈ s.visited
  started {a : Address} : .demanded a ∈ s.journal → p.Flowless a → a ∈ s.started
  arrival {a : Address} {kind : Kind} {cause : Cause} {block : List Nat} :
    .emitted a cause block ∈ s.journal → p.kindAt? a = some kind → kind.hasFlowIn = true →
      s.FirstThen (.arrived a) (.emitted a cause block)
  demand {a : Address} {block : List Nat} : .emitted a .demand block ∈ s.journal →
    p.Flowless a → s.FirstThen (.demanded a) (.emitted a .demand block)

/-- An event that a pass may note without compiling anything. -/
def Idle (p : Program) (s : Pass) : Event → Prop
  | .arrived a => a ∈ s.visited
  | .demanded a => p.Flowless a → a ∈ s.started
  | .emitted _ _ _ => False
  | _ => True

theorem idle_of_isText {e : Event} (text : e.isText = true) : p.Idle s e := by
  cases e <;> trivial

theorem prompt_initial (p : Program) : p.Prompt {} where
  visited mem := by cases mem
  started mem := by cases mem
  arrival mem := by cases mem
  demand mem := by cases mem

namespace Prompt

/-- A pass stays prompt as long as it compiles nothing. -/
theorem mono (h : p.Prompt s) (suffix : s.journal <:+ s'.journal)
    (idle : ∀ e ∈ s'.journal, e ∈ s.journal ∨ p.Idle s' e) (visited : s.visited ⊆ s'.visited)
    (started : s.started ⊆ s'.started) : p.Prompt s' where
  visited mem := (idle _ mem).elim (fun mem => visited (h.visited mem)) id
  started mem flowless :=
    (idle _ mem).elim (fun mem => started (h.started mem flowless)) fun given => given flowless
  arrival mem hk flowIn :=
    (idle _ mem).elim (fun mem => (h.arrival mem hk flowIn).of_suffix suffix) False.elim
  demand mem flowless :=
    (idle _ mem).elim (fun mem => (h.demand mem flowless).of_suffix suffix) False.elim

/-- It depends on the journal and on two of the marks. -/
theorem of_eq (h : p.Prompt s) (journal : s'.journal = s.journal)
    (visited : s'.visited = s.visited) (started : s'.started = s.started) : p.Prompt s' := by
  refine h.mono ?_ (fun _ mem => .inl (journal ▸ mem)) ?_ ?_
  · rw [journal]
  · exact visited ▸ List.Subset.refl _
  · exact started ▸ List.Subset.refl _

theorem start (h : p.Prompt s) (a : Address) : p.Prompt ((s.start a).beginResolving a) :=
  h.mono List.suffix_rfl (fun _ => .inl) (List.Subset.refl _) fun _ mem =>
    mem_addNew.2 (.inl mem)

theorem note (h : p.Prompt s) {e : Event} (idle : p.Idle s e) : p.Prompt (s.note e) := by
  refine h.mono (List.suffix_cons ..) (fun e' mem => ?_) (List.Subset.refl _)
    (List.Subset.refl _)
  rcases List.mem_cons.1 mem with rfl | mem
  · exact .inr idle
  · exact .inl mem

theorem reportAt (h : p.Prompt s) (a : Address) (cause : Problem) :
    p.Prompt (s.reportAt p a cause) :=
  (h.note (e := .problem a cause) trivial).of_eq rfl rfl rfl

theorem touch (h : p.Prompt s) (touches : p.Touches a s s') : p.Prompt s' := by
  have later := touches.extends
  refine h.mono later.suffix (fun e mem => ?_) later.visited later.started
  cases text : e.isText with
  | true => exact .inr (idle_of_isText text)
  | false => exact .inl (touches.of_mem_journal mem text)

/-- Compiling begins promptly where the flow has not been, or with the first demand. -/
theorem begin (h : p.Prompt s) {cause : Cause} {kind : Kind} (hk : p.kindAt? a = some kind)
    (fresh : kind.hasFlowIn = true → a ∉ s.visited)
    (first : cause = .demand →
      ∃ earlier, s.journal = .demanded a :: earlier ∧ .demanded a ∉ earlier) :
    p.Prompt (s.begin a cause kind) := by
  have later : s.Extends (s.begin a cause kind) := .begin ..
  constructor
  · intro b mem
    rcases Pass.mem_journal_begin.1 mem with same | ⟨flowIn, same⟩ | mem
    · cases same
    · cases same
      rw [Pass.visited_begin, if_pos flowIn]
      exact mem_addNew.2 (.inr rfl)
    · exact later.visited (h.visited mem)
  · intro b mem flowless
    rcases Pass.mem_journal_begin.1 mem with same | ⟨-, same⟩ | mem
    · cases same
    · cases same
    · exact later.started (h.started mem flowless)
  · intro b kind' cause' block mem hk' flowIn
    rcases Pass.mem_journal_begin.1 mem with same | ⟨-, same⟩ | mem
    · cases same
      cases hk.symm.trans hk'
      exact ⟨[], s.journal, Pass.journal_begin_of_flow flowIn,
        fun mem => fresh flowIn (h.visited mem)⟩
    · cases same
    · exact (h.arrival mem hk' flowIn).of_suffix later.suffix
  · rintro b block mem ⟨kind', hk', noFlow⟩
    rcases Pass.mem_journal_begin.1 mem with same | ⟨-, same⟩ | mem
    · cases same
      cases hk.symm.trans hk'
      obtain ⟨earlier, journal, first⟩ := first rfl
      refine ⟨[], earlier, ?_, first⟩
      rw [Pass.journal_begin_of_noFlow noFlow, journal, List.nil_append]
    · cases same
    · exact (h.demand mem ⟨kind', hk', noFlow⟩).of_suffix later.suffix

end Prompt

/-- When an activity may take place: a value is settled right after it was demanded, and visited on
demand right after the first demand. -/
def Activity.Ready (p : Program) (s : Pass) : Activity → Prop
  | .settle a kind => p.kindAt? a = some kind ∧ ∃ s₀, p.Prompt s₀ ∧ s = s₀.note (.demanded a)
  | .visit cause a => p.Prompt s ∧ (cause = .demand →
      ∃ earlier, s.journal = .demanded a :: earlier ∧ .demanded a ∉ earlier)
  | _ => p.Prompt s

/-- Whatever a pass does, nodes are compiled promptly. -/
theorem Performs.prompt (placed : p.Placed) {act : Activity} (h : p.Performs act s s')
    (ready : act.Ready p s) : p.Prompt s' := by
  induction h with
  | idle | finished => exact ready
  | absent => exact ready.1
  | touch touches => exact ready.touch touches
  | asks _ ih | follows _ ih => exact ih ready
  | states text role uses => exact ready.touch (.write text role uses)
  | append _ _ ih ih' => exact ih' (ih ready)
  | block _ _ ih => exact (ih (ready.of_eq rfl rfl rfl)).of_eq rfl rfl rfl
  | unwired | parameter | unled => exact ready.note trivial
  | refused _ _ _ ih | stopped _ _ _ ih => exact ih (ready.note trivial)
  | onward _ _ _ _ ih ih' | through _ _ _ _ ih ih' => exact ih' (ih (ready.note trivial))
  | @own a port _ _ _ s _ wire kindOf _ _ _ ih =>
    have asked : p.Prompt (s.note (.asked a port)) := ready.note trivial
    have kindAt := kindAt?_of_node? (placed.node?_feeding wire) kindOf
    exact (ih ⟨kindAt, _, asked, rfl⟩).of_eq rfl rfl rfl
  | settled started =>
    obtain ⟨-, s₀, prompt, rfl⟩ := ready
    exact prompt.note fun _ => started
  | @cyclic a _ _ started =>
    obtain ⟨-, s₀, prompt, rfl⟩ := ready
    have noted : p.Prompt (s₀.note (.demanded a)) := prompt.note fun _ => started
    exact (noted.reportAt ..).touch (.write ..)
  | left _ flow =>
    obtain ⟨hk, s₀, prompt, rfl⟩ := ready
    refine prompt.note ?_
    rintro ⟨kind, hk', noFlow⟩
    cases hk.symm.trans hk'
    simp [Kind.isLazy, noFlow] at flow
  | @compiled a kind s s' fresh lazy _ ih =>
    obtain ⟨hk, s₀, prompt, rfl⟩ := ready
    have flowless : p.Flowless a := ⟨kind, hk, by simpa [Kind.isLazy] using lazy⟩
    -- the mark is set after the demand is noted, and the other order gives the same state
    have noted : p.Prompt (((s₀.start a).beginResolving a).note (.demanded a)) :=
      (prompt.start a).note fun _ => mem_addNew.2 (.inr rfl)
    have first : .demanded a ∉ s₀.journal := fun mem => fresh (prompt.started mem flowless)
    exact (ih ⟨noted, fun _ => ⟨s₀.journal, rfl, first⟩⟩).of_eq rfl rfl rfl
  | arrive _ _ ih => exact ih ⟨ready.note trivial, fun demand => by cases demand⟩
  | unknown _ _ _ ih => exact ih ready.1
  | @again _ a _ _ s _ _ _ visited =>
    have noted : p.Prompt (s.note (.arrived a)) := ready.1.note visited
    exact noted.reportAt ..
  | compile _ node kindOf fresh _ _ _ _ ih =>
    exact ih (ready.1.begin (kindAt?_of_node? node kindOf) fresh ready.2)
  | entry _ _ ih ih' => exact ih' (ih ⟨ready, fun demand => by cases demand⟩)

namespace Ends

/-- In a finished pass, nodes have been compiled promptly. -/
theorem prompt (h : p.Ends s) (linked : p.Linked) : p.Prompt s :=
  h.performs.prompt linked.placed (prompt_initial p)

/-- In a pass of a linked program without diagnostics, a line that uses the identifier of a literal,
a call or a variable uses a value that one line of the body declares.  The declaration stands in the
block that was open when the node was compiled, which happens once; the line sees it if and only if
it comes later and in that block or below.  A call with effects is compiled where the flow arrives
for the first time.  Any other value is compiled where it is demanded for the first time, and the
line does come later. -/
theorem uses_declared (h : p.Ends s) (linked : p.Linked)
    (clean : (s.finish p.settings).diagnostics.isEmpty = true) {j : Nat} {l : Line} {a : Address}
    {kind : Kind} (line : s.body[j]? = some l) (use : a ∈ l.uses)
    (hk : p.kindAt? a = some kind) (value : kind.isValue = true) :
    ∃ i d cause, s.body[i]? = some d ∧ d.role = .declaration a ∧ a.DeclaredBy d.text ∧
      (∀ i' d', s.body[i']? = some d' → d'.role = .declaration a → i' = i) ∧
      .emitted a cause d.block ∈ s.journal ∧ s.count (Event.emits a) = 1 ∧
      (s.Sees j l a ↔ i < j ∧ d.block <:+ l.block) ∧
      (kind.hasFlowIn = true →
        cause = .flow ∧ s.FirstThen (.arrived a) (.emitted a cause d.block)) ∧
      (kind.hasFlowIn = false →
        cause = .demand ∧ s.FirstThen (.demanded a) (.emitted a cause d.block) ∧ i < j) := by
  obtain ⟨i, d, place, role, before⟩ := h.exists_declaration linked clean line use hk value
  have written := h.mem_body.1 (List.mem_of_getElem? place)
  rcases h.runs.declared_at written role with none | ⟨declares, cause, emitted⟩
  · cases none
  · have once : s.count (Event.emits a) = 1 := by
      have atMost := h.compiled linked hk value
      have compiled : 0 < s.count (Event.emits a) :=
        List.countP_pos_iff.2 ⟨_, emitted, by simp [Event.emits]⟩
      omega
    have only : ∀ i' d', s.body[i']? = some d' → d'.role = .declaration a → i' = i := by
      intro i' d' place' role'
      exact eq_of_countP_le_one (h.declarations linked hk value) place' place (by simp [role'])
        (by simp [role])
    have sees : s.Sees j l a ↔ i < j ∧ d.block <:+ l.block := by
      constructor
      · rintro ⟨i', d', place', role', lt, inside⟩
        cases only i' d' place' role'
        rw [place] at place'
        cases place'
        exact ⟨lt, inside⟩
      · rintro ⟨lt, inside⟩
        exact ⟨i, d, place, role, lt, inside⟩
    have prompt := h.prompt linked
    have why := h.cause_eq linked hk value emitted
    refine ⟨i, d, cause, place, role, declares, only, emitted, once, sees, ?_, ?_⟩
    · intro flowIn
      exact ⟨by simpa [flowIn] using why, prompt.arrival emitted hk flowIn⟩
    · intro noFlow
      have demand : cause = .demand := by simpa [noFlow] using why
      subst demand
      exact ⟨rfl, prompt.demand emitted ⟨kind, hk, noFlow⟩, before noFlow⟩

end Ends

end Program

namespace Sample

/-- The edits that make a function which branches and prints a number on both arms, and then prints
what it reads only afterwards. -/
def scatteredEdits : List Edit := [
  .create .empty "Function" .empty,
  .create .empty "If" .empty,
  .create .empty "bool" (OrderedMap.ofList [("value", .str "true")]),
  .create .empty "print" .empty,
  .create .empty "int" (OrderedMap.ofList [("value", .str "7")]),
  .create .empty "print" .empty,
  .create .empty "print" .empty,
  .create .empty "read" .empty,
  .connect ⟨1, "fout", 2, "fin"⟩,
  .connect ⟨3, "result", 2, "inValue"⟩,
  .connect ⟨2, "then", 4, "fin"⟩,
  .connect ⟨2, "else", 6, "fin"⟩,
  .connect ⟨5, "result", 4, "value"⟩,
  .connect ⟨5, "result", 6, "value"⟩,
  .connect ⟨2, "fout", 7, "fin"⟩,
  .connect ⟨7, "fout", 8, "fin"⟩,
  .connect ⟨8, "result", 7, "value"⟩]

def scattered : Program where
  lang := language
  root := Graph.session language "main" scatteredEdits

theorem scattered_isSome : (scattered.runWith? 20).isSome = true := by
  decide +kernel

/-- How the program is compiled. -/
def scatteredPass : Pass := (scattered.runWith? 20).get scattered_isSome

theorem scattered_linked : scattered.Linked where
  loaded := ⟨Pattern.reader, core, surface, {}, load_eq⟩
  built g hg := by
    cases List.mem_singleton.1 hg
    exact ⟨"main", scatteredEdits, rfl, by simp [scatteredEdits, Edit.isRetag]⟩
  inputs g hg := by cases hg
  outputs g hg := by cases hg
  calls g hg n hn hk := by
    cases List.mem_singleton.1 hg
    have none : (scattered.root.nodes.values.all fun n =>
        scattered.kind? n ≠ some .moduleCall) = true := by
      decide +kernel
    rw [List.all_eq_true] at none
    exact absurd hk (by simpa using none n hn)

theorem scattered_clean :
    (scatteredPass.finish scattered.settings).diagnostics.isEmpty = true := by
  decide +kernel

theorem scattered_ends : scattered.Ends scatteredPass :=
  ⟨20, (Option.some_get _).symm⟩

/-- The line that prints the number on the second arm. -/
def secondPrint : Line :=
  { owner := some 6, depth := 2, text := "print(_5)", block := [2, 0], uses := [⟨[], 5⟩] }

theorem secondPrint_unseen : scatteredPass.body[5]? = some secondPrint ∧
    scattered.kindAt? ⟨[], 5⟩ = some (.literal "int") ∧
    ¬ scatteredPass.Sees 5 secondPrint ⟨[], 5⟩ := by
  refine ⟨?_, ?_, ?_⟩ <;> decide +kernel

/-- The line that prints what is read afterwards. -/
def earlyPrint : Line :=
  { owner := some 7, depth := 1, text := "print(_8)", block := [0], uses := [⟨[], 8⟩] }

theorem earlyPrint_unseen : scatteredPass.body[6]? = some earlyPrint ∧
    scattered.kindAt? ⟨[], 8⟩ = some (.call "read" true) ∧
    ¬ scatteredPass.Sees 6 earlyPrint ⟨[], 8⟩ := by
  refine ⟨?_, ?_, ?_⟩ <;> decide +kernel

/-- The second arm prints the number, which is declared on the first arm, and the result of reading
is printed before it is declared; nothing is reported. -/
theorem scattered_unseen :
    scattered.Linked ∧ scattered.Ends scatteredPass ∧
      (scatteredPass.finish scattered.settings).diagnostics.isEmpty = true ∧
      (scatteredPass.body[5]? = some secondPrint ∧
        scattered.kindAt? ⟨[], 5⟩ = some (.literal "int") ∧
        ¬ scatteredPass.Sees 5 secondPrint ⟨[], 5⟩) ∧
      scatteredPass.body[6]? = some earlyPrint ∧
      scattered.kindAt? ⟨[], 8⟩ = some (.call "read" true) ∧
      ¬ scatteredPass.Sees 6 earlyPrint ⟨[], 8⟩ :=
  ⟨scattered_linked, scattered_ends, scattered_clean, secondPrint_unseen, earlyPrint_unseen⟩

/-- What the laws say of the two lines: the number is declared earlier, in another block, where it
was demanded first, and the result of reading where the flow arrives, which is later. -/
theorem uses_declared_scattered :
    (∃ i d, scatteredPass.body[i]? = some d ∧ d.role = .declaration ⟨[], 5⟩ ∧
      scatteredPass.FirstThen (.demanded ⟨[], 5⟩) (.emitted ⟨[], 5⟩ .demand d.block) ∧ i < 5 ∧
      ¬ d.block <:+ secondPrint.block) ∧
    ∃ i d, scatteredPass.body[i]? = some d ∧ d.role = .declaration ⟨[], 8⟩ ∧
      scatteredPass.FirstThen (.arrived ⟨[], 8⟩) (.emitted ⟨[], 8⟩ .flow d.block) ∧
      ¬ (i < 6 ∧ d.block <:+ earlyPrint.block) := by
  constructor
  · obtain ⟨line, kind, unseen⟩ := secondPrint_unseen
    obtain ⟨i, d, cause, place, role, -, -, -, -, sees, -, demanded⟩ :=
      scattered_ends.uses_declared scattered_linked scattered_clean line (by decide) kind rfl
    obtain ⟨rfl, first, earlier⟩ := demanded rfl
    exact ⟨i, d, place, role, first, earlier, fun inside => unseen (sees.2 ⟨earlier, inside⟩)⟩
  · obtain ⟨line, kind, unseen⟩ := earlyPrint_unseen
    obtain ⟨i, d, cause, place, role, -, -, -, -, sees, arrived, -⟩ :=
      scattered_ends.uses_declared scattered_linked scattered_clean line (by decide) kind rfl
    obtain ⟨rfl, first⟩ := arrived rfl
    exact ⟨i, d, place, role, first, fun before => unseen (sees.2 before)⟩

end Sample

end FlowScript
