import FlowScript.Pattern.Basic
import FlowScript.Proofs.Walking

/-!
# Every occurrence is compiled once

The marks of a pass see to it that an occurrence reached by the flow is compiled when the flow first
arrives, that a value is compiled on the first demand, and that whoever refers to a value is handed
the same text.

* `Program.Runs.emissions_flowIn`: compiled if and only if visited;
* `Program.Runs.arrivals`: every other arrival is reported;
* `Program.Runs.emissions_demand`: compiled on demand only if not started on before;
* `Program.Runs.steady`: a text that was handed out stays the text of the value.
-/

namespace FlowScript

namespace Event

/-- Whether an event is the compilation of an occurrence. -/
def emits (a : Address) : Event → Bool
  | .emitted b _ _ => b = a
  | _ => false

/-- Whether an event is the compilation of an occurrence for a cause. -/
def emitsBy (cause : Cause) (a : Address) : Event → Bool
  | .emitted b c _ => b = a && c = cause
  | _ => false

/-- Whether an event is the arrival of the flow at an occurrence. -/
def arrives (a : Address) : Event → Bool
  | .arrived b => b = a
  | _ => false

/-- Whether an event is the report that the flow has reached an occurrence again. -/
def repeats (a : Address) : Event → Bool
  | .problem b .reachedAgain => b = a
  | _ => false

/-- Whether an event tells neither of a cycle nor of a value that was compiled without demand. -/
def isCalm (a : Address) : Event → Bool
  | .problem _ .cyclicValue => false
  | .emitted b cause _ => b ≠ a || cause = .demand
  | _ => true

end Event

namespace Pass

/-- How many events of a pass have a property. -/
def count (s : Pass) (q : Event → Bool) : Nat := s.journal.countP q

/-- No value was found to depend on itself. -/
def Acyclic (s : Pass) : Prop := ∀ a, .problem a .cyclicValue ∉ s.journal

theorem Acyclic.of_extends {s s' : Pass} (h : s'.Acyclic) (hs : s.Extends s') : s.Acyclic :=
  fun a mem => h a (hs.mem_journal mem)

variable (s : Pass) (q : Event → Bool)

theorem count_note (e : Event) : (s.note e).count q = s.count q + if q e then 1 else 0 := by
  simp [count, note, List.countP_cons]

theorem count_reportAt (p : Program) (a : Address) (cause : Problem) :
    (s.reportAt p a cause).count q = s.count q + if q (.problem a cause) then 1 else 0 :=
  count_note s q _

theorem count_write (hq : ∀ l, q (.wrote l) = false) (owner : Option NodeId) (text : String)
    (role : LineRole) (uses : List Address) :
    (s.write owner text role uses).count q = s.count q := by
  have none : ∀ lines : List Line, (lines.map Event.wrote).countP q = 0 := by
    intro lines
    simp [hq]
  simp only [count, write, List.countP_append, none, Nat.zero_add]

theorem count_begin (a : Address) (cause : Cause) (kind : Kind) :
    (s.begin a cause kind).count q = s.count q +
      (if kind.hasFlowIn ∧ q (.arrived a) then 1 else 0) +
      if q (.emitted a cause s.block.path) then 1 else 0 := by
  unfold begin
  rw [count_note]
  by_cases hf : kind.hasFlowIn
  · simp only [hf, if_true, true_and]
    show ((s.note (.arrived a)).count q) + _ = _
    rw [count_note]
    rfl
  · simp only [hf]
    rfl

theorem visited_begin (a : Address) (cause : Cause) (kind : Kind) :
    (s.begin a cause kind).visited =
      if kind.hasFlowIn then addNew s.visited a else s.visited := by
  unfold begin
  split_ifs <;> rfl

end Pass

namespace Program

variable {p : Program} {s s' : Pass} {task : Task}

theorem Records.count {a : Address} {n : Node} {kind : Kind} (h : p.Records a n kind s s')
    {q : Event → Bool} (hq : ∀ l, q (.wrote l) = false) : s'.count q = s.count q := by
  cases h with
  | keep => rfl
  | declare => exact s.count_write q hq _ _ _ _
  | nothing => rfl

theorem Records.visited {a : Address} {n : Node} {kind : Kind} (h : p.Records a n kind s s') :
    s'.visited = s.visited := by
  cases h <;> rfl

/-- Where the flow has to arrive, an occurrence is compiled when it is marked as visited. -/
theorem Runs.emissions_flowIn (h : p.Runs task s s') {a : Address} {kind : Kind}
    (hk : p.kindAt? a = some kind) (flowIn : kind.hasFlowIn = true) :
    s'.count (Event.emits a) + (if a ∈ s.visited then 1 else 0) =
      s.count (Event.emits a) + if a ∈ s'.visited then 1 else 0 := by
  induction h with
  | refl => rfl
  | trans _ _ ih ih' => omega
  | asked | followed | demanded | reference =>
    rw [Pass.count_note]
    rfl
  | imports | main | process | require => rfl
  | report other =>
    rw [Pass.count_reportAt]
    rfl
  | write =>
    rw [Pass.count_write _ _ fun _ => rfl]
    rfl
  | block _ _ ih => exact ih
  | settle _ _ _ ih => exact ih
  | arrive _ _ _ ih => exact ih
  | absent => rfl
  | unknown _ _ ih => exact ih
  | again =>
    rw [Pass.count_reportAt, Pass.count_note]
    rfl
  | @emit s s₁ s₂ s₃ cause b n kind' node kindOf fresh before records after ih ih' =>
    have counted := s.count_begin (Event.emits a) b cause kind'
    have visited := s.visited_begin b cause kind'
    rw [records.count fun _ => rfl, records.visited] at ih'
    rw [counted, visited] at ih
    by_cases hb : b = a
    · subst hb
      have same : kind' = kind := by
        simpa [kindAt?, node, kindOf] using hk
      subst same
      simp [Event.emits, flowIn, mem_addNew] at ih
      simp only [fresh flowIn, if_false]
      omega
    · have hmem : (a ∈ if kind'.hasFlowIn then addNew s.visited b else s.visited) ↔
          a ∈ s.visited := by
        split_ifs
        · simp [mem_addNew, Ne.symm hb]
        · rfl
      simp [Event.emits, hb, hmem] at ih
      omega

/-- Where the flow has to arrive, every arrival compiles the occurrence or is reported. -/
theorem Runs.arrivals (h : p.Runs task s s') {a : Address} {kind : Kind}
    (hk : p.kindAt? a = some kind) (flowIn : kind.hasFlowIn = true) :
    s'.count (Event.arrives a) + s.count (Event.emits a) + s.count (Event.repeats a) =
      s.count (Event.arrives a) + s'.count (Event.emits a) + s'.count (Event.repeats a) := by
  induction h with
  | refl => rfl
  | trans _ _ ih ih' => omega
  | asked | followed | demanded | reference =>
    simp only [Pass.count_note]
    rfl
  | imports | main | process | require => rfl
  | @report s b cause other =>
    have silent : Event.repeats a (.problem b cause) = false := by
      cases cause <;> first | rfl | exact absurd rfl other
    simp only [Pass.count_reportAt, silent]
    rfl
  | write =>
    rw [Pass.count_write _ (Event.arrives a) fun _ => rfl,
      Pass.count_write _ (Event.emits a) fun _ => rfl,
      Pass.count_write _ (Event.repeats a) fun _ => rfl]
  | block _ _ ih => exact ih
  | settle _ _ _ ih => exact ih
  | arrive _ _ _ ih => exact ih
  | absent => rfl
  | unknown _ _ ih => exact ih
  | @again s cause b kind' kindAt flowIn' visited =>
    simp only [Pass.count_reportAt, Pass.count_note, Event.arrives, Event.emits, Event.repeats]
    simp
    omega
  | @emit s s₁ s₂ s₃ cause b n kind' node kindOf fresh before records after ih ih' =>
    have counted := fun q => s.count_begin q b cause kind'
    rw [records.count (q := Event.arrives a) fun _ => rfl,
      records.count (q := Event.emits a) fun _ => rfl,
      records.count (q := Event.repeats a) fun _ => rfl] at ih'
    simp only [counted] at ih
    by_cases hb : b = a
    · subst hb
      have same : kind' = kind := by
        simpa [kindAt?, node, kindOf] using hk
      subst same
      simp [Event.emits, Event.arrives, Event.repeats, flowIn] at ih
      omega
    · simp [Event.emits, Event.arrives, Event.repeats, hb] at ih
      omega

/-- The flow is reported to have come again only where it has been. -/
theorem Runs.repeated (h : p.Runs task s s') (a : Address) :
    s'.count (Event.repeats a) = s.count (Event.repeats a) ∨ a ∈ s'.visited := by
  induction h with
  | refl => exact .inl rfl
  | trans _ second ih ih' =>
    rcases ih with ih | ih
    · exact ih'.imp_left (·.trans ih)
    · exact .inr (second.extends.visited ih)
  | asked | followed | demanded | reference => exact .inl (Pass.count_note _ _ _)
  | imports | main | process | require => exact .inl rfl
  | @report s b cause other =>
    have silent : Event.repeats a (.problem b cause) = false := by
      cases cause <;> first | rfl | exact absurd rfl other
    exact .inl (by simp [Pass.count_reportAt, silent])
  | write => exact .inl (Pass.count_write _ _ (fun _ => rfl) _ _ _ _)
  | block _ _ ih => exact ih
  | settle _ _ _ ih => exact ih
  | arrive _ _ _ ih => exact ih
  | absent => exact .inl rfl
  | unknown _ _ ih => exact ih
  | @again s cause b kind kindAt flowIn visited =>
    by_cases hb : b = a
    · exact .inr (hb ▸ visited)
    · simp [Pass.count_reportAt, Pass.count_note, Event.repeats, hb]
  | @emit s s₁ s₂ s₃ cause b n kind node kindOf fresh before records after ih ih' =>
    rw [records.count fun _ => rfl] at ih'
    have began := s.count_begin (Event.repeats a) b cause kind
    simp only [Event.repeats, Bool.false_eq_true, and_false, if_false, Nat.add_zero] at began
    rcases ih with ih | ih
    · exact ih'.imp_left fun same => same.trans (ih.trans began)
    · exact .inr (after.extends.visited (records.visited ▸ ih))

/-- The compilations on demand that a task stands for itself. -/
def Task.demands (a : Address) : Task → Nat
  | .visit .demand b => if b = a then 1 else 0
  | _ => 0

/-- A value is compiled on demand when it is marked as started on. -/
theorem Runs.emissions_demand (h : p.Runs task s s') (a : Address) :
    s'.count (Event.emitsBy .demand a) + (if a ∈ s.started then 1 else 0) ≤
      s.count (Event.emitsBy .demand a) + task.demands a + if a ∈ s'.started then 1 else 0 := by
  induction h with
  | refl => simp [Task.demands]
  | trans _ _ ih ih' =>
    simp only [Task.demands] at *
    omega
  | asked | followed | demanded | reference =>
    rw [Pass.count_note]
    exact le_rfl
  | imports | main | process | require => exact le_rfl
  | report other =>
    rw [Pass.count_reportAt]
    exact le_rfl
  | write =>
    rw [Pass.count_write _ _ fun _ => rfl]
    exact le_rfl
  | block _ _ ih => exact ih
  | @settle s s' b fresh _ inner ih =>
    -- the one occurrence that is demanded here is paid for by the mark it gets
    have grown : b ∈ (s'.endResolving b).started :=
      inner.extends.started (mem_addNew.2 (.inr rfl))
    have before : (a ∈ ((s.start b).beginResolving b).started) ↔ a ∈ s.started ∨ a = b :=
      mem_addNew
    have same : s'.count (Event.emitsBy .demand a) +
        (if a ∈ ((s.start b).beginResolving b).started then 1 else 0) ≤
          s.count (Event.emitsBy .demand a) + (if b = a then 1 else 0) +
            if a ∈ (s'.endResolving b).started then 1 else 0 := ih
    show s'.count _ + _ ≤ _
    by_cases hb : b = a
    · subst hb
      simp only [before, or_true, grown, fresh, Task.demands, if_true, if_false] at *
      omega
    · simp only [before, hb, Ne.symm hb, or_false, Task.demands, if_false] at *
      exact same
  | @arrive _ _ cause b other _ _ ih =>
    cases cause with
    | demand => exact absurd rfl other
    | entry | flow => exact ih
  | absent => omega
  | unknown _ _ ih =>
    simp only [Task.demands] at *
    omega
  | again =>
    rw [Pass.count_reportAt, Pass.count_note]
    simp only [Event.emitsBy, Bool.false_eq_true, if_false]
    exact Nat.add_le_add_right (Nat.le_add_right _ _) _
  | @emit s s₁ s₂ s₃ cause b n kind' node kindOf fresh before records after ih ih' =>
    have started : (s.begin b cause kind').started = s.started := by
      unfold Pass.begin
      split_ifs <;> rfl
    have recorded : s₂.started = s₁.started := by cases records <;> rfl
    rw [records.count fun _ => rfl, recorded] at ih'
    rw [s.count_begin (Event.emitsBy .demand a) b cause kind', started] at ih
    simp only [Event.emitsBy, Task.demands, Bool.false_eq_true, and_false, if_false] at ih ih' ⊢
    cases cause with
    | demand => simp at ih ⊢; omega
    | entry | flow => simp at ih; omega

/-! ### Texts that were handed out -/

theorem valueOf_congr {v : Producer} (h : s'.results.get? v.address = s.results.get? v.address) :
    p.valueOf s' v = p.valueOf s v := by
  have same : s'.result v.address = s.result v.address := by simp only [Pass.result, h]
  unfold valueOf
  rw [same]

/-- A value whose text cannot change any more, or is changed only by the flow. -/
def Fixed (p : Program) (s : Pass) (v : Producer) : Prop :=
  (∃ kind, p.kindAt? v.address = some kind ∧ (kind.hasFlowIn = true ∨ kind = .definition)) ∨
    v.address ∈ s.started ∧ v.address ∉ s.resolving

/-- An occurrence that the flow has to reach, or that was compiled on demand only. -/
def Undisturbed (p : Program) (s : Pass) (a : Address) : Prop :=
  (∃ kind, p.kindAt? a = some kind ∧ kind.hasFlowIn = true) ∨
    ∀ cause block, .emitted a cause block ∈ s.journal → cause = .demand

/-- The texts handed out are still the texts of the values. -/
structure Steady (p : Program) (s : Pass) : Prop where
  stacked : ∀ a ∈ s.resolving, a ∈ s.started
  kept : ∀ {a e kind}, s.results.get? a = some e → p.kindAt? a = some kind →
    kind.hasFlowIn = false
  handed : s.Acyclic → ∀ {c port v e}, .referenced c port v e ∈ s.journal →
    p.Undisturbed s v.address → e = p.valueOf s v ∧ p.Fixed s v

theorem Undisturbed.of_extends {a : Address} (h : p.Undisturbed s' a) (hs : s.Extends s') :
    p.Undisturbed s a := by
  rcases h with h | h
  · exact .inl h
  · exact .inr fun cause block mem => h cause block (hs.mem_journal mem)

namespace Steady

/-- A step that hands out nothing and leaves marks and values alone. -/
theorem of_quiet (h : p.Steady s) (hs : s.Extends s') (started : s'.started = s.started)
    (resolving : s'.resolving = s.resolving) (results : s'.results = s.results)
    (silent : ∀ {c port v e}, .referenced c port v e ∈ s'.journal →
      .referenced c port v e ∈ s.journal) : p.Steady s' where
  stacked a ha := by
    rw [resolving] at ha
    rw [started]
    exact h.stacked a ha
  kept he hk := by
    rw [results] at he
    exact h.kept he hk
  handed acyclic {c port v e} mem free := by
    obtain ⟨heq, fixed⟩ := h.handed (acyclic.of_extends hs) (silent mem) (free.of_extends hs)
    refine ⟨heq.trans (valueOf_congr (by rw [results])).symm, ?_⟩
    unfold Fixed at fixed ⊢
    rw [started, resolving]
    exact fixed

theorem note (h : p.Steady s) {e : Event} (line : e.line? = none) (problem : e.isProblem = false)
    (silent : ∀ c port v value, e ≠ .referenced c port v value) : p.Steady (s.note e) := by
  refine h.of_quiet (.note s line problem) rfl rfl rfl fun {c port v value} mem => ?_
  rcases List.mem_cons.1 mem with rfl | mem
  · exact absurd rfl (silent c port v value)
  · exact mem

theorem write (h : p.Steady s) (owner : Option NodeId) (text : String) (role : LineRole)
    (uses : List Address) : p.Steady (s.write owner text role uses) := by
  refine h.of_quiet (.write s owner text role uses) rfl rfl rfl fun mem => ?_
  rcases List.mem_append.1 mem with mem | mem
  · simp at mem
  · exact mem

theorem reportAt (h : p.Steady s) (a : Address) (cause : Problem) :
    p.Steady (s.reportAt p a cause) := by
  refine h.of_quiet (.reportAt s p a cause) rfl rfl rfl fun mem => ?_
  rcases List.mem_cons.1 mem with mem | mem
  · cases mem
  · exact mem

/-- A value is referred to, and from now on its text stays. -/
theorem reference (h : p.Steady s) (placed : p.Placed) {a : Address} {port : String}
    {v : Producer} (settled : p.Settled s v) :
    p.Steady (s.note (.referenced a port v (p.valueOf s v))) where
  stacked := h.stacked
  kept := h.kept
  handed acyclic {c q u e} mem free := by
    have hs : s.Extends (s.note (.referenced a port v (p.valueOf s v))) := .note s rfl rfl
    have acyclic' := acyclic.of_extends hs
    rcases List.mem_cons.1 mem with heq | mem
    · cases heq
      refine ⟨rfl, ?_⟩
      obtain ⟨kind, ⟨b, q, w, n, -, hfeed, rfl, hk, -⟩, known⟩ := settled
      have kindAt : p.kindAt? (b.sibling n.id) = some kind := by
        simp [kindAt?, placed.node?_feeding hfeed, hk]
      rcases known with ⟨rfl, -⟩ | ⟨-, -, lazy⟩
      · exact .inl ⟨_, kindAt, .inr rfl⟩
      · by_cases flowIn : kind.hasFlowIn = true
        · exact .inl ⟨kind, kindAt, .inl flowIn⟩
        · obtain ⟨started, cyclic⟩ := lazy (by simp [Kind.isLazy, flowIn])
          exact .inr ⟨started, fun hr => acyclic' _ (cyclic hr)⟩
    · exact h.handed acyclic' mem (free.of_extends hs)

/-- A value is started on: nobody has been handed its text. -/
theorem start (h : p.Steady s) {a : Address} (fresh : a ∉ s.started) :
    p.Steady ((s.start a).beginResolving a) where
  stacked b hb := by
    rcases mem_addNew.1 hb with hb | rfl
    · exact mem_addNew.2 (.inl (h.stacked b hb))
    · exact mem_addNew.2 (.inr rfl)
  kept := h.kept
  handed acyclic {c port v e} mem free := by
    obtain ⟨heq, fixed⟩ := h.handed acyclic mem free
    refine ⟨heq, ?_⟩
    rcases fixed with fixed | ⟨started, resolving⟩
    · exact .inl fixed
    · refine .inr ⟨mem_addNew.2 (.inl started), fun hr => ?_⟩
      rcases mem_addNew.1 hr with hr | hr
      · exact resolving hr
      · exact fresh (hr ▸ started)

theorem endResolving (h : p.Steady s) (a : Address) : p.Steady (s.endResolving a) where
  stacked b hb := h.stacked b (List.mem_filter.1 hb).1
  kept := h.kept
  handed acyclic {c port v e} mem free := by
    obtain ⟨heq, fixed⟩ := h.handed acyclic mem free
    refine ⟨heq, ?_⟩
    rcases fixed with fixed | ⟨started, resolving⟩
    · exact .inl fixed
    · exact .inr ⟨started, fun hr => resolving (List.mem_filter.1 hr).1⟩

theorem begin (h : p.Steady s) (a : Address) (cause : Cause) (kind : Kind) :
    p.Steady (s.begin a cause kind) := by
  have entered : p.Steady (if kind.hasFlowIn then (s.note (.arrived a)).visit a else s) := by
    split_ifs
    · have noted := h.note (e := .arrived a) rfl rfl nofun
      exact noted.of_quiet (.visit _ a) rfl rfl rfl id
    · exact h
  have processed := entered.of_quiet (.markProcessed _ a) rfl rfl rfl id
  exact processed.note rfl rfl nofun

/-- A value is kept while it is being worked on, or by the flow. -/
theorem keep (h : p.Steady s) {a : Address} {n : Node} {kind : Kind} {cause : Cause}
    {block : List Nat} {t : DataType} (hn : p.node? a = some n) (hk : p.kind? n = some kind)
    (type : p.resultType? n kind = some t) (pure : kind.hasFlowIn = false)
    (emitted : .emitted a cause block ∈ s.journal)
    (demanded : cause = .demand → a ∈ s.resolving) (text : String) (uses : List Address) :
    p.Steady (s.setResult a text uses) := by
  have kindAt : p.kindAt? a = some kind := by simp [kindAt?, hn, hk]
  have others : ∀ {b}, b ≠ a → (s.setResult a text uses).results.get? b = s.results.get? b := by
    intro b hb
    unfold Pass.setResult
    rw [OrderedMap.get?_insert, if_neg (Ne.symm hb)]
  refine ⟨h.stacked, fun {b e kind'} he hk' => ?_, fun acyclic {c port v e} mem free => ?_⟩
  · by_cases hb : b = a
    · subst hb
      rw [kindAt] at hk'
      cases hk'
      exact pure
    · rw [others hb] at he
      exact h.kept he hk'
  · obtain ⟨heq, fixed⟩ := h.handed acyclic mem free
    by_cases hv : v.address = a
    · -- nobody was handed the text before: it is not fixed yet, or the flow compiled it
      exfalso
      rw [hv] at free
      rcases free with ⟨kind', hk', flowIn⟩ | free
      · rw [kindAt] at hk'
        cases hk'
        simp [pure] at flowIn
      · have resolving := demanded (free cause block emitted)
        unfold Fixed at fixed
        rw [hv] at fixed
        rcases fixed with ⟨kind', hk', flowIn | rfl⟩ | ⟨-, notResolving⟩
        · rw [kindAt] at hk'
          cases hk'
          simp [pure] at flowIn
        · rw [kindAt] at hk'
          cases hk'
          cases type
        · exact notResolving resolving
    · exact ⟨heq.trans (valueOf_congr (others hv)).symm, fixed⟩

end Steady

/-- Steps keep texts that were handed out. -/
theorem Runs.steady (placed : p.Placed) (h : p.Runs task s s')
    (working : ∀ b, task = .visit .demand b → b ∈ s.resolving) (hs : p.Steady s) :
    p.Steady s' := by
  induction h with
  | refl => exact hs
  | trans _ _ ih ih' => exact ih' nofun (ih nofun hs)
  | asked | followed | demanded => exact hs.note rfl rfl nofun
  | imports | main => exact hs.of_quiet { Pass.Extends.refl _ with } rfl rfl rfl id
  | process => exact hs.of_quiet (.markProcessed ..) rfl rfl rfl id
  | require => exact hs.of_quiet (.require ..) rfl rfl rfl id
  | report => exact hs.reportAt ..
  | reference settled => exact hs.reference placed (settled placed)
  | write => exact hs.write ..
  | block _ _ ih =>
    have inner := ih nofun ⟨hs.stacked, hs.kept, hs.handed⟩
    exact ⟨inner.stacked, inner.kept, inner.handed⟩
  | @settle s s' a fresh _ _ ih =>
    refine (ih (fun b hb => ?_) (hs.start fresh)).endResolving a
    cases hb
    exact mem_addNew.2 (.inr rfl)
  | @arrive _ _ cause a other _ _ ih =>
    refine ih (fun b hb => ?_) hs
    cases hb
    exact absurd rfl other
  | absent => exact hs
  | unknown _ _ ih => exact ih nofun hs
  | @again _ _ a => exact (hs.note (e := .arrived a) rfl rfl nofun).reportAt ..
  | @emit s s₁ s₂ s₃ cause a n kind node kindOf fresh before records after ih ih' =>
    have steady := ih nofun (hs.begin a cause kind)
    refine ih' nofun ?_
    cases records with
    | keep type _ pure _ =>
      refine steady.keep node kindOf type pure
        (before.extends.mem_journal (List.mem_cons_self ..)) ?_ _ _
      rintro rfl
      have begun : (s.begin a .demand kind).resolving = s.resolving := by
        unfold Pass.begin
        split_ifs <;> rfl
      rw [before.extends.resolving (hs.begin a .demand kind).stacked, begun]
      exact working a rfl
    | declare => exact steady.write ..
    | nothing => exact steady

theorem steady_initial (p : Program) : p.Steady {} where
  stacked a ha := by cases ha
  kept he := by cases he
  handed _ {c port v e} mem := by cases mem

/-! ### Finished passes -/

/-- Whoever refers to a value is handed the same text, unless a cycle was found or the value was
compiled by the flow as well. -/
theorem Ends.stable (h : p.Ends s) (placed : p.Placed) (acyclic : s.Acyclic) {v : Producer}
    (free : p.Undisturbed s v.address) {c c' : Address} {port port' : String} {e e' : Fragment}
    (mem : .referenced c port v e ∈ s.journal) (mem' : .referenced c' port' v e' ∈ s.journal) :
    e = e' := by
  have steady := h.runs.steady placed nofun (steady_initial p)
  rw [(steady.handed acyclic mem free).1, (steady.handed acyclic mem' free).1]

/-- That no value depends on itself, and that one was compiled on demand only, can be read off the
journal. -/
theorem acyclic_and_undisturbed {a : Address} (calm : s.journal.all (Event.isCalm a) = true) :
    s.Acyclic ∧ p.Undisturbed s a := by
  rw [List.all_eq_true] at calm
  constructor
  · intro b mem
    cases calm _ mem
  · refine .inr fun cause block mem => ?_
    simpa [Event.isCalm] using calm _ mem

/-- Where the flow has been, arriving again adds one message and no text. -/
theorem visit_of_visited {a : Address} {kind : Kind} (hk : p.kindAt? a = some kind)
    (flowIn : kind.hasFlowIn = true) (w : Walk) (cause : Cause) (visited : a ∈ s.visited) :
    p.visit w a cause s =
      some ((), (s.note (.arrived a)).reportAt p a .reachedAgain) := by
  obtain ⟨n, hn, hk⟩ := Option.bind_eq_some_iff.1 hk
  have arrived : a ∈ (s.note (.arrived a)).visited := visited
  unfold visit
  simp only [hn, hk, flowIn, if_true]
  show (if a ∈ (s.note (.arrived a)).visited then p.report a .reachedAgain else _)
    (s.note (.arrived a)) = _
  rw [if_pos arrived]
  rfl

/-- Every occurrence is compiled at most once in a pass.  Where the flow has to arrive, every
arrival after the first adds one message and no text; a value is compiled on demand at most once;
and, if the nodes stand under their own numbers and no value depends on itself, whoever refers to a
value that only one side compiles is handed the same text. -/
theorem compiled_once (h : p.Ends s) :
    (∀ {a kind}, p.kindAt? a = some kind → kind.hasFlowIn = true →
      s.count (Event.emits a) ≤ 1 ∧
      s.count (Event.repeats a) = s.count (Event.arrives a) - 1 ∧
      ∀ (w : Walk) (cause : Cause) {s₀ : Pass}, a ∈ s₀.visited →
        ∃ s₁, p.visit w a cause s₀ = some ((), s₁) ∧ s₁.block = s₀.block ∧
          s₁.diagnostics = s₀.diagnostics.addNode a.rootId
            (p.attributed a "Flow node is reached more than once")) ∧
    (∀ {a kind}, p.kindAt? a = some kind → kind.hasFlowIn = false →
      s.count (Event.emitsBy .demand a) ≤ 1) ∧
    (p.Placed → s.Acyclic → ∀ {v : Producer}, p.Undisturbed s v.address →
      ∀ {c c' : Address} {port port' : String} {e e' : Fragment},
        .referenced c port v e ∈ s.journal → .referenced c' port' v e' ∈ s.journal →
        e.text = e'.text) := by
  refine ⟨fun {a kind} hk flowIn => ?_, fun {a kind} _ _ => ?_, fun placed acyclic v free => ?_⟩
  · have emissions := h.runs.emissions_flowIn hk flowIn
    have arrivals := h.runs.arrivals hk flowIn
    have initial : ∀ q, ({} : Pass).count q = 0 := fun _ => rfl
    simp only [initial, List.not_mem_nil, if_false] at emissions arrivals
    refine ⟨by split_ifs at emissions <;> omega, ?_, fun w cause s₀ visited => ?_⟩
    · rcases h.runs.repeated a with none | visited
      · rw [initial] at none
        split_ifs at emissions <;> omega
      · rw [if_pos visited] at emissions
        omega
    · exact ⟨_, visit_of_visited hk flowIn w cause visited, rfl, rfl⟩
  · have demanded := h.runs.emissions_demand a
    have initial : ({} : Pass).count (Event.emitsBy .demand a) = 0 := rfl
    simp only [initial, List.not_mem_nil, if_false, Task.demands] at demanded
    split_ifs at demanded <;> omega
  · intro c c' port port' e e' mem mem'
    rw [h.stable placed acyclic free mem mem']

end Program

/-! ### Programs in a small language

Numbers, which are kept in a variable where they are read more than once, statements that print and
read one, and a function of one. -/

namespace Sample

def core : CoreDesc where
  types := [{ name := "bool", template := some "$" },
    { name := "int", template := some "$", isLocal := some true }]
  anyTypes := ["any"]
  voidTypes := ["void"]
  logicType := "bool"

def surface : SurfaceDesc where
  types := [{ name := "any", spelling := "any" }, { name := "void", spelling := "void" },
    { name := "bool", spelling := "bool" }, { name := "int", spelling := "int" }]
  functions := [
    { name := "print", callee := "print", result := "void", params := [⟨"value", "int"⟩],
      sideEffect := true },
    { name := "read", callee := "read", result := "int", sideEffect := true },
    { name := "twice", callee := "twice", result := "int", params := [⟨"value", "int"⟩] }]

theorem loads : (Language.load Pattern.reader core surface {}).toOption.isSome = true := by
  decide +kernel

def language : Language := (Language.load Pattern.reader core surface {}).toOption.get loads

theorem load_eq : Language.load Pattern.reader core surface {} = .ok language :=
  eq_ok_get_toOption loads

/-- Two statements print one number, and both ends of a `Sequence` lead to the second of them. -/
def reentered : Program where
  lang := language
  root := {
    name := "main"
    nodes := OrderedMap.ofList [
      (1, { id := 1, component := "Function" }),
      (2, { id := 2, component := "print" }),
      (3, {
        id := 3, component := "Sequence"
        outputs := OrderedMap.ofList [("out0", .flowOut "out0" "0"),
          ("out1", .flowOut "out1" "1")] }),
      (4, { id := 4, component := "print" }),
      (5, { id := 5, component := "int", data := OrderedMap.ofList [("value", .str "7")] })]
    wires := [⟨1, "fout", 2, "fin"⟩, ⟨2, "fout", 3, "fin"⟩, ⟨3, "out0", 4, "fin"⟩,
      ⟨3, "out1", 4, "fin"⟩, ⟨5, "result", 2, "value"⟩, ⟨5, "result", 4, "value"⟩] }

theorem reentered_isSome : (reentered.runWith? 10).isSome = true := by
  decide +kernel

/-- How the program is compiled. -/
def reenteredPass : Pass := (reentered.runWith? 10).get reentered_isSome

theorem reentered_ends : reentered.Ends reenteredPass :=
  ⟨10, (Option.some_get _).symm⟩

theorem reentered_placed : reentered.Placed :=
  Program.id_of_entries rfl

/-- The second statement is arrived at twice, compiled once, and reported once; the number is
compiled once, and both statements are handed its identifier. -/
theorem compiled_once_reentered :
    reenteredPass.count (Event.arrives ⟨[], 4⟩) = 2 ∧
      reenteredPass.count (Event.emits ⟨[], 4⟩) ≤ 1 ∧
      reenteredPass.count (Event.repeats ⟨[], 4⟩) = 1 ∧
      reenteredPass.count (Event.emitsBy .demand ⟨[], 5⟩) ≤ 1 ∧
      (∃ e, .referenced ⟨[], 2⟩ "value" ⟨⟨[], 5⟩, "result"⟩ e ∈ reenteredPass.journal) ∧
      (∃ e, .referenced ⟨[], 4⟩ "value" ⟨⟨[], 5⟩, "result"⟩ e ∈ reenteredPass.journal) ∧
      ∀ c port e, .referenced c port ⟨⟨[], 5⟩, "result"⟩ e ∈ reenteredPass.journal →
        e.text = "_5" := by
  have statement : reentered.kindAt? ⟨[], 4⟩ = some (.call "print" true) := by decide +kernel
  have number : reentered.kindAt? ⟨[], 5⟩ = some (.literal "int") := by decide +kernel
  have twice : reenteredPass.count (Event.arrives ⟨[], 4⟩) = 2 := by decide +kernel
  have first : .referenced ⟨[], 2⟩ "value" ⟨⟨[], 5⟩, "result"⟩ ⟨"_5", [⟨[], 5⟩]⟩ ∈
      reenteredPass.journal := by decide +kernel
  have second : .referenced ⟨[], 4⟩ "value" ⟨⟨[], 5⟩, "result"⟩ ⟨"_5", [⟨[], 5⟩]⟩ ∈
      reenteredPass.journal := by decide +kernel
  have calm : reenteredPass.journal.all (Event.isCalm ⟨[], 5⟩) = true := by
    decide +kernel
  obtain ⟨acyclic, undisturbed⟩ := Program.acyclic_and_undisturbed (p := reentered) calm
  obtain ⟨flow, value, texts⟩ := Program.compiled_once reentered_ends
  obtain ⟨once, reported, -⟩ := flow statement rfl
  refine ⟨twice, once, by rw [reported, twice], value number rfl, ⟨_, first⟩, ⟨_, second⟩, ?_⟩
  intro c port e mem
  exact texts reentered_placed acyclic undisturbed mem first

/-- Two nodes that are stored under other numbers than their own, which is that of a third. -/
def misplaced : Program where
  lang := language
  root := {
    name := "main"
    nodes := OrderedMap.ofList [
      (1, { id := 1, component := "Function" }),
      (2, { id := 2, component := "print" }),
      (3, { id := 3, component := "print" }),
      (10, { id := 20, component := "If" }),
      (11, { id := 20, component := "int" }),
      (20, { id := 20, component := "int", data := OrderedMap.ofList [("value", .str "5")] })]
    wires := [⟨1, "fout", 2, "fin"⟩, ⟨2, "fout", 3, "fin"⟩, ⟨10, "result", 2, "value"⟩,
      ⟨11, "result", 3, "value"⟩] }

theorem misplaced_isSome : (misplaced.runWith? 10).isSome = true := by
  decide +kernel

/-- How the program is compiled. -/
def misplacedPass : Pass := (misplaced.runWith? 10).get misplaced_isSome

/-- Where nodes are not stored under their own numbers, a value that is compiled on demand only is
handed out as two different texts. -/
theorem misplaced_texts :
    misplaced.Ends misplacedPass ∧ misplacedPass.Acyclic ∧
      misplaced.Undisturbed misplacedPass ⟨[], 20⟩ ∧
      .referenced ⟨[], 2⟩ "value" ⟨⟨[], 20⟩, "result"⟩ ⟨"_20", [⟨[], 20⟩]⟩ ∈ misplacedPass.journal ∧
      .referenced ⟨[], 3⟩ "value" ⟨⟨[], 20⟩, "result"⟩ ⟨"5", []⟩ ∈ misplacedPass.journal := by
  have calm : misplacedPass.journal.all (Event.isCalm ⟨[], 20⟩) = true := by decide +kernel
  obtain ⟨acyclic, undisturbed⟩ := Program.acyclic_and_undisturbed (p := misplaced) calm
  exact ⟨⟨10, (Option.some_get _).symm⟩, acyclic, undisturbed, by decide +kernel,
    by decide +kernel⟩

end Sample

end FlowScript
