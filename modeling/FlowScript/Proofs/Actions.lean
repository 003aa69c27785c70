import FlowScript.Proofs.Runs

/-!
# The actions of a pass take its steps

A small program logic for actions on a pass, and one rule for each action: what a node of each kind
writes, asking for values, following flow and compiling occurrences are all made of the steps of
`Program.Runs`.  The logic speaks of results that are reached, and of actions that reach one
where a `Mode` says so, so that laws about finished passes and the end of every pass share it.

* `Gen.Sat`: what holds of an action from a state;
* `Mode.Takes`: an action takes steps;
* `Mode.emits_emit`: the text of a node of every kind;
* `Walk.SoundAt`: what compiling a node needs of the walk.
-/

namespace FlowScript

namespace Gen

variable {α β : Type} {t : Prop} {s : Pass} {Q R : α → Pass → Prop}

/-- An action reaches only what is required and, where `t` holds, does reach it. -/
def Sat (t : Prop) (act : Gen α) (s : Pass) (Q : α → Pass → Prop) : Prop :=
  match act s with
  | none => ¬ t
  | some (x, s') => Q x s'

theorem Sat.mono {act : Gen α} (h : Sat t act s Q) (hQ : ∀ x s', Q x s' → R x s') :
    Sat t act s R := by
  unfold Sat at *
  split
  · simp_all
  · rename_i x s' heq
    rw [heq] at h
    exact hQ x s' h

theorem Sat.pure {x : α} (h : Q x s) : Sat t (pure x) s Q := h

theorem Sat.bind {act : Gen α} {f : α → Gen β} {R : β → Pass → Prop} (h : Sat t act s Q)
    (hf : ∀ x s', Q x s' → Sat t (f x) s' R) : Sat t (act >>= f) s R := by
  unfold Sat at h ⊢
  have unfolded : (act >>= f) s = (act s).bind fun r => f r.1 r.2 := rfl
  rw [unfolded]
  cases hact : act s with
  | none =>
    rw [hact] at h
    exact h
  | some r =>
    rw [hact] at h
    exact hf r.1 r.2 h

theorem Sat.modify {f : Pass → Pass} {Q : PUnit → Pass → Prop} (h : Q ⟨⟩ (f s)) :
    Sat t (modify f) s Q := h

theorem Sat.get {Q : Pass → Pass → Prop} (h : Q s s) : Sat t get s Q := h

theorem Sat.eq_some {act : Gen α} {x : α} {s' : Pass} (h : Sat t act s Q)
    (heq : act s = some (x, s')) : Q x s' := by
  unfold Sat at h
  rw [heq] at h
  exact h

theorem Sat.and {t' : Prop} {act : Gen α} (h : Sat t act s Q) (h' : Sat t' act s R) :
    Sat t act s fun x s' => Q x s' ∧ R x s' := by
  unfold Sat at *
  cases ran : act s with
  | none =>
    rw [ran] at h
    exact h
  | some r =>
    rw [ran] at h h'
    exact ⟨h, h'⟩

/-- Two actions that reach a result reach it through a state between them. -/
theorem Sat.of_bind {act : Gen α} {f : α → Gen β} {R : β → Pass → Prop}
    (h : Sat t (act >>= f) s R) :
    Sat t (act >>= f) s fun y s' =>
      R y s' ∧ ∃ x s₁, act s = some (x, s₁) ∧ f x s₁ = some (y, s') := by
  unfold Sat at h ⊢
  have unfolded : (act >>= f) s = (act s).bind fun r => f r.1 r.2 := rfl
  rw [unfolded] at h ⊢
  cases ran : act s with
  | none =>
    rw [ran] at h
    exact h
  | some r =>
    rw [ran] at h
    rw [Option.bind_some] at h ⊢
    cases rest : f r.1 r.2 with
    | none =>
      rw [rest] at h
      exact h
    | some r' =>
      rw [rest] at h
      exact ⟨h, r.1, r.2, rfl, rest⟩

theorem Sat.exists_eq {act : Gen α} (h : Sat True act s Q) : ∃ x s', act s = some (x, s') := by
  unfold Sat at h
  split at h
  · exact absurd trivial h
  · exact ⟨_, _, by assumption⟩

end Gen

/-! ### Actions that take steps -/

/-- What is promised of actions: whether they come to an end, and from which states. -/
structure Mode where
  total : Prop
  holds : Pass → Prop
  closed : ∀ {s s' : Pass}, s.started ⊆ s'.started → s.visited ⊆ s'.visited → holds s → holds s'

/-- Actions that may fail to come to an end, from any state. -/
def Mode.partial : Mode := ⟨False, fun _ => True, fun _ _ _ => trivial⟩

theorem Mode.holds_extends (m : Mode) {s s' : Pass} (h : s.Extends s') (hs : m.holds s) :
    m.holds s' :=
  m.closed h.started h.visited hs

namespace Mode

/-- No condition on the state. -/
def always : Pass → Prop := fun _ => True

variable {α β : Type} (m : Mode) (p : Program)

/-- From states with a property, an action takes steps and its result has a property. -/
def Takes (P : Pass → Prop) (act : Gen α) (Q : α → Pass → Prop) : Prop :=
  ∀ s, m.holds s → P s → Gen.Sat m.total act s fun x s' => p.Runs .steps s s' ∧ Q x s'

variable {m p} {P : Pass → Prop} {Q : α → Pass → Prop}

theorem Takes.pure {x : α} (h : ∀ s, P s → Q x s) : m.Takes p P (pure x) Q :=
  fun s _ hP => ⟨.refl, h s hP⟩

theorem Takes.bind {act : Gen α} {f : α → Gen β} {R : β → Pass → Prop} (h : m.Takes p P act Q)
    (hf : ∀ x, m.Takes p (Q x) (f x) R) : m.Takes p P (act >>= f) R := by
  intro s hs hP
  refine (h s hs hP).bind fun x s' hx => ?_
  refine (hf x s' (m.holds_extends hx.1.extends hs) hx.2).mono fun y s'' hy => ?_
  exact ⟨hx.1.trans hy.1, hy.2⟩

theorem Takes.mono {P' : Pass → Prop} {Q' : α → Pass → Prop} {act : Gen α}
    (h : m.Takes p P act Q) (hP : ∀ s, P' s → P s) (hQ : ∀ x s, Q x s → Q' x s) :
    m.Takes p P' act Q' :=
  fun s hs hs' => (h s hs (hP s hs')).mono fun x s' hx => ⟨hx.1, hQ x s' hx.2⟩

theorem Takes.anywhere {act : Gen α} (h : m.Takes p always act Q) : m.Takes p P act Q :=
  h.mono (fun _ _ => trivial) fun _ _ hx => hx

/-- One action after another, neither of which depends on the state. -/
theorem Takes.andThen {act : Gen α} {f : α → Gen β} {R : β → Pass → Prop}
    (h : m.Takes p always act Q) (hf : ∀ x, m.Takes p always (f x) R) :
    m.Takes p P (act >>= f) R :=
  h.anywhere.bind fun x => (hf x).anywhere

/-- What every later state keeps is kept by an action. -/
theorem Takes.keep {F : Pass → Prop} {act : Gen α} (h : m.Takes p P act Q)
    (hF : ∀ {s s'}, s.Extends s' → F s → F s') :
    m.Takes p (fun s => P s ∧ F s) act fun x s => Q x s ∧ F s :=
  fun s hs hP => (h s hs hP.1).mono fun _ _ hx => ⟨hx.1, hx.2, hF hx.1.extends hP.2⟩

theorem Takes.modify {f : Pass → Pass} {Q : PUnit → Pass → Prop}
    (h : ∀ s, P s → p.Runs .steps s (f s) ∧ Q ⟨⟩ (f s)) : m.Takes p P (modify f) Q :=
  fun s _ hP => h s hP

theorem Takes.get {R : Pass → Pass → Prop} (h : ∀ s, P s → R s s) : m.Takes p P get R :=
  fun s _ hP => ⟨.refl, h s hP⟩

end Mode

theorem Pass.Known.mono {s s' : Pass} {uses : List Address} (h : s.Known uses)
    (hs : s.Extends s') : s'.Known uses := by
  intro a ha
  obtain ⟨consumer, port, v, value, mem, use⟩ := h a ha
  exact ⟨consumer, port, v, value, hs.mem_journal mem, use⟩

theorem Pass.Known.append {s : Pass} {uses uses' : List Address} (h : s.Known uses)
    (h' : s.Known uses') : s.Known (uses ++ uses') := by
  intro a ha
  rcases List.mem_append.1 ha with ha | ha
  · exact h a ha
  · exact h' a ha

theorem Pass.known_nil (s : Pass) : s.Known [] := fun _ ha => by cases ha

/-- Asking for a value takes steps, and a producer that is found is settled. -/
def Walk.ResolvesAt (m : Mode) (p : Program) (w : Walk) (a : Address) (port : String) : Prop :=
  m.Takes p Mode.always (w.resolve a port) fun v s => ∀ u ∈ v, p.Placed → p.Settled s u

/-- Following flow takes steps. -/
def Walk.FollowsAt (m : Mode) (p : Program) (w : Walk) (a : Address) (port : String) : Prop :=
  m.Takes p Mode.always (w.follow a port) fun _ _ => True

/-- A walk takes steps from the ports that compiling a node looks at. -/
structure Walk.SoundAt (m : Mode) (p : Program) (w : Walk) (a : Address) (n : Node)
    (kind : Kind) : Prop where
  resolve : ∀ {port}, p.AskedBy n kind port → w.ResolvesAt m p a port
  follow : ∀ {port}, p.FollowedBy n kind port → w.FollowsAt m p a port

namespace Mode

variable {m : Mode} {p : Program}

theorem Takes.keepKnown {α : Type} {act : Gen α} {Q : α → Pass → Prop}
    (h : m.Takes p always act Q) (uses : List Address) :
    m.Takes p (·.Known uses) act fun x s => Q x s ∧ s.Known uses :=
  (h.keep (F := (·.Known uses)) fun hs known => known.mono hs).mono (fun _ hs => ⟨trivial, hs⟩)
    fun _ _ hx => hx

/-! ### Small actions -/

theorem takes_report (a : Address) (cause : Problem) (other : cause ≠ .reachedAgain) :
    m.Takes p always (p.report a cause) fun _ _ => True :=
  .modify fun _ _ => ⟨.report other, trivial⟩

theorem takes_error (a : Address) (cause : Problem) (other : cause ≠ .reachedAgain) :
    m.Takes p always (p.error a cause) fun _ s => .problem a cause ∈ s.journal := by
  refine .modify fun s _ => ⟨?_, ?_⟩
  · -- the marker is a line of its own
    have reported : p.Runs .steps s (s.reportAt p a cause) := .report other
    have marked : p.Runs .steps (s.reportAt p a cause)
        ((s.reportAt p a cause).write (some a.rootId) p.settings.discardMarker .marker) :=
      .write rfl (Pass.known_nil _)
    exact reported.trans marked
  · exact List.mem_append_right _ (List.mem_cons_self ..)

theorem takes_write (a : Address) (text : String) {role : LineRole} (plain : role.declared? = none)
    (uses : List Address) :
    m.Takes p (·.Known uses) (Program.write a text role uses) fun _ _ => True :=
  .modify fun _ known => ⟨.write plain known, trivial⟩

theorem takes_writePlain (a : Address) (text : String) {role : LineRole}
    (plain : role.declared? = none) :
    m.Takes p always (Program.write a text role) fun _ _ => True :=
  (takes_write a text plain []).mono (fun s _ => s.known_nil) fun _ _ _ => trivial

theorem takes_imports (names : List String) :
    m.Takes p always (modify (·.addImports names)) fun _ _ => True :=
  .modify fun _ _ => ⟨.imports names, trivial⟩

theorem takes_importsKnown (names : List String) (uses : List Address) :
    m.Takes p (·.Known uses) (modify (·.addImports names)) fun _ s => s.Known uses :=
  .modify fun _ known => ⟨.imports names, known⟩

theorem takes_fillEmpty (a : Address) : m.Takes p always (p.fillEmpty a) fun _ _ => True := by
  refine Takes.bind (Takes.get (R := fun _ _ => True) fun _ _ => trivial) fun s => ?_
  split_ifs
  · exact takes_writePlain a _ rfl
  · exact .pure fun _ _ => trivial

/-- A block that is opened, filled and appended. -/
theorem takes_inBlock {α : Type} {act : Gen α} {Q : α → Pass → Prop} (extra : Nat)
    (h : m.Takes p always act Q) :
    m.Takes p always (Gen.inBlock extra act) fun _ _ => True := by
  intro s hs _
  have opened : m.holds (s.openBlock extra) := by
    refine m.closed ?_ ?_ hs
    · exact List.Subset.refl s.started
    · exact List.Subset.refl s.visited
  have body := h _ opened trivial
  unfold Gen.inBlock Gen.nested
  refine Gen.Sat.bind (Q := fun r s' => ∃ inner, p.Runs .steps (s.openBlock extra) inner ∧
    r.2 = inner.block ∧ s' = { inner with block := s.block }) ?_ ?_
  · refine Gen.Sat.bind (Gen.Sat.get (Q := fun x s' => x = s ∧ s' = s) ⟨rfl, rfl⟩) ?_
    rintro _ _ ⟨rfl, rfl⟩
    refine Gen.Sat.bind (Gen.Sat.modify (Q := fun _ s' => s' = _) rfl) ?_
    rintro _ _ rfl
    refine body.bind fun x inner hx => ?_
    exact ⟨inner, hx.1, rfl, rfl⟩
  · rintro ⟨x, block⟩ _ ⟨inner, hx, rfl, rfl⟩
    exact ⟨.block extra hx, trivial⟩

section Walking

variable {w : Walk} {a : Address} {port : String}

theorem takes_demand (h : w.ResolvesAt m p a port) :
    m.Takes p always (p.demand w a port) fun v s => ∀ u ∈ v, p.Placed → p.Settled s u := by
  refine Takes.bind h fun v => ?_
  cases v with
  | some u => exact .pure fun s hs => hs
  | none =>
    refine (takes_error a .inputExpected nofun).andThen fun _ => ?_
    exact .pure fun s _ u hu => by cases hu

/-- A producer that was found just now is referred to. -/
theorem takes_reference (port : String) (v : Producer) :
    m.Takes p (fun s => ∀ u ∈ some v, p.Placed → p.Settled s u) (p.reference a port v)
      fun value s => s.Known value.uses := by
  intro s _ settled
  refine ⟨.reference (settled v rfl), ?_⟩
  intro b hb
  exact ⟨a, port, v, p.valueOf s v, List.mem_cons_self .., hb⟩

theorem takes_valueAt? (h : w.ResolvesAt m p a port) :
    m.Takes p always (p.valueAt? w a port) fun value s => ∀ e ∈ value, s.Known e.uses := by
  refine Takes.bind h fun v => ?_
  cases v with
  | none => exact .pure fun s _ e he => by cases he
  | some u =>
    refine (takes_reference port u).bind fun value => ?_
    refine .pure fun s hs e he => ?_
    cases he
    exact hs

theorem takes_flowBlock (h : w.FollowsAt m p a port) :
    m.Takes p always (p.flowBlock w a port) fun _ _ => True := by
  refine takes_inBlock (Q := fun _ _ => True) 1 ?_
  refine Takes.andThen h fun connected => ?_
  exact (takes_fillEmpty a).andThen fun _ => .pure fun _ _ => trivial

end Walking

/-! ### The text of a node -/

/-- From states with a property, an action takes the steps of compiling an occurrence, after the
first: it records the value of the occurrence once. -/
def Emits (m : Mode) (p : Program) (a : Address) (n : Node) (kind : Kind) (P : Pass → Prop)
    (act : Gen Unit) : Prop :=
  ∀ s, m.holds s → P s → Gen.Sat m.total act s fun _ s' =>
    ∃ s₁ s₂, p.Runs .steps s s₁ ∧ p.Records a n kind s₁ s₂ ∧ p.Runs .steps s₂ s'

section Emitting

variable {a : Address} {n : Node} {kind : Kind} {P : Pass → Prop}

/-- Kinds without a value of their own record nothing. -/
theorem Takes.emits {Q : Unit → Pass → Prop} {act : Gen Unit} (h : m.Takes p P act Q)
    (none : p.resultType? n kind = none) : m.Emits p a n kind P act := by
  intro s hs hP
  refine (h s hs hP).mono fun _ s' hx => ⟨s', s', hx.1, .nothing ?_, .refl⟩
  intro t ht
  rw [none] at ht
  cases ht

theorem Takes.bindEmits {α : Type} {Q : α → Pass → Prop} {act : Gen α} {f : α → Gen Unit}
    (h : m.Takes p P act Q) (hf : ∀ x, m.Emits p a n kind (Q x) (f x)) :
    m.Emits p a n kind P (act >>= f) := by
  intro s hs hP
  refine (h s hs hP).bind fun x s' hx => ?_
  refine (hf x s' (m.holds_extends hx.1.extends hs) hx.2).mono fun _ s'' hy => ?_
  obtain ⟨s₁, s₂, before, records, after⟩ := hy
  exact ⟨s₁, s₂, hx.1.trans before, records, after⟩

theorem emits_recordValue {t : DataType} (value : Fragment) {bind : Bool}
    (type : p.resultType? n kind = some t) (notDeclared : kind ≠ .declaration)
    (inline : bind = false →
      kind.hasFlowIn = false ∧ p.mustBind t (p.readers a resultKey) = false) :
    m.Emits p a n kind (·.Known value.uses)
      (Program.recordValue a t value bind (p.readers a resultKey)) := by
  intro s _ known
  unfold Program.recordValue
  split_ifs with hb hv
  · -- the value is kept
    have free : bind = false := by simpa using hb
    exact ⟨s, _, .refl, .keep type (inline free).2 (inline free).1 known, .refl⟩
  · -- nobody reads the value, and it is only stated
    refine ⟨_, _, .write rfl known, .nothing ?_, .refl⟩
    intro t' ht'
    rw [type] at ht'
    cases ht'
    exact ⟨notDeclared, by simpa using hv⟩
  · exact ⟨s, _, .refl, .declare type (.inl ⟨_, rfl⟩) known, .refl⟩

theorem emits_literal (type : String) :
    m.Emits p a n (.literal type) always (p.emitLiteral a n type) := by
  unfold Program.emitLiteral
  cases ht : p.lang.types.get? type with
  | none => exact (takes_error a (.unknownType type) nofun).emits ht
  | some t =>
    refine (takes_imports _).bindEmits fun _ => ?_
    intro s hs _
    have known : p.resultType? n (.literal type) = some t := ht
    exact emits_recordValue _ known Kind.noConfusion (fun h => ⟨rfl, h⟩) s hs s.known_nil

theorem emits_declaration :
    m.Emits p a n .declaration always (p.emitDeclaration a n) := by
  intro s _ _
  exact ⟨s, _, .refl, .declare rfl (.inr ⟨_, rfl⟩) s.known_nil, .refl⟩

end Emitting

section Arguments

variable {w : Walk} {a : Address} {n : Node} {kind : Kind} (hw : w.SoundAt m p a n kind)
include hw

theorem takes_argument {port : String} (asked : p.AskedBy n kind port) (t : DataType) :
    m.Takes p always (p.argument w a n port t) fun value s => s.Known value.uses := by
  have fetched : m.Takes p always (p.fetch w a port t)
      fun v s => ∀ u ∈ v, p.Placed → p.Settled s u := by
    unfold Program.fetch
    split_ifs
    · exact hw.resolve asked
    · exact takes_demand (hw.resolve asked)
  refine fetched.bind fun v => ?_
  cases v with
  | some u => exact takes_reference port u
  | none => exact (takes_imports _).andThen fun _ => .pure fun s _ => s.known_nil

theorem takes_arguments (params : List FieldDesc) (args : Program.Arguments)
    (asked : ∀ param ∈ params, (p.lang.types.get? param.type).isSome →
      p.AskedBy n kind param.name) :
    m.Takes p (·.Known args.uses) (p.arguments w a n params args)
      fun args s => s.Known args.uses := by
  induction params generalizing args with
  | nil => exact .pure fun s hs => hs
  | cons param params ih =>
    unfold Program.arguments
    have rest := fun q hq => asked q (List.mem_cons_of_mem _ hq)
    cases ht : p.lang.types.get? param.type with
    | none => exact ih _ rest
    | some t =>
      have known := asked param (List.mem_cons_self ..) (by rw [ht]; rfl)
      -- what was known of the earlier arguments is kept while the next one is worked on
      refine ((takes_argument hw known t).keepKnown args.uses).bind fun value => ?_
      exact (ih _ rest).mono (fun s hs => hs.2.append hs.1) fun _ _ h => h

end Arguments

/-! ### Assigned values -/

/-- A target and a value that are known make a line. -/
theorem takes_assign (a : Address) (target : Fragment) (place : String) (value : Fragment) :
    m.Takes p (fun s => s.Known value.uses ∧ s.Known target.uses)
      (Program.assign a target place value) fun _ s => s.Known target.uses := by
  refine .modify fun s hs => ⟨.write rfl (hs.2.append hs.1), ?_⟩
  exact hs.2.mono (.write ..)

/-- The value at an input, or else a literal, is known. -/
theorem known_or {s : Pass} {value literal : Option Fragment}
    (hv : ∀ e ∈ value, s.Known e.uses) (hl : ∀ e ∈ literal, e.uses = []) :
    ∀ e ∈ (value <|> literal), s.Known e.uses := by
  cases value with
  | some e => exact hv
  | none =>
    intro e he
    rw [hl e he]
    exact s.known_nil

theorem assignedLiteral?_uses {n : Node} {i : Nat} {title : String} {t : DataType} :
    ∀ e ∈ Program.assignedLiteral? n i title t, e.uses = [] := by
  intro e he
  obtain ⟨text, -, rfl⟩ := Option.map_eq_some_iff.1 he
  rfl

theorem changedLiteral?_uses {n : Node} {i : Nat} {title : String} {t : DataType} :
    ∀ e ∈ Program.changedLiteral? n i title t, e.uses = [] := by
  unfold Program.changedLiteral?
  split_ifs
  · simp
  · exact assignedLiteral?_uses

theorem takes_assignGiven (a : Address) (target : Fragment) (place : String)
    (value : Option Fragment) :
    m.Takes p (fun s => (∀ e ∈ value, s.Known e.uses) ∧ s.Known target.uses)
      (Program.assignGiven a target place value) fun _ s => s.Known target.uses := by
  cases value with
  | none => exact .pure fun s hs => hs.2
  | some e =>
    exact (takes_assign a target place e).mono (fun s hs => ⟨hs.1 e rfl, hs.2⟩) fun _ _ h => h

/-! ### The kinds of nodes -/

section Kinds

variable {w : Walk} {a : Address} {n : Node}

theorem emits_call {function : String} {sideEffect : Bool}
    (hw : w.SoundAt m p a n (.call function sideEffect)) :
    m.Emits p a n (.call function sideEffect) always (p.emitCall w a n function sideEffect) := by
  unfold Program.emitCall
  cases hf : p.lang.functions.get? function with
  | none =>
    refine (takes_error a (.unknownFunction function) nofun).emits ?_
    simp [Program.resultType?, hf]
  | some f =>
    have type : p.resultType? n (.call function sideEffect) =
        some (p.lang.types.getOrAny (some f.result)) := by
      simp [Program.resultType?, hf]
    have asked : ∀ param ∈ f.params, (p.lang.types.get? param.type).isSome →
        p.AskedBy n (.call function sideEffect) param.name :=
      fun param hparam known => ⟨f, param, hf, hparam, known, rfl⟩
    have args : m.Takes p always (p.arguments w a n f.params {}) fun args s => s.Known args.uses :=
      (takes_arguments hw f.params {} asked).mono (fun s _ => s.known_nil)
        fun _ _ h => h
    refine args.bindEmits fun args => ?_
    refine (takes_importsKnown _ _).bindEmits fun _ => ?_
    refine (takes_importsKnown _ _).bindEmits fun _ => ?_
    dsimp only
    refine emits_recordValue ⟨f.render args.texts, args.uses⟩ type Kind.noConfusion fun hb => ?_
    simpa [Kind.hasFlowIn] using hb

theorem takes_branch (hw : w.SoundAt m p a n .branch) :
    m.Takes p always (p.emitBranch w a) fun _ _ => True := by
  have arm : ∀ {port}, (port = "then" ∨ port = "else" ∨ port = flowOutKey) →
      m.Takes p always (p.flowBlock w a port) fun _ _ => True :=
    fun h => takes_flowBlock (hw.follow h)
  have otherwise : m.Takes p always (do
      Program.write a "else" .header
      let _ ← p.flowBlock w a "else") fun _ _ => True :=
    (takes_writePlain a "else" rfl).andThen fun _ =>
      (arm (.inr (.inl rfl))).andThen fun _ => .pure fun _ _ => trivial
  unfold Program.emitBranch
  refine (takes_demand (hw.resolve rfl)).bind fun v => ?_
  cases v with
  | none => exact .pure fun _ _ => trivial
  | some u =>
    refine (takes_reference "inValue" u).bind fun condition => ?_
    refine (takes_write a _ rfl _).bind fun _ => ?_
    refine (arm (.inl rfl)).andThen fun connected => ?_
    dsimp only
    split_ifs
    · exact (takes_report a .thenExitExpected nofun).andThen fun _ => otherwise
    · exact otherwise

theorem takes_while (hw : w.SoundAt m p a n .whileLoop) :
    m.Takes p always (p.emitWhile w a) fun _ _ => True := by
  unfold Program.emitWhile
  refine (takes_demand (hw.resolve rfl)).bind fun v => ?_
  cases v with
  | none => exact .pure fun _ _ => trivial
  | some u =>
    refine (takes_reference "inValue" u).bind fun condition => ?_
    refine (takes_write a _ rfl _).bind fun _ => ?_
    refine (takes_flowBlock (hw.follow (.inl rfl))).andThen fun _ => ?_
    exact .pure fun _ _ => trivial

theorem takes_loopRanges (hw : w.SoundAt m p a n .forLoop) (is : List Nat) :
    m.Takes p always (p.loopRanges w a is)
      fun ranges s => s.Known (ranges.flatMap fun r => r.2.uses) := by
  induction is with
  | nil => exact .pure fun s _ => s.known_nil
  | cons i is ih =>
    unfold Program.loopRanges
    refine (takes_valueAt? (hw.resolve ⟨i, rfl⟩)).bind fun value => ?_
    cases value with
    | none => exact ih.anywhere
    | some range =>
      have next := (ih.keepKnown range.uses).mono (fun s hs => hs) fun _ _ h => h
      refine Takes.bind (next.mono (fun s (hs : ∀ e ∈ some range, _) => hs range rfl)
        fun _ _ h => h) fun ranges => ?_
      refine .pure fun s hs => ?_
      rw [List.flatMap_cons]
      exact hs.2.append hs.1

theorem takes_for (hw : w.SoundAt m p a n .forLoop) :
    m.Takes p always (p.emitFor w a n) fun _ _ => True := by
  unfold Program.emitFor
  refine (takes_loopRanges hw _).bind fun ranges => ?_
  split_ifs
  · exact (takes_error a .inputExpected nofun).mono (fun _ _ => trivial) fun _ _ _ => trivial
  · refine (takes_write a _ rfl _).bind fun _ => ?_
    refine (takes_flowBlock (hw.follow (.inl rfl))).andThen fun _ => ?_
    exact .pure fun _ _ => trivial

theorem takes_assignFields (hw : w.SoundAt m p a n .assignment) (target : Fragment)
    (fields : List FieldDesc) (i : Nat) :
    m.Takes p (·.Known target.uses) (p.assignFields w a n target i fields) fun _ _ => True := by
  induction fields generalizing i with
  | nil => exact .pure fun _ _ => trivial
  | cons field fields ih =>
    unfold Program.assignFields
    refine ((takes_valueAt? (hw.resolve (.inr ⟨i, rfl⟩))).keepKnown target.uses).bind
      fun value => ?_
    refine ((takes_assignGiven a target _ _).mono (fun s hs => ?_) fun _ _ h => h).bind
      fun _ => ih (i + 1)
    exact ⟨known_or hs.1 changedLiteral?_uses, hs.2⟩

theorem takes_assignment (hw : w.SoundAt m p a n .assignment) :
    m.Takes p always (p.emitAssignment w a n) fun _ _ => True := by
  unfold Program.emitAssignment
  refine (takes_demand (hw.resolve (.inl rfl))).bind fun v => ?_
  cases v with
  | none => exact .pure fun _ _ => trivial
  | some u =>
    refine (takes_reference "inVariable" u).bind fun target => ?_
    dsimp only
    split
    · refine ((takes_valueAt? (hw.resolve (.inr ⟨0, rfl⟩))).keepKnown target.uses).bind
        fun value => ?_
      split
      · rename_i e heq
        refine (takes_assign a target "" e).mono (fun s hs => ⟨?_, hs.2⟩) fun _ _ _ => trivial
        exact known_or hs.1 assignedLiteral?_uses e heq
      · exact (takes_error a .inputExpected nofun).mono (fun _ _ => trivial) fun _ _ _ => trivial
    · exact takes_assignFields hw target _ 0

theorem takes_parameter? (i : Nat) :
    m.Takes p always (p.parameter? a n i) fun _ _ => True := by
  have done : ∀ {text : Option String}, m.Takes p always (pure text) fun _ _ => True :=
    .pure fun _ _ => trivial
  unfold Program.parameter?
  dsimp only
  split
  · split <;> exact done
  · rename_i value hv
    split
    · rename_i type hk
      split
      · exact done
      · refine (takes_imports _).andThen fun _ => ?_
        refine Takes.andThen (Q := fun _ _ => True) (.modify fun s _ => ⟨?_, trivial⟩) fun _ => done
        refine .process fun placed => .inr ⟨type, ?_⟩
        -- the literal is found again under its number
        obtain ⟨⟨w, n'⟩, hfeed, rfl⟩ := Option.map_eq_some_iff.1 hv
        simp [Program.kindAt?, placed.node?_feeding hfeed, hk]
    · exact (takes_error a (.unsupportedArgument _) nofun).andThen fun _ => done

theorem takes_parameters (is : List Nat) :
    m.Takes p always (p.parameters a n is) fun _ _ => True := by
  induction is with
  | nil => exact .pure fun _ _ => trivial
  | cons i is ih =>
    unfold Program.parameters
    refine (takes_parameter? i).andThen fun text => ?_
    cases text with
    | none => exact ih
    | some text => exact ih.andThen fun _ => .pure fun _ _ => trivial

theorem takes_writeGiven (text : Option String) :
    m.Takes p always (Program.writeGiven a text) fun _ _ => True := by
  cases text with
  | none => exact .pure fun _ _ => trivial
  | some text => exact takes_writePlain a text rfl

theorem takes_definition (hw : w.SoundAt m p a n .definition) :
    m.Takes p always (p.emitDefinition w a n) fun _ _ => True := by
  have main : ∀ name, m.Takes p always (Program.markMain n name) fun _ _ => True := by
    intro name
    unfold Program.markMain
    split_ifs
    · exact .modify fun _ _ => ⟨.main name, trivial⟩
    · exact .pure fun _ _ => trivial
  unfold Program.emitDefinition
  refine (takes_parameters _).andThen fun params => ?_
  refine (main _).andThen fun _ => (takes_writeGiven _).andThen fun _ => ?_
  refine (takes_writePlain a _ rfl).andThen fun _ => ?_
  refine (takes_flowBlock (hw.follow rfl)).andThen fun _ => ?_
  exact takes_writePlain a _ rfl

theorem takes_writeAll (texts : List String) :
    m.Takes p always (Program.writeAll a texts) fun _ _ => True := by
  induction texts with
  | nil => exact .pure fun _ _ => trivial
  | cons text texts ih => exact (takes_writePlain a text rfl).andThen fun _ => ih

theorem takes_record : m.Takes p always (p.emitRecord a n) fun _ _ => True := by
  unfold Program.emitRecord
  refine (takes_writePlain a _ rfl).andThen fun _ => ?_
  refine (takes_inBlock (Q := fun _ _ => True) 1 ?_).andThen fun _ => takes_writePlain a _ rfl
  exact (takes_writeAll _).andThen fun _ => takes_fillEmpty a

theorem takes_followAll {ports : List String}
    (follows : ∀ port ∈ ports, w.FollowsAt m p a port) :
    m.Takes p always (Program.followAll w a ports) fun _ _ => True := by
  induction ports with
  | nil => exact .pure fun _ _ => trivial
  | cons port ports ih =>
    refine Takes.andThen (follows port (List.mem_cons_self ..)) fun _ => ?_
    exact ih fun q hq => follows q (List.mem_cons_of_mem _ hq)

/-- The text of a node of any kind. -/
theorem emits_emit {kind : Kind} (hw : w.SoundAt m p a n kind) :
    m.Emits p a n kind always (p.emit w a n kind) := by
  have nothing : m.Takes p always (pure () : Gen Unit) fun _ _ => True := .pure fun _ _ => trivial
  cases kind with
  | literal type => exact emits_literal type
  | call function sideEffect => exact emits_call hw
  | declaration => exact emits_declaration
  | topLevelCode =>
    refine Takes.emits (Q := fun _ _ => True) ?_ rfl
    exact (takes_writeGiven _).andThen fun _ => Takes.andThen (hw.follow rfl) fun _ => nothing
  | code => exact (takes_writeGiven _).emits rfl
  | sequence =>
    refine (takes_followAll fun port hport => hw.follow ?_).emits rfl
    obtain ⟨i, -, rfl⟩ := List.mem_map.1 hport
    exact ⟨i, rfl⟩
  | definition => exact (takes_definition hw).emits rfl
  | record => exact takes_record.emits rfl
  | branch => exact (takes_branch hw).emits rfl
  | whileLoop => exact (takes_while hw).emits rfl
  | forLoop => exact (takes_for hw).emits rfl
  | assignment => exact (takes_assignment hw).emits rfl
  | moduleCall | moduleInput | moduleOutput | flowEntry | flowExit => exact nothing.emits rfl

end Kinds

end Mode

end FlowScript
