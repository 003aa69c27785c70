import FlowScript.Proofs.Performing

/-!
# The actions of a pass follow their scripts

One rule for each action: the text of a node of every kind makes the moves of its script, and
asking, following and compiling do what `Program.Performs` tells.

* `Program.Does`: what an action does at an occurrence;
* `Program.does_compile`: compiling a node makes the moves of its script;
* `Walk.Faithful`, `Program.faithful_walk`: asking and following do as told, whatever the fuel;
* `Program.Ends.performs`: a finished pass has compiled its entries in turn.
-/

namespace FlowScript

namespace Program

variable {p : Program}

/-! ### The actions of a pass -/

/-- What an action does at an occurrence, and what holds of its result and its moves. -/
def Does {α : Type} (p : Program) (a : Address) (act : Gen α) (Q : α → List Move → Prop) : Prop :=
  ∀ s, Gen.Sat False act s fun x s' => ∃ ms, p.Performs (.moves a ms) s s' ∧ Q x ms

/-- An action that makes no move. -/
def Quiet {α : Type} (p : Program) (a : Address) (act : Gen α) : Prop :=
  p.Does a act fun _ ms => ms = []

section Actions

variable {α β : Type} {a : Address} {act : Gen α} {f : α → Gen β} {Q : α → List Move → Prop}
  {R : β → List Move → Prop}

theorem Does.pure {x : α} (h : Q x []) : p.Does a (pure x) Q :=
  fun _ => ⟨[], .idle, h⟩

theorem Does.bind (h : p.Does a act Q)
    (hf : ∀ x ms, Q x ms → p.Does a (f x) fun y ms' => R y (ms ++ ms')) :
    p.Does a (act >>= f) R := by
  intro s
  refine (h s).bind fun x s₁ hx => ?_
  obtain ⟨ms, first, hx⟩ := hx
  refine (hf x ms hx s₁).mono fun y s₂ hy => ?_
  obtain ⟨ms', second, hy⟩ := hy
  exact ⟨ms ++ ms', first.append second, hy⟩

theorem Does.mono {Q' : α → List Move → Prop} (h : p.Does a act Q)
    (hQ : ∀ x ms, Q x ms → Q' x ms) : p.Does a act Q' := by
  intro s
  refine (h s).mono fun x s' hx => ?_
  obtain ⟨ms, performs, hx⟩ := hx
  exact ⟨ms, performs, hQ x ms hx⟩

/-- Quiet actions may come before and after. -/
theorem Quiet.bind (h : p.Quiet a act) (hf : ∀ x, p.Does a (f x) R) : p.Does a (act >>= f) R := by
  refine Does.bind h fun x ms hms => ?_
  subst hms
  exact hf x

theorem Does.andQuiet (h : p.Does a act Q) (hf : ∀ x, p.Quiet a (f x))
    (hR : ∀ x y ms, Q x ms → R y ms) : p.Does a (act >>= f) R := by
  refine Does.bind h fun x ms hx => ?_
  refine (hf x).mono fun y ms' hms' => ?_
  subst hms'
  simpa using hR x y ms hx

theorem Quiet.pure {x : α} : p.Quiet a (Pure.pure x : Gen α) := Does.pure rfl

theorem Quiet.modify {f : Pass → Pass} (h : ∀ s, p.Touches a s (f s)) :
    p.Quiet a (modify f : Gen PUnit) :=
  fun s => ⟨[], .touch (h s), rfl⟩

theorem Quiet.get : p.Quiet a (get : Gen Pass) := fun _ => ⟨[], .idle, rfl⟩

/-- A block that is opened, filled and appended. -/
theorem Does.inBlock (extra : Nat) (h : p.Does a act Q) : p.Does a (Gen.inBlock extra act) Q := by
  intro s
  unfold Gen.inBlock Gen.nested
  refine Gen.Sat.bind (Q := fun r s' => ∃ inner ms, p.Performs (.moves a ms) (s.openBlock extra)
    inner ∧ Q r.1 ms ∧ r.2 = inner.block ∧ s' = { inner with block := s.block }) ?_ ?_
  · refine Gen.Sat.bind (Gen.Sat.get (Q := fun x s' => x = s ∧ s' = s) ⟨rfl, rfl⟩) ?_
    rintro _ _ ⟨rfl, rfl⟩
    refine Gen.Sat.bind (Gen.Sat.modify (Q := fun _ s' => s' = _) rfl) ?_
    rintro _ _ rfl
    refine (h _).bind fun x inner hx => ?_
    obtain ⟨ms, performs, hx⟩ := hx
    exact ⟨inner, ms, performs, hx, rfl, rfl⟩
  · rintro ⟨x, block⟩ _ ⟨inner, ms, performs, hx, rfl, rfl⟩
    exact ⟨ms, .block extra performs, hx⟩

end Actions

section Emitting

variable {a : Address} {n : Node}

theorem quiet_report (cause : Problem) (own : cause.isOwn = true) :
    p.Quiet a (p.report a cause) :=
  .modify fun _ => .report own

theorem quiet_error (cause : Problem) (own : cause.isOwn = true) :
    p.Quiet a (p.error a cause) := by
  intro s
  have reported : p.Performs (.moves a []) s (s.reportAt p a cause) :=
    .touch (.report own)
  have marked : p.Performs (.moves a []) (s.reportAt p a cause)
      ((s.reportAt p a cause).write (some a.rootId) p.settings.discardMarker .marker) :=
    .touch (.write ..)
  exact ⟨[], reported.append marked, rfl⟩

theorem quiet_write {text : String} {role : LineRole} {uses : List Address} :
    p.Quiet a (Program.write a text role uses) :=
  .modify fun _ => .write text role uses

theorem quiet_imports {names : List String} (required : ∀ name ∈ names, p.Requires name) :
    p.Quiet a (modify (·.addImports names) : Gen PUnit) :=
  .modify fun _ => .imports required

theorem requires_of_type {type : String} {t : DataType} (h : p.lang.types.get? type = some t) :
    ∀ name ∈ t.desc.requirements, p.Requires name := by
  intro name mem
  refine .inl ⟨some type, ?_⟩
  rwa [TypeTable.getOrAny, Option.bind_some, h]

theorem quiet_reference {port : String} {v : Producer} (resolves : p.Resolves a port (some v)) :
    p.Quiet a (p.reference a port v) :=
  fun _ => ⟨[], .touch (.reference resolves), rfl⟩

theorem quiet_fillEmpty : p.Quiet a (p.fillEmpty a) := by
  refine Quiet.get.bind fun s => ?_
  split_ifs
  · exact quiet_write
  · exact Quiet.pure

theorem quiet_writeGiven (text : Option String) : p.Quiet a (writeGiven a text) := by
  cases text with
  | none => exact .pure
  | some text => exact quiet_write

theorem quiet_writeAll (texts : List String) : p.Quiet a (writeAll a texts) := by
  induction texts with
  | nil => exact .pure
  | cons text texts ih => exact quiet_write.bind fun _ => ih

theorem quiet_markMain (name : String) : p.Quiet a (markMain n name) := by
  unfold markMain
  split_ifs
  · exact Quiet.modify fun _ => .main _
  · exact Quiet.pure

theorem quiet_emitRecord : p.Quiet a (p.emitRecord a n) := by
  refine quiet_write.bind fun _ => ?_
  refine Quiet.bind (Does.inBlock 1 ?_) fun _ => quiet_write
  exact (quiet_writeAll _).bind fun _ => quiet_fillEmpty

theorem quiet_parameter? (i : Nat) : p.Quiet a (p.parameter? a n i) := by
  unfold parameter?
  dsimp only
  cases p.prefill? a i with
  | none => cases n.text? (slotKey "typeName" i) >>= p.lang.types.get? <;> exact Quiet.pure
  | some value =>
    dsimp only
    split
    · split
      · exact Quiet.pure
      · exact (quiet_imports (requires_of_type (by assumption))).bind fun _ =>
          (Quiet.modify fun _ => .process _).bind fun _ => Quiet.pure
    · exact (quiet_error (.unsupportedArgument _) rfl).bind fun _ => Quiet.pure

theorem quiet_parameters (is : List Nat) : p.Quiet a (p.parameters a n is) := by
  induction is with
  | nil => exact .pure
  | cons i is ih =>
    refine (quiet_parameter? i).bind fun text => ?_
    cases text with
    | none => exact ih
    | some text => exact Quiet.bind ih fun _ => .pure rfl

theorem quiet_emitLiteral (type : String) : p.Quiet a (p.emitLiteral a n type) := by
  unfold emitLiteral
  split
  · exact quiet_error (.unknownType _) rfl
  · refine (quiet_imports (requires_of_type (by assumption))).bind fun _ => ?_
    unfold recordValue
    dsimp only
    split_ifs
    · exact Quiet.modify fun _ => .keep ..
    · exact quiet_write
    · exact quiet_write

/-! ### Actions that ask and follow -/

/-- An action asks for the value at an input, once. -/
def Fetches (p : Program) (a : Address) (port : String) (act : Gen (Option Producer)) : Prop :=
  p.Does a act fun v ms => ms = [.ask port v]

/-- What comes after an input is asked for knows what the search in the graphs finds. -/
theorem Fetches.bind {β : Type} {port : String} {act : Gen (Option Producer)}
    {f : Option Producer → Gen β} {R : β → List Move → Prop} (h : p.Fetches a port act)
    (hf : ∀ v, p.Resolves a port v → p.Does a (f v) fun y ms => R y (.ask port v :: ms)) :
    p.Does a (act >>= f) R := by
  intro s
  refine (h s).bind fun v s₁ hv => ?_
  obtain ⟨ms, asks, rfl⟩ := hv
  have found : p.Resolves a port v := asks.found port v (List.mem_singleton.2 rfl)
  refine (hf v found s₁).mono fun y s₂ hy => ?_
  obtain ⟨ms, rest, hy⟩ := hy
  exact ⟨_, asks.append rest, hy⟩

end Emitting

end Program

/-- A walk asks and follows as told from the ports that compiling a node looks at. -/
structure Walk.FaithfulAt (p : Program) (w : Walk) (a : Address) (n : Node) (kind : Kind) :
    Prop where
  resolve : ∀ {port}, p.AskedBy n kind port → p.Fetches a port (w.resolve a port)
  follow : ∀ {port}, p.FollowedBy n kind port →
    p.Does a (w.follow a port) fun _ ms => ms = [.follow port]

namespace Program

variable {p : Program} {w : Walk} {a : Address} {n : Node} {kind : Kind}

theorem does_demand {port : String} (h : p.Fetches a port (w.resolve a port)) :
    p.Fetches a port (p.demand w a port) := by
  refine h.bind fun v _ => ?_
  cases v with
  | some v => exact .pure rfl
  | none => exact (quiet_error .inputExpected rfl).bind fun _ => .pure rfl

theorem does_valueAt? {port : String} (h : p.Fetches a port (w.resolve a port)) :
    p.Does a (p.valueAt? w a port) fun value ms =>
      ∃ v, ms = [.ask port v] ∧ v.isSome = value.isSome ∧ p.Resolves a port v := by
  refine h.bind fun v resolves => ?_
  cases v with
  | none => exact .pure ⟨none, rfl, rfl, resolves⟩
  | some v => exact (quiet_reference resolves).bind fun _ => .pure ⟨some v, rfl, rfl, resolves⟩

theorem does_argument {key type : String} {t : DataType} (ht : p.lang.types.get? type = some t)
    (h : p.Fetches a key (w.resolve a key)) :
    p.Does a (p.argument w a n key t) fun _ ms => ∃ v, ms = [.ask key v] := by
  have fetched : p.Fetches a key (p.fetch w a key t) := by
    unfold fetch
    split_ifs
    · exact h
    · exact does_demand h
  refine fetched.bind fun v resolves => ?_
  cases v with
  | some v =>
    refine (quiet_reference resolves).mono fun _ ms hms => ?_
    subst hms
    exact ⟨some v, rfl⟩
  | none => exact (quiet_imports (requires_of_type ht)).bind fun _ => .pure ⟨none, rfl⟩

/-- Answers to inputs, as moves. -/
def asked (answers : List (String × Option Producer)) : List Move :=
  answers.map fun x => .ask x.1 x.2

theorem does_arguments (params : List FieldDesc) (args : Arguments)
    (h : ∀ param ∈ params, (p.lang.types.get? param.type).isSome →
      p.Fetches a param.name (w.resolve a param.name)) :
    p.Does a (p.arguments w a n params args) fun _ ms =>
      ∃ answers, ms = asked answers ∧ answers.map Prod.fst =
        (params.filter fun param => (p.lang.types.get? param.type).isSome).map (·.name) := by
  induction params generalizing args with
  | nil => exact .pure ⟨[], rfl, rfl⟩
  | cons param params ih =>
    have rest := fun args => ih args fun q hq => h q (List.mem_cons_of_mem _ hq)
    unfold arguments
    cases ht : p.lang.types.get? param.type with
    | none =>
      refine (rest args).mono fun _ ms hms => ?_
      simpa [ht] using hms
    | some t =>
      refine Does.bind (does_argument ht (h param (List.mem_cons_self ..) (by simp [ht])))
        fun value ms hms => ?_
      obtain ⟨v, rfl⟩ := hms
      refine (rest _).mono fun _ ms' hms' => ?_
      obtain ⟨answers, rfl, names⟩ := hms'
      exact ⟨(param.name, v) :: answers, rfl, by simp [ht, names]⟩

theorem does_loopRanges (is : List Nat)
    (h : ∀ i, p.Fetches a (slotKey "range" i) (w.resolve a (slotKey "range" i))) :
    p.Does a (p.loopRanges w a is) fun ranges ms =>
      ∃ answers, ms = asked answers ∧ answers.map Prod.fst = is.map (slotKey "range") ∧
        (answers.any fun x => x.2.isSome) = !ranges.isEmpty := by
  induction is with
  | nil => exact .pure ⟨[], rfl, rfl, rfl⟩
  | cons i is ih =>
    refine Does.bind (does_valueAt? (h i)) fun value ms hms => ?_
    obtain ⟨v, rfl, found, -⟩ := hms
    cases value with
    | none =>
      refine ih.mono fun ranges ms' hms' => ?_
      obtain ⟨answers, rfl, names, any⟩ := hms'
      exact ⟨(slotKey "range" i, v) :: answers, rfl, by simp [names], by simp_all⟩
    | some range =>
      refine Does.bind ih fun ranges ms' hms' => .pure ?_
      obtain ⟨answers, rfl, names, -⟩ := hms'
      exact ⟨(slotKey "range" i, v) :: answers, by simp [asked], by simp [names], by simp_all⟩

theorem does_followAll (ports : List String)
    (h : ∀ port ∈ ports, p.Does a (w.follow a port) fun _ ms => ms = [.follow port]) :
    p.Does a (followAll w a ports) fun _ ms => ms = ports.map .follow := by
  induction ports with
  | nil => exact .pure rfl
  | cons port ports ih =>
    refine Does.bind (h port (List.mem_cons_self ..)) fun _ ms hms => ?_
    subst hms
    refine (ih fun q hq => h q (List.mem_cons_of_mem _ hq)).mono fun _ ms' hms' => ?_
    subst hms'
    rfl

theorem does_flowBlock {port : String}
    (h : p.Does a (w.follow a port) fun _ ms => ms = [.follow port]) :
    p.Does a (p.flowBlock w a port) fun _ ms => ms = [.follow port] := by
  refine Does.inBlock 1 (h.andQuiet (fun _ => ?_) fun _ _ _ hms => hms)
  exact quiet_fillEmpty.bind fun _ => .pure rfl

/-! ### The text of a node -/

theorem askedBy_of_mem_askList {port : String} (h : port ∈ p.askList n kind) :
    p.AskedBy n kind port := by
  cases kind with
  | call function sideEffect =>
    simp only [askList] at h
    split at h
    · cases h
    · rename_i f hf
      obtain ⟨param, hparam, rfl⟩ := List.mem_map.1 h
      obtain ⟨mem, known⟩ := List.mem_filter.1 hparam
      exact ⟨f, param, hf, mem, known, rfl⟩
  | branch | whileLoop => exact List.mem_singleton.1 h
  | forLoop =>
    obtain ⟨i, -, rfl⟩ := List.mem_map.1 h
    exact ⟨i, rfl⟩
  | _ => cases h

/-- A node that asks for all that is on its list. -/
theorem Script.of_all (answers : List (String × Option Producer)) (stated : List String)
    (ports : Bool → List String) (all : answers.map Prod.fst = p.askList n kind)
    (states : p.States a kind stated) :
    p.Script a n kind ports (asked answers ++ stated.map .state ++
      (ports (answers.any fun x => x.2.isSome)).map .follow) := by
  refine .mk (fun x hx => askedBy_of_mem_askList ?_) (fun _ => all) states
  rw [← all]
  exact List.mem_map_of_mem hx

/-- A node that asks for nothing and states nothing. -/
theorem Does.script {act : Gen Unit} (ports : List String)
    (h : p.Does a act fun _ ms => ms = ports.map .follow) (nothing : p.askList n kind = [])
    (arms : ∀ opened, n.arms kind opened = ports) (states : p.States a kind []) :
    p.Does a act fun _ ms => p.Script a n kind (n.arms kind) ms := by
  refine h.mono fun _ ms hms => ?_
  subst hms
  have script := Script.of_all [] [] (n.arms kind) nothing.symm states
  simpa [asked, arms] using script

theorem does_recordValue {t : DataType} {f : FunctionDesc} {args : OrderedMap String String}
    {uses : List Address} {readers : Nat} :
    p.Does a (recordValue a t ⟨f.render args, uses⟩ true readers) fun _ ms =>
      ∃ text, ms = [.state text] ∧ StatementOf f a text := by
  unfold recordValue
  split_ifs with keep
  · cases keep
  · exact fun s => ⟨_, .states _ _ _, _, rfl, args, .inl rfl⟩
  · exact fun s => ⟨_, .states _ _ _, _, rfl, args, .inr rfl⟩

theorem does_emitCall {function : String} {sideEffect : Bool}
    (hw : w.FaithfulAt p a n (.call function sideEffect)) :
    p.Does a (p.emitCall w a n function sideEffect) fun _ ms =>
      p.Script a n (.call function sideEffect) (n.arms (.call function sideEffect)) ms := by
  unfold emitCall
  cases hf : p.lang.functions.get? function with
  | none =>
    refine Does.script [] (quiet_error (.unknownFunction _) rfl) ?_
      (fun _ => rfl) ?_
    · simp only [askList, hf]
    · cases sideEffect <;> simp [States, hf]
  | some f =>
    have fetch : ∀ param ∈ f.params, (p.lang.types.get? param.type).isSome →
        p.Fetches a param.name (w.resolve a param.name) :=
      fun param mem known => hw.resolve ⟨f, param, hf, mem, known, rfl⟩
    refine Does.bind (does_arguments f.params {} fetch) fun args ms hms => ?_
    obtain ⟨answers, rfl, names⟩ := hms
    have all : answers.map Prod.fst = p.askList n (.call function sideEffect) := by
      simpa only [askList, hf] using names
    refine (quiet_imports fun name mem => .inl ⟨some f.result, mem⟩).bind fun _ => ?_
    refine (quiet_imports fun name mem => .inr ⟨function, f, hf, mem⟩).bind fun _ => ?_
    cases sideEffect with
    | true =>
      refine does_recordValue.mono fun _ ms hms => ?_
      obtain ⟨text, rfl, statement⟩ := hms
      have states : p.States a (.call function true) [text] := by
        simp only [States, hf]
        exact ⟨text, rfl, statement⟩
      simpa [Node.arms] using Script.of_all _ _ (n.arms (.call function true)) all states
    | false =>
      have quiet : p.Quiet a (recordValue a (p.lang.types.getOrAny (some f.result))
          ⟨f.render args.texts, args.uses⟩ (false || p.mustBind
            (p.lang.types.getOrAny (some f.result)) (p.readers a resultKey))
          (p.readers a resultKey)) := by
        unfold recordValue
        split_ifs
        · exact Quiet.modify fun _ => .keep ..
        · exact quiet_write
        · exact quiet_write
      refine quiet.mono fun _ ms hms => ?_
      subst hms
      simpa [Node.arms] using
        Script.of_all _ [] (n.arms (.call function false)) all rfl

theorem does_emitDefinition (hw : w.FaithfulAt p a n .definition) :
    p.Does a (p.emitDefinition w a n) fun _ ms =>
      p.Script a n .definition (n.arms .definition) ms := by
  refine Does.script [flowOutKey] ?_ rfl (fun _ => rfl) rfl
  refine (quiet_parameters _).bind fun params => ?_
  refine (quiet_markMain _).bind fun _ => ?_
  refine (quiet_writeGiven _).bind fun _ => quiet_write.bind fun _ => ?_
  exact (does_flowBlock (hw.follow rfl)).andQuiet (fun _ => quiet_write) fun _ _ _ hms => hms

theorem does_emitBranch (hw : w.FaithfulAt p a n .branch) :
    p.Does a (p.emitBranch w a) fun _ ms => p.Script a n .branch (n.arms .branch) ms := by
  refine (does_demand (hw.resolve rfl)).bind fun v resolves => ?_
  have script : p.Script a n .branch (n.arms .branch) _ :=
    Script.of_all [("inValue", v)] [] _ rfl rfl
  cases v with
  | none => exact .pure (by simpa [asked, Node.arms] using script)
  | some v =>
    refine (quiet_reference resolves).bind fun condition => quiet_write.bind fun _ => ?_
    refine Does.bind (does_flowBlock (hw.follow (.inl rfl))) fun connected ms hms => ?_
    subst hms
    have rest : p.Does a (do
        Program.write a "else" .header
        let _ ← p.flowBlock w a "else") fun _ ms => ms = [.follow "else"] := by
      refine quiet_write.bind fun _ => ?_
      exact (does_flowBlock (hw.follow (.inr (.inl rfl)))).andQuiet (fun _ => Quiet.pure)
        fun _ _ _ hms => hms
    have told : p.Does a (do
        if !connected then p.report a .thenExitExpected
        Program.write a "else" .header
        let _ ← p.flowBlock w a "else") fun _ ms => ms = [.follow "else"] := by
      split_ifs
      · exact (quiet_report .thenExitExpected rfl).bind fun _ => rest
      · exact rest
    refine told.mono fun _ ms hms => ?_
    subst hms
    simpa [asked, Node.arms] using script

theorem does_emitWhile (hw : w.FaithfulAt p a n .whileLoop) :
    p.Does a (p.emitWhile w a) fun _ ms => p.Script a n .whileLoop (n.arms .whileLoop) ms := by
  refine (does_demand (hw.resolve rfl)).bind fun v resolves => ?_
  have script : p.Script a n .whileLoop (n.arms .whileLoop) _ :=
    Script.of_all [("inValue", v)] [] _ rfl rfl
  cases v with
  | none => exact .pure (by simpa [asked, Node.arms] using script)
  | some v =>
    refine (quiet_reference resolves).bind fun condition => quiet_write.bind fun _ => ?_
    refine (does_flowBlock (hw.follow (.inl rfl))).andQuiet (fun _ => Quiet.pure)
      fun _ _ ms hms => ?_
    subst hms
    simpa [asked, Node.arms] using script

theorem does_emitFor (hw : w.FaithfulAt p a n .forLoop) :
    p.Does a (p.emitFor w a n) fun _ ms => p.Script a n .forLoop (n.arms .forLoop) ms := by
  refine Does.bind (does_loopRanges _ fun i => hw.resolve ⟨i, rfl⟩) fun ranges ms hms => ?_
  obtain ⟨answers, rfl, names, opened⟩ := hms
  have script : p.Script a n .forLoop (n.arms .forLoop) _ :=
    Script.of_all answers [] _ names rfl
  rw [opened] at script
  split_ifs with empty
  · refine (quiet_error .inputExpected rfl).mono fun _ ms hms => ?_
    subst hms
    simpa [Node.arms, empty] using script
  · refine quiet_write.bind fun _ => ?_
    refine (does_flowBlock (hw.follow (.inl rfl))).andQuiet (fun _ => Quiet.pure)
      fun _ _ ms hms => ?_
    subst hms
    simpa [Node.arms, empty] using script

/-- An action that asks for some inputs of an assignment. -/
def AsksOnly {α : Type} (p : Program) (a : Address) (n : Node) (act : Gen α) : Prop :=
  p.Does a act fun _ ms => ∃ answers, ms = asked answers ∧
    ∀ x ∈ answers, p.AskedBy n .assignment x.1

theorem asksOnly_valueAt? {α : Type} (hw : w.FaithfulAt p a n .assignment) (i : Nat)
    {f : Option Fragment → Gen α} (hf : ∀ value, p.AsksOnly a n (f value)) :
    p.AsksOnly a n (p.valueAt? w a (slotKey "inValue" i) >>= f) := by
  have here : p.AskedBy n .assignment (slotKey "inValue" i) := .inr ⟨i, rfl⟩
  refine Does.bind (does_valueAt? (hw.resolve here)) fun value ms hms => ?_
  obtain ⟨v, rfl, -⟩ := hms
  refine (hf value).mono fun _ ms hms => ?_
  obtain ⟨answers, rfl, asks⟩ := hms
  refine ⟨(slotKey "inValue" i, v) :: answers, rfl, fun x hx => ?_⟩
  rcases List.mem_cons.1 hx with rfl | hx
  · exact here
  · exact asks x hx

theorem Quiet.asksOnly {α : Type} {act : Gen α} (h : p.Quiet a act) : p.AsksOnly a n act := by
  refine h.mono fun _ ms hms => ⟨[], hms, fun x hx => ?_⟩
  cases hx

theorem asksOnly_assignFields (hw : w.FaithfulAt p a n .assignment) (target : Fragment) (i : Nat)
    (fields : List FieldDesc) : p.AsksOnly a n (p.assignFields w a n target i fields) := by
  induction fields generalizing i with
  | nil => exact Quiet.pure.asksOnly
  | cons field fields ih =>
    refine asksOnly_valueAt? hw i fun value => ?_
    have assigned : ∀ value, p.Quiet a (assignGiven a target ("." ++ field.name) value) := by
      intro value
      cases value with
      | none => exact Quiet.pure
      | some value => exact quiet_write
    exact (assigned _).bind fun _ => ih (i + 1)

theorem does_emitAssignment (hw : w.FaithfulAt p a n .assignment) :
    p.Does a (p.emitAssignment w a n) fun _ ms =>
      p.Script a n .assignment (n.arms .assignment) ms := by
  have target : p.AskedBy n .assignment "inVariable" := .inl rfl
  suffices asks : p.AsksOnly a n (p.emitAssignment w a n) by
    refine asks.mono fun _ ms hms => ?_
    obtain ⟨answers, rfl, asks⟩ := hms
    have nothing : p.States a .assignment [] := rfl
    have script : p.Script a n .assignment (n.arms .assignment) _ :=
      .mk asks (fun other => absurd rfl other) nothing
    simpa [asked, Node.arms] using script
  unfold emitAssignment
  refine (does_demand (hw.resolve target)).bind fun v resolves => ?_
  cases v with
  | none => exact .pure ⟨[("inVariable", none)], rfl, by simp [target]⟩
  | some u =>
    -- the target is the first answer, before those for the fields
    refine Does.mono (?fields : p.AsksOnly a n _) fun _ ms hms => ?_
    case fields =>
      refine (quiet_reference resolves).bind fun target => ?_
      dsimp only
      split
      · refine asksOnly_valueAt? hw 0 fun value => Quiet.asksOnly ?_
        split
        · exact quiet_write
        · exact quiet_error .inputExpected rfl
      · exact asksOnly_assignFields hw _ _ _
    obtain ⟨answers, rfl, asks⟩ := hms
    refine ⟨("inVariable", some u) :: answers, rfl, fun x hx => ?_⟩
    rcases List.mem_cons.1 hx with rfl | hx
    · exact target
    · exact asks x hx

theorem does_emit (hw : w.FaithfulAt p a n kind) :
    p.Does a (p.emit w a n kind) fun _ ms => p.Script a n kind (n.arms kind) ms := by
  -- what makes no move asks for nothing and has no arms
  have quiet : ∀ {act : Gen Unit}, p.Quiet a act → p.askList n kind = [] →
      (∀ opened, n.arms kind opened = []) → p.States a kind [] →
      p.Does a act fun _ ms => p.Script a n kind (n.arms kind) ms :=
    fun quiet nothing arms states => Does.script [] quiet nothing arms states
  cases kind with
  | literal type => exact quiet (quiet_emitLiteral type) rfl (fun _ => rfl) rfl
  | call function sideEffect => exact does_emitCall hw
  | topLevelCode =>
    refine Does.script [flowOutKey] ?_ rfl (fun _ => rfl) rfl
    refine (quiet_writeGiven _).bind fun _ => ?_
    exact (hw.follow rfl).andQuiet (fun _ => Quiet.pure) fun _ _ _ hms => hms
  | code => exact quiet (quiet_writeGiven _) rfl (fun _ => rfl) rfl
  | sequence =>
    refine Does.script _ (does_followAll _ fun port hport => ?_) rfl (fun _ => rfl) rfl
    obtain ⟨i, -, rfl⟩ := List.mem_map.1 hport
    exact hw.follow ⟨i, rfl⟩
  | declaration => exact quiet quiet_write rfl (fun _ => rfl) rfl
  | definition => exact does_emitDefinition hw
  | record => exact quiet quiet_emitRecord rfl (fun _ => rfl) rfl
  | branch => exact does_emitBranch hw
  | whileLoop => exact does_emitWhile hw
  | forLoop => exact does_emitFor hw
  | assignment => exact does_emitAssignment hw
  | _ => exact quiet Quiet.pure rfl (fun _ => rfl) rfl

/-- After its arms, flow goes on where it does. -/
theorem Script.exits {ms : List Move} (h : p.Script a n kind (n.arms kind) ms) :
    p.Script a n kind (n.exits kind)
      (ms ++ (if kind.continuesFlow then [flowOutKey] else []).map .follow) := by
  cases h with
  | mk asked all states =>
    have script : p.Script a n kind (n.exits kind) _ := .mk asked all states
    simpa [Node.exits, List.append_assoc] using script

/-- The way on is followed where there is one. -/
theorem does_flowOn (hw : w.FaithfulAt p a n kind) :
    p.Does a (if kind.continuesFlow then do
        let _ ← w.follow a flowOutKey
      else pure ()) fun _ ms =>
      ms = (if kind.continuesFlow then [flowOutKey] else []).map .follow := by
  split_ifs with continues
  · have followed : p.FollowedBy n kind flowOutKey := by
      cases kind <;> simp_all [Kind.continuesFlow, FollowedBy]
    exact (hw.follow followed).andQuiet (fun _ => Quiet.pure) fun _ _ _ hms => hms
  · exact .pure rfl

/-- The text of a node and the flow after it make the moves of its script. -/
theorem does_compile (hw : w.FaithfulAt p a n kind) :
    p.Does a (do
      p.emit w a n kind
      if kind.continuesFlow then
        let _ ← w.follow a flowOutKey) fun _ ms => p.Script a n kind (n.exits kind) ms := by
  refine Does.bind (does_emit hw) fun _ ms hms => ?_
  refine (does_flowOn hw).mono fun _ ms' hms' => ?_
  subst hms'
  exact hms.exits

theorem Quiet.sat {α : Type} {act : Gen α} (h : p.Quiet a act) (s : Pass) :
    Gen.Sat False act s fun _ s' => p.Performs (.moves a []) s s' := by
  refine (h s).mono fun _ s' hs' => ?_
  obtain ⟨ms, performs, rfl⟩ := hs'
  exact performs

end Program

/-! ### The walk -/

/-- A walk asks and follows as told from all ports that a pass looks at. -/
structure Walk.Faithful (p : Program) (w : Walk) : Prop where
  resolve : ∀ {a port}, (p.Placed → p.Asks a port) → ∀ s,
    Gen.Sat False (w.resolve a port) s fun v s' => p.Performs (.ask a port v) s s'
  follow : ∀ {a port}, (p.Placed → p.Follows a port) → ∀ s,
    Gen.Sat False (w.follow a port) s fun _ s' => p.Performs (.follow a port) s s'

namespace Program

variable {p : Program} {a : Address} {port : String}

theorem faithfulAt_of_faithful {w : Walk} (hw : w.Faithful p) {n : Node} {kind : Kind}
    (here : p.Placed → p.OnPath a.path) (hn : p.node? a = some n) (hk : p.kind? n = some kind) :
    w.FaithfulAt p a n kind where
  resolve asked s := by
    refine (hw.resolve (fun placed => asks_of_askedBy (here placed) hn hk asked) s).mono ?_
    exact fun v s' h => ⟨_, .asks h, rfl⟩
  follow followed s := by
    refine (hw.follow (fun placed => follows_of_followedBy (here placed) hn hk followed) s).mono ?_
    exact fun _ s' h => ⟨_, .follows h, rfl⟩

theorem performs_compileNode {fuel : Nat} (hw : (p.walk fuel).Faithful p) {n : Node} {kind : Kind}
    {cause : Cause} {s s₀ : Pass} (reached : p.Placed → p.Reached cause a) (hn : p.node? a = some n)
    (hk : p.kind? n = some kind) (fresh : kind.hasFlowIn = true → a ∉ s₀.visited)
    (hs : ((s.markProcessed a).note (.emitted a cause s.block.path)) = s₀.begin a cause kind) :
    Gen.Sat False (p.compileNode (p.walk fuel) a cause n kind) s
      fun _ s' => p.Performs (.visit cause a) s₀ s' := by
  have walks := faithfulAt_of_faithful hw (fun placed => (reached placed).onPath) hn hk
  unfold compileNode
  refine Gen.Sat.bind (Gen.Sat.modify (Q := fun _ s' => s' = s₀.begin a cause kind) hs) ?_
  rintro _ _ rfl
  refine ((does_compile walks _).of_bind).mono fun _ s' hs' => ?_
  obtain ⟨⟨ms, performs, script⟩, x, s₁, ran, rest⟩ := hs'
  -- the flow after the text only adds to it
  obtain ⟨_, follows, -⟩ := (does_flowOn walks s₁).eq_some rest
  exact .compile reached hn hk fresh script ⟨fuel, ran⟩ follows.extends performs

theorem performs_visit {fuel : Nat} (hw : (p.walk fuel).Faithful p) {cause : Cause}
    (reached : p.Placed → p.Reached cause a) (s : Pass) :
    Gen.Sat False (p.visit (p.walk fuel) a cause) s
      fun _ s' => p.Performs (.visit cause a) s s' := by
  unfold visit
  cases hn : p.node? a with
  | none => exact .absent hn
  | some n =>
    dsimp only
    cases hk : p.kind? n with
    | none =>
      refine ((quiet_error (.unknownComponent n.component) rfl).sat s).mono ?_
      exact fun _ s' hs' => .unknown hn hk hs'
    | some kind =>
      dsimp only
      split_ifs with hf
      · refine Gen.Sat.bind (Gen.Sat.modify (Q := fun _ s' => s' = s.note (.arrived a)) rfl) ?_
        rintro _ _ rfl
        refine Gen.Sat.bind (Gen.Sat.get (Q := fun x s' => x = s.note (.arrived a) ∧
          s' = s.note (.arrived a)) ⟨rfl, rfl⟩) ?_
        rintro _ _ ⟨rfl, rfl⟩
        split_ifs with hv
        · exact .again hn hk hf hv
        · refine Gen.Sat.bind (Gen.Sat.modify (Q := fun _ s' =>
            s' = (s.note (.arrived a)).visit a) rfl) ?_
          rintro _ _ rfl
          refine performs_compileNode hw reached hn hk (fun _ => hv) ?_
          simp only [Pass.begin, hf, if_true]
      · refine performs_compileNode hw reached hn hk (fun h => absurd h hf) ?_
        simp only [Pass.begin, hf]
        rfl

/-- Settling a value, after the demand is noted. -/
theorem performs_settle {fuel : Nat} (hw : (p.walk fuel).Faithful p) {kind : Kind}
    (reached : kind.isLazy = true → p.Placed → p.Reached .demand a) (s : Pass) :
    Gen.Sat False (p.settle (p.walk fuel) a kind) s
      fun _ s' => p.Performs (.settle a kind) (s.note (.demanded a)) s' := by
  unfold settle
  refine Gen.Sat.bind (Gen.Sat.modify (Q := fun _ s' => s' = s.note (.demanded a)) rfl) ?_
  rintro _ _ rfl
  refine Gen.Sat.bind (Gen.Sat.get (Q := fun x s' => x = s.note (.demanded a) ∧
    s' = s.note (.demanded a)) ⟨rfl, rfl⟩) ?_
  rintro _ _ ⟨rfl, rfl⟩
  split_ifs with hstarted hresolving hlazy
  · exact .cyclic hstarted hresolving
  · exact .settled hstarted hresolving
  · refine Gen.Sat.bind (Gen.Sat.modify (Q := fun _ s' =>
      s' = ((s.note (.demanded a)).start a).beginResolving a) rfl) ?_
    rintro _ _ rfl
    refine (performs_visit hw (reached hlazy) _).bind fun _ s' hs' => ?_
    exact .compiled hstarted hlazy hs'
  · exact .left hstarted (by simpa using hlazy)

/-- Entering a module, if there is a way in. -/
theorem performs_enter? {n : Node} (s : Pass) :
    Gen.Sat False (p.enter? a n) s
      fun g s' => p.Performs (.moves a []) s s' ∧ g = p.entered? a n := by
  unfold enter? entered?
  dsimp only
  cases p.library.get? (n.textD moduleKey) with
  | none =>
    refine ((quiet_error (.moduleNotLoaded _) rfl).sat s).bind fun _ s' hs' => ?_
    exact ⟨hs', rfl⟩
  | some g =>
    dsimp only
    split_ifs
    · refine ((quiet_error (.recursiveCall _) rfl).sat s).bind fun _ s' hs' => ?_
      exact ⟨hs', rfl⟩
    · exact ⟨.touch (.process a), rfl⟩

/-- Asking at an input whose search ends at the next node, with a message there. -/
theorem performs_refused {wire : Wire} {n : Node} (hfeed : p.feeding? a port = some (wire, n))
    (next : p.look a port = .nothing) {s s₁ : Pass}
    (before : p.Performs (.moves (a.sibling n.id) []) (s.note (.asked a port)) s₁)
    (cause : Problem) (own : cause.isOwn = true) :
    Gen.Sat False (do p.error (a.sibling n.id) cause; return none) s₁
      fun v s' => p.Performs (.ask a port v) s s' := by
  refine ((quiet_error cause own).sat s₁).bind fun _ s' hs' => ?_
  exact .refused hfeed next (before.append hs')

theorem performs_resolveStep {fuel : Nat} (hw : (p.walk fuel).Faithful p)
    (asks : p.Placed → p.Asks a port) (s : Pass) :
    Gen.Sat False (p.resolveStep (p.walk fuel) a port) s
      fun v s' => p.Performs (.ask a port v) s s' := by
  unfold resolveStep
  refine Gen.Sat.bind (Gen.Sat.modify (Q := fun _ s' => s' = s.note (.asked a port)) rfl) ?_
  rintro _ _ rfl
  cases hfeed : p.feeding? a port with
  | none => exact .unwired hfeed
  | some found =>
    obtain ⟨wire, n⟩ := found
    have here : p.look a port = p.lookAt (a.sibling n.id) n wire.sourcePort := by
      simp only [look, hfeed]
    -- the search goes on from another port
    have passOn : ∀ {b q s₁}, p.look a port = .onward b q →
        p.Performs (.moves (a.sibling n.id) []) (s.note (.asked a port)) s₁ →
        Gen.Sat False ((p.walk fuel).resolve b q) s₁
          fun v s' => p.Performs (.ask a port v) s s' := by
      intro b q s₁ next before
      refine (hw.resolve (fun placed => placed.asks_hop (asks placed) (valueHop_of_look next))
        s₁).mono fun v s' hs' => ?_
      exact .onward hfeed next before hs'
    have settled : ∀ {kind}, p.kind? n = some kind → kind.passesOn = false → kind ≠ .definition →
        Gen.Sat False (do
          p.settle (p.walk fuel) (a.sibling n.id) kind
          modify (·.require (a.sibling n.id))
          return some ⟨a.sibling n.id, wire.sourcePort⟩) (s.note (.asked a port))
          fun v s' => p.Performs (.ask a port v) s s' := by
      intro kind hk own other
      have reached : kind.isLazy = true → p.Placed → p.Reached .demand (a.sibling n.id) :=
        fun lazy placed => ⟨wire.sourcePort, kind,
          ⟨a, port, wire, n, asks placed, hfeed, rfl, hk, own⟩, lazy, other⟩
      refine (performs_settle hw reached _).bind fun _ s₁ hs₁ => ?_
      exact .own hfeed hk own other hs₁
    unfold resolveFrom
    unfold lookAt at here
    dsimp only
    cases hk : p.kind? n with
    | none =>
      exact performs_refused hfeed (by simpa only [hk] using here) .idle _ rfl
    | some kind =>
      rw [hk] at here
      cases kind with
      | moduleInput =>
        show Gen.Sat False (p.resolveInput (p.walk fuel) (a.sibling n.id) n) _ _
        unfold resolveInput
        cases hsite : (a.sibling n.id).callSite? with
        | none =>
          exact performs_refused hfeed (by simpa only [hsite] using here) .idle _ rfl
        | some call => exact passOn (by simpa only [hsite] using here) .idle
      | moduleCall =>
        show Gen.Sat False (p.resolveOutput (p.walk fuel) (a.sibling n.id) n wire.sourcePort) _ _
        unfold resolveOutput
        refine (performs_enter? _).bind fun g s₁ hs₁ => ?_
        obtain ⟨before, rfl⟩ := hs₁
        cases hg : p.entered? (a.sibling n.id) n with
        | none => exact .refused hfeed (by simpa [hg] using here) before
        | some g =>
          dsimp only
          cases hbridge : g.bridge? ComponentTable.moduleOutputName wire.sourcePort with
          | none =>
            exact performs_refused hfeed (by simpa [hg, hbridge] using here) before _ rfl
          | some inner => exact passOn (by simpa [hg, hbridge] using here) before
      | definition =>
        show p.Performs (.ask a port ((slotIndex? "out" wire.sourcePort).map fun _ =>
          ⟨a.sibling n.id, wire.sourcePort⟩)) s (s.note (.asked a port))
        cases hslot : slotIndex? "out" wire.sourcePort with
        | none => exact .refused hfeed (by simpa [hslot] using here) .idle
        | some i => exact .parameter hfeed hk (by simp [hslot])
      | assignment => exact passOn here .idle
      | _ => exact settled hk rfl (by simp)

theorem performs_followStep {fuel : Nat} (hw : (p.walk fuel).Faithful p)
    (follows : p.Placed → p.Follows a port) (s : Pass) :
    Gen.Sat False (p.followStep (p.walk fuel) a port) s
      fun _ s' => p.Performs (.follow a port) s s' := by
  unfold followStep
  refine Gen.Sat.bind (Gen.Sat.modify (Q := fun _ s' => s' = s.note (.followed a port)) rfl) ?_
  rintro _ _ rfl
  cases hfed : p.fedBy? a port with
  | none => exact .unled hfed
  | some found =>
    obtain ⟨wire, n⟩ := found
    have here : p.ahead a port = p.aheadAt (a.sibling n.id) n wire.targetPort := by
      simp only [ahead, hfed]
    have passOn : ∀ {b q s₁}, p.ahead a port = .onward b q →
        p.Performs (.moves (a.sibling n.id) []) (s.note (.followed a port)) s₁ →
        Gen.Sat False ((p.walk fuel).follow b q) s₁
          fun _ s' => p.Performs (.follow a port) s s' := by
      intro b q s₁ next before
      refine (hw.follow (fun placed => placed.follows_hop (follows placed) (flowHop_of_ahead next))
        s₁).mono fun v s' hs' => ?_
      exact .through hfed next before hs'
    have stopped : ∀ {s₁} cause, p.ahead a port = .nothing → cause.isOwn = true →
        p.Performs (.moves (a.sibling n.id) []) (s.note (.followed a port)) s₁ →
        Gen.Sat False (p.error (a.sibling n.id) cause) s₁
          fun _ s' => p.Performs (.follow a port) s s' := by
      intro s₁ cause next own before
      refine ((quiet_error cause own).sat s₁).mono fun _ s' hs' => ?_
      exact .stopped hfed next (before.append hs')
    have arrived : p.ahead a port = .found (a.sibling n.id) → p.kind? n ≠ some .flowExit →
        p.kind? n ≠ some .moduleCall → Gen.Sat False (p.visit (p.walk fuel) (a.sibling n.id) .flow)
          (s.note (.followed a port)) fun _ s' => p.Performs (.follow a port) s s' := by
      intro next exit call
      have reached : p.Placed → p.Reached .flow (a.sibling n.id) :=
        fun placed => ⟨a, port, wire, n, follows placed, hfed, rfl, exit, call⟩
      exact (performs_visit hw reached _).mono fun _ s' hs' => .arrive next hs'
    suffices step : Gen.Sat False (p.followTo (p.walk fuel) (a.sibling n.id) n wire.targetPort)
        (s.note (.followed a port)) fun _ s' => p.Performs (.follow a port) s s' from
      step.bind fun _ s' hs' => hs'
    unfold followTo
    unfold aheadAt at here
    cases hk : p.kind? n with
    | none => exact arrived (by simpa [hk] using here) (by simp [hk]) (by simp [hk])
    | some kind =>
      rw [hk] at here
      cases kind with
      | flowExit =>
        show Gen.Sat False (p.followExit (p.walk fuel) (a.sibling n.id) n) _ _
        unfold followExit
        cases hsite : (a.sibling n.id).callSite? with
        | none => exact stopped _ (by simpa only [hsite] using here) rfl .idle
        | some call =>
          have next : p.ahead a port = .onward call (n.textD "name") := by
            simpa only [hsite] using here
          exact (passOn next .idle).bind fun _ s' hs' => hs'
      | moduleCall =>
        show Gen.Sat False (p.followEntry (p.walk fuel) (a.sibling n.id) n wire.targetPort) _ _
        unfold followEntry
        refine (performs_enter? _).bind fun g s₁ hs₁ => ?_
        obtain ⟨before, rfl⟩ := hs₁
        cases hg : p.entered? (a.sibling n.id) n with
        | none => exact .stopped hfed (by simpa [hg] using here) before
        | some g =>
          dsimp only
          cases hbridge : g.bridge? ComponentTable.flowEntryName wire.targetPort with
          | none => exact stopped _ (by simpa [hg, hbridge] using here) rfl before
          | some inner =>
            have next : p.ahead a port = .onward ((a.sibling n.id).inside inner.id) "output" := by
              simpa [hg, hbridge] using here
            exact (passOn next before).bind fun _ s' hs' => hs'
      | _ => exact arrived here (by simp [hk]) (by simp [hk])

/-- Whatever the fuel, asking and following do as told. -/
theorem faithful_walk (p : Program) (fuel : Nat) : (p.walk fuel).Faithful p := by
  induction fuel with
  | zero => exact ⟨fun _ _ => id, fun _ _ => id⟩
  | succ fuel ih =>
    constructor
    · exact fun asks s => performs_resolveStep ih asks s
    · exact fun follows s => performs_followStep ih follows s

theorem performs_visitAll (p : Program) (fuel : Nat) {as : List Address} (has : as ⊆ p.entries)
    (s : Pass) :
    Gen.Sat False (p.visitAll (p.walk fuel) as) s fun _ s' => p.Performs (.entries as) s s' := by
  induction as generalizing s with
  | nil => exact .finished
  | cons a as ih =>
    have reached : p.Placed → p.Reached .entry a := fun _ => has (List.mem_cons_self ..)
    unfold visitAll
    refine (performs_visit (p.faithful_walk fuel) reached s).bind fun _ s' hs' => ?_
    refine (ih (fun b hb => has (List.mem_cons_of_mem _ hb)) s').mono fun _ s'' hs'' => ?_
    exact .entry hs' hs''

/-- A finished pass has compiled its entries in turn. -/
theorem Ends.performs {s : Pass} (h : p.Ends s) : p.Performs (.entries p.entries) {} s := by
  obtain ⟨fuel, h⟩ := h
  obtain ⟨⟨x, s'⟩, hrun, rfl⟩ := Option.map_eq_some_iff.1 h
  exact (p.performs_visitAll fuel (List.Subset.refl _) {}).eq_some hrun

end Program

end FlowScript
