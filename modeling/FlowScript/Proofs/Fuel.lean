import FlowScript.Proofs.Walking

/-!
# Fuel decides nothing

Fuel bounds how deep a pass asks and follows.  An answer that was reached with some fuel is reached
with more of it, so a program has one finished pass at most, and fuel does not show in it.

* `Gen.Le`: an action whose answers another one gives as well; `Walk.Le`: so for the two of a walk;
* `visit_le`, `resolveStep_le`, `followStep_le`: actions keep their answers along with the walk;
* `walk_le`, `runWith?_mono`: more fuel keeps the answers; `Ends.unique`: there is one pass at most.
-/

namespace FlowScript

/-! ### Actions that keep answers -/

/-- Whatever the first action answers, the second one answers too. -/
def Gen.Le {α : Type} (act act' : Gen α) : Prop :=
  ∀ (s : Pass) (r : α × Pass), act s = some r → act' s = some r

namespace Gen

variable {α β : Type} {act act' : Gen α}

theorem Le.refl (act : Gen α) : act.Le act := fun _ _ h => h

theorem exhausted_le (act : Gen α) : exhausted.Le act := fun _ _ h => nomatch h

theorem Le.bind {f f' : α → Gen β} (h : act.Le act') (hf : ∀ x, (f x).Le (f' x)) :
    (act >>= f).Le (act' >>= f') := by
  intro s r hr
  obtain ⟨⟨x, s'⟩, hact, hrest⟩ := Option.bind_eq_some_iff.1 hr
  exact Option.bind_eq_some_iff.2 ⟨(x, s'), h s _ hact, hf x s' r hrest⟩

/-- The same action first, then one that keeps answers. -/
theorem Le.after (act : Gen α) {f f' : α → Gen β} (hf : ∀ x, (f x).Le (f' x)) :
    (act >>= f).Le (act >>= f') :=
  (Le.refl act).bind hf

/-- An action that keeps answers first, then the same one. -/
theorem Le.before (h : act.Le act') (f : α → Gen β) : (act >>= f).Le (act' >>= f) :=
  h.bind fun x => .refl (f x)

theorem Le.inBlock (h : act.Le act') (extra : Nat) :
    (inBlock extra act).Le (inBlock extra act') := by
  have nested : (nested extra act).Le (nested extra act') :=
    .after _ fun _ => .after _ fun _ => h.before _
  exact nested.before _

end Gen

/-- Whatever a walk finds, another one finds too. -/
structure Walk.Le (w w' : Walk) : Prop where
  resolve : ∀ a port, (w.resolve a port).Le (w'.resolve a port)
  follow : ∀ a port, (w.follow a port).Le (w'.follow a port)

namespace Program

variable (p : Program) {w w' : Walk} (h : w.Le w')
include h

/-! ### Text of nodes -/

theorem demand_le (a : Address) (port : String) : (p.demand w a port).Le (p.demand w' a port) :=
  (h.resolve a port).before _

theorem valueAt?_le (a : Address) (port : String) :
    (p.valueAt? w a port).Le (p.valueAt? w' a port) :=
  (h.resolve a port).before _

theorem flowBlock_le (a : Address) (port : String) :
    (p.flowBlock w a port).Le (p.flowBlock w' a port) :=
  ((h.follow a port).before _).inBlock 1

theorem argument_le (a : Address) (n : Node) (key : String) (t : DataType) :
    (p.argument w a n key t).Le (p.argument w' a n key t) := by
  have fetched : (p.fetch w a key t).Le (p.fetch w' a key t) := by
    unfold fetch
    split_ifs
    · exact h.resolve a key
    · exact p.demand_le h a key
  exact fetched.before _

theorem arguments_le (a : Address) (n : Node) (params : List FieldDesc) (args : Arguments) :
    (p.arguments w a n params args).Le (p.arguments w' a n params args) := by
  induction params generalizing args with
  | nil => exact .refl _
  | cons param params ih =>
    unfold arguments
    split
    · exact ih args
    · exact (p.argument_le h a n _ _).bind fun value => ih _

theorem emitCall_le (a : Address) (n : Node) (function : String) (sideEffect : Bool) :
    (p.emitCall w a n function sideEffect).Le (p.emitCall w' a n function sideEffect) := by
  unfold emitCall
  split
  · exact .refl _
  · exact (p.arguments_le h a n _ _).before _

theorem followAll_le (a : Address) (ports : List String) :
    (followAll w a ports).Le (followAll w' a ports) := by
  induction ports with
  | nil => exact .refl _
  | cons port ports ih => exact (h.follow a port).bind fun _ => ih

theorem emitBranch_le (a : Address) : (p.emitBranch w a).Le (p.emitBranch w' a) := by
  refine (p.demand_le h a "inValue").bind fun v => ?_
  cases v with
  | none => exact .refl _
  | some v =>
    refine .after _ fun condition => .after _ fun _ => ?_
    refine (p.flowBlock_le h a "then").bind fun connected => ?_
    -- what comes after the first arm, whether or not its absence is reported
    have otherwise : (write a "else" .header >>= fun _ => p.flowBlock w a "else" >>= fun _ =>
        pure ()).Le (write a "else" .header >>= fun _ => p.flowBlock w' a "else" >>= fun _ =>
        pure ()) :=
      .after _ fun _ => (p.flowBlock_le h a "else").before _
    cases connected with
    | false => exact .after _ fun _ => otherwise
    | true => exact otherwise

theorem emitWhile_le (a : Address) : (p.emitWhile w a).Le (p.emitWhile w' a) := by
  refine (p.demand_le h a "inValue").bind fun v => ?_
  cases v with
  | none => exact .refl _
  | some v => exact .after _ fun _ => .after _ fun _ => (p.flowBlock_le h a "body").before _

theorem loopRanges_le (a : Address) (is : List Nat) :
    (p.loopRanges w a is).Le (p.loopRanges w' a is) := by
  induction is with
  | nil => exact .refl _
  | cons i is ih =>
    refine (p.valueAt?_le h a (slotKey "range" i)).bind fun range => ?_
    cases range with
    | none => exact ih
    | some range => exact ih.before _

theorem emitFor_le (a : Address) (n : Node) : (p.emitFor w a n).Le (p.emitFor w' a n) := by
  refine (p.loopRanges_le h a _).bind fun ranges => ?_
  split_ifs
  · exact .refl _
  · exact .after _ fun _ => (p.flowBlock_le h a "body").before _

theorem assignFields_le (a : Address) (n : Node) (target : Fragment) (i : Nat)
    (fields : List FieldDesc) :
    (p.assignFields w a n target i fields).Le (p.assignFields w' a n target i fields) := by
  induction fields generalizing i with
  | nil => exact .refl _
  | cons field fields ih =>
    exact (p.valueAt?_le h a _).bind fun value => .after _ fun _ => ih (i + 1)

theorem emitAssignment_le (a : Address) (n : Node) :
    (p.emitAssignment w a n).Le (p.emitAssignment w' a n) := by
  refine (p.demand_le h a "inVariable").bind fun v => ?_
  cases v with
  | none => exact .refl _
  | some v =>
    refine .after _ fun target => ?_
    dsimp only
    split
    · exact (p.valueAt?_le h a _).before _
    · exact p.assignFields_le h a n target 0 _

theorem emitDefinition_le (a : Address) (n : Node) :
    (p.emitDefinition w a n).Le (p.emitDefinition w' a n) :=
  .after _ fun _ => .after _ fun _ => .after _ fun _ => .after _ fun _ =>
    (p.flowBlock_le h a flowOutKey).before _

theorem emit_le (a : Address) (n : Node) (kind : Kind) :
    (p.emit w a n kind).Le (p.emit w' a n kind) := by
  cases kind with
  | call function sideEffect => exact p.emitCall_le h a n function sideEffect
  | topLevelCode => exact .after _ fun _ => (h.follow a flowOutKey).before _
  | sequence => exact followAll_le h a _
  | definition => exact p.emitDefinition_le h a n
  | branch => exact p.emitBranch_le h a
  | whileLoop => exact p.emitWhile_le h a
  | forLoop => exact p.emitFor_le h a n
  | assignment => exact p.emitAssignment_le h a n
  | _ => exact .refl _

/-! ### Compiling and walking -/

theorem compileNode_le (a : Address) (cause : Cause) (n : Node) (kind : Kind) :
    (p.compileNode w a cause n kind).Le (p.compileNode w' a cause n kind) := by
  refine .after _ fun _ => (p.emit_le h a n kind).bind fun _ => ?_
  split_ifs
  · exact (h.follow a flowOutKey).before _
  · exact .refl _

theorem visit_le (a : Address) (cause : Cause) : (p.visit w a cause).Le (p.visit w' a cause) := by
  unfold visit
  split
  · exact .refl _
  · split
    · exact .refl _
    · rename_i kind _
      have compiled := p.compileNode_le h a cause
      split_ifs
      · refine .after _ fun _ => .after _ fun s => ?_
        split_ifs
        · exact .refl _
        · exact .after _ fun _ => compiled _ kind
      · exact compiled _ kind

theorem settle_le (a : Address) (kind : Kind) : (p.settle w a kind).Le (p.settle w' a kind) := by
  refine .after _ fun _ => .after _ fun s => ?_
  split_ifs
  · exact .refl _
  · exact .refl _
  · exact .after _ fun _ => (p.visit_le h a .demand).before _
  · exact .refl _

theorem resolveStep_le (a : Address) (port : String) :
    (p.resolveStep w a port).Le (p.resolveStep w' a port) := by
  refine .after _ fun _ => ?_
  split
  · exact .refl _
  · rename_i wire n _
    unfold resolveFrom
    split
    · exact .refl _
    · unfold resolveInput
      split
      · exact .refl _
      · exact h.resolve _ _
    · refine .after _ fun g => ?_
      cases g with
      | none => exact .refl _
      | some g =>
        dsimp only
        split
        · exact h.resolve _ _
        · exact .refl _
    · exact .refl _
    · exact h.resolve _ _
    · exact (p.settle_le h _ _).before _

theorem followStep_le (a : Address) (port : String) :
    (p.followStep w a port).Le (p.followStep w' a port) := by
  refine .after _ fun _ => ?_
  split
  · exact .refl _
  · rename_i wire n _
    suffices step : (p.followTo w (a.sibling n.id) n wire.targetPort).Le
        (p.followTo w' (a.sibling n.id) n wire.targetPort) from step.before _
    unfold followTo
    split
    · unfold followExit
      split
      · exact .refl _
      · exact (h.follow _ _).before _
    · refine .after _ fun g => ?_
      cases g with
      | none => exact .refl _
      | some g =>
        dsimp only
        split
        · exact (h.follow _ _).before _
        · exact .refl _
    · exact p.visit_le h _ .flow

theorem visitAll_le (as : List Address) : (p.visitAll w as).Le (p.visitAll w' as) := by
  induction as with
  | nil => exact .refl _
  | cons a as ih => exact (p.visit_le h a .entry).bind fun _ => ih

omit h

/-! ### Fuel -/

/-- More fuel keeps what asking and following find. -/
theorem walk_le {fuel fuel' : Nat} (more : fuel ≤ fuel') : (p.walk fuel).Le (p.walk fuel') := by
  induction fuel generalizing fuel' with
  | zero => exact ⟨fun _ _ => Gen.exhausted_le _, fun _ _ => Gen.exhausted_le _⟩
  | succ fuel ih =>
    obtain ⟨fuel', rfl⟩ : ∃ f, fuel' = f + 1 := ⟨fuel' - 1, by omega⟩
    have shorter := ih (Nat.le_of_succ_le_succ more)
    exact ⟨p.resolveStep_le shorter, p.followStep_le shorter⟩

/-- A pass that comes to an end does so with more fuel, in the same state. -/
theorem runWith?_mono {fuel fuel' : Nat} (more : fuel ≤ fuel') {s : Pass}
    (ends : p.runWith? fuel = some s) : p.runWith? fuel' = some s := by
  obtain ⟨r, hr, rfl⟩ := Option.map_eq_some_iff.1 ends
  exact Option.map_eq_some_iff.2 ⟨r, p.visitAll_le (p.walk_le more) p.entries _ _ hr, rfl⟩

variable {p}

/-- A program has one finished pass at most, whatever fuel it was found with. -/
theorem Ends.unique {s s' : Pass} (h : p.Ends s) (h' : p.Ends s') : s = s' := by
  obtain ⟨fuel, hs⟩ := h
  obtain ⟨fuel', hs'⟩ := h'
  rcases Nat.le_total fuel fuel' with more | more
  · exact Option.some.inj ((p.runWith?_mono more hs).symm.trans hs')
  · exact Option.some.inj (hs.symm.trans (p.runWith?_mono more hs'))

end Program

end FlowScript
