import FlowScript.Proofs.Identifiers

/-!
# The grounds of what a pass does

A pass changes its state by single deeds, and every deed has its grounds: a problem is recorded only
where it is the case, a call of a module that is being expanded is refused on the spot, and whatever
comes up lies below calls that are expanded.  Passes that need not come to an end consist of such
deeds too, as far as they go.

* `Program.Warrants`: what is the case where a problem is recorded;
* `Program.CallsBack`: a call of a module that is being expanded around it;
* `Program.Deed`: the single deeds of a pass;
* `Program.Acts`: an action consists of deeds; `Program.acts_emit`: so does the text of a node;
* `Program.Unfolds.keeps`: what every deed keeps holds of every pass;
* `Program.Unfolds.warrants`, `Program.Unfolds.messages`: problems and the messages about them.
-/

namespace FlowScript

namespace Program

/-! ### Grounds -/

/-- What is the case where a problem is recorded at an occurrence. -/
def Warrants (p : Program) (a : Address) : Problem → Prop
  | .unknownComponent name => p.lang.kind? name = none
  | .notProcessed => False
  | .inputOutsideModule | .exitOutsideModule => a.path = []
  | .moduleNotLoaded name => p.library.get? name = none
  | .recursiveCall name => p.expanding a.path name = true
  | .unknownType name =>
    (∃ component, p.lang.kind? component = some (.literal name)) ∧ p.lang.types.get? name = none
  | .unknownFunction name =>
    (∃ component sideEffect, p.lang.kind? component = some (.call name sideEffect)) ∧
      p.lang.functions.get? name = none
  | _ => True

/-- A node beside an occurrence calls a module that is being expanded around it. -/
def CallsBack (p : Program) (a : Address) (n : Node) : Prop :=
  p.kind? n = some .moduleCall ∧ (p.library.get? (n.textD moduleKey)).isSome = true ∧
    p.expanding a.path (n.textD moduleKey) = true

instance (p : Program) (a : Address) (n : Node) : Decidable (p.CallsBack a n) :=
  inferInstanceAs (Decidable (_ ∧ _ ∧ _))

/-- An occurrence lies below calls that are expanded, at least where nodes stand under their own
numbers. -/
def Below (p : Program) (a : Address) : Prop := p.Placed → p.OnPath a.path

/-- All of some occurrences lie below calls that are expanded. -/
def AllBelow (p : Program) (uses : List Address) : Prop := ∀ a ∈ uses, p.Below a

/-- The node that an event looks for lies at the other end of a wire. -/
def LeadsTo (p : Program) (e : Event) (a : Address) (n : Node) : Prop :=
  (∃ port w, e = .asked a port ∧ p.feeding? a port = some (w, n)) ∨
    ∃ port w, e = .followed a port ∧ p.fedBy? a port = some (w, n)

/-- The grounds of an event that is no more than noted. -/
def Notes (p : Program) : Event → Prop
  | .asked a port => p.Below a ∧ ∀ w n, p.feeding? a port = some (w, n) → ¬ p.CallsBack a n
  | .followed a port => p.Below a ∧ ∀ w n, p.fedBy? a port = some (w, n) → ¬ p.CallsBack a n
  | .demanded a | .arrived a | .emitted a _ _ => p.Below a
  | .referenced a _ v value => p.Below a ∧ p.Below v.address ∧ p.AllBelow value.uses
  | .wrote _ | .problem _ _ => False

/-- The single deeds of a pass. -/
inductive Deed (p : Program) : Pass → Pass → Prop
  | imports {s : Pass} (names : List String) : Deed p s (s.addImports names)
  | main {s : Pass} (name : String) : Deed p s (s.setMain name)
  | openBlock {s : Pass} (extra : Nat) : Deed p s (s.openBlock extra)
  | closeBlock {s : Pass} (outer : Block) : Deed p s (s.closeBlock outer)
  | process {s : Pass} {a : Address} (below : p.Below a) : Deed p s (s.markProcessed a)
  | require {s : Pass} {a : Address} (below : p.Below a) : Deed p s (s.require a)
  | visit {s : Pass} {a : Address} (below : p.Below a) : Deed p s (s.visit a)
  | start {s : Pass} {a : Address} (below : p.Below a) :
      Deed p s ((s.start a).beginResolving a)
  | stop {s : Pass} (a : Address) : Deed p s (s.endResolving a)
  | keep {s : Pass} {a : Address} (text : String) {uses : List Address} (below : p.Below a)
      (used : p.AllBelow uses) : Deed p s (s.setResult a text uses)
  | note {s : Pass} {e : Event} (grounds : p.Notes e) : Deed p s (s.note e)
  | write {s : Pass} (owner : Option NodeId) (text : String) {role : LineRole}
      {uses : List Address} (declared : ∀ a ∈ role.declared?, p.Below a)
      (used : p.AllBelow uses) : Deed p s (s.write owner text role uses)
  | report {s : Pass} {a : Address} {cause : Problem} (below : p.Below a)
      (warranted : p.Warrants a cause) : Deed p s (s.reportAt p a cause)
  /-- A call of a module that is being expanded is found at the end of a wire, and refused. -/
  | refuse {s : Pass} {e : Event} {a : Address} {n : Node} (below : p.Below a)
      (leads : p.LeadsTo e a n) (back : p.CallsBack a n) :
      Deed p s ((s.note e).reportAt p (a.sibling n.id) (.recursiveCall (n.textD moduleKey)))

variable {p : Program} {s s' : Pass} {a : Address}

theorem Below.root (id : NodeId) : p.Below (.root id) := fun _ => .nil

theorem Below.sibling (h : p.Below a) (id : NodeId) : p.Below (a.sibling id) := h

/-- The call that leads to an occurrence lies below fewer calls. -/
theorem Below.callSite (h : p.Below a) {call : Address} (site : a.callSite? = some call) :
    p.Below call :=
  fun placed => ((h placed).callSite site).1

/-- A call that is entered has its module below it. -/
theorem Below.inside (h : p.Below a) {n : Node} {g : Graph} (node : p.Placed → p.node? a = some n)
    (kind : p.kind? n = some .moduleCall) (callee : p.library.get? (n.textD moduleKey) = some g)
    (fresh : p.expanding a.path (n.textD moduleKey) = false) (id : NodeId) :
    p.Below (a.inside id) :=
  fun placed => (h placed).snoc (node placed) kind callee fresh

theorem allBelow_nil (p : Program) : p.AllBelow [] := nofun

theorem allBelow_append {uses uses' : List Address} :
    p.AllBelow (uses ++ uses') ↔ p.AllBelow uses ∧ p.AllBelow uses' :=
  List.forall_mem_append

theorem AllBelow.addNew {uses : List Address} (h : p.AllBelow uses) (below : p.Below a) :
    p.AllBelow (addNew uses a) := by
  intro b hb
  rcases mem_addNew.1 hb with hb | rfl
  · exact h b hb
  · exact below

/-! ### Actions that consist of deeds -/

/-- The expressions that are kept for values use what lies below calls that are expanded. -/
def Kept (p : Program) (s : Pass) : Prop :=
  ∀ {a e}, s.results.get? a = some e → p.AllBelow e.uses

theorem Deed.kept (h : p.Deed s s') (kept : p.Kept s) : p.Kept s' := by
  cases h with
  | keep text below used =>
    intro b e he
    rw [Pass.setResult, OrderedMap.get?_insert] at he
    split_ifs at he
    · cases he
      exact used
    · exact kept he
  | _ => exact kept

theorem Kept.result (kept : p.Kept s) (below : p.Below a) : p.AllBelow (s.result a).uses := by
  unfold Pass.result
  cases he : s.results.get? a with
  | some e => exact kept he
  | none =>
    intro b hb
    obtain rfl := List.mem_singleton.1 hb
    exact below

theorem Kept.valueOf (kept : p.Kept s) {v : Producer} (below : p.Below v.address) :
    p.AllBelow (p.valueOf s v).uses := by
  unfold Program.valueOf
  split
  · split
    · exact p.allBelow_nil
    · exact kept.result below
  · split
    · exact p.allBelow_nil
    · exact kept.result below
  · exact kept.result below

/-- An action consists of deeds, and its result has a property. -/
def Acts (p : Program) {α : Type} (act : Gen α) (Q : α → Prop) : Prop :=
  ∀ s, p.Kept s → Gen.Sat False act s fun x s' => Relation.ReflTransGen p.Deed s s' ∧ Q x

theorem kept_of_deeds (h : Relation.ReflTransGen p.Deed s s') (kept : p.Kept s) : p.Kept s' := by
  induction h with
  | refl => exact kept
  | tail _ deed ih => exact deed.kept ih

namespace Acts

variable {α β : Type} {Q : α → Prop}

theorem pure {x : α} (h : Q x) : p.Acts (pure x) Q := fun _ _ => ⟨.refl, h⟩

theorem done : p.Acts (Pure.pure ()) fun _ => True := pure trivial

theorem bind {act : Gen α} {f : α → Gen β} {R : β → Prop} (h : p.Acts act Q)
    (hf : ∀ x, Q x → p.Acts (f x) R) : p.Acts (act >>= f) R := by
  intro s kept
  refine (h s kept).bind fun x s' hx => ?_
  refine (hf x hx.2 s' (kept_of_deeds hx.1 kept)).mono fun y s'' hy => ?_
  exact ⟨hx.1.trans hy.1, hy.2⟩

/-- One action after another whose result does not matter. -/
theorem andThen {act : Gen α} {f : α → Gen β} {R : β → Prop} (h : p.Acts act Q)
    (hf : ∀ x, p.Acts (f x) R) : p.Acts (act >>= f) R :=
  h.bind fun x _ => hf x

theorem modify {f : Pass → Pass} (h : ∀ s, p.Deed s (f s)) :
    p.Acts (modify f : Gen PUnit) fun _ => True :=
  fun s _ => ⟨.single (h s), trivial⟩

theorem get : p.Acts get fun _ => True := fun _ _ => ⟨.refl, trivial⟩

theorem inBlock {act : Gen α} (extra : Nat) (h : p.Acts act Q) :
    p.Acts (Gen.inBlock extra act) Q := by
  intro s kept
  have body := h (s.openBlock extra) fun he => kept he
  unfold Gen.inBlock Gen.nested
  refine Gen.Sat.bind (Q := fun r s' => ∃ inner, Relation.ReflTransGen p.Deed (s.openBlock extra)
    inner ∧ Q r.1 ∧ r.2 = inner.block ∧ s' = { inner with block := s.block }) ?_ ?_
  · refine Gen.Sat.bind (Gen.Sat.get (Q := fun x s' => x = s ∧ s' = s) ⟨rfl, rfl⟩) ?_
    rintro _ _ ⟨rfl, rfl⟩
    refine Gen.Sat.bind (Gen.Sat.modify (Q := fun _ s' => s' = _) rfl) ?_
    rintro _ _ rfl
    refine body.bind fun x inner hx => ?_
    exact ⟨inner, hx.1, hx.2, rfl, rfl⟩
  · rintro ⟨x, block⟩ _ ⟨inner, deeds, hx, rfl, rfl⟩
    exact ⟨(deeds.head (.openBlock extra)).tail (.closeBlock s.block), hx⟩

end Acts

/-! ### Text and messages -/

section Text

variable {n : Node}

theorem acts_report (below : p.Below a) (cause : Problem) (warranted : p.Warrants a cause) :
    p.Acts (p.report a cause) fun _ => True :=
  .modify fun _ => .report below warranted

/-- The marker for discarded text declares nothing and uses nothing. -/
theorem Deed.mark (s : Pass) (a : Address) :
    p.Deed s (s.write (some a.rootId) p.settings.discardMarker .marker) :=
  .write _ _ nofun p.allBelow_nil

theorem acts_error (below : p.Below a) (cause : Problem) (warranted : p.Warrants a cause) :
    p.Acts (p.error a cause) fun _ => True := by
  intro s _
  have reported : p.Deed s (s.reportAt p a cause) := .report below warranted
  exact ⟨.tail (.single reported) (.mark _ a), trivial⟩

/-- A text that declares nothing. -/
theorem acts_write (text : String) {role : LineRole} {uses : List Address}
    (plain : role.declared? = none) (used : p.AllBelow uses) :
    p.Acts (Program.write a text role uses) fun _ => True :=
  .modify fun _ => .write _ text (by simp [plain]) used

/-- A text that declares nothing and uses nothing. -/
theorem acts_writePlain (text : String) {role : LineRole} (plain : role.declared? = none) :
    p.Acts (Program.write a text role) fun _ => True :=
  acts_write text plain p.allBelow_nil

/-- A text that declares the value of its occurrence. -/
theorem acts_declare (below : p.Below a) (text : String) {uses : List Address}
    (used : p.AllBelow uses) :
    p.Acts (Program.write a text (.declaration a) uses) fun _ => True := by
  refine .modify fun _ => .write _ text (fun b hb => ?_) used
  cases hb
  exact below

theorem acts_imports (names : List String) :
    p.Acts (modify (·.addImports names) : Gen PUnit) fun _ => True :=
  .modify fun _ => .imports names

theorem acts_fillEmpty : p.Acts (p.fillEmpty a) fun _ => True := by
  refine Acts.get.andThen fun s => ?_
  split_ifs
  · exact acts_writePlain _ rfl
  · exact .done

theorem acts_writeGiven (text : Option String) :
    p.Acts (writeGiven a text) fun _ => True := by
  cases text with
  | none => exact .done
  | some text => exact acts_writePlain text rfl

theorem acts_writeAll (texts : List String) : p.Acts (writeAll a texts) fun _ => True := by
  induction texts with
  | nil => exact .done
  | cons text texts ih => exact (acts_writePlain text rfl).andThen fun _ => ih

theorem acts_emitRecord : p.Acts (p.emitRecord a n) fun _ => True := by
  refine (acts_writePlain _ rfl).andThen fun _ => ?_
  refine Acts.andThen (Q := fun _ => True) (.inBlock 1 ?_) fun _ => acts_writePlain _ rfl
  exact (acts_writeAll _).andThen fun _ => acts_fillEmpty

theorem acts_reference (below : p.Below a) (port : String) {v : Producer}
    (there : p.Below v.address) :
    p.Acts (p.reference a port v) fun value => p.AllBelow value.uses := by
  intro s kept
  have used := kept.valueOf there
  exact ⟨.single (.note ⟨below, there, used⟩), used⟩

theorem acts_recordValue (below : p.Below a) (t : DataType) {value : Fragment}
    (used : p.AllBelow value.uses) (bind : Bool) (readers : Nat) :
    p.Acts (recordValue a t value bind readers) fun _ => True := by
  unfold recordValue
  split_ifs
  · exact .modify fun _ => .keep _ below used
  · exact acts_write _ rfl used
  · exact acts_declare below _ used

theorem acts_emitLiteral (below : p.Below a) {type : String}
    (kind : p.kind? n = some (.literal type)) :
    p.Acts (p.emitLiteral a n type) fun _ => True := by
  unfold emitLiteral
  split
  · rename_i unknown
    exact acts_error below (.unknownType type) ⟨⟨n.component, kind⟩, unknown⟩
  · exact (acts_imports _).andThen fun _ => acts_recordValue below _ p.allBelow_nil _ _

theorem acts_parameter? (below : p.Below a) (i : Nat) :
    p.Acts (p.parameter? a n i) fun _ => True := by
  unfold parameter?
  dsimp only
  cases p.prefill? a i with
  | none =>
    cases n.text? (slotKey "typeName" i) >>= p.lang.types.get? <;> exact .pure trivial
  | some value =>
    dsimp only
    split
    · split
      · exact .pure trivial
      · refine (acts_imports _).andThen fun _ => ?_
        refine (Acts.modify fun _ => .process (below.sibling value.id)).andThen fun _ => ?_
        exact .pure trivial
    · exact (acts_error below (.unsupportedArgument _) trivial).andThen fun _ => .pure trivial

theorem acts_parameters (below : p.Below a) (is : List Nat) :
    p.Acts (p.parameters a n is) fun _ => True := by
  induction is with
  | nil => exact .pure trivial
  | cons i is ih =>
    refine (acts_parameter? below i).andThen fun text => ?_
    cases text with
    | none => exact ih
    | some text => exact ih.andThen fun _ => .pure trivial

end Text

end Program

/-- Asking and following consist of deeds, and a producer that is found lies below calls that are
expanded. -/
structure Walk.Grounded (p : Program) (w : Walk) : Prop where
  resolve : ∀ {a : Address} (port : String), p.Below a →
    p.Acts (w.resolve a port) fun v => ∀ u ∈ v, p.Below u.address
  follow : ∀ {a : Address} (port : String), p.Below a → p.Acts (w.follow a port) fun _ => True

namespace Program

/-! ### The text of a node -/

section Emitting

variable {p : Program} {w : Walk} {a : Address} {n : Node}

theorem acts_demand (hw : w.Grounded p) (below : p.Below a) (port : String) :
    p.Acts (p.demand w a port) fun v => ∀ u ∈ v, p.Below u.address := by
  refine (hw.resolve port below).bind fun v hv => ?_
  cases v with
  | some v => exact .pure hv
  | none => exact (acts_error below .inputExpected trivial).andThen fun _ => .pure (by simp)

theorem acts_valueAt? (hw : w.Grounded p) (below : p.Below a) (port : String) :
    p.Acts (p.valueAt? w a port) fun value => ∀ e ∈ value, p.AllBelow e.uses := by
  refine (hw.resolve port below).bind fun v hv => ?_
  cases v with
  | none => exact .pure (by simp)
  | some v =>
    refine (acts_reference below port (hv v rfl)).bind fun value used => .pure ?_
    rintro e ⟨⟩
    exact used

theorem acts_flowBlock (hw : w.Grounded p) (below : p.Below a) (port : String) :
    p.Acts (p.flowBlock w a port) fun _ => True := by
  refine .inBlock 1 ((hw.follow port below).andThen fun connected => ?_)
  exact acts_fillEmpty.andThen fun _ => .pure trivial

theorem acts_followAll (hw : w.Grounded p) (below : p.Below a) (ports : List String) :
    p.Acts (followAll w a ports) fun _ => True := by
  induction ports with
  | nil => exact .done
  | cons port ports ih => exact (hw.follow port below).andThen fun _ => ih

theorem acts_argument (hw : w.Grounded p) (below : p.Below a) (key : String) (t : DataType) :
    p.Acts (p.argument w a n key t) fun value => p.AllBelow value.uses := by
  have fetched : p.Acts (p.fetch w a key t) fun v => ∀ u ∈ v, p.Below u.address := by
    unfold fetch
    split_ifs
    · exact hw.resolve key below
    · exact acts_demand hw below key
  refine fetched.bind fun v hv => ?_
  cases v with
  | some v => exact acts_reference below key (hv v rfl)
  | none => exact (acts_imports _).andThen fun _ => .pure p.allBelow_nil

theorem acts_arguments (hw : w.Grounded p) (below : p.Below a) (params : List FieldDesc)
    {args : Arguments} (used : p.AllBelow args.uses) :
    p.Acts (p.arguments w a n params args) fun args' => p.AllBelow args'.uses := by
  induction params generalizing args with
  | nil => exact .pure used
  | cons param params ih =>
    unfold arguments
    split
    · exact ih used
    · exact (acts_argument hw below _ _).bind fun value hv => ih (allBelow_append.2 ⟨used, hv⟩)

theorem acts_emitCall (hw : w.Grounded p) (below : p.Below a) {function : String}
    {sideEffect : Bool} (kind : p.kind? n = some (.call function sideEffect)) :
    p.Acts (p.emitCall w a n function sideEffect) fun _ => True := by
  unfold emitCall
  split
  · rename_i unknown
    exact acts_error below (.unknownFunction function) ⟨⟨n.component, sideEffect, kind⟩, unknown⟩
  · refine (acts_arguments hw below _ p.allBelow_nil).bind fun args used => ?_
    refine (acts_imports _).andThen fun _ => (acts_imports _).andThen fun _ => ?_
    exact acts_recordValue below _ used _ _

theorem acts_emitDeclaration (below : p.Below a) :
    p.Acts (p.emitDeclaration a n) fun _ => True :=
  acts_declare below _ p.allBelow_nil

theorem acts_emitBranch (hw : w.Grounded p) (below : p.Below a) :
    p.Acts (p.emitBranch w a) fun _ => True := by
  refine (acts_demand hw below "inValue").bind fun v hv => ?_
  cases v with
  | none => exact .done
  | some v =>
    refine (acts_reference below _ (hv v rfl)).bind fun condition used => ?_
    refine (acts_write _ rfl used).andThen fun _ => ?_
    refine (acts_flowBlock hw below "then").andThen fun connected => ?_
    have other : p.Acts (do
        Program.write a "else" .header
        let _ ← p.flowBlock w a "else") fun _ => True :=
      (acts_writePlain _ rfl).andThen fun _ => (acts_flowBlock hw below _).andThen fun _ => .done
    cases connected with
    | true => exact Acts.done.andThen fun _ => other
    | false => exact (acts_report below .thenExitExpected trivial).andThen fun _ => other

theorem acts_emitWhile (hw : w.Grounded p) (below : p.Below a) :
    p.Acts (p.emitWhile w a) fun _ => True := by
  refine (acts_demand hw below "inValue").bind fun v hv => ?_
  cases v with
  | none => exact .done
  | some v =>
    refine (acts_reference below _ (hv v rfl)).bind fun condition used => ?_
    refine (acts_write _ rfl used).andThen fun _ => ?_
    exact (acts_flowBlock hw below _).andThen fun _ => .done

theorem acts_loopRanges (hw : w.Grounded p) (below : p.Below a) (is : List Nat) :
    p.Acts (p.loopRanges w a is) fun ranges => ∀ r ∈ ranges, p.AllBelow r.2.uses := by
  induction is with
  | nil => exact .pure (by simp)
  | cons i is ih =>
    refine (acts_valueAt? hw below _).bind fun value used => ?_
    cases value with
    | none => exact ih
    | some range =>
      exact ih.bind fun ranges rest => .pure (List.forall_mem_cons.2 ⟨used _ rfl, rest⟩)

theorem acts_emitFor (hw : w.Grounded p) (below : p.Below a) :
    p.Acts (p.emitFor w a n) fun _ => True := by
  refine (acts_loopRanges hw below _).bind fun ranges used => ?_
  split_ifs
  · exact acts_error below .inputExpected trivial
  · have all : p.AllBelow (ranges.flatMap (·.2.uses)) := by
      intro b hb
      obtain ⟨r, hr, hb⟩ := List.mem_flatMap.1 hb
      exact used r hr b hb
    refine (acts_write _ rfl all).andThen fun _ => ?_
    exact (acts_flowBlock hw below _).andThen fun _ => .done

theorem acts_assign {target value : Fragment} (place : String) (targetUsed : p.AllBelow target.uses)
    (used : p.AllBelow value.uses) : p.Acts (assign a target place value) fun _ => True :=
  acts_write _ rfl (allBelow_append.2 ⟨targetUsed, used⟩)

/-- Literals use nothing. -/
theorem allBelow_assignedLiteral? (n : Node) (i : Nat) (title : String) (t : DataType) :
    ∀ e ∈ assignedLiteral? n i title t, p.AllBelow e.uses := by
  intro e he
  obtain ⟨text, -, rfl⟩ := Option.map_eq_some_iff.1 he
  exact p.allBelow_nil

theorem allBelow_changedLiteral? (n : Node) (i : Nat) (title : String) (t : DataType) :
    ∀ e ∈ changedLiteral? n i title t, p.AllBelow e.uses := by
  unfold changedLiteral?
  split_ifs
  · exact nofun
  · exact allBelow_assignedLiteral? n i title t

/-- The value at an input, or else a literal. -/
theorem allBelow_orElse {value literal : Option Fragment} (used : ∀ e ∈ value, p.AllBelow e.uses)
    (literally : ∀ e ∈ literal, p.AllBelow e.uses) :
    ∀ e ∈ value <|> literal, p.AllBelow e.uses := by
  cases value with
  | none => exact literally
  | some value => exact used

theorem acts_assignFields (hw : w.Grounded p) (below : p.Below a) {target : Fragment}
    (targetUsed : p.AllBelow target.uses) (i : Nat) (fields : List FieldDesc) :
    p.Acts (p.assignFields w a n target i fields) fun _ => True := by
  induction fields generalizing i with
  | nil => exact .done
  | cons field fields ih =>
    refine (acts_valueAt? hw below _).bind fun value used => ?_
    refine Acts.andThen (Q := fun _ => True) ?_ fun _ => ih (i + 1)
    unfold assignGiven
    split
    · rename_i given
      refine acts_assign _ targetUsed (allBelow_orElse used ?_ _ given)
      exact allBelow_changedLiteral? n i _ _
    · exact .done

theorem acts_emitAssignment (hw : w.Grounded p) (below : p.Below a) :
    p.Acts (p.emitAssignment w a n) fun _ => True := by
  refine (acts_demand hw below "inVariable").bind fun v hv => ?_
  cases v with
  | none => exact .done
  | some v =>
    refine (acts_reference below _ (hv v rfl)).bind fun target targetUsed => ?_
    dsimp only
    split
    · refine (acts_valueAt? hw below _).bind fun value used => ?_
      split
      · rename_i given
        refine acts_assign _ targetUsed (allBelow_orElse used ?_ _ given)
        exact allBelow_assignedLiteral? n 0 _ _
      · exact acts_error below .inputExpected trivial
    · exact acts_assignFields hw below targetUsed 0 _

theorem acts_emitDefinition (hw : w.Grounded p) (below : p.Below a) :
    p.Acts (p.emitDefinition w a n) fun _ => True := by
  refine (acts_parameters below _).andThen fun params => ?_
  have marked : p.Acts (markMain n (n.nameOr a)) fun _ => True := by
    unfold markMain
    split_ifs
    · exact .modify fun _ => .main _
    · exact .done
  refine marked.andThen fun _ => (acts_writeGiven _).andThen fun _ => ?_
  refine (acts_writePlain _ rfl).andThen fun _ => ?_
  exact (acts_flowBlock hw below _).andThen fun _ => acts_writePlain _ rfl

/-- The text of a node of every kind consists of deeds. -/
theorem acts_emit (hw : w.Grounded p) (below : p.Below a) {kind : Kind}
    (hk : p.kind? n = some kind) : p.Acts (p.emit w a n kind) fun _ => True := by
  cases kind with
  | literal type => exact acts_emitLiteral below hk
  | call function sideEffect => exact acts_emitCall hw below hk
  | topLevelCode =>
    exact (acts_writeGiven _).andThen fun _ => (hw.follow _ below).andThen fun _ => .done
  | code => exact acts_writeGiven _
  | sequence => exact acts_followAll hw below _
  | declaration => exact acts_emitDeclaration below
  | definition => exact acts_emitDefinition hw below
  | record => exact acts_emitRecord
  | branch => exact acts_emitBranch hw below
  | whileLoop => exact acts_emitWhile hw below
  | forLoop => exact acts_emitFor hw below
  | assignment => exact acts_emitAssignment hw below
  | moduleCall | moduleInput | moduleOutput | flowEntry | flowExit => exact .done

end Emitting

/-! ### Going from node to node -/

section Walking

variable {p : Program} {w : Walk} {a : Address} {n : Node}

theorem acts_note (e : Event) (grounds : p.Notes e) :
    p.Acts (modify (·.note e) : Gen PUnit) fun _ => True :=
  .modify fun _ => .note grounds

theorem acts_compileNode (hw : w.Grounded p) (below : p.Below a) (cause : Cause) {kind : Kind}
    (hk : p.kind? n = some kind) : p.Acts (p.compileNode w a cause n kind) fun _ => True := by
  have begun : p.Acts (modify fun s => (s.markProcessed a).note (.emitted a cause s.block.path))
      fun _ => True :=
    fun s _ => ⟨.tail (.single (.process below)) (.note below), trivial⟩
  refine begun.andThen fun _ => (acts_emit hw below hk).andThen fun _ => ?_
  split_ifs
  · exact (hw.follow _ below).andThen fun _ => .done
  · exact .done

theorem acts_visit (hw : w.Grounded p) (below : p.Below a) (cause : Cause) :
    p.Acts (p.visit w a cause) fun _ => True := by
  unfold visit
  split
  · exact .done
  split
  · rename_i unknown
    exact acts_error below (.unknownComponent _) unknown
  rename_i kind hk
  split_ifs
  · refine (acts_note (.arrived a) below).andThen fun _ => Acts.get.andThen fun s => ?_
    split_ifs
    · exact acts_report below .reachedAgain trivial
    · exact (Acts.modify fun _ => .visit below).andThen fun _ => acts_compileNode hw below cause hk
  · exact acts_compileNode hw below cause hk

theorem acts_settle (hw : w.Grounded p) (below : p.Below a) (kind : Kind) :
    p.Acts (p.settle w a kind) fun _ => True := by
  refine (acts_note (.demanded a) below).andThen fun _ => Acts.get.andThen fun s => ?_
  split_ifs
  · exact acts_error below .cyclicValue trivial
  · exact .done
  · refine (Acts.modify fun _ => .start below).andThen fun _ => ?_
    exact (acts_visit hw below .demand).andThen fun _ => .modify fun _ => .stop a
  · exact .done

/-- A call that does not call back is entered where its module is there, and then the inside of the
module lies below it. -/
theorem acts_enter? (below : p.Below a) (node : p.Placed → p.node? a = some n)
    (kind : p.kind? n = some .moduleCall) :
    p.Acts (p.enter? a n) fun g => g.isSome = true → ∀ id, p.Below (a.inside id) := by
  unfold enter?
  dsimp only
  split
  · rename_i missing
    exact (acts_error below (.moduleNotLoaded _) missing).andThen fun _ => .pure (by simp)
  rename_i g callee
  split_ifs with back
  · exact (acts_error below (.recursiveCall _) back).andThen fun _ => .pure (by simp)
  · refine (Acts.modify fun _ => .process below).andThen fun _ => .pure fun _ id => ?_
    exact below.inside node kind callee (Bool.eq_false_iff.2 back) id

theorem acts_resolveFrom (hw : w.Grounded p) (below : p.Below a)
    (node : p.Placed → p.node? a = some n) (port : String) :
    p.Acts (p.resolveFrom w a n port) fun v => ∀ u ∈ v, p.Below u.address := by
  have here : ∀ u ∈ some (⟨a, port⟩ : Producer), p.Below u.address := by
    rintro u ⟨⟩
    exact below
  unfold resolveFrom
  split
  · rename_i unknown
    exact (acts_error below (.unknownComponent _) unknown).andThen fun _ => .pure (by simp)
  · unfold resolveInput
    cases site : a.callSite? with
    | none =>
      have outermost : a.path = [] := by simpa [Address.callSite?] using site
      exact (acts_error below .inputOutsideModule outermost).andThen fun _ => .pure (by simp)
    | some call => exact hw.resolve _ (below.callSite site)
  · rename_i kind
    refine (acts_enter? below node kind).bind fun g inside => ?_
    cases g with
    | none => exact .pure (by simp)
    | some g =>
      dsimp only
      cases g.bridge? ComponentTable.moduleOutputName port with
      | some inner => exact hw.resolve _ (inside rfl inner.id)
      | none =>
        exact (acts_error below (.outputNotFound port) trivial).andThen fun _ => .pure (by simp)
  · cases slotIndex? "out" port with
    | none => exact .pure (by simp)
    | some i => exact .pure here
  · exact hw.resolve _ below
  · refine (acts_settle hw below _).andThen fun _ => ?_
    exact (Acts.modify fun _ => .require below).andThen fun _ => .pure here

theorem acts_followTo (hw : w.Grounded p) (below : p.Below a)
    (node : p.Placed → p.node? a = some n) (port : String) :
    p.Acts (p.followTo w a n port) fun _ => True := by
  unfold followTo
  split
  · unfold followExit
    cases site : a.callSite? with
    | none =>
      have outermost : a.path = [] := by simpa [Address.callSite?] using site
      exact acts_error below .exitOutsideModule outermost
    | some call => exact (hw.follow _ (below.callSite site)).andThen fun _ => .done
  · rename_i kind
    refine (acts_enter? below node kind).bind fun g inside => ?_
    cases g with
    | none => exact .done
    | some g =>
      dsimp only
      cases g.bridge? ComponentTable.flowEntryName port with
      | some inner => exact (hw.follow _ (inside rfl inner.id)).andThen fun _ => .done
      | none => exact acts_error below (.entryNotFound port) trivial
  · exact acts_visit hw below .flow

/-- A call back is refused with an error, and the module is not entered. -/
theorem enter?_of_callsBack (back : p.CallsBack a n) :
    p.enter? (a.sibling n.id) n = do
      p.error (a.sibling n.id) (.recursiveCall (n.textD moduleKey))
      return none := by
  obtain ⟨-, loaded, expanding⟩ := back
  obtain ⟨g, hg⟩ := Option.isSome_iff_exists.1 loaded
  have again : p.expanding (a.sibling n.id).path (n.textD moduleKey) = true := expanding
  simp only [enter?, hg, again, if_true]

/-- Whatever the walk, the search for a value ends at a call back. -/
theorem resolveFrom_of_callsBack (back : p.CallsBack a n) (w : Walk) (port : String) :
    p.resolveFrom w (a.sibling n.id) n port = do
      p.error (a.sibling n.id) (.recursiveCall (n.textD moduleKey))
      return none := by
  simp only [resolveFrom, back.1, resolveOutput, enter?_of_callsBack back, bind_assoc, pure_bind]

/-- Whatever the walk, the flow ends at a call back. -/
theorem followTo_of_callsBack (back : p.CallsBack a n) (w : Walk) (port : String) :
    p.followTo w (a.sibling n.id) n port =
      p.error (a.sibling n.id) (.recursiveCall (n.textD moduleKey)) := by
  simp only [followTo, back.1, followEntry, enter?_of_callsBack back, bind_assoc, pure_bind]
  exact bind_pure_comp ..

/-- An event that leads to a call back, and the error there. -/
theorem acts_refuse (below : p.Below a) {e : Event} (leads : p.LeadsTo e a n)
    (back : p.CallsBack a n) :
    p.Acts (do
      modify (·.note e)
      p.error (a.sibling n.id) (.recursiveCall (n.textD moduleKey))) fun _ => True := by
  intro s _
  have refused : p.Deed s _ := .refuse below leads back
  exact ⟨.tail (.single refused) (.mark _ (a.sibling n.id)), trivial⟩

theorem acts_resolveStep (hw : w.Grounded p) (below : p.Below a) (port : String) :
    p.Acts (p.resolveStep w a port) fun v => ∀ u ∈ v, p.Below u.address := by
  unfold resolveStep
  cases wire : p.feeding? a port with
  | none =>
    exact (acts_note (.asked a port) ⟨below, by simp [wire]⟩).andThen fun _ => .pure (by simp)
  | some x =>
    obtain ⟨c, n⟩ := x
    by_cases back : p.CallsBack a n
    · simp only [resolveFrom_of_callsBack back, ← bind_assoc]
      exact (acts_refuse below (.inl ⟨port, c, rfl, wire⟩) back).andThen fun _ => .pure (by simp)
    · refine (acts_note (.asked a port) ⟨below, ?_⟩).andThen fun _ => ?_
      · rintro c' n' wire'
        rw [wire] at wire'
        cases wire'
        exact back
      · exact acts_resolveFrom hw (below.sibling n.id) (fun placed => placed.node?_feeding wire) _

theorem acts_followStep (hw : w.Grounded p) (below : p.Below a) (port : String) :
    p.Acts (p.followStep w a port) fun _ => True := by
  unfold followStep
  cases wire : p.fedBy? a port with
  | none =>
    exact (acts_note (.followed a port) ⟨below, by simp [wire]⟩).andThen fun _ => .pure trivial
  | some x =>
    obtain ⟨c, n⟩ := x
    by_cases back : p.CallsBack a n
    · simp only [followTo_of_callsBack back, ← bind_assoc]
      exact (acts_refuse below (.inr ⟨port, c, rfl, wire⟩) back).andThen fun _ => .pure trivial
    · refine (acts_note (.followed a port) ⟨below, ?_⟩).andThen fun _ => ?_
      · rintro c' n' wire'
        rw [wire] at wire'
        cases wire'
        exact back
      · have node := fun placed : p.Placed => placed.node?_fedBy wire
        exact (acts_followTo hw (below.sibling n.id) node _).andThen fun _ => .pure trivial

theorem grounded_shallow (p : Program) (depth : Nat) : (p.shallow depth).Grounded p := by
  induction depth with
  | zero => exact ⟨fun _ _ => .pure (by simp), fun _ _ => .pure trivial⟩
  | succ depth ih => exact ⟨fun port below => acts_resolveStep ih below port,
      fun port below => acts_followStep ih below port⟩

theorem acts_visitAll (hw : w.Grounded p) {as : List Address} (below : p.AllBelow as) :
    p.Acts (p.visitAll w as) fun _ => True := by
  induction as with
  | nil => exact .done
  | cons a as ih =>
    obtain ⟨here, rest⟩ := List.forall_mem_cons.1 below
    exact (acts_visit hw here .entry).andThen fun _ => ih rest

theorem allBelow_entries (p : Program) : p.AllBelow p.entries := by
  intro a ha
  obtain ⟨n, -, rfl⟩ := List.mem_map.1 ha
  exact .root n.id

/-- A pass consists of deeds. -/
theorem Unfolds.deeds {s : Pass} (h : p.Unfolds s) : Relation.ReflTransGen p.Deed {} s := by
  obtain ⟨depth, h⟩ := h
  have kept : p.Kept {} := nofun
  exact ((acts_visitAll (p.grounded_shallow depth) p.allBelow_entries {} kept).eq_some h).1

/-- What every deed keeps holds of every pass. -/
theorem Unfolds.keeps {P : Pass → Prop} {s : Pass} (h : p.Unfolds s) (initial : P {})
    (step : ∀ {s s'}, p.Deed s s' → P s → P s') : P s := by
  have deeds := h.deeds
  clear h
  induction deeds with
  | refl => exact initial
  | tail _ deed ih => exact step deed ih

end Walking

end Program

/-! ### Problems and messages -/

theorem Diagnostics.messages_addNode (d : Diagnostics) (id other : NodeId) (message : String) :
    (d.addNode id message).messages other =
      if id = other then d.messages other ++ [message] else d.messages other := by
  unfold messages addNode
  rw [OrderedMap.get?_insert]
  split_ifs with same
  · rw [same]
    rfl
  · rfl

namespace Program

variable {p : Program} {s s' : Pass} {a : Address}

/-- A wire leads from an input that is asked for its value, or from an output that is followed. -/
theorem LeadsTo.ne_problem {e : Event} {n : Node} (h : p.LeadsTo e a n) (b : Address)
    (cause : Problem) : e ≠ .problem b cause := by
  rintro rfl
  rcases h with ⟨port, w, same, -⟩ | ⟨port, w, same, -⟩ <;> cases same

theorem Deed.warrants (h : p.Deed s s') {cause : Problem} (mem : .problem a cause ∈ s'.journal) :
    .problem a cause ∈ s.journal ∨ p.Warrants a cause := by
  cases h with
  | note grounds =>
    rcases List.mem_cons.1 mem with rfl | mem
    · cases grounds
    · exact .inl mem
  | write =>
    rcases Pass.mem_journal_write.1 mem with ⟨l, -, same⟩ | mem
    · cases same
    · exact .inl mem
  | report below warranted =>
    rcases List.mem_cons.1 mem with same | mem
    · cases same
      exact .inr warranted
    · exact .inl mem
  | refuse below leads back =>
    rcases List.mem_cons.1 mem with same | mem
    · cases same
      exact .inr back.2.2
    · rcases List.mem_cons.1 mem with same | mem
      · exact absurd same.symm (leads.ne_problem a cause)
      · exact .inl mem
  | _ => exact .inl mem

/-- A problem is recorded only where it is the case. -/
theorem Unfolds.warrants (h : p.Unfolds s) {cause : Problem}
    (mem : .problem a cause ∈ s.journal) : p.Warrants a cause := by
  refine h.keeps (P := fun s => ∀ a cause, .problem a cause ∈ s.journal → p.Warrants a cause)
    (fun _ _ none => by cases none) (fun deed ih a cause mem => ?_) a cause mem
  rcases deed.warrants mem with mem | warranted
  · exact ih a cause mem
  · exact warranted

/-- The message about a node of the root graph that comes with an event. -/
def messageAt? (p : Program) (id : NodeId) : Event → Option String
  | .problem a cause => if a.rootId = id then some (p.attributed a cause.message) else none
  | _ => none

/-- The messages about a node that a journal tells of, oldest first. -/
def messagesAt (p : Program) (id : NodeId) (journal : List Event) : List String :=
  journal.reverse.filterMap (p.messageAt? id)

theorem messagesAt_cons (p : Program) (id : NodeId) (e : Event) (journal : List Event) :
    p.messagesAt id (e :: journal) = p.messagesAt id journal ++ (p.messageAt? id e).toList := by
  rw [messagesAt, List.reverse_cons, List.filterMap_append]
  cases he : p.messageAt? id e <;> simp [he, messagesAt]

theorem messagesAt_wrote (p : Program) (id : NodeId) (lines : List Line) (journal : List Event) :
    p.messagesAt id (lines.map .wrote ++ journal) = p.messagesAt id journal := by
  induction lines with
  | nil => rfl
  | cons l lines ih =>
    rw [List.map_cons, List.cons_append, messagesAt_cons, ih]
    exact List.append_nil _

/-- A message is added for each problem that is recorded. -/
theorem messages_reportAt {id : NodeId} (b : Address) (cause : Problem)
    (same : s.diagnostics.messages id = p.messagesAt id s.journal) :
    (s.reportAt p b cause).diagnostics.messages id =
      p.messagesAt id (s.reportAt p b cause).journal := by
  have journal : (s.reportAt p b cause).journal = .problem b cause :: s.journal := rfl
  have diagnostics : (s.reportAt p b cause).diagnostics =
      s.diagnostics.addNode b.rootId (p.attributed b cause.message) := rfl
  rw [journal, diagnostics, messagesAt_cons, Diagnostics.messages_addNode, same, messageAt?]
  split_ifs <;> simp

theorem messageAt?_eq_none {e : Event} (other : e.isProblem = false) (id : NodeId) :
    p.messageAt? id e = none := by
  cases e <;> first | rfl | cases other

theorem Deed.messages (h : p.Deed s s') {id : NodeId}
    (same : s.diagnostics.messages id = p.messagesAt id s.journal) :
    s'.diagnostics.messages id = p.messagesAt id s'.journal := by
  have noted : ∀ {e : Event}, e.isProblem = false →
      (s.note e).diagnostics.messages id = p.messagesAt id (s.note e).journal := by
    intro e other
    show s.diagnostics.messages id = p.messagesAt id (e :: s.journal)
    rw [messagesAt_cons, messageAt?_eq_none other, same]
    exact (List.append_nil _).symm
  cases h with
  | @note e grounds =>
    refine noted ?_
    cases e <;> first | rfl | cases grounds
  | write => exact same.trans (p.messagesAt_wrote id _ _).symm
  | report => exact messages_reportAt _ _ same
  | refuse _ leads _ =>
    refine messages_reportAt _ _ (noted ?_)
    rcases leads with ⟨port, w, rfl, -⟩ | ⟨port, w, rfl, -⟩ <;> rfl
  | _ => exact same

/-- The messages of a pass are those about the problems that it recorded, in their order. -/
theorem Unfolds.messages (h : p.Unfolds s) (id : NodeId) :
    s.diagnostics.messages id = p.messagesAt id s.journal :=
  h.keeps (P := fun s => s.diagnostics.messages id = p.messagesAt id s.journal) rfl
    fun deed same => deed.messages same

theorem Unfolds.message_mem (h : p.Unfolds s) {cause : Problem}
    (mem : .problem a cause ∈ s.journal) :
    p.attributed a cause.message ∈ s.diagnostics.messages a.rootId := by
  rw [h.messages, messagesAt]
  exact List.mem_filterMap.2 ⟨_, List.mem_reverse.2 mem, by simp [messageAt?]⟩

end Program

end FlowScript
