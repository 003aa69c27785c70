import FlowScript.Proofs.Declarations
import FlowScript.Proofs.Performing

/-!
# How a pass builds its output

The output of a pass is built of lines, of blocks below the heads of control statements, and of
imports.  `Program.Builds` tells which node puts each of them there and in which block, and it keeps
what was compiled into a block together with its head.

* `Program.Heads`, `Program.Words`: the texts that a node of each kind writes;
* `Program.Uses`: the types and functions that a node of each kind makes use of;
* `Program.Builds`: how the output grows;
* `Walk.Builder`, `Program.builder_walk`: asking and following build, whatever the fuel;
* `Program.gathers_emit`: so does the text of a node of every kind, and what its recorded uses need
  is imported;
* `Program.Ends.builds`: a finished pass has built its output.
-/

namespace FlowScript

/-! ### What nodes write -/

/-- What a block is opened for: what follows a flow output, or the fields of a record. -/
inductive Content
  | flow (port : String)
  | fields

/-- A value is stated as it is, or declared. -/
def Address.States (a : Address) (value text : String) : Prop :=
  text = value ∨ text = "let " ++ a.ident ++ " = " ++ value

namespace Program

/-- The text for an argument: what stands for the value that is found, or the literal in the
data. -/
inductive ArgumentText (p : Program) (a : Address) (n : Node) (param : FieldDesc) : String → Prop
  | value {v : Producer} (found : p.Resolves a param.name (some v)) (text : String) :
      ArgumentText p a n param text
  | literal {t : DataType} (known : p.lang.types.get? param.type = some t)
      (missing : p.Resolves a param.name none) :
      ArgumentText p a n param (t.render (n.textD param.name) [])

/-- The text for a parameter: its identifier, with its type or its default. -/
inductive ParameterText (p : Program) (a : Address) (n : Node) (i : Nat) : String → Prop
  | bare : ParameterText p a n i (a.paramIdent i)
  | typed {t : DataType} (unwired : p.prefill? a i = none)
      (known : n.text? (slotKey "typeName" i) >>= p.lang.types.get? = some t) :
      ParameterText p a n i (a.paramIdent i ++ ": " ++ t.spelling)
  | prefilled {value : Node} {type : String} {t : DataType} (wired : p.prefill? a i = some value)
      (literal : p.kind? value = some (.literal type)) (known : p.lang.types.get? type = some t) :
      ParameterText p a n i (a.paramIdent i ++ " = " ++ t.render (value.textD "value") [])

/-- The type of the target of an assignment. -/
def targetType (p : Program) (n : Node) (v : Producer) : DataType :=
  p.lang.types.getOrAny ((p.node? v.address >>= (·.text? "typeName")) <|> n.text? "typeName")

/-- What is assigned to which part of a target: what stands for the value that is found, or the
literal in the data. -/
inductive AssignedText (p : Program) (a : Address) (n : Node) (v : Producer) :
    String → String → Prop
  | value {i : Nat} {u : Producer} (found : p.Resolves a (slotKey "inValue" i) (some u))
      (place text : String) : AssignedText p a n v place text
  | whole {value : Fragment} (whole : (p.targetType n v).desc.fields = none)
      (missing : p.Resolves a (slotKey "inValue" 0) none)
      (given : assignedLiteral? n 0 "value" (p.targetType n v) = some value) :
      AssignedText p a n v "" value.text
  | field {fields : List FieldDesc} {i : Nat} {field : FieldDesc} {value : Fragment}
      (parts : (p.targetType n v).desc.fields = some fields)
      (lt : i < (n.count? "numArgs").getD 0) (mem : fields[i]? = some field)
      (missing : p.Resolves a (slotKey "inValue" i) none)
      (given : changedLiteral? n i field.name (p.lang.types.getOrAny (some field.type)) =
        some value) :
      AssignedText p a n v ("." ++ field.name) value.text

/-- The texts under which a node of a kind opens blocks. -/
inductive Heads (p : Program) (a : Address) (n : Node) : Kind → Content → String → Prop
  | condition {v : Producer} (found : p.Resolves a "inValue" (some v)) (text : String) :
      Heads p a n .branch (.flow "then") ("if (" ++ text ++ ")")
  | otherwise : Heads p a n .branch (.flow "else") "else"
  | whileLoop {v : Producer} (found : p.Resolves a "inValue" (some v)) (text : String) :
      Heads p a n .whileLoop (.flow "body") ("while (" ++ text ++ ")")
  | forLoop {ranges : List (Nat × Fragment)} (nonempty : ranges ≠ [])
      (each : ∀ r ∈ ranges, ∃ v, p.Resolves a (slotKey "range" r.1) (some v)) :
      Heads p a n .forLoop (.flow "body") ("for " ++ ", ".intercalate
        (ranges.map (a.indexIdent ·.1)) ++ " in " ++ ", ".intercalate (ranges.map (·.2.text)))
  | definition {params : List String}
      (each : ∀ text ∈ params, ∃ i < (n.count? "numArgs").getD 0, p.ParameterText a n i text) :
      Heads p a n .definition (.flow flowOutKey)
        ("def " ++ n.nameOr a ++ "(" ++ "; ".intercalate params ++ ")")
  | record : Heads p a n .record .fields ("struct " ++ n.nameOr a)

/-- The other texts that a node of a kind writes. -/
inductive Words (p : Program) (a : Address) (n : Node) : Kind → String → Prop
  | literal {type : String} {t : DataType} {text : String}
      (known : p.lang.types.get? type = some t)
      (states : a.States (t.render (n.textD "value") []) text) : Words p a n (.literal type) text
  | call {function : String} {sideEffect : Bool} {f : FunctionDesc} {text : String}
      {args : OrderedMap String String} (known : p.lang.functions.get? function = some f)
      (each : ∀ name text, args.get? name = some text →
        ∃ param ∈ f.params, param.name = name ∧ p.ArgumentText a n param text)
      (states : a.States (f.render args) text) : Words p a n (.call function sideEffect) text
  | code {kind : Kind} {text : String} (kind_eq : kind = .code ∨ kind = .topLevelCode)
      (given : n.filledText? "code" = some text) : Words p a n kind text
  | declaration : Words p a n .declaration
      ("var " ++ a.ident ++ ": " ++ (p.lang.types.getOrAny (n.text? "typeName")).spelling)
  | assignment {v : Producer} {place value : String}
      (found : p.Resolves a "inVariable" (some v)) (assigned : p.AssignedText a n v place value)
      (target : String) : Words p a n .assignment (target ++ place ++ " = " ++ value)
  | annotated {text : String} (given : n.filledText? "annotation" = some text) :
      Words p a n .definition ("[" ++ text ++ "]")
  | field {text : String} (mem : text ∈ p.fieldLines n) : Words p a n .record text
  | blank {kind : Kind} (kind_eq : kind = .definition ∨ kind = .record) : Words p a n kind ""

/-- How a node makes use of a type or a function. -/
inductive Use
  /-- The value of a literal. -/
  | literal
  /-- The literal for an argument without a value. -/
  | argument
  /-- The function of a call. -/
  | function
  /-- The type of the value of a call. -/
  | result
  /-- The literal that is the default of a parameter. -/
  | prefill
  /-- The type of a parameter. -/
  | parameter
  /-- The type of a variable. -/
  | declaration
  /-- The type of a field of a record, and its default. -/
  | field
  /-- The literal that is assigned. -/
  | assignment
  deriving DecidableEq

/-- Whether what is needed for a use is recorded. -/
def Use.recorded : Use → Bool
  | .parameter | .declaration | .field | .assignment => false
  | _ => true

/-- The uses that an occurrence of a node of a kind makes of types and functions, with the names
that each of them asks to import. -/
inductive Uses (p : Program) (a : Address) (n : Node) : Kind → Use → List String → Prop
  | literal {type : String} {t : DataType} (known : p.lang.types.get? type = some t) :
      Uses p a n (.literal type) .literal t.desc.requirements
  | argument {function : String} {sideEffect : Bool} {f : FunctionDesc} {param : FieldDesc}
      {t : DataType} (called : p.lang.functions.get? function = some f) (mem : param ∈ f.params)
      (known : p.lang.types.get? param.type = some t) (missing : p.Resolves a param.name none) :
      Uses p a n (.call function sideEffect) .argument t.desc.requirements
  | function {function : String} {sideEffect : Bool} {f : FunctionDesc}
      (called : p.lang.functions.get? function = some f) :
      Uses p a n (.call function sideEffect) .function f.requirements
  | result {function : String} {sideEffect : Bool} {f : FunctionDesc}
      (called : p.lang.functions.get? function = some f) :
      Uses p a n (.call function sideEffect) .result
        (p.lang.types.getOrAny (some f.result)).desc.requirements
  | prefill {i : Nat} {value : Node} {type : String} {t : DataType}
      (lt : i < (n.count? "numArgs").getD 0) (wired : p.prefill? a i = some value)
      (literal : p.kind? value = some (.literal type)) (known : p.lang.types.get? type = some t) :
      Uses p a n .definition .prefill t.desc.requirements
  | parameter {i : Nat} {t : DataType} (lt : i < (n.count? "numArgs").getD 0)
      (unwired : p.prefill? a i = none)
      (known : n.text? (slotKey "typeName" i) >>= p.lang.types.get? = some t) :
      Uses p a n .definition .parameter t.desc.requirements
  | declaration : Uses p a n .declaration .declaration
      (p.lang.types.getOrAny (n.text? "typeName")).desc.requirements
  | field {i : Nat} {field : Json} {name : String} {t : DataType}
      (lt : i < (n.count? "numArgs").getD 0)
      (given : n.data.get? (slotKey "valueArg" i) = some field)
      (named : memberText? field "valueName" = some name)
      (known : memberText? field "valueType" >>= p.lang.types.get? = some t) :
      Uses p a n .record .field t.desc.requirements
  | single {v : Producer} {value : Fragment} (target : p.Resolves a "inVariable" (some v))
      (whole : (p.targetType n v).desc.fields = none)
      (missing : p.Resolves a (slotKey "inValue" 0) none)
      (given : assignedLiteral? n 0 "value" (p.targetType n v) = some value) :
      Uses p a n .assignment .assignment (p.targetType n v).desc.requirements
  | fields {v : Producer} {fields : List FieldDesc} {i : Nat} {field : FieldDesc}
      {value : Fragment} (target : p.Resolves a "inVariable" (some v))
      (parts : (p.targetType n v).desc.fields = some fields)
      (lt : i < (n.count? "numArgs").getD 0) (mem : fields[i]? = some field)
      (missing : p.Resolves a (slotKey "inValue" i) none)
      (given : changedLiteral? n i field.name (p.lang.types.getOrAny (some field.type)) =
        some value) :
      Uses p a n .assignment .assignment
        (p.lang.types.getOrAny (some field.type)).desc.requirements

/-- What is needed for the recorded uses of an occurrence. -/
def Needed (p : Program) (a : Address) (n : Node) (kind : Kind) (names : List String) : Prop :=
  ∃ use, p.Uses a n kind use names ∧ use.recorded = true

/-- What is needed for an argument, if a literal stands for it. -/
def NeededArgument (p : Program) (a : Address) (param : FieldDesc) (names : List String) : Prop :=
  ∃ t, p.lang.types.get? param.type = some t ∧ p.Resolves a param.name none ∧
    names = t.desc.requirements

/-- What is needed for a parameter, if a literal is its default. -/
def NeededDefault (p : Program) (a : Address) (i : Nat) (names : List String) : Prop :=
  ∃ value type t, p.prefill? a i = some value ∧ p.kind? value = some (.literal type) ∧
    p.lang.types.get? type = some t ∧ names = t.desc.requirements

end Program

/-! ### How the output grows -/

/-- Whether an event tells of an occurrence that is compiled. -/
def Event.isEmission : Event → Bool
  | .emitted _ _ _ => true
  | _ => false

namespace Pass

/-- A change that leaves the output as it is. -/
structure Silent (s s' : Pass) : Prop where
  block : s'.block = s.block
  opened : s'.opened = s.opened
  imports : s'.imports = s.imports
  journal : s.journal <:+ s'.journal
  emitted : ∀ {e : Event}, e.isEmission = true → e ∈ s'.journal → e ∈ s.journal

/-- Begin to compile an occurrence that has been reached. -/
def beginText (s : Pass) (a : Address) (cause : Cause) : Pass :=
  (s.markProcessed a).note (.emitted a cause s.block.path)

/-- Write the head of a block and open it. -/
def openUnder (s : Pass) (a : Address) (head : Fragment) : Pass :=
  (s.write (some a.rootId) head.text .header head.uses).openBlock 1

/-- Fill an open block that has no lines, and append it to its head. -/
def closeUnder (s : Pass) (p : Program) (a : Address) (head : Fragment) (outer : Pass) : Pass :=
  let filled := if s.block.lines.isEmpty then
      s.write (some a.rootId) p.settings.placeholder .placeholder
    else s
  filled.closeBlock (outer.write (some a.rootId) head.text .header head.uses).block

end Pass

namespace Program

/-- An occurrence has been begun on in a block. -/
structure Compiles (p : Program) (a : Address) (n : Node) (kind : Kind) (block : List Nat)
    (journal : List Event) : Prop where
  node : p.node? a = some n
  kindOf : p.kind? n = some kind
  emitted : ∃ cause, .emitted a cause block ∈ journal

/-- What is compiled into a block. -/
inductive Fills (p : Program) (a : Address) (n : Node) : Content → Pass → Pass → Prop
  | flow {fuel : Nat} {port : String} {connected : Bool} {s s' : Pass}
      (run : (p.walk fuel).follow a port s = some (connected, s')) : Fills p a n (.flow port) s s'
  | fields {s s' : Pass} (run : writeAll a (p.fieldLines n) s = some ((), s')) :
      Fills p a n .fields s s'

/-- How the output of a pass grows. -/
inductive Builds (p : Program) : Pass → Pass → Prop
  | silent {s s' : Pass} (same : s.Silent s') : Builds p s s'
  | trans {s₁ s₂ s₃ : Pass} (first : Builds p s₁ s₂) (second : Builds p s₂ s₃) : Builds p s₁ s₃
  | marker {s : Pass} (a : Address) :
      Builds p s (s.write (some a.rootId) p.settings.discardMarker .marker)
  | write {s : Pass} {a : Address} {n : Node} {kind : Kind} {block : List Nat} {text : String}
      {role : LineRole} {uses : List Address} (here : p.Compiles a n kind block s.journal)
      (within : block <:+ s.block.path) (words : p.Words a n kind text) (plain : role ≠ .header) :
      Builds p s (s.write (some a.rootId) text role uses)
  | imports {s : Pass} {a : Address} {n : Node} {kind : Kind} {block : List Nat} {use : Use}
      {names : List String} (here : p.Compiles a n kind block s.journal)
      (uses : p.Uses a n kind use names) (recorded : use.recorded = true) :
      Builds p s (s.addImports names)
  | block {s s' : Pass} {a : Address} {n : Node} {kind : Kind} {content : Content}
      {head : Fragment} (here : p.Compiles a n kind s.block.path s.journal)
      (heads : p.Heads a n kind content head.text)
      (fills : p.Fills a n content (s.openUnder a head) s')
      (inner : Builds p (s.openUnder a head) s') : Builds p s (s'.closeUnder p a head s)
  | compile {s s₁ s' : Pass} {a : Address} {n : Node} {kind : Kind} {cause : Cause} {fuel : Nat}
      (node : p.node? a = some n) (kindOf : p.kind? n = some kind)
      (run : p.emit (p.walk fuel) a n kind (s.beginText a cause) = some ((), s₁))
      (own : Builds p (s.beginText a cause) s₁) (after : Builds p s₁ s') : Builds p s s'

end Program

namespace Pass

theorem journal_suffix_write {s : Pass} {owner : Option NodeId} {text : String} {role : LineRole}
    {uses : List Address} : s.journal <:+ (s.write owner text role uses).journal :=
  List.suffix_append ..

theorem journal_suffix_closeUnder {s outer : Pass} {p : Program} {a : Address} {head : Fragment} :
    s.journal <:+ (s.closeUnder p a head outer).journal := by
  unfold closeUnder
  dsimp only [closeBlock]
  split_ifs
  · exact journal_suffix_write
  · exact List.suffix_refl _

theorem imports_closeUnder {s outer : Pass} {p : Program} {a : Address} {head : Fragment} :
    (s.closeUnder p a head outer).imports = s.imports := by
  unfold closeUnder
  dsimp only [closeBlock]
  split_ifs <;> rfl

namespace Silent

variable {s s' : Pass}

/-- Marks and messages are not part of the output. -/
theorem of_eq (block : s'.block = s.block) (opened : s'.opened = s.opened)
    (imports : s'.imports = s.imports) (journal : s'.journal = s.journal) : s.Silent s' where
  block := block
  opened := opened
  imports := imports
  journal := journal ▸ List.suffix_refl _
  emitted _ mem := journal ▸ mem

theorem refl (s : Pass) : s.Silent s := of_eq rfl rfl rfl rfl

theorem note (s : Pass) {e : Event} (other : e.isEmission = false) : s.Silent (s.note e) where
  block := rfl
  opened := rfl
  imports := rfl
  journal := List.suffix_cons ..
  emitted emission mem := by
    refine (List.mem_cons.1 mem).resolve_left ?_
    rintro rfl
    rw [emission] at other
    cases other

end Silent

end Pass

namespace Program

variable {p : Program} {a : Address} {n : Node} {kind : Kind} {s s' : Pass}

/-- The open block stays the same, and the journal grows. -/
theorem Builds.frame (h : p.Builds s s') : s'.block.depth = s.block.depth ∧
    s'.block.path = s.block.path ∧ s.journal <:+ s'.journal := by
  induction h with
  | silent same => exact ⟨by rw [same.block], by rw [same.block], same.journal⟩
  | trans _ _ ih ih' =>
    exact ⟨ih'.1.trans ih.1, ih'.2.1.trans ih.2.1, ih.2.2.trans ih'.2.2⟩
  | marker | write => exact ⟨rfl, rfl, Pass.journal_suffix_write⟩
  | imports => exact ⟨rfl, rfl, List.suffix_refl _⟩
  | block _ _ _ _ ih =>
    have opened := Pass.journal_suffix_write.trans ih.2.2
    exact ⟨rfl, rfl, opened.trans Pass.journal_suffix_closeUnder⟩
  | compile _ _ _ _ _ ih ih' =>
    have begun := (List.suffix_cons ..).trans ih.2.2
    exact ⟨ih'.1.trans ih.1, ih'.2.1.trans ih.2.1, begun.trans ih'.2.2⟩

theorem Builds.refl : p.Builds s s := .silent (.refl s)

/-- Imports are added only. -/
theorem Builds.imports_subset (h : p.Builds s s') : s.imports ⊆ s'.imports := by
  induction h with
  | silent same =>
    rw [same.imports]
    exact List.Subset.refl _
  | trans _ _ ih ih' | compile _ _ _ _ _ ih ih' => exact List.Subset.trans ih ih'
  | marker | write => exact List.Subset.refl _
  | imports => exact fun name mem => mem_foldl_addNew.2 (.inl mem)
  | block _ _ _ _ ih =>
    rw [Pass.imports_closeUnder]
    exact ih

theorem Compiles.mono {block : List Nat} {journal journal' : List Event}
    (h : p.Compiles a n kind block journal) (later : journal <:+ journal') :
    p.Compiles a n kind block journal' :=
  { h with
    emitted := by
      obtain ⟨cause, mem⟩ := h.emitted
      exact ⟨cause, later.subset mem⟩ }

theorem Compiles.later (h : p.Compiles a n kind s.block.path s.journal) (builds : p.Builds s s') :
    p.Compiles a n kind s'.block.path s'.journal := by
  rw [builds.frame.2.1]
  exact h.mono builds.frame.2.2

end Program

/-! ### Actions that build -/

theorem Gen.Sat.self {α : Type} (act : Gen α) (s : Pass) :
    Gen.Sat False act s fun x s' => act s = some (x, s') := by
  unfold Gen.Sat
  cases act s with
  | none => exact id
  | some r => rfl

/-- What an action does in a block of its own. -/
theorem Gen.Sat.inBlock {α : Type} {act : Gen α} {s : Pass} {Q : α → Pass → Prop} (extra : Nat)
    (h : Gen.Sat False act (s.openBlock extra) Q) :
    Gen.Sat False (Gen.inBlock extra act) s
      fun x s' => ∃ inner, Q x inner ∧ s' = inner.closeBlock s.block := by
  unfold Gen.inBlock Gen.nested
  refine Gen.Sat.bind (Q := fun r s' => ∃ inner, Q r.1 inner ∧ r.2 = inner.block ∧
    s' = { inner with block := s.block }) ?_ ?_
  · refine Gen.Sat.bind (Gen.Sat.get (Q := fun x s' => x = s ∧ s' = s) ⟨rfl, rfl⟩) ?_
    rintro _ _ ⟨rfl, rfl⟩
    refine Gen.Sat.bind (Gen.Sat.modify (Q := fun _ s' => s' = _) rfl) ?_
    rintro _ _ rfl
    exact h.bind fun x inner hx => ⟨inner, hx, rfl, rfl⟩
  · rintro ⟨x, block⟩ _ ⟨inner, hx, rfl, rfl⟩
    exact ⟨inner, hx, rfl⟩

namespace Gen

variable {α β : Type} {act : Gen α} {f : α → Gen β} {Q : α → Prop} {R : β → Prop}

/-- What holds of the result of an action, from every state. -/
def Yields (act : Gen α) (Q : α → Prop) : Prop := ∀ s, Sat False act s fun x _ => Q x

theorem Yields.of_forall (h : ∀ x, Q x) : act.Yields Q :=
  fun s => (Sat.self act s).mono fun x _ _ => h x

theorem Yields.pure {x : α} (h : Q x) : Yields (pure x : Gen α) Q := fun _ => h

theorem Yields.bind (h : act.Yields Q) (hf : ∀ x, Q x → (f x).Yields R) :
    Yields (act >>= f) R :=
  fun s => (h s).bind fun x s₁ hx => hf x hx s₁

/-- The result of the first action says nothing. -/
theorem Yields.andThen (hf : ∀ x, (f x).Yields R) : Yields (act >>= f) R :=
  (of_forall (Q := fun _ => True) fun _ => trivial).bind fun x _ => hf x

end Gen

namespace Program

/-- An action builds from every state. -/
def BuildsBy {α : Type} (p : Program) (act : Gen α) : Prop :=
  ∀ s, Gen.Sat False act s fun _ s' => p.Builds s s'

/-- An action builds while an occurrence is compiled. -/
def BuildsAt {α : Type} (p : Program) (a : Address) (n : Node) (kind : Kind) (act : Gen α) :
    Prop :=
  ∀ s, p.Compiles a n kind s.block.path s.journal → Gen.Sat False act s fun _ s' => p.Builds s s'

/-- An action builds while an occurrence is compiled, and records some lists of names. -/
def Gathers {α : Type} (p : Program) (a : Address) (n : Node) (kind : Kind) (act : Gen α)
    (R : List String → Prop) : Prop :=
  ∀ s, p.Compiles a n kind s.block.path s.journal → Gen.Sat False act s fun _ s' =>
    p.Builds s s' ∧ ∀ names, R names → names ⊆ s'.imports

/-- An action finds what the search in the graphs finds. -/
def Finds (p : Program) (a : Address) (port : String) (act : Gen (Option Producer)) : Prop :=
  ∀ s, Gen.Sat False act s fun v s' => p.Builds s s' ∧ p.Resolves a port v

end Program

/-- A walk of the program builds wherever it asks and follows. -/
structure Walk.Builder (p : Program) (w : Walk) : Prop where
  fueled : ∃ fuel, w = p.walk fuel
  resolve : ∀ a port, p.Finds a port (w.resolve a port)
  follow : ∀ a port, p.BuildsBy (w.follow a port)

namespace Program

section Actions

variable {p : Program} {a : Address} {n : Node} {kind : Kind} {α β : Type} {act : Gen α}
  {f : α → Gen β} {R R' : List String → Prop}

theorem BuildsBy.pure {x : α} : p.BuildsBy (pure x : Gen α) := fun _ => .refl

theorem BuildsBy.bind (h : p.BuildsBy act) (hf : ∀ x, p.BuildsBy (f x)) :
    p.BuildsBy (act >>= f) := by
  intro s
  refine (h s).bind fun x s₁ first => ?_
  exact (hf x s₁).mono fun _ s₂ second => first.trans second

theorem BuildsBy.modify {f : Pass → Pass} (h : ∀ s : Pass, s.Silent (f s)) :
    p.BuildsBy (modify f : Gen PUnit) :=
  fun s => .silent (h s)

theorem BuildsBy.at (h : p.BuildsBy act) : p.BuildsAt a n kind act := fun s _ => h s

theorem BuildsAt.gathers (h : p.BuildsAt a n kind act) (nothing : ∀ names, ¬ R names) :
    p.Gathers a n kind act R :=
  fun s here => (h s here).mono fun _ _ built =>
    ⟨built, fun names needed => absurd needed (nothing names)⟩

theorem Gathers.builds (h : p.Gathers a n kind act R) : p.BuildsAt a n kind act :=
  fun s here => (h s here).mono fun _ _ hs => hs.1

theorem Gathers.mono (h : p.Gathers a n kind act R) (fewer : ∀ names, R' names → R names) :
    p.Gathers a n kind act R' :=
  fun s here => (h s here).mono fun _ _ hs =>
    ⟨hs.1, fun names needed => hs.2 names (fewer names needed)⟩

/-- Two actions record what both record.  What comes second may depend on what holds of the result
of the first. -/
theorem Gathers.bindYield {Q : α → Prop} (h : p.Gathers a n kind act R) (yields : act.Yields Q)
    (hf : ∀ x, Q x → p.Gathers a n kind (f x) R') :
    p.Gathers a n kind (act >>= f) fun names => R names ∨ R' names := by
  intro s here
  refine ((h s here).and (yields s)).bind fun x s₁ first => ?_
  obtain ⟨⟨built, gathered⟩, hx⟩ := first
  refine (hf x hx s₁ (here.later built)).mono fun _ s₂ second => ?_
  refine ⟨built.trans second.1, fun names needed => ?_⟩
  rcases needed with needed | needed
  · exact List.Subset.trans (gathered names needed) second.1.imports_subset
  · exact second.2 names needed

theorem Gathers.bind (h : p.Gathers a n kind act R) (hf : ∀ x, p.Gathers a n kind (f x) R') :
    p.Gathers a n kind (act >>= f) fun names => R names ∨ R' names :=
  h.bindYield (Gen.Yields.of_forall (Q := fun _ => True) fun _ => trivial) fun x _ => hf x

/-- What comes after an action that records. -/
theorem Gathers.andThen (h : p.Gathers a n kind act R) (hf : ∀ x, p.BuildsAt a n kind (f x)) :
    p.Gathers a n kind (act >>= f) R := by
  have nothing : ∀ x, p.Gathers a n kind (f x) fun _ => False :=
    fun x => (hf x).gathers fun _ => id
  exact (h.bind nothing).mono fun _ needed => .inl needed

theorem BuildsAt.bindYield {Q : α → Prop} (h : p.BuildsAt a n kind act) (yields : act.Yields Q)
    (hf : ∀ x, Q x → p.BuildsAt a n kind (f x)) : p.BuildsAt a n kind (act >>= f) := by
  have first : p.Gathers a n kind act fun _ => False := h.gathers fun _ => id
  have second : ∀ x, Q x → p.Gathers a n kind (f x) fun _ => False :=
    fun x hx => (hf x hx).gathers fun _ => id
  exact (first.bindYield yields second).builds

theorem BuildsAt.bind (h : p.BuildsAt a n kind act) (hf : ∀ x, p.BuildsAt a n kind (f x)) :
    p.BuildsAt a n kind (act >>= f) :=
  h.bindYield (Gen.Yields.of_forall (Q := fun _ => True) fun _ => trivial) fun x _ => hf x

variable {port : String} {look : Gen (Option Producer)} {g : Option Producer → Gen β}

theorem Finds.yields (h : p.Finds a port look) : look.Yields (p.Resolves a port) :=
  fun s => (h s).mono fun _ _ hs => hs.2

theorem Finds.builds (h : p.Finds a port look) : p.BuildsBy look :=
  fun s => (h s).mono fun _ _ hs => hs.1

theorem Finds.bind (h : p.Finds a port look)
    (hf : ∀ v, p.Resolves a port v → p.BuildsAt a n kind (g v)) :
    p.BuildsAt a n kind (look >>= g) :=
  h.builds.at.bindYield h.yields hf

theorem Finds.gathers (h : p.Finds a port look)
    (hf : ∀ v, p.Resolves a port v → p.Gathers a n kind (g v) R) :
    p.Gathers a n kind (look >>= g) R := by
  have nothing : p.Gathers a n kind look fun _ => False := h.builds.at.gathers fun _ => id
  exact (nothing.bindYield h.yields hf).mono fun _ needed => .inr needed

end Actions

section Emitting

variable {p : Program} {w : Walk} {a : Address} {n : Node} {kind : Kind}

theorem buildsBy_report (a : Address) (cause : Problem) : p.BuildsBy (p.report a cause) := by
  intro s
  have noted : p.Builds s (s.note (.problem a cause)) := .silent (.note s rfl)
  exact noted.trans (.silent (.of_eq rfl rfl rfl rfl))

theorem buildsBy_error (a : Address) (cause : Problem) : p.BuildsBy (p.error a cause) := by
  intro s
  have noted : p.Builds s (s.note (.problem a cause)) := .silent (.note s rfl)
  have marked := noted.trans (.marker a)
  exact marked.trans (.silent (.of_eq rfl rfl rfl rfl))

theorem buildsBy_reference (port : String) (v : Producer) : p.BuildsBy (p.reference a port v) :=
  fun s => .silent (.note s rfl)

theorem buildsAt_write {text : String} {role : LineRole} {uses : List Address}
    (words : p.Words a n kind text) (plain : role ≠ .header) :
    p.BuildsAt a n kind (Program.write a text role uses) :=
  fun _ here => .write here (List.suffix_refl _) words plain

theorem gathers_imports {use : Use} {names : List String} (uses : p.Uses a n kind use names)
    (recorded : use.recorded = true) :
    p.Gathers a n kind (modify (·.addImports names) : Gen PUnit) (· = names) := by
  refine fun s here => ⟨.imports here uses recorded, ?_⟩
  rintro _ rfl
  exact fun name mem => mem_foldl_addNew.2 (.inr mem)

theorem finds_demand (hw : w.Builder p) (port : String) : p.Finds a port (p.demand w a port) := by
  intro s
  refine (hw.resolve a port s).bind fun v s₁ hv => ?_
  cases v with
  | some v => exact hv
  | none =>
    refine (buildsBy_error a .inputExpected s₁).bind fun _ s₂ marked => ?_
    exact ⟨hv.1.trans marked, hv.2⟩

theorem buildsBy_valueAt? (hw : w.Builder p) (port : String) :
    p.BuildsBy (p.valueAt? w a port) := by
  refine (hw.resolve a port).builds.bind fun v => ?_
  cases v with
  | none => exact .pure
  | some v => exact (buildsBy_reference port v).bind fun _ => .pure

theorem yields_valueAt? (hw : w.Builder p) (port : String) :
    (p.valueAt? w a port).Yields fun value =>
      value.elim (p.Resolves a port none) fun _ => ∃ v, p.Resolves a port (some v) := by
  refine (hw.resolve a port).yields.bind fun v resolves => ?_
  cases v with
  | none => exact .pure resolves
  | some v => exact .andThen fun value => .pure ⟨v, resolves⟩

theorem buildsAt_writeGiven {text : Option String}
    (words : ∀ t, text = some t → p.Words a n kind t) :
    p.BuildsAt a n kind (writeGiven a text) := by
  cases text with
  | none => exact BuildsBy.pure.at
  | some text => exact buildsAt_write (words text rfl) (by simp)

/-! ### Blocks -/

/-- A block is filled where it would be empty. -/
theorem sat_fillEmpty (s outer : Pass) (head : Fragment) :
    Gen.Sat False (p.fillEmpty a) s fun _ s' =>
      s'.closeBlock (outer.write (some a.rootId) head.text .header head.uses).block =
        s.closeUnder p a head outer := by
  unfold fillEmpty
  refine Gen.Sat.bind (Gen.Sat.get (Q := fun x s' => x = s ∧ s' = s) ⟨rfl, rfl⟩) ?_
  rintro _ _ ⟨rfl, rfl⟩
  unfold Pass.closeUnder
  split_ifs <;> rfl

/-- A head is written, and what follows a flow output is compiled below it. -/
theorem buildsAt_flowBlock {β : Type} {f : Bool → Gen β} {port : String} (hw : w.Builder p)
    (head : Fragment) (heads : p.Heads a n kind (.flow port) head.text)
    (hf : ∀ connected, p.BuildsAt a n kind (f connected)) :
    p.BuildsAt a n kind (do
      Program.write a head.text .header head.uses
      let connected ← p.flowBlock w a port
      f connected) := by
  obtain ⟨fuel, rfl⟩ := hw.fueled
  intro s here
  refine Gen.Sat.bind (Gen.Sat.modify (Q := fun _ s' =>
    s' = s.write (some a.rootId) head.text .header head.uses) rfl) ?_
  rintro _ _ rfl
  refine Gen.Sat.bind (Gen.Sat.inBlock 1 (Q := fun _ inner =>
    p.Builds s (inner.closeBlock (s.write (some a.rootId) head.text .header head.uses).block))
    ?inner) ?rest
  case inner =>
    refine ((hw.follow a port _).and (Gen.Sat.self _ _)).bind fun connected s₁ followed => ?_
    have block : p.Builds s (s₁.closeUnder p a head s) :=
      .block here heads (.flow followed.2) followed.1
    refine (sat_fillEmpty s₁ s head).bind fun _ s₂ closed => ?_
    show p.Builds s _
    rw [closed]
    exact block
  case rest =>
    rintro connected _ ⟨inner, block, rfl⟩
    exact (hf connected _ (here.later block)).mono fun _ s₂ rest => block.trans rest

theorem buildsAt_writeAll {texts : List String} {block : List Nat}
    (words : ∀ text ∈ texts, p.Words a n kind text) (s : Pass)
    (here : p.Compiles a n kind block s.journal) (within : block <:+ s.block.path) :
    Gen.Sat False (writeAll a texts) s fun _ s' => p.Builds s s' := by
  induction texts generalizing s with
  | nil => exact .refl
  | cons text texts ih =>
    have first : p.Builds s (s.write (some a.rootId) text) :=
      .write here within (words text (List.mem_cons_self ..)) (by simp)
    refine Gen.Sat.bind (Gen.Sat.modify (Q := fun _ s' => s' = s.write (some a.rootId) text) rfl) ?_
    rintro _ _ rfl
    refine (ih (fun t mem => words t (List.mem_cons_of_mem _ mem)) _
      (here.mono Pass.journal_suffix_write) within).mono fun _ s₂ rest => ?_
    exact first.trans rest

theorem buildsAt_emitRecord : p.BuildsAt a n .record (p.emitRecord a n) := by
  intro s here
  refine Gen.Sat.bind (Gen.Sat.modify (Q := fun _ s' =>
    s' = s.write (some a.rootId) ("struct " ++ n.nameOr a) .header []) rfl) ?_
  rintro _ _ rfl
  let head : Fragment := ⟨"struct " ++ n.nameOr a, []⟩
  refine Gen.Sat.bind (Gen.Sat.inBlock 1 (Q := fun _ inner =>
    p.Builds s (inner.closeBlock (s.write (some a.rootId) head.text .header head.uses).block))
    ?inner) ?rest
  case inner =>
    have opened : p.Compiles a n .record s.block.path (s.openUnder a head).journal :=
      here.mono Pass.journal_suffix_write
    have words : ∀ text ∈ p.fieldLines n, p.Words a n .record text := fun _ mem => .field mem
    have all := buildsAt_writeAll words (s.openUnder a head) opened (List.suffix_cons ..)
    refine (all.and (Gen.Sat.self _ _)).bind fun _ s₁ written => ?_
    have block : p.Builds s (s₁.closeUnder p a head s) :=
      .block here .record (.fields written.2) written.1
    exact (sat_fillEmpty s₁ s head).mono fun _ s₂ closed => closed ▸ block
  case rest =>
    rintro _ _ ⟨inner, block, rfl⟩
    refine (buildsAt_write (.blank (.inr rfl)) (by simp) _ (here.later block)).mono ?_
    exact fun _ s₂ blank => block.trans blank

/-! ### Values -/

theorem buildsAt_recordValue {t : DataType} {value : Fragment} {bind : Bool} {readers : Nat}
    (words : ∀ text, a.States value.text text → p.Words a n kind text) :
    p.BuildsAt a n kind (recordValue a t value bind readers) := by
  have kept : p.BuildsBy (modify (·.setResult a value.text value.uses) : Gen PUnit) :=
    .modify fun _ => .of_eq rfl rfl rfl rfl
  unfold recordValue
  split_ifs
  · exact kept.at
  · exact buildsAt_write (words _ (.inl rfl)) (by simp)
  · exact buildsAt_write (words _ (.inr rfl)) (by simp)

theorem gathers_emitLiteral (type : String) :
    p.Gathers a n (.literal type) (p.emitLiteral a n type) (p.Needed a n (.literal type)) := by
  unfold emitLiteral
  cases known : p.lang.types.get? type with
  | none =>
    refine (buildsBy_error a _).at.gathers ?_
    rintro names ⟨use, ⟨known'⟩, -⟩
    cases known.symm.trans known'
  | some t =>
    refine Gathers.mono ((gathers_imports (.literal known) rfl).andThen fun _ => ?_) ?_
    · exact buildsAt_recordValue fun text states => .literal known states
    · rintro names ⟨use, ⟨known'⟩, -⟩
      cases known.symm.trans known'
      rfl

theorem finds_fetch (hw : w.Builder p) (key : String) (t : DataType) :
    p.Finds a key (p.fetch w a key t) := by
  unfold fetch
  split_ifs
  · exact hw.resolve a key
  · exact finds_demand hw key

theorem gathers_argument (hw : w.Builder p) {key : String} {t : DataType}
    (uses : p.Resolves a key none → p.Uses a n kind .argument t.desc.requirements) :
    p.Gathers a n kind (p.argument w a n key t)
      fun names => p.Resolves a key none ∧ names = t.desc.requirements := by
  refine (finds_fetch hw key t).gathers fun v resolves => ?_
  cases v with
  | some v =>
    refine (buildsBy_reference key v).at.gathers fun names needed => ?_
    cases resolves.unique needed.1
  | none =>
    refine Gathers.mono ?_ fun names needed => needed.2
    exact (gathers_imports (uses resolves) rfl).andThen fun _ => BuildsBy.pure.at

theorem gathers_arguments (hw : w.Builder p) (params : List FieldDesc) (args : Arguments)
    (uses : ∀ param ∈ params, ∀ t, p.lang.types.get? param.type = some t →
      p.Resolves a param.name none → p.Uses a n kind .argument t.desc.requirements) :
    p.Gathers a n kind (p.arguments w a n params args)
      fun names => ∃ param ∈ params, p.NeededArgument a param names := by
  induction params generalizing args with
  | nil => exact BuildsBy.pure.at.gathers (by simp)
  | cons param params ih =>
    have rest := fun args => ih args fun q mem => uses q (List.mem_cons_of_mem _ mem)
    unfold arguments
    cases known : p.lang.types.get? param.type with
    | none =>
      refine (rest args).mono fun names needed => ?_
      obtain ⟨q, mem, t, type, needed⟩ := needed
      rcases List.mem_cons.1 mem with rfl | mem
      · cases known.symm.trans type
      · exact ⟨q, mem, t, type, needed⟩
    | some t =>
      have first := gathers_argument hw (uses param (List.mem_cons_self ..) t known)
      refine (first.bind fun value => rest _).mono fun names needed => ?_
      obtain ⟨q, mem, t', type, missing, same⟩ := needed
      rcases List.mem_cons.1 mem with rfl | mem
      · cases known.symm.trans type
        exact .inl ⟨missing, same⟩
      · exact .inr ⟨q, mem, t', type, missing, same⟩

theorem yields_argument (hw : w.Builder p) {param : FieldDesc} {t : DataType}
    (known : p.lang.types.get? param.type = some t) :
    (p.argument w a n param.name t).Yields fun value => p.ArgumentText a n param value.text := by
  refine (finds_fetch hw param.name t).yields.bind fun v resolves => ?_
  cases v with
  | some v => exact .of_forall fun value => .value resolves value.text
  | none => exact .andThen fun _ => .pure (.literal known resolves)

/-- The texts of the arguments of a call are there or are those of its parameters. -/
theorem yields_arguments (hw : w.Builder p) (params : List FieldDesc) (args : Arguments) :
    (p.arguments w a n params args).Yields fun args' =>
      ∀ name text, args'.texts.get? name = some text → args.texts.get? name = some text ∨
        ∃ param ∈ params, param.name = name ∧ p.ArgumentText a n param text := by
  induction params generalizing args with
  | nil => exact .pure fun name text given => .inl given
  | cons param params ih =>
    unfold arguments
    cases known : p.lang.types.get? param.type with
    | none =>
      refine fun s => (ih args s).mono fun args' _ each name text given => ?_
      refine (each name text given).imp_right ?_
      rintro ⟨q, mem, text⟩
      exact ⟨q, List.mem_cons_of_mem _ mem, text⟩
    | some t =>
      refine (yields_argument hw known).bind fun value argument s => ?_
      refine (ih _ s).mono fun args' _ each name text given => ?_
      rcases each name text given with given | ⟨q, mem, text⟩
      · rw [Arguments.insert, OrderedMap.get?_insert] at given
        split_ifs at given with same
        · cases given
          exact .inr ⟨param, List.mem_cons_self .., same, argument⟩
        · exact .inl given
      · exact .inr ⟨q, List.mem_cons_of_mem _ mem, text⟩

/-- The value of a call, given the texts of its arguments. -/
theorem buildsAt_recordCall {function : String} {sideEffect : Bool} {f : FunctionDesc}
    (called : p.lang.functions.get? function = some f) {args : Arguments}
    (each : ∀ name text, args.texts.get? name = some text →
      (Arguments.texts {}).get? name = some text ∨
        ∃ param ∈ f.params, param.name = name ∧ p.ArgumentText a n param text)
    (t : DataType) (bind : Bool) (readers : Nat) :
    p.BuildsAt a n (.call function sideEffect)
      (recordValue a t ⟨f.render args.texts, args.uses⟩ bind readers) := by
  refine buildsAt_recordValue fun text states => .call called (fun name text given => ?_) states
  exact (each name text given).resolve_left (by simp [OrderedMap.get?_empty])

/-- What a call needs: what its literals need, its type and its function. -/
theorem needed_call {function : String} {sideEffect : Bool} {names : List String}
    (needed : p.Needed a n (.call function sideEffect) names) :
    ∃ f, p.lang.functions.get? function = some f ∧
      ((∃ param ∈ f.params, p.NeededArgument a param names) ∨
        names = (p.lang.types.getOrAny (some f.result)).desc.requirements ∨
        names = f.requirements) := by
  obtain ⟨use, uses, -⟩ := needed
  cases uses with
  | argument called mem known missing => exact ⟨_, called, .inl ⟨_, mem, _, known, missing, rfl⟩⟩
  | function called => exact ⟨_, called, .inr (.inr rfl)⟩
  | result called => exact ⟨_, called, .inr (.inl rfl)⟩

theorem gathers_emitCall (hw : w.Builder p) (function : String) (sideEffect : Bool) :
    p.Gathers a n (.call function sideEffect) (p.emitCall w a n function sideEffect)
      (p.Needed a n (.call function sideEffect)) := by
  unfold emitCall
  cases called : p.lang.functions.get? function with
  | none =>
    refine (buildsBy_error a _).at.gathers fun names needed => ?_
    obtain ⟨f, called', -⟩ := needed_call needed
    cases called.symm.trans called'
  | some f =>
    have literals : ∀ param ∈ f.params, ∀ t, p.lang.types.get? param.type = some t →
        p.Resolves a param.name none →
        p.Uses a n (.call function sideEffect) .argument t.desc.requirements :=
      fun param mem t known missing => .argument called mem known missing
    refine Gathers.mono ((gathers_arguments hw f.params {} literals).bindYield
      (yields_arguments hw _ _) fun args each =>
        (gathers_imports (.result called) rfl).bind fun _ =>
          (gathers_imports (.function called) rfl).andThen fun _ =>
            buildsAt_recordCall called each _ _ _) fun names needed => ?_
    obtain ⟨f', called', needed⟩ := needed_call needed
    cases called.symm.trans called'
    exact needed

/-! ### Statements -/

theorem buildsAt_emitBranch (hw : w.Builder p) : p.BuildsAt a n .branch (p.emitBranch w a) := by
  refine (finds_demand hw "inValue").bind fun v found => ?_
  cases v with
  | none => exact BuildsBy.pure.at
  | some v =>
    refine (buildsBy_reference "inValue" v).at.bind fun condition => ?_
    refine buildsAt_flowBlock hw ⟨_, condition.uses⟩ (.condition found condition.text)
      fun connected => ?_
    have otherwise : p.BuildsAt a n .branch (do
        Program.write a "else" .header
        let _ ← p.flowBlock w a "else") :=
      buildsAt_flowBlock hw ⟨"else", []⟩ .otherwise fun _ => BuildsBy.pure.at
    split_ifs
    · exact (buildsBy_report a .thenExitExpected).at.bind fun _ => otherwise
    · exact otherwise

theorem buildsAt_emitWhile (hw : w.Builder p) : p.BuildsAt a n .whileLoop (p.emitWhile w a) := by
  refine (finds_demand hw "inValue").bind fun v found => ?_
  cases v with
  | none => exact BuildsBy.pure.at
  | some v =>
    refine (buildsBy_reference "inValue" v).at.bind fun condition => ?_
    exact buildsAt_flowBlock hw ⟨_, condition.uses⟩ (.whileLoop found condition.text)
      fun _ => BuildsBy.pure.at

theorem buildsBy_loopRanges (hw : w.Builder p) (is : List Nat) :
    p.BuildsBy (p.loopRanges w a is) := by
  induction is with
  | nil => exact .pure
  | cons i is ih =>
    refine (buildsBy_valueAt? hw _).bind fun value => ?_
    cases value with
    | none => exact ih
    | some range => exact ih.bind fun _ => .pure

theorem yields_loopRanges (hw : w.Builder p) (is : List Nat) :
    (p.loopRanges w a is).Yields fun ranges =>
      ∀ r ∈ ranges, ∃ v, p.Resolves a (slotKey "range" r.1) (some v) := by
  induction is with
  | nil => exact .pure (by simp)
  | cons i is ih =>
    refine (yields_valueAt? hw _).bind fun value found => ?_
    cases value with
    | none => exact ih
    | some range =>
      refine ih.bind fun ranges each => .pure fun r mem => ?_
      rcases List.mem_cons.1 mem with rfl | mem
      · exact found
      · exact each r mem

theorem buildsAt_emitFor (hw : w.Builder p) : p.BuildsAt a n .forLoop (p.emitFor w a n) := by
  refine (buildsBy_loopRanges hw _).at.bindYield (yields_loopRanges hw _) fun ranges each => ?_
  split_ifs with empty
  · exact (buildsBy_error a .inputExpected).at
  · have head : p.Heads a n .forLoop (.flow "body") _ := .forLoop (by simpa using empty) each
    dsimp only
    generalize "for " ++ _ ++ " in " ++ _ = text at head ⊢
    exact buildsAt_flowBlock hw ⟨text, _⟩ head fun _ => BuildsBy.pure.at

theorem buildsAt_assignGiven {target : Fragment} {place : String} {value : Option Fragment}
    (words : ∀ text, value = some text →
      p.Words a n .assignment (target.text ++ place ++ " = " ++ text.text)) :
    p.BuildsAt a n .assignment (assignGiven a target place value) := by
  cases value with
  | none => exact BuildsBy.pure.at
  | some text => exact buildsAt_write (words text rfl) (by simp)

/-- The fields are those of the type of the target, from a number on. -/
theorem buildsAt_assignFields (hw : w.Builder p) {v : Producer} {fields : List FieldDesc}
    (found : p.Resolves a "inVariable" (some v))
    (parts : (p.targetType n v).desc.fields = some fields) (target : Fragment) (i : Nat)
    (rest : List FieldDesc) (numbered : ∀ j field, rest[j]? = some field →
      fields[i + j]? = some field ∧ i + j < (n.count? "numArgs").getD 0) :
    p.BuildsAt a n .assignment (p.assignFields w a n target i rest) := by
  induction rest generalizing i with
  | nil => exact BuildsBy.pure.at
  | cons field rest ih =>
    obtain ⟨mem, lt⟩ := numbered 0 field rfl
    refine (buildsBy_valueAt? hw _).at.bindYield (yields_valueAt? hw _) fun value resolved => ?_
    refine (buildsAt_assignGiven fun text given => ?_).bind fun _ => ih (i + 1) ?_
    · cases value with
      | some value =>
        obtain ⟨u, resolves⟩ := resolved
        exact .assignment found (.value resolves _ _) _
      | none => exact .assignment found (.field parts lt mem resolved given) _
    · intro j f later
      have := numbered (j + 1) f later
      rwa [show i + 1 + j = i + (j + 1) by omega]

theorem buildsAt_emitAssignment (hw : w.Builder p) :
    p.BuildsAt a n .assignment (p.emitAssignment w a n) := by
  refine (finds_demand hw "inVariable").bind fun v found => ?_
  cases v with
  | none => exact BuildsBy.pure.at
  | some v =>
    refine (buildsBy_reference "inVariable" v).at.bind fun target => ?_
    dsimp only
    split
    · rename_i whole
      refine (buildsBy_valueAt? hw _).at.bindYield (yields_valueAt? hw _) fun value resolved => ?_
      split
      · rename_i text given
        refine buildsAt_write (.assignment found ?_ _) (by simp)
        cases value with
        | some value =>
          obtain ⟨u, resolves⟩ := resolved
          exact .value resolves _ _
        | none => exact .whole whole resolved given
      · exact (buildsBy_error a .inputExpected).at
    · rename_i fields parts
      refine buildsAt_assignFields hw found parts target 0 _ fun j field given => ?_
      rw [List.getElem?_take] at given
      split_ifs at given with lt
      exact ⟨by rwa [Nat.zero_add], by rwa [Nat.zero_add]⟩

/-! ### Definitions -/

theorem gathers_parameter? {i : Nat} (lt : i < (n.count? "numArgs").getD 0) :
    p.Gathers a n .definition (p.parameter? a n i) (p.NeededDefault a i) := by
  unfold parameter?
  dsimp only
  cases wired : p.prefill? a i with
  | none =>
    have nothing : ∀ names, ¬ p.NeededDefault a i names := by
      rintro names ⟨value, type, t, wired', -⟩
      cases wired.symm.trans wired'
    cases n.text? (slotKey "typeName" i) >>= p.lang.types.get? <;>
      exact BuildsBy.pure.at.gathers nothing
  | some value =>
    dsimp only
    split
    · rename_i type literal
      cases known : p.lang.types.get? type with
      | none =>
        refine BuildsBy.pure.at.gathers ?_
        rintro names ⟨value, type, t, wired', literal', known', -⟩
        cases wired.symm.trans wired'
        cases literal.symm.trans literal'
        cases known.symm.trans known'
      | some t =>
        have processed : p.BuildsBy (modify (·.markProcessed (a.sibling value.id)) : Gen PUnit) :=
          .modify fun _ => .of_eq rfl rfl rfl rfl
        refine Gathers.mono ((gathers_imports (.prefill lt wired literal known) rfl).andThen
          fun _ => processed.at.bind fun _ => BuildsBy.pure.at) ?_
        rintro names ⟨value, type, t, wired', literal', known', rfl⟩
        cases wired.symm.trans wired'
        cases literal.symm.trans literal'
        cases known.symm.trans known'
        rfl
    · rename_i other
      refine ((buildsBy_error a _).at.bind fun _ => BuildsBy.pure.at).gathers ?_
      rintro names ⟨value, type, t, wired', literal, -⟩
      cases wired.symm.trans wired'
      exact other type literal

theorem gathers_parameters {is : List Nat} (lt : ∀ i ∈ is, i < (n.count? "numArgs").getD 0) :
    p.Gathers a n .definition (p.parameters a n is)
      fun names => ∃ i ∈ is, p.NeededDefault a i names := by
  induction is with
  | nil => exact BuildsBy.pure.at.gathers (by simp)
  | cons i is ih =>
    have rest := ih fun j mem => lt j (List.mem_cons_of_mem _ mem)
    have first : p.Gathers a n .definition (p.parameter? a n i) (p.NeededDefault a i) :=
      gathers_parameter? (lt i (List.mem_cons_self ..))
    unfold parameters
    refine Gathers.mono (first.bind fun text => ?_) fun names needed => by simpa using needed
    cases text with
    | none => exact rest
    | some text => exact rest.andThen fun _ => BuildsBy.pure.at

theorem yields_parameter? (i : Nat) : (p.parameter? a n i).Yields fun text? =>
    ∀ text, text? = some text → p.ParameterText a n i text := by
  unfold parameter?
  dsimp only
  cases wired : p.prefill? a i with
  | none =>
    dsimp only
    split
    · rename_i t known
      exact .pure fun text same => Option.some.inj same ▸ .typed wired known
    · exact .pure fun text same => Option.some.inj same ▸ .bare
  | some value =>
    dsimp only
    split
    · rename_i type literal
      cases known : p.lang.types.get? type with
      | none => exact .pure (by simp)
      | some t =>
        refine .andThen fun _ => .andThen fun _ => .pure fun text same => ?_
        exact Option.some.inj same ▸ .prefilled wired literal known
    · exact .andThen fun _ => .pure fun text same => Option.some.inj same ▸ .bare

theorem yields_parameters (is : List Nat) : (p.parameters a n is).Yields fun params =>
    ∀ text ∈ params, ∃ i ∈ is, p.ParameterText a n i text := by
  induction is with
  | nil => exact .pure (by simp)
  | cons i is ih =>
    have rest : (p.parameters a n is).Yields fun params =>
        ∀ text ∈ params, ∃ j ∈ i :: is, p.ParameterText a n j text := by
      refine fun s => (ih s).mono fun params _ each text mem => ?_
      obtain ⟨j, mem, text⟩ := each text mem
      exact ⟨j, List.mem_cons_of_mem _ mem, text⟩
    refine (yields_parameter? i).bind fun text? first => ?_
    cases text? with
    | none => exact rest
    | some text =>
      refine rest.bind fun params each => .pure fun text' mem => ?_
      rcases List.mem_cons.1 mem with rfl | mem
      · exact ⟨i, List.mem_cons_self .., first _ rfl⟩
      · exact each text' mem

theorem buildsBy_markMain (name : String) : p.BuildsBy (markMain n name) := by
  unfold markMain
  split_ifs
  · exact .modify fun _ => .of_eq rfl rfl rfl rfl
  · exact .pure

/-- The text of a function after its parameters. -/
theorem buildsAt_definitionBody (hw : w.Builder p) {params : List String}
    (each : ∀ text ∈ params, ∃ i ∈ List.range ((n.count? "numArgs").getD 0),
      p.ParameterText a n i text) :
    p.BuildsAt a n .definition (do
      let name := n.nameOr a
      markMain n name
      writeGiven a ((n.filledText? "annotation").map fun text => "[" ++ text ++ "]")
      Program.write a ("def " ++ name ++ "(" ++ "; ".intercalate params ++ ")") .header
      let _ ← p.flowBlock w a flowOutKey
      Program.write a "") := by
  refine (buildsBy_markMain _).at.bind fun _ => ?_
  refine (buildsAt_writeGiven fun text given => ?_).bind fun _ => ?_
  · obtain ⟨inner, found, rfl⟩ := Option.map_eq_some_iff.1 given
    exact .annotated found
  · refine buildsAt_flowBlock hw ⟨_, []⟩ (.definition fun text mem => ?_)
      fun _ => buildsAt_write (.blank (.inl rfl)) (by simp)
    obtain ⟨i, lt, text⟩ := each text mem
    exact ⟨i, List.mem_range.1 lt, text⟩

theorem gathers_emitDefinition (hw : w.Builder p) :
    p.Gathers a n .definition (p.emitDefinition w a n) (p.Needed a n .definition) := by
  have within : ∀ i ∈ List.range ((n.count? "numArgs").getD 0), i < (n.count? "numArgs").getD 0 :=
    fun _ mem => List.mem_range.1 mem
  have gathered : p.Gathers a n .definition (p.emitDefinition w a n) _ :=
    (gathers_parameters within).bindYield (yields_parameters _) fun params each =>
      (buildsAt_definitionBody hw each).gathers (R := fun _ => False) fun _ => id
  refine gathered.mono ?_
  rintro names ⟨use, uses, recorded⟩
  cases uses with
  | prefill lt wired literal known =>
    exact .inl ⟨_, List.mem_range.2 lt, _, _, _, wired, literal, known, rfl⟩
  | parameter => cases recorded

/-! ### All kinds -/

theorem buildsBy_followAll (hw : w.Builder p) (ports : List String) :
    p.BuildsBy (followAll w a ports) := by
  induction ports with
  | nil => exact .pure
  | cons port ports ih => exact (hw.follow a port).bind fun _ => ih

/-- The text of a node of every kind is built of what such a node writes. -/
theorem buildsAt_emit (hw : w.Builder p) : p.BuildsAt a n kind (p.emit w a n kind) := by
  cases kind with
  | literal type => exact (gathers_emitLiteral type).builds
  | call function sideEffect => exact (gathers_emitCall hw function sideEffect).builds
  | topLevelCode =>
    refine (buildsAt_writeGiven fun text given => .code (.inr rfl) given).bind fun _ => ?_
    exact ((hw.follow a flowOutKey).bind fun _ => .pure).at
  | code => exact buildsAt_writeGiven fun text given => .code (.inl rfl) given
  | sequence => exact (buildsBy_followAll hw _).at
  | declaration => exact buildsAt_write .declaration (by simp)
  | definition => exact (gathers_emitDefinition hw).builds
  | record => exact buildsAt_emitRecord
  | branch => exact buildsAt_emitBranch hw
  | whileLoop => exact buildsAt_emitWhile hw
  | forLoop => exact buildsAt_emitFor hw
  | assignment => exact buildsAt_emitAssignment hw
  | _ => exact BuildsBy.pure.at

/-- What the recorded uses of a node need is recorded with its text. -/
theorem gathers_emit (hw : w.Builder p) :
    p.Gathers a n kind (p.emit w a n kind) (p.Needed a n kind) := by
  have builds : p.BuildsAt a n kind (p.emit w a n kind) := buildsAt_emit hw
  cases kind with
  | literal type => exact gathers_emitLiteral type
  | call function sideEffect => exact gathers_emitCall hw function sideEffect
  | definition => exact gathers_emitDefinition hw
  | declaration | record | assignment =>
    -- none of the uses is recorded
    refine builds.gathers ?_
    rintro names ⟨use, uses, recorded⟩
    cases uses <;> cases recorded
  | _ =>
    refine builds.gathers ?_
    rintro names ⟨use, uses, -⟩
    cases uses

end Emitting

/-! ### The walk -/

section Walking

variable {p : Program} {w : Walk} {a : Address} {n : Node}

theorem buildsBy_compileNode (hw : w.Builder p) {kind : Kind} (node : p.node? a = some n)
    (kindOf : p.kind? n = some kind) (cause : Cause) :
    p.BuildsBy (p.compileNode w a cause n kind) := by
  obtain ⟨fuel, rfl⟩ := hw.fueled
  intro s
  refine Gen.Sat.bind (Gen.Sat.modify (Q := fun _ s' => s' = s.beginText a cause) rfl) ?_
  rintro _ _ rfl
  have here : p.Compiles a n kind s.block.path (s.beginText a cause).journal :=
    ⟨node, kindOf, cause, List.mem_cons_self ..⟩
  refine ((buildsAt_emit hw _ here).and (Gen.Sat.self _ _)).bind fun _ s₁ text => ?_
  have flowOn : p.BuildsBy (if kind.continuesFlow then do
      let _ ← (p.walk fuel).follow a flowOutKey
    else pure ()) := by
    split_ifs
    · exact (hw.follow a flowOutKey).bind fun _ => .pure
    · exact .pure
  exact (flowOn s₁).mono fun _ s₂ after => .compile node kindOf text.2 text.1 after

theorem buildsBy_note {e : Event} (other : e.isEmission = false) :
    p.BuildsBy (modify (·.note e) : Gen PUnit) :=
  .modify fun s => .note s other

theorem buildsBy_visit (hw : w.Builder p) (a : Address) (cause : Cause) :
    p.BuildsBy (p.visit w a cause) := by
  unfold visit
  cases node : p.node? a with
  | none => exact .pure
  | some n =>
    dsimp only
    cases kindOf : p.kind? n with
    | none => exact buildsBy_error a _
    | some kind =>
      have compiled := buildsBy_compileNode hw node kindOf cause
      dsimp only
      split_ifs
      · refine (buildsBy_note rfl).bind fun _ s => ?_
        refine Gen.Sat.bind (Gen.Sat.get (Q := fun x s' => x = s ∧ s' = s) ⟨rfl, rfl⟩) ?_
        rintro _ _ ⟨rfl, rfl⟩
        split_ifs
        · exact buildsBy_report a .reachedAgain _
        · have visited : p.BuildsBy (modify (·.visit a) : Gen PUnit) :=
            .modify fun _ => .of_eq rfl rfl rfl rfl
          exact visited.bind (fun _ => compiled) _
      · exact compiled

theorem buildsBy_settle (hw : w.Builder p) (a : Address) (kind : Kind) :
    p.BuildsBy (p.settle w a kind) := by
  refine (buildsBy_note rfl).bind fun _ s => ?_
  refine Gen.Sat.bind (Gen.Sat.get (Q := fun x s' => x = s ∧ s' = s) ⟨rfl, rfl⟩) ?_
  rintro _ _ ⟨rfl, rfl⟩
  split_ifs
  · exact buildsBy_error a .cyclicValue _
  · exact .refl
  · have started : p.BuildsBy (modify fun s => (s.start a).beginResolving a : Gen PUnit) :=
      .modify fun _ => .of_eq rfl rfl rfl rfl
    have settled : p.BuildsBy (modify (·.endResolving a) : Gen PUnit) :=
      .modify fun _ => .of_eq rfl rfl rfl rfl
    exact started.bind (fun _ => (buildsBy_visit hw a .demand).bind fun _ => settled) _
  · exact .refl

/-- Entering a module, if there is a way in. -/
theorem sat_enter? (s : Pass) :
    Gen.Sat False (p.enter? a n) s fun g s' => p.Builds s s' ∧ g = p.entered? a n := by
  unfold enter? entered?
  dsimp only
  cases p.library.get? (n.textD moduleKey) with
  | none => exact (buildsBy_error a _ s).bind fun _ s' marked => ⟨marked, rfl⟩
  | some g =>
    dsimp only
    split_ifs
    · exact (buildsBy_error a _ s).bind fun _ s' marked => ⟨marked, rfl⟩
    · exact ⟨.silent (.of_eq rfl rfl rfl rfl), rfl⟩

theorem Finds.pure {port : String} {v : Option Producer} (h : p.Resolves a port v) :
    p.Finds a port (pure v) :=
  fun _ => ⟨.refl, h⟩

theorem Finds.after {α : Type} {port : String} {first : Gen α} {act : Gen (Option Producer)}
    (before : p.BuildsBy first) (h : p.Finds a port act) :
    p.Finds a port (first >>= fun _ => act) := by
  intro s
  refine (before s).bind fun _ s₁ built => ?_
  exact (h s₁).mono fun _ _ hs => ⟨built.trans hs.1, hs.2⟩

/-- A search that ends with a message. -/
theorem Finds.refused {port : String} (b : Address) (cause : Problem)
    (next : p.look a port = .nothing) : p.Finds a port (do p.error b cause; return none) :=
  .after (buildsBy_error b cause) (.pure (.nothing next))

/-- A search that goes on at another port. -/
theorem Finds.onward {b : Address} {port q : String} {act : Gen (Option Producer)}
    (h : p.Finds b q act) (next : p.look a port = .onward b q) : p.Finds a port act :=
  fun s => (h s).mono fun _ _ hs => ⟨hs.1, .onward next hs.2⟩

theorem finds_resolveOutput (hw : w.Builder p) {b : Address} {port q : String}
    (call : p.kind? n = some .moduleCall) (here : p.look a port = p.lookAt b n q) :
    p.Finds a port (p.resolveOutput w b n q) := by
  simp only [lookAt, call] at here
  intro s
  refine (sat_enter? s).bind fun g s₁ entered => ?_
  obtain ⟨before, rfl⟩ := entered
  suffices rest : p.Finds a port _ from
    (rest s₁).mono fun _ _ hs => ⟨before.trans hs.1, hs.2⟩
  cases entered : p.entered? b n with
  | none => exact .pure (.nothing (by simpa [entered] using here))
  | some g =>
    dsimp only
    cases bridge : g.bridge? ComponentTable.moduleOutputName q with
    | none => exact .refused b _ (by simpa [entered, bridge] using here)
    | some inner => exact (hw.resolve _ _).onward (by simpa [entered, bridge] using here)

/-- The producer that is found is the one that the search in the graphs finds. -/
theorem finds_resolveFrom (hw : w.Builder p) {b : Address} {port q : String}
    (here : p.look a port = p.lookAt b n q) : p.Finds a port (p.resolveFrom w b n q) := by
  unfold resolveFrom
  cases kindOf : p.kind? n with
  | none => exact .refused b _ (by simpa only [lookAt, kindOf] using here)
  | some kind =>
    have settled : p.look a port = .found ⟨b, q⟩ → p.Finds a port (do
        p.settle w b kind
        modify (·.require b)
        return some ⟨b, q⟩) := by
      intro found
      have required : p.BuildsBy (modify (·.require b) : Gen PUnit) :=
        .modify fun _ => .of_eq rfl rfl rfl rfl
      exact .after (buildsBy_settle hw b kind) (.after required (.pure (.found found)))
    cases kind with
    | moduleInput =>
      show p.Finds a port (p.resolveInput w b n)
      unfold resolveInput
      cases site : b.callSite? with
      | none => exact .refused b _ (by simpa only [lookAt, kindOf, site] using here)
      | some call =>
        exact (hw.resolve _ _).onward (by simpa only [lookAt, kindOf, site] using here)
    | moduleCall => exact finds_resolveOutput hw kindOf here
    | definition =>
      refine .pure ?_
      cases slot : slotIndex? "out" q with
      | none => exact .nothing (by simpa [lookAt, kindOf, slot] using here)
      | some i => exact .found (by simpa [lookAt, kindOf, slot] using here)
    | assignment => exact (hw.resolve _ _).onward (by simpa only [lookAt, kindOf] using here)
    | _ => exact settled (by simpa only [lookAt, kindOf] using here)

theorem finds_resolveStep (hw : w.Builder p) (a : Address) (port : String) :
    p.Finds a port (p.resolveStep w a port) := by
  refine .after (buildsBy_note rfl) ?_
  cases feeding : p.feeding? a port with
  | none => exact .pure (.nothing (by simp only [look, feeding]))
  | some found => exact finds_resolveFrom hw (by simp only [look, feeding])

theorem buildsBy_followEntry (hw : w.Builder p) (port : String) :
    p.BuildsBy (p.followEntry w a n port) := by
  intro s
  refine (sat_enter? s).bind fun g s₁ entered => ?_
  suffices rest : p.BuildsBy _ from (rest s₁).mono fun _ _ hs => entered.1.trans hs
  cases g with
  | none => exact .pure
  | some g =>
    dsimp only
    cases g.bridge? ComponentTable.flowEntryName port with
    | none => exact buildsBy_error a _
    | some inner => exact (hw.follow _ _).bind fun _ => .pure

theorem buildsBy_followTo (hw : w.Builder p) (port : String) :
    p.BuildsBy (p.followTo w a n port) := by
  unfold followTo
  split
  · unfold followExit
    cases a.callSite? with
    | none => exact buildsBy_error a _
    | some call => exact (hw.follow _ _).bind fun _ => .pure
  · exact buildsBy_followEntry hw port
  · exact buildsBy_visit hw a .flow

theorem buildsBy_followStep (hw : w.Builder p) (a : Address) (port : String) :
    p.BuildsBy (p.followStep w a port) := by
  refine (buildsBy_note rfl).bind fun _ => ?_
  cases p.fedBy? a port with
  | none => exact .pure
  | some found => exact (buildsBy_followTo hw _).bind fun _ => .pure

/-- Whatever the fuel, asking and following build. -/
theorem builder_walk (p : Program) (fuel : Nat) : (p.walk fuel).Builder p := by
  induction fuel with
  | zero => exact ⟨⟨0, rfl⟩, fun _ _ _ => id, fun _ _ _ => id⟩
  | succ fuel ih => exact ⟨⟨fuel + 1, rfl⟩, finds_resolveStep ih, buildsBy_followStep ih⟩

/-- A finished pass has built its output from nothing. -/
theorem Ends.builds {s : Pass} (h : p.Ends s) : p.Builds {} s := by
  have all : ∀ fuel as, p.BuildsBy (p.visitAll (p.walk fuel) as) := by
    intro fuel as
    induction as with
    | nil => exact .pure
    | cons a as ih => exact (buildsBy_visit (p.builder_walk fuel) a .entry).bind fun _ => ih
  obtain ⟨fuel, h⟩ := h
  obtain ⟨⟨x, s'⟩, run, rfl⟩ := Option.map_eq_some_iff.1 h
  exact (all fuel _ {}).eq_some run

end Walking

end Program

end FlowScript
