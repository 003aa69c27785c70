import FlowScript.Proofs.Linked
import FlowScript.Proofs.Once

/-!
# The declarations of values

A value that is not written in place is declared by a line of its own, in the block that is open
when its node is compiled.  Lines that use its identifier come later, unless only the flow can
compile the node.

* `Program.Stored`: what is known of a value after its node was compiled;
* `Program.Runs.declarations`, `Program.Runs.declared_at`: one declaration for one compilation, and
  in its block; `Program.Runs.emission`: what is compiled was reached, and is stored;
* `Program.Sourced`: every identifier that was handed out stands for a declared value;
  `Program.Runs.sourced`;
* `Program.Ends.exists_declaration`: the declarations of a finished pass.
-/

namespace FlowScript

/-! ### Declaring lines -/

/-- A text whose front has no newline keeps the front on its first line. -/
theorem Text.splitLines_append {front : List Char} (h : '\n' ∉ front) (rest : List Char) :
    ∃ l ls, splitLines (front ++ rest) = (front ++ l) :: ls := by
  induction front with
  | nil =>
    cases hr : splitLines rest with
    | nil => exact absurd hr (splitLines_ne_nil rest)
    | cons l ls => exact ⟨l, ls, hr⟩
  | cons c front ih =>
    simp only [List.mem_cons, not_or] at h
    obtain ⟨l, ls, hl⟩ := ih h.2
    refine ⟨l, ls, ?_⟩
    simp [splitLines, hl, Ne.symm h.1]

/-- The characters that made-up identifiers consist of, after the first one. -/
def isIdentChar (c : Char) : Bool := c == '_' || c.isDigit

theorem Decimal.isIdentChar_of_mem_text {n : Nat} {c : Char} (h : c ∈ (Decimal.text n).toList) :
    isIdentChar c = true := by
  have digit := Decimal.isDigit_of_mem_digits (n := n) (by simpa [Decimal.text] using h)
  simp [isIdentChar, digit]

theorem Address.isIdentChar_of_mem_suffix {a : Address} {c : Char} (h : c ∈ a.suffix.toList) :
    isIdentChar c = true := by
  have parts : ∀ numbers : List Nat,
      c ∈ ("_".intercalate (numbers.map Decimal.text)).toList → isIdentChar c = true := by
    intro numbers
    induction numbers with
    | nil => simp
    | cons i is ih =>
      cases is with
      | nil => simpa using Decimal.isIdentChar_of_mem_text
      | cons j js =>
        simp only [List.map_cons, String.intercalate_cons_cons, String.toList_append,
          List.mem_append] at ih ⊢
        rintro ((front | mark) | rest)
        · exact Decimal.isIdentChar_of_mem_text front
        · rw [List.mem_singleton.1 mark]
          rfl
        · exact ih rest
  exact parts _ h

theorem Address.isIdentChar_of_mem_ident {a : Address} {c : Char} (h : c ∈ a.ident.toList) :
    isIdentChar c = true := by
  rw [ident, String.toList_append, List.mem_append] at h
  rcases h with mark | suffix
  · rw [List.mem_singleton.1 mark]
    rfl
  · exact isIdentChar_of_mem_suffix suffix

theorem Address.newline_notMem_ident (a : Address) : '\n' ∉ a.ident.toList :=
  fun h => absurd (isIdentChar_of_mem_ident h) (by decide)

/-- The first line of a declaring text declares by itself. -/
theorem Address.DeclaredBy.splitLines {a : Address} {text : String} (h : a.DeclaredBy text) :
    ∃ l ls, Text.splitLines text.toList = l :: ls ∧ a.DeclaredBy (String.ofList l) := by
  have ident := a.newline_notMem_ident
  have first : ∀ front value : String, '\n' ∉ front.toList →
      ∃ l ls, Text.splitLines (front ++ value).toList = l :: ls ∧
        ∃ rest, String.ofList l = front ++ rest := by
    intro front value hf
    obtain ⟨l, ls, hl⟩ := Text.splitLines_append hf value.toList
    rw [← String.toList_append] at hl
    exact ⟨_, ls, hl, String.ofList l, by rw [String.ofList_append, String.ofList_toList]⟩
  rcases h with ⟨value, rfl⟩ | ⟨type, rfl⟩
  · obtain ⟨l, ls, hl, rest, hr⟩ := first ("let " ++ a.ident ++ " = ") value (by simp [ident])
    exact ⟨l, ls, hl, .inl ⟨rest, hr⟩⟩
  · obtain ⟨l, ls, hl, rest, hr⟩ := first ("var " ++ a.ident ++ ": ") type (by simp [ident])
    exact ⟨l, ls, hl, .inr ⟨rest, hr⟩⟩

namespace Block

variable {b : Block} {owner : Option NodeId} {text : Fragment} {role : LineRole} {l : Line}

/-- Lines stand in the open block and use what their text uses. -/
theorem of_mem_linesOf (h : l ∈ b.linesOf owner text role) :
    l.block = b.path ∧ l.uses = text.uses := by
  obtain ⟨⟨part, role'⟩, -, rfl⟩ := List.mem_map.1 h
  exact ⟨rfl, rfl⟩

/-- A text that declares nothing has no declaring line. -/
theorem role_of_mem_linesOf (plain : role.declared? = none) (h : l ∈ b.linesOf owner text role) :
    l.role.declared? = none := by
  obtain ⟨⟨part, role'⟩, mem, rfl⟩ := List.mem_map.1 h
  have mem := (List.of_mem_zip mem).2
  cases role with
  | declaration a => cases plain
  | header =>
    simp only [LineRole.ofParts, List.mem_append, List.mem_replicate, List.mem_singleton] at mem
    rcases mem with ⟨-, rfl⟩ | rfl <;> rfl
  | statement | placeholder | marker =>
    simp only [LineRole.ofParts, List.mem_replicate] at mem
    rw [mem.2]
    rfl

/-- A declaring text has one declaring line, its first. -/
theorem linesOf_declaration (b : Block) (owner : Option NodeId) (text : Fragment) {a : Address}
    (declares : a.DeclaredBy text.text) :
    ∃ first rest, b.linesOf owner text (.declaration a) = first :: rest ∧
      first.role = .declaration a ∧ a.DeclaredBy first.text ∧
      ∀ l ∈ rest, l.role.declared? = none := by
  obtain ⟨part, parts, split, first⟩ := declares.splitLines
  refine ⟨_, _, by simp only [linesOf, split, LineRole.ofParts, List.length_cons,
    Nat.add_sub_cancel, List.zip_cons_cons, List.map_cons]; rfl, rfl, first, ?_⟩
  intro l hl
  obtain ⟨⟨part, role⟩, mem, rfl⟩ := List.mem_map.1 hl
  have mem := (List.of_mem_zip mem).2
  rw [(List.mem_replicate.1 mem).2]
  rfl

end Block

/-- Whether an event is the writing of a line that declares an occurrence. -/
def Event.declares (a : Address) : Event → Bool
  | .wrote l => l.role = .declaration a
  | _ => false

namespace Pass

variable {s s' : Pass} {a : Address}

/-- A value has been declared. -/
def Declared (s : Pass) (a : Address) : Prop := ∃ l, .wrote l ∈ s.journal ∧ l.role = .declaration a

theorem Declared.mono (h : s.Declared a) (journal : ∀ e ∈ s.journal, e ∈ s'.journal) :
    s'.Declared a := by
  obtain ⟨l, mem, role⟩ := h
  exact ⟨l, journal _ mem, role⟩

theorem mem_journal_write {owner : Option NodeId} {text : String} {role : LineRole}
    {uses : List Address} {e : Event} :
    e ∈ (s.write owner text role uses).journal ↔
      (∃ l ∈ s.block.linesOf owner ⟨text, uses⟩ role, e = .wrote l) ∨ e ∈ s.journal := by
  simp only [write, List.mem_append, List.mem_map, List.mem_reverse]
  constructor
  · rintro (⟨l, hl, rfl⟩ | h)
    · exact .inl ⟨l, hl, rfl⟩
    · exact .inr h
  · rintro (⟨l, hl, rfl⟩ | h)
    · exact .inl ⟨l, hl, rfl⟩
    · exact .inr h

theorem mem_journal_begin {b : Address} {cause : Cause} {kind : Kind} {e : Event} :
    e ∈ (s.begin b cause kind).journal ↔
      e = .emitted b cause s.block.path ∨ (kind.hasFlowIn = true ∧ e = .arrived b) ∨
        e ∈ s.journal := by
  unfold begin
  cases kind.hasFlowIn <;> simp [note, markProcessed, visit]

theorem count_write_declares (s : Pass) (a : Address) (owner : Option NodeId) (text : String)
    (role : LineRole) (uses : List Address) :
    (s.write owner text role uses).count (Event.declares a) = s.count (Event.declares a) +
      (s.block.linesOf owner ⟨text, uses⟩ role).countP fun l => l.role = .declaration a := by
  simp only [count, write, List.countP_append, List.countP_map, List.countP_reverse]
  rw [Nat.add_comm]
  rfl

theorem countP_plain {lines : List Line} (h : ∀ l ∈ lines, l.role.declared? = none) (a : Address) :
    lines.countP (fun l => l.role = .declaration a) = 0 := by
  rw [List.countP_eq_zero]
  intro l hl role
  have plain := h l hl
  rw [show l.role = .declaration a by simpa using role] at plain
  cases plain

theorem declared_declare {owner : Option NodeId} {text : String} {uses : List Address}
    (declares : a.DeclaredBy text) : (s.write owner text (.declaration a) uses).Declared a := by
  obtain ⟨first, rest, lines, role, -⟩ :=
    s.block.linesOf_declaration owner ⟨text, uses⟩ declares
  exact ⟨first, mem_journal_write.2 (.inl ⟨first, by simp [lines], rfl⟩), role⟩

end Pass

namespace Program

variable {p : Program} {s s' : Pass} {task : Task}

/-! ### One declaration for one compilation -/

theorem Records.declarations {a b : Address} {n : Node} {kind : Kind}
    (h : p.Records b n kind s s') :
    s'.count (Event.declares a) ≤ s.count (Event.declares a) + if b = a then 1 else 0 := by
  cases h with
  | keep => exact Nat.le_add_right _ _
  | @declare t text uses type declares known =>
    obtain ⟨first, rest, lines, role, -, plain⟩ :=
      s.block.linesOf_declaration (some b.rootId) ⟨text, uses⟩ declares
    rw [Pass.count_write_declares, lines, List.countP_cons, Pass.countP_plain plain, role]
    simp
  | nothing => exact Nat.le_add_right _ _

/-- Recording a value only writes lines. -/
theorem Records.mem_journal {a : Address} {n : Node} {kind : Kind} {e : Event}
    (h : p.Records a n kind s s') (mem : e ∈ s'.journal) (other : ∀ l, e ≠ .wrote l) :
    e ∈ s.journal := by
  cases h with
  | keep | nothing => exact mem
  | declare =>
    rcases Pass.mem_journal_write.1 mem with ⟨l, -, rfl⟩ | mem
    · exact absurd rfl (other l)
    · exact mem

/-- A declaration that is recorded is the first line of the declaring text, in the open block. -/
theorem Records.declared_at {a b : Address} {n : Node} {kind : Kind} {l : Line}
    (h : p.Records b n kind s s') (mem : .wrote l ∈ s'.journal) (role : l.role = .declaration a) :
    (a = b ∧ a.DeclaredBy l.text ∧ l.block = s.block.path) ∨ .wrote l ∈ s.journal := by
  cases h with
  | keep | nothing => exact .inr mem
  | @declare t text uses type declares known =>
    rcases Pass.mem_journal_write.1 mem with ⟨l', hl, heq⟩ | mem
    · cases heq
      obtain ⟨first, rest, lines, roleFirst, declares, plain⟩ :=
        s.block.linesOf_declaration (some b.rootId) ⟨text, uses⟩ declares
      have block := (Block.of_mem_linesOf hl).1
      rw [lines] at hl
      rcases List.mem_cons.1 hl with rfl | hl
      · rw [role] at roleFirst
        cases roleFirst
        exact .inl ⟨rfl, declares, block⟩
      · have none := plain l hl
        rw [role] at none
        cases none
    · exact .inr mem

/-- Nothing is declared more often than it is compiled. -/
theorem Runs.declarations (h : p.Runs task s s') (a : Address) :
    s'.count (Event.declares a) + s.count (Event.emits a) ≤
      s.count (Event.declares a) + s'.count (Event.emits a) := by
  induction h with
  | refl => exact le_rfl
  | trans _ _ ih ih' => omega
  | asked | followed | demanded | reference =>
    simp only [Pass.count_note]
    exact le_rfl
  | imports | main | process | require => exact le_rfl
  | report =>
    simp only [Pass.count_reportAt]
    exact le_rfl
  | write plain =>
    rw [Pass.count_write_declares, Pass.count_write _ (Event.emits a) fun _ => rfl,
      Pass.countP_plain fun l hl => Block.role_of_mem_linesOf plain hl]
    exact le_rfl
  | block _ _ ih => exact ih
  | settle _ _ _ ih => exact ih
  | arrive _ _ _ ih => exact ih
  | absent => exact le_rfl
  | unknown _ _ ih => exact ih
  | again =>
    simp only [Pass.count_reportAt, Pass.count_note]
    exact le_rfl
  | @emit s s₁ s₂ s₃ cause b n kind node kindOf fresh before records after ih ih' =>
    have declared := records.declarations (a := a)
    have began := fun q => s.count_begin q b cause kind
    rw [records.count (q := Event.emits a) fun _ => rfl] at ih'
    simp only [began, Event.emits, Event.declares, decide_eq_true_eq, Bool.false_eq_true,
      and_false, if_false, Nat.add_zero] at ih
    omega

/-- A declaration stands in the block in which its node was compiled. -/
theorem Runs.declared_at (h : p.Runs task s s') {a : Address} {l : Line}
    (mem : .wrote l ∈ s'.journal) (role : l.role = .declaration a) :
    .wrote l ∈ s.journal ∨
      a.DeclaredBy l.text ∧ ∃ cause, .emitted a cause l.block ∈ s'.journal := by
  induction h with
  | refl => exact .inl mem
  | @trans s₁ s₂ s₃ _ second ih ih' =>
    rcases ih' mem with mem | declared
    · rcases ih mem with mem | ⟨declares, cause, emitted⟩
      · exact .inl mem
      · exact .inr ⟨declares, cause, second.extends.mem_journal emitted⟩
    · exact .inr declared
  | asked | followed | demanded | reference | report =>
    rcases List.mem_cons.1 mem with heq | mem
    · cases heq
    · exact .inl mem
  | imports | main | process | require => exact .inl mem
  | write plain =>
    rcases Pass.mem_journal_write.1 mem with ⟨l', hl, heq⟩ | mem
    · cases heq
      have none := Block.role_of_mem_linesOf plain hl
      rw [role] at none
      cases none
    · exact .inl mem
  | block _ _ ih => exact ih mem
  | settle _ _ _ ih => exact ih mem
  | arrive _ _ _ ih => exact ih mem
  | absent => exact .inl mem
  | unknown _ _ ih => exact ih mem
  | again =>
    rcases List.mem_cons.1 mem with heq | mem
    · cases heq
    · rcases List.mem_cons.1 mem with heq | mem
      · cases heq
      · exact .inl mem
  | @emit s s₁ s₂ s₃ cause b n kind node kindOf fresh before records after ih ih' =>
    have rest := records.extends.trans after.extends
    rcases ih' mem with mem | declared
    · rcases records.declared_at mem role with ⟨rfl, declares, block⟩ | mem
      · -- the block is that in which compiling the node began
        have path : l.block = s.block.path := by
          rw [block, before.extends.path]
          exact (Pass.Extends.begin s a cause kind).path
        have begun : .emitted a cause l.block ∈ (s.begin a cause kind).journal :=
          Pass.mem_journal_begin.2 (.inl (by rw [path]))
        exact .inr ⟨declares, cause, (before.extends.trans rest).mem_journal begun⟩
      · rcases ih mem with mem | ⟨declares, cause', emitted⟩
        · rcases Pass.mem_journal_begin.1 mem with heq | ⟨-, heq⟩ | mem
          · cases heq
          · cases heq
          · exact .inl mem
        · exact .inr ⟨declares, cause', rest.mem_journal emitted⟩
    · exact .inr declared

/-! ### Compiled values -/

/-- What is known of a value after its node was compiled: an expression is kept for it, or it is
declared, or nobody can read it. -/
def Stored (p : Program) (s : Pass) (a : Address) : Prop :=
  ∀ n kind, p.node? a = some n → p.kind? n = some kind →
    (s.results.get? a).isSome ∨ s.Declared a ∨ ∀ t, p.resultType? n kind = some t →
      kind ≠ .declaration ∧ (t.isVoid = true ∨ p.readers a resultKey = 0)

theorem Stored.mono {a : Address} (h : p.Stored s a) (journal : ∀ e ∈ s.journal, e ∈ s'.journal)
    (kept : (s.results.get? a).isSome → (s'.results.get? a).isSome) : p.Stored s' a := by
  intro n kind hn hk
  rcases h n kind hn hk with held | declared | unread
  · exact .inl (kept held)
  · exact .inr (.inl (declared.mono journal))
  · exact .inr (.inr unread)

theorem Stored.of_extends {a : Address} (h : p.Stored s a) (hs : s.Extends s') : p.Stored s' a :=
  h.mono (fun _ he => hs.mem_journal he) hs.kept

theorem Records.stored {a : Address} {n : Node} {kind : Kind} (h : p.Records a n kind s s')
    (hn : p.node? a = some n) (hk : p.kind? n = some kind) : p.Stored s' a := by
  intro n' kind' hn' hk'
  obtain rfl := Option.some.inj (hn.symm.trans hn')
  obtain rfl := Option.some.inj (hk.symm.trans hk')
  cases h with
  | keep => exact .inl (by simp [Pass.setResult])
  | declare _ declares => exact .inr (.inl (Pass.declared_declare declares))
  | nothing unread => exact .inr (.inr unread)

/-- Compiling a value on demand stores it. -/
theorem Runs.stored_visit {cause : Cause} {a : Address} {kind : Kind}
    (h : p.Runs (.visit cause a) s s') (hk : p.kindAt? a = some kind)
    (noFlow : kind.hasFlowIn = false) : p.Stored s' a := by
  cases h with
  | absent node => simp [kindAt?, node] at hk
  | unknown none => simp [none] at hk
  | again kindAt flowIn =>
    rw [hk] at kindAt
    cases kindAt
    simp [noFlow] at flowIn
  | emit node kindOf _ _ records after =>
    exact (records.stored node kindOf).of_extends after.extends

/-- An occurrence is compiled where it was reached, and its value is stored. -/
theorem Runs.emission (h : p.Runs task s s') {a : Address} {cause : Cause} {block : List Nat}
    (mem : .emitted a cause block ∈ s'.journal) :
    .emitted a cause block ∈ s.journal ∨
      (task = .visit cause a ∨ (p.Placed → p.Reached cause a)) ∧ p.Stored s' a := by
  induction h with
  | refl => exact .inl mem
  | trans _ second ih ih' =>
    rcases ih' mem with mem | compiled
    · exact (ih mem).imp_right fun compiled => ⟨compiled.1, compiled.2.of_extends second.extends⟩
    · exact .inr compiled
  | asked | followed | demanded | reference | report =>
    rcases List.mem_cons.1 mem with heq | mem
    · cases heq
    · exact .inl mem
  | imports | main | process | require => exact .inl mem
  | write =>
    rcases Pass.mem_journal_write.1 mem with ⟨l, -, heq⟩ | mem
    · cases heq
    · exact .inl mem
  | block _ _ ih => exact ih mem
  | settle _ reached _ ih | arrive _ reached _ ih =>
    -- the occurrence is the one that is settled or arrived at, or was reached inside
    rcases ih mem with mem | ⟨same | reached', stored⟩
    · exact .inl mem
    · cases same
      exact .inr ⟨.inr reached, stored⟩
    · exact .inr ⟨.inr reached', stored⟩
  | absent => exact .inl mem
  | unknown _ _ ih =>
    rcases ih mem with mem | ⟨other | reached, stored⟩
    · exact .inl mem
    · cases other
    · exact .inr ⟨.inr reached, stored⟩
  | again =>
    rcases List.mem_cons.1 mem with heq | mem
    · cases heq
    · rcases List.mem_cons.1 mem with heq | mem
      · cases heq
      · exact .inl mem
  | @emit s s₁ s₂ s₃ cause' b n kind node kindOf fresh before records after ih ih' =>
    rcases ih' mem with mem | ⟨other | reached, stored⟩
    · rcases ih (records.mem_journal mem nofun) with mem | ⟨other | reached, stored⟩
      · rcases Pass.mem_journal_begin.1 mem with heq | ⟨-, heq⟩ | mem
        · cases heq
          exact .inr ⟨.inl rfl, (records.stored node kindOf).of_extends after.extends⟩
        · cases heq
        · exact .inl mem
      · cases other
      · exact .inr ⟨.inr reached, stored.of_extends (records.extends.trans after.extends)⟩
    · cases other
    · exact .inr ⟨.inr reached, stored⟩

/-- Only nodes that are compiled are marked as such, except for calls of modules and literals. -/
theorem Runs.processed (placed : p.Placed) (h : p.Runs task s s') {a : Address}
    (mem : a ∈ s'.processed) :
    a ∈ s.processed ∨ (∃ cause block, .emitted a cause block ∈ s'.journal) ∨
      p.kindAt? a = some .moduleCall ∨ ∃ type, p.kindAt? a = some (.literal type) := by
  induction h with
  | refl => exact .inl mem
  | trans _ second ih ih' =>
    rcases ih' mem with mem | other
    · rcases ih mem with mem | ⟨cause, block, emitted⟩ | other
      · exact .inl mem
      · exact .inr (.inl ⟨cause, block, second.extends.mem_journal emitted⟩)
      · exact .inr (.inr other)
    · exact .inr other
  | asked | followed | demanded | reference | report | imports | main | require | write | absent
  | again => exact .inl mem
  | process kind =>
    rcases mem_addNew.1 mem with mem | rfl
    · exact .inl mem
    · exact .inr (.inr (kind placed))
  | block _ _ ih => exact ih mem
  | settle _ _ _ ih => exact ih mem
  | arrive _ _ _ ih => exact ih mem
  | unknown _ _ ih => exact ih mem
  | @emit s s₁ s₂ s₃ cause b n kind node kindOf fresh before records after ih ih' =>
    have rest := records.extends.trans after.extends
    rcases ih' mem with mem | other
    · have same : s₂.processed = s₁.processed := by cases records <;> rfl
      rw [same] at mem
      rcases ih mem with mem | ⟨cause', block, emitted⟩ | other
      · have began : a ∈ s.processed ∨ a = b := by
          unfold Pass.begin at mem
          cases hf : kind.hasFlowIn <;> simp only [hf] at mem <;> exact mem_addNew.1 mem
        rcases began with mem | rfl
        · exact .inl mem
        · exact .inr (.inl ⟨cause, s.block.path, (before.extends.trans rest).mem_journal
            (Pass.mem_journal_begin.2 (.inl rfl))⟩)
      · exact .inr (.inl ⟨cause', block, rest.mem_journal emitted⟩)
      · exact .inr (.inr other)
    · exact .inr other

/-! ### Identifiers that were handed out -/

/-- A value that is referred to by its identifier: somebody reads it, and if it is compiled on
demand then it is declared. -/
def Named (p : Program) (s : Pass) (a : Address) : Prop :=
  ∀ kind, p.kindAt? a = some kind → kind.isValue = true →
    (∃ v, v.address = a ∧ p.Feeds v kind) ∧ a ∈ s.required ∧
      (kind.hasFlowIn = false → s.Declared a)

theorem Named.mono {a : Address} (h : p.Named s a) (journal : ∀ e ∈ s.journal, e ∈ s'.journal)
    (required : s.required ⊆ s'.required) : p.Named s' a := by
  intro kind hk value
  obtain ⟨read, mem, declared⟩ := h kind hk value
  exact ⟨read, required mem, fun noFlow => (declared noFlow).mono journal⟩

/-- Every identifier that was handed out stands for a value that is declared or left to the flow,
and lines come after the declarations that they use. -/
structure Sourced (p : Program) (s : Pass) : Prop where
  finished : ∀ {a kind}, a ∈ s.started → a ∉ s.resolving → p.kindAt? a = some kind →
    kind.hasFlowIn = false → p.Stored s a
  handed : ∀ {c port v value a}, .referenced c port v value ∈ s.journal → a ∈ value.uses →
    p.Named s a
  kept : ∀ {b value a}, s.results.get? b = some value → a ∈ value.uses → p.Named s a
  used : ∀ {l a}, .wrote l ∈ s.journal → a ∈ l.uses → p.Named s a
  ordered : ∀ {l older a kind}, (.wrote l :: older) <:+ s.journal → a ∈ l.uses →
    p.kindAt? a = some kind → kind.isValue = true → kind.hasFlowIn = false →
    ∃ d, .wrote d ∈ older ∧ d.role = .declaration a

theorem suffix_append_cases {α : Type} {x : α} {older new l : List α}
    (h : (x :: older) <:+ new ++ l) : (x :: older) <:+ l ∨ x ∈ new ∧ l <:+ older := by
  induction new with
  | nil => exact .inl h
  | cons e new ih =>
    rcases List.suffix_cons_iff.1 h with heq | h
    · obtain ⟨rfl, rfl⟩ := List.cons.inj heq
      exact .inr ⟨List.mem_cons_self .., List.suffix_append ..⟩
    · rcases ih h with h | ⟨mem, h⟩
      · exact .inl h
      · exact .inr ⟨List.mem_cons_of_mem _ mem, h⟩

theorem sourced_initial (p : Program) : p.Sourced {} where
  finished h := by cases h
  handed h := by cases h
  kept h := by cases h
  used h := by cases h
  ordered h := by simp at h

namespace Sourced

/-- New events, if their texts and lines use what is known. -/
theorem of_events (h : p.Sourced s) (new : List Event) (journal : s'.journal = new ++ s.journal)
    (required : s.required ⊆ s'.required) (started : s'.started = s.started)
    (resolving : s'.resolving = s.resolving) (results : s'.results = s.results)
    (handed : ∀ {c port v value a}, .referenced c port v value ∈ new → a ∈ value.uses →
      p.Named s a)
    (used : ∀ {l a}, .wrote l ∈ new → a ∈ l.uses → p.Named s a) : p.Sourced s' := by
  have grown : ∀ e ∈ s.journal, e ∈ s'.journal := by
    intro e he
    rw [journal]
    exact List.mem_append_right new he
  constructor
  · intro a kind hs hr hk noFlow
    rw [started] at hs
    rw [resolving] at hr
    exact (h.finished hs hr hk noFlow).mono grown (by rw [results]; exact id)
  · intro c port v value a mem use
    rw [journal] at mem
    rcases List.mem_append.1 mem with mem | mem
    · exact (handed mem use).mono grown required
    · exact (h.handed mem use).mono grown required
  · intro b value a held use
    rw [results] at held
    exact (h.kept held use).mono grown required
  · intro l a mem use
    rw [journal] at mem
    rcases List.mem_append.1 mem with mem | mem
    · exact (used mem use).mono grown required
    · exact (h.used mem use).mono grown required
  · intro l older a kind suffix use hk value noFlow
    rw [journal] at suffix
    rcases suffix_append_cases suffix with suffix | ⟨mem, suffix⟩
    · exact h.ordered suffix use hk value noFlow
    · -- the line is new, and the declaration was there before it
      obtain ⟨-, -, declared⟩ := used mem use kind hk value
      obtain ⟨d, hd, role⟩ := declared noFlow
      exact ⟨d, suffix.subset hd, role⟩

theorem note (h : p.Sourced s) {e : Event} (line : e.line? = none)
    (silent : ∀ c port v value, e ≠ .referenced c port v value) : p.Sourced (s.note e) := by
  refine h.of_events [e] rfl (List.Subset.refl _) rfl rfl rfl ?_ ?_
  · intro c port v value a mem _
    exact absurd (List.mem_singleton.1 mem).symm (silent c port v value)
  · intro l a mem _
    rw [← List.mem_singleton.1 mem] at line
    cases line

/-- Marks that no law is about. -/
theorem of_marks (h : p.Sourced s) (journal : s'.journal = s.journal)
    (required : s.required ⊆ s'.required) (started : s'.started = s.started)
    (resolving : s'.resolving = s.resolving) (results : s'.results = s.results) : p.Sourced s' :=
  h.of_events [] journal required started resolving results (fun mem => by cases mem)
    fun mem => by cases mem

theorem named_of_known (h : p.Sourced s) {uses : List Address} (known : s.Known uses)
    {a : Address} (use : a ∈ uses) : p.Named s a := by
  obtain ⟨c, port, v, value, mem, use⟩ := known a use
  exact h.handed mem use

theorem write (h : p.Sourced s) {owner : Option NodeId} {text : String} {role : LineRole}
    {uses : List Address} (known : s.Known uses) : p.Sourced (s.write owner text role uses) := by
  refine h.of_events ((s.block.linesOf owner ⟨text, uses⟩ role).reverse.map .wrote) rfl
    (List.Subset.refl _) rfl rfl rfl ?_ ?_
  · intro c port v value a mem _
    simp at mem
  · intro l a mem use
    obtain ⟨l', hl, heq⟩ := List.mem_map.1 mem
    cases heq
    rw [(Block.of_mem_linesOf (List.mem_reverse.1 hl)).2] at use
    exact h.named_of_known known use

theorem setResult (h : p.Sourced s) {a : Address} {text : String} {uses : List Address}
    (known : s.Known uses) : p.Sourced (s.setResult a text uses) where
  finished hs hr hk noFlow :=
    (h.finished hs hr hk noFlow).of_extends (.setResult ..)
  handed := h.handed
  kept {b value a'} held use := by
    unfold Pass.setResult at held
    rw [OrderedMap.get?_insert] at held
    split_ifs at held
    · cases held
      exact h.named_of_known known use
    · exact h.kept held use
  used := h.used
  ordered := h.ordered

/-- The text for a value uses what is known: what its expression uses, or its own identifier. -/
theorem named_of_valueOf (h : p.Sourced s) (linked : p.Linked) (acyclic : s.Acyclic)
    {v : Producer} (settled : p.Settled s v) {a : Address} (use : a ∈ (p.valueOf s v).uses) :
    p.Named s a := by
  have result : a ∈ (s.result v.address).uses := by
    unfold valueOf at use
    split at use
    · split at use
      · cases use
      · exact use
    · split at use
      · cases use
      · exact use
    · exact use
  unfold Pass.result at result
  cases held : s.results.get? v.address with
  | some value =>
    rw [held] at result
    exact h.kept held result
  | none =>
    rw [held] at result
    cases List.mem_singleton.1 result
    intro kind hk value
    obtain ⟨kind', feeds, known⟩ := settled
    have kindAt : p.kindAt? v.address = some kind' := by
      obtain ⟨b, port, w, n, -, hw, rfl, hn, -⟩ := feeds
      simp [kindAt?, linked.placed.node?_feeding hw, hn]
    rw [kindAt] at hk
    cases hk
    rcases known with ⟨rfl, -⟩ | ⟨-, required, lazy⟩
    · cases value
    · refine ⟨⟨v, rfl, feeds⟩, required, fun noFlow => ?_⟩
      obtain ⟨started, cyclic⟩ := lazy (by simp [Kind.isLazy, noFlow])
      -- it was compiled, no expression is kept for it, and it is read
      obtain ⟨readers, n, hn, hkind, t, type, void⟩ := linked.feeds feeds value
      rcases h.finished started (fun hr => acyclic _ (cyclic hr)) kindAt noFlow n kind hn hkind
        with kept | declared | unread
      · simp [held] at kept
      · exact declared
      · obtain ⟨other, hvoid | none⟩ := unread t type
        · simp [void other] at hvoid
        · exact absurd none readers

theorem reference (h : p.Sourced s) (linked : p.Linked) (acyclic : s.Acyclic) {v : Producer}
    (settled : p.Settled s v) (a : Address) (port : String) :
    p.Sourced (s.note (.referenced a port v (p.valueOf s v))) := by
  refine h.of_events [_] rfl (List.Subset.refl _) rfl rfl rfl ?_ ?_
  · intro c port' v' value b mem use
    cases List.mem_singleton.1 mem
    exact h.named_of_valueOf linked acyclic settled use
  · intro l b mem _
    cases List.mem_singleton.1 mem

theorem reportAt (h : p.Sourced s) (a : Address) (cause : Problem) :
    p.Sourced (s.reportAt p a cause) := by
  refine h.of_events [.problem a cause] rfl (List.Subset.refl _) rfl rfl rfl ?_ ?_
  · intro c port v value b mem _
    cases List.mem_singleton.1 mem
  · intro l b mem _
    cases List.mem_singleton.1 mem

theorem begin (h : p.Sourced s) (a : Address) (cause : Cause) (kind : Kind) :
    p.Sourced (s.begin a cause kind) := by
  have entered : p.Sourced (if kind.hasFlowIn then (s.note (.arrived a)).visit a else s) := by
    split_ifs
    · have noted := h.note (e := .arrived a) rfl nofun
      exact noted.of_marks rfl (List.Subset.refl _) rfl rfl rfl
    · exact h
  have processed : p.Sourced ((if kind.hasFlowIn then (s.note (.arrived a)).visit a
      else s).markProcessed a) := entered.of_marks rfl (List.Subset.refl _) rfl rfl rfl
  exact processed.note rfl nofun

/-- A value is started on: nothing has to be known of it while it is being worked on. -/
theorem start (h : p.Sourced s) (a : Address) : p.Sourced ((s.start a).beginResolving a) where
  finished {b kind} hs hr hk noFlow := by
    rcases mem_addNew.1 hs with hs | rfl
    · exact h.finished hs (fun hr' => hr (mem_addNew.2 (.inl hr'))) hk noFlow
    · exact absurd (mem_addNew.2 (.inr rfl)) hr
  handed := h.handed
  kept := h.kept
  used := h.used
  ordered := h.ordered

theorem endResolving (h : p.Sourced s) {a : Address}
    (stored : ∀ {kind}, p.kindAt? a = some kind → kind.hasFlowIn = false → p.Stored s a) :
    p.Sourced (s.endResolving a) where
  finished {b kind} hs hr hk noFlow := by
    by_cases hb : b = a
    · subst hb
      exact stored hk noFlow
    · exact h.finished hs (fun hr' => hr (List.mem_filter.2 ⟨hr', by simp [hb]⟩)) hk noFlow
  handed := h.handed
  kept := h.kept
  used := h.used
  ordered := h.ordered

end Sourced

/-- Steps that find no cycle hand out no identifier without a source. -/
theorem Runs.sourced (linked : p.Linked) (h : p.Runs task s s') (acyclic : s'.Acyclic)
    (hs : p.Sourced s) : p.Sourced s' := by
  induction h with
  | refl => exact hs
  | trans _ second ih ih' => exact ih' acyclic (ih (acyclic.of_extends second.extends) hs)
  | asked | followed | demanded => exact hs.note rfl nofun
  | imports | main | process => exact hs.of_marks rfl (List.Subset.refl _) rfl rfl rfl
  | require => exact hs.of_marks rfl (Pass.Extends.require ..).required rfl rfl rfl
  | report => exact hs.reportAt ..
  | reference settled =>
    exact hs.reference linked (acyclic.of_extends (.note _ rfl rfl)) (settled linked.placed) ..
  | write _ known => exact hs.write known
  | block _ _ ih =>
    have inner := ih acyclic ⟨hs.finished, hs.handed, hs.kept, hs.used, hs.ordered⟩
    exact ⟨inner.finished, inner.handed, inner.kept, inner.used, inner.ordered⟩
  | settle _ _ inner ih =>
    exact (ih acyclic (hs.start _)).endResolving fun hk noFlow => inner.stored_visit hk noFlow
  | arrive _ _ _ ih => exact ih acyclic hs
  | absent => exact hs
  | unknown _ _ ih => exact ih acyclic hs
  | @again _ _ a =>
    have noted := hs.note (e := .arrived a) rfl nofun
    exact noted.reportAt ..
  | emit node kindOf _ before records after ih ih' =>
    have done := acyclic.of_extends after.extends
    have began := ih (done.of_extends records.extends) (hs.begin ..)
    refine ih' acyclic ?_
    cases records with
    | keep _ _ _ known => exact began.setResult known
    | declare _ _ known => exact began.write known
    | nothing => exact began

end Program

/-! ### Finished passes -/

theorem Diagnostics.isEmpty_foldl {d : Diagnostics} {message : String} {ids : List NodeId}
    (h : (ids.foldl (·.addNode · message) d).isEmpty = true) : ids = [] ∧ d.isEmpty = true := by
  induction ids using List.reverseRecOn with
  | nil => exact ⟨rfl, h⟩
  | append_singleton ids id _ =>
    rw [List.foldl_concat, Diagnostics.isEmpty_addNode] at h
    cases h

theorem mem_foldl_addNew {α : Type} [DecidableEq α] {xs l : List α} {x : α} :
    x ∈ xs.foldl addNew l ↔ x ∈ l ∨ x ∈ xs := by
  induction xs generalizing l with
  | nil => simp
  | cons y ys ih =>
    rw [List.foldl_cons, ih, mem_addNew, List.mem_cons]
    tauto

namespace Pass

variable {s : Pass}

/-- A pass without diagnostics has compiled every value that is used. -/
theorem clean_finish {settings : Settings} (h : (s.finish settings).diagnostics.isEmpty = true) :
    s.diagnostics.isEmpty = true ∧ ∀ a ∈ s.required, a ∈ s.processed := by
  obtain ⟨none, clean⟩ := Diagnostics.isEmpty_foldl h
  refine ⟨clean, fun a ha => ?_⟩
  by_contra left
  have mem : a.rootId ∈ s.unprocessed :=
    mem_foldl_addNew.2 (.inr (List.mem_map.2 ⟨a, List.mem_filter.2 ⟨ha, by simpa using left⟩, rfl⟩))
  rw [none] at mem
  cases mem

/-- A line of the body sees the declaration of a value: it comes later, in the same block or in one
below it. -/
def Sees (s : Pass) (j : Nat) (l : Line) (a : Address) : Prop :=
  ∃ i d, s.body[i]? = some d ∧ d.role = .declaration a ∧ i < j ∧ d.block <:+ l.block

theorem sees_iff {j : Nat} {l : Line} {a : Address} :
    s.Sees j l a ↔ ∃ d ∈ s.body.take j, d.role = .declaration a ∧ d.block <:+ l.block := by
  constructor
  · rintro ⟨i, d, place, role, lt, inside⟩
    have mem : (s.body.take j)[i]? = some d := by rw [List.getElem?_take, if_pos lt, place]
    exact ⟨d, List.mem_of_getElem? mem, role, inside⟩
  · rintro ⟨d, mem, role, inside⟩
    obtain ⟨i, place⟩ := List.getElem?_of_mem mem
    rw [List.getElem?_take] at place
    split_ifs at place with lt
    exact ⟨i, d, place, role, lt, inside⟩

instance (s : Pass) (j : Nat) (l : Line) (a : Address) : Decidable (s.Sees j l a) :=
  decidable_of_iff _ sees_iff.symm

end Pass

/-- Cutting a list at an element that is picked out. -/
theorem exists_suffix_of_getElem? {α β : Type} {f : α → Option β} {xs : List α} {j : Nat} {y : β}
    (h : (xs.filterMap f).reverse[j]? = some y) :
    ∃ x older, f x = some y ∧ (x :: older) <:+ xs ∧
      (older.filterMap f).reverse = (xs.filterMap f).reverse.take j := by
  induction xs with
  | nil => simp at h
  | cons x xs ih =>
    cases hx : f x with
    | none =>
      rw [List.filterMap_cons_none hx] at h ⊢
      obtain ⟨x', older, hy, suffix, front⟩ := ih h
      exact ⟨x', older, hy, suffix.trans (List.suffix_cons ..), front⟩
    | some z =>
      rw [List.filterMap_cons_some hx, List.reverse_cons] at h ⊢
      rcases Nat.lt_or_ge j (xs.filterMap f).reverse.length with lt | ge
      · rw [List.getElem?_append_left lt] at h
        obtain ⟨x', older, hy, suffix, front⟩ := ih h
        refine ⟨x', older, hy, suffix.trans (List.suffix_cons ..), ?_⟩
        rw [List.take_append_of_le_length lt.le]
        exact front
      · -- the element is the newest
        rw [List.getElem?_append_right ge] at h
        obtain ⟨last, rfl⟩ : j - (xs.filterMap f).reverse.length = 0 ∧ z = y := by
          cases hj : j - (xs.filterMap f).reverse.length with
          | zero =>
            rw [hj] at h
            exact ⟨rfl, Option.some.inj h⟩
          | succ k =>
            rw [hj] at h
            cases h
        refine ⟨x, xs, hx, List.suffix_refl _, ?_⟩
        rw [show j = (xs.filterMap f).reverse.length by omega, List.take_left]

/-- Where at most one element has a property, it stands in one place. -/
theorem eq_of_countP_le_one {α : Type} {q : α → Bool} {l : List α} (h : l.countP q ≤ 1) {i j : Nat}
    {x y : α} (hi : l[i]? = some x) (hj : l[j]? = some y) (hx : q x = true) (hy : q y = true) :
    i = j := by
  have ordered : ∀ {i j : Nat} {x y : α}, l[i]? = some x → l[j]? = some y → q x = true →
      q y = true → ¬ i < j := by
    intro i j x y hi hj hx hy lt
    have split : (l.take (i + 1) ++ l.drop (i + 1)).countP q =
        (l.take (i + 1)).countP q + (l.drop (i + 1)).countP q := List.countP_append
    rw [List.take_append_drop] at split
    have first : 0 < (l.take (i + 1)).countP q := List.countP_pos_iff.2
      ⟨x, List.mem_of_getElem? (i := i) (by rw [List.getElem?_take]; simpa using hi), hx⟩
    have second : 0 < (l.drop (i + 1)).countP q := List.countP_pos_iff.2
      ⟨y, List.mem_of_getElem? (i := j - (i + 1)) (by
        rw [List.getElem?_drop, show i + 1 + (j - (i + 1)) = j by omega]
        exact hj), hy⟩
    omega
  have := ordered hi hj hx hy
  have := ordered hj hi hy hx
  omega

namespace Program

variable {p : Program} {s : Pass}

namespace Ends

/-- The lines of the body are those of the journal. -/
theorem body_eq (h : p.Ends s) : s.body = (s.journal.filterMap Event.line?).reverse := by
  obtain ⟨new, journal, lines⟩ := h.runs.extends.grows
  have journal : s.journal = new := by simpa using journal
  have lines : s.block.lines = new.filterMap Event.line? := by simpa using lines
  rw [Pass.body, lines, journal]

theorem mem_body (h : p.Ends s) {l : Line} : l ∈ s.body ↔ .wrote l ∈ s.journal := by
  rw [h.body_eq, List.mem_reverse, List.mem_filterMap]
  constructor
  · rintro ⟨e, mem, line⟩
    cases e <;> cases line
    exact mem
  · exact fun mem => ⟨_, mem, rfl⟩

/-- A pass without diagnostics has met with no problem. -/
theorem no_problem (h : p.Ends s) (clean : s.diagnostics.isEmpty = true) {a : Address}
    {cause : Problem} : .problem a cause ∉ s.journal := by
  intro mem
  rcases h.runs.extends.problems mem with mem | dirty
  · cases mem
  · simp [clean] at dirty

theorem acyclic (h : p.Ends s) (clean : s.diagnostics.isEmpty = true) : s.Acyclic :=
  fun _ => h.no_problem clean

/-- The entries of a program are definitions, records and code. -/
theorem isValue_of_entry (linked : p.Linked) {a : Address} {kind : Kind}
    (reached : p.Reached .entry a) (hk : p.kindAt? a = some kind) : kind.isValue = false := by
  obtain ⟨n, entry, rfl⟩ := List.mem_map.1 (show a ∈ p.entries from reached)
  obtain ⟨entry, top⟩ := List.mem_filter.1 entry
  obtain ⟨id, hn⟩ := OrderedMap.mem_values_iff.1 entry
  have node : p.node? (Address.root n.id) = some n :=
    linked.placed.node?_sibling (a := Address.root n.id) (g := p.root) rfl hn
  have kindAt : p.kind? n = some kind := by simpa [kindAt?, node] using hk
  cases kind <;> simp [kindAt, Kind.isTopLevel] at top <;> rfl

/-- The flow compiles the values that it enters, and all others are compiled on demand. -/
theorem cause_eq (h : p.Ends s) (linked : p.Linked) {a : Address} {kind : Kind}
    (hk : p.kindAt? a = some kind) (value : kind.isValue = true) {cause : Cause}
    {block : List Nat} (mem : .emitted a cause block ∈ s.journal) :
    cause = if kind.hasFlowIn then .flow else .demand := by
  rcases h.runs.emission mem with mem | ⟨other | reached, -⟩
  · cases mem
  · cases other
  · have reached := reached linked.placed
    cases cause with
    | demand =>
      obtain ⟨kind', hk', -, noFlow⟩ := linked.reached_demand reached
      rw [hk] at hk'
      cases hk'
      simp [noFlow]
    | flow =>
      obtain ⟨kind', hk', flowIn⟩ := linked.reached_flow reached
      rw [hk] at hk'
      cases hk'
      simp [flowIn]
    | entry => simp [isValue_of_entry linked reached hk] at value

/-- A value is compiled at most once. -/
theorem compiled (h : p.Ends s) (linked : p.Linked) {a : Address} {kind : Kind}
    (hk : p.kindAt? a = some kind) (value : kind.isValue = true) :
    s.count (Event.emits a) ≤ 1 := by
  have initial : ∀ q, ({} : Pass).count q = 0 := fun _ => rfl
  cases flowIn : kind.hasFlowIn with
  | true =>
    have emissions := h.runs.emissions_flowIn hk flowIn
    simp only [initial, List.not_mem_nil, if_false] at emissions
    split_ifs at emissions <;> omega
  | false =>
    have once := h.runs.emissions_demand a
    simp only [initial, List.not_mem_nil, if_false, Task.demands] at once
    -- every time it is compiled counts as one on demand
    have same : s.count (Event.emits a) = s.count (Event.emitsBy .demand a) := by
      refine List.countP_congr fun e mem => ?_
      cases e with
      | emitted b cause block =>
        simp only [Event.emits, Event.emitsBy, Bool.and_eq_true, decide_eq_true_eq]
        refine ⟨fun hb => ⟨hb, ?_⟩, fun hb => hb.1⟩
        simpa [flowIn] using h.cause_eq linked hk value (hb ▸ mem)
      | _ => exact Iff.rfl
    rw [same]
    split_ifs at once <;> omega

/-- A declaring line of a finished pass declares what its role says. -/
theorem declaredBy (h : p.Ends s) {i : Nat} {d : Line} {a : Address}
    (line : s.body[i]? = some d) (role : d.role = .declaration a) : a.DeclaredBy d.text := by
  rcases h.runs.declared_at (h.mem_body.1 (List.mem_of_getElem? line)) role with
    none | ⟨declares, -⟩
  · cases none
  · exact declares

/-- A value is declared by at most one line of a finished pass. -/
theorem declarations (h : p.Ends s) (linked : p.Linked) {a : Address} {kind : Kind}
    (hk : p.kindAt? a = some kind) (value : kind.isValue = true) :
    s.body.countP (fun d => d.role = .declaration a) ≤ 1 := by
  have once := h.compiled linked hk value
  have counted := h.runs.declarations a
  have same : s.body.countP (fun d => d.role = .declaration a) = s.count (Event.declares a) := by
    rw [h.body_eq, List.countP_reverse, List.countP_filterMap, Pass.count]
    refine List.countP_congr fun e _ => ?_
    cases e <;> simp [Event.declares, Event.line?]
  have initial : ∀ q, ({} : Pass).count q = 0 := fun _ => rfl
  simp only [initial] at counted
  omega

/-- In a pass without diagnostics, every value that is referred to by its identifier is declared. -/
theorem declared_of_named (h : p.Ends s) (linked : p.Linked)
    (clean : (s.finish p.settings).diagnostics.isEmpty = true) {a : Address} {kind : Kind}
    (named : p.Named s a) (hk : p.kindAt? a = some kind) (value : kind.isValue = true) :
    s.Declared a := by
  obtain ⟨-, complete⟩ := Pass.clean_finish clean
  obtain ⟨⟨v, rfl, feeds⟩, required, declared⟩ := named kind hk value
  cases flowIn : kind.hasFlowIn with
  | false => exact declared flowIn
  | true =>
    -- the flow has compiled it, and it is read
    obtain ⟨readers, n, hn, hkind, t, type, void⟩ := linked.feeds feeds value
    rcases h.runs.processed linked.placed (complete _ required) with
      none | ⟨cause, block, emitted⟩ | call | ⟨_, literal⟩
    · cases none
    · rcases h.runs.emission emitted with none | ⟨-, stored⟩
      · cases none
      · rcases stored n kind hn hkind with kept | declared | unread
        · obtain ⟨e, he⟩ := Option.isSome_iff_exists.1 kept
          have steady := h.runs.steady linked.placed nofun (steady_initial p)
          simp [steady.kept he hk] at flowIn
        · exact declared
        · obtain ⟨other, hvoid | none⟩ := unread t type
          · simp [void other] at hvoid
          · exact absurd none readers
    · rw [hk] at call
      cases call
      cases value
    · rw [hk] at literal
      cases literal
      cases flowIn

/-- A finished pass without diagnostics has handed out no identifier without a source. -/
theorem sourced (h : p.Ends s) (linked : p.Linked)
    (clean : (s.finish p.settings).diagnostics.isEmpty = true) : p.Sourced s :=
  h.runs.sourced linked (h.acyclic (Pass.clean_finish clean).1) (sourced_initial p)

/-- The declaration comes before the line, unless only the flow can compile the node. -/
theorem exists_declaration (h : p.Ends s) (linked : p.Linked)
    (clean : (s.finish p.settings).diagnostics.isEmpty = true) {j : Nat} {l : Line} {a : Address}
    {kind : Kind} (line : s.body[j]? = some l) (use : a ∈ l.uses)
    (hk : p.kindAt? a = some kind) (value : kind.isValue = true) :
    ∃ i d, s.body[i]? = some d ∧ d.role = .declaration a ∧ (kind.hasFlowIn = false → i < j) := by
  cases flowIn : kind.hasFlowIn with
  | true =>
    have written := h.mem_body.1 (List.mem_of_getElem? line)
    have named := (h.sourced linked clean).used written use
    obtain ⟨d, mem, role⟩ := h.declared_of_named linked clean named hk value
    obtain ⟨i, place⟩ := List.getElem?_of_mem (h.mem_body.2 mem)
    exact ⟨i, d, place, role, nofun⟩
  | false =>
    rw [h.body_eq] at line
    obtain ⟨e, older, he, suffix, front⟩ := exists_suffix_of_getElem? line
    have written : e = .wrote l := by
      cases e <;> cases he
      rfl
    subst written
    obtain ⟨d, mem, role⟩ := (h.sourced linked clean).ordered suffix use hk value flowIn
    have mem : d ∈ s.body.take j := by
      rw [h.body_eq, ← front, List.mem_reverse, List.mem_filterMap]
      exact ⟨_, mem, rfl⟩
    obtain ⟨i, place⟩ := List.getElem?_of_mem mem
    rw [List.getElem?_take] at place
    split_ifs at place with lt
    exact ⟨i, d, place, role, fun _ => lt⟩

end Ends

end Program

end FlowScript
