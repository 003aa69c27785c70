import FlowScript.Proofs.Cycles
import FlowScript.Proofs.Fuel
import Mathlib.Data.Set.Function

/-!
# Identifiers

Identifiers are made up from addresses, whose numbers can be read back from them.  A parameter of a
definition has the identifier that a node inside it would have, if the definition were a call of a
module; but a pass expands calls of modules only, so there is no such node.

* `Address.suffix_injective`, `Address.ident_injective`: addresses are read back;
* `Identifier`: what identifiers are made up for; `Program.Coins`: by which nodes;
* `Program.Unfolds`: passes that may go on forever, as far as they go down to some depth;
* `Program.Unfolds.text_injOn`: no two identifiers of a pass are the same text;
* `Program.Ends.declared_once`: an identifier that is handed out is declared by one line.
-/

namespace FlowScript

/-! ### Reading addresses back -/

namespace Address

/-- The numbers of an address stand between the underscores of its suffix. -/
theorem splitOn_suffix (a : Address) :
    a.suffix.toList.splitOn '_' = a.numbers.map Decimal.digits := by
  have digits : String.toList ∘ Decimal.text = Decimal.digits := by
    funext n
    exact String.toList_ofList
  rw [suffix, String.toList_intercalate, List.map_map, digits]
  refine List.splitOn_intercalate '_' (fun l hl mem => ?_) (by simp [numbers])
  obtain ⟨n, -, rfl⟩ := List.mem_map.1 hl
  exact absurd (Decimal.isDigit_of_mem_digits mem) (by decide)

theorem numbers_injective : Function.Injective numbers := by
  rintro ⟨path, id⟩ ⟨path', id'⟩ h
  obtain ⟨rfl, same⟩ := List.append_inj' h rfl
  cases same
  rfl

theorem suffix_injective : Function.Injective suffix := by
  intro a b h
  have parts : a.numbers.map Decimal.digits = b.numbers.map Decimal.digits := by
    rw [← splitOn_suffix, ← splitOn_suffix, h]
  exact numbers_injective
    (List.map_injective_iff.2 (fun _ _ same => Decimal.digits_injective same) parts)

theorem ident_injective : Function.Injective ident := by
  intro a b h
  exact suffix_injective ((String.append_right_inj "_").1 h)

theorem inside_injective {a b : Address} {i j : NodeId} (h : a.inside i = b.inside j) :
    a = b ∧ i = j := by
  have site := congrArg callSite? h
  rw [callSite?_inside, callSite?_inside, Option.some.injEq] at site
  exact ⟨site, congrArg Address.id h⟩

theorem suffix_cons (i : NodeId) (a : Address) :
    (⟨i :: a.path, a.id⟩ : Address).suffix = Decimal.text i ++ "_" ++ a.suffix := by
  obtain ⟨path, id⟩ := a
  cases path <;> simp [suffix, numbers]

theorem suffix_inside (a : Address) (i : NodeId) :
    (a.inside i).suffix = a.suffix ++ "_" ++ Decimal.text i := by
  obtain ⟨path, id⟩ := a
  induction path with
  | nil => simp [suffix, numbers, inside]
  | cons j path ih =>
    have front := suffix_cons j ⟨path, id⟩
    have frontInside := suffix_cons j (inside ⟨path, id⟩ i)
    simp only [inside, List.cons_append] at front frontInside ih ⊢
    rw [front, frontInside, ih]
    simp only [String.append_assoc]

/-- A parameter has the identifier of a node inside the definition. -/
theorem paramIdent_eq (a : Address) (i : Nat) : a.paramIdent i = (a.inside i).ident := by
  simp only [paramIdent, ident, suffix_inside, String.append_assoc]

/-- An index has the number of its range in front of the address. -/
theorem indexIdent_eq (a : Address) (i : Nat) :
    a.indexIdent i = "x" ++ (⟨i :: a.path, a.id⟩ : Address).suffix := by
  simp only [indexIdent, suffix_cons, String.append_assoc]

theorem paramIdent_injective {a b : Address} {i j : Nat} (h : a.paramIdent i = b.paramIdent j) :
    a = b ∧ i = j := by
  rw [paramIdent_eq, paramIdent_eq] at h
  exact inside_injective (ident_injective h)

theorem indexIdent_injective {a b : Address} {i j : Nat} (h : a.indexIdent i = b.indexIdent j) :
    a = b ∧ i = j := by
  rw [indexIdent_eq, indexIdent_eq] at h
  have same := suffix_injective ((String.append_right_inj "x").1 h)
  obtain ⟨path, id⟩ := a
  obtain ⟨path', id'⟩ := b
  simp_all

/-- The indices of loops are told from all other identifiers by their first character. -/
theorem indexIdent_ne_ident (a b : Address) (i : Nat) : a.indexIdent i ≠ b.ident := by
  intro h
  have first := congrArg (fun s => s.toList.head?) h
  simp [indexIdent, ident, String.toList_append] at first

theorem indexIdent_ne_paramIdent (a b : Address) (i j : Nat) :
    a.indexIdent i ≠ b.paramIdent j := by
  rw [paramIdent_eq]
  exact indexIdent_ne_ident a (b.inside j) i

end Address

/-! ### What identifiers are made up for -/

/-- An identifier that is made up, by what it stands for: the value of an occurrence, a definition
without a name, a parameter of a definition, or an index of a loop. -/
inductive Identifier
  | value (a : Address)
  | name (a : Address)
  | parameter (a : Address) (i : Nat)
  | index (a : Address) (i : Nat)
  deriving DecidableEq

/-- The occurrence that an identifier belongs to. -/
def Identifier.address : Identifier → Address
  | value a | name a | parameter a _ | index a _ => a

/-- The text of an identifier. -/
def Identifier.text : Identifier → String
  | value a | name a => a.ident
  | parameter a i => a.paramIdent i
  | index a i => a.indexIdent i

namespace Program

/-- The nodes for which identifiers are made up: literals, calls and variables for their values,
functions and records that are given no name, functions for their parameters, and loops. -/
def Coins (p : Program) : Identifier → Prop
  | .value a => ∃ kind, p.kindAt? a = some kind ∧ kind.isValue = true
  | .name a => ∃ n, p.node? a = some n ∧ n.filledText? "name" = none ∧
      (p.kind? n = some .definition ∨ p.kind? n = some .record)
  | .parameter a _ => p.kindAt? a = some .definition
  | .index a _ => p.kindAt? a = some .forLoop

variable {p : Program}

/-- A parameter has no identifier of an occurrence, since what lies inside an occurrence is on a path
only if the occurrence calls a module. -/
theorem OnPath.ident_ne_paramIdent {a b : Address} {i : Nat} (h : p.OnPath a.path)
    (hb : p.kindAt? b = some .definition) : a.ident ≠ b.paramIdent i := by
  intro same
  rw [Address.paramIdent_eq] at same
  obtain rfl := Address.ident_injective same
  obtain ⟨-, n, hn, hk⟩ := h.callSite (Address.callSite?_inside b i)
  rw [kindAt?_of_node? hn hk] at hb
  cases hb

/-- An occurrence has a value, or it has a name. -/
theorem Coins.value_or_name {a : Address} (value : p.Coins (.value a)) : ¬ p.Coins (.name a) := by
  rintro ⟨n, hn, -, hk | hk⟩
  all_goals
    obtain ⟨kind, hk', isValue⟩ := value
    rw [kindAt?_of_node? hn hk] at hk'
    cases hk'
    cases isValue

/-- Below the calls that are expanded, different identifiers are different texts. -/
theorem Coins.eq_of_text_eq {x y : Identifier} (hx : p.Coins x) (hy : p.Coins y)
    (pathx : p.OnPath x.address.path) (pathy : p.OnPath y.address.path)
    (same : x.text = y.text) : x = y := by
  cases x with
  | value a =>
    cases y with
    | value b => rw [Address.ident_injective same]
    | name b =>
      obtain rfl := Address.ident_injective same
      exact absurd hy hx.value_or_name
    | parameter b j => exact absurd same (pathx.ident_ne_paramIdent hy)
    | index b j => exact absurd same.symm (Address.indexIdent_ne_ident b a j)
  | name a =>
    cases y with
    | value b =>
      obtain rfl := Address.ident_injective same
      exact absurd hx hy.value_or_name
    | name b => rw [Address.ident_injective same]
    | parameter b j => exact absurd same (pathx.ident_ne_paramIdent hy)
    | index b j => exact absurd same.symm (Address.indexIdent_ne_ident b a j)
  | parameter a i =>
    cases y with
    | value b | name b => exact absurd same.symm (pathy.ident_ne_paramIdent hx)
    | parameter b j =>
      obtain ⟨rfl, rfl⟩ := Address.paramIdent_injective same
      rfl
    | index b j => exact absurd same.symm (Address.indexIdent_ne_paramIdent b a j i)
  | index a i =>
    cases y with
    | value b | name b => exact absurd same (Address.indexIdent_ne_ident a b i)
    | parameter b j => exact absurd same (Address.indexIdent_ne_paramIdent a b i j)
    | index b j =>
      obtain ⟨rfl, rfl⟩ := Address.indexIdent_injective same
      rfl

end Program

/-! ### Passes that need not end -/

/-- The occurrence whose text an event begins, or whose value it refers to. -/
def Event.subject? : Event → Option Address
  | .emitted a _ _ => some a
  | .referenced _ _ v _ => some v.address
  | _ => none

/-- A pass generates the text of an occurrence or refers to its value. -/
def Pass.Meets (s : Pass) (a : Address) : Prop := ∃ e ∈ s.journal, e.subject? = some a

instance (s : Pass) (a : Address) : Decidable (s.Meets a) :=
  inferInstanceAs (Decidable (∃ e ∈ s.journal, e.subject? = some a))

namespace Program

/-- Asking and following down to a given depth, below which nothing is found. -/
def shallow (p : Program) : Nat → Walk
  | 0 => ⟨fun _ _ => return none, fun _ _ => return false⟩
  | depth + 1 => ⟨p.resolveStep (p.shallow depth), p.followStep (p.shallow depth)⟩

/-- What a pass does that goes down to some depth only.  Up to the first time that it would go
deeper it does what the whole pass does, whether or not that comes to an end. -/
def Unfolds (p : Program) (s : Pass) : Prop :=
  ∃ depth, (p.visitAll (p.shallow depth) p.entries).run {} = some ((), s)

/-- The identifiers that a pass makes up, and all others of the same occurrences. -/
def MadeUp (p : Program) (s : Pass) : Set Identifier := {x | p.Coins x ∧ s.Meets x.address}

variable {p : Program} {s s' : Pass} {task : Task}

theorem walk_le_shallow (p : Program) (depth : Nat) : (p.walk depth).Le (p.shallow depth) := by
  induction depth with
  | zero => exact ⟨fun _ _ => Gen.exhausted_le _, fun _ _ => Gen.exhausted_le _⟩
  | succ depth ih => exact ⟨p.resolveStep_le ih, p.followStep_le ih⟩

/-- A pass that comes to an end goes down to some depth only. -/
theorem Ends.unfolds (h : p.Ends s) : p.Unfolds s := by
  obtain ⟨depth, h⟩ := h
  obtain ⟨⟨⟨⟩, s'⟩, hrun, rfl⟩ := Option.map_eq_some_iff.1 h
  exact ⟨depth, p.visitAll_le (p.walk_le_shallow depth) p.entries _ _ hrun⟩

theorem sound_shallow (p : Program) (depth : Nat) : (p.shallow depth).Sound .partial p := by
  induction depth with
  | zero => exact ⟨fun _ s _ _ => ⟨.refl, nofun⟩, fun _ s _ _ => ⟨.refl, trivial⟩⟩
  | succ depth ih => exact sound_step ih

theorem Unfolds.runs (h : p.Unfolds s) : p.Runs .steps {} s := by
  obtain ⟨depth, h⟩ := h
  exact (sat_visitAll (p.sound_shallow depth) (List.Subset.refl _) {}).eq_some h

/-- Whatever comes up in a pass lies below calls that are expanded. -/
theorem Runs.onPath (placed : p.Placed) (h : p.Runs task s s')
    (reached : ∀ cause a, task = .visit cause a → p.OnPath a.path) {e : Event} {a : Address}
    (mem : e ∈ s'.journal) (subject : e.subject? = some a) :
    e ∈ s.journal ∨ p.OnPath a.path := by
  induction h with
  | refl => exact .inl mem
  | trans _ _ ih ih' =>
    rcases ih' reached mem with mem | here
    · exact ih reached mem
    · exact .inr here
  | asked | followed | demanded | report =>
    rcases List.mem_cons.1 mem with rfl | mem
    · cases subject
    · exact .inl mem
  | imports | main | process | require => exact .inl mem
  | reference settled =>
    rcases List.mem_cons.1 mem with rfl | mem
    · cases subject
      obtain ⟨kind, ⟨b, port, w, n, asks, -, heq, -⟩, -⟩ := settled placed
      rw [heq]
      exact .inr asks.1
    · exact .inl mem
  | write =>
    rcases Pass.mem_journal_write.1 mem with ⟨l, -, rfl⟩ | mem
    · cases subject
    · exact .inl mem
  | block _ _ ih => exact ih reached mem
  | settle _ demanded _ ih =>
    refine ih (fun cause b same => ?_) mem
    cases same
    exact (demanded placed).onPath
  | arrive _ arrived _ ih =>
    refine ih (fun cause b same => ?_) mem
    cases same
    exact (arrived placed).onPath
  | absent => exact .inl mem
  | unknown _ _ ih => exact ih nofun mem
  | again =>
    rcases List.mem_cons.1 mem with rfl | mem
    · cases subject
    · rcases List.mem_cons.1 mem with rfl | mem
      · cases subject
      · exact .inl mem
  | @emit s s₁ s₂ s₃ cause b n kind node kindOf fresh before records after ih ih' =>
    rcases ih' nofun mem with mem | here
    · have written : ∀ l, e ≠ .wrote l := by
        rintro l rfl
        cases subject
      rcases ih nofun (records.mem_journal mem written) with mem | here
      · rcases Pass.mem_journal_begin.1 mem with rfl | ⟨-, rfl⟩ | mem
        · cases subject
          exact .inr (reached cause _ rfl)
        · cases subject
        · exact .inl mem
      · exact .inr here
    · exact .inr here

theorem Unfolds.onPath (h : p.Unfolds s) (placed : p.Placed) {a : Address} (met : s.Meets a) :
    p.OnPath a.path := by
  obtain ⟨e, mem, subject⟩ := met
  rcases h.runs.onPath placed nofun mem subject with none | here
  · cases none
  · exact here

/-- In a program whose nodes stand under their own numbers, no two identifiers of a pass are the
same text, whether or not the pass comes to an end. -/
theorem Unfolds.text_injOn (h : p.Unfolds s) (placed : p.Placed) :
    Set.InjOn Identifier.text (p.MadeUp s) := by
  rintro x ⟨hx, metx⟩ y ⟨hy, mety⟩ same
  exact hx.eq_of_text_eq hy (h.onPath placed metx) (h.onPath placed mety) same

end Program

namespace Sample

/-- The edits that make a module with a variable, which is set to a number and given out through the
assignment. -/
def cellEdits : List Edit := [
  .create .empty "InputFlow" (OrderedMap.ofList [("name", .str "go")]),
  .create .empty "Variable" (OrderedMap.ofList [("typeName", .str "int")]),
  .create .empty "Set" (OrderedMap.ofList [("0_valueValue", .str "7")]),
  .create .empty "OutputFlow" (OrderedMap.ofList [("name", .str "done")]),
  .create .empty "Output" (OrderedMap.ofList [("name", .str "number")]),
  .connect ⟨1, "output", 3, "fin"⟩,
  .connect ⟨2, "result", 3, "inVariable"⟩,
  .adapt .empty 3,
  .connect ⟨3, "fout", 4, "input"⟩,
  .connect ⟨3, "result", 5, "input"⟩,
  .adapt .empty 5]

def cells : Library := OrderedMap.ofList [("cell", Graph.session language "cell" cellEdits)]

/-- The edits that make a function which calls the module and prints what it gives out and then its
own parameter. -/
def celledEdits : List Edit := [
  .create .empty "Function"
    (OrderedMap.ofList [("numArgs", .str "1"), ("typeName0", .str "int")]),
  .create cells "Module" (OrderedMap.ofList [(moduleKey, .str "cell")]),
  .create .empty "print" .empty,
  .create .empty "print" .empty,
  .connect ⟨1, "fout", 2, "go"⟩,
  .connect ⟨2, "done", 3, "fin"⟩,
  .connect ⟨2, "number", 3, "value"⟩,
  .connect ⟨3, "fout", 4, "fin"⟩,
  .connect ⟨1, "out0", 4, "value"⟩]

def celled : Program where
  lang := language
  root := Graph.session language "main" celledEdits
  library := cells

theorem celled_linked : celled.Linked := by
  refine linked_of_checks rfl (fun g hg => ?_) (by decide +kernel) (by decide +kernel)
    (by decide +kernel)
  rcases List.mem_cons.1 hg with rfl | hg
  · exact ⟨"main", celledEdits, rfl, by simp [celledEdits, Edit.isRetag]⟩
  · cases List.mem_singleton.1 hg
    exact ⟨"cell", cellEdits, rfl, by simp [cellEdits, Edit.isRetag]⟩

theorem celled_isSome : (celled.runWith? 20).isSome = true := by
  decide +kernel

/-- How the program is compiled. -/
def celledPass : Pass := (celled.runWith? 20).get celled_isSome

theorem celled_ends : celled.Ends celledPass :=
  ⟨20, (Option.some_get _).symm⟩

/-- The parameter of the function reads like the value of a node inside it, and is the only
identifier that does; the variable of the module has another one. -/
theorem text_injOn_celled :
    celled.Placed ∧ .value ⟨[2], 2⟩ ∈ celled.MadeUp celledPass ∧
      .parameter ⟨[], 1⟩ 0 ∈ celled.MadeUp celledPass ∧
      (Identifier.parameter ⟨[], 1⟩ 0).text = (⟨[1], 0⟩ : Address).ident ∧
      ∀ x ∈ celled.MadeUp celledPass, x.text = "_1_0" → x = .parameter ⟨[], 1⟩ 0 := by
  have inner : .value ⟨[2], 2⟩ ∈ celled.MadeUp celledPass :=
    ⟨⟨.declaration, by decide +kernel, rfl⟩, by decide +kernel⟩
  have parameter : .parameter ⟨[], 1⟩ 0 ∈ celled.MadeUp celledPass :=
    ⟨show celled.kindAt? ⟨[], 1⟩ = some .definition by decide +kernel, by decide +kernel⟩
  have placed := celled_linked.placed
  refine ⟨placed, inner, parameter, by decide +kernel, fun x made text => ?_⟩
  have same : x.text = (Identifier.parameter ⟨[], 1⟩ 0).text := by
    rw [text]
    decide +kernel
  exact celled_ends.unfolds.text_injOn placed made parameter same

end Sample

/-! ### Declared once -/

namespace Address

/-- The characters of an identifier, followed by one that no identifier has. -/
theorem takeWhile_ident (a : Address) (mark : Char) (hm : isIdentChar mark = false)
    (rest : List Char) :
    (a.ident.toList ++ mark :: rest).takeWhile isIdentChar = a.ident.toList := by
  rw [List.takeWhile_append_of_pos fun c hc => isIdentChar_of_mem_ident hc,
    List.takeWhile_cons_of_neg (by simp [hm]), List.append_nil]

/-- The identifier that a text declares can be read off it. -/
theorem DeclaredBy.takeWhile {a : Address} {text : String} (h : a.DeclaredBy text) :
    (text.toList.drop 4).takeWhile isIdentChar = a.ident.toList := by
  rcases h with ⟨value, rfl⟩ | ⟨type, rfl⟩
  · simpa [String.toList_append] using a.takeWhile_ident ' ' rfl _
  · simpa [String.toList_append] using a.takeWhile_ident ':' rfl _

theorem DeclaredBy.unique {a b : Address} {text : String} (h : a.DeclaredBy text)
    (h' : b.DeclaredBy text) : a = b :=
  ident_injective (String.toList_injective (h.takeWhile.symm.trans h'.takeWhile))

end Address

/-- The identifier of a value was handed to an input that asked for the value, and not an expression
that is kept for it. -/
def Pass.HandsOut (s : Pass) (a : Address) : Prop :=
  ∃ consumer port q value, .referenced consumer port ⟨a, q⟩ value ∈ s.journal ∧
    value.text = a.ident ∧ a ∈ value.uses

namespace Program

variable {p : Program} {s : Pass}

/-- In a pass of a linked program without diagnostics, if the identifier of a literal, a call or a
variable is handed out then one line declares it, and no other declaring line has it. -/
theorem Ends.declared_once (h : p.Ends s) (linked : p.Linked)
    (clean : (s.finish p.settings).diagnostics.isEmpty = true) {a : Address} {kind : Kind}
    (hk : p.kindAt? a = some kind) (value : kind.isValue = true) (handed : s.HandsOut a) :
    ∃ (i : Nat) (d : Line), s.body[i]? = some d ∧ d.role = .declaration a ∧
      a.DeclaredBy d.text ∧ ∀ (j : Nat) (l : Line) (b : Address), s.body[j]? = some l →
        l.role = .declaration b → a.DeclaredBy l.text → j = i := by
  obtain ⟨consumer, port, q, text, mem, -, use⟩ := handed
  have named := (h.sourced linked clean).handed mem use
  obtain ⟨d, written, role⟩ := h.declared_of_named linked clean named hk value
  obtain ⟨i, line⟩ := List.getElem?_of_mem (h.mem_body.2 written)
  refine ⟨i, d, line, role, h.declaredBy line role, fun j l b line' role' declares => ?_⟩
  -- a line that declares this identifier has it for its own, and there is one such line
  obtain rfl := (h.declaredBy line' role').unique declares
  exact eq_of_countP_le_one (h.declarations linked hk value) line' line (by simp [role'])
    (by simp [role])

end Program

namespace Sample

theorem celled_clean : (celledPass.finish celled.settings).diagnostics.isEmpty = true := by
  decide +kernel

/-- What the module gives out is the variable, by its identifier, which one line declares. -/
theorem declared_once_celled :
    celled.Linked ∧ celledPass.HandsOut ⟨[2], 2⟩ ∧
      ∃ (i : Nat) (d : Line), celledPass.body[i]? = some d ∧ d.text = "var _2_2: int" ∧
        ∀ (j : Nat) (l : Line) (b : Address), celledPass.body[j]? = some l →
          l.role = .declaration b → Address.DeclaredBy ⟨[2], 2⟩ l.text → j = i := by
  have kind : celled.kindAt? ⟨[2], 2⟩ = some .declaration := by decide +kernel
  have handed : celledPass.HandsOut ⟨[2], 2⟩ :=
    ⟨⟨[], 3⟩, "value", "result", ⟨"_2_2", [⟨[2], 2⟩]⟩, by decide +kernel, by decide +kernel, by simp⟩
  have text : (celledPass.body.all fun d =>
      d.role = .declaration ⟨[2], 2⟩ → d.text = "var _2_2: int") = true := by
    decide +kernel
  obtain ⟨i, d, line, role, -, only⟩ :=
    celled_ends.declared_once celled_linked celled_clean kind rfl handed
  rw [List.all_eq_true] at text
  have spelled := text d (List.mem_of_getElem? line)
  exact ⟨celled_linked, handed, i, d, line, of_decide_eq_true spelled role, only⟩

end Sample

end FlowScript
