import FlowScript.Proofs.Fuel
import FlowScript.Proofs.Performing
import Mathlib.Data.List.Forall2

/-!
# Passes in lockstep

Two programs with the same language and the same graphs wherever a pass gets to are compiled step by
step alike, whatever their settings.  What a pass decides by, its marks, is the same in both at
every step.  The texts differ in their spelling, and in nothing if the settings spell alike.

* `Settings.SameShape`, `Settings.SameWords`: settings that give texts of the same lines, and texts
  of the same words;
* `Pass.Alike`: two passes at the same step;
* `Program.Lockstep`: actions that take passes at the same step to passes at the same step;
* `Program.Parallel`: programs that agree wherever a pass gets to;
* `Parallel.runWith?`, `Parallel.alike`: their passes end together, at the same step.
-/

namespace FlowScript

/-! ### Settings and lines -/

/-- How many times a text goes on to a next line. -/
def Text.newlines (text : String) : Nat := text.toList.count '\n'

theorem Text.length_splitLines (cs : List Char) : (splitLines cs).length = cs.count '\n' + 1 := by
  induction cs with
  | nil => rfl
  | cons c cs ih =>
    unfold splitLines
    split_ifs with newline
    · simp [newline, ih]
    · have same : (c :: cs).count '\n' = cs.count '\n' := List.count_cons_of_ne newline
      split
      · rename_i none
        exact absurd none (splitLines_ne_nil cs)
      · rename_i l ls hs
        simpa [hs, same] using ih

namespace Settings

/-- Texts get the same lines: the same values are declared, and the marker and the placeholder have
as many lines. -/
structure SameShape (c c' : Settings) : Prop where
  optimizeFlow : c.optimizeFlow = c'.optimizeFlow
  discardMarker : Text.newlines c.discardMarker = Text.newlines c'.discardMarker
  placeholder : Text.newlines c.placeholder = Text.newlines c'.placeholder

/-- The marker and the placeholder are the same. -/
structure SameWords (c c' : Settings) : Prop where
  discardMarker : c.discardMarker = c'.discardMarker
  placeholder : c.placeholder = c'.placeholder

theorem SameShape.refl (c : Settings) : c.SameShape c := ⟨rfl, rfl, rfl⟩

theorem SameWords.refl (c : Settings) : c.SameWords c := ⟨rfl, rfl⟩

/-- Two things are the same if texts get the same lines. -/
def Agree {α : Type} (c c' : Settings) (x x' : α) : Prop := c.SameShape c' → x = x'

end Settings

/-- Lines in the same place of two texts. -/
structure Line.Alike (c c' : Settings) (l l' : Line) : Prop where
  owner : l.owner = l'.owner
  depth : l.depth = l'.depth
  text : c.SameWords c' → l.text = l'.text

theorem forall₂_zip_right {α β : Type} {R : α → α → Prop} {xs ys : List α}
    (h : List.Forall₂ R xs ys) (zs : List β) :
    List.Forall₂ (fun x y => R x.1 y.1 ∧ x.2 = y.2) (xs.zip zs) (ys.zip zs) := by
  induction h generalizing zs with
  | nil => exact .nil
  | cons first _ ih =>
    cases zs with
    | nil => exact .nil
    | cons z zs => exact .cons ⟨first, rfl⟩ (ih zs)

/-- Texts with as many lines give lines in the same places. -/
theorem Block.alike_linesOf {c c' : Settings} {b b' : Block} (depth : b.depth = b'.depth)
    (owner : Option NodeId) {text text' : String} (role : LineRole) (uses uses' : List Address)
    (newlines : Text.newlines text = Text.newlines text')
    (words : c.SameWords c' → text = text') :
    List.Forall₂ (Line.Alike c c') (b.linesOf owner ⟨text, uses⟩ role)
      (b'.linesOf owner ⟨text', uses'⟩ role) := by
  have length : (Text.splitLines text.toList).length = (Text.splitLines text'.toList).length := by
    rw [Text.length_splitLines, Text.length_splitLines]
    exact congrArg (· + 1) newlines
  have parts : List.Forall₂ (fun part part' => c.SameWords c' → part = part')
      (Text.splitLines text.toList) (Text.splitLines text'.toList) :=
    List.forall₂_iff_get.2 ⟨length, fun i _ _ same => by simp [words same]⟩
  dsimp only [linesOf]
  rw [← length, List.forall₂_map_left_iff, List.forall₂_map_right_iff]
  refine (forall₂_zip_right parts _).imp fun part part' same => ⟨rfl, depth, fun words => ?_⟩
  exact congrArg String.ofList (same.1 words)

/-! ### States at the same step -/

namespace Pass

variable {c c' : Settings} {s s' : Pass}

/-- A pass without the texts that it has written and keeps: its marks, messages and imports, and
the depth of the open block. -/
def bare (s : Pass) : Pass :=
  { s with block := { depth := s.block.depth }, opened := 0, results := .empty, journal := [] }

/-- An update that changes no text. -/
def MarksOnly (f : Pass → Pass) : Prop :=
  ∀ s, (f s).bare = f s.bare ∧ (f s).block = s.block ∧ (f s).results = s.results

/-- Two passes are at the same step: they are the same without their texts and, if texts get the
same lines, they keep the same expressions, and their lines stand in the same places. -/
structure Alike (c c' : Settings) (s s' : Pass) : Prop where
  bare : s.bare = s'.bare
  lines : c.SameShape c' → List.Forall₂ (Line.Alike c c') s.block.lines s'.block.lines
  results : c.Agree c' s.results s'.results

namespace Alike

variable (h : Alike c c' s s')
include h

theorem started : s.started = s'.started := congrArg (·.started) h.bare

theorem resolving : s.resolving = s'.resolving := congrArg (·.resolving) h.bare

theorem visited : s.visited = s'.visited := congrArg (·.visited) h.bare

theorem depth : s.block.depth = s'.block.depth := congrArg (·.block.depth) h.bare

theorem imports : s.imports = s'.imports := congrArg (·.imports) h.bare

theorem main : s.main = s'.main := congrArg (·.main) h.bare

/-- The diagnostics of an output are read off the marks. -/
theorem diagnostics : (s.finish c).diagnostics = (s'.finish c').diagnostics :=
  congrArg (fun s => (s.finish c).diagnostics) h.bare

/-- What lines in the same place have in common is the same all over the body. -/
theorem map_body {α : Type} {f : Line → α} (shape : c.SameShape c')
    (hf : ∀ {l l'}, Line.Alike c c' l l' → f l = f l') : s.body.map f = s'.body.map f := by
  have same := List.rel_map (P := Eq) (fun _ _ line => hf line) (List.rel_reverse (h.lines shape))
  rwa [List.forall₂_eq_eq_eq] at same

theorem result (a : Address) : c.Agree c' (s.result a) (s'.result a) := fun shape => by
  rw [Pass.result, Pass.result, h.results shape]

theorem update (f : Pass → Pass) (marks : MarksOnly f) : Alike c c' (f s) (f s') where
  bare := by rw [(marks s).1, (marks s').1, h.bare]
  lines := by simpa only [(marks _).2.1] using h.lines
  results := by simpa only [(marks _).2.2] using h.results

theorem note (e e' : Event) : Alike c c' (s.note e) (s'.note e') := ⟨h.bare, h.lines, h.results⟩

/-- Texts with as many lines, and the same words if the settings have the same. -/
theorem write (owner : Option NodeId) {text text' : String} (role : LineRole)
    (uses uses' : List Address)
    (newlines : c.SameShape c' → Text.newlines text = Text.newlines text')
    (words : c.SameShape c' → c.SameWords c' → text = text') :
    Alike c c' (s.write owner text role uses) (s'.write owner text' role uses') where
  bare := h.bare
  lines shape :=
    List.rel_append
      (List.rel_reverse
        (Block.alike_linesOf h.depth owner role uses uses' (newlines shape) (words shape)))
      (h.lines shape)
  results := h.results

theorem setResult (a : Address) (text : String) (uses : List Address) :
    Alike c c' (s.setResult a text uses) (s'.setResult a text uses) where
  bare := h.bare
  lines := h.lines
  results shape := congrArg (·.insert a ⟨text, uses⟩) (h.results shape)

theorem openBlock (extra : Nat) : Alike c c' (s.openBlock extra) (s'.openBlock extra) where
  bare := congrArg (fun s => { s with block := { depth := s.block.depth + extra } }) h.bare
  lines _ := .nil
  results := h.results

/-- A block is closed in the place where it was opened. -/
theorem closeBlock {t t' : Pass} (inner : Alike c c' t t') :
    Alike c c' (t.closeBlock s.block) (t'.closeBlock s'.block) where
  bare := by
    change { t.bare with block := { depth := s.block.depth } } =
      { t'.bare with block := { depth := s'.block.depth } }
    rw [inner.bare, h.depth]
  lines shape := List.rel_append (inner.lines shape) (h.lines shape)
  results := inner.results

end Alike

end Pass

/-! ### Actions in lockstep -/

theorem Gen.inBlock_apply {α : Type} (extra : Nat) (act : Gen α) (s : Pass) :
    inBlock extra act s =
      (act (s.openBlock extra)).map fun r => (r.1, r.2.closeBlock s.block) := by
  change ((act (s.openBlock extra)).bind _).bind _ = _
  cases act (s.openBlock extra) <;> rfl

namespace Program

variable {α β : Type} {p q : Program}

/-- From passes at the same step two actions come to passes at the same step, with results that
belong together, or neither comes to an end. -/
def Lockstep (p q : Program) (R : α → α → Prop) (act act' : Gen α) : Prop :=
  ∀ s s', Pass.Alike p.settings q.settings s s' →
    Option.Rel (fun r r' => R r.1 r'.1 ∧ Pass.Alike p.settings q.settings r.2 r'.2)
      (act s) (act' s')

namespace Lockstep

variable {R : α → α → Prop} {act act' : Gen α}

theorem pure {x x' : α} (h : R x x') :
    p.Lockstep q R (Pure.pure x : Gen α) (Pure.pure x' : Gen α) :=
  fun _ _ hs => .some ⟨h, hs⟩

theorem mark (f : Pass → Pass) (marks : Pass.MarksOnly f) :
    p.Lockstep q Eq (modify f : Gen PUnit) (modify f : Gen PUnit) :=
  fun _ _ hs => .some ⟨rfl, hs.update f marks⟩

theorem modify {f f' : Pass → Pass}
    (h : ∀ {s s'}, Pass.Alike p.settings q.settings s s' →
      Pass.Alike p.settings q.settings (f s) (f' s')) :
    p.Lockstep q Eq (modify f : Gen PUnit) (modify f' : Gen PUnit) :=
  fun _ _ hs => .some ⟨rfl, h hs⟩

theorem get : p.Lockstep q (Pass.Alike p.settings q.settings) (get : Gen Pass) (get : Gen Pass) :=
  fun _ _ hs => .some ⟨hs, hs⟩

theorem exhausted : p.Lockstep q R Gen.exhausted Gen.exhausted := fun _ _ _ => .none

theorem bind {S : β → β → Prop} {f f' : α → Gen β} (h : p.Lockstep q R act act')
    (hf : ∀ x x', R x x' → p.Lockstep q S (f x) (f' x')) :
    p.Lockstep q S (act >>= f) (act' >>= f') := by
  intro s s' hs
  have first := h s s' hs
  change Option.Rel _ ((act s).bind fun r => f r.1 r.2) ((act' s').bind fun r => f' r.1 r.2)
  generalize act s = o at first ⊢
  generalize act' s' = o' at first ⊢
  cases first with
  | none => exact .none
  | some r => exact hf _ _ r.1 _ _ r.2

/-- Results that are the same decide nothing. -/
theorem andThen {S : β → β → Prop} {f f' : α → Gen β} (h : p.Lockstep q Eq act act')
    (hf : ∀ x, p.Lockstep q S (f x) (f' x)) : p.Lockstep q S (act >>= f) (act' >>= f') :=
  h.bind fun x _ same => same ▸ hf x

theorem inBlock (extra : Nat) (h : p.Lockstep q R act act') :
    p.Lockstep q R (Gen.inBlock extra act) (Gen.inBlock extra act') := by
  intro s s' hs
  have inner := h _ _ (hs.openBlock extra)
  rw [Gen.inBlock_apply, Gen.inBlock_apply]
  generalize act (s.openBlock extra) = o at inner ⊢
  generalize act' (s'.openBlock extra) = o' at inner ⊢
  cases inner with
  | none => exact .none
  | some r => exact .some ⟨r.1, hs.closeBlock r.2⟩

/-- Where texts get other lines, actions that do nothing but write texts and keep them are in
lockstep, whatever the texts. -/
theorem texts {act act' : Gen PUnit} (other : ¬ p.settings.SameShape q.settings)
    (h : ∀ s, ∃ t, act s = some (⟨⟩, t) ∧ t.bare = s.bare)
    (h' : ∀ s, ∃ t, act' s = some (⟨⟩, t) ∧ t.bare = s.bare) : p.Lockstep q Eq act act' := by
  intro s s' hs
  obtain ⟨t, ht, bare⟩ := h s
  obtain ⟨t', ht', bare'⟩ := h' s'
  rw [ht, ht']
  exact .some ⟨rfl, (bare.trans hs.bare).trans bare'.symm, fun shape => absurd shape other,
    fun shape => absurd shape other⟩

end Lockstep

/-! ### Programs that agree -/

/-- A node of the graph that a path leads to. -/
def Holds (p : Program) (path : List NodeId) (n : Node) : Prop :=
  ∃ g id, p.graphAt? path = some g ∧ g.node? id = some n

theorem holds_of_feeding? {a : Address} {port : String} {w : Wire} {n : Node}
    (h : p.feeding? a port = some (w, n)) : p.Holds a.path n := by
  obtain ⟨g, hg, -, hn⟩ := feeding?_eq_some.1 h
  exact ⟨g, w.source, hg, hn⟩

theorem holds_of_fedBy? {a : Address} {port : String} {w : Wire} {n : Node}
    (h : p.fedBy? a port = some (w, n)) : p.Holds a.path n := by
  obtain ⟨g, hg, -, hn⟩ := fedBy?_eq_some.1 h
  exact ⟨g, w.target, hg, hn⟩

/-- Two programs have the same language and, on a family of paths that no pass leaves, the same
graphs. -/
structure Parallel (p q : Program) (on : List NodeId → Prop) : Prop where
  lang : q.lang = p.lang
  nil : on []
  outer : ∀ {path call}, on (path ++ [call]) → on path
  graph : ∀ {path}, on path → q.graphAt? path = p.graphAt? path
  callee : ∀ {path n}, on path → p.Holds path n → p.kind? n = some .moduleCall →
    q.library.get? (n.textD moduleKey) = p.library.get? (n.textD moduleKey)
  inner : ∀ {path n}, on path → p.Holds path n → p.kind? n = some .moduleCall →
    (p.entered? ⟨path, n.id⟩ n).isSome → on (path ++ [n.id])

namespace Parallel

variable {on : List NodeId → Prop} (h : p.Parallel q on) {a : Address}
include h

theorem root : q.root = p.root := Option.some.inj (h.graph h.nil)

theorem kind?_eq (n : Node) : q.kind? n = p.kind? n := by
  rw [kind?, kind?, h.lang]

theorem entries_eq : q.entries = p.entries := by
  simp only [entries, h.root, h.kind?_eq]

theorem node?_eq (here : on a.path) : q.node? a = p.node? a := by
  rw [node?, node?, h.graph here]

theorem kindAt?_eq (here : on a.path) : q.kindAt? a = p.kindAt? a := by
  simp only [kindAt?, h.node?_eq here, funext h.kind?_eq]

theorem feeding?_eq (here : on a.path) (port : String) : q.feeding? a port = p.feeding? a port := by
  rw [feeding?, feeding?, h.graph here]

theorem fedBy?_eq (here : on a.path) (port : String) : q.fedBy? a port = p.fedBy? a port := by
  rw [fedBy?, fedBy?, h.graph here]

theorem readers_eq (here : on a.path) (port : String) : q.readers a port = p.readers a port := by
  rw [readers, readers, h.graph here]

theorem attributed_eq (here : on a.path) (message : String) :
    q.attributed a message = p.attributed a message := by
  rw [attributed, attributed, h.graph here]

theorem take {path : List NodeId} (here : on path) (depth : Nat) : on (path.take depth) := by
  induction path using List.reverseRecOn with
  | nil => rwa [List.take_nil]
  | append_singleton path call ih =>
    rcases Nat.lt_or_ge path.length depth with longer | shorter
    · rwa [List.take_of_length_le (by simpa using longer)]
    · rw [List.take_append_of_le_length shorter]
      exact ih (h.outer here)

theorem expanding_eq {path : List NodeId} (here : on path) (name : String) :
    q.expanding path name = p.expanding path name := by
  simp only [expanding, moduleOnPath?, fun depth => h.graph (h.take here depth)]

theorem callSite {call : Address} (here : on a.path) (site : a.callSite? = some call) :
    on call.path := by
  rw [← Address.inside_of_callSite? site] at here
  exact h.outer here

end Parallel

/-- Producers that are the same, at a path of a family. -/
def SameProducer (on : List NodeId → Prop) : Option Producer → Option Producer → Prop :=
  Option.Rel fun v v' => v = v' ∧ on v.address.path

/-- Asking and following in lockstep at the paths of a family. -/
structure WalkInStep (p q : Program) (on : List NodeId → Prop) (w w' : Walk) : Prop where
  resolve : ∀ {a} port, on a.path →
    p.Lockstep q (SameProducer on) (w.resolve a port) (w'.resolve a port)
  follow : ∀ {a} port, on a.path → p.Lockstep q Eq (w.follow a port) (w'.follow a port)

/-! ### Texts -/

section Texts

variable (a : Address)

/-- The same text if texts get the same lines. -/
theorem lockstep_write {text text' : String} (role : LineRole) {uses uses' : List Address}
    (agree : p.settings.Agree q.settings text text') :
    p.Lockstep q Eq (write a text role uses) (write a text' role uses') :=
  .modify fun hs => hs.write _ role uses uses' (fun shape => congrArg _ (agree shape))
    fun shape _ => agree shape

theorem lockstep_writeSame {text : String} {role : LineRole} {uses : List Address} :
    p.Lockstep q Eq (write a text role uses) (write a text role uses) :=
  lockstep_write a role fun _ => rfl

theorem mustBind_agree (t : DataType) (readers : Nat) :
    p.settings.Agree q.settings (p.mustBind t readers) (q.mustBind t readers) := fun shape => by
  simp only [mustBind, shape.optimizeFlow]

/-- A value may be kept in one pass and declared in the other only where texts get other lines. -/
theorem lockstep_recordValue (t : DataType) {value value' : Fragment} {bind bind' : Bool}
    (readers : Nat) (values : p.settings.Agree q.settings value value')
    (binds : p.settings.Agree q.settings bind bind') :
    p.Lockstep q Eq (recordValue a t value bind readers) (recordValue a t value' bind' readers) := by
  by_cases shape : p.settings.SameShape q.settings
  · obtain rfl := values shape
    obtain rfl := binds shape
    unfold recordValue
    split_ifs
    · exact .modify fun hs => hs.setResult a value.text value.uses
    · exact lockstep_writeSame a
    · exact lockstep_writeSame a
  · -- one pass may declare what the other one keeps, but neither changes more than texts
    have texts : ∀ (value : Fragment) (bind : Bool) (s : Pass), ∃ t',
        recordValue a t value bind readers s = some (⟨⟩, t') ∧ t'.bare = s.bare := by
      intro value bind s
      unfold recordValue
      split_ifs <;> exact ⟨_, rfl, rfl⟩
    exact .texts shape (texts value bind) (texts value' bind')

/-- A block is empty in both passes, unless texts get other lines. -/
theorem lockstep_fillEmpty : p.Lockstep q Eq (p.fillEmpty a) (q.fillEmpty a) := by
  by_cases shape : p.settings.SameShape q.settings
  · refine Lockstep.get.bind fun s s' hs => ?_
    have empty : s.block.lines.isEmpty = s'.block.lines.isEmpty := by
      rw [Bool.eq_iff_iff, List.isEmpty_iff_length_eq_zero, List.isEmpty_iff_length_eq_zero,
        (hs.lines shape).length_eq]
    rw [empty]
    split_ifs
    · exact .modify fun hs => hs.write _ _ _ _ (fun shape => shape.placeholder)
        fun _ words => words.placeholder
    · exact .pure rfl
  · have texts : ∀ (p : Program) (s : Pass), ∃ t, p.fillEmpty a s = some (⟨⟩, t) ∧
        t.bare = s.bare := by
      intro p s
      change ∃ t, (if s.block.lines.isEmpty then write a p.settings.placeholder .placeholder
        else pure ⟨⟩ : Gen PUnit) s = some (⟨⟩, t) ∧ t.bare = s.bare
      split_ifs <;> exact ⟨_, rfl, rfl⟩
    exact .texts shape (texts p) (texts q)

end Texts

theorem lockstep_addImports (names : List String) :
    p.Lockstep q Eq (modify (·.addImports names)) (modify (·.addImports names)) :=
  .mark (·.addImports names) fun _ => ⟨rfl, rfl, rfl⟩

theorem lockstep_markProcessed (a : Address) :
    p.Lockstep q Eq (modify (·.markProcessed a)) (modify (·.markProcessed a)) :=
  .mark (·.markProcessed a) fun _ => ⟨rfl, rfl, rfl⟩

theorem lockstep_note (e e' : Event) :
    p.Lockstep q Eq (modify (·.note e)) (modify (·.note e')) :=
  .modify fun hs => hs.note e e'

/-! ### What nodes write -/

namespace Parallel

variable {on : List NodeId → Prop} (h : p.Parallel q on) {a : Address} (here : on a.path)
include h here

theorem lockstep_report (cause : Problem) :
    p.Lockstep q Eq (p.report a cause) (q.report a cause) := by
  refine .modify fun hs => ?_
  unfold Pass.reportText
  rw [h.attributed_eq here]
  exact (hs.note _ _).update (·.addMessage a.rootId (p.attributed a cause.message))
    fun _ => ⟨rfl, rfl, rfl⟩

theorem lockstep_error (cause : Problem) :
    p.Lockstep q Eq (p.error a cause) (q.error a cause) := by
  refine .modify fun hs => ?_
  unfold Pass.errorText Pass.discard
  rw [h.attributed_eq here]
  refine Pass.Alike.update ?_ (·.addMessage a.rootId (p.attributed a cause.message))
    fun _ => ⟨rfl, rfl, rfl⟩
  exact (hs.note _ _).write _ _ _ _ (fun shape => shape.discardMarker)
    fun _ words => words.discardMarker

theorem lockstep_emitLiteral (n : Node) (type : String) :
    p.Lockstep q Eq (p.emitLiteral a n type) (q.emitLiteral a n type) := by
  unfold emitLiteral
  rw [h.lang, h.readers_eq here]
  split
  · exact h.lockstep_error here _
  · refine (lockstep_addImports _).andThen fun _ => ?_
    exact lockstep_recordValue a _ _ (fun _ => rfl) (mustBind_agree _ _)

omit here in
theorem lockstep_emitDeclaration (n : Node) :
    p.Lockstep q Eq (p.emitDeclaration a n) (q.emitDeclaration a n) := by
  unfold emitDeclaration
  rw [h.lang]
  exact lockstep_writeSame a

omit here in
theorem lockstep_emitRecord (n : Node) :
    p.Lockstep q Eq (p.emitRecord a n) (q.emitRecord a n) := by
  have fields : q.fieldLines n = p.fieldLines n := by
    have line : q.fieldLine? = p.fieldLine? := funext fun field => by simp only [fieldLine?, h.lang]
    rw [fieldLines, fieldLines, line]
  have all : ∀ texts, p.Lockstep q Eq (writeAll a texts) (writeAll a texts) := by
    intro texts
    induction texts with
    | nil => exact .pure rfl
    | cons text texts ih => exact (lockstep_writeSame a).andThen fun _ => ih
  unfold emitRecord
  rw [fields]
  refine (lockstep_writeSame a).andThen fun _ => ?_
  refine (Lockstep.inBlock 1 ((all _).andThen fun _ => lockstep_fillEmpty a)).andThen fun _ => ?_
  exact lockstep_writeSame a

theorem lockstep_parameter? (n : Node) (i : Nat) :
    p.Lockstep q Eq (p.parameter? a n i) (q.parameter? a n i) := by
  have prefill : q.prefill? a i = p.prefill? a i := by
    rw [prefill?, prefill?, h.feeding?_eq here]
  unfold parameter?
  simp only [prefill, h.lang, h.kind?_eq]
  split
  · split <;> exact .pure rfl
  · split
    · split
      · exact .pure rfl
      · refine (lockstep_addImports _).andThen fun _ => ?_
        exact (lockstep_markProcessed _).andThen fun _ => .pure rfl
    · exact (h.lockstep_error here _).andThen fun _ => .pure rfl

theorem lockstep_parameters (n : Node) (is : List Nat) :
    p.Lockstep q Eq (p.parameters a n is) (q.parameters a n is) := by
  induction is with
  | nil => exact .pure rfl
  | cons i is ih =>
    refine (h.lockstep_parameter? here n i).andThen fun text => ?_
    cases text with
    | none => exact ih
    | some text => exact ih.andThen fun _ => .pure rfl

omit here in
/-- The text for a value is the same if texts get the same lines. -/
theorem lockstep_reference (port : String) {v : Producer} (there : on v.address.path) :
    p.Lockstep q (p.settings.Agree q.settings) (p.reference a port v) (q.reference a port v) := by
  refine Lockstep.get.bind fun s s' hs => (lockstep_note _ _).andThen fun _ => .pure ?_
  intro shape
  unfold valueOf
  rw [h.kindAt?_eq there, hs.result v.address shape]

variable {w w' : Walk} (hw : p.WalkInStep q on w w')
include hw

theorem lockstep_demand (port : String) :
    p.Lockstep q (SameProducer on) (p.demand w a port) (q.demand w' a port) := by
  refine (hw.resolve port here).bind fun v v' same => ?_
  cases same with
  | none => exact (h.lockstep_error here _).andThen fun _ => .pure .none
  | some same => exact .pure (.some same)

theorem lockstep_valueAt? (port : String) :
    p.Lockstep q (Option.Rel (p.settings.Agree q.settings)) (p.valueAt? w a port)
      (q.valueAt? w' a port) := by
  refine (hw.resolve port here).bind fun v v' same => ?_
  cases same with
  | none => exact .pure .none
  | some same =>
    obtain ⟨rfl, there⟩ := same
    exact (h.lockstep_reference port there).bind fun _ _ agree => .pure (.some agree)

omit h in
theorem lockstep_flowBlock (port : String) :
    p.Lockstep q Eq (p.flowBlock w a port) (q.flowBlock w' a port) :=
  .inBlock 1 <| (hw.follow port here).andThen fun _ =>
    (lockstep_fillEmpty a).andThen fun _ => .pure rfl

theorem lockstep_argument (n : Node) (key : String) (t : DataType) :
    p.Lockstep q (p.settings.Agree q.settings) (p.argument w a n key t)
      (q.argument w' a n key t) := by
  have fetched : p.Lockstep q (SameProducer on) (p.fetch w a key t) (q.fetch w' a key t) := by
    unfold fetch
    split_ifs
    · exact hw.resolve key here
    · exact h.lockstep_demand here hw key
  refine fetched.bind fun v v' same => ?_
  cases same with
  | none => exact (lockstep_addImports _).andThen fun _ => .pure fun _ => rfl
  | some same =>
    obtain ⟨rfl, there⟩ := same
    exact h.lockstep_reference key there

theorem lockstep_arguments (n : Node) (params : List FieldDesc) {args args' : Arguments}
    (agree : p.settings.Agree q.settings args args') :
    p.Lockstep q (p.settings.Agree q.settings) (p.arguments w a n params args)
      (q.arguments w' a n params args') := by
  induction params generalizing args args' with
  | nil => exact .pure agree
  | cons param params ih =>
    unfold arguments
    rw [h.lang]
    split
    · exact ih agree
    · refine (h.lockstep_argument here hw n _ _).bind fun value value' values => ih fun shape => ?_
      rw [agree shape, values shape]

theorem lockstep_emitCall (n : Node) (function : String) (sideEffect : Bool) :
    p.Lockstep q Eq (p.emitCall w a n function sideEffect)
      (q.emitCall w' a n function sideEffect) := by
  unfold emitCall
  rw [h.lang, h.readers_eq here]
  split
  · exact h.lockstep_error here _
  · refine (h.lockstep_arguments here hw n _ fun _ => rfl).bind fun args args' agree => ?_
    refine (lockstep_addImports _).andThen fun _ => (lockstep_addImports _).andThen fun _ => ?_
    refine lockstep_recordValue a _ _ (fun shape => ?_) fun shape => ?_
    · rw [agree shape]
    · rw [mustBind_agree _ _ shape]

omit h in
theorem lockstep_followAll (ports : List String) :
    p.Lockstep q Eq (followAll w a ports) (followAll w' a ports) := by
  induction ports with
  | nil => exact .pure rfl
  | cons port ports ih => exact (hw.follow port here).andThen fun _ => ih

theorem lockstep_emitBranch : p.Lockstep q Eq (p.emitBranch w a) (q.emitBranch w' a) := by
  refine (h.lockstep_demand here hw "inValue").bind fun v v' same => ?_
  cases same with
  | none => exact .pure rfl
  | some same =>
    obtain ⟨rfl, there⟩ := same
    refine (h.lockstep_reference _ there).bind fun condition condition' agree => ?_
    refine (lockstep_write a _ fun shape => by rw [agree shape]).andThen fun _ => ?_
    refine (lockstep_flowBlock here hw "then").andThen fun connected => ?_
    -- what comes after the first arm, whether or not its absence is reported
    have otherwise : p.Lockstep q Eq
        (write a "else" .header >>= fun _ => p.flowBlock w a "else" >>= fun _ => pure ())
        (write a "else" .header >>= fun _ => q.flowBlock w' a "else" >>= fun _ => pure ()) :=
      (lockstep_writeSame a).andThen fun _ =>
        (lockstep_flowBlock here hw "else").andThen fun _ => .pure rfl
    cases connected with
    | false => exact (h.lockstep_report here _).andThen fun _ => otherwise
    | true => exact otherwise

theorem lockstep_emitWhile : p.Lockstep q Eq (p.emitWhile w a) (q.emitWhile w' a) := by
  refine (h.lockstep_demand here hw "inValue").bind fun v v' same => ?_
  cases same with
  | none => exact .pure rfl
  | some same =>
    obtain ⟨rfl, there⟩ := same
    refine (h.lockstep_reference _ there).bind fun condition condition' agree => ?_
    refine (lockstep_write a _ fun shape => by rw [agree shape]).andThen fun _ => ?_
    exact (lockstep_flowBlock here hw "body").andThen fun _ => .pure rfl

/-- The same slots have a range, and the ranges have the same texts if texts get the same lines. -/
theorem lockstep_loopRanges (is : List Nat) :
    p.Lockstep q (List.Forall₂ fun r r' => r.1 = r'.1 ∧ p.settings.Agree q.settings r.2 r'.2)
      (p.loopRanges w a is) (q.loopRanges w' a is) := by
  induction is with
  | nil => exact .pure .nil
  | cons i is ih =>
    refine (h.lockstep_valueAt? here hw (slotKey "range" i)).bind fun range range' ranges => ?_
    cases ranges with
    | none => exact ih
    | some agree => exact ih.bind fun _ _ rest => .pure (.cons ⟨rfl, agree⟩ rest)

theorem lockstep_emitFor (n : Node) : p.Lockstep q Eq (p.emitFor w a n) (q.emitFor w' a n) := by
  refine (h.lockstep_loopRanges here hw _).bind fun ranges ranges' same => ?_
  -- whether there are ranges at all does not depend on their texts
  have empty : ranges.isEmpty = ranges'.isEmpty := by cases same <;> rfl
  have agree : p.settings.Agree q.settings ranges ranges' := fun shape => by
    have equal := same.imp fun _ _ r => Prod.ext r.1 (r.2 shape)
    rwa [List.forall₂_eq_eq_eq] at equal
  rw [empty]
  split_ifs
  · exact h.lockstep_error here _
  · refine (lockstep_write a _ fun shape => by rw [agree shape]).andThen fun _ => ?_
    exact (lockstep_flowBlock here hw "body").andThen fun _ => .pure rfl

omit h here hw in
theorem lockstep_assign {target target' value value' : Fragment} (place : String)
    (targets : p.settings.Agree q.settings target target')
    (values : p.settings.Agree q.settings value value') :
    p.Lockstep q Eq (assign a target place value) (assign a target' place value') :=
  lockstep_write a _ fun shape => by rw [targets shape, values shape]

omit h here hw in
/-- A value at the input, or else one that is the same in both. -/
theorem agree_orElse {value value' : Option Fragment}
    (values : Option.Rel (p.settings.Agree q.settings) value value') (literal : Option Fragment) :
    Option.Rel (p.settings.Agree q.settings) (value <|> literal) (value' <|> literal) := by
  cases values with
  | some agree => exact .some agree
  | none =>
    cases literal with
    | none => exact .none
    | some literal => exact .some fun _ => rfl

theorem lockstep_assignFields (n : Node) {target target' : Fragment}
    (targets : p.settings.Agree q.settings target target') (i : Nat) (fields : List FieldDesc) :
    p.Lockstep q Eq (p.assignFields w a n target i fields)
      (q.assignFields w' a n target' i fields) := by
  induction fields generalizing i with
  | nil => exact .pure rfl
  | cons field fields ih =>
    unfold assignFields
    rw [h.lang]
    refine (h.lockstep_valueAt? here hw _).bind fun value value' values => ?_
    refine Lockstep.andThen ?_ fun _ => ih (i + 1)
    generalize changedLiteral? n i _ _ = literal
    have given := agree_orElse values literal
    generalize (value <|> literal) = x, (value' <|> literal) = x' at given ⊢
    cases given with
    | none => exact .pure rfl
    | some agree => exact lockstep_assign _ targets agree

theorem lockstep_emitAssignment (n : Node) :
    p.Lockstep q Eq (p.emitAssignment w a n) (q.emitAssignment w' a n) := by
  refine (h.lockstep_demand here hw "inVariable").bind fun v v' same => ?_
  cases same with
  | none => exact .pure rfl
  | some same =>
    obtain ⟨rfl, there⟩ := same
    refine (h.lockstep_reference _ there).bind fun target target' targets => ?_
    dsimp only
    rw [h.lang, h.node?_eq there]
    split
    · refine (h.lockstep_valueAt? here hw _).bind fun value value' values => ?_
      generalize assignedLiteral? n 0 _ _ = literal
      have given := agree_orElse values literal
      generalize (value <|> literal) = x, (value' <|> literal) = x' at given ⊢
      cases given with
      | none => exact h.lockstep_error here _
      | some agree => exact lockstep_assign _ targets agree
    · exact h.lockstep_assignFields here hw n targets 0 _

omit h here hw in
theorem lockstep_writeGiven (text : Option String) :
    p.Lockstep q Eq (writeGiven a text) (writeGiven a text) := by
  cases text with
  | none => exact .pure rfl
  | some text => exact lockstep_writeSame a

theorem lockstep_emitDefinition (n : Node) :
    p.Lockstep q Eq (p.emitDefinition w a n) (q.emitDefinition w' a n) := by
  refine (h.lockstep_parameters here n _).andThen fun params => ?_
  have main : p.Lockstep q Eq (markMain n (n.nameOr a)) (markMain n (n.nameOr a)) := by
    unfold markMain
    split_ifs
    · exact .mark (·.setMain (n.nameOr a)) fun _ => ⟨rfl, rfl, rfl⟩
    · exact .pure rfl
  refine main.andThen fun _ => (lockstep_writeGiven _).andThen fun _ => ?_
  refine (lockstep_writeSame a).andThen fun _ => ?_
  exact (lockstep_flowBlock here hw flowOutKey).andThen fun _ => lockstep_writeSame a

theorem lockstep_emit (n : Node) (kind : Kind) :
    p.Lockstep q Eq (p.emit w a n kind) (q.emit w' a n kind) := by
  cases kind with
  | literal type => exact h.lockstep_emitLiteral here n type
  | call function sideEffect => exact h.lockstep_emitCall here hw n function sideEffect
  | topLevelCode =>
    exact (lockstep_writeGiven _).andThen fun _ =>
      (hw.follow flowOutKey here).andThen fun _ => .pure rfl
  | code => exact lockstep_writeGiven _
  | sequence => exact lockstep_followAll here hw _
  | declaration => exact h.lockstep_emitDeclaration n
  | definition => exact h.lockstep_emitDefinition here hw n
  | record => exact h.lockstep_emitRecord n
  | branch => exact h.lockstep_emitBranch here hw
  | whileLoop => exact h.lockstep_emitWhile here hw
  | forLoop => exact h.lockstep_emitFor here hw n
  | assignment => exact h.lockstep_emitAssignment here hw n
  | moduleCall | moduleInput | moduleOutput | flowEntry | flowExit => exact .pure rfl

/-! ### Compiling and walking -/

theorem lockstep_compileNode (cause : Cause) (n : Node) (kind : Kind) :
    p.Lockstep q Eq (p.compileNode w a cause n kind) (q.compileNode w' a cause n kind) := by
  have begun : p.Lockstep q Eq
      (modify fun s => (s.markProcessed a).note (.emitted a cause s.block.path))
      (modify fun s => (s.markProcessed a).note (.emitted a cause s.block.path)) :=
    .modify fun hs => (hs.update (·.markProcessed a) fun _ => ⟨rfl, rfl, rfl⟩).note _ _
  refine begun.andThen fun _ => ?_
  refine (h.lockstep_emit here hw n kind).andThen fun _ => ?_
  split_ifs
  · exact (hw.follow flowOutKey here).andThen fun _ => .pure rfl
  · exact .pure rfl

theorem lockstep_visit (cause : Cause) :
    p.Lockstep q Eq (p.visit w a cause) (q.visit w' a cause) := by
  unfold visit
  rw [h.node?_eq here]
  split
  · exact .pure rfl
  · rename_i n _
    rw [h.kind?_eq]
    split
    · exact h.lockstep_error here _
    · rename_i kind _
      have compiled := h.lockstep_compileNode here hw cause n kind
      split_ifs
      · refine (lockstep_note _ _).andThen fun _ => Lockstep.get.bind fun s s' hs => ?_
        rw [hs.visited]
        split_ifs
        · exact h.lockstep_report here _
        · exact (Lockstep.mark (·.visit a) fun _ => ⟨rfl, rfl, rfl⟩).andThen fun _ => compiled
      · exact compiled

theorem lockstep_settle (kind : Kind) :
    p.Lockstep q Eq (p.settle w a kind) (q.settle w' a kind) := by
  refine (lockstep_note _ _).andThen fun _ => Lockstep.get.bind fun s s' hs => ?_
  rw [hs.started, hs.resolving]
  split_ifs
  · exact h.lockstep_error here _
  · exact .pure rfl
  · refine (Lockstep.mark (fun s => (s.start a).beginResolving a) fun _ => ⟨rfl, rfl, rfl⟩).andThen
      fun _ => ?_
    refine (h.lockstep_visit here hw .demand).andThen fun _ => ?_
    exact .mark (·.endResolving a) fun _ => ⟨rfl, rfl, rfl⟩
  · exact .pure rfl

omit hw in
/-- Where one pass enters a module, the other one enters it, by a path of the family. -/
theorem lockstep_enter? {n : Node} (there : p.Holds a.path n) (call : p.kind? n = some .moduleCall) :
    p.Lockstep q (Option.Rel fun g g' => g = g' ∧ on (a.path ++ [n.id]))
      (p.enter? (a.sibling n.id) n) (q.enter? (a.sibling n.id) n) := by
  have beside : on (a.sibling n.id).path := here
  dsimp only [enter?]
  rw [h.callee here there call, h.expanding_eq beside]
  split
  · exact (h.lockstep_error beside _).andThen fun _ => .pure .none
  · rename_i g found
    split_ifs with expanding
    · exact (h.lockstep_error beside _).andThen fun _ => .pure .none
    · have entered : p.entered? ⟨a.path, n.id⟩ n = some g :=
        entered?_eq_some.2 ⟨found, Bool.eq_false_iff.2 expanding⟩
      refine (lockstep_markProcessed _).andThen fun _ => .pure (.some ⟨rfl, ?_⟩)
      exact h.inner here there call (by rw [entered]; rfl)

theorem lockstep_resolveFrom {n : Node} (there : p.Holds a.path n) (port : String) :
    p.Lockstep q (SameProducer on) (p.resolveFrom w (a.sibling n.id) n port)
      (q.resolveFrom w' (a.sibling n.id) n port) := by
  have beside : on (a.sibling n.id).path := here
  unfold resolveFrom
  rw [h.kind?_eq]
  split
  · exact (h.lockstep_error beside _).andThen fun _ => .pure .none
  · unfold resolveInput
    split
    · exact (h.lockstep_error beside _).andThen fun _ => .pure .none
    · rename_i call site
      exact hw.resolve _ (h.callSite beside site)
  · rename_i kind
    refine (h.lockstep_enter? here there kind).bind fun g g' entered => ?_
    cases entered with
    | none => exact .pure .none
    | some entered =>
      obtain ⟨rfl, inside⟩ := entered
      dsimp only
      split
      · exact hw.resolve _ inside
      · exact (h.lockstep_error beside _).andThen fun _ => .pure .none
  · refine .pure ?_
    cases slotIndex? "out" port with
    | none => exact .none
    | some i => exact .some ⟨rfl, here⟩
  · exact hw.resolve _ beside
  · refine (h.lockstep_settle beside hw _).andThen fun _ => ?_
    refine (Lockstep.mark (·.require (a.sibling n.id)) fun _ => ⟨rfl, rfl, rfl⟩).andThen
      fun _ => ?_
    exact .pure (.some ⟨rfl, here⟩)

theorem lockstep_followTo {n : Node} (there : p.Holds a.path n) (port : String) :
    p.Lockstep q Eq (p.followTo w (a.sibling n.id) n port)
      (q.followTo w' (a.sibling n.id) n port) := by
  have beside : on (a.sibling n.id).path := here
  unfold followTo
  rw [h.kind?_eq]
  split
  · unfold followExit
    split
    · exact h.lockstep_error beside _
    · rename_i call site
      exact (hw.follow _ (h.callSite beside site)).andThen fun _ => .pure rfl
  · rename_i kind
    refine (h.lockstep_enter? here there kind).bind fun g g' entered => ?_
    cases entered with
    | none => exact .pure rfl
    | some entered =>
      obtain ⟨rfl, inside⟩ := entered
      dsimp only
      split
      · exact (hw.follow _ inside).andThen fun _ => .pure rfl
      · exact h.lockstep_error beside _
  · exact h.lockstep_visit beside hw .flow

omit here in
/-- One more step of asking and following is in lockstep. -/
theorem walkInStep_step :
    p.WalkInStep q on ⟨p.resolveStep w, p.followStep w⟩ ⟨q.resolveStep w', q.followStep w'⟩ where
  resolve := by
    intro a port here
    refine (lockstep_note _ _).andThen fun _ => ?_
    rw [h.feeding?_eq here]
    split
    · exact .pure .none
    · rename_i wire n feeding
      exact h.lockstep_resolveFrom here hw (holds_of_feeding? feeding) _
  follow := by
    intro a port here
    refine (lockstep_note _ _).andThen fun _ => ?_
    rw [h.fedBy?_eq here]
    split
    · exact .pure rfl
    · rename_i wire n fed
      exact (h.lockstep_followTo here hw (holds_of_fedBy? fed) _).andThen fun _ => .pure rfl

omit here in
theorem lockstep_visitAll {as : List Address} (roots : ∀ a ∈ as, on a.path) :
    p.Lockstep q Eq (p.visitAll w as) (q.visitAll w' as) := by
  induction as with
  | nil => exact .pure rfl
  | cons a as ih =>
    obtain ⟨first, rest⟩ := List.forall_mem_cons.1 roots
    exact (h.lockstep_visit first hw .entry).andThen fun _ => ih rest

omit here hw

/-! ### Whole passes -/

theorem walkInStep (fuel : Nat) : p.WalkInStep q on (p.walk fuel) (q.walk fuel) := by
  induction fuel with
  | zero => exact ⟨fun _ _ => .exhausted, fun _ _ => .exhausted⟩
  | succ fuel ih => exact h.walkInStep_step ih

/-- With the same fuel both passes come to an end, at the same step, or neither does. -/
theorem runWith? (fuel : Nat) :
    Option.Rel (Pass.Alike p.settings q.settings) (p.runWith? fuel) (q.runWith? fuel) := by
  have roots : ∀ a ∈ p.entries, on a.path := by
    intro a mem
    obtain ⟨n, -, rfl⟩ := List.mem_map.1 mem
    exact h.nil
  have start : Pass.Alike p.settings q.settings {} {} := ⟨rfl, fun _ => .nil, fun _ => rfl⟩
  have visited := h.lockstep_visitAll (h.walkInStep fuel) roots {} {} start
  unfold Program.runWith?
  rw [h.entries_eq]
  change Option.Rel _ (Option.map _ (p.visitAll _ _ _)) (Option.map _ (q.visitAll _ _ _))
  generalize p.visitAll (p.walk fuel) p.entries {} = o at visited ⊢
  generalize q.visitAll (q.walk fuel) p.entries {} = o' at visited ⊢
  cases visited with
  | none => exact .none
  | some r => exact .some r.2

theorem exists_runWith? {fuel : Nat} {s : Pass} (ran : p.runWith? fuel = some s) :
    ∃ s', q.runWith? fuel = some s' ∧ Pass.Alike p.settings q.settings s s' := by
  have both := h.runWith? fuel
  rw [ran] at both
  generalize q.runWith? fuel = o at both
  cases both with
  | some alike => exact ⟨_, rfl, alike⟩

/-- Both passes come to an end or neither does. -/
theorem ends_iff : (∃ s, p.Ends s) ↔ ∃ s, q.Ends s := by
  constructor
  · rintro ⟨s, fuel, ran⟩
    obtain ⟨s', ran', -⟩ := h.exists_runWith? ran
    exact ⟨s', fuel, ran'⟩
  · rintro ⟨s', fuel, ran'⟩
    have both := h.runWith? fuel
    rw [ran'] at both
    generalize ran : p.runWith? fuel = o at both
    cases both
    exact ⟨_, fuel, ran⟩

/-- Passes that have come to an end are at the same step. -/
theorem alike {s s' : Pass} (ends : p.Ends s) (ends' : q.Ends s') :
    Pass.Alike p.settings q.settings s s' := by
  obtain ⟨fuel, hs⟩ := ends
  obtain ⟨fuel', hs'⟩ := ends'
  have both := h.runWith? (max fuel fuel')
  rw [p.runWith?_mono (Nat.le_max_left ..) hs, q.runWith?_mono (Nat.le_max_right ..) hs'] at both
  cases both with
  | some alike => exact alike

end Parallel

end Program

end FlowScript
