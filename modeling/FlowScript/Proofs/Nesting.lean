import FlowScript.Proofs.Building
import FlowScript.Proofs.Once

/-!
# Blocks

The body of a pass is properly nested.  A head is followed by the lines of its block, there is at
least one of them, and no line outside that run is in the block.  What was compiled while the block
was open makes up the run; the placeholder stands for nothing.

* `Program.Origin`: where a line comes from that heads no block;
* `Program.Filled`: a head and what was compiled into its block;
* `Program.Nested`: lines and blocks one after the other;
* `Program.Builds.adds`: whatever is built is nested;
* `Program.Ends.properly_nested`: the body of a finished pass.
-/

namespace FlowScript

/-! ### The lines of a text -/

/-- A line is one of those of a text of an occurrence. -/
structure Line.PartOf (l : Line) (a : Address) (text : String) : Prop where
  owner : l.owner = some a.rootId
  text : l.text.toList ∈ Text.splitLines text.toList

/-- The lines of an open block, or the placeholder if there are none. -/
def Block.content (b : Block) (settings : Settings) (a : Address) : List Line :=
  if b.lines.isEmpty then b.linesOf (some a.rootId) ⟨settings.placeholder, []⟩ .placeholder
  else b.lines.reverse

namespace Program

/-- Where a line comes from that heads no block.  It may still be one of the first lines of a head
that has more than one. -/
inductive Origin (p : Program) (journal : List Event) (l : Line) : Prop
  | marker {a : Address} (part : l.PartOf a p.settings.discardMarker)
  | placeholder {a : Address} (part : l.PartOf a p.settings.placeholder)
  | words {a : Address} {n : Node} {kind : Kind} {block : List Nat} {text : String}
      (here : p.Compiles a n kind block journal) (within : block <:+ l.block)
      (words : p.Words a n kind text) (part : l.PartOf a text)
  | head {a : Address} {n : Node} {kind : Kind} {content : Content} {text : String}
      (here : p.Compiles a n kind l.block journal) (heads : p.Heads a n kind content text)
      (owner : l.owner = some a.rootId)
      (early : l.text.toList ∈ (Text.splitLines text.toList).dropLast)

/-- A line is the last one of a head, and some lines are those that were compiled, right after it,
into the block with a number. -/
inductive Filled (p : Program) (journal : List Event) (h : Line) (k : Nat) (lines : List Line) :
    Prop
  | mk {a : Address} {n : Node} {kind : Kind} {content : Content} {text : String} {s s' : Pass}
      (here : p.Compiles a n kind h.block journal) (heads : p.Heads a n kind content text)
      (owner : h.owner = some a.rootId)
      (last : (Text.splitLines text.toList).getLast? = some h.text.toList)
      (written : s.journal.head? = some (.wrote h))
      (opened : s.block = { depth := h.depth + 1, path := k :: h.block })
      (fills : p.Fills a n content s s') (later : s'.journal <:+ journal)
      (all : lines = s'.block.content p.settings a)

/-- Lines of a block at a depth, with blocks below it that are numbered from a lower to an upper
bound. -/
inductive Nested (p : Program) (journal : List Event) :
    List Nat → Nat → Nat → Nat → List Line → Prop
  | nil {path : List Nat} {depth low high : Nat} (le : low ≤ high) :
      Nested p journal path depth low high []
  | line {path : List Nat} {depth low high : Nat} {l : Line} {ls : List Line}
      (place : l.block = path ∧ l.depth = depth) (plain : l.role ≠ .header)
      (origin : p.Origin journal l) (rest : Nested p journal path depth low high ls) :
      Nested p journal path depth low high (l :: ls)
  | block {path : List Nat} {depth low k mid high : Nat} {h : Line} {inner ls : List Line}
      (place : h.block = path ∧ h.depth = depth) (head : h.role = .header) (le : low ≤ k)
      (filled : p.Filled journal h k inner) (nonempty : inner ≠ [])
      (inside : Nested p journal (k :: path) (depth + 1) (k + 1) mid inner)
      (rest : Nested p journal path depth mid high ls) :
      Nested p journal path depth low high (h :: (inner ++ ls))

end Program

namespace Block

variable {b : Block} {owner : Option NodeId} {text : Fragment} {role : LineRole} {l : Line}

theorem linesOf_ne_nil : b.linesOf owner text role ≠ [] := by
  have parts := Text.splitLines_ne_nil text.text.toList
  have roles : ∀ {count}, count ≠ 0 → role.ofParts count ≠ [] := by
    intro count some
    cases role <;> simp [LineRole.ofParts, some]
  have both : (Text.splitLines text.text.toList).zip
      (role.ofParts (Text.splitLines text.text.toList).length) ≠ [] := by
    rw [Ne, List.zip_eq_nil_iff, not_or]
    exact ⟨parts, roles (by simpa using parts)⟩
  simpa only [linesOf, Ne, List.map_eq_nil_iff] using both

theorem content_ne_nil {settings : Settings} {a : Address} : b.content settings a ≠ [] := by
  unfold content
  split_ifs with empty
  · exact linesOf_ne_nil
  · simpa using empty

/-- The lines of a text stand in the open block, at its depth. -/
theorem place_of_mem_linesOf (h : l ∈ b.linesOf owner text role) :
    (l.block = b.path ∧ l.depth = b.depth) ∧ l.owner = owner ∧
      l.text.toList ∈ Text.splitLines text.text.toList := by
  obtain ⟨⟨part, role'⟩, mem, rfl⟩ := List.mem_map.1 h
  exact ⟨⟨rfl, rfl⟩, rfl, by simpa using (List.of_mem_zip mem).1⟩

/-- Only a head has a line that heads a block. -/
theorem role_ne_header_of_mem_linesOf (plain : role ≠ .header)
    (h : l ∈ b.linesOf owner text role) : l.role ≠ .header := by
  obtain ⟨⟨part, role'⟩, mem, rfl⟩ := List.mem_map.1 h
  have mem := (List.of_mem_zip mem).2
  cases role with
  | header => exact absurd rfl plain
  | declaration a =>
    rcases List.mem_cons.1 mem with rfl | mem
    · simp
    · simp [(List.mem_replicate.1 mem).2]
  | statement | placeholder | marker => simp [(List.mem_replicate.1 mem).2]

/-- A head ends with the line that heads the block. -/
theorem linesOf_header (b : Block) (owner : Option NodeId) (text : Fragment) :
    ∃ init last, b.linesOf owner text .header = init ++ [last] ∧ last.role = .header ∧
      (Text.splitLines text.text.toList).getLast? = some last.text.toList ∧
      ∀ l ∈ init, l.role ≠ .header ∧
        l.text.toList ∈ (Text.splitLines text.text.toList).dropLast := by
  obtain ⟨parts, part, split⟩ : ∃ parts part,
      Text.splitLines text.text.toList = parts ++ [part] :=
    ⟨_, _, (List.dropLast_append_getLast (Text.splitLines_ne_nil _)).symm⟩
  have roles : LineRole.header.ofParts (parts ++ [part]).length =
      List.replicate parts.length .statement ++ [.header] := by
    simp [LineRole.ofParts]
  refine ⟨_, _, by rw [linesOf, split, roles, List.zip_append (by simp), List.map_append]; rfl,
    rfl, by simp [split], ?_⟩
  intro l mem
  obtain ⟨⟨early, role⟩, both, rfl⟩ := List.mem_map.1 mem
  obtain ⟨part_mem, role_mem⟩ := List.of_mem_zip both
  exact ⟨by simp [(List.mem_replicate.1 role_mem).2], by simpa [split] using part_mem⟩

end Block

/-! ### Nested lines -/

namespace Program

variable {p : Program} {journal journal' : List Event} {path : List Nat}
  {depth low mid high : Nat} {l h : Line} {lines ls ls' : List Line}

theorem Origin.mono (origin : p.Origin journal l) (later : journal <:+ journal') :
    p.Origin journal' l := by
  cases origin with
  | marker part => exact .marker part
  | placeholder part => exact .placeholder part
  | words here within words part => exact .words (here.mono later) within words part
  | head here heads owner early => exact .head (here.mono later) heads owner early

theorem Filled.mono {k : Nat} (filled : p.Filled journal h k lines) (later : journal <:+ journal') :
    p.Filled journal' h k lines := by
  cases filled with
  | mk here heads owner last written opened fills before all =>
    exact .mk (here.mono later) heads owner last written opened fills (before.trans later) all

namespace Nested

theorem mono (nested : p.Nested journal path depth low high lines) (later : journal <:+ journal') :
    p.Nested journal' path depth low high lines := by
  induction nested with
  | nil le => exact .nil le
  | line place plain origin _ ih => exact .line place plain (origin.mono later) ih
  | block place head le filled nonempty _ _ ih ih' =>
    exact .block place head le (filled.mono later) nonempty ih ih'

theorem le (nested : p.Nested journal path depth low high lines) : low ≤ high := by
  induction nested with
  | nil le => exact le
  | line _ _ _ _ ih => exact ih
  | block _ _ le _ _ _ _ ih ih' => omega

theorem lower {low' : Nat} (nested : p.Nested journal path depth low high lines)
    (le : low' ≤ low) : p.Nested journal path depth low' high lines := by
  induction nested with
  | nil le' => exact .nil (Nat.le_trans le le')
  | line place plain origin _ ih => exact .line place plain origin (ih le)
  | block place head le' filled nonempty inside rest =>
    exact .block place head (Nat.le_trans le le') filled nonempty inside rest

theorem append (first : p.Nested journal path depth low mid ls)
    (second : p.Nested journal path depth mid high ls') :
    p.Nested journal path depth low high (ls ++ ls') := by
  induction first with
  | nil le => exact second.lower le
  | line place plain origin _ ih => exact .line place plain origin (ih second)
  | block place head le filled nonempty inside _ _ ih =>
    rw [List.cons_append, List.append_assoc]
    exact .block place head le filled nonempty inside (ih second)

/-- Lines that head no block. -/
theorem of_plain (le : low ≤ high) (all : ∀ l ∈ ls, (l.block = path ∧ l.depth = depth) ∧
    l.role ≠ .header ∧ p.Origin journal l) : p.Nested journal path depth low high ls := by
  induction ls with
  | nil => exact .nil le
  | cons l ls ih =>
    obtain ⟨place, plain, origin⟩ := all l (List.mem_cons_self ..)
    exact .line place plain origin (ih fun l mem => all l (List.mem_cons_of_mem _ mem))

/-- The lines of a text that is no head. -/
theorem linesOf {b : Block} {a : Address} {text : Fragment} {role : LineRole} (le : low ≤ high)
    (plain : role ≠ .header)
    (origin : ∀ l : Line, l.block = b.path → l.PartOf a text.text → p.Origin journal l) :
    p.Nested journal b.path b.depth low high (b.linesOf (some a.rootId) text role) := by
  refine of_plain le fun l mem => ?_
  obtain ⟨place, owner, part⟩ := Block.place_of_mem_linesOf mem
  exact ⟨place, Block.role_ne_header_of_mem_linesOf plain mem, origin l place.1 ⟨owner, part⟩⟩

/-- Where the lines are: in the block or in blocks below it, whose numbers are in the bounds. -/
theorem place (nested : p.Nested journal path depth low high lines) (mem : l ∈ lines) :
    ∃ below, l.block = below ++ path ∧ l.depth = depth + below.length ∧
      ∀ i ∈ below, low ≤ i ∧ i < high := by
  induction nested with
  | nil => cases mem
  | line place _ _ _ ih =>
    rcases List.mem_cons.1 mem with rfl | mem
    · exact ⟨[], place.1, place.2, by simp⟩
    · exact ih mem
  | @block path depth low k mid high h inner ls place _ le _ _ inside rest ih ih' =>
    have := inside.le
    have := rest.le
    rcases List.mem_cons.1 mem with rfl | mem
    · exact ⟨[], place.1, place.2, by simp⟩
    rcases List.mem_append.1 mem with mem | mem
    · obtain ⟨below, block, depth_eq, bounds⟩ := ih mem
      refine ⟨below ++ [k], by simp [block], by simp [depth_eq]; omega, fun i mem => ?_⟩
      rcases List.mem_append.1 mem with mem | mem
      · have := bounds i mem
        omega
      · have := List.mem_singleton.1 mem
        omega
    · obtain ⟨below, block, depth_eq, bounds⟩ := ih' mem
      refine ⟨below, block, depth_eq, fun i mem => ?_⟩
      have := bounds i mem
      omega

/-- No line is in a block with another number. -/
theorem notMem_block (nested : p.Nested journal path depth low high lines) (mem : l ∈ lines)
    {i : Nat} (outer : i ∉ path) (other : i < low ∨ high ≤ i) : i ∉ l.block := by
  obtain ⟨below, block, -, bounds⟩ := nested.place mem
  rw [block, List.mem_append, not_or]
  refine ⟨fun mem => ?_, outer⟩
  have := bounds i mem
  omega

/-- The first of the lines is in no block below. -/
theorem first (nested : p.Nested journal path depth low high lines) (head : lines.head? = some l) :
    l.block = path ∧ l.depth = depth := by
  cases nested with
  | nil => cases head
  | line place | block place =>
    cases head
    exact place

end Nested

/-- The run of lines that make up the block below a head, with the lines before and after. -/
structure OwnBlock (front : List Line) (h : Line) (k : Nat) (run rest : List Line) : Prop where
  nonempty : run ≠ []
  first : ∀ l, run.head? = some l → l.block = k :: h.block ∧ l.depth = h.depth + 1
  inside : ∀ l ∈ run, k :: h.block <:+ l.block ∧ h.depth + 1 ≤ l.depth
  outside : ∀ l ∈ front ++ h :: rest, k ∉ l.block
  next : ∀ l, rest.head? = some l → l.depth ≤ h.depth

namespace OwnBlock

variable {front run rest : List Line} {k : Nat}

theorem prepend (own : OwnBlock front h k run rest) (before : List Line)
    (outside : ∀ l ∈ before, k ∉ l.block) : OwnBlock (before ++ front) h k run rest :=
  { own with
    outside := fun l mem => by
      rw [List.append_assoc] at mem
      rcases List.mem_append.1 mem with mem | mem
      · exact outside l mem
      · exact own.outside l mem }

theorem append (own : OwnBlock front h k run rest) {after : List Line}
    (outside : ∀ l ∈ after, k ∉ l.block) (next : ∀ l, after.head? = some l → l.depth ≤ h.depth) :
    OwnBlock front h k run (rest ++ after) :=
  { own with
    outside := fun l mem => by
      rw [← List.cons_append, ← List.append_assoc] at mem
      rcases List.mem_append.1 mem with mem | mem
      · exact own.outside l mem
      · exact outside l mem
    next := fun l head => by
      cases rest with
      | nil => exact next l head
      | cons m rest => exact own.next l head }

end OwnBlock

/-- A line in one of two runs of lines, with what is before and after it. -/
theorem cut_append {xs ys front back : List Line} (split : xs ++ ys = front ++ h :: back) :
    (∃ back', xs = front ++ h :: back' ∧ back = back' ++ ys) ∨
      ∃ front', front = xs ++ front' ∧ ys = front' ++ h :: back := by
  rcases List.append_eq_append_iff.1 split with ⟨front', front_eq, ys_eq⟩ | ⟨xs', xs_eq, cons_eq⟩
  · exact .inr ⟨front', front_eq, ys_eq⟩
  · cases xs' with
    | nil => exact .inr ⟨[], by simpa using xs_eq.symm, cons_eq.symm⟩
    | cons m xs' =>
      obtain ⟨rfl, back_eq⟩ := List.cons.inj cons_eq
      exact .inl ⟨xs', xs_eq, back_eq⟩

/-- A head has a block of its own right below it. -/
theorem Nested.ownBlock (nested : p.Nested journal path depth low high lines)
    (outer : ∀ i ∈ path, i < low) {front back : List Line} (split : lines = front ++ h :: back)
    (head : h.role = .header) :
    ∃ k run rest, back = run ++ rest ∧ p.Filled journal h k run ∧ OwnBlock front h k run rest ∧
      low ≤ k ∧ k < high := by
  induction nested generalizing front back with
  | nil => simp at split
  | @line path depth low high l ls place plain _ _ ih =>
    cases front with
    | nil =>
      obtain ⟨rfl, -⟩ := List.cons.inj split
      exact absurd head plain
    | cons m front =>
      obtain ⟨rfl, tail⟩ := List.cons.inj split
      obtain ⟨k, run, rest, back_eq, filled, own, le, lt⟩ := ih outer tail
      refine ⟨k, run, rest, back_eq, filled, own.prepend [l] fun m mem => ?_, le, lt⟩
      rw [List.mem_singleton.1 mem, place.1]
      intro mem
      have := outer k mem
      omega
  | @block path depth low k mid high h₀ inner ls place _ le filled nonempty inside rest ih ih' =>
    have inner_le := inside.le
    have rest_le := rest.le
    have fresh : ∀ {i}, low ≤ i → i ∉ path := by
      intro i le mem
      have := outer i mem
      omega
    cases front with
    | nil =>
      -- the head of this block
      obtain ⟨rfl, back_eq⟩ := List.cons.inj split
      refine ⟨k, inner, ls, back_eq.symm, filled, ⟨nonempty, ?_, ?_, ?_, ?_⟩, le, by omega⟩
      · intro l first
        rw [place.1, place.2]
        exact inside.first first
      · intro l mem
        obtain ⟨below, block, depth_eq, -⟩ := inside.place mem
        rw [place.1, place.2]
        exact ⟨⟨below, block.symm⟩, by omega⟩
      · intro l mem
        rcases List.mem_cons.1 mem with rfl | mem
        · rw [place.1]
          exact fresh le
        · exact rest.notMem_block mem (fresh le) (.inl inner_le)
      · intro l first
        rw [(rest.first first).2, place.2]
    | cons m front =>
      obtain ⟨rfl, tail⟩ := List.cons.inj split
      rcases cut_append tail with ⟨back', inner_eq, back_eq⟩ | ⟨front', front_eq, ls_eq⟩
      · -- the head of a block further inside
        have outer' : ∀ i ∈ k :: path, i < k + 1 := by
          intro i mem
          rcases List.mem_cons.1 mem with rfl | mem
          · omega
          · have := outer i mem
            omega
        obtain ⟨k', run, after, run_eq, filled', own, le', lt'⟩ := ih outer' inner_eq
        have within : depth + 1 ≤ h.depth := by
          obtain ⟨below, -, depth_eq, -⟩ := inside.place (l := h) (by simp [inner_eq])
          omega
        refine ⟨k', run, after ++ ls, by rw [back_eq, run_eq, List.append_assoc], filled',
          (own.append ?_ ?_).prepend [h₀] ?_, by omega, by omega⟩
        · exact fun l mem => rest.notMem_block mem (fresh (by omega)) (.inl lt')
        · intro l first
          rw [(rest.first first).2]
          omega
        · intro l mem
          rw [List.mem_singleton.1 mem, place.1]
          exact fresh (by omega)
      · -- the head of a later block
        have outer' : ∀ i ∈ path, i < mid := by
          intro i mem
          have := outer i mem
          omega
        obtain ⟨k', run, after, run_eq, filled', own, le', lt'⟩ := ih' outer' ls_eq
        refine ⟨k', run, after, run_eq, filled', ?_, by omega, lt'⟩
        rw [front_eq]
        refine own.prepend (h₀ :: inner) fun l mem => ?_
        rcases List.mem_cons.1 mem with rfl | mem
        · rw [place.1]
          exact fresh (by omega)
        · refine inside.notMem_block mem ?_ (.inr le')
          rw [List.mem_cons, not_or]
          exact ⟨by omega, fresh (by omega)⟩

end Program

/-! ### What is built is nested -/

namespace Pass

variable {p : Program} {a : Address} {head : Fragment} {s s' : Pass}

theorem opened_closeUnder : (s'.closeUnder p a head s).opened = s'.opened := by
  unfold closeUnder
  dsimp only [closeBlock]
  split_ifs <;> rfl

theorem lines_closeUnder : (s'.closeUnder p a head s).block.lines =
    (s'.block.content p.settings a).reverse ++
      ((s.block.linesOf (some a.rootId) head .header).reverse ++ s.block.lines) := by
  unfold closeUnder Block.content
  dsimp only [closeBlock]
  split_ifs with empty
  · rw [List.isEmpty_iff] at empty
    simp [write, empty]
  · simp [write]

end Pass

namespace Program

variable {p : Program} {a : Address} {n : Node} {kind : Kind} {s s' : Pass}

/-- Some lines have been added to the open block, nested in it. -/
def Adds (p : Program) (s s' : Pass) : Prop :=
  ∃ new, s'.block.lines = new.reverse ++ s.block.lines ∧
    p.Nested s'.journal s.block.path s.block.depth s.opened s'.opened new

theorem Adds.trans {s₁ s₂ s₃ : Pass} (first : p.Adds s₁ s₂) (second : p.Adds s₂ s₃)
    (before : p.Builds s₁ s₂) (after : p.Builds s₂ s₃) : p.Adds s₁ s₃ := by
  obtain ⟨new, lines, nested⟩ := first
  obtain ⟨new', lines', nested'⟩ := second
  obtain ⟨depth, path, -⟩ := before.frame
  rw [path, depth] at nested'
  refine ⟨new ++ new', by simp [lines', lines], ?_⟩
  exact (nested.mono after.frame.2.2).append nested'

/-- What has been compiled into a block, or the placeholder, is nested in it. -/
theorem nested_content {head : Fragment}
    (inner : p.Builds (s.openUnder a head) s') (adds : p.Adds (s.openUnder a head) s') :
    p.Nested s'.journal (s.opened :: s.block.path) (s.block.depth + 1) (s.opened + 1) s'.opened
      (s'.block.content p.settings a) := by
  obtain ⟨new, lines, nested⟩ := adds
  have lines : s'.block.lines = new.reverse := by simpa [Pass.openUnder, Pass.openBlock] using lines
  obtain ⟨depth, path, -⟩ := inner.frame
  have le := nested.le
  unfold Block.content
  split_ifs
  · rw [← show s'.block.path = s.opened :: s.block.path from path,
      ← show s'.block.depth = s.block.depth + 1 from depth]
    exact .linesOf le (by simp) fun l _ part => .placeholder part
  · rw [lines, List.reverse_reverse]
    exact nested

/-- A head and the block below it. -/
theorem Adds.block {content : Content} {head : Fragment}
    (here : p.Compiles a n kind s.block.path s.journal)
    (heads : p.Heads a n kind content head.text)
    (fills : p.Fills a n content (s.openUnder a head) s')
    (inner : p.Builds (s.openUnder a head) s') (adds : p.Adds (s.openUnder a head) s') :
    p.Adds s (s'.closeUnder p a head s) := by
  obtain ⟨init, last, lines, role, text, early⟩ := s.block.linesOf_header (some a.rootId) head
  have place : ∀ l ∈ init ++ [last], (l.block = s.block.path ∧ l.depth = s.block.depth) ∧
      l.owner = some a.rootId := by
    intro l mem
    obtain ⟨place, owner, -⟩ := Block.place_of_mem_linesOf (lines ▸ mem)
    exact ⟨place, owner⟩
  obtain ⟨⟨block, depth⟩, owner⟩ := place last (by simp)
  have later : s'.journal <:+ (s'.closeUnder p a head s).journal := Pass.journal_suffix_closeUnder
  have here : p.Compiles a n kind s.block.path (s'.closeUnder p a head s).journal :=
    here.mono ((Pass.journal_suffix_write.trans inner.frame.2.2).trans later)
  have inside := nested_content inner adds
  have filled : p.Filled (s'.closeUnder p a head s).journal last s.opened
      (s'.block.content p.settings a) := by
    refine .mk (block ▸ here) heads owner text ?_ ?_ fills later rfl
    · simp [Pass.openUnder, Pass.openBlock, Pass.write, lines]
    · rw [block, depth]
      rfl
  have below := Nested.block ⟨block, depth⟩ role (Nat.le_refl _) filled Block.content_ne_nil
    (inside.mono later) (.nil (Nat.le_refl _))
  refine ⟨init ++ last :: (s'.block.content p.settings a ++ []), ?_, ?_⟩
  · rw [Pass.lines_closeUnder, lines]
    simp
  · rw [Pass.opened_closeUnder]
    refine .append (.of_plain (Nat.le_refl _) fun l mem => ?_) below
    obtain ⟨same, owner⟩ := place l (List.mem_append_left _ mem)
    obtain ⟨plain, early⟩ := early l mem
    exact ⟨same, plain, .head (same.1 ▸ here) heads owner early⟩

/-- Whatever is built is nested in the open block. -/
theorem Builds.adds (h : p.Builds s s') : p.Adds s s' := by
  induction h with
  | silent same => exact ⟨[], by simp [same.block], .nil (by rw [same.opened])⟩
  | trans first second ih ih' => exact ih.trans ih' first second
  | marker a =>
    exact ⟨_, rfl, .linesOf (Nat.le_refl _) (by simp) fun l _ part => .marker part⟩
  | write here within words plain =>
    refine ⟨_, rfl, .linesOf (Nat.le_refl _) plain fun l block part => ?_⟩
    exact .words (here.mono Pass.journal_suffix_write) (block ▸ within) words part
  | imports => exact ⟨[], rfl, .nil (Nat.le_refl _)⟩
  | block here heads fills inner ih => exact ih.block here heads fills inner
  | compile _ _ _ own after ih ih' => exact ih.trans ih' own after

/-- The body of a finished pass is nested. -/
theorem Ends.nested (h : p.Ends s) : p.Nested s.journal [] 0 0 s.opened s.body := by
  obtain ⟨new, lines, nested⟩ := h.builds.adds
  have body : s.body = new := by simp [Pass.body, lines]
  rw [body]
  exact nested

/-- A line that heads no block comes from an occurrence that was compiled, or marks a place where
nothing is. -/
theorem Nested.origin {journal : List Event} {path : List Nat} {depth low high : Nat}
    {lines : List Line} {l : Line} (nested : p.Nested journal path depth low high lines)
    (mem : l ∈ lines) (plain : l.role ≠ .header) : p.Origin journal l := by
  induction nested with
  | nil => cases mem
  | line _ _ origin _ ih =>
    rcases List.mem_cons.1 mem with rfl | mem
    · exact origin
    · exact ih mem
  | block _ head _ _ _ _ _ ih ih' =>
    rcases List.mem_cons.1 mem with rfl | mem
    · exact absurd head plain
    · exact (List.mem_append.1 mem).elim ih ih'

/-- The body of a finished pass is properly nested and has no empty block.  Every line is indented
by its depth, the number of blocks around it.  The text of a node leaves the block that is open as
it was.  Right below a head, which is the last line of a text that a node writes for that, there is
a run of lines, with the first of them one step further in.  The run is all that was compiled into
the block, or else the placeholder, and no other line is in that block. -/
theorem Ends.properly_nested (h : p.Ends s) :
    (s.finish p.settings).code = s.importText p.settings ++ String.join (s.body.map fun l =>
      String.join (List.replicate l.depth p.settings.indent) ++ l.text ++ "\n") ∧
    (∀ l ∈ s.body, l.depth = l.block.length) ∧
    (∀ l ∈ s.body, l.role ≠ .header → p.Origin s.journal l) ∧
    (∀ {fuel a cause n kind} {s₀ s₁ : Pass}, p.node? a = some n → p.kind? n = some kind →
      p.emit (p.walk fuel) a n kind (s₀.beginText a cause) = some ((), s₁) →
      s₁.block.depth = s₀.block.depth ∧ s₁.block.path = s₀.block.path) ∧
    ∀ front l back, s.body = front ++ l :: back → l.role = .header →
      ∃ k run rest, back = run ++ rest ∧ p.Filled s.journal l k run ∧
        OwnBlock front l k run rest := by
  refine ⟨rfl, fun l mem => ?_, fun l mem plain => h.nested.origin mem plain, ?_, ?_⟩
  · obtain ⟨below, block, depth, -⟩ := h.nested.place mem
    simp [block, depth]
  · intro fuel a cause n kind s₀ s₁ node kindOf run
    have here : p.Compiles a n kind s₀.block.path (s₀.beginText a cause).journal :=
      ⟨node, kindOf, cause, List.mem_cons_self ..⟩
    have builds := (buildsAt_emit (p.builder_walk fuel) _ here).eq_some run
    exact ⟨builds.frame.1, builds.frame.2.1⟩
  · intro front l back split head
    obtain ⟨k, run, rest, back_eq, filled, own, -⟩ :=
      h.nested.ownBlock (by simp) split head
    exact ⟨k, run, rest, back_eq, filled, own⟩

end Program

namespace Sample

/-- One arm of a branch leads nowhere and the other one to a node that nobody knows.  A loop after
it has a node that writes nothing, from which the flow goes back to the branch. -/
def hollow : Program where
  lang := language
  root := {
    name := "main"
    nodes := OrderedMap.ofList [
      (1, { id := 1, component := "Function" }),
      (2, { id := 2, component := "If" }),
      (3, { id := 3, component := "bool", data := OrderedMap.ofList [("value", .str "true")] }),
      (4, { id := 4, component := "unheard-of" }),
      (5, { id := 5, component := "While" }),
      (6, { id := 6, component := "InjectCode" }),
      (7, { id := 7, component := "Struct" })]
    wires := [⟨1, "fout", 2, "fin"⟩, ⟨3, "result", 2, "inValue"⟩, ⟨2, "else", 4, "fin"⟩,
      ⟨2, "fout", 5, "fin"⟩, ⟨3, "result", 5, "inValue"⟩, ⟨5, "body", 6, "fin"⟩,
      ⟨6, "fout", 2, "fin"⟩] }

theorem hollow_isSome : (hollow.runWith? 10).isSome = true := by
  decide +kernel

/-- How the program is compiled. -/
def hollowPass : Pass := (hollow.runWith? 10).get hollow_isSome

theorem hollow_ends : hollow.Ends hollowPass :=
  ⟨10, (Option.some_get _).symm⟩

/-- No block is empty; that of the loop, for one, has a run of lines right below its head. -/
theorem properly_nested_hollow :
    hollowPass.body.map (fun l => (l.depth, l.text)) =
      [(0, "def _1()"), (1, "if (true)"), (2, "pass"), (1, "else"),
        (2, "//ERROR: node error here, code discarded"), (1, "while (true)"), (2, "pass"),
        (0, ""), (0, "struct _7"), (1, "pass"), (0, "")] ∧
      ∃ front l back, hollowPass.body = front ++ l :: back ∧ l.text = "while (true)" ∧
        ∃ k run rest, back = run ++ rest ∧ hollow.Filled hollowPass.journal l k run ∧
          Program.OwnBlock front l k run rest := by
  let head : Line := ⟨some 5, 1, "while (true)", .header, [0], []⟩
  have split : hollowPass.body = hollowPass.body.take 5 ++ head :: hollowPass.body.drop 6 := by
    decide +kernel
  obtain ⟨-, -, -, -, below⟩ := hollow_ends.properly_nested
  exact ⟨by decide +kernel, _, head, _, split, rfl, below _ _ _ split rfl⟩

end Sample

end FlowScript
