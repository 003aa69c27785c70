import FlowScript.Pattern.ByteRange
import FlowScript.Pattern.Expr
import Std.Data.HashMap

/-!
# The size of an automaton

A pattern is only accepted if the automata that recognise it, reading forward and backward, stay
within a bound.  The automata read bytes.  Their states are counted here as they would be built,
one by one: a state takes a fixed amount, and more for each of several ways out of it.

Sets of characters share states where their encodings end alike.  The states to share are looked
up in a table with few places, where a later state takes the place of an earlier one with the same
hash, so the hash is part of the count.

* `Expr.fits`: whether both automata stay within the bound.
-/

namespace FlowScript.Pattern

namespace Size

/-- The most that an automaton may take. -/
def bound : Nat := 10 * Nat.pow 2 20

/-- What a state takes. -/
def stateSize : Nat := 32

/-- What a state takes for each range of bytes, where it has several. -/
def rangeSize : Nat := 8

/-- What a state takes for each of its branches. -/
def branchSize : Nat := 4

/-- What has been built: the number of states, and what they take beyond their fixed size. -/
structure Tally where
  states : Nat := 0
  extra : Nat := 0

/-- A construction that fails beyond the bound. -/
abbrev Build := StateT Tally Option

/-- Keep a tally within the bound. -/
def keep (t : Tally) : Option Tally :=
  if t.states * stateSize + t.extra ≤ bound then some t else none

/-- Add a state that takes something extra, and give its number. -/
def add (extra : Nat) : Build Nat := fun t =>
  (keep ⟨t.states + 1, t.extra + extra⟩).map (t.states, ·)

/-- Add a number of plain states. -/
def addStates (n : Nat) : Build Unit := fun t =>
  (keep { t with states := t.states + n }).map ((), ·)

/-- Add branches to a state that has been added before. -/
def addBranches (n : Nat) : Build Unit := fun t =>
  (keep { t with extra := t.extra + n * branchSize }).map ((), ·)

/-- How a part of an automaton ends: in a state that branches, or in a plain one. -/
inductive Ending
  | branching
  | plain
  deriving DecidableEq

/-- Lead on from the end of a part: a state that branches gets one more branch. -/
def lead : Ending → Build Unit
  | .branching => addBranches 1
  | .plain => pure ()

/-! ### Sets of characters -/

/-- Add a number to a hash. -/
def mix (h : UInt64) (n : Nat) : UInt64 := (h ^^^ n.toUInt64) * 1099511628211

/-- The hash of some numbers. -/
def hash (key : List Nat) : UInt64 := key.foldl mix 14695981039346656037

/-- States to share: at each place the last state with the numbers that describe it. -/
abbrev Shared := Std.HashMap Nat (List Nat × Nat)

/-- The state that some numbers describe, shared if it is still in its place. -/
def share (places extra : Nat) (key : List Nat) (shared : Shared) : Build (Nat × Shared) :=
  let place := (hash key).toNat % places
  let fresh : Build (Nat × Shared) := do
    let n ← add extra
    return (n, shared.insert place (key, n))
  match shared.get? place with
  | some (known, n) => if known = key then return (n, shared) else fresh
  | none => fresh

mutual

/-- The state that accepts byte sequences, in increasing order and not longer than `depth`, and
leads to a target.  The first byte and the last of each of its ranges and the state that the range
leads to describe it. -/
def forwardState (target : Nat) : Nat → List (List ByteRange) → Shared → Build (Nat × Shared)
  | 0, _, shared => pure (target, shared)
  | depth + 1, seqs, shared => do
    let groups := seqs.splitBy fun a b => a.head? == b.head?
    let (key, shared) ← forwardRanges target depth groups [] shared
    share 10000 (groups.length * rangeSize) key.reverse shared

/-- The description of groups of byte sequences that start alike, put in front, backwards, of what
is described. -/
def forwardRanges (target depth : Nat) : List (List (List ByteRange)) → List Nat → Shared →
    Build (List Nat × Shared)
  | [], key, shared => pure (key, shared)
  | group :: rest, key, shared => do
    let tails := group.map List.tail
    let (next, shared) ←
      if tails.all List.isEmpty then pure (target, shared)
      else forwardState target depth tails shared
    let r := (group.head?.bind List.head?).getD default
    forwardRanges target depth rest (next :: r.last :: r.first :: key) shared

end

/-- The states of a set that is read forward. -/
def forwardSet (s : CharSet) : Build Unit := do
  let target ← add 0
  discard <| forwardState target 4 (ByteRange.sequences s) ∅

/-- The states of one byte sequence that is read backward: from its first byte on, each leads to
the one before, and the last is a branch of the whole.  The state it leads to and its range
describe a state. -/
def backwardSequence (target : Nat) : List ByteRange → Shared → Build Shared
  | [], shared => do
    addBranches 1
    return shared
  | r :: rest, shared => do
    let (n, shared) ← share 1000 0 [target, r.first, r.last] shared
    backwardSequence n rest shared

/-- The states of byte sequences that are read backward. -/
def backwardSequences (target : Nat) : List (List ByteRange) → Shared → Build Unit
  | [], _ => pure ()
  | seq :: rest, shared => do
    let shared ← backwardSequence target seq shared
    backwardSequences target rest shared

/-- The states of a set that is read backward. -/
def backwardSet (s : CharSet) : Build Unit := do
  discard <| add 0
  let target ← add 0
  backwardSequences target (ByteRange.sequences s) ∅

/-- The states of a set: in ASCII one state with its ranges, and one to lead on. -/
def ofSet (backward : Bool) (s : CharSet) : Build Ending := do
  if s.isAscii then
    discard <| add 0
    discard <| add (s.ranges.length * rangeSize)
  else if backward then backwardSet s
  else forwardSet s
  return .plain

/-! ### Choices between words -/

/-- The parts of a list of words between empty ones; empty words at the start count once. -/
def wordParts (words : List (List Nat)) : List (List (List Nat)) :=
  let words := match words with
    | [] :: rest => [] :: rest.dropWhile List.isEmpty
    | words => words
  words.foldr (fun w parts => match w, parts with
    | [], parts => [] :: parts
    | w, part :: parts => (w :: part) :: parts
    | w, [] => [[w]]) [[]]

/-- The words of a list that start with each byte, without it. -/
def byFirst (words : List (List Nat)) : List (List (List Nat)) :=
  (words.filterMap List.head?).eraseDups.map fun b =>
    (words.filter fun w => w.head? = some b).map List.tail

/-- The states for a choice between words not longer than `depth`, at the words that are left to
read: one state for each part, and one that branches into the parts. -/
def wordStates : Nat → List (List Nat) → Build Unit
  | 0, _ => pure ()
  | depth + 1, words => do
    let parts := wordParts words
    let full := parts.filter fun part => !part.isEmpty
    for part in full do
      let groups := byFirst part
      discard <| add (if groups.length = 1 then 0 else groups.length * rangeSize)
      for group in groups do
        if group.any fun w => !w.isEmpty then wordStates depth group
    discard <| add ((full.length + (parts.length - 1)) * branchSize)

/-- The bytes of a literal. -/
def literalBytes (backward : Bool) (cs : List Char) : List Nat :=
  let bytes := cs.flatMap fun c => (String.utf8EncodeChar c).map UInt8.toNat
  if backward then bytes.reverse else bytes

/-- The characters of an expression that is a literal. -/
def literal? : Expr → Option (List Char)
  | .letters cs => some cs
  | _ => none

/-- The states for a choice between literals. -/
def ofWords (words : List (List Nat)) : Build Ending := do
  discard <| add 0
  wordStates ((words.map List.length).foldl max 0 + 1) words
  return .plain

/-! ### Repetition -/

/-- A part a number of times, after a part that ends in some way. -/
def copiesAfter (part : Build Ending) : Nat → Ending → Build Ending
  | 0, e => pure e
  | n + 1, e => do
    let next ← part
    lead e
    copiesAfter part n next

/-- A part a number of times. -/
def copies (part : Build Ending) : Nat → Build Ending
  | 0 => do
    discard <| add 0
    return .plain
  | n + 1 => do copiesAfter part n (← part)

/-- A part up to a number of times more; each time may be the last. -/
def optionalCopies (part : Build Ending) : Nat → Ending → Build Ending
  | 0, e => pure e
  | n + 1, e => do
    discard <| add 0
    let next ← part
    lead e
    addBranches 2
    optionalCopies part n next

/-- A part any number of times; one that can be empty is kept apart from its repetition. -/
def anyTimes (part : Build Ending) (canBeEmpty : Bool) : Build Ending := do
  if canBeEmpty then
    let e ← part
    discard <| add 0
    lead e
    discard <| add 0
    discard <| add 0
    addBranches 4
    return .plain
  else
    discard <| add 0
    let e ← part
    addBranches 1
    lead e
    return .branching

/-- A part at least a number of times. -/
def manyTimes (part : Build Ending) (canBeEmpty : Bool) : Nat → Build Ending
  | 0 => anyTimes part canBeEmpty
  | 1 => do
    let e ← part
    discard <| add 0
    lead e
    addBranches 1
    return .branching
  | n + 2 => do
    let before ← copies part (n + 1)
    let e ← part
    discard <| add 0
    lead before
    lead e
    addBranches 1
    return .branching

/-- A part between two numbers of times. -/
def betweenTimes (part : Build Ending) (least most : Nat) : Build Ending := do
  if least = 0 ∧ most = 1 then
    discard <| add 0
    let e ← part
    discard <| add 0
    addBranches 2
    lead e
    return .plain
  else
    let e ← copies part least
    if least = most then return e
    else
      discard <| add 0
      let e ← optionalCopies part (most - least) e
      lead e
      return .plain

/-! ### Expressions -/

mutual

/-- The states of an expression. -/
def ofExpr (backward : Bool) : Expr → Build Ending
  | .empty => do
    discard <| add 0
    return .plain
  | .letters cs => do
    addStates (max 1 (literalBytes backward cs).length)
    return .plain
  | .set s => ofSet backward s
  | .assert _ => do
    discard <| add 0
    return .plain
  | .times body least most _ =>
    let part := ofExpr backward body
    match most with
    | none => manyTimes part (body.minLength.getD 0 == 0) least
    | some most => betweenTimes part least most
  | .group _ body =>
    if backward then ofExpr backward body
    else do
      discard <| add 0
      let e ← ofExpr backward body
      discard <| add 0
      lead e
      return .plain
  | .cat items => do
    let e ← if backward then ofItemsBackward items else ofItems none items
    return e.getD .plain
  | .alt branches =>
    match branches.mapM literal? with
    | some words => ofWords (words.map (literalBytes backward))
    | none => do
      ofBranches backward 0 branches
      return .plain

/-- The states of items that are read forward, after a part that ends in some way. -/
def ofItems (before : Option Ending) : List Expr → Build (Option Ending)
  | [] => pure before
  | e :: rest => do
    let next ← ofExpr false e
    before.forM lead
    ofItems (some next) rest

/-- The states of items that are read backward: the last comes first. -/
def ofItemsBackward : List Expr → Build (Option Ending)
  | [] => pure none
  | e :: rest => do
    let before ← ofItemsBackward rest
    let next ← ofExpr true e
    before.forM lead
    return some next

/-- The states of branches, each with a way in and a way to a common end, which come after the
second branch; `done` branches have come before. -/
def ofBranches (backward : Bool) (done : Nat) : List Expr → Build Unit
  | [] => pure ()
  | e :: rest => do
    let next ← ofExpr backward e
    if done = 1 then addStates 2
    addBranches 1
    lead next
    ofBranches backward (done + 1) rest

end

/-- Any byte: one state with one range, and one to lead on. -/
def anyByte : Build Ending := do
  addStates 1
  discard <| add rangeSize
  return .plain

/-- The whole automaton of an expression: unless it must start with the text, it may start after
any bytes, and a last state accepts. -/
def automaton (backward : Bool) (e : Expr) : Build Unit := do
  if if backward then e.endsText else e.startsText then discard <| add 0
  else
    lead (← anyTimes anyByte false)
  lead (← ofExpr backward (.group 0 e))
  discard <| add 0

end Size

/-- Whether the automata of an expression stay within the bound. -/
def Expr.fits (e : Expr) : Bool :=
  [false, true].all fun backward => ((Size.automaton backward e).run {}).isSome

end FlowScript.Pattern
