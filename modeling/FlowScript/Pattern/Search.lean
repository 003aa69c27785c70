import FlowScript.Pattern.Expr
import FlowScript.Text.Word

/-!
# Searching

A pattern denotes a relation between positions of a text.  Sets of positions are kept as the bits
of a number, bit `i` for the gap before the `i`-th character, so that each construct of a pattern
is one operation on such sets and the search needs no backtracking.

* `Expr.occursIn`: whether an expression matches somewhere in a text.
-/

namespace FlowScript.Pattern

/-- A position between two characters, where the text may start or end. -/
structure Gap where
  before : Option Char
  after : Option Char

/-- The positions of a text. -/
def Gap.all (cs : List Char) : List Gap :=
  List.zipWith Gap.mk (none :: cs.map some) (cs.map some ++ [none])

/-- Whether a neighbour exists and is a word character. -/
def isWordChar (ascii : Bool) : Option Char → Bool
  | none => false
  | some c => (if ascii then CharSet.asciiWord else Text.wordSet).holds c

/-- Whether a condition holds at a position. -/
def Assertion.holds (a : Assertion) (g : Gap) : Bool :=
  match a with
  | .textStart => g.before.isNone
  | .textEnd => g.after.isNone
  | .lineStart => g.before.isNone || g.before == some '\n'
  | .lineEnd => g.after.isNone || g.after == some '\n'
  | .returnLineStart =>
    g.before.isNone || g.before == some '\n' || (g.before == some '\r' && g.after != some '\n')
  | .returnLineEnd =>
    g.after.isNone || g.after == some '\r' || (g.after == some '\n' && g.before != some '\r')
  | .boundary w => isWordChar w g.before != isWordChar w g.after
  | .notBoundary w => isWordChar w g.before == isWordChar w g.after
  | .wordStart w => !isWordChar w g.before && isWordChar w g.after
  | .wordEnd w => isWordChar w g.before && !isWordChar w g.after
  | .wordStartHalf w => !isWordChar w g.before
  | .wordEndHalf w => !isWordChar w g.after

/-- The set of positions that pass a test. -/
def positions (gaps : List Gap) (test : Gap → Bool) : Nat :=
  gaps.foldr (fun g m => 2 * m + (if test g then 1 else 0)) 0

/-- An expression with the positions of one text filled in. -/
inductive Moves
  | stay (here : Nat)
  | advance (each : List Nat)
  | times (body : Moves) (least : Nat) (most : Option Nat)
  | cat (items : List Moves)
  | alt (branches : List Moves)

mutual

/-- Fill in the positions of a text. -/
def Expr.on (gaps : List Gap) : Expr → Moves
  | .empty => .stay (positions gaps fun _ => true)
  | .letters cs => .advance (cs.map fun c => positions gaps fun g => g.after == some c)
  | .set s => .advance [positions gaps fun g => g.after.any s.holds]
  | .assert a => .stay (positions gaps a.holds)
  | .times body least most _ => .times (body.on gaps) least most
  | .group _ body => body.on gaps
  | .cat items => .cat (Expr.allOn gaps items)
  | .alt branches => .alt (Expr.allOn gaps branches)

/-- Fill in the positions of a text in several expressions. -/
def Expr.allOn (gaps : List Gap) : List Expr → List Moves
  | [] => []
  | e :: rest => e.on gaps :: Expr.allOn gaps rest

end

/-- Apply a function a number of times; a fixed point ends the rounds. -/
def iterate (f : Nat → Nat) : Nat → Nat → Nat
  | 0, m => m
  | n + 1, m => let next := f m; if next = m then m else iterate f n next

/-- Add what is reached in a number of rounds; each round starts from the positions that the one
before it has found. -/
def spread (f : Nat → Nat) : Nat → Nat → Nat → Nat
  | 0, _, found => found
  | n + 1, fresh, found =>
    let reached := f fresh
    let fresh := reached ^^^ (reached &&& found)
    if fresh = 0 then found else spread f n fresh (found ||| fresh)

/-- Step over characters that stand at given positions. -/
def stepOver (m : Nat) : List Nat → Nat
  | [] => m
  | here :: rest => stepOver ((m &&& here) <<< 1) rest

mutual

/-- The positions reached from a set of positions; a text with `count` positions needs no more
than `count` further rounds of a repetition. -/
def Moves.reach (count : Nat) : Moves → Nat → Nat
  | .stay here, m => m &&& here
  | .advance each, m => stepOver m each
  | .times body least most, m =>
    let step := body.reach count
    let start := iterate step least m
    let extra := match most with
      | none => count
      | some n => min count (n - least)
    spread step extra start start
  | .cat items, m => Moves.reachThrough count items m
  | .alt branches, m => Moves.reachAny count branches m 0

/-- The positions reached through all items. -/
def Moves.reachThrough (count : Nat) : List Moves → Nat → Nat
  | [], m => m
  | p :: rest, m => let m := p.reach count m; if m = 0 then 0 else Moves.reachThrough count rest m

/-- The positions reached through any branch, with those found. -/
def Moves.reachAny (count : Nat) : List Moves → Nat → Nat → Nat
  | [], _, found => found
  | p :: rest, m, found => Moves.reachAny count rest m (found ||| p.reach count m)

end

/-- Whether an expression matches somewhere in a text. -/
def Expr.occursIn (e : Expr) (text : String) : Bool :=
  let gaps := Gap.all text.toList
  let all := positions gaps fun _ => true
  (e.on gaps).reach gaps.length all != 0

end FlowScript.Pattern
