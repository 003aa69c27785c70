import FlowScript.Pattern.Expr
import FlowScript.Pattern.Tree
import FlowScript.Text.CaseFold
import FlowScript.Text.Word

/-!
# The meaning of a pattern tree

Flags turn a tree into an expression.  A flag holds up to the end of the group it is set in.  In
a pattern over ASCII, which turns the flag `u` off, classes may not leave ASCII, and the full stop,
properties and bytes beyond ASCII have no meaning.

* `Tree.expr?`: the expression of a tree.
-/

namespace FlowScript.Pattern

/-- The flags in force. -/
structure Flags where
  fold : Bool := false
  multiline : Bool := false
  dotAll : Bool := false
  lazier : Bool := false
  ascii : Bool := false
  returns : Bool := false
  deriving DecidableEq

namespace Flags

/-- Set one flag. -/
def set (f : Flags) (flag : Flag) (on : Bool) : Flags :=
  match flag with
  | .fold => { f with fold := on }
  | .multiline => { f with multiline := on }
  | .dotAll => { f with dotAll := on }
  | .lazier => { f with lazier := on }
  | .unicode => { f with ascii := !on }
  | .returns => { f with returns := on }
  | .verbose => f

/-- Make a change of flags. -/
def change (f : Flags) (c : FlagChange) : Flags := c.foldl (fun f (flag, on) => f.set flag on) f

/-- Close a set under case, where case does not matter. -/
def close (f : Flags) (s : CharSet) : CharSet :=
  if f.fold then (if f.ascii then s.closeAscii else s.closeCase) else s

/-- A set that the flags admit. -/
def admit? (f : Flags) (s : CharSet) : Option CharSet :=
  if f.ascii && !s.isAscii then none else some s

/-- A set closed under case, then negated if so written. -/
def closed? (f : Flags) (negated : Bool) (s : CharSet) : Option CharSet :=
  let s := f.close s
  f.admit? (if negated then s.compl else s)

end Flags

/-! ### Classes -/

/-- The characters of a class with a letter. -/
def Shorthand.set : Shorthand → Bool → CharSet
  | digit, true => .asciiDigit
  | blank, true => .asciiBlank
  | word, true => .asciiWord
  | digit, false => Text.digitSet
  | blank, false => Text.blankSet
  | word, false => Text.wordSet

/-- A character in a class. -/
def Letter.inClass? (f : Flags) (l : Letter) : Option Char :=
  if f.ascii && 0x80 ≤ l.char.toNat then none else some l.char

/-- An operation on two sets. -/
def SetOp.apply : SetOp → CharSet → CharSet → CharSet
  | inter, a, b => a.inter b
  | diff, a, b => a.diff b
  | symmDiff, a, b => a.symmDiff b

mutual

/-- The characters of a class. -/
def ClassTree.set? (f : Flags) : ClassTree → Option CharSet
  | .letter l => (l.inClass? f).map .single
  | .range a b => do return .range (← a.inClass? f) (← b.inClass? f)
  | .ascii negated s => f.closed? negated s
  | .shorthand negated kind =>
    let s := kind.set f.ascii
    f.admit? (if negated then s.compl else s)
  | .property negated p => if f.ascii then none else do f.closed? negated (← p.set?)
  | .bracket negated body => do f.closed? negated (← body.set? f)
  | .union items => (ClassTree.sets? f [] items).map .unions
  | .op kind a b => do return kind.apply (f.close (← a.set? f)) (f.close (← b.set? f))

/-- The characters of several classes, added to those found. -/
def ClassTree.sets? (f : Flags) (found : List CharSet) : List ClassTree → Option (List CharSet)
  | [] => some found
  | c :: rest => match c.set? f with
    | some s => ClassTree.sets? f (s :: found) rest
    | none => none

end

/-! ### Items -/

/-- A literal character: with its case variants, where case does not matter. -/
def Letter.expr? (f : Flags) (l : Letter) : Option Expr :=
  if f.ascii && l.isByte && 0x80 ≤ l.char.toNat then none
  else some (.ofSet (f.close (.single l.char)))

/-- Any character, or any but a line end. -/
def Flags.dot? (f : Flags) : Option Expr :=
  if f.ascii then none
  else if f.dotAll then some (.set .full)
  else if f.returns then some (.set (CharSet.ofTable ["a d"]).compl)
  else some (.set (CharSet.ofTable ["a"]).compl)

/-- The condition of a mark. -/
def Mark.assertion (f : Flags) : Mark → Assertion
  | caret =>
    if f.multiline then (if f.returns then .returnLineStart else .lineStart) else .textStart
  | dollar => if f.multiline then (if f.returns then .returnLineEnd else .lineEnd) else .textEnd
  | textStart => .textStart
  | textEnd => .textEnd
  | boundary => .boundary f.ascii
  | notBoundary => .notBoundary f.ascii
  | wordStart => .wordStart f.ascii
  | wordEnd => .wordEnd f.ascii
  | wordStartHalf => .wordStartHalf f.ascii
  | wordEndHalf => .wordEndHalf f.ascii

mutual

/-- The expression of a tree, and the flags in force after it. -/
def Tree.under? (f : Flags) : Tree → Option (Expr × Flags)
  | .empty => some (.empty, f)
  | .flags c => some (.empty, f.change c)
  | .letter l => (l.expr? f).map (·, f)
  | .dot => f.dot?.map (·, f)
  | .mark m => some (.assert (m.assertion f), f)
  | .set c => (c.set? f).map (.ofSet ·, f)
  | .times body least most greedy => do
    let (e, f) ← body.under? f
    return (.repeated e least most (greedy != f.lazier), f)
  | .group (.numbered index) body => do return (.group index (← body.under? f).1, f)
  | .group (.plain c) body => do return ((← body.under? (f.change c)).1, f)
  | .cat items => do
    let (es, f) ← Tree.allUnder? f [] items
    return (.concat es.reverse, f)
  | .alt branches => do
    let (es, f) ← Tree.allUnder? f [] branches
    return (.choice es.reverse, f)

/-- The expressions of trees one after the other, put in front of those found. -/
def Tree.allUnder? (f : Flags) (found : List Expr) : List Tree → Option (List Expr × Flags)
  | [] => some (found, f)
  | t :: rest => match t.under? f with
    | some (e, f) => Tree.allUnder? f (e :: found) rest
    | none => none

end

/-- The expression of a tree. -/
def Tree.expr? (t : Tree) : Option Expr := (t.under? {}).map (·.1)

end FlowScript.Pattern
