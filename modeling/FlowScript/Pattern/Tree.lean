import FlowScript.Text.Property

/-!
# Pattern trees

What the text of a pattern says, before flags have given it a meaning.  A tree keeps the nesting of
the text, and `Tree.depth` measures it.
-/

namespace FlowScript.Pattern

/-- A character as it is spelled; `isByte` marks the spelling by two hexadecimal digits. -/
structure Letter where
  char : Char
  isByte : Bool := false
  deriving DecidableEq

/-- The classes that have a letter: `\d`, `\s` and `\w`. -/
inductive Shorthand
  | digit
  | blank
  | word
  deriving DecidableEq

/-- An operation between the operands of a class. -/
inductive SetOp
  | inter
  | diff
  | symmDiff
  deriving DecidableEq

/-- A class of characters. -/
inductive ClassTree
  | letter (l : Letter)
  | range (first last : Letter)
  | ascii (negated : Bool) (set : CharSet)
  | shorthand (negated : Bool) (kind : Shorthand)
  | property (negated : Bool) (p : Text.Property)
  | bracket (negated : Bool) (body : ClassTree)
  | union (items : List ClassTree)
  | op (kind : SetOp) (left right : ClassTree)

namespace ClassTree

/-- The class of some items side by side. -/
def ofItems : List ClassTree → ClassTree
  | [item] => item
  | items => union items

mutual

/-- How deeply a class is nested. -/
def depth : ClassTree → Nat
  | bracket _ body => body.depth + 1
  | union [] => 0
  | union items => maxDepth 0 items + 1
  | op _ left right => max left.depth right.depth + 1
  | _ => 0

/-- The greatest depth of some classes, and at least a given one. -/
def maxDepth (least : Nat) : List ClassTree → Nat
  | [] => least
  | item :: rest => maxDepth (max least item.depth) rest

end

end ClassTree

/-- A switch of the pattern language. -/
inductive Flag
  | fold
  | multiline
  | dotAll
  | lazier
  | unicode
  | returns
  | verbose
  deriving DecidableEq

/-- Switches that are turned on or off. -/
abbrev FlagChange := List (Flag × Bool)

/-- A condition on a position, as written. -/
inductive Mark
  | caret
  | dollar
  | textStart
  | textEnd
  | boundary
  | notBoundary
  | wordStart
  | wordEnd
  | wordStartHalf
  | wordEndHalf
  deriving DecidableEq

/-- What a pair of parentheses is for: it numbers what it matches, or only groups. -/
inductive GroupKind
  | numbered (index : Nat)
  | plain (change : FlagChange)
  deriving DecidableEq

/-- The tree of a pattern. -/
inductive Tree
  | empty
  | flags (change : FlagChange)
  | letter (l : Letter)
  | dot
  | mark (m : Mark)
  | set (c : ClassTree)
  | times (body : Tree) (least : Nat) (most : Option Nat) (greedy : Bool)
  | group (kind : GroupKind) (body : Tree)
  | cat (items : List Tree)
  | alt (branches : List Tree)

namespace Tree

/-- Items one after the other. -/
def ofItems : List Tree → Tree
  | [] => empty
  | [item] => item
  | items => cat items

mutual

/-- How deeply a pattern is nested. -/
def depth : Tree → Nat
  | set c => c.depth
  | times body _ _ _ => body.depth + 1
  | group _ body => body.depth + 1
  | cat items => maxDepth 0 items + 1
  | alt branches => maxDepth 0 branches + 1
  | _ => 0

/-- The greatest depth of some patterns, and at least a given one. -/
def maxDepth (least : Nat) : List Tree → Nat
  | [] => least
  | item :: rest => maxDepth (max least item.depth) rest

end

end Tree

end FlowScript.Pattern
