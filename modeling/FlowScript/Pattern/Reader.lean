import FlowScript.Pattern.Bracket

/-!
# Reading patterns

The text form of patterns: alternation, groups with names and flags, greedy and lazy repetition,
classes, escapes, assertions.  A text that is not a pattern has no tree: `Tree.read?` is `none` for
look-around, back-references, unknown escapes, reversed ranges and bounds, unclosed groups, classes
and braces, a repetition of nothing, and a group name used twice.
-/

namespace FlowScript.Pattern

/-- What has been read at one level of parentheses: finished branches and the items of the current
one, both last first. -/
structure Level where
  branches : List Tree := []
  items : List Tree := []

namespace Level

/-- Add an item. -/
def add (l : Level) (item : Tree) : Level := { l with items := item :: l.items }

/-- Start a new branch. -/
def branch (l : Level) : Level :=
  { branches := Tree.ofItems l.items.reverse :: l.branches, items := [] }

/-- The tree of a level. -/
def tree (l : Level) : Tree :=
  match l.branch.branches with
  | [body] => body
  | branches => .alt branches.reverse

/-- Repeat the last item, which may not be a flag setting. -/
def repeatLast? (l : Level) (least : Nat) (most : Option Nat) (greedy : Bool) : Option Level :=
  match l.items with
  | [] | .empty :: _ | .flags _ :: _ => none
  | item :: rest => some { l with items := .times item least most greedy :: rest }

end Level

/-- A group that is still open: its kind, and the level around it with its verbosity. -/
structure OpenGroup where
  kind : GroupKind
  around : Level
  verbose : Bool

/-- Where the reading of a pattern stands. -/
structure ReadState where
  level : Level := {}
  verbose : Bool := false
  stack : List OpenGroup := []
  groups : Nat := 0
  names : List String := []

namespace ReadState

/-- Add an item. -/
def add (s : ReadState) (item : Tree) : ReadState := { s with level := s.level.add item }

/-- The verbosity after a change of flags. -/
def verboseAfter (s : ReadState) (change : FlagChange) : Bool :=
  ((change.find? (·.1 == .verbose)).map (·.2)).getD s.verbose

/-- Open a group. -/
def enter (s : ReadState) (kind : GroupKind) (verbose : Bool) : ReadState :=
  { s with level := {}, verbose, stack := ⟨kind, s.level, s.verbose⟩ :: s.stack }

/-- Open a group that takes the next number. -/
def enterNumbered (s : ReadState) : ReadState :=
  { s with groups := s.groups + 1 }.enter (.numbered (s.groups + 1)) s.verbose

/-- Open a group with a name, which must be new. -/
def enterNamed? (s : ReadState) (cs : List Char) : Option (ReadState × List Char) := do
  let (name, rest) ← readName? cs
  if s.names.contains name then none
  else some ({ s with names := name :: s.names }.enterNumbered, rest)

/-- Open a group or change flags, after the opening parenthesis. -/
def readOpening? (s : ReadState) (cs : List Char) : Option (ReadState × List Char) :=
  match skip s.verbose cs with
  | '?' :: '=' :: _ | '?' :: '!' :: _ | '?' :: '<' :: '=' :: _ | '?' :: '<' :: '!' :: _ => none
  | '?' :: 'P' :: '<' :: rest => s.enterNamed? rest
  | '?' :: '<' :: rest => s.enterNamed? rest
  | '?' :: rest => do
    let (change, ends, rest) ← readFlags? .on [] rest
    let verbose := s.verboseAfter change
    if ends then return ({ s.add (.flags change) with verbose }, rest)
    else return (s.enter (.plain change) verbose, rest)
  | rest => some (s.enterNumbered, rest)

/-- Close the innermost group. -/
def leave? (s : ReadState) : Option ReadState :=
  match s.stack with
  | [] => none
  | g :: stack =>
    some { s with level := g.around.add (.group g.kind s.level.tree), verbose := g.verbose, stack }

/-- Repeat the last item. -/
def repeat? (s : ReadState) (least : Nat) (most : Option Nat) (cs : List Char) :
    Option (ReadState × List Char) := do
  let (greedy, rest) := readGreed cs
  return ({ s with level := ← s.level.repeatLast? least most greedy }, rest)

/-- Read the item, or the sign, that starts with a character. -/
def step? (s : ReadState) (c : Char) (rest : List Char) : Option (ReadState × List Char) :=
  match c with
  | '(' => s.readOpening? rest
  | ')' => s.leave?.map fun s => (s, rest)
  | '|' => some ({ s with level := s.level.branch }, rest)
  | '[' => (readBracket? s.verbose rest).map fun (c, rest) => (s.add (.set c), rest)
  | '*' => s.repeat? 0 none rest
  | '+' => s.repeat? 1 none rest
  | '?' => s.repeat? 0 (some 1) rest
  | '\x7b' => do
    let ((least, most), rest) ← readBounds? s.verbose rest
    s.repeat? least most (skip s.verbose rest)
  | '.' => some (s.add .dot, rest)
  | '^' => some (s.add (.mark .caret), rest)
  | '$' => some (s.add (.mark .dollar), rest)
  | '\\' => do
    match ← readEscape? s.verbose rest with
    | (.letter l, rest) => return (s.add (.letter l), rest)
    | (.set c, rest) => return (s.add (.set c), rest)
    | (.mark m, rest) => return (s.add (.mark m), rest)
  | c => some (s.add (.letter ⟨c, false⟩), rest)

/-- Read to the end; every step reads a character, so `fuel` is enough at the length of the text. -/
def run? : Nat → ReadState → List Char → Option Tree
  | fuel, s, cs =>
    match fuel, skip s.verbose cs with
    | _, [] => if s.stack.isEmpty then some s.level.tree else none
    | 0, _ => none
    | fuel + 1, c :: rest =>
      match s.step? c rest with
      | some (s, rest) => run? fuel s rest
      | none => none

end ReadState

/-- The tree of a text. -/
def Tree.read? (text : String) : Option Tree :=
  let cs := text.toList
  ReadState.run? cs.length {} cs

end FlowScript.Pattern
