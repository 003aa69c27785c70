import FlowScript.Pattern.Escape

/-!
# Bracketed classes

The text of a class in brackets: characters, ranges, escapes, named classes of ASCII, nested
classes, and the operations `&&`, `--` and `~~`, which apply from left to right to all items
before and after them.

* `readBracket?`: a class after its opening bracket.
-/

namespace FlowScript.Pattern

/-- A class that is still open: its items, the last first, and a pending operation on the left. -/
structure OpenClass where
  negated : Bool
  items : List ClassTree
  pending : Option (SetOp × ClassTree) := none

namespace OpenClass

/-- Add an item. -/
def add (o : OpenClass) (item : ClassTree) : OpenClass := { o with items := item :: o.items }

/-- The class so far. -/
def body (o : OpenClass) : ClassTree :=
  let right := ClassTree.ofItems o.items.reverse
  match o.pending with
  | none => right
  | some (op, left) => .op op left right

/-- Start the right operand of an operation. -/
def operate (o : OpenClass) (op : SetOp) : OpenClass :=
  { o with items := [], pending := some (op, o.body) }

/-- The class when its bracket closes. -/
def close (o : OpenClass) : ClassTree := .bracket o.negated o.body

end OpenClass

/-- A class right after its opening bracket: a caret, then hyphens that stand for themselves, or a
closing bracket that does. -/
def openBracket? (verbose : Bool) (cs : List Char) : Option (OpenClass × List Char) :=
  let (negated, cs) := match skip verbose cs with
    | '^' :: rest => (true, rest)
    | cs => (false, cs)
  let literal (c : Char) : ClassTree := .letter ⟨c, false⟩
  match gather verbose (· == '-') false cs with
  | (_, []) => none
  | ([], ']' :: rest) =>
    if skip verbose rest = [] then none else some (⟨negated, [literal ']'], none⟩, rest)
  | (hyphens, rest) => some (⟨negated, hyphens.map literal, none⟩, rest)

/-- A named class of ASCII after its opening `[:`, if there is one. -/
def readNamed? (cs : List Char) : Option (ClassTree × List Char) := do
  let (negated, cs) := match cs with
    | '^' :: rest => (true, rest)
    | cs => (false, cs)
  let (name, rest) := cs.span (· != ':')
  match rest with
  | ':' :: ']' :: rest => return (.ascii negated (← CharSet.named? (String.ofList name)), rest)
  | _ => none

/-- One item of a class: a character or an escape. -/
def readItem? (verbose : Bool) : List Char → Option (Atom × List Char)
  | [] => none
  | '\\' :: rest => readEscape? verbose rest
  | c :: rest => some (.letter ⟨c, false⟩, rest)

/-- The character that decides whether a hyphen makes a range.  In a verbose text blanks and one
number sign before it are passed over. -/
def afterHyphen (verbose : Bool) (cs : List Char) : Option Char :=
  if verbose then
    match cs.dropWhile Text.isBlank with
    | '#' :: rest => (rest.dropWhile Text.isBlank).head?
    | rest => rest.head?
  else cs.head?

/-- An item alone. -/
def Atom.item? : Atom → Option ClassTree
  | .letter l => some (.letter l)
  | .set c => some c
  | .mark _ => none

/-- An item, or a range between two characters. -/
def readRange? (verbose : Bool) (cs : List Char) : Option (ClassTree × List Char) := do
  let (low, rest) ← readItem? verbose cs
  match skip verbose rest with
  | [] => none
  | '-' :: more =>
    if afterHyphen verbose more = some ']' ∨ afterHyphen verbose more = some '-' then
      return (← low.item?, '-' :: more)
    else
      let (high, rest) ← readItem? verbose (skip verbose more)
      match low, high with
      | .letter a, .letter b => if a.char ≤ b.char then some (.range a b, rest) else none
      | _, _ => none
  | rest => return (← low.item?, rest)

/-- The rest of a class, inside the classes around it; `fuel` bounds the characters read. -/
def readClass? (verbose : Bool) : Nat → OpenClass → List OpenClass → List Char →
    Option (ClassTree × List Char)
  | 0, _, _, _ => none
  | fuel + 1, o, around, cs =>
    match skip verbose cs with
    | [] => none
    | ']' :: rest =>
      match around with
      | [] => some (o.close, rest)
      | outer :: around => readClass? verbose fuel (outer.add o.close) around rest
    | '[' :: rest =>
      let named := match rest with
        | ':' :: name => readNamed? name
        | _ => none
      match named with
      | some (item, rest) => readClass? verbose fuel (o.add item) around rest
      | none =>
        match openBracket? verbose rest with
        | some (inner, rest) => readClass? verbose fuel inner (o :: around) rest
        | none => none
    | '&' :: '&' :: rest => readClass? verbose fuel (o.operate .inter) around rest
    | '-' :: '-' :: rest => readClass? verbose fuel (o.operate .diff) around rest
    | '~' :: '~' :: rest => readClass? verbose fuel (o.operate .symmDiff) around rest
    | rest =>
      match readRange? verbose rest with
      | some (item, rest) => readClass? verbose fuel (o.add item) around rest
      | none => none

/-- A class after its opening bracket. -/
def readBracket? (verbose : Bool) (cs : List Char) : Option (ClassTree × List Char) := do
  let (o, rest) ← openBracket? verbose cs
  readClass? verbose (rest.length + 1) o [] rest

end FlowScript.Pattern
