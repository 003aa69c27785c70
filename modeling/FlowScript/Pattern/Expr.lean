import FlowScript.Text.CharSet

/-!
# Pattern expressions

What a pattern means once its flags have been applied: literal characters, sets of characters,
assertions, repetition, sequence and choice.  Expressions are built by functions that keep them
small: a sequence joins neighbouring characters, a choice of single characters is a set, and
branches that start alike share their start.

* `Expr.ofSet`, `Expr.concat`, `Expr.choice`, `Expr.repeated`: building expressions;
* `Expr.minLength`, `Expr.maxLength`: the bounds on the encoded length of a match;
* `Expr.startsText`, `Expr.endsText`: whether a match must start or end with the text.
-/

namespace FlowScript.Pattern

/-- A condition on a position; `ascii` boundaries only know the word characters of ASCII. -/
inductive Assertion
  | textStart
  | textEnd
  | lineStart
  | lineEnd
  | returnLineStart
  | returnLineEnd
  | boundary (ascii : Bool)
  | notBoundary (ascii : Bool)
  | wordStart (ascii : Bool)
  | wordEnd (ascii : Bool)
  | wordStartHalf (ascii : Bool)
  | wordEndHalf (ascii : Bool)
  deriving DecidableEq, Inhabited

/-- A pattern expression. -/
inductive Expr
  | empty
  | letters (cs : List Char)
  | set (s : CharSet)
  | assert (a : Assertion)
  | times (body : Expr) (least : Nat) (most : Option Nat) (greedy : Bool)
  | group (index : Nat) (body : Expr)
  | cat (items : List Expr)
  | alt (branches : List Expr)
  deriving Inhabited

namespace Expr

/-! ### Equality -/

mutual

/-- Whether two expressions are the same. -/
def same : Expr → Expr → Bool
  | empty, empty => true
  | letters a, letters b => a == b
  | set a, set b => a == b
  | assert a, assert b => a == b
  | times a l m g, times b l' m' g' => a.same b && l == l' && m == m' && g == g'
  | group i a, group j b => i == j && a.same b
  | cat as, cat bs => sameAll as bs
  | alt as, alt bs => sameAll as bs
  | _, _ => false

/-- Whether two lists of expressions are the same. -/
def sameAll : List Expr → List Expr → Bool
  | [], [] => true
  | a :: as, b :: bs => a.same b && sameAll as bs
  | _, _ => false

end

/-! ### Lengths -/

/-- The number of bytes that encode a code point. -/
def encodedLength (n : Nat) : Nat :=
  if n < 0x80 then 1 else if n < 0x800 then 2 else if n < 0x10000 then 3 else 4

/-- The number of bytes that encode some characters. -/
def encodedLengths (cs : List Char) : Nat :=
  cs.foldl (fun n c => n + encodedLength c.toNat) 0

mutual

/-- The least number of bytes of a match, where there can be one. -/
def minLength : Expr → Option Nat
  | empty => some 0
  | letters cs => some (encodedLengths cs)
  | set s => s.ranges.head?.map fun r => encodedLength r.first
  | assert _ => some 0
  | times body least _ _ => body.minLength.map (· * least)
  | group _ body => body.minLength
  | cat items => sumMin 0 items
  | alt [] => none
  | alt (b :: branches) => leastMin b.minLength branches

/-- The sum of least lengths. -/
def sumMin (n : Nat) : List Expr → Option Nat
  | [] => some n
  | e :: rest => match e.minLength with
    | some k => sumMin (n + k) rest
    | none => none

/-- The least of least lengths. -/
def leastMin (n : Option Nat) : List Expr → Option Nat
  | [] => n
  | e :: rest => match n, e.minLength with
    | some n, some k => leastMin (some (min n k)) rest
    | _, _ => none

end

mutual

/-- The greatest number of bytes of a match, where there is one. -/
def maxLength : Expr → Option Nat
  | empty => some 0
  | letters cs => some (encodedLengths cs)
  | set s => s.ranges.getLast?.map fun r => encodedLength r.last
  | assert _ => some 0
  | times body _ most _ => match most, body.maxLength with
    | some n, some k => some (n * k)
    | _, _ => none
  | group _ body => body.maxLength
  | cat items => sumMax 0 items
  | alt [] => none
  | alt (b :: branches) => greatestMax b.maxLength branches

/-- The sum of greatest lengths. -/
def sumMax (n : Nat) : List Expr → Option Nat
  | [] => some n
  | e :: rest => match e.maxLength with
    | some k => sumMax (n + k) rest
    | none => none

/-- The greatest of greatest lengths. -/
def greatestMax (n : Option Nat) : List Expr → Option Nat
  | [] => n
  | e :: rest => match n, e.maxLength with
    | some n, some k => greatestMax (some (max n k)) rest
    | _, _ => none

end

/-! ### Building -/

/-- A character of a set. -/
def ofSet (s : CharSet) : Expr :=
  match s.single? with
  | some c => letters [c]
  | none => set s

/-- The items of a sequence. -/
def items : Expr → List Expr
  | empty => []
  | cat es => es
  | e => [e]

/-- The branches of a choice. -/
def branches : Expr → List Expr
  | alt es => es
  | e => [e]

/-- Put an item in front of a sequence, joining characters. -/
def consItem (e : Expr) (rest : List Expr) : List Expr :=
  match e, rest with
  | letters cs, letters ds :: rest => letters (cs ++ ds) :: rest
  | e, rest => e :: rest

/-- Expressions one after the other. -/
def concat (es : List Expr) : Expr :=
  match (es.flatMap items).foldr consItem [] with
  | [] => empty
  | [e] => e
  | es => cat es

/-- The character of an expression that is one. -/
def char? : Expr → Option Char
  | letters [c] => some c
  | _ => none

/-- The set of an expression that is one. -/
def set? : Expr → Option CharSet
  | set s => some s
  | _ => none

/-- The set of a choice between single characters, or between sets. -/
def choiceSet? (es : List Expr) : Option CharSet :=
  ((es.mapM char?).map fun cs => .unions (cs.map .single)) <|>
    ((es.mapM set?).map CharSet.unions)

/-- A choice that does not look for common starts. -/
def plainChoice (es : List Expr) : Expr :=
  let es := es.flatMap branches
  match es, choiceSet? es with
  | [], _ => set .empty
  | [e], _ => e
  | _, some s => ofSet s
  | es, none => alt es

/-- The common start of two sequences. -/
def commonStart : List Expr → List Expr → List Expr
  | a :: as, b :: bs => if a.same b then a :: commonStart as bs else []
  | _, _ => []

/-- The items of a sequence of several. -/
def sequence? : Expr → Option (List Expr)
  | cat es => some es
  | _ => none

/-- The common start of branches that are all sequences. -/
def sharedStart (es : List Expr) : List Expr :=
  match es.mapM sequence? with
  | some (first :: rest) => rest.foldl commonStart first
  | _ => []

/-- A choice between expressions; what all branches start with is taken out of it. -/
def choice (es : List Expr) : Expr :=
  match plainChoice es with
  | alt es =>
    let start := sharedStart es
    if start.isEmpty then alt es
    else concat (start ++ [plainChoice (es.map fun e => concat (e.items.drop start.length))])
  | e => e

/-- A repetition.  What matches only the empty text need not be repeated. -/
def repeated (body : Expr) (least : Nat) (most : Option Nat) (greedy : Bool) : Expr :=
  let hollow := body.maxLength == some 0
  let least := if hollow then min least 1 else least
  let most := if hollow then some (min (most.getD 1) 1) else most
  if most = some 0 then empty
  else if least = 1 ∧ most = some 1 then body
  else times body least most greedy

/-! ### Ends of the text -/

mutual

/-- Whether a match must start where the text does. -/
def startsText : Expr → Bool
  | assert a => a == .textStart
  | times body least _ _ => least != 0 && body.startsText
  | group _ body => body.startsText
  | cat items => firstStarts items
  | alt [] => false
  | alt branches => allStart branches
  | _ => false

/-- Whether one of the items up to the first that can take a character does. -/
def firstStarts : List Expr → Bool
  | [] => false
  | e :: rest => e.startsText || (e.maxLength == some 0 && firstStarts rest)

/-- Whether every branch does. -/
def allStart : List Expr → Bool
  | [] => true
  | e :: rest => e.startsText && allStart rest

end

mutual

/-- Whether a match must end where the text does. -/
def endsText : Expr → Bool
  | assert a => a == .textEnd
  | times body least _ _ => least != 0 && body.endsText
  | group _ body => body.endsText
  | cat items => lastEnds false items
  | alt [] => false
  | alt branches => allEnd branches
  | _ => false

/-- Whether one of the items after the last that can take a character does, or that one; the
answer for the items before is given. -/
def lastEnds (before : Bool) : List Expr → Bool
  | [] => before
  | e :: rest => lastEnds (e.endsText || (e.maxLength == some 0 && before)) rest

/-- Whether every branch does. -/
def allEnd : List Expr → Bool
  | [] => true
  | e :: rest => e.endsText && allEnd rest

end

end Expr

end FlowScript.Pattern
