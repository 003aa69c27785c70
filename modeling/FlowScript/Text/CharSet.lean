import FlowScript.Text.CodeRange

/-!
# Sets of characters

A set of characters is kept as its ranges of code points, increasing and apart from each other.

* `CharSet.ofRanges`: the set of any ranges;
* `CharSet.union`, `inter`, `diff`, `symmDiff`, `compl`: operations on sets.
-/

namespace FlowScript

open Text (CodeRange)

/-- A set of characters, by its ranges in increasing order. -/
structure CharSet where
  ranges : List CodeRange
  deriving DecidableEq, Inhabited

namespace CharSet

/-- Whether a code point lies in one of increasing ranges. -/
def anyHolds (n : Nat) : List CodeRange → Bool
  | [] => false
  | r :: rest => if n < r.first then false else n ≤ r.last || anyHolds n rest

/-- Whether a character belongs to a set. -/
def holds (s : CharSet) (c : Char) : Bool := anyHolds c.toNat s.ranges

/-- Join ranges, sorted by their start, that overlap or touch. -/
def joinFrom (r : CodeRange) : List CodeRange → List CodeRange
  | [] => [r]
  | s :: rest =>
    if s.first ≤ r.last + 1 then joinFrom ⟨r.first, max r.last s.last⟩ rest
    else r :: joinFrom s rest

/-- Join ranges sorted by their start. -/
def join : List CodeRange → List CodeRange
  | [] => []
  | r :: rest => joinFrom r rest

/-- The set of the characters of some ranges. -/
def ofRanges (l : List CodeRange) : CharSet :=
  ⟨join (l.mergeSort fun r s => r.first ≤ s.first)⟩

/-- The set of a table of ranges. -/
def ofTable (lines : List String) : CharSet := ofRanges (CodeRange.table lines)

/-- No character. -/
def empty : CharSet := ⟨[]⟩

/-- Every character. -/
def full : CharSet := ⟨[⟨0, Text.lastCode⟩]⟩

/-- The characters from one to another. -/
def range (a b : Char) : CharSet := ⟨[⟨a.toNat, b.toNat⟩]⟩

/-- The set of one character. -/
def single (c : Char) : CharSet := range c c

/-- The characters of either set. -/
def union (a b : CharSet) : CharSet := ofRanges (a.ranges ++ b.ranges)

/-- The characters of any of some sets. -/
def unions (l : List CharSet) : CharSet := ofRanges (l.flatMap ranges)

/-- The characters of both sets. -/
def inter (a b : CharSet) : CharSet := ⟨a.ranges.flatMap fun r => b.ranges.filterMap r.inter?⟩

/-- The characters of the first set that are not in the second. -/
def diff (a b : CharSet) : CharSet := ⟨a.ranges.flatMap (·.minus b.ranges)⟩

/-- The characters of exactly one of two sets. -/
def symmDiff (a b : CharSet) : CharSet := (a.union b).diff (a.inter b)

/-- The ranges after a given one that increasing ranges leave out. -/
def gapsAfter (r : CodeRange) : List CodeRange → List CodeRange
  | [] => if r.last < Text.lastCode then [⟨Text.nextCode r.last, Text.lastCode⟩] else []
  | s :: rest => r.between s :: gapsAfter s rest

/-- The characters that are not in a set. -/
def compl (a : CharSet) : CharSet :=
  match a.ranges with
  | [] => full
  | r :: rest =>
    ⟨(if 0 < r.first then [⟨0, Text.prevCode r.first⟩] else []) ++ gapsAfter r rest⟩

/-- Whether every character of a set is in ASCII. -/
def isAscii (a : CharSet) : Bool := a.ranges.all fun r => r.last < 0x80

/-- The only character of a set of one. -/
def single? (a : CharSet) : Option Char :=
  match a.ranges with
  | [r] => if r.first = r.last then some (Char.ofNat r.first) else none
  | _ => none

/-! ### Classes of ASCII -/

/-- The decimal digits of ASCII. -/
def asciiDigit : CharSet := ofTable ["30-39"]

/-- The word characters of ASCII. -/
def asciiWord : CharSet := ofTable ["30-39 41-5a 5f 61-7a"]

/-- The white space of ASCII. -/
def asciiBlank : CharSet := ofTable ["9-d 20"]

/-- The named classes of ASCII, as in `[[:alpha:]]`. -/
def named? : String → Option CharSet
  | "alnum" => some (ofTable ["30-39 41-5a 61-7a"])
  | "alpha" => some (ofTable ["41-5a 61-7a"])
  | "ascii" => some (ofTable ["0-7f"])
  | "blank" => some (ofTable ["9 20"])
  | "cntrl" => some (ofTable ["0-1f 7f"])
  | "digit" => some asciiDigit
  | "graph" => some (ofTable ["21-7e"])
  | "lower" => some (ofTable ["61-7a"])
  | "print" => some (ofTable ["20-7e"])
  | "punct" => some (ofTable ["21-2f 3a-40 5b-60 7b-7e"])
  | "space" => some asciiBlank
  | "upper" => some (ofTable ["41-5a"])
  | "word" => some asciiWord
  | "xdigit" => some (ofTable ["30-39 41-46 61-66"])
  | _ => none

/-- The other case of an unaccented Latin letter. -/
def swapAscii (r : CodeRange) : List CodeRange :=
  ((r.inter? ⟨0x41, 0x5a⟩).map fun s => ⟨s.first + 0x20, s.last + 0x20⟩).toList ++
    ((r.inter? ⟨0x61, 0x7a⟩).map fun s => ⟨s.first - 0x20, s.last - 0x20⟩).toList

/-- The set with both cases of its unaccented Latin letters. -/
def closeAscii (a : CharSet) : CharSet := ofRanges (a.ranges ++ a.ranges.flatMap swapAscii)

end CharSet

end FlowScript
