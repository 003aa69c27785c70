/-!
# Ranges of code points

Ranges of code points and their tables.  A table is written in hexadecimal: `5f` is one code
point, `30-39` is a range, and `100=12e` is every second code point from the first to the last.

The code points next to each other are those of characters: the surrogates are no characters, so
`e000` follows `d7ff`.
-/

namespace FlowScript.Text

/-- The value of a hexadecimal digit in lower case. -/
def hexDigitValue (c : Char) : Nat := if c.isDigit then c.toNat - 48 else c.toNat - 87

/-- The number that hexadecimal digits stand for. -/
def ofHex (s : String) : Nat := s.toList.foldl (fun n c => 16 * n + hexDigitValue c) 0

/-- The last code point. -/
def lastCode : Nat := 0x10ffff

/-- The code point of the next character. -/
def nextCode (n : Nat) : Nat := if n = 0xd7ff then 0xe000 else n + 1

/-- The code point of the character before. -/
def prevCode (n : Nat) : Nat := if n = 0xe000 then 0xd7ff else n - 1

/-- Code points from the first to the last, both included. -/
structure CodeRange where
  first : Nat
  last : Nat
  deriving DecidableEq, Inhabited

namespace CodeRange

/-- Whether a code point lies in a range. -/
def holds (r : CodeRange) (n : Nat) : Bool := r.first ≤ n && n ≤ r.last

/-- The common part of two ranges, if any. -/
def inter? (r s : CodeRange) : Option CodeRange :=
  let lo := max r.first s.first
  let hi := min r.last s.last
  if lo ≤ hi then some ⟨lo, hi⟩ else none

/-- The code points between two ranges.  Where no character lies between them, at the surrogates,
the two neighbours themselves bound the result. -/
def between (r s : CodeRange) : CodeRange :=
  let lo := nextCode r.last
  let hi := prevCode s.first
  ⟨min lo hi, max lo hi⟩

/-- What is left of a range without increasing ranges. -/
def minus (r : CodeRange) : List CodeRange → List CodeRange
  | [] => [r]
  | s :: rest =>
    if s.last < r.first then r.minus rest
    else if r.last < s.first then [r]
    else
      (if r.first < s.first then [⟨r.first, prevCode s.first⟩] else []) ++
        (if s.last < r.last then minus ⟨nextCode s.last, r.last⟩ rest else [])

/-- Every second code point, a number of them. -/
def everySecond (first : Nat) : Nat → List CodeRange
  | 0 => []
  | n + 1 => ⟨first, first⟩ :: everySecond (first + 2) n

/-- The ranges of one entry of a table. -/
def ofEntry (s : String) : List CodeRange :=
  match s.splitOn "-", s.splitOn "=" with
  | [a, b], _ => [⟨ofHex a, ofHex b⟩]
  | _, [a, b] => everySecond (ofHex a) ((ofHex b - ofHex a) / 2 + 1)
  | _, _ => [⟨ofHex s, ofHex s⟩]

/-- The ranges of a table. -/
def table (lines : List String) : List CodeRange := (lines.flatMap (·.splitOn " ")).flatMap ofEntry

end CodeRange

end FlowScript.Text
