import FlowScript.Text.CharSet

/-!
# Encoded ranges

The UTF-8 encodings of a range of characters, as sequences of byte ranges: each sequence stands
for all encodings that take one byte from each of its ranges, and the sequences of a range are in
increasing order.

* `ByteRange.sequences`: the sequences of a set of characters.
-/

namespace FlowScript.Pattern

open Text (CodeRange)

/-- Bytes from the first to the last, both included. -/
structure ByteRange where
  first : Nat
  last : Nat
  deriving DecidableEq, Inhabited

namespace ByteRange

/-- The continuation byte of six bits. -/
def continuation (lo hi : Nat) : ByteRange := ⟨0x80 + lo, 0x80 + hi⟩

/-- Numbers from `lo` to `hi` in base 64, as sequences of digit ranges: the last `n` digits are
continuation bytes, and the first, which may be larger, is written by `head`. -/
def digitRanges (head : Nat → Nat → ByteRange) : Nat → Nat → Nat → List (List ByteRange)
  | 0, lo, hi => [[head lo hi]]
  | n + 1, lo, hi =>
    let block := Nat.pow 64 (n + 1)
    let a := lo / block
    let b := hi / block
    let inner (lo hi : Nat) := digitRanges continuation n lo hi
    if a = b then (inner (lo % block) (hi % block)).map (head a a :: ·)
    else
      let low := if lo % block = 0 then [] else
        (inner (lo % block) (block - 1)).map (head a a :: ·)
      let high := if hi % block = block - 1 then [] else
        (inner 0 (hi % block)).map (head b b :: ·)
      let a := if lo % block = 0 then a else a + 1
      let b := if hi % block = block - 1 then b + 1 else b
      let mid := if a < b then [head a (b - 1) :: List.replicate (n + 1) (continuation 0 63)]
        else []
      low ++ mid ++ high

/-- The ranges of characters whose encodings have equal length, with the number of continuation
bytes and the offset of the first byte. -/
def lengthClasses : List (CodeRange × Nat × Nat) :=
  [(⟨0, 0x7f⟩, 0, 0), (⟨0x80, 0x7ff⟩, 1, 0xc0), (⟨0x800, 0xd7ff⟩, 2, 0xe0),
    (⟨0xe000, 0xffff⟩, 2, 0xe0), (⟨0x10000, 0x10ffff⟩, 3, 0xf0)]

/-- The encodings of a range of characters. -/
def ofRange (r : CodeRange) : List (List ByteRange) :=
  lengthClasses.flatMap fun (c, n, offset) =>
    match r.inter? c with
    | some s => digitRanges (fun lo hi => ⟨offset + lo, offset + hi⟩) n s.first s.last
    | none => []

/-- The encodings of a set of characters. -/
def sequences (s : CharSet) : List (List ByteRange) := s.ranges.flatMap ofRange

end ByteRange

end FlowScript.Pattern
