import FlowScript.Decimal.Shortest
import FlowScript.Json.Document

/-!
# Floats in documents

How floats are written, and which float a numeral stands for, is up to a codec.  The standard one
writes the shortest decimal.  It reads quickly: the leading digits, as many as 64 bits hold, are
rounded to a float, which is then multiplied or divided by a power of ten.  This rounds more than
once, so that now and then a neighbour of the nearest float is read.

* `FloatCodec`: the texts of floats and the floats of numerals;
* `Numeral.leading`: the leading digits and the power of ten that goes with them;
* `FloatCodec.scaled?`: a float times a power of ten;
* `FloatCodec.standard`: the codec in use.
-/

namespace FlowScript

/-- A way to write finite floats of 64 and of 32 bits, and to read a numeral as a float of 64 bits;
`none` is beyond the largest one. -/
structure FloatCodec where
  doubleText : Binary → String
  singleText : Binary → String
  read? : Numeral → Option Binary

namespace Numeral

/-- Append digits to a number as long as 64 bits hold it; also, how many digits are left over. -/
def takeDigits (n : Nat) : List Char → Nat × Nat
  | [] => (n, 0)
  | c :: cs =>
    let next := 10 * n + Decimal.digitValue c
    if next < Nat.pow 2 64 then takeDigits next cs else (n, cs.length + 1)

/-- The leading digits as a number of 64 bits, with the power of ten that goes with it.  A digit
behind the point may still be taken after one before it was not. -/
def leading (n : Numeral) : Nat × Int :=
  let (whole, left) := takeDigits 0 n.whole
  let (all, left') := takeDigits whole n.fraction
  (all, left + left' + n.scale)

end Numeral

namespace FloatCodec

/-- The float nearest to a power of ten. -/
def power? (n : Nat) : Option Binary := FloatFormat.double.round? false (Nat.pow 10 n) 1

/-- The exponent of the largest power of ten that is not beyond the largest float. -/
def maxPower : Nat := 308

/-- A float divided by the largest power of ten several times, or until it is zero. -/
def shrunk? : Nat → Binary → Option Binary
  | 0, x => some x
  | n + 1, x =>
    if x.mantissa = 0 then some x
    else do shrunk? n (← FloatFormat.double.div? x (← power? maxPower))

/-- A float times a power of ten.  Powers beyond the largest float are not formed. -/
def scaled? (x : Binary) (exponent : Int) : Option Binary := do
  if exponent < 0 then
    let steps := (exponent.natAbs - 1) / maxPower
    FloatFormat.double.div? (← shrunk? steps x) (← power? (exponent.natAbs - maxPower * steps))
  else if exponent ≤ maxPower then FloatFormat.double.mul? x (← power? exponent.natAbs)
  else if x.mantissa = 0 then some x
  else none

/-- Floats as they are kept in documents: written positionally from `1e-5` up to below `1e16`, with
32 bits from `1e-6` up to below `1e13`, and read by their leading digits. -/
def standard : FloatCodec where
  doubleText := DecimalStyle.text ⟨-5, 15⟩ .double
  singleText := DecimalStyle.text ⟨-6, 12⟩ .single
  read? n := do
    let (digits, exponent) := n.leading
    let x ← scaled? (← FloatFormat.double.ofInt? digits) exponent
    return { x with negative := n.negative }

end FloatCodec

end FlowScript
