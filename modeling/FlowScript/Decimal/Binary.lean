/-!
# Binary floating point numbers

Finite binary floating point numbers as exact integers: a sign, a mantissa and an exponent
counted from the least exponent of the format.  Rounding from a fraction is to nearest, a half
going to the even mantissa, and overflow has no value.

* `FloatFormat.double`, `FloatFormat.single`: the two formats in use;
* `FloatFormat.round?`: the number nearest to a fraction;
* `FloatFormat.ofDecimal?`: the number nearest to a decimal numeral;
* `FloatFormat.narrow?`: from one format to another;
* `FloatFormat.mul?`, `FloatFormat.div?`: the product and the quotient of two numbers.
-/

namespace FlowScript

/-- A binary format: bits of precision, the least positive number `2 ^ (-scale)`, and the
largest exponent above the least one. -/
structure FloatFormat where
  precision : Nat
  scale : Nat
  top : Nat
  deriving DecidableEq

/-- A finite number: `± mantissa * 2 ^ exponent / 2 ^ scale` in a format with that scale. -/
structure Binary where
  negative : Bool
  mantissa : Nat
  exponent : Nat
  deriving DecidableEq, Inhabited

namespace FloatFormat

/-- The 64-bit format. -/
def double : FloatFormat := ⟨53, 1074, 2045⟩

/-- The 32-bit format. -/
def single : FloatFormat := ⟨24, 149, 253⟩

/-- The quotient rounded to the nearest integer, a half going to the even one. -/
def roundHalfEven (num den : Nat) : Nat :=
  let q := num / den
  let r := num % den
  if 2 * r < den then q
  else if den < 2 * r then q + 1
  else if q % 2 = 0 then q else q + 1

/-- The number of bits of a natural number. -/
def bitLength (n : Nat) : Nat := if n = 0 then 0 else n.log2 + 1

/-- The mantissa and exponent nearest to `num / den`; `none` beyond the largest number. -/
def nearest? (f : FloatFormat) (num den : Nat) : Option (Nat × Nat) :=
  let scaled := num * Nat.pow 2 f.scale
  let exponent := bitLength (scaled / den) - f.precision
  let mantissa := roundHalfEven scaled (den * Nat.pow 2 exponent)
  let rounded :=
    if mantissa = Nat.pow 2 f.precision then (mantissa / 2, exponent + 1) else (mantissa, exponent)
  if rounded.2 ≤ f.top then some rounded else none

/-- The number of the format nearest to a signed fraction. -/
def round? (f : FloatFormat) (negative : Bool) (num den : Nat) : Option Binary :=
  (f.nearest? num den).map fun (m, e) => ⟨negative, m, e⟩

/-- The number nearest to `± coefficient * 10 ^ exponent`.  Numerals whose leading digit stands
outside the range of both formats are settled without forming the power of ten. -/
def ofDecimal? (f : FloatFormat) (negative : Bool) (coefficient : Nat) (exponent : Int) :
    Option Binary :=
  let lead : Int := exponent + (bitLength coefficient / 3 : Nat)
  if coefficient = 0 then some ⟨negative, 0, 0⟩
  else if 2000 < exponent then none
  else if lead < -2000 then some ⟨negative, 0, 0⟩
  else if 0 ≤ exponent then f.round? negative (coefficient * Nat.pow 10 exponent.toNat) 1
  else f.round? negative coefficient (Nat.pow 10 (-exponent).toNat)

/-- The number of format `g` nearest to a number of format `f`. -/
def narrow? (f g : FloatFormat) (x : Binary) : Option Binary :=
  g.round? x.negative (x.mantissa * Nat.pow 2 x.exponent) (Nat.pow 2 f.scale)

/-- The number of the format nearest to an integer. -/
def ofInt? (f : FloatFormat) (z : Int) : Option Binary :=
  f.round? (decide (z < 0)) z.natAbs 1

/-- The number nearest to a product. -/
def mul? (f : FloatFormat) (x y : Binary) : Option Binary :=
  f.round? (x.negative != y.negative)
    (x.mantissa * y.mantissa * Nat.pow 2 (x.exponent + y.exponent)) (Nat.pow 2 (2 * f.scale))

/-- The number nearest to a quotient; the divisor is not zero. -/
def div? (f : FloatFormat) (x y : Binary) : Option Binary :=
  f.round? (x.negative != y.negative) (x.mantissa * Nat.pow 2 x.exponent)
    (y.mantissa * Nat.pow 2 y.exponent)

end FloatFormat

end FlowScript
