import FlowScript.Decimal.Binary
import FlowScript.Decimal.Digits

/-!
# Shortest decimal text of a binary number

Of all decimals that round to a given binary number, the one with the fewest digits; of those
the nearest, and of two that are equally near the one with an even last digit.  The reals that
round to `m * 2 ^ e` form an interval, closed when `m` is even; on each decimal grid, from the
coarsest, it is enough to test the number's two neighbours.

* `Shortest.decimal`: the digits and the decimal exponent of the first one;
* `DecimalStyle.text`: their layout, positional within a range of exponents and scientific
  outside it.
-/

namespace FlowScript

/-- Digits `d₀ d₁ …` with the exponent of the first: `d₀.d₁… * 10 ^ exponent`. -/
structure ShortDecimal where
  digits : List Char
  exponent : Int
  deriving DecidableEq

namespace Shortest

/-- The interval of a number, in quarters of its last place: below, itself, above. -/
def quarters (f : FloatFormat) (x : Binary) : Nat × Nat × Nat :=
  let below := if x.mantissa = Nat.pow 2 (f.precision - 1) ∧ 0 < x.exponent then 1 else 2
  (4 * x.mantissa - below, 4 * x.mantissa, 4 * x.mantissa + 2)

/-- The exponent of the first decimal digit of a positive fraction above `10 ^ (-400)`. -/
def leadExponent (num den : Nat) : Int :=
  ((Decimal.digits (num * Nat.pow 10 400 / den)).length : Int) - 401

/-- The multiple of `10 ^ k` in the interval of the number that is nearest to it, if any. -/
def onGrid? (f : FloatFormat) (x : Binary) (k : Int) : Option Nat :=
  let up := Nat.pow 2 x.exponent * Nat.pow 10 (-k).toNat
  let den := 4 * Nat.pow 2 f.scale * Nat.pow 10 k.toNat
  let (lo, mid, hi) := quarters f x
  let inside (d : Nat) : Bool :=
    if x.mantissa % 2 = 0 then lo * up ≤ d * den && d * den ≤ hi * up
    else lo * up < d * den && d * den < hi * up
  let d := mid * up / den
  match inside d, inside (d + 1) with
  | true, true => some (FloatFormat.roundHalfEven (mid * up) den)
  | true, false => some d
  | false, true => some (d + 1)
  | false, false => none

/-- Drop zeros at the end. -/
def dropTrailingZeros (cs : List Char) : List Char :=
  (cs.reverse.dropWhile (· == '0')).reverse

/-- The shortest decimal of a number other than zero. -/
def decimal (f : FloatFormat) (x : Binary) : ShortDecimal :=
  let lead := leadExponent (x.mantissa * Nat.pow 2 x.exponent) (Nat.pow 2 f.scale)
  let hit := (List.range 17).findSome? fun (n : Nat) =>
    let k := lead - (n : Int)
    (onGrid? f x k).map fun d => (d, k)
  match hit with
  | none => ⟨['0'], 0⟩
  | some (d, k) =>
    let ds := Decimal.digits d
    ⟨dropTrailingZeros ds, k + (ds.length : Int) - 1⟩

end Shortest

/-- How decimals are laid out: the range of exponents written positionally. -/
structure DecimalStyle where
  leastPlain : Int
  greatestPlain : Int
  deriving DecidableEq

namespace DecimalStyle

/-- Positional notation, always with a fraction. -/
def plain (d : ShortDecimal) : List Char :=
  if d.exponent < 0 then
    ['0', '.'] ++ List.replicate (-d.exponent - 1).toNat '0' ++ d.digits
  else
    let whole := d.exponent.toNat + 1
    let rest := d.digits.drop whole
    d.digits.take whole ++ List.replicate (whole - d.digits.length) '0' ++ ['.'] ++
      (if rest.isEmpty then ['0'] else rest)

/-- Scientific notation with a signed exponent. -/
def scientific (d : ShortDecimal) : List Char :=
  let rest := d.digits.drop 1
  d.digits.take 1 ++ (if rest.isEmpty then [] else '.' :: rest) ++ ['e'] ++
    (if d.exponent < 0 then ['-'] else ['+']) ++ Decimal.digits d.exponent.natAbs

/-- The text of a decimal. -/
def layout (style : DecimalStyle) (d : ShortDecimal) : List Char :=
  if style.leastPlain ≤ d.exponent ∧ d.exponent ≤ style.greatestPlain then plain d
  else scientific d

/-- The text of a binary number: its sign, then its shortest decimal. -/
def text (style : DecimalStyle) (f : FloatFormat) (x : Binary) : String :=
  let unsigned :=
    if x.mantissa = 0 then ['0', '.', '0'] else style.layout (Shortest.decimal f x)
  String.ofList (if x.negative then '-' :: unsigned else unsigned)

end DecimalStyle

end FlowScript
