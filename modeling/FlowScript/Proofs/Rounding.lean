import FlowScript.Decimal.Shortest
import Mathlib.Tactic.Linarith
import Mathlib.Tactic.Ring
import Mathlib.Tactic.NormNum
import Mathlib.Tactic.Positivity
import Mathlib.Tactic.FieldSimp
import Mathlib.Data.Rat.Cast.Order
import Mathlib.Algebra.Order.Field.Basic

/-!
# Rounding decimals to binary numbers

A binary number stands for all fractions that are rounded to it.  They lie between its outer
quarters, in units of a fourth of its last place; below a power of two the lower quarter is nearer.

* `FloatFormat.Holds`: the numbers of a format;
* `FloatFormat.Catches`: the fractions between the outer quarters of a number;
* `FloatFormat.Catches.nearest?_eq`: they are rounded to it;
* `FloatFormat.Catches.ofDecimal?_eq`: so are decimals, in formats that are not too wide.
-/

namespace FlowScript

namespace FloatFormat

/-! ### Quotients and bits -/

/-- The quotient is rounded to the integer that is nearest, which is even if there are two. -/
theorem roundHalfEven_eq {num den k : Nat} (pos : 0 < den) (lower : 2 * k * den ≤ 2 * num + den)
    (upper : 2 * num ≤ (2 * k + 1) * den)
    (odd : k % 2 = 1 → 2 * k * den < 2 * num + den ∧ 2 * num < (2 * k + 1) * den) :
    roundHalfEven num den = k := by
  have split := Nat.div_add_mod num den
  have small := Nat.mod_lt num pos
  generalize hq : num / den = q at split
  generalize hr : num % den = r at split small
  have left : q ≤ k := by
    by_contra less
    have : (k + 1) * den ≤ q * den := Nat.mul_le_mul_right den (by omega)
    nlinarith
  have right : k ≤ q + 1 := by
    by_contra more
    have : (q + 2) * den ≤ k * den := Nat.mul_le_mul_right den (by omega)
    nlinarith
  unfold roundHalfEven
  simp only [hq, hr]
  obtain rfl | rfl : k = q ∨ k = q + 1 := by omega
  · have half : 2 * r ≤ den := by nlinarith
    split_ifs with below above even
    · rfl
    · omega
    · rfl
    · have := (odd (by omega)).2
      nlinarith
  · have half : den ≤ 2 * r := by nlinarith
    split_ifs with below above even
    · omega
    · rfl
    · have := (odd (by omega)).1
      nlinarith
    · rfl

theorem bitLength_le {n b : Nat} (h : n < 2 ^ b) : bitLength n ≤ b := by
  unfold bitLength
  split_ifs with zero
  · omega
  · have := (Nat.log2_lt zero).2 h
    omega

theorem bitLength_eq {n b : Nat} (lower : 2 ^ b ≤ n) (upper : n < 2 ^ (b + 1)) :
    bitLength n = b + 1 := by
  have pos : n ≠ 0 := by
    have := Nat.two_pow_pos b
    omega
  have least := (Nat.le_log2 pos).2 lower
  have most := (Nat.log2_lt pos).2 upper
  rw [bitLength, if_neg pos]
  omega

theorem lt_two_pow_bitLength (n : Nat) : n < 2 ^ bitLength n := by
  unfold bitLength
  split_ifs with zero
  · omega
  · exact Nat.lt_log2_self

/-! ### Numbers and what is rounded to them -/

/-- A number of a format: its mantissa has no more bits than the precision, and all of them unless
its exponent is the least one. -/
structure Holds (f : FloatFormat) (x : Binary) : Prop where
  mantissa : x.mantissa < 2 ^ f.precision
  exponent : x.exponent ≤ f.top
  normal : x.exponent = 0 ∨ 2 ^ (f.precision - 1) ≤ x.mantissa

instance (f : FloatFormat) (x : Binary) : Decidable (f.Holds x) :=
  decidable_of_iff (x.mantissa < 2 ^ f.precision ∧ x.exponent ≤ f.top ∧
    (x.exponent = 0 ∨ 2 ^ (f.precision - 1) ≤ x.mantissa))
    ⟨fun ⟨m, e, n⟩ => ⟨m, e, n⟩, fun ⟨m, e, n⟩ => ⟨m, e, n⟩⟩

/-- The last place of a number. -/
def unit (f : FloatFormat) (x : Binary) : ℚ := 2 ^ x.exponent / 2 ^ f.scale

/-- The numbers that are rounded to a number: those between its outer quarters, the ends included
if its mantissa is even. -/
structure Catches (f : FloatFormat) (x : Binary) (v : ℚ) : Prop where
  lower : (Shortest.quarters f x).1 * f.unit x ≤ 4 * v
  upper : 4 * v ≤ (Shortest.quarters f x).2.2 * f.unit x
  inner : x.mantissa % 2 = 1 → (Shortest.quarters f x).1 * f.unit x < 4 * v ∧
    4 * v < (Shortest.quarters f x).2.2 * f.unit x

instance (f : FloatFormat) (x : Binary) (v : ℚ) : Decidable (f.Catches x v) :=
  decidable_of_iff ((Shortest.quarters f x).1 * f.unit x ≤ 4 * v ∧
    4 * v ≤ (Shortest.quarters f x).2.2 * f.unit x ∧
    (x.mantissa % 2 = 1 → (Shortest.quarters f x).1 * f.unit x < 4 * v ∧
      4 * v < (Shortest.quarters f x).2.2 * f.unit x))
    ⟨fun ⟨lower, upper, inner⟩ => ⟨lower, upper, inner⟩,
      fun ⟨lower, upper, inner⟩ => ⟨lower, upper, inner⟩⟩

variable {f : FloatFormat} {x : Binary} {num den : Nat}

/-- The same for fractions, in integers. -/
theorem catches_div_iff (pos : 0 < den) :
    f.Catches x (num / den) ↔
      (Shortest.quarters f x).1 * (2 ^ x.exponent * den) ≤ 4 * (num * 2 ^ f.scale) ∧
      4 * (num * 2 ^ f.scale) ≤ (Shortest.quarters f x).2.2 * (2 ^ x.exponent * den) ∧
      (x.mantissa % 2 = 1 →
        (Shortest.quarters f x).1 * (2 ^ x.exponent * den) < 4 * (num * 2 ^ f.scale) ∧
        4 * (num * 2 ^ f.scale) < (Shortest.quarters f x).2.2 * (2 ^ x.exponent * den)) := by
  have common : (0 : ℚ) < 2 ^ f.scale * den := by positivity
  have bound : ∀ a : Nat, (a : ℚ) * f.unit x =
      ((a * (2 ^ x.exponent * den) : Nat) : ℚ) / (2 ^ f.scale * den) := by
    intro a
    unfold unit
    push_cast
    field_simp
  have value : 4 * ((num : ℚ) / den) =
      ((4 * (num * 2 ^ f.scale) : Nat) : ℚ) / (2 ^ f.scale * den) := by
    push_cast
    field_simp
  have le : ∀ a b : Nat, (a : ℚ) / (2 ^ f.scale * den) ≤ (b : ℚ) / (2 ^ f.scale * den) ↔ a ≤ b := by
    intro a b
    rw [div_le_div_iff_of_pos_right common, Nat.cast_le]
  have lt : ∀ a b : Nat, (a : ℚ) / (2 ^ f.scale * den) < (b : ℚ) / (2 ^ f.scale * den) ↔ a < b := by
    intro a b
    rw [div_lt_div_iff_of_pos_right common, Nat.cast_lt]
  constructor
  · rintro ⟨lower, upper, inner⟩
    rw [bound, value, le] at lower
    rw [bound, value, le] at upper
    simp only [bound, value, lt] at inner
    exact ⟨lower, upper, inner⟩
  · rintro ⟨lower, upper, inner⟩
    refine ⟨?_, ?_, ?_⟩
    · rwa [bound, value, le]
    · rwa [bound, value, le]
    · simpa only [bound, value, lt] using inner

theorem four_mul_mantissa_le (f : FloatFormat) (x : Binary) :
    4 * x.mantissa ≤ (Shortest.quarters f x).1 + 2 := by
  simp only [Shortest.quarters]
  split_ifs <;> omega

/-- On the grid of the number itself, what it catches is rounded to its mantissa. -/
theorem Catches.roundHalfEven_eq (c : f.Catches x (num / den)) (pos : 0 < den) :
    roundHalfEven (num * 2 ^ f.scale) (den * 2 ^ x.exponent) = x.mantissa := by
  obtain ⟨lower, upper, inner⟩ := (catches_div_iff pos).1 c
  have wide := four_mul_mantissa_le f x
  have hi : (Shortest.quarters f x).2.2 = 4 * x.mantissa + 2 := rfl
  rw [hi] at upper inner
  rw [Nat.mul_comm den]
  have pos' : 0 < 2 ^ x.exponent * den := by positivity
  generalize (Shortest.quarters f x).1 = lo at *
  generalize 2 ^ x.exponent * den = unit at *
  generalize num * 2 ^ f.scale = value at *
  have least : 4 * x.mantissa * unit ≤ (lo + 2) * unit := Nat.mul_le_mul_right unit wide
  refine FloatFormat.roundHalfEven_eq pos' (by nlinarith) (by nlinarith) fun odd => ?_
  obtain ⟨lower', upper'⟩ := inner odd
  exact ⟨by nlinarith, by nlinarith⟩

/-- Rounding once the exponent is known. -/
theorem nearest?_eq {exponent : Nat}
    (same : bitLength (num * 2 ^ f.scale / den) - f.precision = exponent) :
    f.nearest? num den =
      let mantissa := roundHalfEven (num * 2 ^ f.scale) (den * 2 ^ exponent)
      let rounded := if mantissa = 2 ^ f.precision then (mantissa / 2, exponent + 1)
        else (mantissa, exponent)
      if rounded.2 ≤ f.top then some rounded else none := by
  subst same
  rfl

/-- What a number catches is below the numbers with one more bit. -/
theorem Catches.div_lt (c : f.Catches x (num / den)) (h : f.Holds x) (pos : 0 < den) :
    num * 2 ^ f.scale / den < 2 ^ (f.precision + x.exponent) := by
  obtain ⟨-, upper, -⟩ := (catches_div_iff pos).1 c
  have hi : (Shortest.quarters f x).2.2 = 4 * x.mantissa + 2 := rfl
  rw [hi] at upper
  have pos' : 0 < 2 ^ x.exponent * den := by positivity
  have fits : (x.mantissa + 1) * (2 ^ x.exponent * den) ≤
      2 ^ f.precision * (2 ^ x.exponent * den) := Nat.mul_le_mul_right _ h.mantissa
  rw [Nat.div_lt_iff_lt_mul pos, Nat.pow_add, Nat.mul_assoc]
  nlinarith

/-- What a number catches below all its bits comes right before a power of two. -/
theorem Catches.quarters_eq (c : f.Catches x (num / den)) (pos : 0 < den) {p e : Nat}
    (hp : f.precision = p + 1) (he : x.exponent = e + 1) (normal : 2 ^ p ≤ x.mantissa)
    (less : num * 2 ^ f.scale < 2 ^ p * (2 ^ x.exponent * den)) :
    x.mantissa = 2 ^ p ∧ (Shortest.quarters f x).1 = 4 * 2 ^ p - 1 := by
  obtain ⟨lower, -, -⟩ := (catches_div_iff pos).1 c
  have wide := four_mul_mantissa_le f x
  have same : x.mantissa = 2 ^ p := by
    have pos' : 0 < 2 ^ x.exponent * den := by positivity
    by_contra other
    have more : (4 * 2 ^ p + 2) * (2 ^ x.exponent * den) ≤
        (Shortest.quarters f x).1 * (2 ^ x.exponent * den) :=
      Nat.mul_le_mul_right _ (by omega)
    nlinarith
  refine ⟨same, ?_⟩
  simp [Shortest.quarters, same, hp, he]

/-- Right before a power of two the grid is twice as fine, and the last place is rounded up. -/
theorem Catches.nearest?_eq_of_lt (c : f.Catches x (num / den)) (h : f.Holds x) (pos : 0 < den)
    {p e : Nat} (hp : f.precision = p + 1) (he : x.exponent = e + 1) (normal : 2 ^ p ≤ x.mantissa)
    (less : num * 2 ^ f.scale < 2 ^ p * (2 ^ x.exponent * den)) :
    f.nearest? num den = some (x.mantissa, x.exponent) := by
  obtain ⟨same, quarters⟩ := c.quarters_eq pos hp he normal less
  obtain ⟨lower, -, -⟩ := (catches_div_iff pos).1 c
  have double : 2 ^ x.exponent * den = 2 * (den * 2 ^ e) := by rw [he]; ring
  have some : 1 ≤ 2 ^ p := Nat.one_le_two_pow
  have pos' : 0 < den * 2 ^ e := by positivity
  rw [quarters] at lower
  rw [double] at lower less
  have bits : bitLength (num * 2 ^ f.scale / den) = p + e + 1 := by
    refine bitLength_eq ?_ ?_
    · rw [Nat.le_div_iff_mul_le pos, Nat.pow_add, Nat.mul_assoc, Nat.mul_comm (2 ^ e)]
      have : 2 * 2 ^ p * (2 * (den * 2 ^ e)) ≤ (4 * 2 ^ p - 1) * (2 * (den * 2 ^ e)) :=
        Nat.mul_le_mul_right _ (by omega)
      nlinarith
    · rw [Nat.div_lt_iff_lt_mul pos]
      calc num * 2 ^ f.scale < 2 ^ p * (2 * (den * 2 ^ e)) := less
        _ = 2 ^ (p + e + 1) * den := by ring
  have up : roundHalfEven (num * 2 ^ f.scale) (den * 2 ^ e) = 2 ^ (p + 1) := by
    have lower' : (2 * 2 ^ (p + 1) - 1) * (den * 2 ^ e) ≤ 2 * (num * 2 ^ f.scale) := by
      have : 4 * 2 ^ p - 1 = 2 * 2 ^ (p + 1) - 1 := by rw [Nat.pow_succ]; omega
      rw [this] at lower
      nlinarith
    rw [Nat.sub_mul] at lower'
    refine FloatFormat.roundHalfEven_eq pos' (by omega) ?_ fun odd => ?_
    · rw [Nat.pow_succ]
      nlinarith
    · rw [Nat.pow_succ] at odd
      omega
  have exponent : bitLength (num * 2 ^ f.scale / den) - f.precision = e := by omega
  rw [FloatFormat.nearest?_eq exponent, up, hp]
  simp [same, Nat.pow_succ, he ▸ h.exponent, he]

/-- A number of the format is nearest to all that it catches. -/
theorem Catches.nearest?_eq (c : f.Catches x (num / den)) (h : f.Holds x) (pos : 0 < den)
    (precise : 0 < f.precision) : f.nearest? num den = some (x.mantissa, x.exponent) := by
  have own : bitLength (num * 2 ^ f.scale / den) - f.precision = x.exponent →
      f.nearest? num den = some (x.mantissa, x.exponent) := by
    intro same
    rw [FloatFormat.nearest?_eq same]
    simp [c.roundHalfEven_eq pos, h.mantissa.ne, h.exponent]
  have short := c.div_lt h pos
  obtain zero | ⟨e, he⟩ : x.exponent = 0 ∨ ∃ e, x.exponent = e + 1 := by
    cases x.exponent <;> simp
  · refine own ?_
    have := bitLength_le short
    omega
  · obtain ⟨p, hp⟩ : ∃ p, f.precision = p + 1 := ⟨f.precision - 1, by omega⟩
    have normal : 2 ^ p ≤ x.mantissa := by
      rcases h.normal with zero | normal
      · omega
      · simpa [hp] using normal
    by_cases above : 2 ^ (p + x.exponent) ≤ num * 2 ^ f.scale / den
    · refine own ?_
      have next : f.precision + x.exponent = p + x.exponent + 1 := by omega
      rw [bitLength_eq above (next ▸ short)]
      omega
    · refine c.nearest?_eq_of_lt h pos hp he normal ?_
      rw [not_le, Nat.div_lt_iff_lt_mul pos] at above
      calc num * 2 ^ f.scale < 2 ^ (p + x.exponent) * den := above
        _ = 2 ^ p * (2 ^ x.exponent * den) := by ring

/-! ### Decimals -/

theorem two_pow_le_ten_pow {a b : Nat} (h : a ≤ 3 * b) : 2 ^ a ≤ 10 ^ b := calc
  2 ^ a ≤ 2 ^ (3 * b) := Nat.pow_le_pow_right (by omega) h
  _ = 8 ^ b := by rw [Nat.pow_mul]
  _ ≤ 10 ^ b := Nat.pow_le_pow_left (by omega) b

theorem two_pow_le_ten_zpow {a b : Nat} (h : a ≤ 3 * b) : (2 : ℚ) ^ a ≤ 10 ^ (b : Int) := by
  rw [zpow_natCast]
  exact_mod_cast two_pow_le_ten_pow h

/-- Formats whose numbers the decimal algorithms reach: seventeen digits tell them apart, and their
exponents stay within what is computed. -/
structure Reached (f : FloatFormat) : Prop where
  precise : 0 < f.precision
  digits : f.precision ≤ 53
  scale : f.scale ≤ 3 * 400
  top : f.precision + f.top ≤ 3 * 2000

theorem reached_double : double.Reached := ⟨by decide, by decide, by decide, by decide⟩

theorem unit_pos (f : FloatFormat) (x : Binary) : 0 < f.unit x := by
  unfold unit
  positivity

theorem Reached.le_unit (reach : f.Reached) (x : Binary) : 10 ^ (-400 : Int) ≤ f.unit x := by
  have scale : (2 : ℚ) ^ f.scale ≤ 10 ^ (400 : Int) := two_pow_le_ten_zpow reach.scale
  have one : (1 : ℚ) ≤ 2 ^ x.exponent := one_le_pow₀ (by norm_num)
  rw [zpow_neg, ← one_div]
  exact div_le_div₀ (by positivity) one (by positivity) scale

/-- Powers of ten as they are computed: the exponent goes above or below the line. -/
theorem ten_zpow (k : Int) : (10 : ℚ) ^ k = (10 ^ k.toNat : Nat) / (10 ^ (-k).toNat : Nat) := by
  obtain ⟨n, rfl | rfl⟩ := k.eq_nat_or_neg
  · simp
  · simp

/-- What a number catches is positive unless it is zero. -/
theorem Catches.unit_le {v : ℚ} (c : f.Catches x v) (some : x.mantissa ≠ 0) : f.unit x ≤ 2 * v := by
  have wide := four_mul_mantissa_le f x
  have two : (2 : ℚ) ≤ (Shortest.quarters f x).1 := by
    exact_mod_cast (show 2 ≤ (Shortest.quarters f x).1 by omega)
  have lower := c.lower
  have := f.unit_pos x
  nlinarith

theorem Catches.lt {v : ℚ} (c : f.Catches x v) (h : f.Holds x) (reach : f.Reached) :
    v < 10 ^ (2000 : Int) := by
  have upper := c.upper
  have hi : (Shortest.quarters f x).2.2 = 4 * x.mantissa + 2 := rfl
  rw [hi] at upper
  push_cast at upper
  have fits : (x.mantissa : ℚ) + 1 ≤ 2 ^ f.precision := by exact_mod_cast h.mantissa
  have unit : f.unit x ≤ 2 ^ f.top := by
    have one : (1 : ℚ) ≤ 2 ^ f.scale := one_le_pow₀ (by norm_num)
    have : (2 : ℚ) ^ x.exponent ≤ 2 ^ f.top := pow_le_pow_right₀ (by norm_num) h.exponent
    exact (div_le_self (by positivity) one).trans this
  have top : (2 : ℚ) ^ f.precision * 2 ^ f.top ≤ 10 ^ (2000 : Int) := by
    rw [← pow_add]
    exact two_pow_le_ten_zpow reach.top
  have pos := f.unit_pos x
  calc v < (x.mantissa + 1) * f.unit x := by nlinarith
    _ ≤ 2 ^ f.precision * 2 ^ f.top := mul_le_mul fits unit pos.le (by positivity)
    _ ≤ 10 ^ (2000 : Int) := top

theorem round?_eq {m e : Nat} (negative : Bool) (h : f.nearest? num den = some (m, e)) :
    f.round? negative num den = some ⟨negative, m, e⟩ := by
  simp [round?, h]

/-- The number nearest to a decimal numeral that it catches is found. -/
theorem Catches.ofDecimal?_eq {coefficient : Nat} {exponent : Int}
    (c : f.Catches x (coefficient * 10 ^ exponent)) (h : f.Holds x) (some : x.mantissa ≠ 0)
    (reach : f.Reached) :
    f.ofDecimal? x.negative coefficient exponent = .some x := by
  have unit := c.unit_le some
  have pos := f.unit_pos x
  have ten : (0 : ℚ) < 10 ^ exponent := zpow_pos (by norm_num) _
  have nonzero : coefficient ≠ 0 := by
    rintro rfl
    simp at unit
    linarith
  have one : (1 : ℚ) ≤ coefficient := by exact_mod_cast Nat.one_le_iff_ne_zero.2 nonzero
  have high : ¬ 2000 < exponent := by
    intro high
    have less : (10 : ℚ) ^ exponent < 10 ^ (2000 : Int) :=
      lt_of_le_of_lt (by nlinarith) (c.lt h reach)
    have := (zpow_lt_zpow_iff_right₀ (by norm_num : (1 : ℚ) < 10)).1 less
    omega
  have low : ¬ exponent + (bitLength coefficient / 3 : Nat) < -2000 := by
    intro low
    have bits : coefficient < 10 ^ (bitLength coefficient / 3 + 1) := calc
      coefficient < 2 ^ bitLength coefficient := lt_two_pow_bitLength _
      _ ≤ 2 ^ (3 * (bitLength coefficient / 3 + 1)) := Nat.pow_le_pow_right (by omega) (by omega)
      _ = 8 ^ (bitLength coefficient / 3 + 1) := by rw [Nat.pow_mul]
      _ ≤ 10 ^ (bitLength coefficient / 3 + 1) := Nat.pow_le_pow_left (by omega) _
    have value : (coefficient : ℚ) * 10 ^ exponent < 10 ^ (-1999 : Int) := calc
      (coefficient : ℚ) * 10 ^ exponent
          < 10 ^ (bitLength coefficient / 3 + 1) * 10 ^ exponent :=
        mul_lt_mul_of_pos_right (by exact_mod_cast bits) ten
      _ = 10 ^ (exponent + (bitLength coefficient / 3 + 1 : Nat)) := by
        rw [zpow_add₀ (by norm_num), zpow_natCast, mul_comm]
      _ ≤ 10 ^ (-1999 : Int) := zpow_le_zpow_right₀ (by norm_num) (by push_cast at low ⊢; omega)
    refine lt_irrefl (f.unit x) ?_
    calc f.unit x ≤ 2 * (coefficient * 10 ^ exponent) := unit
      _ < 10 * 10 ^ (-1999 : Int) := mul_lt_mul'' (by norm_num) value (by norm_num) (by positivity)
      _ = 10 ^ (-1998 : Int) := by rw [← zpow_one_add₀ (by norm_num)]; rfl
      _ ≤ 10 ^ (-400 : Int) := zpow_le_zpow_right₀ (by norm_num) (by norm_num)
      _ ≤ f.unit x := reach.le_unit x
  have split : f.Catches x (((coefficient * 10 ^ exponent.toNat : Nat) : ℚ) /
      (10 ^ (-exponent).toNat : Nat)) := by
    convert c using 1
    rw [ten_zpow]
    push_cast
    ring
  have near := split.nearest?_eq h (by positivity) reach.precise
  unfold ofDecimal?
  simp only [if_neg nonzero, if_neg high, if_neg low]
  split_ifs with sign
  · have none : (-exponent).toNat = 0 := by omega
    rw [none] at near
    exact round?_eq _ near
  · have none : exponent.toNat = 0 := by omega
    rw [none, Nat.pow_zero, Nat.mul_one] at near
    exact round?_eq _ near

end FloatFormat

end FlowScript
