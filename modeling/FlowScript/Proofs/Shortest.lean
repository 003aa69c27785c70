import FlowScript.Proofs.Reading
import FlowScript.Proofs.Rounding

/-!
# Shortest texts are read back

The shortest decimal of a binary number is rounded to it, and however it is laid out, it is read as
the number it stands for.

* `Shortest.onGrid?_eq`: of the multiples of a power of ten around a number, one is taken that the
  number catches; `Shortest.onGrid?_isSome`: seventeen digits are enough;
* `Shortest.proper_decimal`: the shortest decimal;
* `DecimalStyle.readsFloat_layout`: its texts, positional and scientific;
* `DecimalStyle.readNumeral?_text`: the shortest text of a number is rounded to it when it is read;
* `FloatCodec.KeepsDouble`, `FloatCodec.KeepsSingle`: a float is read back from its text;
* `FloatCodec.keepsDouble_nearest`: every float is, where numerals are read to the nearest.
-/

namespace FlowScript

namespace Decimal

/-- A number has as many digits as its magnitude asks for. -/
theorem pow_length_digits_le {n : Nat} (pos : 0 < n) : 10 ^ ((digits n).length - 1) ≤ n := by
  induction n using Nat.strongRecOn with
  | ind n ih =>
    rw [digits_eq]
    split_ifs with small
    · simpa [Nat.one_le_iff_ne_zero] using pos.ne'
    · have tenth := ih (n / 10) (by omega) (by omega)
      obtain ⟨k, hk⟩ : ∃ k, (digits (n / 10)).length = k + 1 :=
        Nat.exists_eq_succ_of_ne_zero (by simpa using digits_ne_nil (n / 10))
      rw [hk, Nat.add_sub_cancel] at tenth
      simp only [List.length_append, List.length_singleton, hk, Nat.add_sub_cancel, Nat.pow_succ]
      omega

end Decimal

namespace Shortest

open FloatFormat

variable {f : FloatFormat} {x : Binary}

/-- The first digit of a fraction, looked for up to some place, does not stand above it. -/
theorem zpow_length_digits_le {num den place : Nat} (pos : 0 < den)
    (large : den ≤ num * 10 ^ place) :
    (10 : ℚ) ^ (((Decimal.digits (num * 10 ^ place / den)).length : Int) - (place + 1 : Nat)) ≤
      num / den := by
  have digits := Decimal.pow_length_digits_le (Nat.div_pos large pos)
  have scaled := (Nat.le_div_iff_mul_le pos).1 digits
  have length := List.length_pos_iff.2 (Decimal.digits_ne_nil (num * 10 ^ place / den))
  generalize (Decimal.digits (num * 10 ^ place / den)).length = n at length scaled ⊢
  have lead : (n : Int) - (place + 1 : Nat) = ((n - 1 : Nat) : Int) - place := by omega
  rw [lead, zpow_sub₀ (by norm_num), zpow_natCast, zpow_natCast,
    div_le_div_iff₀ (by positivity) (by positivity)]
  exact_mod_cast scaled

theorem leadExponent_eq {place : Nat} (h : place = 400) (num den : Nat) : leadExponent num den =
    ((Decimal.digits (num * Nat.pow 10 place / den)).length : Int) - (place + 1 : Nat) := by
  have last : ((place + 1 : Nat) : Int) = 401 := by omega
  rw [leadExponent, ← h, last]

theorem catches_of_lt {v : ℚ} (lower : (quarters f x).1 * f.unit x < 4 * v)
    (upper : 4 * v < (quarters f x).2.2 * f.unit x) : f.Catches x v :=
  ⟨lower.le, upper.le, fun _ => ⟨lower, upper⟩⟩

theorem roundHalfEven_eq_or (num den : Nat) :
    roundHalfEven num den = num / den ∨ roundHalfEven num den = num / den + 1 := by
  simp only [roundHalfEven]
  split_ifs <;> simp

/-- The multiple of a power of ten below a number. -/
def below (f : FloatFormat) (x : Binary) (k : Int) : Nat :=
  4 * x.mantissa * (2 ^ x.exponent * 10 ^ (-k).toNat) / (4 * 2 ^ f.scale * 10 ^ k.toNat)

/-- Whether a multiple of a power of ten is caught, in integers. -/
theorem catches_grid_iff {k : Int} {d : Nat} :
    f.Catches x (d * 10 ^ k) ↔
      (quarters f x).1 * (2 ^ x.exponent * 10 ^ (-k).toNat) ≤ d * (4 * 2 ^ f.scale * 10 ^ k.toNat) ∧
      d * (4 * 2 ^ f.scale * 10 ^ k.toNat) ≤
        (quarters f x).2.2 * (2 ^ x.exponent * 10 ^ (-k).toNat) ∧
      (x.mantissa % 2 = 1 →
        (quarters f x).1 * (2 ^ x.exponent * 10 ^ (-k).toNat) <
          d * (4 * 2 ^ f.scale * 10 ^ k.toNat) ∧
        d * (4 * 2 ^ f.scale * 10 ^ k.toNat) <
          (quarters f x).2.2 * (2 ^ x.exponent * 10 ^ (-k).toNat)) := by
  have value : (d : ℚ) * 10 ^ k =
      ((d * 10 ^ k.toNat : Nat) : ℚ) / (10 ^ (-k).toNat : Nat) := by
    rw [ten_zpow]
    push_cast
    ring
  have grid : d * (4 * 2 ^ f.scale * 10 ^ k.toNat) = 4 * (d * 10 ^ k.toNat * 2 ^ f.scale) := by ring
  rw [value, catches_div_iff (by positivity), grid]

/-- Of the multiples of a power of ten around a number, one that it catches is taken. -/
theorem onGrid?_eq (f : FloatFormat) (x : Binary) (k : Int) :
    onGrid? f x k =
      if f.Catches x (below f x k * 10 ^ k) then
        if f.Catches x ((below f x k + 1 : Nat) * 10 ^ k) then
          some (roundHalfEven (4 * x.mantissa * (2 ^ x.exponent * 10 ^ (-k).toNat))
            (4 * 2 ^ f.scale * 10 ^ k.toNat))
        else some (below f x k)
      else if f.Catches x ((below f x k + 1 : Nat) * 10 ^ k) then some (below f x k + 1)
      else none := by
  have inside : ∀ d : Nat, (if x.mantissa % 2 = 0 then
      decide ((quarters f x).1 * (2 ^ x.exponent * 10 ^ (-k).toNat) ≤
        d * (4 * 2 ^ f.scale * 10 ^ k.toNat)) &&
      decide (d * (4 * 2 ^ f.scale * 10 ^ k.toNat) ≤
        (quarters f x).2.2 * (2 ^ x.exponent * 10 ^ (-k).toNat))
    else
      decide ((quarters f x).1 * (2 ^ x.exponent * 10 ^ (-k).toNat) <
        d * (4 * 2 ^ f.scale * 10 ^ k.toNat)) &&
      decide (d * (4 * 2 ^ f.scale * 10 ^ k.toNat) <
        (quarters f x).2.2 * (2 ^ x.exponent * 10 ^ (-k).toNat))) =
      decide (f.Catches x (d * 10 ^ k)) := by
    intro d
    rw [Bool.eq_iff_iff, decide_eq_true_eq, catches_grid_iff]
    split_ifs with even
    · simp [even]
    · simp only [Bool.and_eq_true, decide_eq_true_eq, Nat.mod_two_ne_zero.1 even, forall_const]
      exact ⟨fun h => ⟨h.1.le, h.2.le, h⟩, fun h => h.2.2⟩
  have under : (quarters f x).2.1 * (2 ^ x.exponent * 10 ^ (-k).toNat) /
      (4 * 2 ^ f.scale * 10 ^ k.toNat) = below f x k := rfl
  simp only [onGrid?, Nat.pow_eq, under, inside]
  by_cases here : f.Catches x (below f x k * 10 ^ k) <;>
    by_cases next : f.Catches x ((below f x k + 1 : Nat) * 10 ^ k) <;>
      simp only [here, next, decide_true, decide_false, ↓reduceIte]
  rfl

/-- A multiple of a power of ten that is found is caught. -/
theorem catches_of_onGrid? {k : Int} {d : Nat} (found : onGrid? f x k = some d) :
    f.Catches x (d * 10 ^ k) := by
  rw [onGrid?_eq] at found
  split_ifs at found with here next next <;> cases found
  · rcases roundHalfEven_eq_or (4 * x.mantissa * (2 ^ x.exponent * 10 ^ (-k).toNat))
      (4 * 2 ^ f.scale * 10 ^ k.toNat) with same | same <;> rw [same]
    · exact here
    · exact next
  · exact here
  · exact next

theorem below_mul_le (f : FloatFormat) (x : Binary) (k : Int) :
    below f x k * (10 : ℚ) ^ k ≤ x.mantissa * f.unit x := by
  have floor : below f x k * (4 * 2 ^ f.scale * 10 ^ k.toNat) ≤
      4 * x.mantissa * (2 ^ x.exponent * 10 ^ (-k).toNat) := Nat.div_mul_le_self _ _
  rw [ten_zpow, unit, mul_div_assoc', mul_div_assoc',
    div_le_div_iff₀ (by positivity) (by positivity)]
  exact_mod_cast (by nlinarith : below f x k * 10 ^ k.toNat * 2 ^ f.scale ≤
    x.mantissa * 2 ^ x.exponent * 10 ^ (-k).toNat)

theorem lt_below_add_one_mul (f : FloatFormat) (x : Binary) (k : Int) :
    x.mantissa * f.unit x < (below f x k + 1 : Nat) * (10 : ℚ) ^ k := by
  have floor : 4 * x.mantissa * (2 ^ x.exponent * 10 ^ (-k).toNat) <
      (below f x k + 1) * (4 * 2 ^ f.scale * 10 ^ k.toNat) :=
    Nat.lt_mul_of_div_lt (Nat.lt_succ_self _) (by positivity)
  rw [ten_zpow, unit, mul_div_assoc', mul_div_assoc',
    div_lt_div_iff₀ (by positivity) (by positivity)]
  exact_mod_cast (by nlinarith : x.mantissa * 2 ^ x.exponent * 10 ^ (-k).toNat <
    (below f x k + 1) * 10 ^ k.toNat * 2 ^ f.scale)

/-- The numbers that a number catches spread over more than its share of the finest grid. -/
theorem four_mul_mantissa_lt (h : f.Holds x) (reach : f.Reached) :
    4 * x.mantissa + 10 ^ 16 * (quarters f x).1 < 10 ^ 16 * (quarters f x).2.2 := by
  have fits := h.mantissa
  have digits : 2 ^ f.precision ≤ 2 ^ 53 := Nat.pow_le_pow_right (by omega) reach.digits
  have half : 2 * 2 ^ (f.precision - 1) = 2 ^ f.precision := by
    rw [← Nat.pow_succ']
    congr 1
    have := reach.precise
    omega
  simp only [quarters, Nat.pow_eq]
  split_ifs with least <;> omega

/-- A grid that is fine enough for the number has a multiple that it catches. -/
theorem onGrid?_isSome {k : Int} (h : f.Holds x) (reach : f.Reached)
    (fine : 10 ^ 16 * (10 : ℚ) ^ k ≤ x.mantissa * f.unit x) : (onGrid? f x k).isSome := by
  have ten : (0 : ℚ) < 10 ^ k := zpow_pos (by norm_num) _
  have pos := f.unit_pos x
  have floor := below_mul_le f x k
  have ceil := lt_below_add_one_mul f x k
  have spread : 4 * (x.mantissa : ℚ) + 10 ^ 16 * (quarters f x).1 <
      10 ^ 16 * (quarters f x).2.2 := by
    exact_mod_cast four_mul_mantissa_lt h reach
  have hi : ((quarters f x).2.2 : ℚ) = 4 * x.mantissa + 2 := by simp [quarters]
  have lo : ((quarters f x).1 : ℚ) ≤ 4 * x.mantissa := by
    exact_mod_cast (show (quarters f x).1 ≤ 4 * x.mantissa from Nat.sub_le _ _)
  rw [onGrid?_eq]
  split_ifs with here next next
  · rfl
  · rfl
  · rfl
  · exfalso
    have left : 4 * (below f x k * (10 : ℚ) ^ k) ≤ (quarters f x).1 * f.unit x := by
      by_contra more
      refine here (catches_of_lt (not_le.1 more) ?_)
      rw [hi]
      nlinarith
    have right : (quarters f x).2.2 * f.unit x ≤ 4 * ((below f x k + 1 : Nat) * (10 : ℚ) ^ k) := by
      by_contra less
      refine next (catches_of_lt ?_ (not_le.1 less))
      nlinarith
    push_cast at right
    nlinarith

/-- The sixteenth grid after the first digit of a number is fine enough for it. -/
theorem fine_of_reached (reach : f.Reached) (some : x.mantissa ≠ 0) :
    10 ^ 16 * (10 : ℚ) ^
        (leadExponent (x.mantissa * Nat.pow 2 x.exponent) (Nat.pow 2 f.scale) - 16) ≤
      x.mantissa * f.unit x := by
  have one : 1 ≤ x.mantissa * 2 ^ x.exponent :=
    Nat.mul_pos (Nat.pos_of_ne_zero some) (Nat.two_pow_pos _)
  obtain ⟨place, is⟩ : ∃ place, place = 400 := ⟨400, rfl⟩
  have large : 2 ^ f.scale ≤ x.mantissa * 2 ^ x.exponent * 10 ^ place :=
    (two_pow_le_ten_pow (is ▸ reach.scale)).trans (Nat.le_mul_of_pos_left _ one)
  have lead := zpow_length_digits_le (Nat.two_pow_pos f.scale) large
  rw [leadExponent_eq is, zpow_sub₀ (by norm_num), zpow_ofNat, mul_div_cancel₀ _ (by positivity)]
  refine lead.trans_eq ?_
  simp [unit, mul_div_assoc]

/-- The shortest decimal of a number comes from a multiple of a power of ten that it catches. -/
theorem exists_decimal_eq (h : f.Holds x) (reach : f.Reached) (some : x.mantissa ≠ 0) :
    ∃ (d : Nat) (k : Int), f.Catches x (d * 10 ^ k) ∧ decimal f x =
      ⟨dropTrailingZeros (Decimal.digits d), k + (Decimal.digits d).length - 1⟩ := by
  have last := onGrid?_isSome h reach (fine_of_reached reach some)
  unfold decimal
  generalize leadExponent (x.mantissa * Nat.pow 2 x.exponent) (Nat.pow 2 f.scale) = lead at last ⊢
  simp only
  split
  · rename_i none
    rw [List.findSome?_eq_none_iff] at none
    have := none 16 (by simp)
    simp_all
  · rename_i d k found
    obtain ⟨n, -, hit⟩ := List.exists_of_findSome?_eq_some found
    obtain ⟨_, grid, ⟨⟩⟩ := Option.map_eq_some_iff.1 hit
    exact ⟨d, _, catches_of_onGrid? grid, rfl⟩

end Shortest

/-! ### Digits -/

namespace Decimal

theorem foldl_digits (cs : List Char) (n : Nat) :
    cs.foldl (fun n c => 10 * n + digitValue c) n = n * 10 ^ cs.length + ofDigits cs := by
  unfold ofDigits
  induction cs generalizing n with
  | nil => simp
  | cons c cs ih =>
    rw [List.foldl_cons, List.foldl_cons, ih, ih (10 * 0 + digitValue c), List.length_cons,
      Nat.pow_succ]
    ring

theorem ofDigits_append (a b : List Char) :
    ofDigits (a ++ b) = ofDigits a * 10 ^ b.length + ofDigits b := by
  rw [ofDigits, List.foldl_append, foldl_digits]
  rfl

theorem ofDigits_zeros (n : Nat) : ofDigits (List.replicate n '0') = 0 := by
  induction n with
  | zero => rfl
  | succ n ih => rw [List.replicate_succ', ofDigits_append, ih]; rfl

end Decimal

theorem Shortest.exists_zeros (cs : List Char) :
    ∃ n, cs = dropTrailingZeros cs ++ List.replicate n '0' := by
  refine ⟨(cs.reverse.takeWhile (· == '0')).length, ?_⟩
  have zeros : cs.reverse.takeWhile (· == '0') =
      List.replicate (cs.reverse.takeWhile (· == '0')).length '0' :=
    List.eq_replicate_of_mem fun c hc => by simpa using List.mem_takeWhile_imp hc
  have split := List.takeWhile_append_dropWhile (p := (· == '0')) (l := cs.reverse)
  rw [zeros] at split
  have := congrArg List.reverse split
  simpa [dropTrailingZeros] using this.symm

namespace ShortDecimal

/-- A decimal that is written as it is: there are digits, and the first one is not zero. -/
structure Proper (d : ShortDecimal) : Prop where
  all : ∀ c ∈ d.digits, c.isDigit = true
  ne_nil : d.digits ≠ []
  head : d.digits.head? ≠ some '0'

/-- The number that a decimal stands for. -/
def value (d : ShortDecimal) : ℚ :=
  Decimal.ofDigits d.digits * 10 ^ (d.exponent + 1 - d.digits.length)

end ShortDecimal

namespace Shortest

open FloatFormat

variable {f : FloatFormat} {x : Binary}

/-- The shortest decimal of a number is a proper one that the number catches. -/
theorem proper_decimal (h : f.Holds x) (reach : f.Reached) (some : x.mantissa ≠ 0) :
    (decimal f x).Proper ∧ f.Catches x (decimal f x).value := by
  obtain ⟨d, k, caught, eq⟩ := exists_decimal_eq h reach some
  have pos : 0 < d := by
    refine Nat.pos_of_ne_zero ?_
    rintro rfl
    have := caught.unit_le some
    have := f.unit_pos x
    simp_all
    linarith
  obtain ⟨n, split⟩ := exists_zeros (Decimal.digits d)
  have number : d = Decimal.ofDigits (dropTrailingZeros (Decimal.digits d)) * 10 ^ n := by
    conv_lhs => rw [← Decimal.ofDigits_digits d, split, Decimal.ofDigits_append]
    simp [Decimal.ofDigits_zeros]
  have length : (Decimal.digits d).length = (dropTrailingZeros (Decimal.digits d)).length + n := by
    conv_lhs => rw [split]
    simp
  have start := Document.head?_digits_ne_zero pos
  have all : ∀ c ∈ Decimal.digits d, c.isDigit = true := fun c => Decimal.isDigit_of_mem_digits
  rw [eq]
  generalize dropTrailingZeros (Decimal.digits d) = ds at split number length
  rw [split] at start all
  have ne : ds ≠ [] := by
    rintro rfl
    simp [Decimal.ofDigits] at number
    omega
  refine ⟨⟨fun c hc => all c (List.mem_append_left _ hc), ne, ?_⟩, ?_⟩
  · rwa [List.head?_append_of_ne_nil _ ne] at start
  · convert caught using 1
    have place : k + ((Decimal.digits d).length : Int) - 1 + 1 - ds.length = n + k := by
      rw [length]
      push_cast
      ring
    rw [ShortDecimal.value, place, zpow_add₀ (by norm_num), zpow_natCast, ← mul_assoc]
    congr 1
    exact_mod_cast number.symm

end Shortest

/-! ### Texts -/

namespace Document

/-- Characters that are read as a float of some value, up to its sign. -/
def ReadsFloat (negative : Bool) (cs : List Char) (v : ℚ) : Prop :=
  ∃ n : Numeral, readUnsigned? negative cs = some (n, []) ∧ n.negative = negative ∧
    n.integral = false ∧ (n.coefficient : ℚ) * 10 ^ n.scale = v

theorem readsFloat_fraction {whole fraction : List Char} (negative : Bool)
    (all : ∀ c ∈ whole ++ fraction, c.isDigit = true) (some : whole ≠ []) (some' : fraction ≠ [])
    (plain : ¬ (whole.head? = .some '0' ∧ 1 < whole.length)) :
    ReadsFloat negative (whole ++ '.' :: fraction)
      (Decimal.ofDigits (whole ++ fraction) * 10 ^ (-fraction.length : Int)) := by
  have stop : ∀ c ∈ ('.' :: fraction).head?, c.isDigit = false := by simp
  have span := spanDigits_append_of_all (fun c hc => all c (List.mem_append_left _ hc)) stop
  have span' := spanDigits_of_all fun c hc => all c (List.mem_append_right whole hc)
  have behind : readFraction? ('.' :: fraction) = .some (fraction, []) := by
    simp [readFraction?, span', some']
  have noExponent : readExponent? [] = .some (none, []) := readExponent?_of_ne (by simp) (by simp)
  have read := readUnsigned?_eq negative span some plain behind noExponent
  exact ⟨_, read, rfl, by simp [Numeral.integral, some'],
    by simp [Numeral.coefficient, Numeral.scale]⟩

/-- A sign and digits as an exponent. -/
theorem readSigned?_digits (z : Int) :
    readSigned? ((if z < 0 then ['-'] else ['+']) ++ Decimal.digits z.natAbs) = some (z, []) := by
  have span := spanDigits_of_all fun c => Decimal.isDigit_of_mem_digits (n := z.natAbs)
  split_ifs with sign
  · simp only [List.cons_append, List.nil_append, readSigned?, span, List.isEmpty_iff,
      Decimal.digits_ne_nil, ↓reduceIte, Decimal.ofDigits_digits, Option.some.injEq,
      Prod.mk.injEq, and_true]
    omega
  · simp only [List.cons_append, List.nil_append, readSigned?, span, List.isEmpty_iff,
      Decimal.digits_ne_nil, ↓reduceIte, Decimal.ofDigits_digits, Option.some.injEq,
      Prod.mk.injEq, and_true]
    omega

end Document

namespace DecimalStyle

open Document

variable {d : ShortDecimal}

theorem readsFloat_scientific (h : d.Proper) (negative : Bool) :
    ReadsFloat negative (scientific d) d.value := by
  obtain ⟨digits, exponent⟩ := d
  obtain ⟨all, ne, -⟩ := h
  cases digits with
  | nil => contradiction
  | cons c rest =>
    have first : ∀ a ∈ [c], a.isDigit = true := fun a ha => all a (by simp_all)
    have tail : ∀ a ∈ rest, a.isDigit = true := fun a ha => all a (List.mem_cons_of_mem _ ha)
    have plain : ¬ ([c].head? = some '0' ∧ 1 < [c].length) := by simp
    have value : ((Decimal.ofDigits (c :: rest) : Nat) : ℚ) * 10 ^ (exponent - rest.length) =
        ShortDecimal.value ⟨c :: rest, exponent⟩ := by
      simp only [ShortDecimal.value, List.length_cons]
      congr 2
      push_cast
      ring
    have signed := readSigned?_digits exponent
    generalize hz : (if exponent < 0 then ['-'] else ['+']) ++ Decimal.digits exponent.natAbs = z
      at signed
    have last : readExponent? ('e' :: z) = some (some exponent, []) := by
      simp [readExponent?, signed]
    have stop : ∀ a ∈ ('e' :: z).head?, a.isDigit = false := by simp
    by_cases none : rest = []
    · subst none
      have text : scientific ⟨[c], exponent⟩ = [c] ++ 'e' :: z := by simp [scientific, ← hz]
      have behind : readFraction? ('e' :: z) = some ([], 'e' :: z) :=
        readFraction?_of_ne (by simp)
      rw [text]
      exact ⟨_, readUnsigned?_eq negative (spanDigits_append_of_all first stop) (by simp) plain
        behind last, rfl, by simp [Numeral.integral],
        by simpa [Numeral.coefficient, Numeral.scale] using value⟩
    · have text : scientific ⟨c :: rest, exponent⟩ = [c] ++ '.' :: (rest ++ 'e' :: z) := by
        simp [scientific, none, ← hz]
      have point : ∀ a ∈ ('.' :: (rest ++ 'e' :: z)).head?, a.isDigit = false := by simp
      have behind : readFraction? ('.' :: (rest ++ 'e' :: z)) = some (rest, 'e' :: z) := by
        simp [readFraction?, spanDigits_append_of_all tail stop, none]
      rw [text]
      exact ⟨_, readUnsigned?_eq negative (spanDigits_append_of_all first point) (by simp) plain
        behind last, rfl, by simp [Numeral.integral],
        by simpa [Numeral.coefficient, Numeral.scale] using value⟩

theorem isDigit_of_mem_zeros {n : Nat} {c : Char} (h : c ∈ List.replicate n '0') :
    c.isDigit = true := by
  rw [List.eq_of_mem_replicate h]
  rfl

/-- Zeros stand between the point and the first digit. -/
theorem readsFloat_plain_of_neg (h : d.Proper) (sign : d.exponent < 0) (negative : Bool) :
    ReadsFloat negative (plain d) d.value := by
  obtain ⟨digits, exponent⟩ := d
  obtain ⟨all, ne, -⟩ := h
  obtain ⟨n, rfl⟩ : ∃ n : Nat, exponent = -n - 1 := ⟨(-exponent - 1).toNat, by simp at sign; omega⟩
  have text : plain ⟨digits, -n - 1⟩ = ['0'] ++ '.' :: (List.replicate n '0' ++ digits) := by
    rw [plain, if_pos sign]
    simp
  have digit : ∀ c ∈ ['0'] ++ (List.replicate n '0' ++ digits), c.isDigit = true := by
    simp only [List.mem_append, List.mem_singleton]
    rintro c (rfl | zero | digit)
    · rfl
    · exact isDigit_of_mem_zeros zero
    · exact all c digit
  have number : Decimal.ofDigits (['0'] ++ (List.replicate n '0' ++ digits)) =
      Decimal.ofDigits digits := by
    rw [Decimal.ofDigits_append, Decimal.ofDigits_append, Decimal.ofDigits_zeros]
    simp [Decimal.ofDigits, Decimal.digitValue]
  rw [text]
  convert readsFloat_fraction negative digit (by simp) (by simpa using fun _ => ne) (by simp)
    using 1
  rw [number, ShortDecimal.value]
  congr 2
  simp
  ring

/-- Zeros stand between the last digit and the point. -/
theorem readsFloat_plain_of_le (h : d.Proper) {n : Nat} (whole : d.exponent = n)
    (short : d.digits.length ≤ n + 1) (negative : Bool) :
    ReadsFloat negative (plain d) d.value := by
  obtain ⟨digits, exponent⟩ := d
  obtain ⟨all, ne, head⟩ := h
  simp only at whole short
  subst whole
  have text : plain ⟨digits, n⟩ =
      (digits ++ List.replicate (n + 1 - digits.length) '0') ++ '.' :: ['0'] := by
    simp [plain, List.take_of_length_le short, List.drop_of_length_le short]
  have digit : ∀ c ∈ (digits ++ List.replicate (n + 1 - digits.length) '0') ++ ['0'],
      c.isDigit = true := by
    simp only [List.mem_append, List.mem_singleton]
    rintro c ((digit | zero) | rfl)
    · exact all c digit
    · exact isDigit_of_mem_zeros zero
    · rfl
  rw [text]
  convert readsFloat_fraction negative digit (by simp [ne]) (by simp)
    (by rw [List.head?_append_of_ne_nil _ ne]; exact fun first => head first.1) using 1
  have places : (n : Int) + 1 - digits.length = (n + 1 - digits.length : Nat) := by omega
  rw [Decimal.ofDigits_append, Decimal.ofDigits_append, Decimal.ofDigits_zeros, ShortDecimal.value,
    places, zpow_natCast]
  simp [Decimal.ofDigits, Decimal.digitValue]

/-- The point stands between the digits. -/
theorem readsFloat_plain_of_lt (h : d.Proper) {n : Nat} (whole : d.exponent = n)
    (long : n + 1 < d.digits.length) (negative : Bool) :
    ReadsFloat negative (plain d) d.value := by
  obtain ⟨digits, exponent⟩ := d
  obtain ⟨all, ne, head⟩ := h
  simp only at whole long
  subst whole
  have text : plain ⟨digits, n⟩ = digits.take (n + 1) ++ '.' :: digits.drop (n + 1) := by
    have more : digits.drop (n + 1) ≠ [] := by simpa using long
    have none : n + 1 - digits.length = 0 := by omega
    simp [plain, more, none]
  have digit : ∀ c ∈ digits.take (n + 1) ++ digits.drop (n + 1), c.isDigit = true := by
    rwa [List.take_append_drop]
  have first : (digits.take (n + 1)).head? ≠ some '0' := by
    rwa [List.head?_take, if_neg (by omega)]
  rw [text]
  convert readsFloat_fraction negative digit (by simp [ne]) (by simpa using long)
    (fun start => first start.1) using 1
  rw [List.take_append_drop, ShortDecimal.value]
  congr 2
  simp
  omega

/-- However a proper decimal is laid out, it is read as the number it stands for. -/
theorem readsFloat_layout (h : d.Proper) (style : DecimalStyle) (negative : Bool) :
    ReadsFloat negative (style.layout d) d.value := by
  unfold layout
  split_ifs
  · by_cases sign : d.exponent < 0
    · exact readsFloat_plain_of_neg h sign negative
    · obtain ⟨n, whole⟩ : ∃ n : Nat, d.exponent = n := ⟨d.exponent.toNat, by omega⟩
      rcases Nat.lt_or_ge (n + 1) d.digits.length with long | short
      · exact readsFloat_plain_of_lt h whole long negative
      · exact readsFloat_plain_of_le h whole short negative
  · exact readsFloat_scientific h negative

theorem readsFloat_zero (negative : Bool) : ReadsFloat negative ['0', '.', '0'] 0 := by
  have digit : ∀ c ∈ ['0'] ++ ['0'], c.isDigit = true := fun c hc =>
    isDigit_of_mem_zeros (n := 2) hc
  have read := readsFloat_fraction negative digit (by simp) (by simp) (by simp)
  have none : Decimal.ofDigits (['0'] ++ ['0']) = 0 := rfl
  rwa [none, Nat.cast_zero, zero_mul] at read

/-- The text of a number without its sign. -/
def unsigned (style : DecimalStyle) (f : FloatFormat) (x : Binary) : List Char :=
  if x.mantissa = 0 then ['0', '.', '0'] else style.layout (Shortest.decimal f x)

theorem toList_text (style : DecimalStyle) (f : FloatFormat) (x : Binary) :
    (style.text f x).toList =
      if x.negative then '-' :: style.unsigned f x else style.unsigned f x :=
  String.toList_ofList

/-- The shortest text of a number is read as a float that is rounded to the number. -/
theorem readNumeral?_text {f : FloatFormat} {x : Binary} (h : f.Holds x) (reach : f.Reached)
    (style : DecimalStyle) :
    ∃ n, readNumeral? (style.text f x).toList = some (n, []) ∧ n.integral = false ∧
      f.ofDecimal? n.negative n.coefficient n.scale = some x := by
  have signed : ∀ v, ReadsFloat x.negative (style.unsigned f x) v →
      ∃ n, readNumeral? (style.text f x).toList = some (n, []) ∧ n.negative = x.negative ∧
        n.integral = false ∧ (n.coefficient : ℚ) * 10 ^ n.scale = v := by
    rintro v ⟨n, read, rest⟩
    refine ⟨n, ?_, rest⟩
    rw [toList_text]
    cases sign : x.negative with
    | true =>
      rw [sign] at read
      exact read
    | false =>
      rw [sign] at read
      exact readNumeral?_of_readUnsigned? read
  by_cases zero : x.mantissa = 0
  · have unsigned : style.unsigned f x = ['0', '.', '0'] := if_pos zero
    obtain ⟨n, read, sign, float, value⟩ := signed 0 (unsigned ▸ readsFloat_zero x.negative)
    refine ⟨n, read, float, ?_⟩
    have none : n.coefficient = 0 := by
      have ten : (10 : ℚ) ^ n.scale ≠ 0 := zpow_ne_zero _ (by norm_num)
      exact_mod_cast (mul_eq_zero.1 value).resolve_right ten
    have least : x.exponent = 0 := by
      rcases h.normal with least | normal
      · exact least
      · have := Nat.two_pow_pos (f.precision - 1)
        omega
    have self : (⟨x.negative, 0, 0⟩ : Binary) = x := by
      cases x
      simp_all
    rw [FloatFormat.ofDecimal?, if_pos none, sign, self]
  · have unsigned : style.unsigned f x = style.layout (Shortest.decimal f x) := if_neg zero
    obtain ⟨proper, caught⟩ := Shortest.proper_decimal h reach zero
    obtain ⟨n, read, sign, float, value⟩ :=
      signed _ (unsigned ▸ readsFloat_layout proper style x.negative)
    rw [← value] at caught
    exact ⟨n, read, float, sign ▸ caught.ofDecimal?_eq h zero reach⟩

end DecimalStyle

/-! ### Codecs -/

namespace FloatCodec

variable (codec : FloatCodec)

/-- The number that a text is read as, if the text is a numeral. -/
def number? (text : String) : Option Number :=
  match Document.readNumeral? text.toList with
  | some (n, []) => Number.ofNumeral? codec n
  | _ => none

/-- The text of a float of 64 bits is read as the float. -/
def KeepsDouble (x : Binary) : Prop := codec.number? (codec.doubleText x) = some (.float x)

/-- The text of a float of 32 bits is read as a number that is rounded to the float. -/
def KeepsSingle (x : Binary) : Prop :=
  (codec.number? (codec.singleText x)).map Position.coordinate = some (some x)

instance (x : Binary) : Decidable (codec.KeepsDouble x) :=
  inferInstanceAs (Decidable (_ = _))

instance (x : Binary) : Decidable (codec.KeepsSingle x) :=
  inferInstanceAs (Decidable (_ = _))

variable {codec}

theorem number?_eq_some_iff {text : String} {m : Number} : codec.number? text = some m ↔
    ∃ n, Document.readNumeral? text.toList = some (n, []) ∧
      Number.ofNumeral? codec n = some m := by
  unfold number?
  constructor
  · intro h
    split at h
    · rename_i n read
      exact ⟨n, read, h⟩
    · cases h
  · rintro ⟨n, read, value⟩
    rw [read]
    exact value

/-- Floats are written as usual, and each numeral is read as the float that is nearest to it. -/
def nearest : FloatCodec where
  doubleText := standard.doubleText
  singleText := standard.singleText
  read? n := FloatFormat.double.ofDecimal? n.negative n.coefficient n.scale

/-- Read to the nearest float, the shortest text of a float gives back the float. -/
theorem keepsDouble_nearest {x : Binary} (h : FloatFormat.double.Holds x) :
    nearest.KeepsDouble x := by
  obtain ⟨n, read, float, value⟩ : ∃ n,
      Document.readNumeral? (nearest.doubleText x).toList = some (n, []) ∧
        n.integral = false ∧ nearest.read? n = some x :=
    DecimalStyle.readNumeral?_text h FloatFormat.reached_double _
  exact number?_eq_some_iff.2 ⟨n, read, by simp [Number.ofNumeral?, float, value]⟩

/-- Rounded more than once, the shortest text of a float may give a neighbour. -/
example : ¬ standard.KeepsDouble ⟨false, 8794761699453570, 1026⟩ := by decide +kernel

end FloatCodec

end FlowScript
