/-!
# Decimal numerals

Natural numbers as digits, most significant first, without leading zeros.

* `digits n` writes a number and `ofDigits` reads one; `ofDigits_digits` says that reading gives
  back what was written, so `digits` is injective;
* `count?` reads the looser form of counts in user data: an optional `+`, leading zeros allowed,
  bounded by `maxCount`.
-/

namespace FlowScript.Decimal

/-- The character of a digit below ten. -/
def digitChar (d : Nat) : Char := Char.ofNat (48 + d)

/-- The value of a digit character. -/
def digitValue (c : Char) : Nat := c.toNat - 48

/-- Write at most `fuel` digits of a number in front of others. -/
def digitsBefore : Nat → Nat → List Char → List Char
  | 0, _, rest => rest
  | fuel + 1, n, rest =>
    if n < 10 then digitChar n :: rest
    else digitsBefore fuel (n / 10) (digitChar (n % 10) :: rest)

/-- The decimal digits of a number. -/
def digits (n : Nat) : List Char := digitsBefore (n + 1) n []

/-- The number that a list of digits stands for. -/
def ofDigits (cs : List Char) : Nat := cs.foldl (fun n c => 10 * n + digitValue c) 0

/-- The decimal text of a number. -/
def text (n : Nat) : String := String.ofList (digits n)

/-- The decimal text of an integer, with a minus sign if it is negative. -/
def intText (z : Int) : String :=
  if z < 0 then "-" ++ text z.natAbs else text z.natAbs

/-- The largest count: what fits in 64 bits. -/
def maxCount : Nat := Nat.pow 2 64 - 1

/-- Read digits only, up to `maxCount`. -/
def bareCount? (cs : List Char) : Option Nat :=
  if cs ≠ [] ∧ cs.all Char.isDigit ∧ ofDigits cs ≤ maxCount then some (ofDigits cs) else none

/-- Read a count: digits with an optional leading `+`, up to `maxCount`. -/
def count? : List Char → Option Nat
  | '+' :: rest => bareCount? rest
  | cs => bareCount? cs

/-! ### Reading what was written -/

theorem digitValue_digitChar {d : Nat} (h : d < 10) : digitValue (digitChar d) = d := by
  have all : ∀ d < 10, digitValue (digitChar d) = d := by decide
  exact all d h

theorem isDigit_digitChar {d : Nat} (h : d < 10) : (digitChar d).isDigit = true := by
  have all : ∀ d < 10, (digitChar d).isDigit = true := by decide
  exact all d h

theorem digitsBefore_append (f n : Nat) (rest : List Char) :
    digitsBefore f n rest = digitsBefore f n [] ++ rest := by
  induction f generalizing n rest with
  | zero => rfl
  | succ f ih =>
    simp only [digitsBefore]
    split
    · rfl
    · rw [ih, ih _ [_], List.append_assoc, List.singleton_append]

theorem digitsBefore_eq (f g n : Nat) (rest : List Char) (hf : n < f) (hg : n < g) :
    digitsBefore f n rest = digitsBefore g n rest := by
  induction f generalizing g n rest with
  | zero => omega
  | succ f ih =>
    cases g with
    | zero => omega
    | succ g =>
      simp only [digitsBefore]
      split
      · rfl
      · rw [ih g (n / 10) _ (by omega) (by omega)]

/-- The digits of a number are those of its tenth part followed by its last one. -/
theorem digits_eq (n : Nat) :
    digits n = if n < 10 then [digitChar n] else digits (n / 10) ++ [digitChar (n % 10)] := by
  conv => lhs; unfold digits digitsBefore
  split
  · rfl
  · rw [digitsBefore_append, digitsBefore_eq n (n / 10 + 1) (n / 10) _ (by omega) (by omega)]
    rfl

theorem ofDigits_append_singleton (cs : List Char) (c : Char) :
    ofDigits (cs ++ [c]) = 10 * ofDigits cs + digitValue c := by
  simp [ofDigits, List.foldl_append]

theorem ofDigits_digits (n : Nat) : ofDigits (digits n) = n := by
  induction n using Nat.strongRecOn with
  | ind n ih =>
    rw [digits_eq]
    split
    · rename_i h
      simp [ofDigits, digitValue_digitChar h]
    · rw [ofDigits_append_singleton, ih (n / 10) (by omega), digitValue_digitChar (by omega)]
      omega

theorem digits_injective {m n : Nat} (h : digits m = digits n) : m = n := by
  rw [← ofDigits_digits m, h, ofDigits_digits]

theorem digits_ne_nil (n : Nat) : digits n ≠ [] := by
  rw [digits_eq]; split <;> simp

theorem isDigit_of_mem_digits {n : Nat} {c : Char} (h : c ∈ digits n) : c.isDigit = true := by
  induction n using Nat.strongRecOn with
  | ind n ih =>
    rw [digits_eq] at h
    split at h
    · rename_i hn
      simp only [List.mem_singleton] at h
      exact h ▸ isDigit_digitChar hn
    · simp only [List.mem_append, List.mem_singleton] at h
      rcases h with h | h
      · exact ih (n / 10) (by omega) h
      · exact h ▸ isDigit_digitChar (by omega)

/-- A count reads back from its own digits. -/
theorem count?_digits {n : Nat} (h : n ≤ maxCount) : count? (digits n) = some n := by
  have hplus : ∀ rest, digits n ≠ '+' :: rest := by
    intro rest e
    have := isDigit_of_mem_digits (n := n) (c := '+') (by rw [e]; simp)
    exact absurd this (by decide)
  have hall : (digits n).all Char.isDigit = true :=
    List.all_eq_true.2 fun c hc => isDigit_of_mem_digits hc
  unfold count?
  split
  · rename_i rest heq
    exact absurd heq (hplus rest)
  · unfold bareCount?
    rw [if_pos ⟨digits_ne_nil n, hall, by rw [ofDigits_digits]; exact h⟩, ofDigits_digits]

end FlowScript.Decimal
