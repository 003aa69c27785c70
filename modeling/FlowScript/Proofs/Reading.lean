import FlowScript.Graph.Storage
import Mathlib.Data.List.Forall2
import Mathlib.Data.List.TakeDrop
import Mathlib.Data.List.TakeWhile

/-!
# Reading documents

How the characters of numbers, strings, arrays and objects are read, whatever stands behind them.
Everything is written without blanks; what is read is the document and what stands behind it.

* `Document.Delimits`: what may stand behind a value;
* `Document.readNumeral?_append`: a number ends at a delimiter;
* `Document.readSpelled?_spell`, `Document.unescaped?_spell`: a string is read up to its closing
  quote, and stands for itself;
* `Document.Reads`: characters that are read as a document; arrays and objects of such characters
  are read item by item.
-/

namespace FlowScript

namespace Document

/-! ### What stands behind a value -/

/-- Behind a value there is nothing, a comma, or a closing bracket or brace. -/
def Delimits : List Char → Prop
  | [] => True
  | c :: _ => c = ',' ∨ c = ']' ∨ c = '\x7d'

theorem Delimits.ne_cons {rest : List Char} (h : Delimits rest) {c : Char} (t : List Char)
    (other : ¬ (c = ',' ∨ c = ']' ∨ c = '\x7d')) : rest ≠ c :: t := by
  rintro rfl
  exact other h

/-- What does not start with a character does not start with it when delimited. -/
theorem Delimits.append_ne_cons {cs rest : List Char} (h : Delimits rest) {c : Char}
    (other : ¬ (c = ',' ∨ c = ']' ∨ c = '\x7d')) (start : ∀ t, cs ≠ c :: t) (t : List Char) :
    cs ++ rest ≠ c :: t := by
  cases cs with
  | nil => exact h.ne_cons t other
  | cons d cs =>
    intro same
    exact start cs (by rw [(List.cons.inj same).1])

theorem skipBlanks_cons {c : Char} (h : isBlank c = false) (cs : List Char) :
    skipBlanks (c :: cs) = c :: cs := by
  simp [skipBlanks, h]

/-! ### Numbers -/

variable {cs rest r : List Char}

/-- Digits end before a delimiter. -/
theorem Delimits.stop (h : Delimits rest) : ∀ c ∈ rest.head?, c.isDigit = false := by
  cases rest with
  | nil => simp
  | cons c t =>
    rintro _ ⟨⟩
    rcases h with rfl | rfl | rfl <;> decide

theorem spanDigits_of_stop (stop : ∀ c ∈ rest.head?, c.isDigit = false) :
    spanDigits rest = ([], rest) := by
  cases rest with
  | nil => rfl
  | cons c t => simp [spanDigits, List.span_eq_takeWhile_dropWhile, stop c rfl]

theorem spanDigits_append (stop : ∀ c ∈ rest.head?, c.isDigit = false) (cs : List Char) :
    spanDigits (cs ++ rest) = ((spanDigits cs).1, (spanDigits cs).2 ++ rest) := by
  induction cs with
  | nil => exact spanDigits_of_stop stop
  | cons c cs ih =>
    simp only [spanDigits, List.span_eq_takeWhile_dropWhile, List.cons_append, Prod.mk.injEq,
      List.takeWhile_cons, List.dropWhile_cons] at ih ⊢
    split <;> simp [ih]

theorem spanDigits_of_all (all : ∀ c ∈ cs, c.isDigit = true) : spanDigits cs = (cs, []) := by
  rw [spanDigits, List.span_eq_takeWhile_dropWhile, List.dropWhile_eq_nil_iff.2 all,
    List.takeWhile_eq_self_iff.2 all]

theorem spanDigits_append_of_all (all : ∀ c ∈ cs, c.isDigit = true)
    (stop : ∀ c ∈ rest.head?, c.isDigit = false) : spanDigits (cs ++ rest) = (cs, rest) := by
  rw [spanDigits_append stop, spanDigits_of_all all, List.nil_append]

theorem readFraction?_of_ne (h : ∀ t, cs ≠ '.' :: t) : readFraction? cs = some ([], cs) := by
  fun_cases readFraction? cs with
  | case1 t | case2 t => exact absurd rfl (h t)
  | case3 => rfl

theorem readFraction?_append (h : Delimits rest) {ds : List Char}
    (read : readFraction? cs = some (ds, r)) :
    readFraction? (cs ++ rest) = some (ds, r ++ rest) := by
  revert read
  fun_cases readFraction? cs with
  | case1 => simp
  | case2 cs ds' r' span some =>
    rintro ⟨⟩
    simp [readFraction?, spanDigits_append h.stop, span, some]
  | case3 cs other =>
    rintro ⟨⟩
    exact readFraction?_of_ne (h.append_ne_cons (by decide) other)

theorem readSigned?_of_ne (minus : ∀ t, cs ≠ '-' :: t) (plus : ∀ t, cs ≠ '+' :: t) :
    readSigned? cs = if (spanDigits cs).1.isEmpty then none
      else some ((Decimal.ofDigits (spanDigits cs).1 : Int), (spanDigits cs).2) := by
  unfold readSigned?
  split
  · exact absurd rfl (minus _)
  · exact absurd rfl (plus _)
  · rfl

theorem readSigned?_append (h : Delimits rest) {z : Int}
    (read : readSigned? cs = some (z, r)) : readSigned? (cs ++ rest) = some (z, r ++ rest) := by
  revert read
  fun_cases readSigned? cs with
  | case1 | case3 | case5 => simp
  | case2 cs ds' r' span some | case4 cs ds' r' span some =>
    rintro ⟨⟩
    simp [readSigned?, spanDigits_append h.stop, span, some]
  | case6 cs minus plus ds' r' span some =>
    rintro ⟨⟩
    rw [readSigned?_of_ne (h.append_ne_cons (by decide) minus)
      (h.append_ne_cons (by decide) plus)]
    simp [spanDigits_append h.stop, span, some]

theorem readExponent?_of_ne (lower : ∀ t, cs ≠ 'e' :: t) (upper : ∀ t, cs ≠ 'E' :: t) :
    readExponent? cs = some (none, cs) := by
  unfold readExponent?
  split
  · exact absurd rfl (lower _)
  · exact absurd rfl (upper _)
  · rfl

theorem readExponent?_append (h : Delimits rest) {z : Option Int}
    (read : readExponent? cs = some (z, r)) : readExponent? (cs ++ rest) = some (z, r ++ rest) := by
  revert read
  fun_cases readExponent? cs with
  | case1 cs | case2 cs =>
    intro read
    obtain ⟨⟨z, r⟩, signed, ⟨⟩⟩ := Option.map_eq_some_iff.1 read
    simp [readExponent?, readSigned?_append h signed]
  | case3 cs lower upper =>
    rintro ⟨⟩
    exact readExponent?_of_ne (h.append_ne_cons (by decide) lower)
      (h.append_ne_cons (by decide) upper)

theorem readUnsigned?_append (h : Delimits rest) {negative : Bool} {n : Numeral}
    (read : readUnsigned? negative cs = some (n, r)) :
    readUnsigned? negative (cs ++ rest) = some (n, r ++ rest) := by
  simp only [readUnsigned?, spanDigits_append h.stop] at read ⊢
  split at read
  · cases read
  · rename_i whole
    rw [if_neg whole]
    obtain ⟨⟨fraction, r₁⟩, hf, read⟩ := Option.bind_eq_some_iff.1 read
    obtain ⟨⟨exponent, r₂⟩, he, read⟩ := Option.bind_eq_some_iff.1 read
    cases read
    simp [readFraction?_append h hf, readExponent?_append h he]

theorem readNumeral?_of_ne (h : ∀ t, cs ≠ '-' :: t) :
    readNumeral? cs = readUnsigned? false cs := by
  unfold readNumeral?
  split
  · exact absurd rfl (h _)
  · rfl

/-- What stands behind a number does not change how it is read. -/
theorem readNumeral?_append (h : Delimits rest) {n : Numeral}
    (read : readNumeral? cs = some (n, r)) : readNumeral? (cs ++ rest) = some (n, r ++ rest) := by
  revert read
  fun_cases readNumeral? cs with
  | case1 cs => exact readUnsigned?_append h
  | case2 cs other =>
    rw [readNumeral?_of_ne (h.append_ne_cons (by decide) other)]
    exact readUnsigned?_append h

/-- A number starts with a minus sign or a digit. -/
theorem exists_cons_of_readNumeral? {n : Numeral} (read : readNumeral? cs = some (n, r)) :
    ∃ c t, cs = c :: t ∧ (c = '-' ∨ c.isDigit = true) := by
  revert read
  fun_cases readNumeral? cs with
  | case1 t => exact fun _ => ⟨_, _, rfl, .inl rfl⟩
  | case2 cs other =>
    intro read
    cases cs with
    | nil => cases read
    | cons c t =>
      refine ⟨c, t, rfl, .inr ?_⟩
      by_contra hc
      simp [readUnsigned?, spanDigits, List.span_eq_takeWhile_dropWhile, hc] at read

theorem readNumeral?_of_readUnsigned? {result : Numeral × List Char}
    (read : readUnsigned? false cs = some result) : readNumeral? cs = some result := by
  rw [readNumeral?_of_ne, read]
  rintro t rfl
  simp [readUnsigned?, spanDigits, List.span_eq_takeWhile_dropWhile] at read

theorem head?_digits_ne_zero {n : Nat} (h : 0 < n) : (Decimal.digits n).head? ≠ some '0' := by
  induction n using Nat.strongRecOn with
  | ind n ih =>
    rw [Decimal.digits_eq]
    split
    · rename_i small
      have all : ∀ d < 10, 0 < d → [Decimal.digitChar d].head? ≠ some '0' := by decide
      exact all n small h
    · rw [List.head?_append_of_ne_nil _ (Decimal.digits_ne_nil _)]
      exact ih (n / 10) (by omega) (by omega)

@[simp] theorem coefficient_digits (negative : Bool) (n : Nat) :
    Numeral.coefficient ⟨negative, Decimal.digits n, [], none⟩ = n := by
  simp [Numeral.coefficient, Decimal.ofDigits_digits]

@[simp] theorem integral_digits (negative : Bool) (n : Nat) :
    Numeral.integral ⟨negative, Decimal.digits n, [], none⟩ = true := rfl

/-- A number in its parts: digits before the point, digits behind it, and an exponent. -/
theorem readUnsigned?_eq {whole fraction r₁ r₂ : List Char} {exponent : Option Int}
    (negative : Bool) (span : spanDigits cs = (whole, r₁)) (some : whole ≠ [])
    (plain : ¬ (whole.head? = .some '0' ∧ 1 < whole.length))
    (behind : readFraction? r₁ = .some (fraction, r₂))
    (last : readExponent? r₂ = .some (exponent, r)) :
    readUnsigned? negative cs = .some (⟨negative, whole, fraction, exponent⟩, r) := by
  have start : ¬ (whole.isEmpty ∨ whole.head? = .some '0' ∧ 1 < whole.length) := by
    simpa [some] using plain
  simp only [readUnsigned?, span, if_neg start, behind, Option.bind_eq_bind, Option.bind_some, last]
  rfl

theorem readUnsigned?_digits (negative : Bool) (n : Nat) :
    readUnsigned? negative (Decimal.digits n) =
      some (⟨negative, Decimal.digits n, [], none⟩, []) := by
  have plain : ¬ ((Decimal.digits n).head? = some '0' ∧ 1 < (Decimal.digits n).length) := by
    rintro ⟨zero, long⟩
    obtain rfl | pos := Nat.eq_zero_or_pos n
    · exact absurd long (by decide)
    · exact head?_digits_ne_zero pos zero
  have span := spanDigits_of_all fun c => Decimal.isDigit_of_mem_digits (n := n)
  exact readUnsigned?_eq negative span (Decimal.digits_ne_nil n) plain
    (readFraction?_of_ne (by simp)) (readExponent?_of_ne (by simp) (by simp))

theorem readNumeral?_digits (n : Nat) :
    readNumeral? (Decimal.digits n) = some (⟨false, Decimal.digits n, [], none⟩, []) :=
  readNumeral?_of_readUnsigned? (readUnsigned?_digits false n)

/-! ### Strings -/

theorem hexValue?_hexChar {d : Nat} (h : d < 16) : hexValue? (Json.hexChar d) = some d := by
  have all : ∀ d < 16, hexValue? (Json.hexChar d) = some d := by decide
  exact all d h

/-- A character inside a string is written as itself, by a short escape, or by its number. -/
theorem escapeChar_cases (c : Char) :
    (∃ e, Json.escapeChar c = ['\\', e] ∧ e ≠ 'u' ∧ shortEscape? e = some c) ∨
      (∃ h l, Json.escapeChar c = ['\\', 'u', '0', '0', h, l] ∧
        hexUnit? '0' '0' h l = some c.toNat ∧ c.toNat < 0x20) ∨
      (Json.escapeChar c = [c] ∧ c ≠ '"' ∧ c ≠ '\\' ∧ ¬ c.toNat < 0x20) := by
  by_cases short : c = '"' ∨ c = '\\' ∨ c = '\x08' ∨ c = '\x0c' ∨ c = '\n' ∨ c = '\r' ∨ c = '\t'
  · left
    rcases short with rfl | rfl | rfl | rfl | rfl | rfl | rfl
    all_goals exact ⟨_, rfl, by decide, rfl⟩
  · right
    simp only [not_or] at short
    obtain ⟨quote, slash, b, f, n, r, t⟩ := short
    simp only [Json.escapeChar, quote, slash, b, f, n, r, t, ↓reduceIte]
    by_cases control : c.toNat < 0x20
    · left
      refine ⟨_, _, by rw [if_pos control], ?_, control⟩
      rw [hexUnit?, hexValue?_hexChar (by omega), hexValue?_hexChar (by omega)]
      simp [hexValue?]
      omega
    · exact .inr ⟨by rw [if_neg control], quote, slash, control⟩

theorem readSpelled?_escapeChar (c : Char) (rest : List Char) :
    readSpelled? (Json.escapeChar c ++ rest) =
      (readSpelled? rest).map fun (s, r) => (Json.escapeChar c ++ s, r) := by
  rcases escapeChar_cases c with ⟨e, text, plain, escape⟩ | ⟨h, l, text, unit, control⟩ |
    ⟨text, quote, slash, control⟩
  · simp [text, readSpelled?, plain, escape]
  · simp [text, readSpelled?, unit]
  · simp [text, readSpelled?, slash, control]

/-- A character number outside the surrogates is read by itself, also before another one. -/
theorem unescape?_unit {a b c d : Char} {unit : Nat} (read : hexUnit? a b c d = some unit)
    (plain : unit < 0xd800) (rest : List Char) :
    unescape? ('\\' :: 'u' :: a :: b :: c :: d :: rest) =
      (unescape? rest).map (Char.ofNat unit :: ·) := by
  have low : ¬ 0xd800 ≤ unit := by omega
  have high : ¬ 0xdc00 ≤ unit := by omega
  by_cases another : ∃ e f g h t, rest = '\\' :: 'u' :: e :: f :: g :: h :: t
  · obtain ⟨e, f, g, h, t, rfl⟩ := another
    rw [unescape?]
    simp only [read, Option.bind_eq_bind, Option.bind_some, low, high, false_and, ↓reduceIte,
      Option.map_eq_bind]
    rfl
  · simp only [not_exists] at another
    rw [unescape?]
    · simp only [read, Option.bind_eq_bind, Option.bind_some, low, false_and, ↓reduceIte,
        Option.map_eq_bind]
      rfl
    · exact another

theorem unescape?_escapeChar (c : Char) (rest : List Char) :
    unescape? (Json.escapeChar c ++ rest) = (unescape? rest).map (c :: ·) := by
  rcases escapeChar_cases c with ⟨e, text, plain, escape⟩ | ⟨h, l, text, unit, control⟩ |
    ⟨text, quote, slash, control⟩
  · simp only [text, List.cons_append, List.nil_append]
    rw [unescape?]
    · rw [escape, Option.map_eq_bind]
      rfl
    · simp [plain]
    · simp [plain]
  · rw [text]
    simpa using unescape?_unit unit (by omega) rest
  · simp only [text, List.cons_append, List.nil_append]
    rw [unescape?]
    · rw [Option.map_eq_bind]
      rfl
    all_goals simp [slash]

/-- The spelling of a string. -/
def spell (s : String) : List Char := s.toList.flatMap Json.escapeChar

theorem readSpelled?_spell (s : String) (rest : List Char) :
    readSpelled? (spell s ++ '"' :: rest) = some (spell s, rest) := by
  unfold spell
  induction s.toList with
  | nil => simp [readSpelled?]
  | cons c cs ih => simp [readSpelled?_escapeChar, ih]

@[simp] theorem unescaped?_spell (s : String) : unescaped? (spell s) = some s := by
  have read : unescape? (spell s) = some s.toList := by
    unfold spell
    induction s.toList with
    | nil => rfl
    | cons c cs ih => simp [unescape?_escapeChar, ih]
  rw [unescaped?, read]
  simp

/-! ### Values -/

/-- Characters that are read as a document, whatever stands behind them. -/
structure Reads (cs : List Char) (doc : Document) : Prop where
  start : ∃ c t, cs = c :: t ∧ isBlank c = false ∧ c ≠ ']'
  read : ∀ fuel rest, 2 * cs.length ≤ fuel → Delimits rest →
    readValue? (fuel + 1) (cs ++ rest) = some (doc, rest)

theorem commaChars_cons_cons (x y : List Char) (ys : List (List Char)) :
    Json.commaChars (x :: y :: ys) = x ++ ',' :: Json.commaChars (y :: ys) := rfl

namespace Reads

open Json

variable {doc : Document}

theorem bool (b : Bool) : Reads (boolChars b) (.bool b) where
  start := by cases b <;> exact ⟨_, _, rfl, by decide, by decide⟩
  read fuel rest _ _ := by
    obtain ⟨-, yes, no⟩ := readValue?_words fuel rest
    cases b
    · exact no
    · exact yes

theorem null : Reads ['n', 'u', 'l', 'l'] .null where
  start := ⟨_, _, rfl, by decide, by decide⟩
  read fuel rest _ _ := (readValue?_words fuel rest).1

theorem string (s : String) : Reads (quoted s) (.str (spell s)) where
  start := ⟨_, _, rfl, by decide, by decide⟩
  read fuel rest _ _ := by
    have text : quoted s ++ rest = '"' :: (spell s ++ '"' :: rest) := by simp [quoted, spell]
    rw [text, readValue?, skipBlanks_cons (by decide)]
    simp [readSpelled?_spell]

theorem numeral {n : Numeral} (h : readNumeral? cs = some (n, [])) : Reads cs (.num n) := by
  obtain ⟨c, t, rfl, head⟩ := exists_cons_of_readNumeral? h
  have other : ∀ x, ¬ (x = '-' ∨ x.isDigit = true) → c ≠ x := by
    rintro x hx rfl
    exact hx head
  have blank : isBlank c = false := by
    simp [isBlank, other ' ' (by decide), other '\n' (by decide), other '\t' (by decide),
      other '\r' (by decide)]
  refine ⟨⟨c, t, rfl, blank, other ']' (by decide)⟩, fun fuel rest _ delimits => ?_⟩
  have read := readNumeral?_append delimits h
  rw [readValue?, List.cons_append, skipBlanks_cons blank]
  split
  case h_7 => simpa using read
  all_goals
    rename_i same
    exact absurd (List.cons.inj same).1 (other _ (by decide))

/-- One or more items are read up to the closing bracket. -/
theorem items {texts : List (List Char)} {docs : List Document}
    (h : List.Forall₂ Reads texts docs) (some : texts ≠ []) (fuel : Nat) (rest : List Char)
    (enough : 2 * (commaChars texts).length + 2 ≤ fuel) :
    readItems? fuel (commaChars texts ++ ']' :: rest) = .some (docs, rest) := by
  induction h generalizing fuel with
  | nil => contradiction
  | @cons text doc texts docs read reads ih =>
    obtain ⟨fuel, rfl⟩ : ∃ k, fuel = k + 2 := ⟨fuel - 2, by omega⟩
    cases reads with
    | nil =>
      simp only [commaChars] at enough
      have value := read.read fuel (']' :: rest) (by omega) (.inr (.inl rfl))
      rw [commaChars, readItems?, value]
      simp [skipBlanks_cons (c := ']') (by decide)]
    | @cons next _ texts _ read' reads =>
      rw [commaChars_cons_cons] at enough ⊢
      simp only [List.length_append, List.length_cons] at enough
      have value := read.read fuel (',' :: (commaChars (next :: texts) ++ ']' :: rest)) (by omega)
        (.inl rfl)
      have tail := ih (by simp) (fuel + 1) (by omega)
      rw [List.append_assoc, List.cons_append, readItems?, value]
      simp [skipBlanks_cons (c := ',') (by decide), tail]

theorem start_commaChars {texts : List (List Char)} {docs : List Document}
    (h : List.Forall₂ Reads texts docs) (some : texts ≠ []) :
    ∃ c t, commaChars texts = c :: t ∧ isBlank c = false ∧ c ≠ ']' := by
  cases h with
  | nil => contradiction
  | cons read reads =>
    obtain ⟨c, t, rfl, head⟩ := read.start
    cases reads with
    | nil => exact ⟨c, t, rfl, head⟩
    | cons => exact ⟨c, _, rfl, head⟩

theorem array {texts : List (List Char)} {docs : List Document}
    (h : List.Forall₂ Reads texts docs) : Reads (arrayChars texts) (.arr docs) := by
  refine ⟨⟨_, _, rfl, by decide, by decide⟩, fun fuel rest enough _ => ?_⟩
  have text : arrayChars texts ++ rest = '[' :: (commaChars texts ++ ']' :: rest) := by
    simp [arrayChars]
  simp only [arrayChars, List.length_cons, List.length_append] at enough
  rw [text, readValue?, skipBlanks_cons (by decide)]
  by_cases none : texts = []
  · subst none
    cases h
    simp [commaChars, skipBlanks_cons (c := ']') (by decide)]
  · obtain ⟨c, t, start, blank, close⟩ := start_commaChars h none
    have read := items h none fuel rest (by omega)
    rw [start, List.cons_append] at read ⊢
    simp only [skipBlanks_cons blank]
    split
    · rename_i same
      exact absurd (List.cons.inj same).1 close
    · simp [read]

/-- Members that are read one by one, under their names. -/
def Named (texts : List (String × List Char)) (docs : List (String × Document)) : Prop :=
  List.Forall₂ (fun text doc => text.1 = doc.1 ∧ Reads text.2 doc.2) texts docs

/-- The characters of a member. -/
def namedChars (member : String × List Char) : List Char := quoted member.1 ++ ':' :: member.2

theorem objectChars_eq (texts : List (String × List Char)) :
    objectChars texts = '\x7b' :: (commaChars (texts.map namedChars) ++ ['\x7d']) := rfl

theorem namedChars_append (name : String) (text rest : List Char) :
    namedChars (name, text) ++ rest = '"' :: (spell name ++ '"' :: ':' :: (text ++ rest)) := by
  simp [namedChars, quoted, spell]

theorem length_le_namedChars (name : String) (text : List Char) :
    text.length ≤ (namedChars (name, text)).length := by
  simp [namedChars]
  omega

/-- One or more members are read up to the closing brace. -/
theorem members {texts : List (String × List Char)} {docs : List (String × Document)}
    (h : Named texts docs) (some : texts ≠ []) (fuel : Nat) (rest : List Char)
    (enough : 2 * (commaChars (texts.map namedChars)).length + 2 ≤ fuel) :
    readMembers? fuel (commaChars (texts.map namedChars) ++ '\x7d' :: rest) =
      .some (docs.map fun (k, x) => (spell k, x), rest) := by
  induction h generalizing fuel with
  | nil => contradiction
  | @cons text doc texts docs read reads ih =>
    obtain ⟨name, text⟩ := text
    obtain ⟨_, doc⟩ := doc
    obtain ⟨rfl, read⟩ := read
    dsimp only at read
    obtain ⟨fuel, rfl⟩ : ∃ k, fuel = k + 2 := ⟨fuel - 2, by omega⟩
    have short := length_le_namedChars name text
    cases reads with
    | nil =>
      simp only [List.map_cons, List.map_nil, commaChars] at enough ⊢
      have value := read.read fuel ('\x7d' :: rest) (by omega) (.inr (.inr rfl))
      rw [namedChars_append, readMembers?, skipBlanks_cons (by decide)]
      simp [readSpelled?_spell, skipBlanks_cons (c := ':') (by decide), value,
        skipBlanks_cons (c := '\x7d') (by decide)]
    | @cons next _ texts _ read' reads =>
      simp only [List.map_cons, commaChars_cons_cons, List.length_append, List.length_cons]
        at enough ih ⊢
      have value := read.read fuel
        (',' :: (commaChars (namedChars next :: texts.map namedChars) ++ '\x7d' :: rest))
        (by omega) (.inl rfl)
      have tail := ih (by simp) (fuel + 1) (by omega)
      rw [List.append_assoc, List.cons_append, namedChars_append, readMembers?,
        skipBlanks_cons (by decide)]
      simp [readSpelled?_spell, skipBlanks_cons (c := ':') (by decide), value,
        skipBlanks_cons (c := ',') (by decide), tail]

theorem start_members (text : String × List Char) (texts : List (String × List Char)) :
    ∃ t, commaChars ((text :: texts).map namedChars) = '"' :: t := by
  cases texts with
  | nil => exact ⟨_, rfl⟩
  | cons => exact ⟨_, rfl⟩

theorem object {texts : List (String × List Char)} {docs : List (String × Document)}
    (h : Named texts docs) :
    Reads (objectChars texts) (.obj (docs.map fun (k, x) => (spell k, x))) := by
  refine ⟨⟨_, _, rfl, by decide, by decide⟩, fun fuel rest enough _ => ?_⟩
  rw [objectChars_eq] at enough ⊢
  simp only [List.length_cons, List.length_append] at enough
  rw [List.cons_append, List.append_assoc, readValue?, skipBlanks_cons (by decide)]
  cases texts with
  | nil =>
    cases h
    simp [commaChars, skipBlanks_cons (c := '\x7d') (by decide)]
  | cons text texts =>
    obtain ⟨t, start⟩ := start_members text texts
    have read := members h (by simp) fuel rest (by omega)
    rw [start, List.cons_append] at read ⊢
    simp [skipBlanks_cons (c := '"') (by decide), read]

/-- A text that is read to its end is the text of the document. -/
theorem ofChars? (h : Reads cs doc) : Document.ofChars? cs = some doc := by
  have read := h.read (2 * cs.length + 1) [] (by omega) trivial
  rw [List.append_nil] at read
  rw [Document.ofChars?, read]
  rfl

end Reads

end Document

end FlowScript
