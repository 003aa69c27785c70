import FlowScript.Decimal.Digits

/-!
# JSON documents

The syntax tree of a JSON text before any meaning is given to it: strings and numbers are kept
as spelled, members keep their order and their repetitions, and nesting has no limit.  What a
spelling stands for is decided when the document is decoded, so a value that nobody reads needs
valid syntax only.

* `Document.read?`: from text, refusing trailing characters;
* `unescape?`: the string that a spelling stands for, if its surrogates pair up.
-/

namespace FlowScript

/-- A number as spelled: the digits before and behind the point, and the exponent if there is
one. -/
structure Numeral where
  negative : Bool
  whole : List Char
  fraction : List Char
  exponent : Option Int
  deriving DecidableEq

namespace Numeral

/-- All digits as one number. -/
def coefficient (n : Numeral) : Nat := Decimal.ofDigits (n.whole ++ n.fraction)

/-- The power of ten with which the coefficient is multiplied. -/
def scale (n : Numeral) : Int := n.exponent.getD 0 - n.fraction.length

/-- Integer literals have neither a fraction nor an exponent. -/
def integral (n : Numeral) : Bool := n.fraction.isEmpty && n.exponent.isNone

end Numeral

/-- A JSON text, with strings as spelled between their quotes. -/
inductive Document
  | null
  | bool (b : Bool)
  | num (n : Numeral)
  | str (spelled : List Char)
  | arr (items : List Document)
  | obj (members : List (List Char × Document))
  deriving Inhabited

namespace Document

/-- The four blanks of the format. -/
def isBlank (c : Char) : Bool := c == ' ' || c == '\n' || c == '\t' || c == '\r'

/-- Drop leading blanks. -/
def skipBlanks (cs : List Char) : List Char := cs.dropWhile isBlank

/-- The value of a hexadecimal digit. -/
def hexValue? (c : Char) : Option Nat :=
  if '0' ≤ c ∧ c ≤ '9' then some (c.toNat - 48)
  else if 'a' ≤ c ∧ c ≤ 'f' then some (c.toNat - 87)
  else if 'A' ≤ c ∧ c ≤ 'F' then some (c.toNat - 55)
  else none

/-- The value of four hexadecimal digits. -/
def hexUnit? (a b c d : Char) : Option Nat := do
  return (((← hexValue? a) * 16 + (← hexValue? b)) * 16 + (← hexValue? c)) * 16 + (← hexValue? d)

/-- What a backslash and one character stand for. -/
def shortEscape? : Char → Option Char
  | '"' => some '"'
  | '\\' => some '\\'
  | '/' => some '/'
  | 'b' => some '\x08'
  | 'f' => some '\x0c'
  | 'n' => some '\n'
  | 'r' => some '\r'
  | 't' => some '\t'
  | _ => none

/-- The spelling of a string up to its closing quote, and what follows. -/
def readSpelled? : List Char → Option (List Char × List Char)
  | [] => none
  | '"' :: rest => some ([], rest)
  | '\\' :: 'u' :: a :: b :: c :: d :: rest =>
    if (hexUnit? a b c d).isSome then
      (readSpelled? rest).map fun (s, r) => ('\\' :: 'u' :: a :: b :: c :: d :: s, r)
    else none
  | '\\' :: e :: rest =>
    if (shortEscape? e).isSome then
      (readSpelled? rest).map fun (s, r) => ('\\' :: e :: s, r)
    else none
  | c :: rest =>
    if c.toNat < 0x20 then none else (readSpelled? rest).map fun (s, r) => (c :: s, r)

/-- The characters that a spelling stands for; a surrogate without its partner has none. -/
def unescape? : List Char → Option (List Char)
  | [] => some []
  | '\\' :: 'u' :: a :: b :: c :: d :: '\\' :: 'u' :: e :: f :: g :: h :: rest => do
    let hi ← hexUnit? a b c d
    if 0xd800 ≤ hi ∧ hi < 0xdc00 then
      let lo ← hexUnit? e f g h
      if 0xdc00 ≤ lo ∧ lo < 0xe000 then
        return Char.ofNat (0x10000 + (hi - 0xd800) * 0x400 + (lo - 0xdc00)) :: (← unescape? rest)
      else none
    else if 0xdc00 ≤ hi ∧ hi < 0xe000 then none
    else return Char.ofNat hi :: (← unescape? ('\\' :: 'u' :: e :: f :: g :: h :: rest))
  | '\\' :: 'u' :: a :: b :: c :: d :: rest => do
    let unit ← hexUnit? a b c d
    if 0xd800 ≤ unit ∧ unit < 0xe000 then none
    else return Char.ofNat unit :: (← unescape? rest)
  | '\\' :: e :: rest => do return (← shortEscape? e) :: (← unescape? rest)
  | c :: rest => do return c :: (← unescape? rest)

/-- The digits at the front and what follows. -/
def spanDigits (cs : List Char) : List Char × List Char := cs.span Char.isDigit

/-- The fraction of a number: its digits and what follows. -/
def readFraction? : List Char → Option (List Char × List Char)
  | '.' :: rest =>
    let (ds, rest) := spanDigits rest
    if ds.isEmpty then none else some (ds, rest)
  | rest => some ([], rest)

/-- An exponent without its mark: an optional sign and digits. -/
def readSigned? : List Char → Option (Int × List Char)
  | '-' :: rest =>
    let (ds, rest) := spanDigits rest
    if ds.isEmpty then none else some (-(Decimal.ofDigits ds : Int), rest)
  | '+' :: rest =>
    let (ds, rest) := spanDigits rest
    if ds.isEmpty then none else some ((Decimal.ofDigits ds : Int), rest)
  | rest =>
    let (ds, rest) := spanDigits rest
    if ds.isEmpty then none else some ((Decimal.ofDigits ds : Int), rest)

/-- The exponent of a number, if there is one, and what follows. -/
def readExponent? : List Char → Option (Option Int × List Char)
  | 'e' :: rest => (readSigned? rest).map fun (z, r) => (some z, r)
  | 'E' :: rest => (readSigned? rest).map fun (z, r) => (some z, r)
  | rest => some (none, rest)

/-- A number without its sign: no leading zeros, then fraction and exponent. -/
def readUnsigned? (negative : Bool) (cs : List Char) : Option (Numeral × List Char) := do
  let (whole, rest) := spanDigits cs
  if whole.isEmpty ∨ (whole.head? = some '0' ∧ 1 < whole.length) then none
  else
    let (fraction, rest) ← readFraction? rest
    let (exponent, rest) ← readExponent? rest
    return ({ negative, whole, fraction, exponent }, rest)

/-- A number and what follows. -/
def readNumeral? : List Char → Option (Numeral × List Char)
  | '-' :: rest => readUnsigned? true rest
  | cs => readUnsigned? false cs

mutual

/-- A value and what follows; `fuel` bounds the nesting. -/
def readValue? : Nat → List Char → Option (Document × List Char)
  | 0, _ => none
  | fuel + 1, cs =>
    match skipBlanks cs with
    | 'n' :: 'u' :: 'l' :: 'l' :: rest => some (.null, rest)
    | 't' :: 'r' :: 'u' :: 'e' :: rest => some (.bool true, rest)
    | 'f' :: 'a' :: 'l' :: 's' :: 'e' :: rest => some (.bool false, rest)
    | '"' :: rest => (readSpelled? rest).map fun (s, r) => (.str s, r)
    | '[' :: rest =>
      match skipBlanks rest with
      | ']' :: rest => some (.arr [], rest)
      | rest => (readItems? fuel rest).map fun (xs, r) => (.arr xs, r)
    | '\x7b' :: rest =>
      match skipBlanks rest with
      | '\x7d' :: rest => some (.obj [], rest)
      | rest => (readMembers? fuel rest).map fun (ms, r) => (.obj ms, r)
    | rest => (readNumeral? rest).map fun (n, r) => (.num n, r)

/-- One or more items up to the closing bracket, and what follows. -/
def readItems? : Nat → List Char → Option (List Document × List Char)
  | 0, _ => none
  | fuel + 1, cs => do
    let (x, rest) ← readValue? fuel cs
    match skipBlanks rest with
    | ',' :: rest => (readItems? fuel rest).map fun (xs, r) => (x :: xs, r)
    | ']' :: rest => some ([x], rest)
    | _ => none

/-- One or more members up to the closing brace, and what follows. -/
def readMembers? : Nat → List Char → Option (List (List Char × Document) × List Char)
  | 0, _ => none
  | fuel + 1, cs =>
    match skipBlanks cs with
    | '"' :: rest => do
      let (key, rest) ← readSpelled? rest
      match skipBlanks rest with
      | ':' :: rest =>
        let (x, rest) ← readValue? fuel rest
        match skipBlanks rest with
        | ',' :: rest => (readMembers? fuel rest).map fun (ms, r) => ((key, x) :: ms, r)
        | '\x7d' :: rest => some ([(key, x)], rest)
        | _ => none
      | _ => none
    | _ => none

end

/-- The three words are read as they stand. -/
theorem readValue?_words (fuel : Nat) (rest : List Char) :
    readValue? (fuel + 1) ('n' :: 'u' :: 'l' :: 'l' :: rest) = some (.null, rest) ∧
      readValue? (fuel + 1) ('t' :: 'r' :: 'u' :: 'e' :: rest) = some (.bool true, rest) ∧
      readValue? (fuel + 1) ('f' :: 'a' :: 'l' :: 's' :: 'e' :: rest) =
        some (.bool false, rest) := by
  simp [readValue?, skipBlanks, isBlank]

/-- The document of a text.  Two steps are enough for each character. -/
def ofChars? (cs : List Char) : Option Document := do
  let (d, rest) ← readValue? (2 * cs.length + 2) cs
  if (skipBlanks rest).isEmpty then some d else none

/-- The document of a text. -/
def read? (text : String) : Option Document := ofChars? text.toList

end Document

end FlowScript
