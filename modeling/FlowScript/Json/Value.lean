import FlowScript.Json.Float

/-!
# JSON values and their compact text

Numbers keep their class: an integer literal that fits in 64 bits stays an integer, everything
else is a 64-bit float, for which a codec has the text.  `Json.compact` writes a value without
blanks, members in the order in which they stand.
-/

namespace FlowScript

/-- A JSON number: an integer between `-2 ^ 63` and `2 ^ 64 - 1`, or a finite float. -/
inductive Number
  | int (z : Int)
  | float (x : Binary)
  deriving DecidableEq

/-- A JSON value. -/
inductive Json
  | null
  | bool (b : Bool)
  | num (n : Number)
  | str (s : String)
  | arr (items : List Json)
  | obj (members : List (String × Json))
  deriving Inhabited

namespace Json

/-! ### Equality -/

mutual

/-- Decide whether two values are equal. -/
def decEq : (a b : Json) → Decidable (a = b)
  | .null, .null => isTrue rfl
  | .bool a, .bool b => decidable_of_iff (a = b) (by simp)
  | .num a, .num b => decidable_of_iff (a = b) (by simp)
  | .str a, .str b => decidable_of_iff (a = b) (by simp)
  | .arr a, .arr b => @decidable_of_iff _ (a = b) (by simp) (decEqItems a b)
  | .obj a, .obj b => @decidable_of_iff _ (a = b) (by simp) (decEqMembers a b)
  | .null, .bool _ | .null, .num _ | .null, .str _ | .null, .arr _ | .null, .obj _
  | .bool _, .null | .bool _, .num _ | .bool _, .str _ | .bool _, .arr _ | .bool _, .obj _
  | .num _, .null | .num _, .bool _ | .num _, .str _ | .num _, .arr _ | .num _, .obj _
  | .str _, .null | .str _, .bool _ | .str _, .num _ | .str _, .arr _ | .str _, .obj _
  | .arr _, .null | .arr _, .bool _ | .arr _, .num _ | .arr _, .str _ | .arr _, .obj _
  | .obj _, .null | .obj _, .bool _ | .obj _, .num _ | .obj _, .str _ | .obj _, .arr _ =>
    isFalse nofun

/-- Decide whether two lists of values are equal. -/
def decEqItems : (a b : List Json) → Decidable (a = b)
  | [], [] => isTrue rfl
  | [], _ :: _ | _ :: _, [] => isFalse nofun
  | x :: xs, y :: ys =>
    match decEq x y with
    | isFalse h => isFalse fun e => h (List.cons.inj e).1
    | isTrue h =>
      match decEqItems xs ys with
      | isFalse hs => isFalse fun e => hs (List.cons.inj e).2
      | isTrue hs => isTrue (h ▸ hs ▸ rfl)

/-- Decide whether two lists of members are equal. -/
def decEqMembers : (a b : List (String × Json)) → Decidable (a = b)
  | [], [] => isTrue rfl
  | [], _ :: _ | _ :: _, [] => isFalse nofun
  | (k, x) :: xs, (l, y) :: ys =>
    if hk : k = l then
      match decEq x y with
      | isFalse h => isFalse fun e => h (Prod.mk.inj (List.cons.inj e).1).2
      | isTrue h =>
        match decEqMembers xs ys with
        | isFalse hs => isFalse fun e => hs (List.cons.inj e).2
        | isTrue hs => isTrue (hk ▸ h ▸ hs ▸ rfl)
    else isFalse fun e => hk (Prod.mk.inj (List.cons.inj e).1).1

end

instance : DecidableEq Json := decEq

/-! ### Compact text -/

/-- The hexadecimal digit of a number below sixteen, in lower case. -/
def hexChar (d : Nat) : Char := Char.ofNat (if d < 10 then 48 + d else 87 + d)

/-- A character inside a string: quotes, backslashes and control characters are escaped. -/
def escapeChar (c : Char) : List Char :=
  if c = '"' then ['\\', '"']
  else if c = '\\' then ['\\', '\\']
  else if c = '\x08' then ['\\', 'b']
  else if c = '\x0c' then ['\\', 'f']
  else if c = '\n' then ['\\', 'n']
  else if c = '\r' then ['\\', 'r']
  else if c = '\t' then ['\\', 't']
  else if c.toNat < 0x20 then ['\\', 'u', '0', '0', hexChar (c.toNat / 16), hexChar (c.toNat % 16)]
  else [c]

/-- A string between quotes. -/
def quoted (s : String) : List Char := '"' :: (s.toList.flatMap escapeChar ++ ['"'])

/-- The text of a number. -/
def numberText (codec : FloatCodec) : Number → String
  | .int z => Decimal.intText z
  | .float x => codec.doubleText x

/-- The characters of a truth value. -/
def boolChars (b : Bool) : List Char :=
  if b then ['t', 'r', 'u', 'e'] else ['f', 'a', 'l', 's', 'e']

mutual

/-- The characters of a value. -/
def chars (codec : FloatCodec) : Json → List Char
  | .null => ['n', 'u', 'l', 'l']
  | .bool b => boolChars b
  | .num n => (numberText codec n).toList
  | .str s => quoted s
  | .arr [] => ['[', ']']
  | .arr (x :: xs) => '[' :: (x.chars codec ++ itemChars codec xs)
  | .obj [] => ['\x7b', '\x7d']
  | .obj ((k, x) :: ms) => '\x7b' :: (quoted k ++ ':' :: (x.chars codec ++ memberChars codec ms))

/-- The items after the first, with the closing bracket. -/
def itemChars (codec : FloatCodec) : List Json → List Char
  | [] => [']']
  | x :: xs => ',' :: (x.chars codec ++ itemChars codec xs)

/-- The members after the first, with the closing brace. -/
def memberChars (codec : FloatCodec) : List (String × Json) → List Char
  | [] => ['\x7d']
  | (k, x) :: ms => ',' :: (quoted k ++ ':' :: (x.chars codec ++ memberChars codec ms))

end

/-- The compact text of a value. -/
def compact (codec : FloatCodec) (j : Json) : String := String.ofList (j.chars codec)

end Json

end FlowScript
