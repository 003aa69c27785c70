import FlowScript.Decimal.Digits
import FlowScript.Pattern.Tree
import FlowScript.Text.Blank
import FlowScript.Text.Word

/-!
# Escapes, counts and flags

The small parts of the text of a pattern.  In a verbose pattern blanks and comments may stand
nearly everywhere, also between the digits of a number: `gather` collects characters and passes
over them.

* `readEscape?`: what follows a backslash;
* `readBounds?`: the bounds of a repetition in braces;
* `readFlags?`, `readName?`: the head of a group.
-/

namespace FlowScript.Pattern

/-- Collect characters that pass a test, up to the first that does not; in a verbose text blanks
and comments are passed over.  The second argument tells whether a comment is open. -/
def gather (verbose : Bool) (test : Char → Bool) : Bool → List Char → List Char × List Char
  | _, [] => ([], [])
  | true, c :: cs => gather verbose test (c != '\n') cs
  | false, c :: cs =>
    if verbose && Text.isBlank c then gather verbose test false cs
    else if verbose && c == '#' then gather verbose test true cs
    else if test c then
      let (found, rest) := gather verbose test false cs
      (c :: found, rest)
    else ([], c :: cs)

/-- Drop blanks and comments of a verbose text. -/
def skip (verbose : Bool) (cs : List Char) : List Char :=
  if verbose then (gather true (fun _ => false) false cs).2 else cs

/-- The characters before a closing brace, and the text after it. -/
def untilBrace? (verbose : Bool) (cs : List Char) : Option (List Char × List Char) :=
  match gather verbose (· != '\x7d') false cs with
  | (found, _ :: rest) => some (found, rest)
  | _ => none

/-! ### Code points -/

/-- The value of a hexadecimal digit. -/
def hexValue? (c : Char) : Option Nat :=
  if c.isDigit then some (c.toNat - 48)
  else if 'a' ≤ c ∧ c ≤ 'f' then some (c.toNat - 87)
  else if 'A' ≤ c ∧ c ≤ 'F' then some (c.toNat - 55)
  else none

/-- The character with a code point in hexadecimal. -/
def ofHexDigits? (ds : List Char) : Option Char := do
  let values ← ds.mapM hexValue?
  let n := values.foldl (fun n d => 16 * n + d) 0
  if ds ≠ [] ∧ n.isValidChar then some (Char.ofNat n) else none

/-- A number of characters. -/
def takeExactly? (verbose : Bool) : Nat → List Char → Option (List Char × List Char)
  | 0, cs => some ([], skip verbose cs)
  | n + 1, cs =>
    match skip verbose cs with
    | [] => none
    | c :: rest => (takeExactly? verbose n rest).map fun (found, rest) => (c :: found, rest)

/-- A code point by a fixed number of digits, or by any number of digits in braces. -/
def readCodePoint? (verbose : Bool) (width : Nat) (cs : List Char) :
    Option (Letter × List Char) := do
  match skip verbose cs with
  | '\x7b' :: rest =>
    let (ds, rest) ← untilBrace? verbose rest
    return (⟨← ofHexDigits? ds, false⟩, skip verbose rest)
  | cs =>
    let (ds, rest) ← takeExactly? verbose width cs
    return (⟨← ofHexDigits? ds, width == 2⟩, rest)

/-! ### Properties -/

/-- Cut a text at the first place where a mark stands. -/
def cutAt? (mark : List Char) : List Char → Option (List Char × List Char)
  | [] => none
  | c :: cs =>
    if mark.isPrefixOf (c :: cs) then some ([], (c :: cs).drop mark.length)
    else (cutAt? mark cs).map fun (before, after) => (c :: before, after)

/-- The query in the braces of a property, and whether it is negated there. -/
def propertyOf (body : List Char) : Bool × Text.Property :=
  let valued (parts : List Char × List Char) : Text.Property :=
    .valued (String.ofList parts.1) (String.ofList parts.2)
  match cutAt? ['!', '='] body, cutAt? [':'] body, cutAt? ['='] body with
  | some parts, _, _ => (true, valued parts)
  | none, some parts, _ => (false, valued parts)
  | none, none, some parts => (false, valued parts)
  | none, none, none => (false, .named (String.ofList body))

/-- A property in braces, or one with a single letter. -/
def readProperty? (verbose negated : Bool) (cs : List Char) : Option (ClassTree × List Char) := do
  match skip verbose cs with
  | [] => none
  | '\\' :: _ => none
  | '\x7b' :: rest =>
    let (body, rest) ← untilBrace? verbose rest
    let (differs, p) := propertyOf body
    return (.property (negated != differs) p, rest)
  | c :: rest => return (.property negated (.named (String.singleton c)), skip verbose rest)

/-! ### Escapes -/

/-- What one item of a pattern stands for. -/
inductive Atom
  | letter (l : Letter)
  | set (c : ClassTree)
  | mark (m : Mark)

/-- Punctuation and control characters of ASCII may be escaped to stand for themselves. -/
def isEscapable (c : Char) : Bool :=
  c.toNat < 0x80 && !c.isAlphanum && c != '<' && c != '>'

/-- The boundaries named in braces after `\b`. -/
def namedBoundary? : String → Option Mark
  | "start" => some .wordStart
  | "end" => some .wordEnd
  | "start-half" => some .wordStartHalf
  | "end-half" => some .wordEndHalf
  | _ => none

/-- What follows `\b`: a boundary named in braces, or nothing. -/
def readBoundary? (verbose : Bool) : List Char → Option (Mark × List Char)
  | '\x7b' :: rest =>
    match skip verbose rest with
    | [] => none
    | c :: _ =>
      if c.isAlpha || c == '-' then do
        let (name, rest) ← untilBrace? verbose rest
        return (← namedBoundary? (String.ofList name), rest)
      else some (.boundary, '\x7b' :: rest)
  | rest => some (.boundary, rest)

/-- An escape after its backslash. -/
def readEscape? (verbose : Bool) : List Char → Option (Atom × List Char)
  | [] => none
  | c :: rest =>
    let letter (l : Char) : Option (Atom × List Char) := some (.letter ⟨l, false⟩, rest)
    let set (negated : Bool) (kind : Shorthand) : Option (Atom × List Char) :=
      some (.set (.shorthand negated kind), rest)
    let mark (m : Mark) : Option (Atom × List Char) := some (.mark m, rest)
    let code (width : Nat) : Option (Atom × List Char) :=
      (readCodePoint? verbose width rest).map fun (l, r) => (.letter l, r)
    match c with
    | 'x' => code 2
    | 'u' => code 4
    | 'U' => code 8
    | 'p' => (readProperty? verbose false rest).map fun (s, r) => (.set s, r)
    | 'P' => (readProperty? verbose true rest).map fun (s, r) => (.set s, r)
    | 'd' => set false .digit
    | 's' => set false .blank
    | 'w' => set false .word
    | 'D' => set true .digit
    | 'S' => set true .blank
    | 'W' => set true .word
    | 'a' => letter '\x07'
    | 'f' => letter '\x0c'
    | 't' => letter '\t'
    | 'n' => letter '\n'
    | 'r' => letter '\r'
    | 'v' => letter '\x0b'
    | 'A' => mark .textStart
    | 'z' => mark .textEnd
    | 'b' => (readBoundary? verbose rest).map fun (m, r) => (.mark m, r)
    | 'B' => mark .notBoundary
    | '<' => mark .wordStart
    | '>' => mark .wordEnd
    | c => if isEscapable c then letter c else none

/-! ### Bounds of a repetition -/

/-- A decimal bound below `2 ^ 32`, with blanks around it. -/
def readBound? (verbose : Bool) (cs : List Char) : Option (Nat × List Char) :=
  let (ds, rest) := gather verbose Char.isDigit false (cs.dropWhile Text.isBlank)
  let n := Decimal.ofDigits ds
  if ds ≠ [] ∧ n < Nat.pow 2 32 then some (n, rest.dropWhile Text.isBlank) else none

/-- The bounds of a repetition after its opening brace. -/
def readBounds? (verbose : Bool) (cs : List Char) : Option ((Nat × Option Nat) × List Char) := do
  let (least, rest) ← readBound? verbose (skip verbose cs)
  match rest with
  | '\x7d' :: rest => some ((least, some least), rest)
  | ',' :: rest =>
    match skip verbose rest with
    | '\x7d' :: rest => some ((least, none), rest)
    | rest =>
      let (most, rest) ← readBound? verbose rest
      match rest with
      | '\x7d' :: rest => if least ≤ most then some ((least, some most), rest) else none
      | _ => none
  | _ => none

/-- Whether a repetition takes as much as it can: a question mark after it says that it does not. -/
def readGreed : List Char → Bool × List Char
  | '?' :: rest => (false, rest)
  | rest => (true, rest)

/-! ### Heads of groups -/

/-- The switch with a letter. -/
def flag? : Char → Option Flag
  | 'i' => some .fold
  | 'm' => some .multiline
  | 's' => some .dotAll
  | 'U' => some .lazier
  | 'u' => some .unicode
  | 'R' => some .returns
  | 'x' => some .verbose
  | _ => none

/-- How far the flags of a group have been read: before a hyphen, right after it, or beyond. -/
inductive FlagPhase
  | on
  | hyphen
  | off
  deriving DecidableEq

/-- Flags up to `:` or `)`, each at most once, the second part after one hyphen and not empty; the
answer tells whether a parenthesis ends them, which needs at least one flag. -/
def readFlags? (phase : FlagPhase) (seen : FlagChange) :
    List Char → Option (FlagChange × Bool × List Char)
  | [] => none
  | ':' :: rest => if phase = .hyphen then none else some (seen, false, rest)
  | ')' :: rest => if phase = .hyphen ∨ seen = [] then none else some (seen, true, rest)
  | '-' :: rest => if phase = .on then readFlags? .hyphen seen rest else none
  | c :: rest => do
    let flag ← flag? c
    if seen.any (·.1 == flag) then none
    else readFlags? (if phase = .on then .on else .off) ((flag, decide (phase = .on)) :: seen) rest

/-- Whether a character may stand in a group name. -/
def isNameChar (first : Bool) (c : Char) : Bool :=
  c == '_' || Text.isAlphabetic c ||
    (!first && (c == '.' || c == '[' || c == ']' || Text.isNumeric c))

/-- A group name up to `>`. -/
def readName? (cs : List Char) : Option (String × List Char) :=
  let (name, rest) := cs.span (· != '>')
  match name, rest with
  | c :: more, '>' :: rest =>
    if isNameChar true c && more.all (isNameChar false) then some (String.ofList name, rest)
    else none
  | _, _ => none

end FlowScript.Pattern
