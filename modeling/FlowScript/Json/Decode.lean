import FlowScript.Json.Document
import FlowScript.Json.Value
import FlowScript.OrderedMap

/-!
# Decoding documents

A decoder turns a document into a value of a domain type or refuses it.  It is given the number
of containers that may still be opened: only containers that are decoded count, so a skipped
member may nest as deep as it likes.

* `Decoder.record`: a structure, written as an object or as an array of its fields in order;
  unknown members are skipped, a known one may occur once;
* `Decoder.json`: any value, the members of its objects sorted by key.
-/

namespace FlowScript

/-- A reader of documents; the number is how many containers may still be opened. -/
abbrev Decoder (α : Type) := Nat → Document → Option α

/-- The string that a spelling stands for. -/
def Document.unescaped? (spelled : List Char) : Option String :=
  (unescape? spelled).map String.ofList

/-- The number that a numeral stands for; a float beyond the largest one is refused. -/
def Number.ofNumeral? (codec : FloatCodec) (n : Numeral) : Option Number :=
  if n.integral ∧ ¬ n.negative ∧ n.coefficient < Nat.pow 2 64 then some (.int n.coefficient)
  else if n.integral ∧ n.negative ∧ 0 < n.coefficient ∧ n.coefficient ≤ Nat.pow 2 63 then
    some (.int (-n.coefficient))
  else (codec.read? n).map .float

namespace Decoder

variable {α β : Type}

/-- How many containers a document may open on the way to a value. -/
def depthLimit : Nat := 127

/-- Decode a text. -/
def run? (d : Decoder α) (text : String) : Option α := do d depthLimit (← Document.read? text)

/-- A string. -/
def string : Decoder String
  | _, .str s => Document.unescaped? s
  | _, _ => none

/-- A truth value. -/
def bool : Decoder Bool
  | _, .bool b => some b
  | _, _ => none

/-- An integer literal from zero to a bound. -/
def nat (bound : Nat) : Decoder Nat
  | _, .num n =>
    if n.integral ∧ ¬ n.negative ∧ n.coefficient ≤ bound then some n.coefficient else none
  | _, _ => none

/-- A value that may be `null`. -/
def optional (d : Decoder α) : Decoder (Option α)
  | _, .null => some none
  | depth, x => (d depth x).map some

/-- An array of values of one kind. -/
def list (d : Decoder α) : Decoder (List α)
  | depth + 1, .arr xs => xs.mapM (d depth)
  | _, _ => none

/-- An array of exactly two values of one kind. -/
def pair (d : Decoder α) : Decoder (α × α)
  | depth + 1, .arr [x, y] => do return (← d depth x, ← d depth y)
  | _, _ => none

/-- An object as a map: a repeated key keeps its first place and takes its last value. -/
def mapBy {κ : Type} [DecidableEq κ] (key : List Char → Option κ) (d : Decoder α) :
    Decoder (OrderedMap κ α)
  | depth + 1, .obj ms => do
    let entries ← ms.mapM fun (k, x) => do return (← key k, ← d depth x)
    return .ofList entries
  | _, _ => none

/-- An object with string keys as a map. -/
def map (d : Decoder α) : Decoder (OrderedMap String α) := mapBy Document.unescaped? d

/-- The members of a record that are present, under their field names. -/
structure Fields where
  depth : Nat
  present : List (String × Document)

/-- A field that must be there. -/
def Fields.need (f : Fields) (name : String) (d : Decoder α) : Option α := do
  d f.depth (← f.present.lookup name)

/-- A field that has a default. -/
def Fields.getD (f : Fields) (name : String) (d : Decoder α) (default : α) : Option α :=
  match f.present.lookup name with
  | none => some default
  | some x => d f.depth x

/-- A field that is absent by default and may be `null`. -/
def Fields.get? (f : Fields) (name : String) (d : Decoder α) : Option (Option α) :=
  f.getD name (optional d) none

/-- The members of an object or the items of an array, under the declared field names. -/
def fields? (names : List String) : Decoder Fields
  | depth + 1, .obj ms => do
    let members ← ms.mapM fun (k, x) => do return (← Document.unescaped? k, x)
    let known := members.filter fun m => names.contains m.1
    if (known.map Prod.fst).Nodup then some ⟨depth, known⟩ else none
  | depth + 1, .arr xs => if xs.length ≤ names.length then some ⟨depth, names.zip xs⟩ else none
  | _, _ => none

/-- A record with the given field names. -/
def record (names : List String) (build : Fields → Option α) : Decoder α := fun depth x => do
  build (← fields? names depth x)

/-- A choice named by a string, or by an object with that one member. -/
def choice (plain : String → Option α) (tagged : String → Decoder α) : Decoder α
  | _, .str s => do plain (← Document.unescaped? s)
  | depth + 1, .obj [(k, x)] => do tagged (← Document.unescaped? k) depth x
  | _, _ => none

/-- Nothing but `null`. -/
def null (value : α) : Decoder α
  | _, .null => some value
  | _, _ => none

/-- Put a member in its place among sorted ones, unless its key is there already. -/
def place (k : String) (v : Json) : List (String × Json) → List (String × Json)
  | [] => [(k, v)]
  | (k', v') :: rest =>
    if k < k' then (k, v) :: (k', v') :: rest
    else if k' < k then (k', v') :: place k v rest
    else (k', v') :: rest

mutual

/-- Any value; the members of an object are sorted by key, the last of equal keys winning. -/
def json (codec : FloatCodec) : Decoder Json
  | _, .null => some .null
  | _, .bool b => some (.bool b)
  | _, .num n => (Number.ofNumeral? codec n).map .num
  | _, .str s => (Document.unescaped? s).map .str
  | depth + 1, .arr xs => (items codec depth xs).map .arr
  | depth + 1, .obj ms => (members codec depth ms).map .obj
  | _, _ => none

/-- The items of an array. -/
def items (codec : FloatCodec) : Nat → List Document → Option (List Json)
  | _, [] => some []
  | depth, x :: xs => do return (← json codec depth x) :: (← items codec depth xs)

/-- The members of an object, sorted by key. -/
def members (codec : FloatCodec) : Nat → List (List Char × Document) → Option (List (String × Json))
  | _, [] => some []
  | depth, (k, x) :: ms => do
    let key ← Document.unescaped? k
    let value ← json codec depth x
    return place key value (← members codec depth ms)

end

end Decoder

end FlowScript
