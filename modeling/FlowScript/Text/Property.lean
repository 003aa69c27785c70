import FlowScript.Text.Age
import FlowScript.Text.Segment

/-!
# Properties by name

Sets of characters asked for by the name of a property of the Unicode standard, or by a property
and its value.  Names are compared without case, blanks, hyphens, underscores and a leading `is`.

* `Property.set?`: the characters that a query selects.
-/

namespace FlowScript.Text

/-- A question about characters: a trait, category or script, or a property with a value. -/
inductive Property
  | named (name : String)
  | valued (name value : String)
  deriving DecidableEq, Inhabited

namespace Property

/-- The plain form of a name.  A name that is only `c` after a leading `is` keeps it. -/
def plainName (name : String) : String :=
  let keep (cs : List Char) : List Char :=
    (cs.filter fun c => c.toNat < 0x80 && c != ' ' && c != '_' && c != '-').map Char.toLower
  match name.toList with
  | a :: b :: rest =>
    if a.toLower = 'i' ∧ b.toLower = 's' then
      let cs := keep rest
      String.ofList (if cs = ['c'] then ['i', 's', 'c'] else cs)
    else String.ofList (keep (a :: b :: rest))
  | cs => String.ofList (keep cs)

/-- The characters with a value of a property, both in plain form. -/
def valueSet? : String → String → Option CharSet
  | "gc", v | "generalcategory", v | "category", v => Category.named? v
  | "sc", v | "script", v => Script.named? v
  | "scx", v | "scriptextensions", v => Script.usedWith? v
  | "age", v => Age.upTo? v
  | "gcb", v | "graphemeclusterbreak", v => Cluster.named? v
  | "wb", v | "wordbreak", v => WordPart.named? v
  | "sb", v | "sentencebreak", v => SentencePart.named? v
  | _, _ => none

/-- The characters that a query selects. -/
def set? : Property → Option CharSet
  | named name =>
    let n := plainName name
    Trait.named? n <|> Category.named? n <|> Script.named? n
  | valued name value => valueSet? (plainName name) (plainName value)

end Property

end FlowScript.Text
