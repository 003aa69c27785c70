import FlowScript.Pattern.Meaning
import FlowScript.Pattern.Reader
import FlowScript.Pattern.Search
import FlowScript.Pattern.Size

/-!
# Patterns

A text is a pattern if it can be read, is not nested too deeply, has a meaning under its flags, and
needs no more than the bound on automata.

* `Pattern.read?`: the pattern of a text;
* `Pattern.occursIn`: whether a pattern matches somewhere in a text;
* `Pattern.reader`: both, for the types of a language.
-/

namespace FlowScript

namespace Pattern

/-- How deeply a pattern may be nested. -/
def maxDepth : Nat := 250

/-- The expression of a text. -/
def expr? (text : String) : Option Expr := do
  let tree ← Tree.read? text
  guard (tree.depth ≤ maxDepth)
  let e ← tree.expr?
  guard e.fits
  return e

end Pattern

/-- A pattern: a text with the expression that it stands for. -/
structure Pattern where
  text : String
  expr : Pattern.Expr
  expr?_text : Pattern.expr? text = some expr

namespace Pattern

/-- The pattern of a text. -/
def read? (text : String) : Option Pattern :=
  match h : expr? text with
  | some e => some ⟨text, e, h⟩
  | none => none

/-- Whether a pattern matches somewhere in a text. -/
def occursIn (p : Pattern) (text : String) : Bool := p.expr.occursIn text

/-- Where the pattern of a text matches, if the text is a pattern. -/
def reader (text : String) : Except String (String → Bool) :=
  match read? text with
  | some p => .ok p.occursIn
  | none => .error "not a pattern"

end Pattern

end FlowScript
