/-!
# Templates

A template is a text with holes: `$` followed by the name of an argument.  Filling is one pass
from the left; the longest name that fits makes the hole, any other `$` stands for itself, and
inserted text is not looked at again.
-/

namespace FlowScript.Template

/-- A named text. -/
abbrev Argument := String × String

/-- The argument with the longest name at the front of a text; of equal names the last. -/
def longest? (args : List Argument) (cs : List Char) : Option Argument :=
  args.foldl (fun best arg =>
    if arg.1 ≠ "" ∧ arg.1.toList.isPrefixOf cs then
      match best with
      | none => some arg
      | some b => if b.1.length ≤ arg.1.length then some arg else some b
    else best) none

/-- Fill the holes of a text of which the first `skip` characters are a name already read. -/
def fillChars (args : List Argument) : (skip : Nat) → List Char → List Char
  | _, [] => []
  | skip + 1, _ :: cs => fillChars args skip cs
  | 0, c :: cs =>
    if c = '$' then
      match longest? args cs with
      | some (name, value) => value.toList ++ fillChars args name.length cs
      | none => '$' :: fillChars args 0 cs
    else c :: fillChars args 0 cs

/-- Fill the holes of a template. -/
def fill (template : String) (args : List Argument) : String :=
  String.ofList (fillChars args 0 template.toList)

/-- Put a text in place of the first `$`. -/
def fillFirst (template text : String) : String :=
  let (front, back) := template.toList.span (· != '$')
  match back with
  | [] => template
  | _ :: rest => String.ofList (front ++ text.toList ++ rest)

end FlowScript.Template
