import FlowScript.Graph.Node

/-!
# Numbered slots

Ports and data entries that come in families are numbered: `arg0`, `arg1`, …  The number of a slot
is read off its key, in the looser form of counts.

* `slotKey`, `slotIndex?`: writing and reading; `slotIndex?_slotKey` says that they agree;
* `fieldTypeKey`, `fieldValueKey`, `fieldSlot?`: the data entries of an assigned field.
-/

namespace FlowScript

/-- What follows a stem at the front of a text. -/
def afterStem? : (stem text : List Char) → Option (List Char)
  | [], cs => some cs
  | _ :: _, [] => none
  | s :: stem, c :: cs => if s = c then afterStem? stem cs else none

theorem afterStem?_append (stem cs : List Char) : afterStem? stem (stem ++ cs) = some cs := by
  induction stem with
  | nil => rfl
  | cons s stem ih => simp [afterStem?, ih]

/-- The key of a numbered slot. -/
def slotKey (stem : String) (i : Nat) : String := stem ++ Decimal.text i

/-- The number of a slot, if the key is one of a family. -/
def slotIndex? (stem key : String) : Option Nat :=
  afterStem? stem.toList key.toList >>= Decimal.count?

theorem slotIndex?_slotKey (stem : String) {i : Nat} (h : i ≤ Decimal.maxCount) :
    slotIndex? stem (slotKey stem i) = some i := by
  simp [slotIndex?, slotKey, Decimal.text, String.toList_append, afterStem?_append,
    Decimal.count?_digits h]

/-- How many ports belong to a family of slots. -/
def slotCount (stem : String) (ports : List Port) : Nat :=
  (ports.filter fun p => (slotIndex? stem p.key).isSome).length

/-- The data entry that holds the type of an assigned field. -/
def fieldTypeKey (i : Nat) (title : String) : String := Decimal.text i ++ "_" ++ title ++ "Type"

/-- The data entry that holds the literal of an assigned field. -/
def fieldValueKey (i : Nat) (title : String) : String := Decimal.text i ++ "_" ++ title ++ "Value"

/-- The title of a field of a given number, if a key is its type entry. -/
def fieldTitle? (i : Nat) (key : String) : Option String := do
  let rest ← afterStem? (Decimal.text i ++ "_").toList key.toList
  let title ← afterStem? "Type".toList.reverse rest.reverse
  if title = [] then none else some (String.ofList title.reverse)

/-- The title and the type of an assigned field, from the first type entry of its number. -/
def fieldSlot? (n : Node) (i : Nat) : Option (String × Option String) :=
  n.data.keys.findSome? fun key => (fieldTitle? i key).map fun title => (title, n.text? key)

end FlowScript
