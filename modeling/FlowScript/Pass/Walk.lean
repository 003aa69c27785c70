import FlowScript.Pass.Program
import FlowScript.Shape.Slot

/-!
# Asking for values and following flow

Compiling a node asks for the values at its inputs and follows its flow outputs, and both may
compile further nodes.  A `Walk` is the pair of these two actions; what a node of each kind does
is written against an arbitrary walk.

* `Program.reference`: the text by which a consumer refers to a value;
* `Walk.demand`: ask for a value that has to be there;
* `Program.flowBlock`: compile what follows a flow output into a block that is never empty.
-/

namespace FlowScript

/-- How values are asked for and how flow is followed. -/
structure Walk where
  /-- Find the producer of the value at an input, compiling it on first demand. -/
  resolve : Address → String → Gen (Option Producer)
  /-- Compile what follows a flow output; tells whether anything does. -/
  follow : Address → String → Gen Bool

/-- The walk that does nothing for want of fuel. -/
def Walk.exhausted : Walk := ⟨fun _ _ => Gen.exhausted, fun _ _ => Gen.exhausted⟩

namespace Program

/-- The text for the value of a producer.  Loop indices and parameters have identifiers of their
own; other values have an expression or an identifier. -/
def valueOf (p : Program) (s : Pass) (v : Producer) : Fragment :=
  match p.kindAt? v.address with
  | some .forLoop =>
    match slotIndex? "val" v.port with
    | some i => ⟨v.address.indexIdent i, []⟩
    | none => s.result v.address
  | some .definition =>
    match slotIndex? "out" v.port with
    | some i => ⟨v.address.paramIdent i, []⟩
    | none => s.result v.address
  | _ => s.result v.address

/-- The bare text for the value of a producer. -/
def referenceText (p : Program) (s : Pass) (v : Producer) : String := (p.valueOf s v).text

/-- Hand the text for a value to an input. -/
def reference (p : Program) (a : Address) (port : String) (v : Producer) : Gen Fragment := do
  let value := p.valueOf (← get) v
  modify (·.note (.referenced a port v value))
  return value

/-- Ask for a value that has to be there. -/
def demand (p : Program) (w : Walk) (a : Address) (port : String) : Gen (Option Producer) := do
  match ← w.resolve a port with
  | some v => return some v
  | none =>
    p.error a .inputExpected
    return none

/-- The text for the value at an input, if there is one. -/
def valueAt? (p : Program) (w : Walk) (a : Address) (port : String) : Gen (Option Fragment) := do
  match ← w.resolve a port with
  | some v => return some (← p.reference a port v)
  | none => return none

/-- Write the placeholder into a block without lines. -/
def fillEmpty (p : Program) (a : Address) : Gen Unit := do
  if (← get).block.lines.isEmpty then write a p.settings.placeholder .placeholder

/-- Compile what follows a flow output into a block of its own. -/
def flowBlock (p : Program) (w : Walk) (a : Address) (port : String) : Gen Bool :=
  Gen.inBlock 1 do
    let connected ← w.follow a port
    p.fillEmpty a
    return connected

end Program

end FlowScript
