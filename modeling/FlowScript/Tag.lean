/-!
# Port tags

A port carries either control flow or values.  Value ports have a socket: the name of a type, or
of the base type it derives from, and whether it takes anything.

* `Tag.compatible`: whether a producer may be wired to a consumer.
-/

namespace FlowScript

/-- What a value port carries. -/
structure Socket where
  typeName : String
  isAny : Bool
  deriving DecidableEq, Inhabited

/-- Whether a producer's socket fits a consumer's: the same type, or a consumer of anything. -/
def Socket.fits (producer consumer : Socket) : Bool :=
  consumer.isAny || producer.typeName == consumer.typeName

/-- What a port carries. -/
inductive Tag
  | flow
  | value (socket : Socket)
  deriving DecidableEq, Inhabited

namespace Tag

/-- Whether a producer may be wired to a consumer. -/
def compatible : (producer consumer : Tag) → Bool
  | .flow, .flow => true
  | .value p, .value c => p.fits c
  | _, _ => false

/-- The displayed name of a tag. -/
def name : Tag → String
  | .flow => "exec-flow"
  | .value s => s.typeName

/-- The socket of a value tag. -/
def socket? : Tag → Option Socket
  | .flow => none
  | .value s => some s

@[simp] theorem compatible_self (t : Tag) : t.compatible t = true := by
  cases t <;> simp [compatible, Socket.fits]

theorem compatible_value_iff {p c : Socket} :
    (Tag.value p).compatible (.value c) = true ↔ c.isAny = true ∨ p.typeName = c.typeName := by
  simp [compatible, Socket.fits]

end Tag

end FlowScript
