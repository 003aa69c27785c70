import FlowScript.Json.Decode

/-!
# Settings

How generated text is spelled: indentation, markers, the import keyword, the height of the header
that the toolchain puts in front, and whether values read once are written in place.
-/

namespace FlowScript

/-- Settings of a compilation; every one has a default. -/
structure Settings where
  optimizeFlow : Bool := true
  indent : String := "\t"
  headerLines : Nat := 3
  discardMarker : String := "//ERROR: node error here, code discarded"
  placeholder : String := "pass"
  importKeyword : String := "require"
  deriving DecidableEq, Inhabited

namespace Settings

/-- The indentation at a depth. -/
def indentAt (s : Settings) (depth : Nat) : String :=
  String.join (List.replicate depth s.indent)

open Decoder in
/-- Settings as a document; fields left out have their default. -/
def decoder : Decoder Settings :=
  record ["optimizeFlow", "indent", "headerLines", "discardMarker", "placeholder",
    "importKeyword"] fun f => do
  let d : Settings := {}
  return {
    optimizeFlow := ← f.getD "optimizeFlow" bool d.optimizeFlow
    indent := ← f.getD "indent" string d.indent
    headerLines := ← f.getD "headerLines" (nat Decimal.maxCount) d.headerLines
    discardMarker := ← f.getD "discardMarker" string d.discardMarker
    placeholder := ← f.getD "placeholder" string d.placeholder
    importKeyword := ← f.getD "importKeyword" string d.importKeyword }

end Settings

end FlowScript
