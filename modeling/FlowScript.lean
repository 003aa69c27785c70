import FlowScript.OrderedMap
import FlowScript.Decimal.Digits
import FlowScript.Decimal.Binary
import FlowScript.Decimal.Shortest
import FlowScript.Text.Blank
import FlowScript.Text.CodeRange
import FlowScript.Text.CharSet
import FlowScript.Text.CaseFold
import FlowScript.Text.Category
import FlowScript.Text.Trait
import FlowScript.Text.Word
import FlowScript.Text.Script
import FlowScript.Text.Age
import FlowScript.Text.Segment
import FlowScript.Text.Property
import FlowScript.Json.Value
import FlowScript.Json.Document
import FlowScript.Json.Decode
import FlowScript.Pattern.Tree
import FlowScript.Pattern.Escape
import FlowScript.Pattern.Bracket
import FlowScript.Pattern.Reader
import FlowScript.Pattern.Expr
import FlowScript.Pattern.Meaning
import FlowScript.Pattern.Search
import FlowScript.Pattern.ByteRange
import FlowScript.Pattern.Size
import FlowScript.Pattern.Basic
import FlowScript.Tag
import FlowScript.Language.Template
import FlowScript.Language.Descriptor
import FlowScript.Language.TypeTable
import FlowScript.Language.FunctionTable
import FlowScript.Language.Component
import FlowScript.Language.Basic
import FlowScript.Graph.Node
import FlowScript.Graph.Basic
import FlowScript.Graph.Library
import FlowScript.Graph.Storage
import FlowScript.Settings
import FlowScript.Diagnostics
import FlowScript.Shape.Slot
import FlowScript.Shape.Initial
import FlowScript.Shape.Adapt
import FlowScript.Text.Lines
import FlowScript.Pass.Address
import FlowScript.Pass.State
import FlowScript.Pass.Program
import FlowScript.Pass.Walk
import FlowScript.Pass.Emit
import FlowScript.Pass.Run
import FlowScript.Compile
import FlowScript.Proofs.Slots
import FlowScript.Proofs.Wiring
import FlowScript.Proofs.Ports
import FlowScript.Proofs.Adapting
import FlowScript.Proofs.Session
import FlowScript.Proofs.Actions
import FlowScript.Proofs.Walking
import FlowScript.Proofs.Performing
import FlowScript.Proofs.Once
import FlowScript.Proofs.Typing
import FlowScript.Proofs.Linked
import FlowScript.Proofs.Declarations
import FlowScript.Proofs.Termination
import FlowScript.Proofs.Scripts
import FlowScript.Proofs.Roots
import FlowScript.Proofs.LineMap
import FlowScript.Proofs.Placement
import FlowScript.Proofs.Cycles
import FlowScript.Proofs.Exits
import FlowScript.Proofs.FlowWalk
import FlowScript.Proofs.FlowOrder
import FlowScript.Proofs.Identifiers
import FlowScript.Proofs.Lockstep
import FlowScript.Proofs.Spelling
import FlowScript.Proofs.Collecting
import FlowScript.Proofs.Grounds
import FlowScript.Proofs.Closed
import FlowScript.Proofs.Unreached
import FlowScript.Proofs.Expansion
import FlowScript.Proofs.Reading
import FlowScript.Proofs.Rounding
import FlowScript.Proofs.Shortest
import FlowScript.Proofs.Decoding
import FlowScript.Proofs.Storing
import FlowScript.Proofs.Flags
import FlowScript.Proofs.Trimming
import FlowScript.Proofs.Layout
import FlowScript.Proofs.Feeding
import FlowScript.Proofs.SlotPairs
import FlowScript.Proofs.Forms
import FlowScript.Proofs.Rests
import FlowScript.Proofs.CallPorts
import FlowScript.Proofs.Settled
import FlowScript.Proofs.Fetching
import FlowScript.Proofs.Operations
import FlowScript.Proofs.Mirroring
import FlowScript.Proofs.Fields
import FlowScript.Proofs.Mending
import FlowScript.Proofs.Retrying
import FlowScript.Proofs.Handing
import FlowScript.Proofs.Sharing
import FlowScript.Proofs.Indices
import FlowScript.Proofs.Parameters
import FlowScript.Proofs.Filling
import FlowScript.Proofs.Admitting
import FlowScript.Proofs.Building
import FlowScript.Proofs.Nesting
import FlowScript.Proofs.Importing
import FlowScript.Proofs.Remapping
