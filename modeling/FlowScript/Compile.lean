import FlowScript.Graph.Library
import FlowScript.Pass.Run

/-!
# Compiling a graph

A pass compiles the top-level nodes of the root graph in their order.  Its output is the text, with
the imports in front of the body, and what is known about it: the node that each line stands for,
the main definition and the diagnostics.

* `Pass.finish`: the output of a finished pass;
* `compile`, `compileFrom`: a graph with its library, or with a source to fetch the library from.
-/

namespace FlowScript

/-- The output of a compilation. -/
structure Output where
  code : String
  imports : List String
  lines : LineOwners
  main : Option String
  diagnostics : Diagnostics

/-- Attach errors that the toolchain reported about a file. -/
def Output.remap (o : Output) (errors : List ToolError) (file : String) : Output :=
  { o with diagnostics := o.lines.remap o.diagnostics errors file }

namespace Pass

/-- The lines of the body. -/
def body (s : Pass) : List Line := s.block.lines.reverse

/-- How many lines the imports take: one each, and two empty ones after them. -/
def importHeight (s : Pass) : Nat := if s.imports.isEmpty then 0 else s.imports.length + 2

/-- The import lines and the empty lines after them. -/
def importText (s : Pass) (settings : Settings) : String :=
  String.join (s.imports.map fun name => settings.importKeyword ++ " " ++ name ++ "\n") ++
    if s.imports.isEmpty then "" else "\n\n"

/-- The text of the body. -/
def bodyText (s : Pass) (settings : Settings) : String :=
  String.join (s.body.map fun line => line.render settings ++ "\n")

/-- The nodes of the root graph under which a used value was never compiled. -/
def unprocessed (s : Pass) : List NodeId :=
  ((s.required.filter (· ∉ s.processed)).map (·.rootId)).foldl addNew []

/-- The output of a finished pass. -/
def finish (s : Pass) (settings : Settings) : Output where
  code := s.importText settings ++ s.bodyText settings
  imports := s.imports
  lines := {
    owners := s.body.map (·.owner)
    importHeight := s.importHeight
    headerLines := settings.headerLines }
  main := s.main
  diagnostics := s.unprocessed.foldl (·.addNode · Problem.notProcessed.message) s.diagnostics

end Pass

namespace Program

/-- The addresses at which the program starts. -/
def entries (p : Program) : List Address :=
  (p.root.nodes.values.filter fun n => (p.kind? n).any Kind.isTopLevel).map (Address.root ·.id)

/-- Compile some occurrences in turn. -/
def visitAll (p : Program) (w : Walk) : List Address → Gen Unit
  | [] => return ()
  | a :: as => do
    p.visit w a
    p.visitAll w as

/-- Run a whole pass with a given amount of fuel. -/
def runWith? (p : Program) (fuel : Nat) : Option Pass :=
  ((p.visitAll (p.walk fuel) p.entries).run {}).map (·.2)

/-- Run a whole pass. -/
def run? (p : Program) : Option Pass := p.runWith? (p.fuel 0)

/-- Compile a program. -/
def compile? (p : Program) : Option Output := p.run?.map (·.finish p.settings)

end Program

/-- Compile a graph with the modules of a library. -/
def compile (lang : Language) (g : Graph) (library : Library := .empty)
    (settings : Settings := {}) :
    Option Output :=
  Program.compile? { lang, root := g, library, settings }

/-- Fetch the modules that a graph calls, then compile it. -/
def compileFrom (lang : Language) (g : Graph) (source : Source) (settings : Settings := {}) :
    Except FetchError (Option Output) :=
  let collected := Library.collect .empty g source
  match collected.failure with
  | some e => .error e
  | none => .ok (compile lang g collected.library settings)

end FlowScript
