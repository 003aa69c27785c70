import FlowScript.Proofs.LineMap
import FlowScript.Proofs.Lockstep

/-!
# Settings change only the spelling

A program may be compiled under any settings.  Whether its pass comes to an end, what is diagnosed,
what is imported and which definition is the main one do not depend on them.  Which node a line
belongs to depends on them only where values are declared that others write in place, or where the
marker or the placeholder take other numbers of lines.

* `Program.spelled`: a program under other settings; `Program.parallel_spelled`: its passes are in
  lockstep;
* `Output.Agrees`: what settings leave alone in an output;
* `Program.spelled_agrees`: two outputs of one program agree.
-/

namespace FlowScript

/-- Outputs with the same diagnostics, imports and main definition and, if texts get the same lines,
with the same owners of lines. -/
structure Output.Agrees (c c' : Settings) (o o' : Output) : Prop where
  diagnostics : o.diagnostics = o'.diagnostics
  imports : o.imports = o'.imports
  main : o.main = o'.main
  owners : c.SameShape c' → o.lines.owners = o'.lines.owners

/-- Passes that have ended at the same step have outputs that agree. -/
theorem Pass.Alike.agrees_finish {c c' : Settings} {s s' : Pass} (h : Alike c c' s s') :
    Output.Agrees c c' (s.finish c) (s'.finish c') where
  diagnostics := h.diagnostics
  imports := h.imports
  main := h.main
  owners shape := h.map_body shape fun line => line.owner

namespace Program

/-- The program under other settings. -/
def spelled (p : Program) (c : Settings) : Program := { p with settings := c }

/-- Settings are not looked at on the way through the graphs. -/
theorem parallel_spelled (p : Program) (c c' : Settings) :
    (p.spelled c).Parallel (p.spelled c') fun _ => True where
  lang := rfl
  nil := trivial
  outer _ := trivial
  graph _ := rfl
  callee _ _ _ := rfl
  inner _ _ _ _ := trivial

/-- Under any two settings the pass of a program comes to an end or does not, and the two outputs
have the same diagnostics, imports and main definition; if texts get the same lines, the lines have
the same owners. -/
theorem spelled_agrees (p : Program) (c c' : Settings) :
    ((∃ s, (p.spelled c).Ends s) ↔ ∃ s, (p.spelled c').Ends s) ∧
      (∀ s s', (p.spelled c).Ends s → (p.spelled c').Ends s' →
        Output.Agrees c c' (s.finish c) (s'.finish c')) ∧
      Option.Rel (Output.Agrees c c') (compile p.lang p.root p.library c)
        (compile p.lang p.root p.library c') := by
  have parallel := p.parallel_spelled c c'
  refine ⟨parallel.ends_iff, fun s s' ends ends' => (parallel.alike ends ends').agrees_finish, ?_⟩
  -- the fuel of a program does not depend on its settings
  have both := parallel.runWith? ((p.spelled c).fuel 0)
  change Option.Rel _ (((p.spelled c).runWith? ((p.spelled c).fuel 0)).map (·.finish c))
    (((p.spelled c').runWith? ((p.spelled c).fuel 0)).map (·.finish c'))
  generalize (p.spelled c).runWith? _ = o at both ⊢
  generalize (p.spelled c').runWith? _ = o' at both ⊢
  cases both with
  | none => exact .none
  | some alike => exact .some alike.agrees_finish

end Program

namespace Sample

/-- Settings that spell everything in another way, in as many lines. -/
def terse : Settings where
  indent := " "
  headerLines := 0
  discardMarker := "#?"
  placeholder := "..."
  importKeyword := "use"

theorem terse_isSome : ((plotted.spelled terse).runWith? 10).isSome = true := by
  decide +kernel

/-- How the program is compiled under these settings. -/
def tersePass : Pass := ((plotted.spelled terse).runWith? 10).get terse_isSome

theorem terse_ends : (plotted.spelled terse).Ends tersePass :=
  ⟨10, (Option.some_get _).symm⟩

/-- The loop without a condition is diagnosed under both settings, and the marker that stands for it
has its line in both texts, which are different. -/
theorem spelled_agrees_plotted :
    plotted.settings.SameShape terse ∧
      (plottedPass.finish plotted.settings).diagnostics.nodes.keys = [3] ∧
      (tersePass.finish terse).diagnostics = (plottedPass.finish plotted.settings).diagnostics ∧
      (tersePass.finish terse).imports = ["graphics", "math"] ∧
      (plottedPass.finish plotted.settings).lines.owners =
        [some 1, some 2, some 2, some 3, some 4, some 1] ∧
      (tersePass.finish terse).lines.owners =
        (plottedPass.finish plotted.settings).lines.owners ∧
      (tersePass.finish terse).code ≠ (plottedPass.finish plotted.settings).code := by
  have shape : plotted.settings.SameShape terse := ⟨rfl, by decide, by decide⟩
  have imported : (plottedPass.finish plotted.settings).imports = ["graphics", "math"] := by
    decide +kernel
  obtain ⟨-, agree, -⟩ := plotted.spelled_agrees plotted.settings terse
  have same := agree plottedPass tersePass plotted_ends terse_ends
  exact ⟨shape, by decide +kernel, same.diagnostics.symm, same.imports.symm.trans imported,
    by decide +kernel, (same.owners shape).symm, by decide +kernel⟩

end Sample

end FlowScript
