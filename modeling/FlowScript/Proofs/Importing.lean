import FlowScript.Proofs.Nesting
import FlowScript.Proofs.Unreached

/-!
# Imports

Types and functions list what generated code has to import where it uses them.  The imports of a
pass are what is listed for the uses that are recorded: literals, arguments without a value, calls
and defaults of parameters.  The types of variables, parameters and fields, and literals that are
assigned, are written without a record, so what they need is imported only if something else asks
for it.

* `Program.Makes`, `Program.Recorded`: the uses that were made, and the names that they ask for;
* `Program.Builds.recorded_of_mem`: every import comes from a recorded use;
* `Program.Builds.covered`: what is compiled has its recorded uses covered;
* `Program.Ends.imports_recorded`: the imports of a finished pass.
-/

namespace FlowScript

namespace Program

variable {p : Program} {a : Address} {n : Node} {kind : Kind} {s s' : Pass}

/-! ### Imports and the uses that they come from -/

/-- An occurrence that was compiled makes a use, for which some names are needed. -/
def Makes (p : Program) (s : Pass) (use : Use) (names : List String) : Prop :=
  ∃ a n kind block, p.Compiles a n kind block s.journal ∧ p.Uses a n kind use names

theorem Makes.mono {use : Use} {names : List String} (h : p.Makes s use names)
    (later : s.journal <:+ s'.journal) : p.Makes s' use names := by
  obtain ⟨a, n, kind, block, here, uses⟩ := h
  exact ⟨a, n, kind, block, here.mono later, uses⟩

/-- A name is needed for a recorded use that was made. -/
def Recorded (p : Program) (s : Pass) (name : String) : Prop :=
  ∃ use names, p.Makes s use names ∧ use.recorded = true ∧ name ∈ names

theorem Recorded.mono {name : String} (h : p.Recorded s name)
    (later : s.journal <:+ s'.journal) : p.Recorded s' name := by
  obtain ⟨use, names, makes, recorded, mem⟩ := h
  exact ⟨use, names, makes.mono later, recorded, mem⟩

/-- No import is added twice. -/
theorem Builds.imports_nodup (h : p.Builds s s') (nodup : s.imports.Nodup) : s'.imports.Nodup := by
  induction h with
  | silent same => rwa [same.imports]
  | trans _ _ ih ih' | compile _ _ _ _ _ ih ih' => exact ih' (ih nodup)
  | marker | write => exact nodup
  | imports => exact nodup_foldl_addNew nodup
  | block _ _ _ _ ih =>
    rw [Pass.imports_closeUnder]
    exact ih nodup

/-- Every import comes from a recorded use. -/
theorem Builds.recorded_of_mem (h : p.Builds s s') {name : String} (mem : name ∈ s'.imports) :
    name ∈ s.imports ∨ p.Recorded s' name := by
  induction h with
  | silent same => exact .inl (same.imports ▸ mem)
  | trans _ second ih ih' | compile _ _ _ _ second ih ih' =>
    rcases ih' mem with mem | recorded
    · exact (ih mem).imp_right fun recorded => recorded.mono second.frame.2.2
    · exact .inr recorded
  | marker | write => exact .inl mem
  | imports here uses recorded =>
    rcases mem_foldl_addNew.1 mem with mem | mem
    · exact .inl mem
    · exact .inr ⟨_, _, ⟨_, _, _, _, here, uses⟩, recorded, mem⟩
  | block _ _ _ _ ih =>
    rw [Pass.imports_closeUnder] at mem
    exact (ih mem).imp_right fun recorded => recorded.mono Pass.journal_suffix_closeUnder

/-! ### What is compiled has its recorded uses covered -/

theorem emitted_of_write {owner : Option NodeId} {text : String} {role : LineRole}
    {uses : List Address} {cause : Cause} {block : List Nat}
    (mem : .emitted a cause block ∈ (s.write owner text role uses).journal) :
    .emitted a cause block ∈ s.journal := by
  rcases Pass.mem_journal_write.1 mem with ⟨l, -, same⟩ | mem
  · cases same
  · exact mem

theorem emitted_of_closeUnder {b : Address} {head : Fragment} {cause : Cause} {block : List Nat}
    (mem : .emitted a cause block ∈ (s'.closeUnder p b head s).journal) :
    .emitted a cause block ∈ s'.journal := by
  unfold Pass.closeUnder at mem
  dsimp only [Pass.closeBlock] at mem
  split_ifs at mem
  · exact emitted_of_write mem
  · exact mem

/-- What is compiled between two states has its recorded uses covered. -/
theorem Builds.covered (h : p.Builds s s') {cause : Cause} {block : List Nat}
    (node : p.node? a = some n) (kindOf : p.kind? n = some kind)
    (mem : .emitted a cause block ∈ s'.journal) :
    .emitted a cause block ∈ s.journal ∨ ∀ names, p.Needed a n kind names → names ⊆ s'.imports := by
  induction h with
  | silent same => exact .inl (same.emitted rfl mem)
  | trans _ second ih ih' =>
    rcases ih' mem with mem | covered
    · refine (ih mem).imp_right fun covered names needed => ?_
      exact List.Subset.trans (covered names needed) second.imports_subset
    · exact .inr covered
  | marker | write => exact .inl (emitted_of_write mem)
  | imports => exact .inl mem
  | block _ _ _ _ ih =>
    rw [Pass.imports_closeUnder]
    exact (ih (emitted_of_closeUnder mem)).imp_left emitted_of_write
  | @compile s s₁ s' b m kind' cause' fuel node' kindOf' run own after ih ih' =>
    rcases ih' mem with mem | covered
    · rcases ih mem with mem | covered
      · rcases List.mem_cons.1 mem with same | mem
        · -- the occurrence whose text this is
          cases same
          rw [node] at node'
          cases node'
          rw [kindOf] at kindOf'
          cases kindOf'
          have here : p.Compiles a n kind s.block.path (s.beginText a cause).journal :=
            ⟨node, kindOf, cause, List.mem_cons_self ..⟩
          have gathered := (gathers_emit (p.builder_walk fuel) _ here).eq_some run
          exact .inr fun names needed =>
            List.Subset.trans (gathered.2 names needed) after.imports_subset
        · exact .inl mem
      · exact .inr fun names needed =>
          List.Subset.trans (covered names needed) after.imports_subset
    · exact .inr covered

/-- The imports are what the recorded uses need. -/
theorem Ends.mem_imports_iff (h : p.Ends s) (name : String) :
    name ∈ s.imports ↔ p.Recorded s name := by
  constructor
  · intro mem
    exact (h.builds.recorded_of_mem mem).resolve_left (by simp)
  · rintro ⟨use, names, ⟨a, n, kind, block, here, uses⟩, recorded, mem⟩
    obtain ⟨cause, emitted⟩ := here.emitted
    have covered := (h.builds.covered here.node here.kindOf emitted).resolve_left (by simp)
    exact covered names ⟨use, uses, recorded⟩ mem

/-- The imports of a finished pass, each of them once, are what is listed by the types and the
functions of the uses that are recorded: literals, arguments without a value, calls and defaults of
parameters.  So nothing is missing if and only if whatever the types of variables, parameters and
fields and the literals of assignments ask for is asked for by one of those as well.  The lines are
the texts of the occurrences that make these uses. -/
theorem Ends.imports_recorded (h : p.Ends s) :
    (s.finish p.settings).imports.Nodup ∧
    (∀ name, name ∈ (s.finish p.settings).imports ↔
      ∃ use names, p.Makes s use names ∧ use.recorded = true ∧ name ∈ names) ∧
    ((∀ use names, p.Makes s use names → names ⊆ (s.finish p.settings).imports) ↔
      ∀ use names, p.Makes s use names → use.recorded = false → ∀ name ∈ names,
        ∃ use' names', p.Makes s use' names' ∧ use'.recorded = true ∧ name ∈ names') ∧
    ∀ l ∈ s.body, p.Origin s.journal l ∨ ∃ k lines, p.Filled s.journal l k lines := by
  refine ⟨h.builds.imports_nodup List.nodup_nil, h.mem_imports_iff, ?_, fun l mem => ?_⟩
  · constructor
    · intro all use names makes _ name mem
      exact (h.mem_imports_iff name).1 (all use names makes mem)
    · intro others use names makes name mem
      refine (h.mem_imports_iff name).2 ?_
      cases recorded : use.recorded with
      | true => exact ⟨use, names, makes, recorded, mem⟩
      | false => exact others use names makes recorded name mem
  · by_cases head : l.role = .header
    · obtain ⟨front, back, split⟩ := List.append_of_mem mem
      obtain ⟨k, run, -, -, filled, -⟩ := h.nested.ownBlock (by simp) split head
      exact .inr ⟨k, run, filled⟩
    · exact .inl (h.nested.origin mem head)

end Program

namespace Sample

/-- A statement that has to be imported. -/
def tollPrint : FunctionDesc where
  name := "print"
  callee := "print"
  result := "void"
  params := [⟨"value", "int"⟩]
  sideEffect := true
  requirements := ["console"]

/-- A language with that statement and with numbers that have to be imported. -/
def tollSurface : SurfaceDesc where
  types := [{ name := "any", spelling := "any" }, { name := "void", spelling := "void" },
    { name := "bool", spelling := "bool" },
    { name := "int", spelling := "int", requirements := ["numbers"] }]
  functions := [tollPrint]

theorem toll_loads : (Language.load Pattern.reader core tollSurface {}).toOption.isSome = true := by
  decide +kernel

def toll : Language := (Language.load Pattern.reader core tollSurface {}).toOption.get toll_loads

/-- A function prints a number that is given as a literal, after it has set a variable. -/
def paid : Program where
  lang := toll
  root := {
    name := "main"
    nodes := OrderedMap.ofList [
      (1, { id := 1, component := "Function" }),
      (2, {
        id := 2, component := "Variable"
        data := OrderedMap.ofList [("typeName", .str "int")] }),
      (3, { id := 3, component := "Set", data := OrderedMap.ofList [("0_valueValue", .str "7")] }),
      (4, { id := 4, component := "print", data := OrderedMap.ofList [("value", .str "5")] })]
    wires := [⟨1, "fout", 3, "fin"⟩, ⟨2, "result", 3, "inVariable"⟩, ⟨3, "fout", 4, "fin"⟩] }

theorem paid_isSome : (paid.runWith? 10).isSome = true := by
  decide +kernel

/-- How the program is compiled. -/
def paidPass : Pass := (paid.runWith? 10).get paid_isSome

theorem paid_ends : paid.Ends paidPass :=
  ⟨10, (Option.some_get _).symm⟩

/-- The type of numbers. -/
def tollInt : DataType := (toll.types.get? "int").get (by decide +kernel)

theorem get?_tollInt : toll.types.get? "int" = some tollInt := (Option.some_get _).symm

theorem requirements_tollInt : tollInt.desc.requirements = ["numbers"] := by
  decide +kernel

/-- The literal that is printed asks for what the variable and the assignment need too. -/
theorem imports_recorded_paid :
    paid.Makes paidPass .argument ["numbers"] ∧ paid.Makes paidPass .declaration ["numbers"] ∧
      (paidPass.finish paid.settings).imports = ["numbers", "console"] ∧
      (paidPass.finish paid.settings).imports.Nodup ∧
      "numbers" ∈ (paidPass.finish paid.settings).imports := by
  have print : paid.lang.functions.get? "print" = some tollPrint := by decide +kernel
  have argument : paid.Makes paidPass .argument tollInt.desc.requirements :=
    ⟨⟨[], 4⟩, _, .call "print" true, [0], ⟨rfl, by decide +kernel, .flow, by decide +kernel⟩,
      .argument print (List.mem_singleton.2 rfl) get?_tollInt ⟨1, by decide +kernel⟩⟩
  have declaration : paid.Makes paidPass .declaration _ :=
    ⟨⟨[], 2⟩, _, .declaration, [0], ⟨rfl, by decide +kernel, .demand, by decide +kernel⟩,
      .declaration⟩
  rw [requirements_tollInt] at argument
  obtain ⟨nodup, imported, -, -⟩ := paid_ends.imports_recorded
  exact ⟨argument, declaration, by decide +kernel, nodup,
    (imported "numbers").2 ⟨_, _, argument, rfl, List.mem_singleton.2 rfl⟩⟩

/-- The function has a parameter, and prints nothing; a record has a field. -/
def unpaid : Program where
  lang := toll
  root := {
    name := "main"
    nodes := OrderedMap.ofList [
      (1, {
        id := 1, component := "Function"
        data := OrderedMap.ofList [("numArgs", .str "1"), ("typeName0", .str "int")] }),
      (2, {
        id := 2, component := "Variable"
        data := OrderedMap.ofList [("typeName", .str "int")] }),
      (3, { id := 3, component := "Set", data := OrderedMap.ofList [("0_valueValue", .str "7")] }),
      (4, {
        id := 4, component := "Struct"
        data := OrderedMap.ofList [("numArgs", .str "1"), ("valueArg0", .obj [
          ("valueName", .str "size"), ("valueType", .str "int"), ("value", .str "3")])] })]
    wires := [⟨1, "fout", 3, "fin"⟩, ⟨2, "result", 3, "inVariable"⟩] }

theorem unpaid_isSome : (unpaid.runWith? 10).isSome = true := by
  decide +kernel

/-- How the program is compiled. -/
def unpaidPass : Pass := (unpaid.runWith? 10).get unpaid_isSome

theorem unpaid_ends : unpaid.Ends unpaidPass :=
  ⟨10, (Option.some_get _).symm⟩

/-- Four lines spell the type of numbers or one of its literals, and nothing is imported. -/
theorem unpaid_imports_nothing :
    unpaid.Ends unpaidPass ∧ tollInt.desc.requirements = ["numbers"] ∧
      unpaidPass.body.map (·.text) = ["def _1(_1_0: int)", "var _2: int", "_2 = 7", "",
        "struct _4", "size: int = 3", ""] ∧
      (unpaidPass.finish unpaid.settings).imports = [] ∧
      (unpaidPass.finish unpaid.settings).diagnostics.isEmpty = true :=
  ⟨unpaid_ends, requirements_tollInt, by decide +kernel, by decide +kernel, by decide +kernel⟩

end Sample

end FlowScript
