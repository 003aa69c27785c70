import FlowScript.Proofs.Declarations
import FlowScript.Proofs.Scripts

/-!
# The line map matches the text

The generated text is made of whole lines: the imports with two empty lines after them, and then the
lines of the body, in the order in which they were written, through all the blocks that were opened
for them.  The line map counts them as the toolchain does and gives each back to its owner.

* `Text.splitLines_flatMap`: lines that are ended by newlines are found again;
* `Pass.written`: the lines that were written, in order; `Pass.written_write`: what one call adds;
* `Pass.code_toList`: the text of the output, line by line;
* `Program.Ends.nodeAt_lines`: the line map of a finished pass.
-/

namespace FlowScript

namespace Text

theorem splitLines_line {l : List Char} (h : '\n' ∉ l) (rest : List Char) :
    splitLines (l ++ '\n' :: rest) = l :: splitLines rest := by
  induction l with
  | nil => simp [splitLines]
  | cons c l ih =>
    simp only [List.mem_cons, not_or] at h
    simp [splitLines, ih h.2, Ne.symm h.1]

/-- Lines without newlines, each ended by one, are the lines of the text, with nothing after the
last of them. -/
theorem splitLines_flatMap {lines : List (List Char)} (h : ∀ l ∈ lines, '\n' ∉ l) :
    splitLines (lines.flatMap (· ++ ['\n'])) = lines ++ [[]] := by
  induction lines with
  | nil => rfl
  | cons l lines ih =>
    have rest := ih fun m hm => h m (List.mem_cons_of_mem _ hm)
    have first := splitLines_line (h l (List.mem_cons_self ..)) (lines.flatMap (· ++ ['\n']))
    simpa [rest] using first

end Text

namespace Pass

variable {s : Pass} {settings : Settings}

/-- The lines that were written, in order. -/
def written (s : Pass) : List Line := (s.journal.filterMap Event.line?).reverse

/-- One call writes one line for each line of its text, all at the depth of the open block and for
the owner that it is given. -/
theorem written_write (s : Pass) (owner : Option NodeId) (text : String) (role : LineRole)
    (uses : List Address) :
    ∃ new, (s.write owner text role uses).written = s.written ++ new ∧
      new.map (·.text.toList) = Text.splitLines text.toList ∧
      ∀ line ∈ new, line.owner = owner ∧ line.depth = s.block.depth := by
  refine ⟨s.block.linesOf owner ⟨text, uses⟩ role, ?_, ?_, fun line mem => ?_⟩
  · simp only [written, write, List.filterMap_append, Event.filterMap_line?_wrote,
      List.reverse_append, List.reverse_reverse]
  · -- a role is given to each part
    have parts : ∀ n, 0 < n → (role.ofParts n).length = n := by
      intro n pos
      cases role <;> simp [LineRole.ofParts] <;> omega
    have roles := parts _ (List.length_pos_of_ne_nil (Text.splitLines_ne_nil text.toList))
    have zipped : ((Text.splitLines text.toList).zip
        (role.ofParts (Text.splitLines text.toList).length)).map Prod.fst =
        Text.splitLines text.toList :=
      List.map_fst_zip (by rw [roles])
    simpa [Block.linesOf, Function.comp_def] using zipped
  · obtain ⟨part, -, rfl⟩ := List.mem_map.1 mem
    exact ⟨rfl, rfl⟩

/-- The lines of the imports: one each, and two empty ones after them. -/
def importLines (s : Pass) (settings : Settings) : List (List Char) :=
  s.imports.map (fun name => (settings.importKeyword ++ " " ++ name).toList) ++
    if s.imports.isEmpty then [] else [[], []]

theorem length_importLines : (s.importLines settings).length = s.importHeight := by
  unfold importLines importHeight
  split_ifs with empty
  · simp_all
  · simp

/-- The text of the output, line by line. -/
theorem code_toList : (s.finish settings).code.toList =
    (s.importLines settings ++ s.body.map fun line => (line.render settings).toList).flatMap
      (· ++ ['\n']) := by
  have imports : (s.importText settings).toList =
      (s.importLines settings).flatMap (· ++ ['\n']) := by
    unfold importText importLines
    split_ifs <;>
      simp [String.toList_join, List.flatMap_map]
  have body : (s.bodyText settings).toList =
      (s.body.map fun line => (line.render settings).toList).flatMap (· ++ ['\n']) := by
    simp [bodyText, String.toList_join, List.flatMap_map]
  rw [List.flatMap_append, ← imports, ← body, ← String.toList_append]
  rfl

end Pass

theorem Settings.newline_notMem_indentAt {settings : Settings}
    (h : '\n' ∉ settings.indent.toList) (depth : Nat) :
    '\n' ∉ (settings.indentAt depth).toList := by
  simp only [indentAt, String.toList_join, List.mem_flatMap, List.mem_replicate, not_exists,
    not_and]
  rintro _ ⟨-, rfl⟩
  exact h

namespace Program

variable {p : Program}

/-- Lines are single lines, and what is imported is asked for by the language. -/
structure Tidy (p : Program) (s : Pass) : Prop where
  lines : ∀ {line}, .wrote line ∈ s.journal → '\n' ∉ line.text.toList
  imports : ∀ name ∈ s.imports, p.Requires name

theorem Tidy.of_eq {s s' : Pass} (h : p.Tidy s)
    (lines : ∀ {line}, .wrote line ∈ s'.journal → .wrote line ∈ s.journal)
    (imports : s'.imports = s.imports) : p.Tidy s' where
  lines mem := h.lines (lines mem)
  imports := by
    rw [imports]
    exact h.imports

theorem Tidy.note {s : Pass} (h : p.Tidy s) {e : Event} (plain : e.line? = none) :
    p.Tidy (s.note e) := by
  refine h.of_eq (fun mem => ?_) rfl
  rcases List.mem_cons.1 mem with rfl | mem
  · cases plain
  · exact mem

/-- Every single change keeps lines single. -/
theorem Change.tidy {s s' : Pass} (h : p.Change s s') (hs : p.Tidy s) : p.Tidy s' := by
  have reported : ∀ {a cause}, p.Tidy (s.reportAt p a cause) :=
    fun {a cause} => (hs.note (e := .problem a cause) rfl).of_eq id rfl
  cases h with
  | touch _ touches =>
    cases touches with
    | imports required =>
      refine ⟨hs.lines, fun name mem => ?_⟩
      rcases mem_foldl_addNew.1 mem with mem | mem
      · exact hs.imports name mem
      · exact required name mem
    | main | process | keep => exact hs.of_eq id rfl
    | report => exact reported
    | write =>
      refine ⟨fun mem => ?_, hs.imports⟩
      rcases Pass.mem_journal_write.1 mem with ⟨line, hline, heq⟩ | mem
      · cases heq
        obtain ⟨part, hpart, rfl⟩ := List.mem_map.1 hline
        simpa using Text.not_mem_of_mem_splitLines (List.of_mem_zip hpart).1
      · exact hs.lines mem
    | reference => exact hs.note rfl
  | note step => exact hs.note (Event.line?_of_isStep step)
  | report => exact reported
  | begin =>
    exact hs.of_eq (fun mem => Pass.mem_of_mem_begin mem rfl) Pass.imports_begin
  | require | openBlock | closeBlock | start | stop => exact hs.of_eq id rfl

theorem Ends.tidy {s : Pass} (h : p.Ends s) : p.Tidy s := by
  refine h.performs.keeps (fun change => change.tidy) trivial ⟨fun mem => ?_, fun _ mem => ?_⟩
  · cases mem
  · cases mem

/-- Where the spelling has no newlines, the lines of the text are those of the imports and those of
the body. -/
theorem Ends.splitLines_code {s : Pass} (h : p.Ends s) (indent : '\n' ∉ p.settings.indent.toList)
    (keyword : '\n' ∉ p.settings.importKeyword.toList)
    (names : ∀ name, p.Requires name → '\n' ∉ name.toList) :
    Text.splitLines (s.finish p.settings).code.toList = (s.importLines p.settings ++
      s.body.map fun line => (line.render p.settings).toList) ++ [[]] := by
  rw [Pass.code_toList]
  refine Text.splitLines_flatMap fun l mem => ?_
  rcases List.mem_append.1 mem with mem | mem
  · rcases List.mem_append.1 mem with mem | mem
    · obtain ⟨name, imported, rfl⟩ := List.mem_map.1 mem
      have plain := names name (h.tidy.imports name imported)
      simp only [String.toList_append, List.mem_append, not_or]
      exact ⟨⟨keyword, by decide⟩, plain⟩
    · split_ifs at mem
      · cases mem
      · simp_all
  · obtain ⟨line, inBody, rfl⟩ := List.mem_map.1 mem
    have plain := h.tidy.lines (h.mem_body.1 inBody)
    simp only [Line.render, String.toList_append, List.mem_append, not_or]
    exact ⟨Settings.newline_notMem_indentAt indent _, plain⟩

end Program

namespace LineOwners

variable {m : LineOwners} {n : Nat}

theorem firstLine_of_lt (fits : m.headerLines + 1 + m.importHeight < 2 ^ 64) :
    m.firstLine = m.headerLines + 1 + m.importHeight :=
  Nat.mod_eq_of_lt fits

/-- Lines in front of the body and after its end have no owner. -/
theorem nodeAt?_eq_none (h : n < m.firstLine ∨ m.firstLine + m.owners.length ≤ n) :
    m.nodeAt? n = none := by
  unfold nodeAt?
  split_ifs with after
  · have out : m.owners.length ≤ n - m.firstLine := by omega
    simp [owner?, List.getElem?_eq_none out]
  · rfl

theorem nodeAt?_firstLine_add (i : Nat) : m.nodeAt? (m.firstLine + i) = m.owner? i := by
  rw [nodeAt?, if_pos (Nat.le_add_right ..), Nat.add_sub_cancel_left]

end LineOwners

namespace Program

variable {p : Program}

/-- Where the indentation, the import keyword and the names to import have no newlines, the text of
a finished pass is made of the import lines and the lines written, each ended by a newline.  Where
64 bits count the lines in front of the body, the line map gives every line of the body, counted
from one after the header, to the owner for which it was written, and no other line to anything. -/
theorem Ends.nodeAt_lines {s : Pass} (h : p.Ends s) (indent : '\n' ∉ p.settings.indent.toList)
    (keyword : '\n' ∉ p.settings.importKeyword.toList)
    (names : ∀ name, p.Requires name → '\n' ∉ name.toList)
    (fits : p.settings.headerLines + 1 + (s.finish p.settings).lines.importHeight < 2 ^ 64) :
    ∃ lines : List (List Char),
      Text.splitLines (s.finish p.settings).code.toList = lines ++ [[]] ∧
      lines.length = (s.finish p.settings).lines.importHeight +
        (s.finish p.settings).lines.owners.length ∧
      (s.finish p.settings).lines.importHeight =
        (if (s.finish p.settings).imports = [] then 0
          else (s.finish p.settings).imports.length + 2) ∧
      (s.finish p.settings).lines.owners.length = s.written.length ∧
      (∀ n, 1 ≤ n → n ≤ (s.finish p.settings).lines.importHeight ∨ lines.length < n →
        (s.finish p.settings).lines.nodeAt? (p.settings.headerLines + n) = none) ∧
      (∀ n, (s.finish p.settings).lines.importHeight < n → n ≤ lines.length →
        ∃ line, s.written[n - 1 - (s.finish p.settings).lines.importHeight]? = some line ∧
          lines[n - 1]? = some (line.render p.settings).toList ∧
          (s.finish p.settings).lines.nodeAt? (p.settings.headerLines + n) = line.owner) ∧
      (∀ m ≤ p.settings.headerLines, (s.finish p.settings).lines.nodeAt? m = none) ∧
      ∀ (s₀ : Pass) (owner : Option NodeId) (text : String) (role : LineRole)
        (uses : List Address), ∃ new, (s₀.write owner text role uses).written = s₀.written ++ new ∧
          new.map (·.text.toList) = Text.splitLines text.toList ∧
          ∀ line ∈ new, line.owner = owner ∧ line.depth = s₀.block.depth := by
  have body : s.body = s.written := h.body_eq
  have height : (s.importLines p.settings).length = s.importHeight := Pass.length_importLines
  have first : (s.finish p.settings).lines.firstLine =
      p.settings.headerLines + 1 + s.importHeight :=
    LineOwners.firstLine_of_lt fits
  refine ⟨_, h.splitLines_code indent keyword names, ?_, ?_, ?_, fun n _ out => ?_,
    fun n after within => ?_, fun m before => ?_, Pass.written_write⟩
  · simp [height, Pass.finish]
  · show s.importHeight = if s.imports = [] then 0 else s.imports.length + 2
    simp [Pass.importHeight]
  · simp [Pass.finish, body]
  · refine LineOwners.nodeAt?_eq_none ?_
    have count : (s.finish p.settings).lines.owners.length = s.body.length := List.length_map ..
    have out : n ≤ s.importHeight ∨ s.importHeight + s.body.length < n := by
      simp only [List.length_append, List.length_map, height] at out
      exact out
    rw [first, count]
    omega
  · -- the line is one of the body, and its number there is what is left after the imports
    obtain ⟨i, rfl⟩ : ∃ i, n = s.importHeight + i + 1 := by
      have after : s.importHeight < n := after
      exact ⟨n - s.importHeight - 1, by omega⟩
    have bound : i < s.body.length := by
      simp only [List.length_append, List.length_map, height] at within
      omega
    have place : s.body[i]? = some s.body[i] := List.getElem?_eq_getElem bound
    refine ⟨s.body[i], ?_, ?_, ?_⟩
    · show s.written[s.importHeight + i + 1 - 1 - s.importHeight]? = _
      rw [← body, show s.importHeight + i + 1 - 1 - s.importHeight = i by omega]
      exact place
    · rw [List.getElem?_append_right (by omega), height,
        show s.importHeight + i + 1 - 1 - s.importHeight = i by omega, List.getElem?_map, place]
      rfl
    · rw [show p.settings.headerLines + (s.importHeight + i + 1) =
        (s.finish p.settings).lines.firstLine + i by rw [first]; omega,
        LineOwners.nodeAt?_firstLine_add]
      simp [LineOwners.owner?, Pass.finish, place]
  · exact LineOwners.nodeAt?_eq_none (.inl (by rw [first]; omega))

end Program

namespace Sample

/-- The language with a function that has to be imported. -/
def wideSurface : SurfaceDesc :=
  { surface with
    functions := surface.functions ++ [
      { name := "plot", callee := "plot", result := "void", params := [⟨"value", "int"⟩],
        sideEffect := true, requirements := ["graphics", "math"] }] }

theorem wide_loads : (Language.load Pattern.reader core wideSurface {}).toOption.isSome = true := by
  decide +kernel

/-- A function with code of two lines, a loop that has no condition, and a call that is imported. -/
def plotted : Program where
  lang := (Language.load Pattern.reader core wideSurface {}).toOption.get wide_loads
  root := {
    name := "main"
    nodes := OrderedMap.ofList [
      (1, { id := 1, component := "Function" }),
      (2, {
        id := 2, component := "InjectCode"
        data := OrderedMap.ofList [("code", .str "a\nb")] }),
      (3, { id := 3, component := "While" }),
      (4, { id := 4, component := "plot", data := OrderedMap.ofList [("value", .str "7")] })]
    wires := [⟨1, "fout", 2, "fin"⟩, ⟨2, "fout", 3, "fin"⟩, ⟨3, "fout", 4, "fin"⟩] }

theorem plotted_isSome : (plotted.runWith? 10).isSome = true := by
  decide +kernel

/-- How the program is compiled. -/
def plottedPass : Pass := (plotted.runWith? 10).get plotted_isSome

theorem plotted_ends : plotted.Ends plottedPass :=
  ⟨10, (Option.some_get _).symm⟩

theorem plotted_names : ∀ name, plotted.Requires name → '\n' ∉ name.toList := by
  have types : ((plotted.lang.types.any :: plotted.lang.types.types.values).all fun t =>
      t.desc.requirements.all fun name => '\n' ∉ name.toList) = true := by
    decide +kernel
  have functions : (plotted.lang.functions.values.all fun f =>
      f.requirements.all fun name => '\n' ∉ name.toList) = true := by
    decide +kernel
  rw [List.all_eq_true] at types functions
  rintro name (⟨type, mem⟩ | ⟨function, f, hf, mem⟩)
  · have found : plotted.lang.types.getOrAny type ∈
        plotted.lang.types.any :: plotted.lang.types.types.values := by
      unfold TypeTable.getOrAny
      cases ht : type.bind plotted.lang.types.get? with
      | none => exact List.mem_cons_self ..
      | some t =>
        obtain ⟨key, -, hkey⟩ := Option.bind_eq_some_iff.1 ht
        exact List.mem_cons_of_mem _ (OrderedMap.mem_values_iff.2 ⟨key, hkey⟩)
    have plain := types _ found
    rw [List.all_eq_true] at plain
    simpa using plain name mem
  · have plain := functions f (OrderedMap.mem_values_iff.2 ⟨function, hf⟩)
    rw [List.all_eq_true] at plain
    simpa using plain name mem

/-- After three lines of header and four for the imports, the second line of the given code is the
third of the body, and belongs to the node that holds the code; the imports belong to nothing. -/
theorem nodeAt_lines_plotted :
    (plottedPass.finish plotted.settings).imports = ["graphics", "math"] ∧
      (∃ lines : List (List Char),
        Text.splitLines (plottedPass.finish plotted.settings).code.toList = lines ++ [[]] ∧
        lines[6]? = some "\tb".toList ∧ lines.length = 10) ∧
      (plottedPass.finish plotted.settings).lines.nodeAt? (3 + 7) = some 2 ∧
      (plottedPass.finish plotted.settings).lines.nodeAt? (3 + 4) = none ∧
      (plottedPass.finish plotted.settings).lines.nodeAt? 3 = none := by
  have imported : (plottedPass.finish plotted.settings).imports = ["graphics", "math"] := by
    decide +kernel
  have count : (plottedPass.finish plotted.settings).lines.owners.length = 6 := by decide +kernel
  have height : (plottedPass.finish plotted.settings).lines.importHeight = 4 := by decide +kernel
  have second : plottedPass.written[2]? =
      some { owner := some 2, depth := 1, text := "b", block := [0] } := by
    decide +kernel
  obtain ⟨lines, split, length, -, -, outside, inside, header, -⟩ :=
    plotted_ends.nodeAt_lines (by decide) (by decide) plotted_names (by rw [height]; decide)
  rw [height, count] at length
  rw [height] at outside inside
  obtain ⟨line, place, text, owner⟩ := inside 7 (by omega) (by omega)
  have found : some line = some { owner := some 2, depth := 1, text := "b", block := [0] } :=
    place.symm.trans second
  cases found
  exact ⟨imported, ⟨lines, split, text, length⟩, owner, outside 4 (by omega) (.inl (by omega)),
    header 3 (by decide)⟩

end Sample

end FlowScript
