import FlowScript.Language.TypeTable
import FlowScript.Pattern.Basic
import Mathlib.Data.List.Basic
import Mathlib.Data.List.Induction

/-!
# Which types a language admits

A type of the language enters the table with the core's word over it, if the validator that it has
then is a pattern and no earlier type has taken its name.  A type that is turned away takes no name,
so a later one of the same name may still come in.  What happens to each type is said in view of the
types before it, and compared with what loading does.

* `CoreDesc.merged`: a type with the core's word over it;
* `CoreDesc.admits`, `CoreDesc.complaint?`: what becomes of a type, in view of those before it;
* `CoreDesc.admitted`, `CoreDesc.complaints`: of all types;
* `CoreDesc.find?_admitted`: for each name, the first type that is in order;
* `TypeTable.foldl_enter`: entering types in turn admits these;
* `TypeTable.load_admits`: which languages load, and the table and the reports of one that does.
-/

namespace FlowScript

/-- Of the entries of a list, the last one of a key counts. -/
theorem OrderedMap.get?_ofList {κ ν : Type} [DecidableEq κ] (l : List (κ × ν)) (k : κ) :
    (ofList l).get? k = (l.reverse.find? fun e => e.1 = k).map Prod.snd := by
  induction l using List.reverseRecOn with
  | nil => rfl
  | append_singleton l e ih =>
    have last : ofList (l ++ [e]) = (ofList l).insert e.1 e.2 := List.foldl_concat ..
    rw [last, get?_insert, List.reverse_append, List.reverse_singleton, List.singleton_append,
      List.find?_cons, ih]
    by_cases same : e.1 = k <;> simp [same]

/-- What is made of the elements of a list, of each in view of those before it. -/
def sift {α β : Type} (f : List α → α → Option β) (l : List α) : List β :=
  l.zipIdx.filterMap fun x => f (l.take x.2) x.1

theorem sift_concat {α β : Type} (f : List α → α → Option β) (l : List α) (x : α) :
    sift f (l ++ [x]) = sift f l ++ (f l x).toList := by
  have before : (l.zipIdx.filterMap fun y => f ((l ++ [x]).take y.2) y.1) = sift f l := by
    refine List.filterMap_congr fun y mem => ?_
    have bound := List.snd_lt_of_mem_zipIdx mem
    rw [List.take_append_of_le_length (by omega)]
  have last : (([x].zipIdx (0 + l.length)).filterMap fun y => f ((l ++ [x]).take y.2) y.1) =
      (f l x).toList := by
    cases made : f l x <;> simp [made]
  rw [sift, List.zipIdx_append, List.filterMap_append, before, last]

/-! ### Types in order -/

section

variable (patterns : PatternReader)

/-- What is wrong with the validator of a type. -/
def TypeDesc.fault? (d : TypeDesc) : Option String :=
  d.validator.bind fun text =>
    match patterns text with
    | .ok _ => none
    | .error reason => some reason

/-- The validator of a type, if it has one, is a pattern. -/
def TypeDesc.compiles (d : TypeDesc) : Bool := (d.fault? patterns).isNone

/-- A type with its validator as a pattern. -/
def DataType.ofDesc (desc : TypeDesc) (isVoid isAny : Bool) : DataType where
  desc := desc
  isVoid := isVoid
  isAny := isAny
  validator := desc.validator.bind fun text => (patterns text).toOption

theorem DataType.load_eq (desc : TypeDesc) (isVoid isAny : Bool) :
    load patterns desc isVoid isAny = (desc.fault? patterns).elim
      (.ok (ofDesc patterns desc isVoid isAny)) fun reason =>
        .error (.invalidValidator desc.name reason) := by
  unfold load ofDesc TypeDesc.fault?
  cases desc.validator with
  | none => rfl
  | some text =>
    cases read : patterns text <;> simp [read, Except.toOption]

end

namespace CoreDesc

variable (patterns : PatternReader) (core : CoreDesc)

/-- The type is among those that stand for anything. -/
def isAny (d : TypeDesc) : Bool := core.anyTypes.contains d.name

/-- The core's last word under a name. -/
def word? (name : String) : Option TypeDesc := core.types.reverse.find? fun d => d.name = name

/-- The core's word for a type: under the name of its base, unless the type is a reference, or else
under its own. -/
def wordFor? (d : TypeDesc) : Option TypeDesc :=
  (if d.isRef then none else d.base.bind core.word?) <|> core.word? d.name

/-- A type with the core's word over it. -/
def merged (d : TypeDesc) : TypeDesc := (core.wordFor? d).elim d d.overlay

/-- A type as it stands in the table. -/
def typeOf (d : TypeDesc) : DataType :=
  .ofDesc patterns (core.merged d) (core.voidTypes.contains d.name) false

theorem name_merged (d : TypeDesc) : (core.merged d).name = d.name := by
  unfold merged
  cases core.wordFor? d <;> rfl

theorem overlayFor?_eq (d : TypeDesc) :
    TypeTable.overlayFor? (OrderedMap.ofList (core.types.map fun d => (d.name, d))) d =
      core.wordFor? d := by
  have word : ∀ name, (OrderedMap.ofList (core.types.map fun d => (d.name, d))).get? name =
      core.word? name := by
    intro name
    rw [OrderedMap.get?_ofList, ← List.map_reverse, List.find?_map, word?, Option.map_map]
    exact Option.map_id' ..
  unfold TypeTable.overlayFor? wordFor?
  cases d.base <;> cases d.isRef <;> simp [word]

/-! ### What becomes of a type -/

/-- Some earlier type that is in order has taken a name. -/
def taken (earlier : List TypeDesc) (name : String) : Bool :=
  earlier.any fun d => d.name = name && (core.merged d).compiles patterns

/-- A type comes in: it does not stand for anything, its name is free and it is in order. -/
def admits (earlier : List TypeDesc) (d : TypeDesc) : Bool :=
  !core.isAny d && !core.taken patterns earlier d.name && (core.merged d).compiles patterns

/-- What is reported on a type: its name is taken, or it is not in order.  On types that stand for
anything there are no reports. -/
def complaint? (earlier : List TypeDesc) (d : TypeDesc) : Option Issue :=
  if core.isAny d then none
  else if core.taken patterns earlier d.name then some (.duplicateType d.name)
  else ((core.merged d).fault? patterns).map (.invalidValidator d.name)

/-- The types that come in, in order. -/
def admitted (descs : List TypeDesc) : List TypeDesc :=
  sift (fun earlier d => if core.admits patterns earlier d then some d else none) descs

/-- The reports, in order. -/
def complaints (descs : List TypeDesc) : List Issue := sift (core.complaint? patterns) descs

variable {patterns} {core}

theorem admitted_concat (descs : List TypeDesc) (d : TypeDesc) :
    core.admitted patterns (descs ++ [d]) =
      core.admitted patterns descs ++ if core.admits patterns descs d then [d] else [] := by
  rw [admitted, sift_concat, admitted]
  split_ifs <;> rfl

theorem isAny_of_mem_admitted {descs : List TypeDesc} {d : TypeDesc}
    (h : d ∈ core.admitted patterns descs) : core.isAny d = false := by
  obtain ⟨x, -, made⟩ := List.mem_filterMap.1 h
  dsimp only at made
  split_ifs at made with admits
  cases made
  simp only [CoreDesc.admits, Bool.and_eq_true, Bool.not_eq_true'] at admits
  exact admits.1.1

theorem sublist_admitted (descs : List TypeDesc) :
    (core.admitted patterns descs).Sublist descs := by
  induction descs using List.reverseRecOn with
  | nil => exact List.Sublist.refl _
  | append_singleton descs d ih =>
    rw [admitted_concat]
    refine ih.append ?_
    split_ifs
    · exact List.Sublist.refl _
    · exact List.nil_sublist _

/-- For a name that does not stand for anything, the type that comes in is the first one that is in
order. -/
theorem find?_admitted (descs : List TypeDesc) {name : String}
    (plain : core.anyTypes.contains name = false) :
    ((core.admitted patterns descs).find? fun d => d.name = name) =
      descs.find? fun d => d.name = name && (core.merged d).compiles patterns := by
  induction descs using List.reverseRecOn with
  | nil => rfl
  | append_singleton descs d ih =>
    rw [admitted_concat, List.find?_append, List.find?_append, ih]
    cases found : descs.find? fun d => d.name = name && (core.merged d).compiles patterns with
    | some first => rfl
    | none =>
      -- no earlier type has taken the name
      have free : core.taken patterns descs name = false := by
        rw [taken, List.any_eq_false]
        exact List.find?_eq_none.1 found
      simp only [Option.none_or]
      by_cases same : d.name = name
      · have other : core.isAny d = false := by rw [isAny, same, plain]
        rw [admits, same, free, other]
        cases order : (core.merged d).compiles patterns <;> simp [same, order]
      · split_ifs <;> simp [same]

theorem mem_names_admitted (descs : List TypeDesc) {name : String}
    (plain : core.anyTypes.contains name = false) :
    name ∈ (core.admitted patterns descs).map TypeDesc.name ↔
      core.taken patterns descs name = true := by
  have found : ((core.admitted patterns descs).find? fun d => d.name = name).isSome =
      (descs.find? fun d => d.name = name && (core.merged d).compiles patterns).isSome := by
    rw [find?_admitted descs plain]
  rw [taken, ← List.isSome_find?, ← found, List.find?_isSome]
  simp

end CoreDesc

/-! ### Loading -/

namespace TypeTable

variable {patterns : PatternReader} {core : CoreDesc} {surface : SurfaceDesc}

/-- Entering one type, by what becomes of it. -/
theorem enter_eq (types : OrderedMap String DataType) (issues : List Issue) (d : TypeDesc) :
    enter patterns (OrderedMap.ofList (core.types.map fun d => (d.name, d))) core.voidTypes
        (types, issues) d =
      if types.contains d.name then (types, issues ++ [.duplicateType d.name])
      else ((core.merged d).fault? patterns).elim
        (types.insert d.name (core.typeOf patterns d), issues) fun reason =>
          (types, issues ++ [.invalidValidator d.name reason]) := by
  unfold enter CoreDesc.typeOf
  dsimp only
  rw [core.overlayFor?_eq, CoreDesc.merged]
  split_ifs
  · rfl
  · cases core.wordFor? d with
    | none =>
      rw [Option.elim_none, DataType.load_eq]
      cases d.fault? patterns <;> rfl
    | some c =>
      rw [Option.elim_some, DataType.load_eq]
      cases (d.overlay c).fault? patterns <;> rfl

/-- Entering the types in turn, after one that stands for anything, admits those that come in and
reports on the others. -/
theorem foldl_enter {start : OrderedMap String DataType} {name : String}
    (keys : start.keys = [name]) (any : core.anyTypes.contains name = true)
    (descs : List TypeDesc) :
    let state := (descs.filter (!core.isAny ·)).foldl
      (enter patterns (OrderedMap.ofList (core.types.map fun d => (d.name, d))) core.voidTypes)
      (start, [])
    state.1.entries = start.entries ++
        (core.admitted patterns descs).map (fun d => (d.name, core.typeOf patterns d)) ∧
      state.2 = core.complaints patterns descs := by
  induction descs using List.reverseRecOn with
  | nil => exact ⟨(List.append_nil _).symm, rfl⟩
  | append_singleton descs d ih =>
    obtain ⟨entries, issues⟩ := ih
    rw [CoreDesc.complaints, sift_concat, ← CoreDesc.complaints, CoreDesc.admitted_concat,
      List.filter_append, List.foldl_append]
    generalize (descs.filter (!core.isAny ·)).foldl (enter patterns
      (OrderedMap.ofList (core.types.map fun d => (d.name, d))) core.voidTypes) (start, []) = state
      at entries issues
    obtain ⟨types, found⟩ := state
    dsimp only at entries issues
    by_cases plain : core.isAny d = true
    · -- types that stand for anything are passed over
      simp [CoreDesc.admits, CoreDesc.complaint?, plain, entries, issues]
    · have plain : core.isAny d = false := by simpa using plain
      -- the names in the table are those that are taken
      have known : types.contains d.name = core.taken patterns descs d.name := by
        have other : d.name ≠ name := by
          rintro rfl
          rw [CoreDesc.isAny, any] at plain
          cases plain
        have names : types.keys = name :: (core.admitted patterns descs).map TypeDesc.name := by
          have first : start.entries.map Prod.fst = [name] := keys
          rw [OrderedMap.keys, entries, List.map_append, first, List.map_map]
          rfl
        rw [Bool.eq_iff_iff, OrderedMap.contains_iff, names, List.mem_cons, or_iff_right other]
        exact CoreDesc.mem_names_admitted descs plain
      rw [List.filter_cons_of_pos (by simp [plain]), List.filter_nil, List.foldl_cons,
        List.foldl_nil, enter_eq, known]
      cases taken : core.taken patterns descs d.name with
      | true => simp [CoreDesc.admits, CoreDesc.complaint?, plain, taken, entries, issues]
      | false =>
        -- a free name is entered unless something is wrong with the validator
        cases fault : (core.merged d).fault? patterns with
        | some reason =>
          simp [CoreDesc.admits, CoreDesc.complaint?, TypeDesc.compiles, plain, taken, fault,
            entries, issues]
        | none =>
          have new : d.name ∉ types.keys := by
            rw [← OrderedMap.contains_iff, known, taken]
            exact Bool.false_ne_true
          simp [CoreDesc.admits, CoreDesc.complaint?, TypeDesc.compiles, plain, taken, fault,
            entries, issues, OrderedMap.entries_insert_of_notMem new]

/-- The first type that stands for anything is needed, and has to be in order. -/
theorem find?_of_load {types : TypeTable} {issues : List Issue}
    (h : load patterns core surface = .ok (types, issues)) :
    ∃ any, surface.types.find? core.isAny = some any ∧ any.compiles patterns = true := by
  unfold load at h
  dsimp only at h
  split at h
  · rename_i any found
    refine ⟨any, found, ?_⟩
    rw [DataType.load_eq] at h
    cases fault : any.fault? patterns with
    | none => rw [TypeDesc.compiles, fault, Option.isNone_none]
    | some reason =>
      rw [fault] at h
      cases h
  · cases h

/-- With such a type, everything depends on the type for conditions. -/
theorem load_of_find? {any : TypeDesc} (found : surface.types.find? core.isAny = some any)
    (order : any.compiles patterns = true) :
    ∃ types : OrderedMap String DataType,
      types.entries = (any.name, .ofDesc patterns any (core.voidTypes.contains any.name) true) ::
        (core.admitted patterns surface.types).map (fun d => (d.name, core.typeOf patterns d)) ∧
      load patterns core surface = (types.get? core.logicType).elim
        (.error (.missingLogicType core.logicType)) fun logic =>
          .ok (⟨types, .ofDesc patterns any (core.voidTypes.contains any.name) true, logic⟩,
            core.complaints patterns surface.types) := by
  have listed : core.isAny any = true := List.find?_some found
  have made : DataType.load patterns any (core.voidTypes.contains any.name) true =
      .ok (.ofDesc patterns any (core.voidTypes.contains any.name) true) := by
    rw [DataType.load_eq, Option.isNone_iff_eq_none.1 order]
    rfl
  have keys : (OrderedMap.empty.insert any.name
      (DataType.ofDesc patterns any (core.voidTypes.contains any.name) true)).keys =
        [any.name] := rfl
  obtain ⟨entries, issues⟩ := foldl_enter keys listed surface.types
  generalize folded : (surface.types.filter (!core.isAny ·)).foldl _ _ = state at entries issues
  refine ⟨state.1, entries, ?_⟩
  unfold CoreDesc.isAny at found folded
  unfold load
  dsimp only
  rw [found]
  dsimp only
  rw [made]
  dsimp only
  rw [folded, ← issues]
  cases state.1.get? core.logicType <;> rfl

/-- The names in a table with the types that come in. -/
theorem mem_keys_of_entries {any : TypeDesc} {t : DataType}
    {types : OrderedMap String DataType} {descs : List TypeDesc}
    (entries : types.entries =
      (any.name, t) ::
        (core.admitted patterns descs).map (fun d => (d.name, core.typeOf patterns d)))
    (name : String) :
    name ∈ types.keys ↔ name = any.name ∨ core.anyTypes.contains name = false ∧
      ∃ d ∈ descs, d.name = name ∧ (core.merged d).compiles patterns = true := by
  have keys : types.keys = any.name :: (core.admitted patterns descs).map TypeDesc.name := by
    rw [OrderedMap.keys, entries, List.map_cons, List.map_map]
    rfl
  rw [keys, List.mem_cons]
  refine or_congr_right ?_
  cases plain : core.anyTypes.contains name with
  | false =>
    rw [CoreDesc.mem_names_admitted descs plain]
    simp [CoreDesc.taken]
  | true =>
    -- what comes in does not stand for anything
    simp only [Bool.true_eq_false, false_and, iff_false]
    rintro mem
    obtain ⟨d, hd, rfl⟩ := List.mem_map.1 mem
    have other := CoreDesc.isAny_of_mem_admitted hd
    rw [CoreDesc.isAny, plain] at other
    cases other

/-- A language loads if and only if its first type that stands for anything has no validator or one
that is a pattern, and the type for conditions is that one or comes in.  Then the table begins with
the type that stands for anything, as the language gives it, and has, in the order of the language
and each under its own name, the types that come in: for each other name the first one whose
validator, after the core's word, is a pattern.  No other type in the table stands for anything.
Reports are made, in the order of the language, on every type whose name is taken and on every type
that is not in order, unless the core lists it among those that stand for anything. -/
theorem load_admits (patterns : PatternReader) (core : CoreDesc) (surface : SurfaceDesc) :
    ((∃ types issues, load patterns core surface = .ok (types, issues)) ↔
      ∃ any, surface.types.find? core.isAny = some any ∧ any.compiles patterns = true ∧
        (core.logicType = any.name ∨ core.anyTypes.contains core.logicType = false ∧
          ∃ d ∈ surface.types, d.name = core.logicType ∧
            (core.merged d).compiles patterns = true)) ∧
    ((core.admitted patterns surface.types).Sublist surface.types ∧
      (∀ d ∈ core.admitted patterns surface.types, core.isAny d = false) ∧
      ∀ name, core.anyTypes.contains name = false →
        ((core.admitted patterns surface.types).find? fun d => d.name = name) =
          surface.types.find? fun d => d.name = name && (core.merged d).compiles patterns) ∧
    ∀ types issues, load patterns core surface = .ok (types, issues) →
      (∃ any, surface.types.find? core.isAny = some any ∧
        types.any = .ofDesc patterns any (core.voidTypes.contains any.name) true ∧
        types.types.entries = (any.name, types.any) ::
          (core.admitted patterns surface.types).map fun d => (d.name, core.typeOf patterns d)) ∧
      types.types.keys.Nodup ∧
      (∀ x ∈ types.types.entries, x.2.name = x.1 ∧ (x.2.isAny = true ↔ x.2 = types.any)) ∧
      types.get? core.logicType = some types.logic ∧
      issues = core.complaints patterns surface.types := by
  refine ⟨?_, ⟨CoreDesc.sublist_admitted _, fun d => CoreDesc.isAny_of_mem_admitted,
    fun name plain => CoreDesc.find?_admitted _ plain⟩, ?_⟩
  · constructor
    · rintro ⟨types, issues, h⟩
      obtain ⟨any, found, order⟩ := find?_of_load h
      obtain ⟨loaded, entries, eq⟩ := load_of_find? found order
      refine ⟨any, found, order, (mem_keys_of_entries entries _).1 ?_⟩
      rw [eq] at h
      cases logic : loaded.get? core.logicType with
      | none =>
        rw [logic] at h
        cases h
      | some t => exact OrderedMap.mem_keys_iff.2 ⟨t, logic⟩
    · rintro ⟨any, found, order, registered⟩
      obtain ⟨loaded, entries, eq⟩ := load_of_find? found order
      obtain ⟨t, logic⟩ := OrderedMap.mem_keys_iff.1
        ((mem_keys_of_entries entries _).2 registered)
      rw [logic] at eq
      exact ⟨_, _, eq⟩
  · intro types issues h
    obtain ⟨any, found, order⟩ := find?_of_load h
    obtain ⟨loaded, entries, eq⟩ := load_of_find? found order
    cases logic : loaded.get? core.logicType with
    | none =>
      rw [eq, logic] at h
      cases h
    | some t =>
      rw [eq, logic] at h
      cases h
      refine ⟨⟨any, found, rfl, entries⟩, loaded.nodup, fun x mem => ?_, logic, rfl⟩
      rw [entries] at mem
      rcases List.mem_cons.1 mem with rfl | mem
      · exact ⟨rfl, by simp [DataType.ofDesc]⟩
      · obtain ⟨d, -, rfl⟩ := List.mem_map.1 mem
        refine ⟨core.name_merged d, by simp [CoreDesc.typeOf, DataType.ofDesc], fun same => ?_⟩
        have flags := congrArg DataType.isAny same
        cases flags

end TypeTable

namespace Sample

def vettedCore : CoreDesc where
  types := [{ name := "bool", template := some "$" },
    { name := "int", validator := some "^[0-9]+$" }]
  anyTypes := ["any", "auto"]
  voidTypes := ["void"]
  logicType := "bool"

/-- The first tag is no pattern, and so the second one comes in and the third one is too late.  The
validator of the count is no pattern either, but the core's word for its base counts. -/
def vettedSurface : SurfaceDesc where
  types := [{ name := "any", spelling := "any" }, { name := "tag", validator := some "(" },
    { name := "auto" }, { name := "tag", spelling := "tag" },
    { name := "count", base := some "int", validator := some "[" },
    { name := "tag", spelling := "label" }, { name := "bool", spelling := "bool" }]

theorem load_admits_vetted :
    ∃ types issues, TypeTable.load Pattern.reader vettedCore vettedSurface = .ok (types, issues) ∧
      types.types.keys = ["any", "tag", "count", "bool"] ∧ types.logic.name = "bool" ∧
      types.types.values.map (·.spelling) = ["any", "tag", "", "bool"] ∧
      issues = [.invalidValidator "tag" "not a pattern", .duplicateType "tag"] := by
  obtain ⟨loads, -, holds⟩ := TypeTable.load_admits Pattern.reader vettedCore vettedSurface
  obtain ⟨types, issues, loaded⟩ :=
    loads.2 ⟨{ name := "any", spelling := "any" }, by decide +kernel⟩
  obtain ⟨⟨any, found, first, entries⟩, -, named, logic, reports⟩ := holds types issues loaded
  obtain rfl : { name := "any", spelling := "any" } = any :=
    Option.some.inj ((by decide +kernel : _ = _).trans found)
  refine ⟨types, issues, loaded, ?_, ?_, ?_, ?_⟩
  · rw [OrderedMap.keys, entries, first]
    decide +kernel
  · exact (named _ (OrderedMap.get?_eq_some_iff.1 logic)).1
  · rw [OrderedMap.values, entries, first]
    decide +kernel
  · rw [reports]
    decide +kernel

/-- The language gives the type that stands for anything twice. -/
def doubledSurface : SurfaceDesc where
  types := [{ name := "any", spelling := "any" }, { name := "any", spelling := "whatever" },
    { name := "bool", spelling := "bool" }]

theorem doubled_loads :
    (TypeTable.load Pattern.reader vettedCore doubledSurface).toOption.isSome = true := by
  decide +kernel

/-- The table and the reports. -/
def doubled : TypeTable × List Issue :=
  (TypeTable.load Pattern.reader vettedCore doubledSurface).toOption.get doubled_loads

theorem doubled_load_eq : TypeTable.load Pattern.reader vettedCore doubledSurface = .ok doubled :=
  eq_ok_get_toOption doubled_loads

/-- The second type of that name comes after the name is taken, and there is no report on it. -/
theorem doubled_any_unreported :
    TypeTable.load Pattern.reader vettedCore doubledSurface = .ok doubled ∧
      doubledSurface.types.map TypeDesc.name = ["any", "any", "bool"] ∧
      doubled.1.types.keys = ["any", "bool"] ∧ doubled.2.count (.duplicateType "any") = 0 :=
  ⟨doubled_load_eq, rfl, by decide +kernel, by decide +kernel⟩

end Sample

end FlowScript
