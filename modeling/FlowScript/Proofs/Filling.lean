import FlowScript.Language.Template
import Mathlib.Data.List.Induction
import Mathlib.Data.List.Perm.Basic

/-!
# Filling a template is one scan

Where the holes of a template are is settled by the template and the names of the arguments alone.
A scan from the left cuts the template into characters that stand for themselves and holes, and
filling puts the values of the holes between the characters.  Values are never looked at, so they
may hold anything, and arguments with different names may come in any order.

* `Template.Longest`: the longest of some names at the front of a text;
* `Template.Scans`: how a scan cuts a template into pieces; `Template.Scans.unique`;
* `Template.longest?_eq_some`, `Template.longest?_eq_none`: what is looked for at each `$`;
* `Template.Scans.fillChars`: filling follows the scan;
* `Template.fill_pieces`: filling in terms of the pieces of the template.
-/

namespace FlowScript.Template

/-! ### Names at the front of a text -/

/-- A name stands at the front of a text; the empty name never does. -/
def Fits (name : String) (cs : List Char) : Prop := name ≠ "" ∧ name.toList <+: cs

/-- The longest of some names that stand at the front of a text. -/
structure Longest (names : List String) (name : String) (cs : List Char) : Prop where
  mem : name ∈ names
  fits : Fits name cs
  le : ∀ other ∈ names, Fits other cs → other.length ≤ name.length

variable {names : List String} {name other : String} {cs : List Char}

/-- Names at the front of the same text are told apart by their lengths. -/
theorem Fits.eq_of_length (h : Fits name cs) (h' : Fits other cs)
    (length : name.length = other.length) : name = other := by
  have sameLength : name.toList.length = other.toList.length := by
    rw [String.length_toList, String.length_toList, length]
  have sameList : name.toList = other.toList := by
    rw [List.prefix_iff_eq_take.1 h.2, List.prefix_iff_eq_take.1 h'.2, sameLength]
  exact String.toList_injective sameList

theorem Longest.unique (h : Longest names name cs) (h' : Longest names other cs) :
    name = other := by
  refine h.fits.eq_of_length h'.fits ?_
  exact Nat.le_antisymm (h'.le name h.mem h.fits) (h.le other h'.mem h'.fits)

/-! ### Pieces of a template -/

/-- A piece of a template: a character that stands for itself, or a hole. -/
inductive Piece
  | literal (c : Char)
  | hole (name : String)
  deriving DecidableEq

/-- How a piece is written in the template. -/
def Piece.source : Piece → List Char
  | .literal c => [c]
  | .hole name => '$' :: name.toList

/-- How a scan from the left cuts a template into pieces: a `$` before a name makes a hole for the
longest such name, and any other character stands for itself. -/
inductive Scans (names : List String) : List Char → List Piece → Prop
  | nil : Scans names [] []
  | plain {c : Char} {cs : List Char} {ps : List Piece} (other : c ≠ '$')
      (rest : Scans names cs ps) : Scans names (c :: cs) (.literal c :: ps)
  | hole {name : String} {cs : List Char} {ps : List Piece}
      (longest : Longest names name (name.toList ++ cs)) (rest : Scans names cs ps) :
      Scans names ('$' :: (name.toList ++ cs)) (.hole name :: ps)
  | dollar {cs : List Char} {ps : List Piece} (none : ∀ name ∈ names, ¬ Fits name cs)
      (rest : Scans names cs ps) : Scans names ('$' :: cs) (.literal '$' :: ps)

variable {ps ps' : List Piece}

/-- The pieces make up the template. -/
theorem Scans.flatMap_source (h : Scans names cs ps) : ps.flatMap Piece.source = cs := by
  induction h with
  | nil => rfl
  | plain _ _ ih => simp [Piece.source, ih]
  | hole _ _ ih => simp [Piece.source, ih]
  | dollar _ _ ih => simp [Piece.source, ih]

/-- The template and the names settle the pieces. -/
theorem Scans.unique (h : Scans names cs ps) (h' : Scans names cs ps') : ps = ps' := by
  induction h generalizing ps' with
  | nil =>
    cases h'
    rfl
  | plain other _ ih =>
    cases h' with
    | plain _ rest => rw [ih rest]
    | hole => exact absurd rfl other
    | dollar => exact absurd rfl other
  | @hole name cs ps longest _ ih =>
    generalize whole : '$' :: (name.toList ++ cs) = text at h'
    cases h' with
    | nil => cases whole
    | plain other => exact absurd (List.cons.inj whole).1.symm other
    | @hole name' cs' _ longest' rest =>
      have same := (List.cons.inj whole).2
      obtain rfl : name = name' := longest.unique (same ▸ longest')
      obtain rfl : cs = cs' := List.append_cancel_left same
      rw [ih rest]
    | dollar none =>
      have same := (List.cons.inj whole).2
      exact absurd (same ▸ longest.fits) (none name longest.mem)
  | @dollar cs ps none _ ih =>
    generalize whole : '$' :: cs = text at h'
    cases h' with
    | nil => cases whole
    | plain other => exact absurd (List.cons.inj whole).1.symm other
    | hole longest =>
      have same := (List.cons.inj whole).2
      exact absurd (same.symm ▸ longest.fits) (none _ longest.mem)
    | dollar _ rest =>
      obtain rfl := (List.cons.inj whole).2
      rw [ih rest]

/-! ### What filling looks for -/

variable {args : List Argument} {arg : Argument}

/-- The value of a name; of equal names the last counts. -/
def valueOf (args : List Argument) (name : String) : String :=
  ((args.reverse.find? fun arg => arg.1 = name).map Prod.snd).getD ""

theorem valueOf_concat (args : List Argument) (arg : Argument) (name : String) :
    valueOf (args ++ [arg]) name = if arg.1 = name then arg.2 else valueOf args name := by
  unfold valueOf
  rw [List.reverse_append, List.reverse_singleton, List.singleton_append, List.find?_cons]
  by_cases same : arg.1 = name <;> simp [same]

/-- Arguments with different names have the values that they are given with. -/
theorem valueOf_of_mem (nodup : (args.map Prod.fst).Nodup) (mem : arg ∈ args) :
    valueOf args arg.1 = arg.2 := by
  induction args using List.reverseRecOn with
  | nil => cases mem
  | append_singleton args last ih =>
    rw [List.map_append, List.map_singleton] at nodup
    rw [valueOf_concat]
    rcases List.mem_append.1 mem with mem | mem
    · -- the last name is another one
      have other : last.1 ≠ arg.1 := by
        intro same
        have disjoint := (List.nodup_append.1 nodup).2.2
        exact disjoint _ (List.mem_map_of_mem mem) _ (List.mem_singleton.2 rfl) same.symm
      rw [if_neg other]
      exact ih (List.nodup_append.1 nodup).1 mem
    · obtain rfl := List.mem_singleton.1 mem
      rw [if_pos rfl]

theorem valueOf_of_notMem (absent : name ∉ args.map Prod.fst) : valueOf args name = "" := by
  have nothing : (args.reverse.find? fun arg => arg.1 = name) = none := by
    rw [List.find?_eq_none]
    intro arg mem same
    refine absent (List.mem_map.2 ⟨arg, List.mem_reverse.1 mem, ?_⟩)
    simpa using same
  rw [valueOf, nothing]
  rfl

/-- Arguments with different names have the same values in any order. -/
theorem valueOf_perm {args' : List Argument} (nodup : (args.map Prod.fst).Nodup)
    (perm : args.Perm args') (name : String) : valueOf args' name = valueOf args name := by
  have names := perm.map Prod.fst
  by_cases given : name ∈ args.map Prod.fst
  · obtain ⟨arg, mem, rfl⟩ := List.mem_map.1 given
    have nodup' := names.nodup_iff.1 nodup
    rw [valueOf_of_mem nodup mem, valueOf_of_mem nodup' (perm.mem_iff.1 mem)]
  · rw [valueOf_of_notMem given, valueOf_of_notMem (mt names.mem_iff.2 given)]

theorem longest?_concat (args : List Argument) (arg : Argument) (cs : List Char) :
    longest? (args ++ [arg]) cs =
      if arg.1 ≠ "" ∧ arg.1.toList.isPrefixOf cs then
        (longest? args cs).elim (some arg) fun best =>
          if best.1.length ≤ arg.1.length then some arg else some best
      else longest? args cs := by
  unfold longest?
  rw [List.foldl_concat]
  split_ifs
  · split <;> rename_i found <;> rw [found] <;> rfl
  · rfl

/-- What is found at a `$`: the longest name, with its value, or nothing if no name stands there. -/
def Finds (args : List Argument) (cs : List Char) : Option Argument → Prop
  | none => ∀ name ∈ args.map Prod.fst, ¬ Fits name cs
  | some arg => Longest (args.map Prod.fst) arg.1 cs ∧ arg.2 = valueOf args arg.1

/-- A further argument that is at least as long as those before it is found. -/
theorem Finds.last (fits : Fits arg.1 cs)
    (le : ∀ other ∈ args.map Prod.fst, Fits other cs → other.length ≤ arg.1.length) :
    Finds (args ++ [arg]) cs (some arg) := by
  refine ⟨⟨by simp, fits, fun other mem fits' => ?_⟩, by rw [valueOf_concat, if_pos rfl]⟩
  rw [List.map_append, List.map_singleton, List.mem_append, List.mem_singleton] at mem
  rcases mem with mem | rfl
  · exact le other mem fits'
  · exact Nat.le_refl _

/-- A further argument that does not fit or is shorter is passed over. -/
theorem Finds.earlier {best : Argument} (h : Finds args cs (some best))
    (shorter : Fits arg.1 cs → arg.1.length < best.1.length) :
    Finds (args ++ [arg]) cs (some best) := by
  obtain ⟨longest, value⟩ := h
  have other : arg.1 ≠ best.1 := by
    intro same
    rw [same] at shorter
    exact Nat.lt_irrefl _ (shorter longest.fits)
  refine ⟨⟨by simp [longest.mem], longest.fits, fun name mem fits => ?_⟩, ?_⟩
  · rw [List.map_append, List.map_singleton, List.mem_append, List.mem_singleton] at mem
    rcases mem with mem | rfl
    · exact longest.le name mem fits
    · exact Nat.le_of_lt (shorter fits)
  · rw [valueOf_concat, if_neg other, value]

theorem finds_longest? (args : List Argument) (cs : List Char) :
    Finds args cs (longest? args cs) := by
  induction args using List.reverseRecOn with
  | nil => exact fun name mem => by cases mem
  | append_singleton args arg ih =>
    rw [longest?_concat]
    split_ifs with fits
    · have fits : Fits arg.1 cs := ⟨fits.1, List.isPrefixOf_iff_prefix.1 fits.2⟩
      cases found : longest? args cs with
      | none =>
        rw [found] at ih
        exact .last fits fun other mem fits' => absurd fits' (ih other mem)
      | some best =>
        rw [found] at ih
        rw [Option.elim_some]
        split_ifs with le
        · exact .last fits fun other mem fits' => Nat.le_trans (ih.1.le other mem fits') le
        · exact ih.earlier fun _ => Nat.lt_of_not_le le
    · have absent : ¬ Fits arg.1 cs :=
        fun h => fits ⟨h.1, List.isPrefixOf_iff_prefix.2 h.2⟩
      cases found : longest? args cs with
      | none =>
        rw [found] at ih
        intro name mem
        rw [List.map_append, List.map_singleton, List.mem_append, List.mem_singleton] at mem
        rcases mem with mem | rfl
        · exact ih name mem
        · exact absent
      | some best =>
        rw [found] at ih
        exact ih.earlier fun fits => absurd fits absent

theorem longest?_eq_some (longest : Longest (args.map Prod.fst) name cs) :
    longest? args cs = some (name, valueOf args name) := by
  have finds := finds_longest? args cs
  cases found : longest? args cs with
  | none =>
    rw [found] at finds
    exact absurd longest.fits (finds name longest.mem)
  | some arg =>
    rw [found] at finds
    obtain ⟨longest', value⟩ := finds
    obtain rfl := longest'.unique longest
    rw [← value]

theorem longest?_eq_none (none : ∀ name ∈ args.map Prod.fst, ¬ Fits name cs) :
    longest? args cs = .none := by
  have finds := finds_longest? args cs
  cases found : longest? args cs with
  | none => rfl
  | some arg =>
    rw [found] at finds
    exact absurd finds.1.fits (none _ finds.1.mem)

/-! ### Filling follows the scan -/

/-- Every template has a scan. -/
theorem exists_scans (names : List String) (cs : List Char) : ∃ ps, Scans names cs ps := by
  induction length : cs.length using Nat.strongRecOn generalizing cs with
  | ind n ih =>
    cases cs with
    | nil => exact ⟨[], .nil⟩
    | cons c cs =>
      rw [List.length_cons] at length
      by_cases dollar : c = '$'
      · subst dollar
        -- the names alone decide, so they may stand for themselves as values
        have finds := finds_longest? (names.map fun name => (name, name)) cs
        have fst : (names.map fun name => (name, name)).map Prod.fst = names := by
          simp [Function.comp_def]
        cases found : longest? (names.map fun name => (name, name)) cs with
        | none =>
          rw [found, Finds, fst] at finds
          obtain ⟨ps, rest⟩ := ih cs.length (by omega) cs rfl
          exact ⟨_, .dollar finds rest⟩
        | some arg =>
          rw [found, Finds, fst] at finds
          obtain ⟨longest, -⟩ := finds
          obtain ⟨rest, rfl⟩ := longest.fits.2
          rw [List.length_append] at length
          obtain ⟨ps, scan⟩ := ih rest.length (by omega) rest rfl
          exact ⟨_, .hole longest scan⟩
      · obtain ⟨ps, rest⟩ := ih cs.length (by omega) cs rfl
        exact ⟨_, .plain dollar rest⟩

/-- A piece with the value of its hole. -/
def Piece.filled (args : List Argument) : Piece → List Char
  | .literal c => [c]
  | .hole name => (valueOf args name).toList

/-- A name that was read is passed over. -/
theorem fillChars_append (args : List Argument) (front cs : List Char) :
    fillChars args front.length (front ++ cs) = fillChars args 0 cs := by
  induction front with
  | nil => rfl
  | cons c front ih =>
    rw [List.length_cons, List.cons_append, fillChars]
    exact ih

/-- Filling puts the values of the holes between the characters. -/
theorem Scans.fillChars (h : Scans (args.map Prod.fst) cs ps) :
    Template.fillChars args 0 cs = ps.flatMap (Piece.filled args) := by
  induction h with
  | nil => rfl
  | plain other _ ih => simp [Template.fillChars, Piece.filled, other, ih]
  | @hole name cs ps longest _ ih =>
    have passed := fillChars_append args name.toList cs
    rw [String.length_toList] at passed
    simp [Template.fillChars, Piece.filled, longest?_eq_some longest, passed, ih]
  | dollar none _ ih => simp [Template.fillChars, Piece.filled, longest?_eq_none none, ih]

/-- The scan reads the names in any order. -/
theorem Scans.mono {names' : List String} (same : ∀ name, name ∈ names ↔ name ∈ names')
    (h : Scans names cs ps) : Scans names' cs ps := by
  induction h with
  | nil => exact .nil
  | plain other _ ih => exact .plain other ih
  | hole longest _ ih =>
    refine .hole ⟨(same _).1 longest.mem, longest.fits, fun other mem => ?_⟩ ih
    exact longest.le other ((same other).2 mem)
  | dollar none _ ih => exact .dollar (fun name mem => none name ((same name).2 mem)) ih

/-- A template and some names settle the pieces of the template.  Whatever values the names have,
filling the template gives the pieces with the value of its name for every hole, the last one where
a name is given twice.  Where no name is given twice, every argument has its own value, and the
order of the arguments does not matter. -/
theorem fill_pieces (template : String) (names : List String) :
    ∃ pieces, Scans names template.toList pieces ∧
      (∀ other, Scans names template.toList other → other = pieces) ∧
      pieces.flatMap Piece.source = template.toList ∧
      (∀ args : List Argument, args.map Prod.fst = names →
        (fill template args).toList = pieces.flatMap (Piece.filled args)) ∧
      ∀ args : List Argument, args.map Prod.fst = names → names.Nodup →
        (∀ arg ∈ args, valueOf args arg.1 = arg.2) ∧
          ∀ args' : List Argument, args.Perm args' → fill template args' = fill template args := by
  obtain ⟨pieces, scan⟩ := exists_scans names template.toList
  have filled : ∀ args : List Argument, Scans (args.map Prod.fst) template.toList pieces →
      (fill template args).toList = pieces.flatMap (Piece.filled args) := by
    intro args scan
    rw [fill, String.toList_ofList, scan.fillChars]
  refine ⟨pieces, scan, fun other scan' => scan'.unique scan, scan.flatMap_source, ?_, ?_⟩
  · rintro args rfl
    exact filled args scan
  · rintro args rfl nodup
    refine ⟨fun arg mem => valueOf_of_mem nodup mem, fun args' perm => ?_⟩
    have names : ∀ name, name ∈ args.map Prod.fst ↔ name ∈ args'.map Prod.fst :=
      fun name => (perm.map Prod.fst).mem_iff
    apply String.toList_injective
    rw [filled args scan, filled args' (scan.mono names)]
    have same : Piece.filled args' = Piece.filled args := by
      funext piece
      cases piece with
      | literal c => rfl
      | hole name => rw [Piece.filled, Piece.filled, valueOf_perm nodup perm]
    rw [same]

end FlowScript.Template

namespace FlowScript.Sample

/-- A name is the beginning of another one, a value looks like a hole, and two `$` stand for
themselves.  With other values the holes are in the same places. -/
theorem fill_pieces_overlapping :
    ∃ pieces, Template.Scans ["a", "b", "ab"] "$ab|$a|$c|$".toList pieces ∧
      "x|\"$b\"|$c|$".toList =
        pieces.flatMap (Template.Piece.filled [("a", "\"$b\""), ("b", "2"), ("ab", "x")]) ∧
      "$a|$ab|$c|$".toList =
        pieces.flatMap (Template.Piece.filled [("a", "$ab"), ("b", ""), ("ab", "$a")]) ∧
      Template.fill "$ab|$a|$c|$" [("ab", "x"), ("a", "\"$b\""), ("b", "2")] =
        "x|\"$b\"|$c|$" := by
  obtain ⟨pieces, scan, -, -, filled, order⟩ :=
    Template.fill_pieces "$ab|$a|$c|$" ["a", "b", "ab"]
  have first : Template.fill "$ab|$a|$c|$" [("a", "\"$b\""), ("b", "2"), ("ab", "x")] =
      "x|\"$b\"|$c|$" := by
    decide +kernel
  have second : Template.fill "$ab|$a|$c|$" [("a", "$ab"), ("b", ""), ("ab", "$a")] =
      "$a|$ab|$c|$" := by
    decide +kernel
  refine ⟨pieces, scan, ?_, ?_, ?_⟩
  · rw [← first]
    exact filled _ rfl
  · rw [← second]
    exact filled _ rfl
  · rw [← first]
    exact (order _ rfl (by decide)).2 _ (by decide)

end FlowScript.Sample
