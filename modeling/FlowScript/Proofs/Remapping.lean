import FlowScript.Proofs.Grounds
import FlowScript.Proofs.LineMap

/-!
# Errors of the toolchain

The errors that a toolchain reports about the generated file are added to the diagnostics one by
one: to the messages of the node that owns the line, or to the messages about lines.  What comes out
is known in advance for any list of errors, and so no error is lost and none is added twice.

* `ToolError.fileName_eq_iff`: the file that an error is about is the last segment of its path;
* `LineOwners.Accounts`: what diagnostics are once some errors were added to others;
* `LineOwners.Accounts.trans`, `LineOwners.Accounts.unique`: accounts follow one another, and leave
  no choice;
* `LineOwners.accounts_record`, `LineOwners.accounts_foldl_record`: one error, and a list of them;
* `LineOwners.notices_foldl_record`: each error adds one message to all that there are;
* `LineOwners.remap_accounts`: the errors about a file.
-/

namespace FlowScript

/-! ### Errors and their messages -/

namespace ToolError

theorem slash_notMem_fileName (e : ToolError) : '/' ∉ e.fileName.toList := by
  intro mem
  rw [fileName, String.toList_ofList, List.mem_reverse] at mem
  have kept := List.all_eq_true.1 List.all_takeWhile _ mem
  simp at kept

/-- A path is a name alone, or ends in a slash and a name. -/
theorem file_eq (e : ToolError) : e.file.toList = e.fileName.toList ∨
    ∃ front, e.file.toList = front ++ '/' :: e.fileName.toList := by
  have whole : e.file.toList =
      (e.file.toList.reverse.dropWhile (· != '/')).reverse ++ e.fileName.toList := by
    rw [fileName, String.toList_ofList, ← List.reverse_append, List.takeWhile_append_dropWhile,
      List.reverse_reverse]
  cases rest : e.file.toList.reverse.dropWhile (· != '/') with
  | nil => exact .inl (by simpa [rest] using whole)
  | cons c front =>
    have slash := List.head?_dropWhile_not (· != '/') e.file.toList.reverse
    obtain rfl : c = '/' := by simpa [rest] using slash
    exact .inr ⟨front.reverse, by simpa [rest] using whole⟩

theorem getLast?_splitOn_file (e : ToolError) :
    (e.file.toList.splitOn '/').getLast? = some e.fileName.toList := by
  have name : e.fileName.toList.splitOn '/' = [e.fileName.toList] :=
    List.splitOn_eq_singleton e.slash_notMem_fileName
  rcases e.file_eq with path | ⟨front, path⟩
  · rw [path, name]
    rfl
  · rw [path, List.splitOn_append_cons_self, name, List.getLast?_concat]

/-- An error is about the file that is the last segment of its path. -/
theorem fileName_eq_iff {e : ToolError} {file : String} :
    e.fileName = file ↔ (e.file.toList.splitOn '/').getLast? = some file.toList := by
  rw [getLast?_splitOn_file, Option.some_inj, String.toList_inj]

/-- The errors about a file, in order. -/
def about (file : String) (errors : List ToolError) : List ToolError :=
  errors.filter fun e => (e.file.toList.splitOn '/').getLast? = some file.toList

/-- The lines that follow the message of an error: the suggested fix and the detail. -/
def details (e : ToolError) : List String :=
  [("fixme: ", e.fixme), ("extra: ", e.extra)].filterMap fun (label, text) =>
    if text = "" then none else some (label ++ text)

theorem annotatedMessage_eq (e : ToolError) :
    e.annotatedMessage = "\n".intercalate (e.message :: e.details) := by
  have fixmeLine (text : String) : "\nfixme: " ++ text = "\n" ++ ("fixme: " ++ text) :=
    (String.append_assoc : "\n" ++ "fixme: " ++ text = _)
  have extraLine (text : String) : "\nextra: " ++ text = "\n" ++ ("extra: " ++ text) :=
    (String.append_assoc : "\n" ++ "extra: " ++ text = _)
  unfold annotatedMessage details
  by_cases fixme : e.fixme = "" <;> by_cases extra : e.extra = "" <;>
    simp [fixme, extra, fixmeLine, extraLine, String.append_assoc]

end ToolError

/-! ### The messages of diagnostics -/

/-- A single message: about a node, or about a line. -/
inductive Notice where
  | node (id : NodeId) (text : String)
  | line (message : GlobalMessage)
  deriving DecidableEq

/-- The messages of a node, as single ones. -/
def Notice.ofEntry (entry : NodeId × List String) : List Notice := entry.2.map (.node entry.1)

namespace Diagnostics

variable {d d' : Diagnostics}

/-- All messages, node by node and then those about lines. -/
def notices (d : Diagnostics) : List Notice :=
  d.nodes.entries.flatMap Notice.ofEntry ++ d.global.map .line

theorem entries_eq (d : Diagnostics) :
    d.nodes.entries = d.nodes.keys.map fun id => (id, d.messages id) := by
  rw [OrderedMap.keys, List.map_map]
  refine ((List.map_congr_left fun entry mem => ?_).trans (List.map_id _)).symm
  have found : d.nodes.get? entry.1 = some entry.2 := OrderedMap.get?_eq_some_iff.2 mem
  simp [messages, found]

/-- Diagnostics are known by the order of their nodes, the messages of each and those about
lines. -/
theorem ext_messages (keys : d.nodes.keys = d'.nodes.keys)
    (messages : ∀ id, d.messages id = d'.messages id) (global : d.global = d'.global) : d = d' := by
  have nodes : d.nodes = d'.nodes := by
    refine OrderedMap.ext ?_
    rw [entries_eq, entries_eq, keys]
    exact List.map_congr_left fun id _ => by rw [messages]
  cases d
  cases d'
  simp_all

/-- Among the entries a message comes to stand after those of its node, wherever that is. -/
theorem ofEntry_insertEntry (id : NodeId) (message : String) (l : List (NodeId × List String)) :
    ((OrderedMap.insertEntry id ((OrderedMap.lookupEntry id l).getD [] ++ [message]) l).flatMap
      Notice.ofEntry).Perm (.node id message :: l.flatMap Notice.ofEntry) := by
  induction l with
  | nil => simp [OrderedMap.insertEntry, OrderedMap.lookupEntry, Notice.ofEntry]
  | cons entry rest ih =>
    obtain ⟨other, messages⟩ := entry
    by_cases same : other = id
    · simp [OrderedMap.insertEntry, OrderedMap.lookupEntry, Notice.ofEntry, same]
    · simp only [OrderedMap.insertEntry, OrderedMap.lookupEntry, same, ↓reduceIte,
        List.flatMap_cons]
      exact (ih.append_left _).trans List.perm_middle

theorem notices_addNode (d : Diagnostics) (id : NodeId) (message : String) :
    (d.addNode id message).notices.Perm (d.notices ++ [.node id message]) := by
  have added : (d.addNode id message).notices.Perm (.node id message :: d.notices) :=
    (ofEntry_insertEntry id message d.nodes.entries).append_right _
  exact added.trans (List.perm_append_singleton ..).symm

theorem notices_addGlobal (d : Diagnostics) (line : Int) (message : String) :
    (d.addGlobal line message).notices = d.notices ++ [.line ⟨line, message⟩] := by
  simp [notices, addGlobal]

end Diagnostics

/-! ### Accounts -/

/-- The nodes of a list that are not yet known, each where it stands first. -/
def firstSeen (known ids : List NodeId) : List NodeId := (ids.filter (· ∉ known)).eraseDups

theorem firstSeen_append (known ids more : List NodeId) :
    firstSeen known (ids ++ more) =
      firstSeen known ids ++ firstSeen (known ++ firstSeen known ids) more := by
  unfold firstSeen
  rw [List.filter_append, List.eraseDups_append, List.removeAll, List.filter_filter]
  congr 2
  -- what was known at first is left out of both lists, so it does not matter that only the nodes
  -- that were new count as seen
  refine List.filter_congr fun id _ => ?_
  by_cases old : id ∈ known <;> simp [old]

namespace LineOwners

variable {m : LineOwners} {d d₁ d₂ : Diagnostics} {errors more : List ToolError}

/-- The lines in front of the body are counted with 64 bits. -/
theorem firstLine_eq (m : LineOwners) :
    m.firstLine = (UInt64.ofNat m.headerLines + 1 + UInt64.ofNat m.importHeight).toNat := by
  simp [firstLine]

theorem nodeAt?_eq_some_iff {line : Nat} {id : NodeId} :
    m.nodeAt? line = some id ↔ ∃ i, m.owners[i]? = some (some id) ∧ line = m.firstLine + i := by
  constructor
  · intro found
    unfold nodeAt? at found
    split_ifs at found with after
    exact ⟨line - m.firstLine, Option.join_eq_some_iff.1 found, (Nat.add_sub_cancel' after).symm⟩
  · rintro ⟨i, owner, rfl⟩
    rw [nodeAt?_firstLine_add, owner?, owner]
    rfl

/-- Lines are counted from the header with 64 bits and a sign. -/
theorem relativeLine_eq (line : Nat) :
    m.relativeLine line = (Int64.ofNat line - Int64.ofNat m.headerLines).toInt := by
  rw [Int64.toInt_sub, Int64.toInt_ofNat', Int64.toInt_ofNat']
  exact (Int.bmod_sub_bmod.trans Int.sub_bmod_bmod).symm

/-- The errors on lines with a given owner, in order. -/
def share (m : LineOwners) (owner : Option NodeId) (errors : List ToolError) : List ToolError :=
  errors.filter fun e => m.nodeAt? e.line = owner

theorem share_append (m : LineOwners) (owner : Option NodeId) (errors more : List ToolError) :
    m.share owner (errors ++ more) = m.share owner errors ++ m.share owner more :=
  List.filter_append ..

/-- The message that an error comes to. -/
def notice (m : LineOwners) (e : ToolError) : Notice :=
  match m.nodeAt? e.line with
  | some id => .node id e.annotatedMessage
  | none => .line ⟨m.relativeLine e.line, e.message⟩

/-- What diagnostics become when errors are added: new nodes stand after the old ones, in the order
of their first errors, and the errors of a node, or of lines that no node owns, follow the messages
that were there. -/
structure Accounts (m : LineOwners) (d : Diagnostics) (errors : List ToolError)
    (d' : Diagnostics) : Prop where
  keys : d'.nodes.keys =
    d.nodes.keys ++ firstSeen d.nodes.keys (errors.filterMap fun e => m.nodeAt? e.line)
  messages (id : NodeId) : d'.messages id =
    d.messages id ++ (m.share (some id) errors).map (·.annotatedMessage)
  global : d'.global =
    d.global ++ (m.share none errors).map fun e => ⟨m.relativeLine e.line, e.message⟩

namespace Accounts

theorem nil : m.Accounts d [] d where
  keys := by simp [firstSeen]
  messages id := by simp [share]
  global := by simp [share]

theorem trans (h : m.Accounts d errors d₁) (h' : m.Accounts d₁ more d₂) :
    m.Accounts d (errors ++ more) d₂ where
  keys := by
    rw [h'.keys, h.keys, List.filterMap_append, firstSeen_append, List.append_assoc]
  messages id := by
    rw [h'.messages, h.messages, share_append, List.map_append, List.append_assoc]
  global := by
    rw [h'.global, h.global, share_append, List.map_append, List.append_assoc]

theorem unique (h : m.Accounts d errors d₁) (h' : m.Accounts d errors d₂) : d₁ = d₂ :=
  Diagnostics.ext_messages (h.keys.trans h'.keys.symm)
    (fun id => (h.messages id).trans (h'.messages id).symm) (h.global.trans h'.global.symm)

end Accounts

/-- One error is accounted for, at the node that owns its line or among the messages about
lines. -/
theorem accounts_record (m : LineOwners) (d : Diagnostics) (e : ToolError) :
    m.Accounts d [e] (m.record d e) := by
  unfold record
  cases owner : m.nodeAt? e.line with
  | none =>
    exact {
      keys := by simp [owner, firstSeen, Diagnostics.addGlobal]
      messages := fun id => by simp [owner, share, Diagnostics.addGlobal, Diagnostics.messages]
      global := by simp [owner, share, Diagnostics.addGlobal] }
  | some id =>
    exact {
      keys := by
        refine (OrderedMap.keys_insert ..).trans ?_
        by_cases known : id ∈ d.nodes.keys <;>
          simp [owner, firstSeen, known, List.eraseDups_cons]
      messages := fun other => by
        rw [Diagnostics.messages_addNode]
        by_cases same : id = other <;> simp [owner, share, same]
      global := by simp [owner, share, Diagnostics.addNode] }

/-- Every error of a list is accounted for. -/
theorem accounts_foldl_record (m : LineOwners) (d : Diagnostics) (errors : List ToolError) :
    m.Accounts d errors (errors.foldl m.record d) := by
  -- the rest of the errors is added to what the first one gave
  induction errors generalizing d with
  | nil => exact .nil
  | cons e errors ih => exact (m.accounts_record d e).trans (ih (m.record d e))

theorem notices_record (m : LineOwners) (d : Diagnostics) (e : ToolError) :
    (m.record d e).notices.Perm (d.notices ++ [m.notice e]) := by
  unfold record notice
  cases m.nodeAt? e.line with
  | none => rw [Diagnostics.notices_addGlobal]
  | some id => exact d.notices_addNode id _

theorem notices_foldl_record (m : LineOwners) (d : Diagnostics) (errors : List ToolError) :
    (errors.foldl m.record d).notices.Perm (d.notices ++ errors.map m.notice) := by
  induction errors generalizing d with
  | nil => simp
  | cons e errors ih =>
    have first := (m.notices_record d e).append_right (errors.map m.notice)
    rw [List.append_assoc, List.singleton_append] at first
    exact (ih (m.record d e)).trans first

/-- The errors about other files are passed over. -/
theorem remap_eq_foldl (m : LineOwners) (d : Diagnostics) (errors : List ToolError)
    (file : String) : m.remap d errors file = (ToolError.about file errors).foldl m.record d := by
  unfold remap ToolError.about
  rw [List.foldl_filter]
  simp only [ToolError.fileName_eq_iff, decide_eq_true_eq]

/-- Remapping errors about a file gives the diagnostics that account for those whose path has the
file as its last segment, and no others.  All messages together are the old ones and one for each
of these errors: with its fix and detail at the node that owns its line, else with its line counted
from the header.  The line is looked up after the lines in front of the body, which 64 bits count.
Errors may be remapped in parts. -/
theorem remap_accounts (m : LineOwners) (d : Diagnostics) (errors : List ToolError)
    (file : String) :
    (∀ d', m.remap d errors file = d' ↔ m.Accounts d (ToolError.about file errors) d') ∧
    (m.remap d errors file).notices.Perm
      (d.notices ++ (ToolError.about file errors).map m.notice) ∧
    (∀ more, m.remap (m.remap d errors file) more file = m.remap d (errors ++ more) file) ∧
    (∀ line id, m.nodeAt? line = some id ↔ ∃ i, m.owners[i]? = some (some id) ∧
      line = (UInt64.ofNat m.headerLines + 1 + UInt64.ofNat m.importHeight).toNat + i) ∧
    (∀ line, m.relativeLine line = (Int64.ofNat line - Int64.ofNat m.headerLines).toInt) ∧
    ∀ e : ToolError, e.annotatedMessage = "\n".intercalate (e.message :: e.details) := by
  rw [← firstLine_eq]
  refine ⟨fun d' => ?_, ?_, fun more => ?_, fun _ _ => nodeAt?_eq_some_iff,
    relativeLine_eq, ToolError.annotatedMessage_eq⟩
  · rw [remap_eq_foldl]
    constructor
    · rintro rfl
      exact m.accounts_foldl_record d _
    · exact (m.accounts_foldl_record d _).unique
  · rw [remap_eq_foldl]
    exact m.notices_foldl_record d _
  · unfold remap
    rw [List.foldl_append]

example :
    ({ owners := [some 7, none, some 9], importHeight := 4, headerLines := 3 } : LineOwners).remap
      (({} : Diagnostics).addNode 9 "input expected")
      [{ file := "/tmp/out/main", line := 8, message := "bad call" },
        { file := "main", line := 10, message := "bad type", fixme := "add a cast" },
        { file := "main", line := 9, message := "stray" },
        { file := "main/other", line := 8, message := "ignored" },
        { file := "main", line := 2, message := "early" }] "main" =
    { nodes := .ofList [(9, ["input expected", "bad type\nfixme: add a cast"]), (7, ["bad call"])]
      global := [⟨6, "stray"⟩, ⟨-1, "early"⟩] } := by
  decide +kernel

end LineOwners

end FlowScript
