/-!
# Lines of a text

Cutting a text at its newlines.  Every text has at least one line, and no line holds a newline.
-/

namespace FlowScript.Text

/-- The lines of a text. -/
def splitLines : List Char → List (List Char)
  | [] => [[]]
  | c :: cs =>
    if c = '\n' then [] :: splitLines cs
    else match splitLines cs with
      | [] => [[c]]
      | l :: ls => (c :: l) :: ls

theorem splitLines_ne_nil (cs : List Char) : splitLines cs ≠ [] := by
  cases cs with
  | nil => simp [splitLines]
  | cons c cs =>
    unfold splitLines
    split
    · simp
    · split <;> simp

theorem not_mem_of_mem_splitLines {cs l : List Char} (h : l ∈ splitLines cs) : '\n' ∉ l := by
  induction cs generalizing l with
  | nil => simp_all [splitLines]
  | cons c cs ih =>
    unfold splitLines at h
    split at h
    · rcases List.mem_cons.1 h with rfl | h
      · simp
      · exact ih h
    · rename_i hc
      cases hs : splitLines cs with
      | nil => exact absurd hs (splitLines_ne_nil cs)
      | cons m ms =>
        rw [hs] at h
        rcases List.mem_cons.1 h with rfl | h
        · have := ih (l := m) (by rw [hs]; simp)
          simp only [List.mem_cons, not_or]
          exact ⟨fun e => hc e.symm, this⟩
        · exact ih (by rw [hs]; simp [h])

end FlowScript.Text
