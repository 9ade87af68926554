/-!
# Lines

`joinLines` makes a file of rendered lines: it ends in exactly one line feed, whatever empty lines
stand at the end. `countLines` counts a last line without a line feed too. `unifyBreaks` reads a
file whose lines end in a carriage return, alone or before a line feed.
-/

namespace Scaffold.Text

/-- Drops the line feeds at the end. -/
def trimBreaks (cs : List Char) : List Char :=
  (cs.reverse.dropWhile (· == '\n')).reverse

/-- Lines as the content of a file. -/
def joinLines (lines : List String) : String :=
  String.ofList (trimBreaks (['\n'].intercalate (lines.map String.toList)) ++ ['\n'])

/-- The number of lines of a text; a last line needs no line feed. -/
def countLines (s : String) : Nat :=
  let cs := s.toList
  match cs.getLast? with
  | none => 0
  | some last => cs.count '\n' + (if last = '\n' then 0 else 1)

/-- Writes a carriage return, alone or before a line feed, as a line feed. -/
def unifyBreaks : List Char → List Char
  | '\r' :: '\n' :: rest => '\n' :: unifyBreaks rest
  | '\r' :: rest => '\n' :: unifyBreaks rest
  | c :: rest => c :: unifyBreaks rest
  | [] => []

/-- The parts of a text between the occurrences of a character. -/
def splitOn (sep : Char) (s : String) : List String :=
  (s.toList.splitOn sep).map String.ofList

theorem notMem_part {sep : Char} {cs part : List Char} (h : part ∈ cs.splitOn sep) :
    sep ∉ part := by
  induction cs generalizing part with
  | nil => simp_all
  | cons c rest ih =>
    rw [List.splitOn_cons_eq_if_modifyHead] at h
    split at h
    next =>
      rcases List.mem_cons.mp h with rfl | h
      · exact List.not_mem_nil
      · exact ih h
    next hc =>
      obtain ⟨first, others, hsplit⟩ := List.exists_cons_of_ne_nil (List.splitOn_ne_nil sep rest)
      rw [hsplit, List.modifyHead_cons] at h
      rcases List.mem_cons.mp h with rfl | h
      · have hfirst := ih (hsplit ▸ List.mem_cons_self)
        have hne : sep ≠ c := Ne.symm (by simpa using hc)
        simp [hfirst, hne]
      · exact ih (hsplit ▸ List.mem_cons_of_mem _ h)

/-- No part has the character in it. -/
theorem notMem_of_mem_splitOn {sep : Char} {s part : String} (h : part ∈ splitOn sep s) :
    sep ∉ part.toList := by
  obtain ⟨cs, hcs, rfl⟩ := List.mem_map.mp h
  rw [String.toList_ofList]
  exact notMem_part hcs

end Scaffold.Text
