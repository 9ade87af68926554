import Mathlib.Data.List.DropRight
import Mathlib.Data.List.Induction
import Scaffold.Proofs.Assembly
import Scaffold.Proofs.Text.FileLines

/-!
# How files end

The content of a file is joined from rendered lines, and a rendered line may have line feeds in it,
also at its end. Whatever the lines are, `joinLines` leaves exactly one line feed at the end
(`endsOnce_joinLines`): the segments of the text behind the last one that is not empty are dropped,
and the others are the lines that are counted (`countLines_joinLines`). So it is for every file of a
module (`files_end_once`).
-/

namespace Scaffold

namespace Text

/-- A text ends in exactly one line feed. -/
def EndsOnce (s : String) : Prop :=
  ∃ body, s.toList = body ++ ['\n'] ∧ body.getLast? ≠ some '\n'

/-- The segments of a text between its line feeds, up to the last one that is not empty. -/
def filledSegments (s : String) : List String :=
  (splitOn '\n' s).rdropWhile (·.isEmpty)

/-! ### Line feeds at the end -/

section

variable {cs : List Char}

theorem trimBreaks_eq (cs : List Char) : trimBreaks cs = cs.rdropWhile (· == '\n') := rfl

theorem getLast?_trimBreaks (cs : List Char) : (trimBreaks cs).getLast? ≠ some '\n' := by
  rw [trimBreaks_eq]
  intro hlast
  have hne : cs.rdropWhile (· == '\n') ≠ [] := by
    intro hnil
    rw [hnil] at hlast
    cases hlast
  rw [List.getLast?_eq_some_getLast hne] at hlast
  exact List.rdropWhile_last_not _ _ hne (by simpa using Option.some.inj hlast)

/-- A line feed at the end is dropped with those in front of it. -/
@[simp] theorem trimBreaks_concat (cs : List Char) : trimBreaks (cs ++ ['\n']) = trimBreaks cs :=
  List.rdropWhile_concat_pos _ _ _ rfl

end

theorem joinLines_eq_trimBreaks (lines : List String) :
    (joinLines lines).toList = trimBreaks ("\n".intercalate lines).toList ++ ['\n'] := by
  rw [joinLines, String.toList_ofList, String.toList_intercalate]
  rfl

/-- A file ends in one line feed, whatever its lines end in. -/
theorem endsOnce_joinLines (lines : List String) : EndsOnce (joinLines lines) :=
  ⟨_, joinLines_eq_trimBreaks lines, getLast?_trimBreaks _⟩

/-- A text that ends so is a file of one line, which may have line feeds in it. -/
theorem joinLines_singleton {s : String} (h : EndsOnce s) : joinLines [s] = s := by
  obtain ⟨body, hs, hbody⟩ := h
  rw [← String.toList_inj, joinLines_eq_trimBreaks, String.intercalate_singleton, hs,
    trimBreaks_concat, trimBreaks_of_getLast? hbody]

/-! ### Counting -/

theorem length_splitOn (sep : Char) (cs : List Char) :
    (cs.splitOn sep).length = cs.count sep + 1 := by
  induction cs with
  | nil => rfl
  | cons c cs ih =>
    rw [List.splitOn_cons_eq_if_modifyHead, List.count_cons]
    by_cases hc : c = sep <;> simp [hc, ih]

/-- A character at the end of a text stands at the end of its last segment. -/
theorem splitOn_concat {sep c : Char} (hc : c ≠ sep) (cs : List Char) :
    ∃ front last, (cs ++ [c]).splitOn sep = front ++ [last ++ [c]] := by
  induction cs with
  | nil => exact ⟨[], [], List.splitOn_eq_singleton (by simp [hc.symm])⟩
  | cons first cs ih =>
    obtain ⟨front, last, hsplit⟩ := ih
    rw [List.cons_append, List.splitOn_cons_eq_if_modifyHead, hsplit]
    by_cases hfirst : first = sep
    · exact ⟨[] :: front, last, by simp [hfirst]⟩
    · cases front with
      | nil => exact ⟨[], first :: last, by simp [hfirst]⟩
      | cons part front => exact ⟨(first :: part) :: front, last, by simp [hfirst]⟩

/-- The line feeds that are left stand between the segments up to the last one that is not empty. -/
theorem count_trimBreaks (cs : List Char) :
    (trimBreaks cs).count '\n' + 1
      = max 1 ((cs.splitOn '\n').rdropWhile (·.isEmpty)).length := by
  induction cs using List.reverseRecOn with
  | nil => rfl
  | append_singleton cs c ih =>
    by_cases hc : c = '\n'
    · subst hc
      rw [trimBreaks_concat, ih, List.splitOn_append_cons_self, List.splitOn_nil,
        List.rdropWhile_concat_pos _ _ _ rfl]
    · -- the last segment is not empty, so that nothing is dropped
      obtain ⟨front, last, hsplit⟩ := splitOn_concat hc cs
      have htrim : trimBreaks (cs ++ [c]) = cs ++ [c] :=
        trimBreaks_of_getLast? (by simpa using hc)
      have hlength := length_splitOn '\n' (cs ++ [c])
      rw [hsplit] at hlength ⊢
      rw [htrim, List.rdropWhile_concat_neg _ _ _ (by simp), ← hlength]
      simp

/-- The lines of a file are the segments of the joined text up to the last one that is not empty. A
file without such a segment has one line. -/
theorem countLines_joinLines (lines : List String) :
    countLines (joinLines lines)
      = max 1 (filledSegments ("\n".intercalate lines)).length := by
  have hsegments : (filledSegments ("\n".intercalate lines)).length
      = ((("\n".intercalate lines).toList.splitOn '\n').rdropWhile (·.isEmpty)).length := by
    have hempty : (fun part : List Char => (String.ofList part).isEmpty) = (·.isEmpty) := by
      funext part
      cases part <;> simp
    rw [filledSegments, splitOn, List.rdropWhile, List.rdropWhile, ← List.map_reverse,
      List.dropWhile_map]
    simp [Function.comp_def, hempty]
  rw [hsegments, ← count_trimBreaks, countLines, joinLines_eq_trimBreaks, List.getLast?_concat]
  simp

/-- Where a text ends in one line feed, its lines are its line feeds. -/
theorem countLines_eq_count {s : String} (h : EndsOnce s) : countLines s = s.toList.count '\n' := by
  obtain ⟨body, hs, -⟩ := h
  rw [countLines, hs, List.getLast?_concat]
  simp

end Text

/-! ### Files of modules -/

open Text

/-- Every file of an entity is joined from lines. -/
theorem Entity.exists_lines_of_mem {e : Entity} {s : Settings} {a : Artifact}
    (ha : a ∈ e.artifacts s) : ∃ lines, a.content = joinLines lines := by
  have hclient : ∀ a ∈ e.clientFiles s, ∃ lines, a.content = joinLines lines := by
    simp only [clientFiles, clientFilesWith, List.forall_mem_cons]
    exact ⟨⟨_, rfl⟩, ⟨_, rfl⟩, ⟨_, rfl⟩, ⟨_, rfl⟩, List.forall_mem_nil _⟩
  have hviews : ∀ a ∈ e.views Theme.builtIn, ∃ lines, a.content = joinLines lines :=
    List.forall_mem_map.mpr fun t _ => ⟨_, rfl⟩
  have hserver : ∀ a ∈ e.serverFiles s, ∃ lines, a.content = joinLines lines := by
    simp only [serverFiles, List.forall_mem_cons]
    exact ⟨⟨_, rfl⟩, ⟨_, rfl⟩, ⟨_, rfl⟩, ⟨_, rfl⟩, List.forall_mem_nil _⟩
  have hrelated : ∀ a ∈ e.related.flatMap (e.relatedFiles s),
      ∃ lines, a.content = joinLines lines := by
    intro a ha
    obtain ⟨n, -, ha⟩ := List.mem_flatMap.mp ha
    have hboth : ∀ a ∈ e.relatedFiles s n, ∃ lines, a.content = joinLines lines := by
      simp only [relatedFiles, List.forall_mem_cons]
      exact ⟨⟨_, rfl⟩, ⟨_, rfl⟩, List.forall_mem_nil _⟩
    exact hboth a ha
  unfold artifacts at ha
  rw [List.mem_append, List.mem_append] at ha
  rcases ha with (ha | ha) | ha <;> split at ha
  · exact (List.mem_append.mp ha).elim (hclient a) (hviews a)
  · cases ha
  · exact hserver a ha
  · cases ha
  · exact hrelated a ha
  · cases ha

/-- The files of a value are those of an entity. -/
theorem exists_artifacts_of_assemble {v : Value} {s : Settings} {files : List Artifact}
    (h : assemble v s = .ok files) : ∃ e : Entity, files = e.artifacts s := by
  unfold assemble at h
  cases hentity : Entity.ofValue v with
  | error r =>
    rw [hentity] at h
    cases h
  | ok e =>
    rw [hentity, renderAccepted, mapError_eq_ok, Entity.render_builtIn_eq_ok] at h
    exact ⟨e, h.2.symm⟩

/-- Whatever lines a file is joined from, it ends in exactly one line feed, it is joined from itself
as well, the joined text alone decides it, and its lines are counted up to the last segment of that
text that is not empty. So each file of a value ends in one line feed and has as many lines as line
feeds. -/
theorem files_end_once :
    (∀ lines, EndsOnce (joinLines lines) ∧ joinLines [joinLines lines] = joinLines lines
        ∧ joinLines ["\n".intercalate lines] = joinLines lines
        ∧ countLines (joinLines lines)
          = max 1 (filledSegments ("\n".intercalate lines)).length)
      ∧ ∀ v s files, assemble v s = .ok files →
        ∀ a ∈ files, EndsOnce a.content ∧ a.lineCount = a.content.toList.count '\n' := by
  constructor
  · intro lines
    have hends := endsOnce_joinLines lines
    refine ⟨hends, joinLines_singleton hends, ?_, countLines_joinLines lines⟩
    rw [← String.toList_inj, joinLines_eq_trimBreaks, joinLines_eq_trimBreaks,
      String.intercalate_singleton]
  · intro v s files hfiles a ha
    obtain ⟨e, rfl⟩ := exists_artifacts_of_assemble hfiles
    obtain ⟨lines, hlines⟩ := Entity.exists_lines_of_mem ha
    have hends : EndsOnce a.content := hlines ▸ endsOnce_joinLines lines
    exact ⟨hends, countLines_eq_count hends⟩

/-- The files about orders end so, and one that is joined from lines with line feeds in them. -/
theorem orders_end_once :
    (∃ files, assemble orderValue {} = .ok files ∧ files ≠ []
        ∧ ∀ a ∈ files, EndsOnce a.content ∧ a.lineCount = a.content.toList.count '\n')
      ∧ countLines (joinLines ["", "a\n\nb\n", ""]) = 4 := by
  obtain ⟨hlines, hvalues⟩ := files_end_once
  obtain ⟨-, fields, -, -, hfiles⟩ := exists_assemble_eq_ok parse_orderValue isValid_orderDocument
  have horders := hfiles {} Settings.isWritable_default
  refine ⟨⟨_, horders, ?_, hvalues _ _ _ horders⟩, ?_⟩
  · exact List.ne_nil_of_mem (Entity.mem_artifacts_of_mem_serverFiles rfl List.mem_cons_self)
  · rw [(hlines _).2.2.2]
    decide

end Scaffold
