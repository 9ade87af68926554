import Mathlib.Data.List.Nodup
import Mathlib.Data.List.Perm.Subperm
import Scaffold.Proofs.FileTree.Way

/-!
# Writing a file again

There is always an unused name for a temporary file, because more names are tried than there are
entries (`exists_freshFrom`). So a file that has been written can be written once more: the
directory is there, its name and that of the temporary file are not too long, and nothing but a file
is at its place (`Rewritable`). To write it with the same content then changes nothing
(`write_same`).
-/

namespace Scaffold

namespace Text

@[simp] theorem ofDigitChars_padded (width k : Nat) :
    Nat.ofDigitChars 10 (padded width k).toList 0 = k := by
  rw [padded, String.toList_ofList, Nat.ofDigitChars_append, Nat.ofDigitChars_replicate_zero]
  simp

end Text

namespace FileTree

variable {fault : Option Fault} {t t' : FileTree} {p dir : Place} {name : String}
  {content : ByteArray}

/-! ### Names for temporary files -/

theorem temporaryName_inj {j k : Nat} (h : temporaryName name j = temporaryName name k) :
    j = k := by
  simp only [temporaryName] at h
  rw [String.append_left_inj, String.append_right_inj] at h
  rw [← Text.ofDigitChars_padded 8 j, h, Text.ofDigitChars_padded]

theorem temporaryName_ne (name : String) (k : Nat) : temporaryName name k ≠ name := by
  intro h
  have hlength := congrArg String.length h
  simp only [temporaryName, String.length_append] at hlength
  have hmark : ".tmp".length = 4 := rfl
  omega

/-- Where no name is found, all that have been tried are in use. -/
theorem entry?_ne_none_of_freshFrom {k tries : Nat} (h : t.freshFrom dir name k tries = none) :
    ∀ j ∈ List.range' k tries, t.entry? (dir ++ [temporaryName name j]) ≠ none := by
  induction tries generalizing k with
  | zero => nofun
  | succ tries ih =>
    rw [freshFrom] at h
    split at h
    · cases h
    next hused =>
      rw [List.range'_succ, List.forall_mem_cons]
      exact ⟨by simpa using hused, ih h⟩

theorem exists_eq_of_freshFrom {temporary : Place} {k tries : Nat}
    (h : t.freshFrom dir name k tries = some temporary) :
    ∃ j, temporary = dir ++ [temporaryName name j] := by
  induction tries generalizing k with
  | zero => cases h
  | succ tries ih =>
    rw [freshFrom] at h
    split at h
    · cases h
      exact ⟨k, rfl⟩
    · exact ih h

theorem mem_keys_of_entry? (hp : p ≠ []) (h : t.entry? p ≠ none) : p ∈ t.entries.keys := by
  unfold entry? at h
  rw [if_neg (by simpa using hp)] at h
  rw [Std.ExtTreeMap.mem_keys]
  exact Std.ExtTreeMap.mem_iff_isSome_getElem?.mpr (Option.isSome_iff_ne_none.mpr h)

/-- More names are tried than can be in use. -/
theorem exists_freshFrom (t : FileTree) (dir : Place) (name : String) :
    ∃ temporary, t.freshFrom dir name 0 t.temporaryTries = some temporary := by
  cases hfresh : t.freshFrom dir name 0 t.temporaryTries with
  | some temporary => exact ⟨temporary, rfl⟩
  | none =>
    have hused := entry?_ne_none_of_freshFrom hfresh
    let tried := (List.range' 0 t.temporaryTries).map fun j => dir ++ [temporaryName name j]
    have hnodup : tried.Nodup := by
      refine List.Nodup.map (fun j k heq => ?_) List.nodup_range'
      exact temporaryName_inj (by simpa using heq)
    have hsubset : tried ⊆ t.entries.keys := by
      intro q hq
      obtain ⟨j, hj, rfl⟩ := List.mem_map.mp hq
      exact mem_keys_of_entry? (by simp) (hused j hj)
    have hlength := (hnodup.subperm hsubset).length_le
    rw [List.length_map, List.length_range', Std.ExtTreeMap.length_keys] at hlength
    exact absurd hlength (Nat.not_succ_le_self _)

/-- Why no temporary file for a name can be made in a directory, if so. -/
def temporaryFault? (dir : Place) (name : String) : Option FileError :=
  if name.contains '\x00' then some .nullCharacter
  else if isTooLong (temporaryName name 0) then some .refused
  else if isTooLongPlace (dir ++ [temporaryName name 0]) then some .refused
  else none

theorem freshPlace_eq_error {e : FileError} (h : temporaryFault? dir name = some e) :
    t.freshPlace dir name = .error e := by
  unfold temporaryFault? at h
  unfold freshPlace
  grind

theorem freshPlace_eq_ok {temporary : Place} :
    t.freshPlace dir name = .ok temporary
      ↔ temporaryFault? dir name = none
        ∧ t.freshFrom dir name 0 t.temporaryTries = some temporary := by
  obtain ⟨fresh, hfresh⟩ := exists_freshFrom t dir name
  unfold freshPlace temporaryFault?
  rw [hfresh]
  grind

theorem contains_null_of_temporaryFault? (h : temporaryFault? dir name = none) :
    name.contains '\x00' = false := by
  unfold temporaryFault? at h
  grind

/-! ### Trees with the same entries -/

theorem ext_entries (h : ∀ q : Place, t.entries[q]? = t'.entries[q]?) : t = t' := by
  cases t
  cases t'
  exact congrArg mk (Std.ExtTreeMap.ext_getElem? h)

/-- Well-formed trees are known by what is at each place. -/
theorem WellFormed.ext (h : t.WellFormed) (h' : t'.WellFormed)
    (hentries : ∀ q, t.entry? q = t'.entry? q) : t = t' := by
  refine ext_entries fun q => ?_
  cases q with
  | nil => rw [h.root, h'.root]
  | cons name rest => exact hentries (name :: rest)

theorem put_same {e : Entry} (hp : p ≠ []) (h : t.entry? p = some e) : t.put p e = t := by
  unfold entry? at h
  rw [if_neg (by simpa using hp)] at h
  refine ext_entries fun q => ?_
  rw [put, Std.ExtTreeMap.getElem?_insert]
  split
  next heq =>
    rw [← Std.compare_eq_iff_eq.mp heq, h]
  next => rfl

theorem erase_put {e : Entry} (hp : p ≠ []) (h : t.entry? p = none) :
    (t.put p e).erase p = t := by
  unfold entry? at h
  rw [if_neg (by simpa using hp)] at h
  refine ext_entries fun q => ?_
  rw [erase, put, Std.ExtTreeMap.getElem?_erase, Std.ExtTreeMap.getElem?_insert]
  split
  next heq => rw [← Std.compare_eq_iff_eq.mp heq, h]
  next => rfl

/-! ### Files that can be written again -/

/-- A file has been written, and nothing keeps it from being written once more. -/
structure Rewritable (t : FileTree) (p : Place) (content : ByteArray) : Prop where
  placed : p ≠ []
  directory : t.HasDirectory p.parent
  temporary : temporaryFault? p.parent p.name = none
  entry : t.entry? p = some (.file content)

theorem exists_freshPlace_of_replaceFile
    (h : replaceFile fault t dir name content = (t', none)) :
    ∃ temporary, t.freshPlace dir name = .ok temporary := by
  unfold replaceFile at h
  split at h
  · cases h
  · split at h
    · cases h
    next hfresh => exact ⟨_, hfresh⟩

/-- A file that has been written can be written once more, whatever failed elsewhere. -/
theorem rewritable_of_write (hdots : ".." ∉ p) (h : t.write fault p content = (t', none)) :
    t'.Rewritable p content := by
  have hentry := (touches_write hdots h).2
  rw [if_pos rfl] at hentry
  unfold write at h
  split at h
  · cases h
  next t₁ hmake =>
    have hdir := hasDirectory_of_makeDirectories (notMem_parent hdots) hmake
    rw [hdir.walk (notMem_parent hdots)] at h
    dsimp only at h
    split at h
    · cases h
    next hempty =>
      have hp : p ≠ [] := by simpa using hempty
      obtain ⟨hnot, hothers⟩ := entry?_replaceFile_ok h
      obtain ⟨temporary, hfresh⟩ := exists_freshPlace_of_replaceFile h
      rw [Place.parent_append_name hp] at hnot hothers
      refine ⟨hp, hdir.mono (notMem_parent hdots) fun q hq => ?_, (freshPlace_eq_ok.mp hfresh).1,
        hentry⟩
      -- the file has not taken the place of a directory
      rw [hothers, if_neg, hq]
      rintro rfl
      exact hnot hq

/-- It still can, as long as no other write touches it. -/
theorem Rewritable.mono {places : List Place} (hdots : ".." ∉ p) (h : t.Rewritable p content)
    (htouches : Touches places t t') (hp : p ∉ places) : t'.Rewritable p content where
  placed := h.placed
  directory := h.directory.mono (notMem_parent hdots) htouches.directories
  temporary := h.temporary
  entry := (htouches.files p content hp).mpr h.entry

/-- A file that is written once more with the same content changes nothing. -/
theorem write_same (hdots : ".." ∉ p) (h : t.Rewritable p content) :
    t.write none p content = (t, none) := by
  have hdots' := notMem_parent hdots
  obtain ⟨temporary, hfrom⟩ := exists_freshFrom t p.parent p.name
  have hfresh := freshPlace_eq_ok.mpr ⟨h.temporary, hfrom⟩
  obtain ⟨hne, hfree⟩ := entry?_freshPlace hfresh
  have hother : p ≠ temporary := by
    rintro rfl
    rw [h.entry] at hfree
    cases hfree
  have hrename : renameTo none (t.put temporary (.file content)) temporary p.parent p.name content
      = .ok t := by
    have hnot : entry? (t.put temporary (.file content)) p ≠ some .directory := by
      rw [entry?_put hne, if_neg hother, h.entry]
      nofun
    simp only [renameTo, Place.name_ne_dots hdots h.placed, Place.parent_append_name h.placed, hnot,
      if_false, erase_put hne hfree, put_same h.placed h.entry]
  rw [write, makeDirectories_of_hasDirectory hdots' h.directory]
  dsimp only
  rw [h.directory.walk hdots']
  dsimp only
  rw [if_neg (by simpa using h.placed)]
  simp only [replaceFile, hfresh, fillTemporary, hrename]

end FileTree

end Scaffold
