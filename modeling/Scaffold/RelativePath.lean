import Scaffold.Text.Lines

/-!
# Relative paths

A relative path is the list of the names on it. `RelativePath.ofText?` reads one: empty names and
single dots are dropped, and a path that starts at the root of the file system, or that goes up
anywhere, is refused. `RelativePath.text` is its normal form.
-/

namespace Scaffold

/-- Whether a text names something in a directory: it is neither empty nor made of one or two dots,
and no slash is in it. -/
def isPlainName (name : String) : Bool :=
  !name.isEmpty && name != "." && name != ".." && !name.toList.contains '/'

/-- A path below some directory. -/
structure RelativePath where
  names : List String
  plain : ∀ name ∈ names, isPlainName name = true
deriving Repr, DecidableEq

namespace RelativePath

instance : Inhabited RelativePath := ⟨⟨[], by simp⟩⟩

/-- The names on a written path; empty names and single dots stand for nothing. -/
def namesOf (s : String) : List String :=
  (Text.splitOn '/' s).filter fun name => !(name.isEmpty || name == ".")

/-- The names on a written path that goes up nowhere are plain. -/
theorem isPlainName_of_mem_namesOf {s name : String} (hup : (namesOf s).contains ".." = false)
    (h : name ∈ namesOf s) : isPlainName name = true := by
  have hne : name ≠ ".." := by
    rintro rfl
    rw [List.contains_iff_mem.mpr h] at hup
    cases hup
  obtain ⟨hmem, hname⟩ := List.mem_filter.mp h
  have hslash := Text.notMem_of_mem_splitOn hmem
  simp only [Bool.not_or, Bool.and_eq_true, Bool.not_eq_true', beq_eq_false_iff_ne] at hname
  simp [isPlainName, hname, hne, hslash]

/-- Reads a path that stays below the directory it starts from. -/
def ofText? (s : String) : Option RelativePath :=
  if s.startsWith "/" then none
  else if h : (namesOf s).contains ".." then none
  else some ⟨namesOf s, fun _ => isPlainName_of_mem_namesOf (by simpa using h)⟩

/-- The normal form of a path; a single dot when there are no names on it. -/
def text (p : RelativePath) : String :=
  if p.names.isEmpty then "." else "/".intercalate p.names

end RelativePath

end Scaffold
