import Scaffold.FileTree
import Scaffold.Proofs.Text.Split

/-!
# Names on paths

Paths are written with slashes and read back as lists of names (`RelativePath.namesOf`). Plain names
come back as they were (`namesOf_intercalate`), and no relative path starts at the root of the file
system, whatever is written behind it (`RelativePath.text_not_startsWith_slash`).
-/

namespace Scaffold

/-- A text that is a path in its normal form: it does not start at the root of the file system, goes
up nowhere, and has no name on it that stands for nothing. -/
structure RelativePath.IsNormal (s : String) : Prop where
  relative : s.startsWith "/" = false
  inside : ".." ∉ Text.splitOn '/' s
  normal : s = "." ∨ ∀ name ∈ Text.splitOn '/' s, name ≠ "" ∧ name ≠ "."

theorem isPlainName_iff {name : String} :
    isPlainName name = true
      ↔ name ≠ "" ∧ name ≠ "." ∧ name ≠ ".." ∧ '/' ∉ name.toList := by
  simp [isPlainName, and_assoc]

namespace RelativePath

@[simp]
theorem namesOf_append (a b : String) : namesOf (a ++ "/" ++ b) = namesOf a ++ namesOf b := by
  rw [namesOf, show "/" = String.singleton '/' from rfl, Text.splitOn_append, List.filter_append]
  rfl

theorem namesOf_of_isPlainName {name : String} (h : isPlainName name = true) :
    namesOf name = [name] := by
  obtain ⟨hempty, hdot, -, hslash⟩ := isPlainName_iff.mp h
  simp [namesOf, Text.splitOn_of_notMem hslash, hempty, hdot]

/-- Plain names that are written as a path are the names on it. -/
theorem namesOf_intercalate {names : List String} (hne : names ≠ [])
    (h : ∀ name ∈ names, isPlainName name = true) : namesOf ("/".intercalate names) = names := by
  have hslash : ∀ name ∈ names, '/' ∉ name.toList := fun name hname =>
    (isPlainName_iff.mp (h name hname)).2.2.2
  rw [namesOf, show "/" = String.singleton '/' from rfl, Text.splitOn_intercalate hne,
    Text.flatMap_splitOn_of_notMem hslash, List.filter_eq_self]
  intro name hname
  obtain ⟨hempty, hdot, -⟩ := isPlainName_iff.mp (h name hname)
  simp [hempty, hdot]

/-- The names on the normal form of a path. -/
@[simp] theorem namesOf_text (p : RelativePath) : namesOf p.text = p.names := by
  unfold text
  split
  next hnames =>
    rw [List.isEmpty_iff.mp hnames]
    decide
  next hnames => exact namesOf_intercalate (by simpa using hnames) p.plain

/-- A path that starts with a plain name does not start at the root of the file system. -/
theorem not_startsWith_slash {name : String} (h : isPlainName name = true) (rest : String) :
    (name ++ rest).startsWith "/" = false := by
  obtain ⟨hempty, -, -, hslash⟩ := isPlainName_iff.mp h
  rw [String.startsWith_string_eq_false_iff, String.toList_append]
  cases hs : name.toList with
  | nil => exact absurd (String.toList_eq_nil_iff.mp hs) hempty
  | cons c cs =>
    rw [hs] at hslash
    simpa using fun hc : '/' = c => hslash (hc ▸ List.mem_cons_self)

/-- The written form of a path starts with a plain name or is a single dot. -/
theorem text_not_startsWith_slash (p : RelativePath) (rest : String) :
    (p.text ++ rest).startsWith "/" = false := by
  unfold text
  split
  next => rw [String.startsWith_string_eq_false_iff]; simp
  next hnames =>
    cases hp : p.names with
    | nil => simp [hp] at hnames
    | cons first others =>
      have hfirst := p.plain first (hp ▸ List.mem_cons_self)
      cases others with
      | nil => rw [String.intercalate_singleton]; exact not_startsWith_slash hfirst rest
      | cons second others =>
        rw [String.intercalate_cons_cons, String.append_assoc, String.append_assoc]
        exact not_startsWith_slash hfirst _

/-- Paths are the same when they are written alike. -/
theorem text_injective {p q : RelativePath} (h : p.text = q.text) : p = q := by
  have hnames : p.names = q.names := by rw [← namesOf_text p, h, namesOf_text]
  cases p
  cases q
  cases hnames
  rfl

/-- The normal form of a path is read as that path. -/
theorem ofText?_text (p : RelativePath) : ofText? p.text = some p := by
  have hrelative : p.text.startsWith "/" = false := by
    simpa using text_not_startsWith_slash p ""
  have hinside : (namesOf p.text).contains ".." = false := by
    rw [namesOf_text, List.contains_eq_mem, decide_eq_false_iff_not]
    exact fun hmem => (isPlainName_iff.mp (p.plain _ hmem)).2.2.1 rfl
  rw [ofText?, if_neg (by simp [hrelative]), dif_neg (by rw [hinside]; decide)]
  cases p with
  | mk names plain => simp

theorem isNormal_text (p : RelativePath) : IsNormal p.text := by
  have hparts : ".." ∉ Text.splitOn '/' p.text
      ∧ (p.text = "." ∨ ∀ name ∈ Text.splitOn '/' p.text, name ≠ "" ∧ name ≠ ".") := by
    unfold text
    split
    next => exact ⟨by decide, .inl rfl⟩
    next hnames =>
      have hsplit : Text.splitOn '/' ("/".intercalate p.names) = p.names :=
        (Text.splitOn_intercalate (by simpa using hnames)).trans
          (Text.flatMap_splitOn_of_notMem fun name hname =>
            (isPlainName_iff.mp (p.plain name hname)).2.2.2)
      rw [hsplit]
      refine ⟨fun hmem => (isPlainName_iff.mp (p.plain _ hmem)).2.2.1 rfl, .inr ?_⟩
      intro name hname
      obtain ⟨hempty, hdot, -⟩ := isPlainName_iff.mp (p.plain name hname)
      exact ⟨hempty, hdot⟩
  exact ⟨by simpa using text_not_startsWith_slash p "", hparts.1, hparts.2⟩

end RelativePath

namespace Place

open RelativePath

/-- A path that does not start at the root of the file system leads on. -/
theorem below_of_not_startsWith {p : Place} {path : String} (h : path.startsWith "/" = false) :
    p.below path = p ++ namesOf path := by
  rw [below, if_neg (by simp [h])]

end Place

end Scaffold
