import Mathlib.Data.List.Basic
import Scaffold.Identifier
import Scaffold.Text.Blank

/-!
# What identifiers are made of

A text that matches a pattern is a name of certain characters, perhaps with one line feed behind it
(`matchesLine_iff`). Where blanks have been stripped no line feed is left, so that both
readings of an entity name agree (`isExactEntityName_strip`).
-/

namespace Scaffold.Identifier

theorem matchesWhole_iff {first rest : Char → Bool} {cs : List Char} :
    matchesWhole first rest cs = true
      ↔ ∃ c tail, cs = c :: tail ∧ first c = true ∧ ∀ x ∈ tail, rest x = true := by
  cases cs with
  | nil => simp [matchesWhole]
  | cons c tail => simp [matchesWhole]

theorem dropFinalBreak_eq (cs : List Char) :
    dropFinalBreak cs = cs ∨ cs = dropFinalBreak cs ++ ['\n'] := by
  unfold dropFinalBreak
  split
  next rest hrev =>
    right
    rw [← List.reverse_cons, ← hrev, List.reverse_reverse]
  next => exact .inl rfl

@[simp] theorem dropFinalBreak_append (cs : List Char) : dropFinalBreak (cs ++ ['\n']) = cs := by
  simp [dropFinalBreak]

/-- A text that matches a pattern is a name, or a name and a line feed. -/
theorem matchesLine_iff {first rest : Char → Bool} {cs : List Char} :
    matchesLine first rest cs = true
      ↔ ∃ name, matchesWhole first rest name = true ∧ (cs = name ∨ cs = name ++ ['\n']) := by
  unfold matchesLine
  rw [Bool.or_eq_true]
  constructor
  · rintro (h | h)
    · exact ⟨cs, h, .inl rfl⟩
    · rcases dropFinalBreak_eq cs with heq | heq
      · exact ⟨cs, heq ▸ h, .inl rfl⟩
      · exact ⟨dropFinalBreak cs, h, .inr heq⟩
  · rintro ⟨name, h, rfl | rfl⟩
    · exact .inl h
    · exact .inr (by rwa [dropFinalBreak_append])

/-! ### Characters -/

theorem isPart_of_isStart {c : Char} (h : isStart c = true) : isPart c = true := by
  simp [isPart, h]

theorem isPart_of_isLower {c : Char} (h : isLower c = true) : isPart c = true := by
  simp [isPart, isStart, h]

/-- The characters of a text that matches a pattern are those of the pattern, but for a line feed at
the end. -/
theorem exists_of_matchesLine {first rest allowed : Char → Bool} {cs : List Char}
    (h : matchesLine first rest cs = true) (hfirst : ∀ c, first c = true → allowed c = true)
    (hrest : ∀ c, rest c = true → allowed c = true) :
    ∃ name : List Char, name ≠ [] ∧ (∀ c ∈ name, allowed c = true)
      ∧ (cs = name ∨ cs = name ++ ['\n']) := by
  obtain ⟨name, hname, heq⟩ := matchesLine_iff.mp h
  obtain ⟨c, tail, rfl, hc, htail⟩ := matchesWhole_iff.mp hname
  refine ⟨c :: tail, List.cons_ne_nil _ _, ?_, heq⟩
  exact List.forall_mem_cons.mpr ⟨hfirst c hc, fun x hx => hrest x (htail x hx)⟩

/-- No other character stands in a text that matches a pattern, and a line feed. -/
theorem notMem_of_matchesLine {first rest : Char → Bool} {cs : List Char}
    (h : matchesLine first rest cs = true) {c : Char} (hfirst : first c = false)
    (hrest : rest c = false) (hbreak : c ≠ '\n') : c ∉ cs := by
  have hallowed : ∃ name : List Char, name ≠ [] ∧ (∀ x ∈ name, (first x || rest x) = true)
      ∧ (cs = name ∨ cs = name ++ ['\n']) :=
    exists_of_matchesLine h (by simp +contextual) (by simp +contextual)
  obtain ⟨name, -, hname, heq⟩ := hallowed
  intro hc
  have hmem : c ∈ name := by
    rcases heq with rfl | rfl
    · exact hc
    · simpa [hbreak] using hc
  simpa [hfirst, hrest] using hname c hmem

/-- The characters of an identifier are parts of identifiers, but for a line feed at the end. -/
theorem exists_of_isIdentifier {s : String} (h : isIdentifier s = true) :
    ∃ name : List Char, name ≠ [] ∧ (∀ c ∈ name, isPart c = true)
      ∧ (s.toList = name ∨ s.toList = name ++ ['\n']) :=
  exists_of_matchesLine h (fun _ => isPart_of_isStart) fun _ => id

/-- No other character stands in an identifier than its parts and a line feed. -/
theorem notMem_of_isIdentifier {s : String} (h : isIdentifier s = true) {c : Char}
    (hpart : isPart c = false) (hbreak : c ≠ '\n') : c ∉ s.toList := by
  have hstart : isStart c = false := by
    cases hstart : isStart c with
    | false => rfl
    | true => rw [isPart_of_isStart hstart] at hpart; cases hpart
  exact notMem_of_matchesLine h hstart hpart hbreak

/-- No blank stands in front of an identifier. -/
theorem exists_cons_of_isIdentifier {s : String} (h : isIdentifier s = true) :
    ∃ c tail, s.toList = c :: tail ∧ c ≠ ' ' := by
  obtain ⟨name, hname, heq⟩ := matchesLine_iff.mp h
  obtain ⟨c, tail, rfl, hc, -⟩ := matchesWhole_iff.mp hname
  have hblank : c ≠ ' ' := by
    rintro rfl
    exact absurd hc (by decide)
  rcases heq with heq | heq
  · exact ⟨c, tail, heq, hblank⟩
  · exact ⟨c, tail ++ ['\n'], heq, hblank⟩

theorem ne_empty_of_isIdentifier {s : String} (h : isIdentifier s = true) : s ≠ "" := by
  rintro rfl
  exact absurd h (by decide)

/-- The name of a variable is an identifier. -/
theorem isIdentifier_of_isVariable {s : String} (h : isVariable s = true) :
    isIdentifier s = true := by
  obtain ⟨name, hname, heq⟩ := matchesLine_iff.mp h
  obtain ⟨c, tail, rfl, hfirst, hrest⟩ := matchesWhole_iff.mp hname
  refine matchesLine_iff.mpr ⟨_, matchesWhole_iff.mpr ⟨c, tail, rfl, ?_, fun x hx => ?_⟩, heq⟩
  · simp [isStart, hfirst]
  · have hx := hrest x hx
    simp only [Bool.or_eq_true, beq_iff_eq] at hx
    rcases hx with (hx | hx) | rfl
    · simp [isPart, isStart, hx]
    · simp [isPart, hx]
    · decide

/-! ### Entity names -/

/-- The characters of entity names. -/
def isNamePart (c : Char) : Bool := isLower c || isDigit c

theorem isPart_of_isNamePart {c : Char} (h : isNamePart c = true) : isPart c = true := by
  rcases (Bool.or_eq_true _ _).mp h with h | h
  · exact isPart_of_isLower h
  · simp [isPart, h]

theorem isExactEntityName_iff {s : String} :
    isExactEntityName s = true
      ↔ ∃ c tail, s.toList = c :: tail ∧ isLower c = true ∧ ∀ x ∈ tail, isNamePart x = true :=
  matchesWhole_iff

theorem isNamePart_of_mem {s : String} (h : isExactEntityName s = true) {c : Char}
    (hc : c ∈ s.toList) : isNamePart c = true := by
  obtain ⟨first, tail, heq, hfirst, hrest⟩ := isExactEntityName_iff.mp h
  rw [heq] at hc
  rcases List.mem_cons.mp hc with rfl | hc
  · simp [isNamePart, hfirst]
  · exact hrest c hc

/-- An entity name is an identifier. -/
theorem isIdentifier_of_isExactEntityName {s : String} (h : isExactEntityName s = true) :
    isIdentifier s = true := by
  obtain ⟨c, tail, heq, hfirst, hrest⟩ := isExactEntityName_iff.mp h
  have hwhole : matchesWhole isStart isPart s.toList = true :=
    matchesWhole_iff.mpr ⟨c, tail, heq, by simp [isStart, hfirst],
      fun x hx => isPart_of_isNamePart (hrest x hx)⟩
  simp [isIdentifier, matchesLine, hwhole]

/-- No blank stands at the end of a stripped text. -/
theorem getLast?_strip {s : String} {c : Char} (h : (Text.strip s).toList.getLast? = some c) :
    Text.isBlank c = false := by
  simp only [Text.strip, Text.stripWith, Text.stripChars, String.toList_ofList,
    List.getLast?_reverse] at h
  have hhead := List.head?_dropWhile_not Text.isBlank (s.toList.dropWhile Text.isBlank).reverse
  rw [h] at hhead
  exact hhead

/-- A stripped entity name has nothing behind it. -/
theorem isExactEntityName_strip {s : String} (h : isEntityName (Text.strip s) = true) :
    isExactEntityName (Text.strip s) = true := by
  obtain ⟨name, hname, heq⟩ := matchesLine_iff.mp h
  rcases heq with heq | heq
  · rw [isExactEntityName, heq]
    exact hname
  · have hlast : (Text.strip s).toList.getLast? = some '\n' := by
      rw [heq, List.getLast?_concat]
    exact absurd (getLast?_strip hlast) (by decide)

end Scaffold.Identifier
