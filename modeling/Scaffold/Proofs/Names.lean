import Scaffold.Names
import Scaffold.Proofs.Identifier

/-!
# Names of accepted entities

Every form of the name of an accepted entity is an identifier (`Names.AreIdentifiers`), whether it
is derived or given. Capitalizing loses nothing of an entity name (`capitalize_injective`), and
leaves no capital letter behind the first character.
-/

namespace Scaffold

open Identifier

/-! ### Capital letters -/

/-- What holds for the characters of ASCII holds for those of identifiers. -/
theorem forall_isPart {p : Char → Bool} (h : ∀ n : Fin 128, p (Char.ofNat n) = true) {c : Char}
    (hc : isPart c = true) : p c = true := by
  have hlt : c.toNat < 128 := by
    simp only [isPart, isStart, isLower, isUpper, isDigit, Bool.or_eq_true, Bool.and_eq_true,
      decide_eq_true_eq, beq_iff_eq, Char.le_def, UInt32.le_iff_toNat_le] at hc
    change c.val.toNat < 128
    rcases hc with (((hc | hc) | rfl) | rfl) | hc
    · exact Nat.lt_of_le_of_lt hc.2 (by decide)
    · exact Nat.lt_of_le_of_lt hc.2 (by decide)
    · decide
    · decide
    · exact Nat.lt_of_le_of_lt hc.2 (by decide)
  simpa using h ⟨c.toNat, hlt⟩

theorem upper_of_isPart {c : Char} (h : isPart c = true) : Text.upper c = [c.toUpper] := by
  have := forall_isPart (p := fun c => Text.upper c == [c.toUpper]) (by decide) h
  simpa using this

theorem isStart_toUpper {c : Char} (h : isStart c = true) : isStart c.toUpper = true := by
  have := forall_isPart (p := fun c => !isStart c || isStart c.toUpper) (by decide)
    (isPart_of_isStart h)
  simpa [h] using this

theorem isUpper_toUpper {c : Char} (h : isLower c = true) : isUpper c.toUpper = true := by
  have := forall_isPart (p := fun c => !isLower c || isUpper c.toUpper) (by decide)
    (isPart_of_isLower h)
  simpa [h] using this

theorem isLower_toUpper {c : Char} (h : isLower c = true) : isLower c.toUpper = false := by
  have := forall_isPart (p := fun c => !isLower c || !isLower c.toUpper) (by decide)
    (isPart_of_isLower h)
  simpa [h] using this

theorem toLower_toUpper {c : Char} (h : isLower c = true) : c.toUpper.toLower = c := by
  have := forall_isPart (p := fun c => !isLower c || c.toUpper.toLower == c) (by decide)
    (isPart_of_isLower h)
  simpa [h] using this

theorem toList_capitalize {s : String} {c : Char} {tail : List Char} (h : s.toList = c :: tail)
    (hc : isPart c = true) : (Text.capitalize s).toList = c.toUpper :: tail := by
  rw [Text.capitalize, h, Text.capitalizeChars, upper_of_isPart hc, String.toList_ofList,
    List.singleton_append]

/-- The capitalized form of an identifier is an identifier. -/
theorem isIdentifier_capitalize {s : String} (h : isIdentifier s = true) :
    isIdentifier (Text.capitalize s) = true := by
  obtain ⟨name, hname, heq⟩ := matchesLine_iff.mp h
  obtain ⟨c, tail, rfl, hfirst, hrest⟩ := matchesWhole_iff.mp hname
  have hpart := isPart_of_isStart hfirst
  refine matchesLine_iff.mpr ⟨c.toUpper :: tail,
    matchesWhole_iff.mpr ⟨_, _, rfl, isStart_toUpper hfirst, hrest⟩, ?_⟩
  rcases heq with heq | heq
  · exact .inl (toList_capitalize heq hpart)
  · exact .inr (toList_capitalize heq hpart)

/-- An entity name is known from its capitalized form. -/
theorem capitalize_injective {s t : String} (hs : isExactEntityName s = true)
    (ht : isExactEntityName t = true) (h : Text.capitalize s = Text.capitalize t) : s = t := by
  obtain ⟨c, tail, hseq, hc, -⟩ := isExactEntityName_iff.mp hs
  obtain ⟨c', tail', hteq, hc', -⟩ := isExactEntityName_iff.mp ht
  have hlist : c.toUpper :: tail = c'.toUpper :: tail' := by
    rw [← toList_capitalize hseq (isPart_of_isLower hc),
      ← toList_capitalize hteq (isPart_of_isLower hc'), h]
  obtain ⟨hfirst, htail⟩ := List.cons.inj hlist
  have hfirst' : c = c' := by rw [← toLower_toUpper hc, hfirst, toLower_toUpper hc']
  rw [← String.toList_inj, hseq, hteq, hfirst', htail]

/-- Behind its first character, a capitalized entity name has no capital letters. -/
theorem isNamePart_of_capitalize {s : String} (hs : isExactEntityName s = true) {c : Char}
    {tail : List Char} (h : (Text.capitalize s).toList = c :: tail) :
    ∀ x ∈ tail, isNamePart x = true := by
  obtain ⟨first, rest, heq, hfirst, hrest⟩ := isExactEntityName_iff.mp hs
  rw [toList_capitalize heq (isPart_of_isLower hfirst)] at h
  exact (List.cons.inj h).2 ▸ hrest

/-- Nothing but parts of identifiers stands in a capitalized entity name. -/
theorem isPart_of_mem_capitalize {s : String} (hs : isExactEntityName s = true) {c : Char}
    (hc : c ∈ (Text.capitalize s).toList) : isPart c = true := by
  obtain ⟨first, rest, heq, hfirst, hrest⟩ := isExactEntityName_iff.mp hs
  rw [toList_capitalize heq (isPart_of_isLower hfirst)] at hc
  rcases List.mem_cons.mp hc with rfl | hc
  · have hupper := isUpper_toUpper hfirst
    simp [isPart, isStart, hupper]
  · exact isPart_of_isNamePart (hrest c hc)

/-! ### Plurals -/

theorem isExactEntityName_pluralize {s : String} (h : isExactEntityName s = true) :
    isExactEntityName (pluralize s) = true := by
  obtain ⟨c, tail, heq, hfirst, hrest⟩ := isExactEntityName_iff.mp h
  have hies : ∀ x ∈ ['i', 'e', 's'], isNamePart x = true := List.all_eq_true.mp (by decide)
  have hletter : ∀ x ∈ ['s'], isNamePart x = true := List.all_eq_true.mp (by decide)
  rw [isExactEntityName_iff, pluralize, String.toList_ofList, heq]
  unfold pluralizeChars
  -- the end is replaced or extended by letters, and the first letter may be all that is replaced
  split
  next hrev => simp at hrev
  next stem hrev =>
    have hstem : c :: tail = stem.reverse ++ ['y'] := by
      rw [← List.reverse_cons, ← hrev, List.reverse_reverse]
    cases hs : stem.reverse with
    | nil => exact ⟨'i', ['e', 's'], rfl, by decide, fun x hx => hies x (List.mem_cons_of_mem _ hx)⟩
    | cons c' tail' =>
      rw [hs, List.cons_append] at hstem
      obtain ⟨rfl, rfl⟩ := List.cons.inj hstem
      refine ⟨c, tail' ++ ['i', 'e', 's'], rfl, hfirst, List.forall_mem_append.mpr ⟨?_, hies⟩⟩
      exact fun x hx => hrest x (List.mem_append_left _ hx)
  next => exact ⟨c, tail ++ ['s'], rfl, hfirst, List.forall_mem_append.mpr ⟨hrest, hletter⟩⟩

/-- A word ends in `y` or gets an `s`. -/
theorem pluralize_cases {s : String} (hs : s ≠ "") :
    (∃ stem, s = stem ++ "y" ∧ pluralize s = stem ++ "ies")
      ∨ (∀ stem, s ≠ stem ++ "y") ∧ pluralize s = s ++ "s" := by
  simp only [pluralize, ← String.toList_inj, String.toList_append, String.toList_ofList]
  unfold pluralizeChars
  split
  next hrev =>
    rw [List.reverse_eq_nil_iff, String.toList_eq_nil_iff] at hrev
    exact absurd hrev hs
  next stem hrev =>
    refine .inl ⟨String.ofList stem.reverse, ?_, by simp⟩
    rw [String.toList_ofList, ← List.reverse_reverse s.toList, hrev, List.reverse_cons]
    rfl
  next hother =>
    refine .inr ⟨fun stem heq => hother stem.toList.reverse ?_, rfl⟩
    rw [heq]
    simp

/-- Two words have one plural when one ends in `y` where the other ends in `ie`. -/
theorem pluralize_eq_iff {a b : String} (ha : a ≠ "") (hb : b ≠ "") (hne : a ≠ b) :
    pluralize a = pluralize b
      ↔ ∃ stem, a = stem ++ "y" ∧ b = stem ++ "ie" ∨ a = stem ++ "ie" ∧ b = stem ++ "y" := by
  have hcut {stem s : String} : stem ++ "ies" = s ++ "s" ↔ s = stem ++ "ie" := by
    rw [show stem ++ "ies" = stem ++ "ie" ++ "s" by rw [String.append_assoc]; rfl,
      String.append_left_inj, eq_comm]
  have hlast {stem s : String} : stem ++ "y" ≠ s ++ "ie" := by
    intro heq
    have := congrArg (fun t => t.toList.getLast?) heq
    simp at this
  -- plurals meet where one name changes its y and the other only gains an s
  rcases pluralize_cases ha with ⟨stem, rfl, hplural⟩ | ⟨hy, hplural⟩ <;>
    rcases pluralize_cases hb with ⟨stem', rfl, hplural'⟩ | ⟨hy', hplural'⟩ <;>
    rw [hplural, hplural']
  · refine iff_of_false (fun h => hne ?_) ?_
    · rw [(String.append_left_inj _).mp h]
    · rintro ⟨s, ⟨-, h⟩ | ⟨h, -⟩⟩
      · exact hlast h
      · exact hlast h
  · rw [hcut]
    constructor
    · exact fun h => ⟨stem, .inl ⟨rfl, h⟩⟩
    · rintro ⟨s, ⟨h, h'⟩ | ⟨h, -⟩⟩
      · rw [h', (String.append_left_inj _).mp h]
      · exact absurd h hlast
  · rw [eq_comm, hcut]
    constructor
    · exact fun h => ⟨stem', .inr ⟨h, rfl⟩⟩
    · rintro ⟨s, ⟨-, h⟩ | ⟨h, h'⟩⟩
      · exact absurd h hlast
      · rw [h, (String.append_left_inj _).mp h']
  · refine iff_of_false (fun h => hne ((String.append_left_inj _).mp h)) ?_
    rintro ⟨s, ⟨h, -⟩ | ⟨-, h⟩⟩
    · exact hy s h
    · exact hy' s h

/-! ### Forms -/

namespace Names

/-- Every form that is declared in code is an identifier. -/
structure AreIdentifiers (n : Names) : Prop where
  name : isIdentifier n.name = true
  capitalized : isIdentifier n.capitalized = true
  plural : isIdentifier n.plural = true
  capitalizedPlural : isIdentifier n.capitalizedPlural = true

theorem isIdentifier_overriding {given : Option String} {derived : String}
    (hgiven : ∀ s, given = some s → isIdentifier s = true)
    (hderived : isIdentifier derived = true) :
    isIdentifier (overriding given derived) = true := by
  unfold overriding
  split
  next s =>
    split
    next => exact hderived
    next => exact hgiven s rfl
  next => exact hderived

/-- Forms that are derived beside overriding identifiers are identifiers. -/
theorem areIdentifiers_derive {name : String} {overrides : NameOverrides}
    (hname : isExactEntityName name = true)
    (hcapitalized : ∀ s, overrides.capitalized = some s → isIdentifier s = true)
    (hplural : ∀ s, overrides.plural = some s → isIdentifier s = true)
    (hcapitalizedPlural : ∀ s, overrides.capitalizedPlural = some s → isIdentifier s = true) :
    (derive name overrides).AreIdentifiers := by
  have hid := isIdentifier_of_isExactEntityName hname
  have hpl := isIdentifier_overriding hplural
    (isIdentifier_of_isExactEntityName (isExactEntityName_pluralize hname))
  exact ⟨hid, isIdentifier_overriding hcapitalized (isIdentifier_capitalize hid), hpl,
    isIdentifier_overriding hcapitalizedPlural (isIdentifier_capitalize hpl)⟩

theorem areIdentifiers_ofName {name : String} (h : isExactEntityName name = true) :
    (ofName name).AreIdentifiers :=
  areIdentifiers_derive h (by simp) (by simp) (by simp)

theorem capitalized_ofName (name : String) : (ofName name).capitalized = Text.capitalize name :=
  rfl

end Names

end Scaffold
