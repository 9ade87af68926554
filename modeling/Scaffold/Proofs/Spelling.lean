import Scaffold.Proofs.Assembly
import Scaffold.Proofs.Settings
import Scaffold.Proofs.Text.Unbroken

/-!
# Names that stand without quotation

Generated files take the forms of names, the keys of fields and several settings as they are. What
keeps them from breaking the code is how they are spelled (`Spelled`): they have passed a pattern,
or are derived from names that have (`names_spelled`). A pattern allows a line feed behind the name,
so that nothing is said here of a text that ends in one; where all forms are derived there is none.

The path is a path of a resource when it is given. Otherwise it is the plural, which is an
identifier and may have capital letters (`path_with_capital`).
-/

namespace Scaffold

open Identifier Text

/-- A text that begins with a character of a first class, and goes on with those of a second. -/
def Spelled (first rest : Char → Bool) (s : String) : Prop :=
  ∃ c tail, s.toList = c :: tail ∧ first c = true ∧ ∀ x ∈ tail, rest x = true

/-- A text that ends in a line feed. -/
def EndsInBreak (s : String) : Prop := s.toList.getLast? = some '\n'

/-- The characters of the names of variables. -/
def isVariablePart (c : Char) : Bool := isUpper c || isDigit c || c == '_'

/-- The characters of the paths of resources. -/
def isPathPart (c : Char) : Bool := isNamePart c || c == '-' || c == '_' || c == '/'

/-- The settings that stand as identifiers in generated files. -/
def Settings.identifiers (s : Settings) : List String :=
  [s.adminRole, s.authMiddleware, s.roleGuard, s.dashboardLayout]

/-- The settings that stand as names of variables. -/
def Settings.variableNames (s : Settings) : List String := [s.apiUrlVariable, s.frameworkVariable]

/-- All forms of a name that generated files take. -/
def Names.spliced (n : Names) : List String := n.forms ++ [n.path]

/-- What generated files take as it is is spelled like the names that it is taken for. -/
structure SpelledNames (d : Document) (s : Settings) : Prop where
  name : Spelled isLower isNamePart d.names.name
  identifiers : ∀ text ∈ d.names.forms ++ d.schema.keys ++ s.identifiers, ¬ EndsInBreak text →
    Spelled isStart isPart text
  path : (∃ path, d.overrides.path = some path ∧ d.names.path = path
      ∧ (¬ EndsInBreak path → Spelled isNamePart isPathPart path))
    ∨ d.overrides.path = none ∧ d.names.path = d.names.plural
  variableNames : ∀ text ∈ s.variableNames, ¬ EndsInBreak text →
    Spelled isUpper isVariablePart text
  related : ∀ r ∈ d.targets, ∀ text ∈ (Names.ofName r).spliced, Spelled isStart isPart text
  /-- Derived forms end in no line feed. -/
  derived : d.names = .ofName d.name → ∀ text ∈ d.names.spliced, Spelled isStart isPart text
  unbroken : ∀ text ∈ d.names.spliced ++ d.schema.keys ++ s.identifiers ++ s.variableNames,
    ¬ EndsInBreak text → Unbroken text

/-- What passes a pattern is spelled by it, unless it ends in a line feed. -/
theorem spelled_of_matchesLine {first rest : Char → Bool} {s : String}
    (h : matchesLine first rest s.toList = true) (hbreak : ¬ EndsInBreak s) :
    Spelled first rest s := by
  obtain ⟨name, hname, heq | heq⟩ := matchesLine_iff.mp h
  · exact matchesWhole_iff.mp (heq ▸ hname)
  · refine absurd ?_ hbreak
    rw [EndsInBreak, heq, List.getLast?_concat]

theorem Spelled.mono {first rest first' rest' : Char → Bool} {s : String}
    (h : Spelled first rest s) (hfirst : ∀ c, first c = true → first' c = true)
    (hrest : ∀ c, rest c = true → rest' c = true) : Spelled first' rest' s := by
  obtain ⟨c, tail, heq, hc, htail⟩ := h
  exact ⟨c, tail, heq, hfirst c hc, fun x hx => hrest x (htail x hx)⟩

/-- A class of characters that has no line feed keeps it out of what is spelled with it. -/
theorem Spelled.unbroken {first rest : Char → Bool} {s : String} (h : Spelled first rest s)
    (hfirst : first '\n' = false) (hrest : rest '\n' = false) : Unbroken s := by
  obtain ⟨c, tail, heq, hc, htail⟩ := h
  unfold Unbroken
  rw [heq]
  intro hmem
  rcases List.mem_cons.mp hmem with rfl | hmem
  · rw [hfirst] at hc
    cases hc
  · rw [htail _ hmem] at hrest
    cases hrest

/-! ### Accepted documents -/

theorem spelled_of_isExactEntityName {s : String} (h : isExactEntityName s = true) :
    Spelled isLower isNamePart s :=
  isExactEntityName_iff.mp h

theorem spelled_capitalize {s : String} (h : isExactEntityName s = true) :
    Spelled isStart isPart (Text.capitalize s) := by
  obtain ⟨c, tail, heq, hc, htail⟩ := isExactEntityName_iff.mp h
  refine ⟨c.toUpper, tail, toList_capitalize heq (isPart_of_isLower hc), ?_, ?_⟩
  · exact isStart_toUpper (by simp [isStart, hc])
  · exact fun x hx => isPart_of_isNamePart (htail x hx)

/-- Derived forms have no line feed. -/
theorem spelled_ofName {name : String} (h : isExactEntityName name = true) :
    ∀ text ∈ (Names.ofName name).spliced, Spelled isStart isPart text := by
  have hplural := isExactEntityName_pluralize h
  have hsmall : ∀ s, isExactEntityName s = true → Spelled isStart isPart s := by
    intro s hs
    exact (spelled_of_isExactEntityName hs).mono (fun c hc => by simp [isStart, hc])
      fun c => isPart_of_isNamePart
  show ∀ text ∈ [name, pluralize name, Text.capitalize name, Text.capitalize (pluralize name),
    pluralize name], Spelled isStart isPart text
  simp only [List.forall_mem_cons, List.not_mem_nil, false_imp_iff, implies_true, and_true]
  exact ⟨hsmall _ h, hsmall _ hplural, spelled_capitalize h, spelled_capitalize hplural,
    hsmall _ hplural⟩

section

variable {d : Document} (hd : d.WellFormed) (hname : isExactEntityName d.name = true)

include hd hname in
theorem spelled_forms : ∀ text ∈ d.names.forms, ¬ EndsInBreak text →
    Spelled isStart isPart text := by
  have hn := Document.areIdentifiers_names hd hname
  have hforms : ∀ text ∈ d.names.forms, isIdentifier text = true := by
    simp only [Names.forms, List.forall_mem_cons, List.not_mem_nil, false_imp_iff, implies_true,
      and_true]
    exact ⟨hn.name, hn.plural, hn.capitalized, hn.capitalizedPlural⟩
  intro text htext
  exact spelled_of_matchesLine (hforms text htext)

include hd in
theorem spelled_keys : ∀ key ∈ d.schema.keys, ¬ EndsInBreak key → Spelled isStart isPart key :=
  fun key hkey => spelled_of_matchesLine (hd.keys key hkey).1

include hd in
/-- A given path is spelled like the path of a resource. -/
theorem spelled_path :
    (∃ path, d.overrides.path = some path ∧ d.names.path = path
        ∧ (¬ EndsInBreak path → Spelled isNamePart isPathPart path))
      ∨ d.overrides.path = none ∧ d.names.path = d.names.plural :=
  (Document.path_names hd).imp_left fun ⟨path, hgiven, heq, hpath⟩ =>
    ⟨path, hgiven, heq, spelled_of_matchesLine hpath⟩

include hd hname in
/-- The path has no line feed but at its end. -/
theorem unbroken_path (hbreak : ¬ EndsInBreak d.names.path) : Unbroken d.names.path := by
  rcases spelled_path hd with ⟨path, -, heq, hspelled⟩ | ⟨-, heq⟩
  · rw [heq] at hbreak ⊢
    exact (hspelled hbreak).unbroken (by decide) (by decide)
  · rw [heq] at hbreak ⊢
    have hmem : d.names.plural ∈ d.names.forms := by simp [Names.forms]
    exact (spelled_forms hd hname _ hmem hbreak).unbroken (by decide) (by decide)

end

section

variable {s : Settings} (hs : s.WellFormed)

include hs

theorem spelled_identifiers : ∀ text ∈ s.identifiers, ¬ EndsInBreak text →
    Spelled isStart isPart text := by
  simp only [Settings.identifiers, List.forall_mem_cons, List.not_mem_nil, false_imp_iff,
    implies_true, and_true]
  exact ⟨spelled_of_matchesLine hs.adminRole, spelled_of_matchesLine hs.authMiddleware,
    spelled_of_matchesLine hs.roleGuard, spelled_of_matchesLine hs.dashboardLayout⟩

theorem spelled_variableNames : ∀ text ∈ s.variableNames, ¬ EndsInBreak text →
    Spelled isUpper isVariablePart text := by
  simp only [Settings.variableNames, List.forall_mem_cons, List.not_mem_nil, false_imp_iff,
    implies_true, and_true]
  exact ⟨spelled_of_matchesLine hs.apiUrlVariable, spelled_of_matchesLine hs.frameworkVariable⟩

end

/-- The names that generated files take from an accepted document and from the settings of a run are
spelled as they must be to stand without quotation. The path is spelled like the plural where the
document gives none. -/
theorem names_spelled {v : Value} {d : Document} {s : Settings}
    (hparse : Document.parse v = .ok d) (hvalid : d.findings.isValid = true) (hs : s.Valid) :
    SpelledNames d s := by
  have hd := (Document.isValid_findings_iff d).mp hvalid
  have hname := Document.isExactEntityName_of_parse hparse
  have hidentifiers : ∀ text ∈ d.names.forms ++ d.schema.keys ++ s.identifiers,
      ¬ EndsInBreak text → Spelled isStart isPart text := by
    simp only [List.forall_mem_append]
    exact ⟨⟨spelled_forms hd hname, spelled_keys hd⟩, spelled_identifiers hs.wellFormed⟩
  have hvariables := spelled_variableNames hs.wellFormed
  refine ⟨spelled_of_isExactEntityName hname, hidentifiers, spelled_path hd, hvariables, ?related,
    ?derived, ?unbroken⟩
  case related =>
    intro r hr
    exact spelled_ofName (Document.isExactEntityName_of_mem_targets hd hr)
  case derived =>
    intro hderived
    rw [hderived]
    exact spelled_ofName hname
  case unbroken =>
    -- a break can stand at the very end only, which is excluded here
    intro text htext hbreak
    simp only [Names.spliced, List.append_assoc, List.mem_append, List.mem_singleton] at htext
    rcases htext with htext | rfl | htext | htext | htext
    · exact (spelled_forms hd hname text htext hbreak).unbroken (by decide) (by decide)
    · exact unbroken_path hd hname hbreak
    · exact (spelled_keys hd text htext hbreak).unbroken (by decide) (by decide)
    · exact (spelled_identifiers hs.wellFormed text htext hbreak).unbroken (by decide) (by decide)
    · exact (hvariables text htext hbreak).unbroken (by decide) (by decide)

/-! ### A path with a capital letter -/

/-- An order with items for a plural. -/
def itemsValue : Value :=
  .map [(.text "name", .text "order"), (.text "namePlural", .text "orderItems"),
    (.text "schema", .map [(.text "title", .text "string")]),
    (.text "ui", .map [(.text "title", .map [])])]

def itemsDocument : Document where
  version := none
  name := "order"
  overrides := { plural := some "orderItems" }
  schema := .ofList [("title", "string")]
  ui := .ofList [("title", {})]

theorem itemsValue_accepted : Document.parse itemsValue = .ok itemsDocument
    ∧ itemsDocument.findings.isValid = true ∧ Settings.ofValue (.map []) = .ok {} := by
  decide +kernel

/-- The path of an accepted document may have characters in it that a given path has not. -/
theorem path_with_capital : Document.parse itemsValue = .ok itemsDocument
    ∧ itemsDocument.findings.isValid = true
    ∧ ¬ ∀ c ∈ itemsDocument.names.path.toList, isPathPart c = true := by
  refine ⟨itemsValue_accepted.1, itemsValue_accepted.2.1, fun h => ?_⟩
  exact absurd (h 'I' (by decide)) (by decide)

/-- The names of orders, and the default settings, are spelled as they must be. -/
theorem items_spelled : SpelledNames itemsDocument {} :=
  names_spelled itemsValue_accepted.1 itemsValue_accepted.2.1 (.read _ itemsValue_accepted.2.2)

end Scaffold
