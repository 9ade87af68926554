import Mathlib.Data.List.TakeWhile
import Scaffold.Proofs.Canonical
import Scaffold.Proofs.Declared

/-!
# The grammar of descriptors

How a type is written is said here without the reader. `Descriptor.Denotes` has a rule for each way
to write a type, and `Descriptor.IsIncomplete` one for each way to leave a type unfinished. Both are
about a descriptor without the blanks around it. The reader finds the types that the first one
gives, calls what the second one describes malformed, and everything else unknown
(`descriptors_read_by_grammar`).
-/

namespace Scaffold

namespace Descriptor

/-- What descriptors say, with the options of the field. Blanks may stand around each part of a
relationship, and no part has a colon in it. -/
inductive Denotes (options : List String) : String → FieldType → Prop where
  | primitive (kind : PrimitiveKind) : Denotes options kind.word (.primitive kind)
  | enum (o : Options) (h : o.toList = options) : Denotes options "enum" (.enum o)
  /-- An entity by itself, for one entity. -/
  | single (entity : String) (hcolon : ':' ∉ entity.toList) (hentity : Text.strip entity ≠ "") :
    Denotes options ("relationship:" ++ entity) (.relationship (Text.strip entity) .single)
  /-- An entity and the word for a cardinality. -/
  | counted (entity word : String) (c : Cardinality) (hcolon : ':' ∉ entity.toList)
    (hcolon' : ':' ∉ word.toList) (hentity : Text.strip entity ≠ "")
    (hword : Text.strip word = c.word) :
    Denotes options ("relationship:" ++ entity ++ ":" ++ word)
      (.relationship (Text.strip entity) c)

/-- Descriptors that say what kind of type is meant, but not which type. -/
inductive IsIncomplete (options : List String) : String → Prop where
  | enum (h : ¬(options ≠ [] ∧ options.Nodup)) : IsIncomplete options "enum"
  | relationship : IsIncomplete options "relationship"
  | noEntity (blanks : String) (h : ∀ c ∈ blanks.toList, Text.isBlank c = true) :
    IsIncomplete options ("relationship:" ++ blanks)
  /-- Whatever follows the place of the entity. -/
  | noEntityBefore (blanks rest : String) (h : ∀ c ∈ blanks.toList, Text.isBlank c = true) :
    IsIncomplete options ("relationship:" ++ blanks ++ ":" ++ rest)

end Descriptor

theorem DescriptorFault.kind_eq_or (fault : DescriptorFault) :
    fault.kind = .malformed ∨ fault.kind = .unknownFieldType := by
  cases fault <;> simp [kind]

/-! ### Options -/

@[simp] theorem optionsOf_eq_ok_iff {options : List String} {o : Options} :
    optionsOf options = .ok o ↔ o.toList = options := by
  refine ⟨toList_of_optionsOf, ?_⟩
  rintro rfl
  exact dif_pos o.distinct

/-- Options that are no options are malformed. -/
theorem optionsOf_malformed_iff {options : List String} :
    (∃ fault, optionsOf options = .error fault ∧ fault.kind = .malformed)
      ↔ ¬(options ≠ [] ∧ options.Nodup) := by
  cases options with
  | nil => simp [optionsOf, DescriptorFault.kind]
  | cons first others =>
    by_cases h : (first :: others).Nodup
    · simp [optionsOf, h]
    · simp [optionsOf, h, DescriptorFault.kind]

/-! ### The parts of a relationship -/

theorem Text.strip_eq_empty_iff {s : String} :
    strip s = "" ↔ ∀ c ∈ s.toList, isBlank c = true := by
  rw [← List.dropWhile_eq_nil_iff, ← String.toList_inj]
  simp only [strip, stripWith, stripChars, String.toList_ofList, String.toList_empty,
    List.reverse_eq_nil_iff]
  constructor
  · intro h
    -- a character that was left would be the first one, and no blank
    cases hs : s.toList.dropWhile isBlank with
    | nil => rfl
    | cons c rest =>
      have hnot := List.head?_dropWhile_not isBlank s.toList
      rw [hs] at h hnot
      have hc := List.dropWhile_eq_nil_iff.mp h c (by simp)
      rw [List.head?_cons] at hnot
      simp [hc] at hnot
  · intro h
    rw [h]
    rfl

theorem Text.colon_notMem_of_blank {s : String} (h : ∀ c ∈ s.toList, isBlank c = true) :
    ':' ∉ s.toList := by
  intro hmem
  have hcolon : isBlank ':' = false := by decide
  rw [h ':' hmem] at hcolon
  cases hcolon

theorem relationshipParts?_eq_some_iff {raw : String} {parts : List String} :
    relationshipParts? raw = some parts ↔ Text.splitOn ':' raw = "relationship" :: parts := by
  refine ⟨eq_cons_of_relationshipParts?, fun h => ?_⟩
  rw [relationshipParts?, h]
  rfl

/-- The parts of a relationship stand behind a colon. -/
@[simp] theorem relationshipParts?_append (s : String) :
    relationshipParts? ("relationship:" ++ s) = some (Text.splitOn ':' s) := by
  have hsplit : Text.splitOn ':' ("relationship" ++ String.singleton ':' ++ s)
      = ["relationship"] ++ Text.splitOn ':' s := by
    rw [Text.splitOn_append, Text.splitOn_of_notMem (by decide)]
  exact relationshipParts?_eq_some_iff.mpr hsplit

theorem relationshipParts?_before (a b : String) :
    relationshipParts? ("relationship:" ++ a ++ ":" ++ b)
      = some (Text.splitOn ':' a ++ Text.splitOn ':' b) := by
  rw [String.append_assoc, String.append_assoc, relationshipParts?_append, ← String.append_assoc]
  exact congrArg some Text.splitOn_append

/-- A relationship is the word for it, by itself or before a colon. -/
theorem eq_of_relationshipParts? {raw : String} {parts : List String}
    (h : relationshipParts? raw = some parts) :
    raw = "relationship" ∧ parts = []
      ∨ ∃ s, raw = "relationship:" ++ s ∧ Text.splitOn ':' s = parts := by
  obtain ⟨-, hcolon, hraw⟩ := Text.splitOn_eq_iff.mp (relationshipParts?_eq_some_iff.mp h)
  cases parts with
  | nil => exact .inl ⟨by simpa using hraw.symm, rfl⟩
  | cons part rest =>
    rw [String.intercalate_cons_cons] at hraw
    refine .inr ⟨(String.singleton ':').intercalate (part :: rest), hraw.symm, ?_⟩
    exact Text.splitOn_eq_iff.mpr
      ⟨List.cons_ne_nil _ _, fun p hp => hcolon p (List.mem_cons_of_mem _ hp), rfl⟩

theorem Cardinality.eq_word_of_wordMeaning? {word : String} {c : Cardinality}
    (h : wordMeaning? words word = some c) : word = c.word := by
  have hmem := mem_of_wordMeaning? h
  simp only [words, List.mem_cons, Prod.mk.injEq, List.not_mem_nil, or_false] at hmem
  rcases hmem with ⟨rfl, rfl⟩ | ⟨rfl, rfl⟩ <;> rfl

/-- Behind the word stand an entity, and perhaps a cardinality. -/
theorem relationshipOfParts_eq_ok_iff {raw target : String} {parts : List String}
    {c : Cardinality} :
    relationshipOfParts raw parts = .ok (target, c)
      ↔ target ≠ "" ∧ ((∃ entity, parts = [entity] ∧ Text.strip entity = target ∧ c = .single)
        ∨ ∃ entity word, parts = [entity, word] ∧ Text.strip entity = target
          ∧ Text.strip word = c.word) := by
  constructor
  · intro h
    -- there are one or two parts, of which the first names the entity
    cases parts with
    | nil => cases h
    | cons entity rest =>
      simp only [relationshipOfParts] at h
      split at h
      next => cases h
      next hne =>
        have hne : Text.strip entity ≠ "" := by simpa using hne
        split at h
        next =>
          cases h
          exact ⟨hne, .inl ⟨entity, rfl, rfl, rfl⟩⟩
        next word =>
          split at h
          next c' hword =>
            cases h
            exact ⟨hne, .inr ⟨entity, word, rfl, rfl, Cardinality.eq_word_of_wordMeaning? hword⟩⟩
          next => cases h
        next => cases h
  · rintro ⟨hne, ⟨entity, rfl, rfl, rfl⟩ | ⟨entity, word, rfl, rfl, hword⟩⟩
    · simp [relationshipOfParts, hne]
    · simp [relationshipOfParts, hne, hword]

/-- Without an entity the rest does not count. -/
theorem relationshipOfParts_malformed_iff {raw : String} {parts : List String} :
    (∃ fault, relationshipOfParts raw parts = .error fault ∧ fault.kind = .malformed)
      ↔ ∀ entity ∈ parts.head?, Text.strip entity = "" := by
  cases parts with
  | nil => simp [relationshipOfParts, DescriptorFault.kind]
  | cons entity rest =>
    have hhead : (∀ e ∈ (entity :: rest).head?, Text.strip e = "") ↔ Text.strip entity = "" := by
      simp
    rw [hhead]
    by_cases hblank : Text.strip entity = ""
    · simp [relationshipOfParts, hblank, DescriptorFault.kind]
    · refine iff_of_false ?_ hblank
      rintro ⟨fault, hfault, hkind⟩
      simp only [relationshipOfParts, String.isEmpty_iff, hblank, if_false] at hfault
      -- what can be wrong behind an entity is that it is unknown
      split at hfault
      next => cases hfault
      next =>
        split at hfault
        next => cases hfault
        next => cases hfault; cases hkind
      next => cases hfault; cases hkind

/-! ### The reader -/

namespace FieldType

variable {options : List String} {descriptor : String}

theorem exists_malformed_of_parts {parts : List String}
    (hparts : relationshipParts? (Text.strip descriptor) = some parts)
    (h : ∀ entity ∈ parts.head?, Text.strip entity = "") :
    ∃ fault, ofDescriptor options descriptor = .error fault ∧ fault.kind = .malformed := by
  have hread : ∃ fault, relationshipOfParts (Text.strip descriptor) parts = .error fault
      ∧ fault.kind = .malformed := relationshipOfParts_malformed_iff.mpr h
  obtain ⟨fault, hfault, hkind⟩ := hread
  exact ⟨fault, (ofDescriptor_of_parts hparts).trans (map_eq_error.mpr hfault), hkind⟩

theorem denotes_of_ofDescriptor {type : FieldType}
    (h : ofDescriptor options descriptor = .ok type) :
    Descriptor.Denotes options (Text.strip descriptor) type := by
  -- the cases of the reader are the rules of the grammar
  rcases ofDescriptor_cases options descriptor with ⟨kind, hraw⟩ | hraw | ⟨parts, hparts⟩ | herror
  · rw [ofDescriptor_of_kind hraw] at h
    cases h
    rw [hraw]
    exact .primitive kind
  · rw [ofDescriptor_of_enum hraw] at h
    obtain ⟨o, ho, rfl⟩ := map_eq_ok.mp h
    rw [hraw]
    exact .enum o (optionsOf_eq_ok_iff.mp ho)
  · rw [ofDescriptor_of_parts hparts] at h
    obtain ⟨⟨target, c⟩, hread, rfl⟩ := map_eq_ok.mp h
    obtain ⟨hne, hread⟩ := relationshipOfParts_eq_ok_iff.mp hread
    obtain ⟨-, rfl⟩ | ⟨s, hraw, hsplit⟩ := eq_of_relationshipParts? hparts
    · simp at hread
    · obtain ⟨-, hcolon, rfl⟩ := Text.splitOn_eq_iff.mp hsplit
      rw [hraw]
      obtain ⟨entity, rfl, rfl, rfl⟩ | ⟨entity, word, rfl, rfl, hword⟩ := hread
      · rw [String.intercalate_singleton]
        exact .single entity (hcolon entity (by simp)) hne
      · rw [String.intercalate_cons_cons, String.intercalate_singleton, String.append_assoc,
          ← String.append_assoc, ← String.append_assoc]
        exact .counted entity word c (hcolon entity (by simp)) (hcolon word (by simp)) hne hword
  · rw [herror] at h
    cases h

theorem ofDescriptor_of_denotes {type : FieldType}
    (h : Descriptor.Denotes options (Text.strip descriptor) type) :
    ofDescriptor options descriptor = .ok type := by
  generalize hraw : Text.strip descriptor = raw at h
  cases h with
  | primitive kind => exact ofDescriptor_of_kind hraw
  | enum o ho =>
    rw [ofDescriptor_of_enum hraw]
    exact map_eq_ok.mpr ⟨o, optionsOf_eq_ok_iff.mpr ho, rfl⟩
  | single entity hcolon hne =>
    have hparts : relationshipParts? (Text.strip descriptor) = some [entity] := by
      rw [hraw, relationshipParts?_append, Text.splitOn_of_notMem hcolon]
    rw [ofDescriptor_of_parts hparts]
    exact map_eq_ok.mpr
      ⟨_, relationshipOfParts_eq_ok_iff.mpr ⟨hne, .inl ⟨entity, rfl, rfl, rfl⟩⟩, rfl⟩
  | counted entity word c hcolon hcolon' hne hword =>
    have hparts : relationshipParts? (Text.strip descriptor) = some [entity, word] := by
      rw [hraw, relationshipParts?_before, Text.splitOn_of_notMem hcolon,
        Text.splitOn_of_notMem hcolon', List.singleton_append]
    rw [ofDescriptor_of_parts hparts]
    exact map_eq_ok.mpr
      ⟨_, relationshipOfParts_eq_ok_iff.mpr ⟨hne, .inr ⟨entity, word, rfl, rfl, hword⟩⟩, rfl⟩

/-- The reader finds the types that descriptors denote. -/
theorem ofDescriptor_eq_ok_iff {type : FieldType} :
    ofDescriptor options descriptor = .ok type
      ↔ Descriptor.Denotes options (Text.strip descriptor) type :=
  ⟨denotes_of_ofDescriptor, ofDescriptor_of_denotes⟩

theorem isIncomplete_of_malformed {fault : DescriptorFault}
    (h : ofDescriptor options descriptor = .error fault) (hkind : fault.kind = .malformed) :
    Descriptor.IsIncomplete options (Text.strip descriptor) := by
  rcases ofDescriptor_cases options descriptor with ⟨kind, hraw⟩ | hraw | ⟨parts, hparts⟩ | herror
  · rw [ofDescriptor_of_kind hraw] at h
    cases h
  · rw [ofDescriptor_of_enum hraw, map_eq_error] at h
    rw [hraw]
    exact .enum (optionsOf_malformed_iff.mp ⟨fault, h, hkind⟩)
  · rw [ofDescriptor_of_parts hparts, map_eq_error] at h
    have hblank := relationshipOfParts_malformed_iff.mp ⟨fault, h, hkind⟩
    obtain ⟨hraw, -⟩ | ⟨s, hraw, hsplit⟩ := eq_of_relationshipParts? hparts
    · rw [hraw]
      exact .relationship
    · -- nothing but blanks stands where the entity should be
      obtain ⟨hne, -, rfl⟩ := Text.splitOn_eq_iff.mp hsplit
      obtain ⟨blanks, rest, rfl⟩ := List.exists_cons_of_ne_nil hne
      have hblanks := Text.strip_eq_empty_iff.mp (hblank blanks rfl)
      rw [hraw]
      cases rest with
      | nil =>
        rw [String.intercalate_singleton]
        exact .noEntity blanks hblanks
      | cons part others =>
        rw [String.intercalate_cons_cons, String.append_assoc, ← String.append_assoc,
          ← String.append_assoc]
        exact .noEntityBefore blanks _ hblanks
  · rw [herror] at h
    cases h
    cases hkind

theorem exists_malformed_of_isIncomplete
    (h : Descriptor.IsIncomplete options (Text.strip descriptor)) :
    ∃ fault, ofDescriptor options descriptor = .error fault ∧ fault.kind = .malformed := by
  generalize hraw : Text.strip descriptor = raw at h
  cases h with
  | enum hoptions =>
    obtain ⟨fault, hfault, hkind⟩ := optionsOf_malformed_iff.mpr hoptions
    exact ⟨fault, (ofDescriptor_of_enum hraw).trans (map_eq_error.mpr hfault), hkind⟩
  | relationship =>
    have hparts : relationshipParts? (Text.strip descriptor) = some [] := by rw [hraw]; rfl
    exact exists_malformed_of_parts hparts (by simp)
  | noEntity blanks hblanks =>
    have hparts : relationshipParts? (Text.strip descriptor) = some [blanks] := by
      rw [hraw, relationshipParts?_append,
        Text.splitOn_of_notMem (Text.colon_notMem_of_blank hblanks)]
    exact exists_malformed_of_parts hparts (by simpa using Text.strip_eq_empty_iff.mpr hblanks)
  | noEntityBefore blanks rest hblanks =>
    have hparts : relationshipParts? (Text.strip descriptor)
        = some (blanks :: Text.splitOn ':' rest) := by
      rw [hraw, relationshipParts?_before,
        Text.splitOn_of_notMem (Text.colon_notMem_of_blank hblanks), List.singleton_append]
    exact exists_malformed_of_parts hparts (by simpa using Text.strip_eq_empty_iff.mpr hblanks)

/-- The reader calls incomplete descriptors malformed, and no others. -/
theorem ofDescriptor_malformed_iff :
    (∃ fault, ofDescriptor options descriptor = .error fault ∧ fault.kind = .malformed)
      ↔ Descriptor.IsIncomplete options (Text.strip descriptor) :=
  ⟨fun ⟨_, h, hkind⟩ => isIncomplete_of_malformed h hkind, exists_malformed_of_isIncomplete⟩

/-- What is neither a type nor malformed is of an unknown type. -/
theorem ofDescriptor_unknown_iff :
    (∃ fault, ofDescriptor options descriptor = .error fault ∧ fault.kind = .unknownFieldType)
      ↔ ¬((∃ type, Descriptor.Denotes options (Text.strip descriptor) type)
        ∨ Descriptor.IsIncomplete options (Text.strip descriptor)) := by
  simp only [← ofDescriptor_eq_ok_iff, ← ofDescriptor_malformed_iff]
  cases ofDescriptor options descriptor with
  | ok type => simp
  | error fault => rcases fault.kind_eq_or with hkind | hkind <;> simp [hkind]

@[simp] theorem ofValue_text_eq_ok {type : FieldType} :
    ofValue options (.text descriptor) = .ok type ↔ ofDescriptor options descriptor = .ok type := by
  cases h : ofDescriptor options descriptor <;> simp [ofValue, h]

theorem ofValue_text_eq_error {fault : ValueFault} :
    ofValue options (.text descriptor) = .error fault
      ↔ ∃ f, fault = .descriptor f ∧ ofDescriptor options descriptor = .error f := by
  cases h : ofDescriptor options descriptor <;> simp [ofValue, h, eq_comm]

/-- What is no text is refused, for its form if that can be written. -/
theorem ofValue_of_not_text {v : Value} (h : ∀ s, v ≠ .text s) :
    ofValue options v = match v.quoted? with
      | some form => .error (.descriptor (.notText form))
      | none => .error .unwritable := by
  cases v
  case text s => exact absurd rfl (h s)
  all_goals rfl

end FieldType

/-- Types are read by the grammar: a descriptor is read as the type that it denotes; one that is
incomplete is malformed, whatever follows; and everything else is of an unknown type, be it a text
or not. Only what is no text and has a number in it with too many digits is refused for that number.
-/
theorem descriptors_read_by_grammar (key entity : String) (hint : Option UiHint) (v : Value) :
    (∀ type, FieldType.ofValue (UiHint.optionList hint) v = .ok type
        ↔ ∃ descriptor, v = .text descriptor
          ∧ Descriptor.Denotes (UiHint.optionList hint) (Text.strip descriptor) type)
      ∧ ((∃ fault, FieldType.ofValue (UiHint.optionList hint) v = .error (.descriptor fault)
            ∧ (fault.rejection key entity).kind = .malformed)
        ↔ ∃ descriptor, v = .text descriptor
          ∧ Descriptor.IsIncomplete (UiHint.optionList hint) (Text.strip descriptor))
      ∧ ((∃ fault, FieldType.ofValue (UiHint.optionList hint) v = .error (.descriptor fault)
            ∧ (fault.rejection key entity).kind = .unknownFieldType)
        ↔ v.quoted? ≠ none ∧ ¬∃ descriptor, v = .text descriptor
          ∧ ((∃ type, Descriptor.Denotes (UiHint.optionList hint) (Text.strip descriptor) type)
            ∨ Descriptor.IsIncomplete (UiHint.optionList hint) (Text.strip descriptor)))
      ∧ (FieldType.ofValue (UiHint.optionList hint) v = .error .unwritable ↔ v.quoted? = none) := by
  -- what is no text is no descriptor; its fault depends on whether it can be quoted
  by_cases hv : ∃ descriptor, v = .text descriptor
  · obtain ⟨descriptor, rfl⟩ := hv
    have hquoted : (Value.text descriptor).quoted? = some (Text.quoted descriptor) := rfl
    have hmalformed := @FieldType.ofDescriptor_malformed_iff (UiHint.optionList hint) descriptor
    have hunknown := @FieldType.ofDescriptor_unknown_iff (UiHint.optionList hint) descriptor
    simp only [FieldType.ofValue_text_eq_ok, FieldType.ofValue_text_eq_error, Value.text.injEq,
      exists_eq_left', FieldType.ofDescriptor_eq_ok_iff, implies_true, true_and]
    refine ⟨?_, ?_, ?_⟩
    · simpa [DescriptorFault.rejection] using hmalformed
    · simpa [DescriptorFault.rejection, hquoted] using hunknown
    · simp [hquoted]
  · rw [not_exists] at hv
    have hnone : ∀ P : String → Prop, ¬∃ descriptor, v = .text descriptor ∧ P descriptor :=
      fun P ⟨descriptor, heq, _⟩ => hv descriptor heq
    rw [FieldType.ofValue_of_not_text hv]
    cases v.quoted? with
    | none => simp [hnone]
    | some form => simp [hnone, DescriptorFault.rejection, DescriptorFault.kind]

-- a missing entity counts before too many parts
example : FieldType.ofDescriptor [] " relationship: :array:all"
    = .error (.noTarget "relationship: :array:all") := by decide

end Scaffold
