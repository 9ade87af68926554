import Mathlib.Data.List.Basic
import Scaffold.Field
import Scaffold.Proofs.Parsing
import Scaffold.Validation

/-!
# Descriptors and their targets

A relationship is read twice: `FieldType.ofDescriptor` reads a whole descriptor, and `targetOf`
only looks for the entity behind it. `targetOf_of_ofDescriptor` says that both see the same entity,
so that `relationshipTargets`, which collects what `targetOf` finds, lists the targets of the types
that are read (`Document.relationshipTargets_eq`).
-/

namespace Scaffold

theorem mem_of_wordMeaning? {α : Type} {words : List (String × α)} {word : String} {a : α}
    (h : wordMeaning? words word = some a) : (word, a) ∈ words := by
  unfold wordMeaning? at h
  obtain ⟨pair, hfind, rfl⟩ := Option.map_eq_some_iff.mp h
  have hword : pair.1 = word := by simpa using List.find?_some hfind
  exact hword ▸ List.mem_of_find?_eq_some hfind

/-! ### The two readings of a descriptor -/

namespace PrimitiveKind

@[simp]
theorem wordMeaning?_word (kind : PrimitiveKind) : wordMeaning? words kind.word = some kind := by
  cases kind <;> rfl

theorem eq_word_of_wordMeaning? {word : String} {kind : PrimitiveKind}
    (h : wordMeaning? words word = some kind) : word = kind.word := by
  have hmem := mem_of_wordMeaning? h
  simp only [words, List.mem_cons, Prod.mk.injEq, List.not_mem_nil, or_false] at hmem
  rcases hmem with ⟨rfl, rfl⟩ | ⟨rfl, rfl⟩ | ⟨rfl, rfl⟩ <;> rfl

/-- The word of a kind is not that of a relationship. -/
@[simp]
theorem relationshipParts?_word (kind : PrimitiveKind) : relationshipParts? kind.word = none := by
  cases kind <;> rfl

end PrimitiveKind

/-- The parts of a relationship stand behind the word for it, with colons between them. -/
theorem eq_cons_of_relationshipParts? {raw : String} {parts : List String}
    (h : relationshipParts? raw = some parts) : Text.splitOn ':' raw = "relationship" :: parts := by
  unfold relationshipParts? at h
  split at h
  next hsplit => cases h; exact hsplit
  next => cases h

namespace FieldType

variable {options : List String} {descriptor : String}

theorem ofDescriptor_of_kind {kind : PrimitiveKind} (h : Text.strip descriptor = kind.word) :
    ofDescriptor options descriptor = .ok (.primitive kind) := by
  simp [ofDescriptor, h]

theorem ofDescriptor_of_enum (h : Text.strip descriptor = "enum") :
    ofDescriptor options descriptor = (optionsOf options).map .enum := by
  have hkind : wordMeaning? PrimitiveKind.words "enum" = none := by decide
  simp only [ofDescriptor, h, hkind, if_true]

/-- What has the parts of a relationship is neither a kind nor an enumeration. -/
theorem ofDescriptor_of_parts {parts : List String}
    (h : relationshipParts? (Text.strip descriptor) = some parts) :
    ofDescriptor options descriptor
      = (relationshipOfParts (Text.strip descriptor) parts).map fun r => .relationship r.1 r.2 := by
  have hkind : wordMeaning? PrimitiveKind.words (Text.strip descriptor) = none := by
    cases hword : wordMeaning? PrimitiveKind.words (Text.strip descriptor) with
    | none => rfl
    | some kind =>
      rw [PrimitiveKind.eq_word_of_wordMeaning? hword, kind.relationshipParts?_word] at h
      cases h
  have henum : Text.strip descriptor ≠ "enum" := by
    intro heq
    rw [heq] at h
    cases h
  simp only [ofDescriptor, hkind, henum, if_false, h]

/-- A descriptor is the word of a kind, that of an enumeration, a relationship, or unknown. -/
theorem ofDescriptor_cases (options : List String) (descriptor : String) :
    (∃ kind, Text.strip descriptor = PrimitiveKind.word kind)
      ∨ Text.strip descriptor = "enum"
      ∨ (∃ parts, relationshipParts? (Text.strip descriptor) = some parts)
      ∨ ofDescriptor options descriptor = .error (.unknownType descriptor) := by
  cases hkind : wordMeaning? PrimitiveKind.words (Text.strip descriptor) with
  | some kind => exact .inl ⟨kind, PrimitiveKind.eq_word_of_wordMeaning? hkind⟩
  | none =>
    by_cases henum : Text.strip descriptor = "enum"
    · exact .inr (.inl henum)
    · cases hparts : relationshipParts? (Text.strip descriptor) with
      | some parts => exact .inr (.inr (.inl ⟨parts, rfl⟩))
      | none =>
        refine .inr (.inr (.inr ?_))
        simp only [ofDescriptor, hkind, henum, if_false, hparts]

end FieldType

/-- A descriptor that can be read has the target of its type. -/
theorem targetOf_of_ofDescriptor {options : List String} {descriptor : String} {type : FieldType}
    (h : FieldType.ofDescriptor options descriptor = .ok type) :
    targetOf descriptor = .ok type.target? := by
  rw [targetOf]
  rcases FieldType.ofDescriptor_cases options descriptor with
    ⟨kind, hraw⟩ | hraw | ⟨parts, hparts⟩ | herror
  · rw [FieldType.ofDescriptor_of_kind hraw] at h
    cases h
    rw [hraw, kind.relationshipParts?_word]
    rfl
  · rw [FieldType.ofDescriptor_of_enum hraw] at h
    obtain ⟨o, -, rfl⟩ := map_eq_ok.mp h
    rw [hraw]
    rfl
  · rw [FieldType.ofDescriptor_of_parts hparts] at h
    obtain ⟨r, hread, rfl⟩ := map_eq_ok.mp h
    rw [hparts]
    exact map_eq_ok.mpr ⟨r, hread, rfl⟩
  · rw [herror] at h
    cases h

/-- The target of a relationship is one of its parts, stripped, and not empty. -/
theorem exists_strip_of_relationshipOfParts {raw : String} {parts : List String} {target : String}
    {cardinality : Cardinality}
    (h : relationshipOfParts raw parts = .ok (target, cardinality)) :
    ∃ entity ∈ parts, target = Text.strip entity ∧ target ≠ "" := by
  cases parts with
  | nil => cases h
  | cons entity rest =>
    simp only [relationshipOfParts] at h
    split at h
    next => cases h
    next hne =>
      have hne : Text.strip entity ≠ "" := by simpa using hne
      refine ⟨entity, List.mem_cons_self, ?_⟩
      split at h
      next => cases h; exact ⟨rfl, hne⟩
      next =>
        split at h
        next => cases h; exact ⟨rfl, hne⟩
        next => cases h
      next => cases h

/-- The target of a type that is read is a stripped text between colons. -/
theorem exists_strip_of_ofDescriptor {options : List String} {descriptor target : String}
    {cardinality : Cardinality}
    (h : FieldType.ofDescriptor options descriptor = .ok (.relationship target cardinality)) :
    ∃ entity, ':' ∉ entity.toList ∧ target = Text.strip entity ∧ target ≠ "" := by
  have htarget := targetOf_of_ofDescriptor h
  simp only [targetOf, FieldType.target?] at htarget
  split at htarget
  next parts hparts =>
    obtain ⟨r, hread, hr⟩ := map_eq_ok.mp htarget
    obtain ⟨entity, hentity, heq⟩ := exists_strip_of_relationshipOfParts hread
    refine ⟨entity, Text.notMem_of_mem_splitOn (s := Text.strip descriptor) ?_,
      Option.some.inj hr ▸ heq⟩
    rw [eq_cons_of_relationshipParts? hparts]
    exact List.mem_cons_of_mem _ hentity
  next => cases htarget

/-- A relationship that is read names an entity. -/
theorem FieldType.target_ne_empty {options : List String} {descriptor : String} {type : FieldType}
    (h : FieldType.ofDescriptor options descriptor = .ok type) :
    ∀ target, type.target? = some target → target ≠ "" := by
  intro target htarget
  cases type with
  | relationship entity cardinality =>
    obtain ⟨-, -, -, hne⟩ := exists_strip_of_ofDescriptor h
    rwa [← Option.some.inj htarget]
  | primitive kind => cases htarget
  | enum options => cases htarget

/-! ### The targets of a schema -/

/-- Adding texts one by one to a list adds the distinct ones that are not there. -/
theorem foldl_addNew (seen texts : List String) :
    texts.foldl addNew seen = seen ++ (texts.filter (fun s => !seen.contains s)).eraseDups := by
  induction texts generalizing seen with
  | nil => simp
  | cons s rest ih =>
    rw [List.foldl_cons, ih, addNew]
    by_cases h : seen.contains s
    · rw [if_pos h, List.filter_cons_of_neg (by simpa using h)]
    · rw [if_neg h, List.filter_cons_of_pos (by simpa using h), List.eraseDups_cons,
        List.filter_filter, List.append_assoc, List.singleton_append]
      congr 3
      refine List.filter_congr fun t _ => ?_
      by_cases hts : t = s <;> simp [hts]

/-- Adding texts one by one makes no text occur twice. -/
theorem nodup_foldl_addNew {seen : List String} (h : seen.Nodup) (texts : List String) :
    (texts.foldl addNew seen).Nodup := by
  induction texts generalizing seen with
  | nil => exact h
  | cons s rest ih =>
    rw [List.foldl_cons]
    apply ih
    unfold addNew
    split
    next => exact h
    next hs =>
      have hnotMem : s ∉ seen := by simpa using hs
      refine List.nodup_append.mpr ⟨h, by simp, ?_⟩
      intro a ha b hb heq
      exact hnotMem (List.mem_singleton.mp hb ▸ heq ▸ ha)

theorem nodup_eraseDups (texts : List String) : texts.eraseDups.Nodup := by
  have hnodup := nodup_foldl_addNew List.nodup_nil texts
  rw [foldl_addNew] at hnodup
  simpa using hnodup

/-- Collecting targets goes on from those that have been seen. -/
theorem relationshipTargets_go {fields : List (String × String)}
    {target : String × String → Option String}
    (h : ∀ field ∈ fields, targetOf field.2 = .ok (target field)) (seen : List String) :
    relationshipTargets.go seen fields = .ok ((fields.filterMap target).foldl addNew seen) := by
  induction fields generalizing seen with
  | nil => rfl
  | cons field rest ih =>
    have hrest : ∀ f ∈ rest, targetOf f.2 = .ok (target f) :=
      fun f hf => h f (List.mem_cons_of_mem _ hf)
    have hfirst := h field List.mem_cons_self
    rw [relationshipTargets.go, hfirst]
    cases ht : target field with
    | none => rw [List.filterMap_cons_none ht]; exact ih hrest seen
    | some t => rw [List.filterMap_cons_some ht, List.foldl_cons]; exact ih hrest (addNew seen t)

/-- When every target can be found, the targets are the distinct ones in the order of the schema. -/
theorem relationshipTargets_eq {fields : List (String × String)}
    {target : String × String → Option String}
    (h : ∀ field ∈ fields, targetOf field.2 = .ok (target field)) :
    relationshipTargets fields = .ok (fields.filterMap target).eraseDups := by
  rw [relationshipTargets, relationshipTargets_go h, foldl_addNew]
  simp

namespace Document

/-- The entity that a field refers to, by the type of the field. -/
def target? (d : Document) (field : String × String) : Option String :=
  match d.typeOf field.1 field.2 with
  | .ok type => type.target?
  | .error _ => none

/-- The distinct entities that the fields refer to, in the order of the schema. -/
def targets (d : Document) : List String :=
  (d.schema.entries.filterMap d.target?).eraseDups

theorem target?_eq_some {d : Document} {field : String × String} {target : String} :
    d.target? field = some target
      ↔ ∃ cardinality, d.typeOf field.1 field.2 = .ok (.relationship target cardinality) := by
  unfold target?
  split
  next type htype =>
    cases type <;> simp [htype, FieldType.target?]
  next fault hfault => simp [hfault]

@[simp] theorem mem_targets {d : Document} {target : String} :
    target ∈ d.targets ↔ ∃ field ∈ d.schema.entries, d.target? field = some target := by
  rw [targets, List.mem_eraseDups, List.mem_filterMap]

/-- No target is listed twice. -/
theorem nodup_targets (d : Document) : d.targets.Nodup :=
  nodup_eraseDups _

/-- When all descriptors can be read, the relationships lead to the targets of their types. -/
theorem relationshipTargets_eq {d : Document}
    (h : ∀ field ∈ d.schema.entries, ∃ type, d.typeOf field.1 field.2 = .ok type) :
    relationshipTargets d.schema.entries = .ok d.targets := by
  refine Scaffold.relationshipTargets_eq fun field hfield => ?_
  obtain ⟨type, htype⟩ := h field hfield
  rw [target?, htype]
  exact targetOf_of_ofDescriptor htype

end Document

end Scaffold
