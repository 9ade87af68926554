import Scaffold.Proofs.Field

/-!
# Declared options

A field is an enumeration when its descriptor says so, and its options are those that its
presentation declares (`Document.declaredOptions?`). They reach the generated files by the mapping
of the field, in the order in which they are declared (`Entity.exists_enumMapping`).
-/

namespace Scaffold

/-- Options are those that they are made of. -/
theorem toList_of_optionsOf {options : List String} {o : Options} (h : optionsOf options = .ok o) :
    o.toList = options := by
  unfold optionsOf at h
  split at h
  next => cases h
  next =>
    split at h
    next => cases h; rfl
    next => cases h

/-- What the word `enum` describes is an enumeration of the options that it is read with. -/
theorem FieldType.exists_enum_of_ofDescriptor {options : List String} {descriptor : String}
    {type : FieldType} (hword : Text.strip descriptor = "enum")
    (h : ofDescriptor options descriptor = .ok type) :
    ∃ o, type = .enum o ∧ o.toList = options := by
  rw [ofDescriptor_of_enum hword] at h
  obtain ⟨o, hoptions, rfl⟩ := map_eq_ok.mp h
  exact ⟨o, rfl, toList_of_optionsOf hoptions⟩

namespace Document

/-- The options that are declared for a key, if its field is an enumeration. -/
def declaredOptions? (d : Document) (key : String) : Option (List String) :=
  match d.schema.get? key with
  | some descriptor =>
    if Text.strip descriptor = "enum" then some (UiHint.optionList (d.ui.get? key)) else none
  | none => none

theorem declaredOptions?_eq_some {d : Document} {key : String} {options : List String} :
    d.declaredOptions? key = some options
      ↔ ∃ descriptor, (key, descriptor) ∈ d.schema.entries ∧ Text.strip descriptor = "enum"
        ∧ UiHint.optionList (d.ui.get? key) = options := by
  simp only [← Keyed.get?_eq_some]
  unfold declaredOptions?
  cases d.schema.get? key with
  | none => simp
  | some descriptor => simp

/-- An enumeration is no timestamp, so that it is edited. -/
theorem WellFormed.mem_editedKeys_of_declared {d : Document} (hd : d.WellFormed) {key : String}
    {options : List String} (h : d.declaredOptions? key = some options) : key ∈ d.editedKeys := by
  obtain ⟨descriptor, hentry, hword, -⟩ := declaredOptions?_eq_some.mp h
  refine List.mem_filter.mpr ⟨List.mem_map_of_mem (f := (·.1)) hentry, ?_⟩
  cases hstamp : isTimestampKey key with
  | false => rfl
  | true =>
    have hstring : d.typeOf key descriptor = .ok (.primitive .string) :=
      hd.timestamps (key, descriptor) hentry hstamp
    rw [typeOf] at hstring
    obtain ⟨_, htype, -⟩ := FieldType.exists_enum_of_ofDescriptor hword hstring
    cases htype

end Document

namespace Entity

variable {d : Document} {fields : List FieldSpec}
  (hfields : List.Forall₂ (Reads d) d.schema.entries fields)

include hfields

/-- The mapping under the key of an enumeration is that of the declared options. -/
theorem exists_enumMapping {m : FieldMapping} (hm : m ∈ (ofFields d fields).mappings)
    {options : List String} (h : d.declaredOptions? m.key = some options) :
    ∃ field : FieldSpec, ∃ o, field.type = .enum o ∧ m = field.enumMapping o
      ∧ o.toList = options := by
  obtain ⟨field, hfield, rfl⟩ := List.mem_map.mp hm
  obtain ⟨entry, hentry, hreads⟩ := exists_reads_of_mem hfields hfield
  rw [FieldSpec.key_mapping, hreads.key] at h
  obtain ⟨descriptor, hdescriptor, hword, rfl⟩ := Document.declaredOptions?_eq_some.mp h
  -- a key has one descriptor
  obtain rfl : descriptor = entry.2 :=
    Option.some.inj ((Keyed.get?_eq_some.mpr hdescriptor).symm.trans
      (Keyed.get?_eq_some.mpr hentry))
  obtain ⟨o, htype, ho⟩ := FieldType.exists_enum_of_ofDescriptor hword hreads.type
  refine ⟨field, o, htype, ?_, ho⟩
  rw [FieldSpec.mapping, htype]

end Entity

end Scaffold
