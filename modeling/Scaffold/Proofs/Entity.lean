import Scaffold.Proofs.Acceptance
import Scaffold.Proofs.ListLemmas
import Scaffold.Proofs.Names

/-!
# The entity of an accepted document

Validation and the derivation of an entity read the same descriptors, each by itself. Here the
second reading is told by the first: `Entity.exists_ofDocument` says that the entity of a
well-formed document exists, and what it is. Its targets are distinct entity names that differ from
its own. The first error among the findings is all that a rejection depends on
(`Document.ensureValid_eq_error`).
-/

namespace Scaffold

/-! ### The verdict of validation -/

/-- The kind of the rejection that a finding leads to when it is the first error. -/
def Finding.rejectionKind (f : Finding) : RejectionKind :=
  if f.code = "UNKNOWN_FIELD_TYPE" then .unknownFieldType
  else if f.code ∈ ["ENTITY_NAME_RESERVED", "RELATED_ENTITY_IS_SELF", "RELATED_NAME_COLLISION",
      "RELATED_ENTITY_RESERVED"] then .namingCollision
  else .malformed

@[simp] theorem Issue.rejectionKind_finding (i : Issue) (entity : String) :
    (i.finding entity).rejectionKind = i.rejectionKind := by
  cases i
  case badDescriptor key descriptor fault => cases fault <;> rfl
  all_goals rfl

namespace Document

/-- The rejection for the first error, from what is said of it. -/
def rejectionOf (d : Document) (first : Finding) : Rejection where
  kind := first.rejectionKind
  message := first.message
  entity := some d.name
  field := first.about? "field"
  findings := some d.findings

@[simp] theorem rejectionOf_finding (d : Document) (i : Issue) :
    d.rejectionOf (i.finding d.name) = d.rejectionFor i := by
  rw [rejectionOf, rejectionFor, Issue.rejectionKind_finding]
  rfl

theorem find?_isError_findings (d : Document) :
    d.findings.find? Finding.isError = (d.issues.find? Issue.isError).map (Issue.finding d.name) :=
  List.find?_map ..

/-- A document is rejected for the first error among its findings. -/
theorem ensureValid_eq_error {d : Document} {r : Rejection} :
    d.ensureValid = .error r
      ↔ ∃ first, d.findings.find? Finding.isError = some first ∧ r = d.rejectionOf first := by
  rw [find?_isError_findings, ensureValid]
  cases d.issues.find? Issue.isError with
  | none => simp
  | some i => simp [eq_comm]

theorem ensureValid_eq_ok {d : Document} {fs : Findings} :
    d.ensureValid = .ok fs ↔ d.isAccepted = true ∧ fs = d.findings := by
  unfold ensureValid isAccepted
  cases hfind : d.issues.find? Issue.isError with
  | none =>
    have hnone : d.issues.any Issue.isError = false := by simpa using hfind
    simp [hnone, eq_comm]
  | some first =>
    have hsome : d.issues.any Issue.isError = true :=
      List.any_eq_true.mpr ⟨first, List.mem_of_find?_eq_some hfind, List.find?_some hfind⟩
    simp [hsome]

theorem exists_ensureValid_eq_error {d : Document} :
    (∃ r, d.ensureValid = .error r) ↔ ∃ f ∈ d.findings, f.isError = true := by
  rw [← List.find?_isSome, Option.isSome_iff_exists]
  constructor
  · rintro ⟨r, h⟩
    obtain ⟨first, hfirst, -⟩ := ensureValid_eq_error.mp h
    exact ⟨first, hfirst⟩
  · rintro ⟨first, hfirst⟩
    exact ⟨_, ensureValid_eq_error.mpr ⟨first, hfirst, rfl⟩⟩

/-! ### Names and targets of accepted documents -/

theorem admitsTarget_of_mem_targets {d : Document} (hd : d.WellFormed) {target : String}
    (h : target ∈ d.targets) : d.AdmitsTarget target := by
  obtain ⟨field, hfield, htarget⟩ := mem_targets.mp h
  obtain ⟨cardinality, htype⟩ := target?_eq_some.mp htarget
  exact hd.targets field hfield target cardinality htype

/-- A target has nothing behind its name, for it has been stripped. -/
theorem isExactEntityName_of_mem_targets {d : Document} (hd : d.WellFormed) {target : String}
    (h : target ∈ d.targets) : Identifier.isExactEntityName target = true := by
  have hname := (admitsTarget_of_mem_targets hd h).isName
  obtain ⟨field, -, htarget⟩ := mem_targets.mp h
  obtain ⟨cardinality, htype⟩ := target?_eq_some.mp htarget
  obtain ⟨entity, -, rfl, -⟩ := exists_strip_of_ofDescriptor htype
  exact Identifier.isExactEntityName_strip hname

theorem name_notMem_targets {d : Document} (hd : d.WellFormed) : d.name ∉ d.targets :=
  fun h => (admitsTarget_of_mem_targets hd h).isOther rfl

/-- The forms of an accepted entity's name are identifiers. -/
theorem areIdentifiers_names {d : Document} (hd : d.WellFormed)
    (hname : Identifier.isExactEntityName d.name = true) : d.names.AreIdentifiers :=
  Names.areIdentifiers_derive hname hd.capitalized hd.plural hd.capitalizedPlural

/-- The path of an accepted entity is a given path of a resource, or, where none is given, the
plural. -/
theorem path_names {d : Document} (hd : d.WellFormed) :
    (∃ path, d.overrides.path = some path ∧ d.names.path = path
        ∧ Identifier.isResourcePath path = true)
      ∨ d.overrides.path = none ∧ d.names.path = d.names.plural := by
  show (∃ path, _ ∧ overriding d.overrides.path d.names.plural = path ∧ _)
    ∨ _ ∧ overriding d.overrides.path d.names.plural = d.names.plural
  unfold overriding
  cases hgiven : d.overrides.path with
  | none => exact .inr ⟨rfl, rfl⟩
  | some path =>
    have hpath := hd.path path hgiven
    -- an empty path is no path of a resource
    have hne : ¬path.isEmpty = true := by
      intro hempty
      rw [String.isEmpty_iff.mp hempty] at hpath
      exact absurd hpath (by decide)
    exact .inl ⟨path, rfl, if_neg hne, hpath⟩

end Document

/-! ### Mappings -/

namespace FieldSpec

@[simp] theorem key_mapping (s : FieldSpec) : s.mapping.key = s.key := by
  unfold mapping
  split <;> try rfl
  split <;> rfl

@[simp] theorem type_mapping (s : FieldSpec) : s.mapping.type = s.type := by
  unfold mapping
  split <;> try rfl
  split <;> rfl

/-- A mapping has a related entity when its type has a target. -/
theorem related_mapping (s : FieldSpec) : s.mapping.related = s.type.target?.map Names.ofName := by
  unfold mapping
  split
  next htype => rw [htype]; rfl
  next htype => rw [htype]; rfl
  next htype =>
    rw [htype]
    split <;> rfl

end FieldSpec

namespace Entity

/-! ### Fields that are read -/

/-- A field is what the descriptor and the presentation under its key say. -/
structure Reads (d : Document) (entry : String × String) (field : FieldSpec) : Prop where
  key : field.key = entry.1
  hint : field.hint = d.ui.get? entry.1
  type : d.typeOf entry.1 entry.2 = .ok field.type

/-- Descriptors that can be read one by one make up a list of fields. -/
theorem exists_forall₂_reads {d : Document} {entries : List (String × String)}
    (h : ∀ entry ∈ entries, ∃ type, d.typeOf entry.1 entry.2 = .ok type) :
    ∃ fields, List.Forall₂ (Reads d) entries fields := by
  induction entries with
  | nil => exact ⟨[], .nil⟩
  | cons entry rest ih =>
    obtain ⟨type, htype⟩ := h entry List.mem_cons_self
    obtain ⟨fields, hfields⟩ := ih fun e he => h e (List.mem_cons_of_mem _ he)
    exact ⟨⟨entry.1, type, d.ui.get? entry.1⟩ :: fields, .cons ⟨rfl, rfl, htype⟩ hfields⟩

/-- Reading descriptors in turn finds the fields that they say. -/
theorem readFields_of_reads {d : Document} {entries : List (String × String)}
    {fields : List FieldSpec} (h : List.Forall₂ (Reads d) entries fields) :
    readFields d entries = .ok fields := by
  induction h with
  | nil => rfl
  | @cons entry field rest others hfirst _ ih =>
    obtain ⟨key, type, hint⟩ := field
    obtain ⟨rfl, rfl, htype⟩ := hfirst
    have hof : FieldType.ofDescriptor (UiHint.optionList (d.ui.get? entry.1)) entry.2 = .ok type :=
      htype
    simp only [readFields, hof, ih]
    rfl

/-- Every field is read from an entry of the schema. -/
theorem exists_reads_of_mem {d : Document} {entries : List (String × String)}
    {fields : List FieldSpec} (h : List.Forall₂ (Reads d) entries fields) {field : FieldSpec}
    (hfield : field ∈ fields) : ∃ entry ∈ entries, Reads d entry field :=
  exists_of_forall₂ h.flip hfield

theorem readable_of_reads {d : Document} {entries : List (String × String)}
    {fields : List FieldSpec} (h : List.Forall₂ (Reads d) entries fields) :
    ∀ entry ∈ entries, ∃ type, d.typeOf entry.1 entry.2 = .ok type := by
  intro entry hentry
  obtain ⟨field, -, hreads⟩ := exists_of_forall₂ h hentry
  exact ⟨field.type, hreads.type⟩

/-- The target of a field is one of the document's. -/
theorem mem_targets_of_mem {d : Document} {fields : List FieldSpec}
    (h : List.Forall₂ (Reads d) d.schema.entries fields) {field : FieldSpec}
    (hfield : field ∈ fields) {target : String} (htarget : field.type.target? = some target) :
    target ∈ d.targets := by
  obtain ⟨entry, hentry, hreads⟩ := exists_reads_of_mem h hfield
  exact Document.mem_targets.mpr ⟨entry, hentry, by simpa [Document.target?, hreads.type]⟩

/-- Reading a field again gives the target that its type has. -/
theorem filterMap_target? {d : Document} {entries : List (String × String)}
    {fields : List FieldSpec} (h : List.Forall₂ (Reads d) entries fields) :
    entries.filterMap d.target? = fields.filterMap (·.type.target?) := by
  induction h with
  | nil => rfl
  | cons hfirst _ ih =>
    simp only [List.filterMap_cons, ih, Document.target?, hfirst.type]

/-- The entity of a document whose fields have been read. -/
def ofFields (d : Document) (fields : List FieldSpec) : Entity where
  document := d
  names := d.names
  fields := fields
  mappings := fields.map FieldSpec.mapping
  related := d.targets.map Names.ofName

/-- The forms of the related entities' names are identifiers. -/
theorem areIdentifiers_related {d : Document} (hd : d.WellFormed) (fields : List FieldSpec) :
    ∀ n ∈ (ofFields d fields).related, n.AreIdentifiers := by
  refine List.forall_mem_map.mpr fun target htarget => ?_
  exact Names.areIdentifiers_ofName (Document.isExactEntityName_of_mem_targets hd htarget)

/-- The related entities are named like the targets. -/
@[simp] theorem map_name_related (d : Document) (fields : List FieldSpec) :
    (ofFields d fields).related.map (·.name) = d.targets := by
  rw [ofFields, List.map_map]
  exact List.map_id _

/-- The entity of a document is made of the fields that its schema says, when all can be read. -/
theorem ofDocument_of_reads {d : Document} {fields : List FieldSpec}
    (hfields : List.Forall₂ (Reads d) d.schema.entries fields) :
    ofDocument d = .ok (ofFields d fields) := by
  have hread := readFields_of_reads hfields
  have htargets : targetsOf d = .ok d.targets := by
    rw [targetsOf, Document.relationshipTargets_eq (readable_of_reads hfields)]
  simp only [ofDocument, fieldsOf, hread, htargets]
  rfl

/-- The entity of a well-formed document exists. -/
theorem exists_ofDocument {d : Document} (h : d.WellFormed) :
    ∃ fields, List.Forall₂ (Reads d) d.schema.entries fields
      ∧ ofDocument d = .ok (ofFields d fields) := by
  obtain ⟨fields, hfields⟩ := exists_forall₂_reads h.readable
  exact ⟨fields, hfields, ofDocument_of_reads hfields⟩

end Entity

end Scaffold
