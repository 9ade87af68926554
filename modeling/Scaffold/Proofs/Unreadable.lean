import Mathlib.Data.List.Nodup
import Scaffold.Proofs.Targets

/-!
# Fields that cannot be read

Three loops go over the fields of a schema: an entity is made of the fields and stops at the first
one that cannot be read, validation lists all of them, and the search for targets looks at the
relationships alone. None of them asks whether the document is accepted. They agree
(`unreadable_alike`): an entity fails with the first of the findings about descriptors, every field
that cannot be read has one finding, and an entity that does not fail has the targets of its fields.
-/

namespace Scaffold

/-- The kind of rejection that a finding leads to, if it says that a descriptor cannot be read. -/
def Finding.faultKind? (f : Finding) : Option RejectionKind :=
  if f.code ∈ ["UNKNOWN_FIELD_TYPE", "MALFORMED_FIELD_TYPE"] then some f.rejectionKind else none

variable {d : Document}

/-! ### Findings about descriptors -/

namespace Issue

theorem faultKind?_badDescriptor (entity key descriptor : String) (fault : DescriptorFault) :
    ((badDescriptor key descriptor fault).finding entity).faultKind? = some fault.kind := by
  cases fault <;> rfl

theorem faultKind?_timestampType (entity key descriptor : String) :
    ((timestampType key descriptor).finding entity).faultKind? = none := rfl

/-- Issues of another aspect are about no descriptor. -/
theorem about?_type_of_aspect {i : Issue} (h : i.aspect ≠ .types) (entity : String) :
    (i.finding entity).about? "type" = none := by
  cases i <;> first | rfl | exact absurd rfl h

end Issue

namespace Document

/-- The check of types says of a field that it cannot be read, or that it is no timestamp. -/
theorem typeIssue?_eq_some {field : String × String} {i : Issue} (h : d.typeIssue? field = some i) :
    (∃ fault, d.typeOf field.1 field.2 = .error fault ∧ i = .badDescriptor field.1 field.2 fault)
      ∨ (∃ type, d.typeOf field.1 field.2 = .ok type) ∧ i = .timestampType field.1 field.2 := by
  unfold typeIssue? at h
  split at h
  next fault hfault =>
    cases h
    exact .inl ⟨fault, hfault, rfl⟩
  next type htype =>
    split at h
    next =>
      cases h
      exact .inr ⟨⟨type, htype⟩, rfl⟩
    next => cases h

/-- Fields that can be read have no findings about their descriptors. -/
theorem faultKind?_of_readable {entries : List (String × String)}
    (h : ∀ entry ∈ entries, ∃ type, d.typeOf entry.1 entry.2 = .ok type) :
    ∀ f ∈ d.findingsOf (entries.filterMap d.typeIssue?), f.faultKind? = none := by
  refine List.forall_mem_map.mpr fun i hi => ?_
  obtain ⟨entry, hentry, hissue⟩ := List.mem_filterMap.mp hi
  obtain ⟨type, htype⟩ := h entry hentry
  rcases typeIssue?_eq_some hissue with ⟨fault, hfault, -⟩ | ⟨-, rfl⟩
  · rw [htype] at hfault
    cases hfault
  · exact Issue.faultKind?_timestampType d.name entry.1 entry.2

/-- The first field that cannot be read is the first one that is reported. -/
theorem find?_faultKind? {before rest : List (String × String)} {entry : String × String}
    {fault : DescriptorFault}
    (hbefore : ∀ e ∈ before, ∃ type, d.typeOf e.1 e.2 = .ok type)
    (h : d.typeOf entry.1 entry.2 = .error fault) :
    (d.findingsOf ((before ++ entry :: rest).filterMap d.typeIssue?)).find? (·.faultKind?.isSome)
      = some ((Issue.badDescriptor entry.1 entry.2 fault).finding d.name) := by
  have hnone : (d.findingsOf (before.filterMap d.typeIssue?)).find? (·.faultKind?.isSome)
      = none := by
    rw [List.find?_eq_none]
    intro f hf
    simp [faultKind?_of_readable hbefore f hf]
  have hfirst : ((Issue.badDescriptor entry.1 entry.2 fault).finding d.name).faultKind?.isSome
      = true := by
    rw [Issue.faultKind?_badDescriptor]
    rfl
  unfold findingsOf at hnone ⊢
  rw [List.filterMap_append, List.map_append, List.find?_append, hnone, Option.none_or,
    List.filterMap_cons_some (typeIssue?_of_error h), List.map_cons]
  exact List.find?_cons_of_pos hfirst

theorem about?_of_typeIssue? {field : String × String} {i : Issue}
    (h : d.typeIssue? field = some i) :
    (i.finding d.name).about? "field" = some field.1
      ∧ (i.finding d.name).about? "type" = some field.2 := by
  rcases typeIssue?_eq_some h with ⟨_, -, rfl⟩ | ⟨-, rfl⟩ <;> exact ⟨rfl, rfl⟩

/-- A field that cannot be read has one finding with its key and its descriptor. -/
theorem filter_findings_of_error {field : String × String} {fault : DescriptorFault}
    (hfield : field ∈ d.schema.entries) (h : d.typeOf field.1 field.2 = .error fault) :
    d.findings.filter (fun f => f.about? "field" = some field.1 ∧ f.about? "type" = some field.2)
      = [(Issue.badDescriptor field.1 field.2 fault).finding d.name] := by
  let isSaid : Issue → Bool := fun i => (i.finding d.name).about? "field" = some field.1
    ∧ (i.finding d.name).about? "type" = some field.2
  have hother : ∀ issues : List Issue, (∀ i ∈ issues, i.aspect ≠ .types) →
      issues.filter isSaid = [] := by
    intro issues haspect
    rw [List.filter_eq_nil_iff]
    intro i hi
    simp [isSaid, Issue.about?_type_of_aspect (haspect i hi)]
  have htypes : d.typeIssues.filter isSaid = [.badDescriptor field.1 field.2 fault] := by
    refine filter_filterMap_eq_singleton (List.Nodup.of_map _ d.schema.distinct) hfield
      (typeIssue?_of_error h) ?_ fun entry _ i hi hsaid => ?_
    · exact decide_eq_true (about?_of_typeIssue? (typeIssue?_of_error h))
    · -- a finding is about the key and the descriptor of its field
      obtain ⟨hkey, htype⟩ := of_decide_eq_true hsaid
      obtain ⟨hkey', htype'⟩ := about?_of_typeIssue? hi
      exact Prod.ext (Option.some.inj (hkey'.symm.trans hkey))
        (Option.some.inj (htype'.symm.trans htype))
  have hissues : d.issues.filter isSaid = [.badDescriptor field.1 field.2 fault] := by
    simp only [issues, List.filter_append, htypes]
    rw [hother d.nameIssues fun _ hi => by rw [aspect_of_mem_nameIssues hi]; decide,
      hother d.keyIssues fun _ hi => by rw [aspect_of_mem_keyIssues hi]; decide,
      hother d.coverageIssues fun _ hi => by rw [aspect_of_mem_coverageIssues hi]; decide,
      hother d.relationshipIssues fun _ hi => by rw [aspect_of_mem_relationshipIssues hi]; decide,
      hother d.hintIssues fun _ hi => by rw [aspect_of_mem_hintIssues hi]; decide]
    rfl
  rw [findings, findingsOf, List.filter_map]
  exact congrArg (List.map (Issue.finding d.name)) hissues

end Document

/-! ### The entity -/

namespace Entity

/-- The fields of an entity are read from the entries of the schema, one by one. -/
theorem readFields_eq_ok_iff {entries : List (String × String)} {fields : List FieldSpec} :
    readFields d entries = .ok fields ↔ List.Forall₂ (Reads d) entries fields := by
  refine ⟨fun h => ?_, readFields_of_reads⟩
  induction entries generalizing fields with
  | nil =>
    cases h
    exact .nil
  | cons entry rest ih =>
    simp only [readFields] at h
    split at h
    next => cases h
    next type htype =>
      cases hrest : readFields d rest with
      | error r => rw [hrest] at h; cases h
      | ok others =>
        rw [hrest] at h
        cases h
        exact .cons ⟨rfl, rfl, htype⟩ (ih hrest)

/-- The first field that cannot be read decides the rejection. -/
theorem readFields_eq_error_iff {entries : List (String × String)} {r : Rejection} :
    readFields d entries = .error r
      ↔ ∃ before entry rest fault, entries = before ++ entry :: rest
        ∧ (∀ e ∈ before, ∃ type, d.typeOf e.1 e.2 = .ok type)
        ∧ d.typeOf entry.1 entry.2 = .error fault ∧ r = fault.rejection entry.1 d.name := by
  constructor
  · intro h
    -- reading stops at the first fault, so the entries before it are readable
    induction entries with
    | nil => cases h
    | cons entry rest ih =>
      simp only [readFields] at h
      split at h
      next fault hfault =>
        cases h
        exact ⟨[], entry, rest, fault, rfl, List.forall_mem_nil _, hfault, rfl⟩
      next type htype =>
        cases hrest : readFields d rest with
        | ok others => rw [hrest] at h; cases h
        | error r' =>
          rw [hrest] at h
          cases h
          obtain ⟨before, bad, behind, fault, rfl, hbefore, hfault, hr⟩ := ih hrest
          exact ⟨entry :: before, bad, behind, fault, rfl,
            List.forall_mem_cons.mpr ⟨⟨type, htype⟩, hbefore⟩, hfault, hr⟩
  · rintro ⟨before, entry, rest, fault, rfl, hbefore, hfault, rfl⟩
    induction before with
    | nil =>
      rw [Document.typeOf] at hfault
      rw [List.nil_append, readFields]
      simp only [hfault]
    | cons first others ih =>
      obtain ⟨⟨type, htype⟩, hothers⟩ := List.forall_mem_cons.mp hbefore
      rw [Document.typeOf] at htype
      rw [List.cons_append, readFields]
      simp only [htype, ih hothers]
      rfl

/-- When the fields can be read, so can the targets. -/
theorem relationshipTargets_of_fieldsOf {fields : List FieldSpec} (h : fieldsOf d = .ok fields) :
    relationshipTargets d.schema.entries = .ok (fields.filterMap (·.type.target?)).eraseDups := by
  have hreads := readFields_eq_ok_iff.mp h
  rw [Document.relationshipTargets_eq (readable_of_reads hreads), Document.targets,
    filterMap_target? hreads]

/-- An entity fails where its fields do. -/
theorem ofDocument_eq_error_iff {r : Rejection} :
    ofDocument d = .error r ↔ fieldsOf d = .error r := by
  cases h : fieldsOf d with
  | ok fields => simp [ofDocument_of_reads (readFields_eq_ok_iff.mp h)]
  | error r' =>
    have hfail : ofDocument d = .error r' := by
      simp only [ofDocument, h]
      rfl
    rw [hfail]
    simp

theorem readable_of_ofDocument {e : Entity} (h : ofDocument d = .ok e) :
    ∀ entry ∈ d.schema.entries, ∃ type, d.typeOf entry.1 entry.2 = .ok type := by
  cases hfields : fieldsOf d with
  | error r =>
    rw [ofDocument_eq_error_iff.mpr hfields] at h
    cases h
  | ok fields => exact readable_of_reads (readFields_eq_ok_iff.mp hfields)

/-- An entity fails with the first finding about a descriptor. -/
theorem exists_finding_of_ofDocument {r : Rejection} (h : ofDocument d = .error r) :
    ∃ f, (d.findingsOf d.typeIssues).find? (·.faultKind?.isSome) = some f ∧ f.isError = true
      ∧ f.faultKind? = some r.kind ∧ f.message = r.message := by
  obtain ⟨before, entry, rest, fault, hentries, hbefore, hfault, rfl⟩ :=
    readFields_eq_error_iff.mp (ofDocument_eq_error_iff.mp h)
  refine ⟨(Issue.badDescriptor entry.1 entry.2 fault).finding d.name, ?_, rfl,
    Issue.faultKind?_badDescriptor d.name entry.1 entry.2 fault, rfl⟩
  rw [Document.typeIssues, hentries]
  exact Document.find?_faultKind? hbefore hfault

end Entity

/-- With or without validation, the same fields of a document cannot be read. An entity fails
exactly when validation reports a descriptor, with the kind and the message of the first such
finding. Each field that cannot be read has one finding with its key and its descriptor. When all
fields can be read, the search for targets finds those of the types, each once, in the order of the
schema. -/
theorem unreadable_alike (d : Document) :
    ((∃ r, Entity.ofDocument d = .error r)
        ↔ ∃ f ∈ d.findingsOf d.typeIssues, f.isError = true ∧ f.faultKind?.isSome = true)
      ∧ (∀ r, Entity.ofDocument d = .error r →
        ∃ f, (d.findingsOf d.typeIssues).find? (·.faultKind?.isSome) = some f
          ∧ f.faultKind? = some r.kind ∧ f.message = r.message)
      ∧ (∀ field ∈ d.schema.entries, ∀ fault, d.typeOf field.1 field.2 = .error fault →
        ∃ f, d.findings.filter
            (fun f => f.about? "field" = some field.1 ∧ f.about? "type" = some field.2) = [f]
          ∧ f.faultKind? = some fault.kind ∧ f.message = fault.message field.1 d.name)
      ∧ ∀ fields, Entity.fieldsOf d = .ok fields →
        relationshipTargets d.schema.entries
          = .ok (fields.filterMap (·.type.target?)).eraseDups := by
  refine ⟨⟨?_, ?_⟩, ?_, ?_, fun _ h => Entity.relationshipTargets_of_fieldsOf h⟩
  · rintro ⟨r, h⟩
    obtain ⟨f, hfind, herror, hkind, -⟩ := Entity.exists_finding_of_ofDocument h
    exact ⟨f, List.mem_of_find?_eq_some hfind, herror, hkind ▸ rfl⟩
  · rintro ⟨f, hf, -, hkind⟩
    cases h : Entity.ofDocument d with
    | error r => exact ⟨r, rfl⟩
    | ok e =>
      -- an entity needs readable descriptors, which leave no finding of such a kind
      have hkinds := Document.faultKind?_of_readable (Entity.readable_of_ofDocument h) f hf
      rw [hkinds] at hkind
      cases hkind
  · intro r h
    obtain ⟨f, hfind, -, hkind, hmessage⟩ := Entity.exists_finding_of_ofDocument h
    exact ⟨f, hfind, hkind, hmessage⟩
  · intro field hfield fault h
    exact ⟨_, Document.filter_findings_of_error hfield h,
      Issue.faultKind?_badDescriptor _ _ _ fault, rfl⟩

/-- A parcel with two users, and two fields of the given types. -/
def parcelDocument (state size : String) : Document where
  version := none
  name := "parcel"
  overrides := {}
  schema := .ofList [("owner", "relationship:user"), ("state", state), ("size", size),
    ("watchers", "relationship: user :array")]
  ui := .ofList [("owner", {}), ("state", {}), ("size", {}), ("watchers", {})]

/-- An enumeration without options and a type that does not exist: the entity fails with the first
of them, and each is reported once. With other types, the user is the only target. -/
theorem parcel_unreadable_alike :
    (∃ r, Entity.ofDocument (parcelDocument "enum" "integer") = .error r ∧ r.kind = .malformed
        ∧ ∃ f, f.faultKind? = some r.kind ∧ f.message = r.message
          ∧ ((parcelDocument "enum" "integer").findingsOf
            (parcelDocument "enum" "integer").typeIssues).find? (·.faultKind?.isSome) = some f)
      ∧ (∃ f, (parcelDocument "enum" "integer").findings.filter
            (fun f => f.about? "field" = some "size" ∧ f.about? "type" = some "integer") = [f]
          ∧ f.faultKind? = some .unknownFieldType)
      ∧ relationshipTargets (parcelDocument "string" "number").schema.entries
        = .ok ["user"] := by
  have hstate : Entity.ofDocument (parcelDocument "enum" "integer")
      = .error ((DescriptorFault.noOptions).rejection "state" "parcel") := by decide
  have hsize : (parcelDocument "enum" "integer").typeOf "size" "integer"
      = .error (.unknownType "integer") := by decide
  have hfields : Entity.fieldsOf (parcelDocument "string" "number")
      = .ok [⟨"owner", .relationship "user" .single, some {}⟩,
        ⟨"state", .primitive .string, some {}⟩, ⟨"size", .primitive .number, some {}⟩,
        ⟨"watchers", .relationship "user" .array, some {}⟩] := by
    decide
  obtain ⟨-, hfirst, hone, -⟩ := unreadable_alike (parcelDocument "enum" "integer")
  obtain ⟨f, hfind, hkind, hmessage⟩ := hfirst _ hstate
  obtain ⟨g, hfilter, hgkind, -⟩ := hone ("size", "integer") (by decide) _ hsize
  obtain ⟨-, -, -, htargets⟩ := unreadable_alike (parcelDocument "string" "number")
  exact ⟨⟨_, hstate, rfl, f, hkind, hmessage, hfind⟩, ⟨g, hfilter, hgkind⟩, htargets _ hfields⟩

end Scaffold
