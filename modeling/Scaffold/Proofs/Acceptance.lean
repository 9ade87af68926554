import Scaffold.Proofs.Descriptor

/-!
# Accepted documents

A document is accepted exactly when it is well formed (`Document.isAccepted_iff`).
`Document.WellFormed` says so without the checks: it is one condition for every aspect that they
look at. Some checks say nothing while another one has something to say, that of the targets above
all. A check that is silenced this way is always silenced by an error, so that the conditions hold
together or some error is left.
-/

namespace Scaffold

/-- What the checks look at, one aspect each. -/
inductive Issue.Aspect where
  | names
  | keys
  | coverage
  | types
  | targets
  | presentations
deriving DecidableEq

/-- The aspect that an issue belongs to. -/
def Issue.aspect : Issue → Aspect
  | badOverride .. | badPath _ | reservedName _ => .names
  | reservedKey _ | badKey _ => .keys
  | missingHint _ | orphanHint _ => .coverage
  | badDescriptor .. | timestampType .. => .types
  | badTarget _ | targetIsSelf _ | targetCollision .. | targetReserved .. => .targets
  | optionsIgnored _ | cardinalityMismatch .. | apiRefMismatch .. | timestampInForm _ =>
    .presentations

namespace Document

/-- What an entity must be like for a document to refer to it. -/
structure AdmitsTarget (d : Document) (target : String) : Prop where
  isName : Identifier.isEntityName target = true
  isOther : target ≠ d.name
  /-- No form of its name is one of the entity itself. -/
  isApart : ∀ form ∈ d.names.forms, form ∉ (Names.ofName target).forms
  nameFree : isReserved (Names.ofName target).name = false
  pluralFree : isReserved (Names.ofName target).plural = false

/-- What a document must be like to be accepted. -/
structure WellFormed (d : Document) : Prop where
  capitalized : ∀ name, d.overrides.capitalized = some name → Identifier.isIdentifier name = true
  plural : ∀ name, d.overrides.plural = some name → Identifier.isIdentifier name = true
  capitalizedPlural :
    ∀ name, d.overrides.capitalizedPlural = some name → Identifier.isIdentifier name = true
  path : ∀ path, d.overrides.path = some path → Identifier.isResourcePath path = true
  nameFree : isReserved d.names.name = false
  pluralFree : isReserved d.names.plural = false
  keys : ∀ key ∈ d.schema.keys, Identifier.isIdentifier key = true ∧ key ≠ identityField
  presented : ∀ key ∈ d.schema.keys, isTimestampKey key = false → key ∈ d.ui.keys
  declared : ∀ key ∈ d.ui.keys, key ∈ d.schema.keys
  readable : ∀ field ∈ d.schema.entries, ∃ type, d.typeOf field.1 field.2 = .ok type
  timestamps : ∀ field ∈ d.schema.entries, isTimestampKey field.1 = true →
    d.typeOf field.1 field.2 = .ok (.primitive .string)
  targets : ∀ field ∈ d.schema.entries, ∀ target cardinality,
    d.typeOf field.1 field.2 = .ok (.relationship target cardinality) → d.AdmitsTarget target

/-- Documents with the same names may refer to the same entities. -/
theorem AdmitsTarget.of_names_eq {d d' : Document} (hname : d'.name = d.name)
    (hnames : d'.names = d.names) {target : String} (h : d.AdmitsTarget target) :
    d'.AdmitsTarget target where
  isName := h.isName
  isOther := hname ▸ h.isOther
  isApart := hnames ▸ h.isApart
  nameFree := h.nameFree
  pluralFree := h.pluralFree

/-! ### What each check finds -/

@[simp] theorem overrideIssues_eq_nil {d : Document} :
    d.overrideIssues = []
      ↔ (∀ name, d.overrides.capitalized = some name → Identifier.isIdentifier name = true)
        ∧ (∀ name, d.overrides.plural = some name → Identifier.isIdentifier name = true)
        ∧ ∀ name, d.overrides.capitalizedPlural = some name
          → Identifier.isIdentifier name = true := by
  unfold overrideIssues
  simp only [List.append_eq_nil_iff, and_assoc]
  refine and_congr ?_ (and_congr ?_ ?_)
  · cases d.overrides.capitalized <;> simp
  · cases d.overrides.plural <;> simp
  · cases d.overrides.capitalizedPlural <;> simp

@[simp] theorem pathIssues_eq_nil {d : Document} :
    d.pathIssues = []
      ↔ ∀ path, d.overrides.path = some path → Identifier.isResourcePath path = true := by
  unfold pathIssues
  cases d.overrides.path <;> simp

@[simp] theorem reservedForms_eq_nil {n : Names} :
    reservedForms n = [] ↔ isReserved n.name = false ∧ isReserved n.plural = false := by
  unfold reservedForms distinctPair
  split
  next h => simp [h]
  next => simp

/-- Reserved words are not looked for beside malformed overrides, which are errors themselves. -/
@[simp] theorem nameIssues_eq_nil {d : Document} :
    d.nameIssues = [] ↔ d.overrideIssues = [] ∧ d.pathIssues = [] ∧ reservedForms d.names = [] := by
  unfold nameIssues
  rw [← and_assoc, ← List.append_eq_nil_iff]
  cases d.overrideIssues ++ d.pathIssues with
  | nil => simp
  | cons i issues => simp

theorem keyIssues_eq_nil {d : Document} :
    d.keyIssues = []
      ↔ ∀ key ∈ d.schema.keys, Identifier.isIdentifier key = true ∧ key ≠ identityField := by
  unfold keyIssues
  rw [List.filterMap_eq_nil_iff]
  refine forall₂_congr fun key _ => ?_
  unfold keyIssue?
  by_cases hid : key = identityField <;> by_cases hkey : Identifier.isIdentifier key = true <;>
    simp [hid, hkey]

theorem coverageIssues_eq_nil {d : Document} :
    d.coverageIssues = []
      ↔ (∀ key ∈ d.schema.keys, isTimestampKey key = false → key ∈ d.ui.keys)
        ∧ ∀ key ∈ d.ui.keys, key ∈ d.schema.keys := by
  simp [coverageIssues, Keyed.has]

theorem typeIssue?_eq_none {d : Document} {field : String × String} :
    d.typeIssue? field = none
      ↔ (∃ type, d.typeOf field.1 field.2 = .ok type)
        ∧ (isTimestampKey field.1 = true
          → d.typeOf field.1 field.2 = .ok (.primitive .string)) := by
  unfold typeIssue?
  split
  next fault hfault => simp [hfault]
  next type htype => simp [htype]

theorem typeIssues_eq_nil {d : Document} :
    d.typeIssues = []
      ↔ (∀ field ∈ d.schema.entries, ∃ type, d.typeOf field.1 field.2 = .ok type)
        ∧ ∀ field ∈ d.schema.entries, isTimestampKey field.1 = true
          → d.typeOf field.1 field.2 = .ok (.primitive .string) := by
  unfold typeIssues
  rw [List.filterMap_eq_nil_iff, ← forall₂_and]
  exact forall₂_congr fun field _ => typeIssue?_eq_none

@[simp] theorem least?_eq_none {texts : List String} : least? texts = none ↔ texts = [] := by
  cases texts with
  | nil => simp [least?]
  | cons s rest =>
    unfold least?
    cases least? rest <;> simp

@[simp] theorem sharedForm?_eq_none {a b : Names} :
    sharedForm? a b = none ↔ ∀ form ∈ a.forms, form ∉ b.forms := by
  simp [sharedForm?]

theorem targetIssues_eq_nil {d : Document} {target : String} :
    d.targetIssues target = [] ↔ d.AdmitsTarget target := by
  unfold targetIssues
  -- each check is made only where those before it find nothing
  constructor
  · intro h
    split at h
    next => cases h
    next hname =>
      split at h
      next => cases h
      next hother =>
        simp only at h
        split at h
        next => cases h
        next hshared =>
          have hreserved := reservedForms_eq_nil.mp (List.map_eq_nil_iff.mp h)
          exact ⟨by simpa using hname, hother, sharedForm?_eq_none.mp hshared, hreserved.1,
            hreserved.2⟩
  · intro h
    have hreserved := reservedForms_eq_nil.mpr ⟨h.nameFree, h.pluralFree⟩
    simp [h.isName, h.isOther, sharedForm?_eq_none.mpr h.isApart, hreserved]

/-- The check of the targets, where no descriptor silences it. -/
theorem relationshipIssues_eq_nil {d : Document}
    (h : ∀ field ∈ d.schema.entries, ∃ type, d.typeOf field.1 field.2 = .ok type) :
    d.relationshipIssues = []
      ↔ ∀ field ∈ d.schema.entries, ∀ target cardinality,
        d.typeOf field.1 field.2 = .ok (.relationship target cardinality)
          → d.AdmitsTarget target := by
  unfold relationshipIssues
  rw [relationshipTargets_eq h]
  simp only [List.flatMap_eq_nil_iff, mem_targets, target?_eq_some, targetIssues_eq_nil]
  constructor
  · intro hall field hfield target cardinality htype
    exact hall target ⟨field, hfield, cardinality, htype⟩
  · rintro hall target ⟨field, hfield, cardinality, htype⟩
    exact hall field hfield target cardinality htype

/-! ### Errors and warnings

Each check finds issues of its own aspect. Only those about presentations are warnings.
-/

theorem isError_eq_aspect (i : Issue) : i.isError = decide (i.aspect ≠ .presentations) := by
  cases i <;> rfl

theorem isError_of_aspect {i : Issue} {a : Issue.Aspect} (h : i.aspect = a)
    (ha : a ≠ .presentations) : i.isError = true := by
  rw [isError_eq_aspect, h, decide_eq_true ha]

theorem aspect_of_mem_nameIssues {d : Document} {i : Issue} (h : i ∈ d.nameIssues) :
    i.aspect = .names := by
  have hoverride : ∀ j ∈ d.overrideIssues ++ d.pathIssues, j.aspect = .names := by
    intro j hj
    unfold overrideIssues pathIssues at hj
    simp only [List.mem_append] at hj
    rcases hj with ((hj | hj) | hj) | hj <;> split at hj
    all_goals first | cases hj | skip
    all_goals
      split at hj
      · cases hj
      · rw [List.mem_singleton.mp hj]; rfl
  unfold nameIssues at h
  split at h
  next =>
    obtain ⟨form, -, rfl⟩ := List.mem_map.mp h
    rfl
  next => exact hoverride i h

theorem aspect_of_mem_keyIssues {d : Document} {i : Issue} (h : i ∈ d.keyIssues) :
    i.aspect = .keys := by
  obtain ⟨key, -, hi⟩ := List.mem_filterMap.mp h
  unfold keyIssue? at hi
  split at hi
  next => cases hi; rfl
  next =>
    split at hi
    · cases hi
    · cases hi; rfl

theorem aspect_of_mem_coverageIssues {d : Document} {i : Issue} (h : i ∈ d.coverageIssues) :
    i.aspect = .coverage := by
  rcases List.mem_append.mp h with h | h <;> obtain ⟨key, -, rfl⟩ := List.mem_map.mp h <;> rfl

theorem aspect_of_mem_typeIssues {d : Document} {i : Issue} (h : i ∈ d.typeIssues) :
    i.aspect = .types := by
  obtain ⟨field, -, hi⟩ := List.mem_filterMap.mp h
  unfold typeIssue? at hi
  split at hi
  next => cases hi; rfl
  next =>
    split at hi
    · cases hi; rfl
    · cases hi

/-- An issue with a target is about that target and nothing else. -/
theorem about?_of_mem_targetIssues {d : Document} {target : String} {i : Issue}
    (h : i ∈ d.targetIssues target) :
    i.aspect = .targets ∧ (i.finding d.name).about? "related" = some target := by
  unfold targetIssues at h
  split at h
  next => rw [List.mem_singleton.mp h]; exact ⟨rfl, rfl⟩
  next =>
    split at h
    next => rw [List.mem_singleton.mp h]; exact ⟨rfl, rfl⟩
    next =>
      simp only at h
      split at h
      next => rw [List.mem_singleton.mp h]; exact ⟨rfl, rfl⟩
      next =>
        obtain ⟨form, -, rfl⟩ := List.mem_map.mp h
        exact ⟨rfl, rfl⟩

theorem aspect_of_mem_relationshipIssues {d : Document} {i : Issue}
    (h : i ∈ d.relationshipIssues) : i.aspect = .targets := by
  unfold relationshipIssues at h
  split at h
  next =>
    obtain ⟨target, -, hi⟩ := List.mem_flatMap.mp h
    exact (about?_of_mem_targetIssues hi).1
  next => cases h

theorem aspect_of_mem_hintIssuesFor {key : String} {hint : UiHint} {type : FieldType}
    {i : Issue} (h : i ∈ hintIssuesFor key hint type) : i.aspect = .presentations := by
  unfold hintIssuesFor at h
  -- every part is empty or a single issue
  simp only [List.mem_append] at h
  rcases h with (h | h) | h
  · split at h
    · cases h
    · split at h
      · rw [List.mem_singleton.mp h]; rfl
      · cases h
  · cases type with
    | relationship target cardinality =>
      simp only [List.mem_append] at h
      rcases h with h | h <;> split at h
      all_goals first | cases h | skip
      all_goals
        split at h
        · cases h
        · rw [List.mem_singleton.mp h]; rfl
    | primitive kind => cases h
    | enum options => cases h
  · split at h
    · rw [List.mem_singleton.mp h]; rfl
    · cases h

theorem aspect_of_mem_hintIssues {d : Document} {i : Issue} (h : i ∈ d.hintIssues) :
    i.aspect = .presentations := by
  obtain ⟨entry, -, hi⟩ := List.mem_flatMap.mp h
  unfold hintIssuesOf at hi
  split at hi
  next => cases hi
  next =>
    split at hi
    next => exact aspect_of_mem_hintIssuesFor hi
    next => cases hi

/-- There is no error among errors only when there is nothing among them. -/
theorem forall_not_isError_iff {issues : List Issue} (h : ∀ i ∈ issues, i.isError = true) :
    (∀ i ∈ issues, i.isError = false) ↔ issues = [] := by
  constructor
  · intro hnot
    refine List.eq_nil_iff_forall_not_mem.mpr fun i hi => ?_
    exact Bool.false_ne_true ((hnot i hi).symm.trans (h i hi))
  · rintro rfl i hi
    cases hi

/-- Without errors, no check but that of the presentations finds anything. -/
theorem isAccepted_iff_eq_nil {d : Document} :
    d.isAccepted = true
      ↔ d.nameIssues = [] ∧ d.keyIssues = [] ∧ d.coverageIssues = [] ∧ d.typeIssues = []
        ∧ d.relationshipIssues = [] := by
  have hall : d.isAccepted = true ↔ ∀ i ∈ d.issues, i.isError = false := by
    simp [isAccepted]
  rw [hall, issues]
  -- all issues but those about presentations are errors
  simp only [List.forall_mem_append, and_assoc]
  rw [forall_not_isError_iff fun _ h => isError_of_aspect (aspect_of_mem_nameIssues h) (by decide),
    forall_not_isError_iff fun _ h => isError_of_aspect (aspect_of_mem_keyIssues h) (by decide),
    forall_not_isError_iff fun _ h =>
      isError_of_aspect (aspect_of_mem_coverageIssues h) (by decide),
    forall_not_isError_iff fun _ h => isError_of_aspect (aspect_of_mem_typeIssues h) (by decide),
    forall_not_isError_iff fun _ h =>
      isError_of_aspect (aspect_of_mem_relationshipIssues h) (by decide)]
  have hhints : ∀ i ∈ d.hintIssues, i.isError = false := by
    intro i hi
    rw [isError_eq_aspect, aspect_of_mem_hintIssues hi]
    rfl
  rw [and_iff_left hhints]

/-- A document is accepted exactly when it is well formed. -/
theorem isAccepted_iff {d : Document} : d.isAccepted = true ↔ d.WellFormed := by
  rw [isAccepted_iff_eq_nil, nameIssues_eq_nil, overrideIssues_eq_nil, pathIssues_eq_nil,
    reservedForms_eq_nil, keyIssues_eq_nil, coverageIssues_eq_nil, typeIssues_eq_nil]
  constructor
  · rintro ⟨⟨⟨hcap, hplural, hcaps⟩, hpath, hname, hnames⟩, hkeys, ⟨hpresented, hdeclared⟩,
      ⟨hreadable, htimestamps⟩, htargets⟩
    exact ⟨hcap, hplural, hcaps, hpath, hname, hnames, hkeys, hpresented, hdeclared, hreadable,
      htimestamps, (relationshipIssues_eq_nil hreadable).mp htargets⟩
  · intro h
    exact ⟨⟨⟨h.capitalized, h.plural, h.capitalizedPlural⟩, h.path, h.nameFree, h.pluralFree⟩,
      h.keys, ⟨h.presented, h.declared⟩, ⟨h.readable, h.timestamps⟩,
      (relationshipIssues_eq_nil h.readable).mpr h.targets⟩

instance (d : Document) : Decidable d.WellFormed :=
  decidable_of_iff (d.isAccepted = true) isAccepted_iff

/-- Issues and their findings are errors alike. -/
theorem isValid_findings (d : Document) : d.findings.isValid = d.isAccepted := by
  simp only [Findings.isValid, isAccepted, findings, findingsOf, List.any_map]
  rfl

/-- The findings about a document are valid exactly when the document is well formed. -/
theorem isValid_findings_iff (d : Document) : d.findings.isValid = true ↔ d.WellFormed := by
  rw [isValid_findings, isAccepted_iff]

end Document

end Scaffold
