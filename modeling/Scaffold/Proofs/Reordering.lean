import Scaffold.Proofs.Targets

/-!
# Fields in another order

The checks of validation go over the fields and the presentations of a document in their order, and
the one of the targets even leaves all of them out at the first relationship that it cannot read.
What they find does not depend on the order (`Document.findings_of_reordered`). The order of the
findings does, and the first error names the kind of the rejection.
-/

namespace Scaffold

/-- A document with the fields and the presentations of another one, each perhaps in another
order. -/
structure Document.Reordered (d d' : Document) : Prop where
  version : d'.version = d.version
  name : d'.name = d.name
  overrides : d'.overrides = d.overrides
  schema : d'.schema.entries.Perm d.schema.entries
  ui : d'.ui.entries.Perm d.ui.entries

theorem Keyed.has_eq_of_perm {α : Type} {m m' : Keyed α} (h : m'.entries.Perm m.entries)
    (key : String) : m'.has key = m.has key :=
  (h.map _).contains_eq

theorem eraseDups_perm {texts texts' : List String} (h : texts'.Perm texts) :
    texts'.eraseDups.Perm texts.eraseDups := by
  rw [List.perm_ext_iff_of_nodup (nodup_eraseDups texts') (nodup_eraseDups texts)]
  intro text
  rw [List.mem_eraseDups, List.mem_eraseDups, h.mem_iff]

namespace Document

variable {d d' : Document}

/-! ### The checks -/

namespace Reordered

theorem names_eq (h : d.Reordered d') : d'.names = d.names := by
  rw [names, names, h.name, h.overrides]

theorem schema_keys (h : d.Reordered d') : d'.schema.keys.Perm d.schema.keys :=
  h.schema.map _

theorem ui_keys (h : d.Reordered d') : d'.ui.keys.Perm d.ui.keys :=
  h.ui.map _

theorem nameIssues_eq (h : d.Reordered d') : d'.nameIssues = d.nameIssues := by
  simp only [nameIssues, overrideIssues, pathIssues, h.overrides, h.names_eq]

theorem keyIssues_perm (h : d.Reordered d') : d'.keyIssues.Perm d.keyIssues :=
  h.schema_keys.filterMap _

theorem coverageIssues_perm (h : d.Reordered d') : d'.coverageIssues.Perm d.coverageIssues := by
  simp only [coverageIssues, Keyed.has_eq_of_perm h.schema, Keyed.has_eq_of_perm h.ui]
  exact ((h.schema_keys.filter _).map _).append ((h.ui_keys.filter _).map _)

theorem typeIssues_perm (h : d.Reordered d') : d'.typeIssues.Perm d.typeIssues := by
  have htype : d'.typeIssue? = d.typeIssue? := by
    funext field
    simp only [typeIssue?, typeOf, Keyed.get?_eq_of_perm h.ui]
  rw [typeIssues, typeIssues, htype]
  exact h.schema.filterMap _

/-- Where all relationships can be read, the same targets are looked at; where one cannot, none is,
wherever it stands. -/
theorem relationshipIssues_perm (h : d.Reordered d') :
    d'.relationshipIssues.Perm d.relationshipIssues := by
  have htarget : d'.targetIssues = d.targetIssues := by
    funext target
    simp only [targetIssues, h.name, h.names_eq]
  have hiff : (∀ field ∈ d'.schema.entries, ∃ found, targetOf field.2 = .ok found)
      ↔ ∀ field ∈ d.schema.entries, ∃ found, targetOf field.2 = .ok found :=
    forall_congr' fun field => by rw [h.schema.mem_iff]
  by_cases hreadable : ∀ field ∈ d.schema.entries, ∃ found, targetOf field.2 = .ok found
  · rw [relationshipIssues, relationshipIssues, relationshipTargets_of_readable hreadable,
      relationshipTargets_of_readable (hiff.mpr hreadable), htarget]
    exact (eraseDups_perm (h.schema.filterMap _)).flatMap_right _
  · obtain ⟨e, he⟩ := exists_relationshipTargets_eq_error hreadable
    obtain ⟨e', he'⟩ := exists_relationshipTargets_eq_error (mt hiff.mp hreadable)
    rw [relationshipIssues, relationshipIssues, he, he']

theorem hintIssues_perm (h : d.Reordered d') : d'.hintIssues.Perm d.hintIssues := by
  have hhint : d'.hintIssuesOf = d.hintIssuesOf := by
    funext entry
    simp only [hintIssuesOf, Keyed.get?_eq_of_perm h.schema]
  rw [hintIssues, hintIssues, hhint]
  exact h.ui.flatMap_right _

theorem issues_perm (h : d.Reordered d') : d'.issues.Perm d.issues := by
  rw [issues, issues, h.nameIssues_eq]
  exact (((h.keyIssues_perm.append_left _).append h.coverageIssues_perm).append
    h.typeIssues_perm).append h.relationshipIssues_perm |>.append h.hintIssues_perm

theorem findings_perm (h : d.Reordered d') : d'.findings.Perm d.findings := by
  rw [findings, findings, findingsOf, findingsOf, h.name]
  exact h.issues_perm.map _

end Reordered

/-! ### The verdict -/

/-- Validation finds the same in whatever order the fields and the presentations come, and accepts
the document or rejects it all the same. The findings themselves may come in another order; only
when the first error among them is another one, the rejection is. -/
theorem findings_of_reordered (h : d.Reordered d') :
    d'.findings.Perm d.findings
      ∧ d'.findings.isValid = d.findings.isValid
      ∧ (∀ fs, d.ensureValid = .ok fs → ∃ fs', d'.ensureValid = .ok fs' ∧ fs'.Perm fs)
      ∧ ∀ r, d.ensureValid = .error r →
        ∃ r', d'.ensureValid = .error r' ∧ r'.entity = r.entity
          ∧ (∃ fs fs', r.findings = some fs ∧ r'.findings = some fs' ∧ fs'.Perm fs)
          ∧ (d'.findings.find? Finding.isError = d.findings.find? Finding.isError →
            r'.kind = r.kind ∧ r'.message = r.message ∧ r'.field = r.field) := by
  have hperm := h.findings_perm
  have hvalid : d'.findings.isValid = d.findings.isValid := by
    rw [Findings.isValid, Findings.isValid, hperm.any_eq]
  refine ⟨hperm, hvalid, ?_, ?_⟩
  · intro fs hfs
    obtain ⟨haccepted, rfl⟩ := ensureValid_eq_ok.mp hfs
    rw [← isValid_findings, ← hvalid, isValid_findings] at haccepted
    exact ⟨d'.findings, ensureValid_eq_ok.mpr ⟨haccepted, rfl⟩, hperm⟩
  · -- another error may come first, and kind and message are those of the first
    intro r hr
    obtain ⟨first, hfirst, rfl⟩ := ensureValid_eq_error.mp hr
    have herror : ∃ f ∈ d'.findings, f.isError = true :=
      ⟨first, hperm.mem_iff.mpr (List.mem_of_find?_eq_some hfirst), List.find?_some hfirst⟩
    obtain ⟨r', hr'⟩ := exists_ensureValid_eq_error.mpr herror
    obtain ⟨first', hfirst', rfl⟩ := ensureValid_eq_error.mp hr'
    refine ⟨_, hr', congrArg some h.name, ⟨_, _, rfl, rfl, hperm⟩, fun heq => ?_⟩
    rw [hfirst, hfirst', Option.some.injEq] at heq
    subst heq
    exact ⟨rfl, rfl, rfl⟩

/-- A note with the given fields, all of which are presented. -/
def noteDocument (schema : List (String × String)) : Document where
  version := none
  name := "note"
  overrides := {}
  schema := .ofList schema
  ui := .ofList (schema.map fun field => (field.1, {}))

/-- Neither type can be read: one is unknown and the other one incomplete, and the first of them in
the schema decides the rejection. -/
theorem notes_reordered :
    (noteDocument [("mood", "enum"), ("body", "text")]).Reordered
        (noteDocument [("body", "text"), ("mood", "enum")])
      ∧ (noteDocument [("body", "text"), ("mood", "enum")]).findings.Perm
        (noteDocument [("mood", "enum"), ("body", "text")]).findings
      ∧ ∃ r r', (noteDocument [("mood", "enum"), ("body", "text")]).ensureValid = .error r
        ∧ (noteDocument [("body", "text"), ("mood", "enum")]).ensureValid = .error r'
        ∧ r'.entity = r.entity ∧ r.kind = .malformed ∧ r'.kind = .unknownFieldType := by
  have hreordered : (noteDocument [("mood", "enum"), ("body", "text")]).Reordered
      (noteDocument [("body", "text"), ("mood", "enum")]) :=
    ⟨rfl, rfl, rfl, by decide, by decide⟩
  have hr : (noteDocument [("mood", "enum"), ("body", "text")]).ensureValid
      = .error ((noteDocument [("mood", "enum"), ("body", "text")]).rejectionFor
        (.badDescriptor "mood" "enum" .noOptions)) := by decide
  have hr' : (noteDocument [("body", "text"), ("mood", "enum")]).ensureValid
      = .error ((noteDocument [("body", "text"), ("mood", "enum")]).rejectionFor
        (.badDescriptor "body" "text" (.unknownType "text"))) := by decide
  obtain ⟨hperm, -, -, herror⟩ := findings_of_reordered hreordered
  obtain ⟨r', heq, hentity, -⟩ := herror _ hr
  rw [hr', Except.error.injEq] at heq
  subst heq
  exact ⟨hreordered, hperm, _, _, hr, hr', hentity, rfl, rfl⟩

end Document

end Scaffold
