import Scaffold.Proofs.Entity

/-!
# Faulty targets

Validation looks at the targets of relationships all at once: a relationship that cannot be read is
an issue of its own field, and then nothing is said of any target. So a faulty target is reported
exactly where all relationships of the schema can be read (`Document.faulty_target_reported_iff`).
-/

namespace Scaffold

open Identifier

/-- What can be wrong with the target of a relationship. -/
inductive Document.IsFaultyTarget (d : Document) (target : String) : Prop where
  | noName (h : isEntityName target = false)
  | self (h : target = d.name)
  /-- A form of its name is one of the entity itself. -/
  | shared (form : String) (h : form ∈ d.names.forms) (h' : form ∈ (Names.ofName target).forms)
  | reserved (form : String) (h : form ∈ (Names.ofName target).forms) (h' : isReserved form = true)

/-! ### Reserved words -/

/-- A reserved word begins in lower case. -/
theorem isLower_of_isReserved {word : String} (h : isReserved word = true) {c : Char}
    (hc : word.toList.head? = some c) : isLower c = true := by
  have hall : (keywords ++ declaredNames).all (fun w => w.toList.head?.all isLower) = true := by
    decide
  have hmem : word ∈ keywords ++ declaredNames := by simpa [isReserved] using h
  have := List.all_eq_true.mp hall word hmem
  rwa [hc] at this

/-- The capitalized form of an entity name is not reserved. -/
theorem isReserved_capitalize {s : String} (h : isExactEntityName s = true) :
    isReserved (Text.capitalize s) = false := by
  obtain ⟨c, tail, hs, hc, -⟩ := isExactEntityName_iff.mp h
  rw [Bool.eq_false_iff]
  intro hreserved
  have hupper : isLower c.toUpper = true :=
    isLower_of_isReserved hreserved (by rw [toList_capitalize hs (isPart_of_isLower hc)]; rfl)
  rw [isLower_toUpper hc] at hupper
  cases hupper

/-- Of the forms of an entity name, only its plural and the name itself can be reserved. -/
theorem Names.isReserved_of_mem_forms {target form : String}
    (htarget : isExactEntityName target = true) (hform : form ∈ (ofName target).forms)
    (h : isReserved form = true) :
    form = (ofName target).name ∨ form = (ofName target).plural := by
  simp only [forms, List.mem_cons, List.not_mem_nil, or_false] at hform
  rcases hform with rfl | rfl | rfl | rfl
  · exact .inl rfl
  · exact .inr rfl
  · exact absurd h (Bool.eq_false_iff.mp (isReserved_capitalize htarget))
  · have hplural := isExactEntityName_pluralize htarget
    exact absurd h (Bool.eq_false_iff.mp (isReserved_capitalize hplural))

namespace Document

variable {d : Document}

/-- A target is faulty when the document may not refer to it. -/
theorem isFaultyTarget_iff {target : String}
    (htarget : isEntityName target = true → isExactEntityName target = true) :
    d.IsFaultyTarget target ↔ ¬d.AdmitsTarget target := by
  constructor
  · intro hfaulty h
    cases hfaulty with
    | noName hname => rw [h.isName] at hname; cases hname
    | self hself => exact h.isOther hself
    | shared form hform hform' => exact h.isApart form hform hform'
    | reserved form hform hreserved =>
      rcases Names.isReserved_of_mem_forms (htarget h.isName) hform hreserved with hform | hform
      · rw [hform, h.nameFree] at hreserved; cases hreserved
      · rw [hform, h.pluralFree] at hreserved; cases hreserved
  · intro hnot
    by_contra hfaulty
    refine hnot ⟨?_, fun h => hfaulty (.self h), fun form h h' => hfaulty (.shared form h h'),
      ?_, ?_⟩
    · exact Bool.of_not_eq_false fun h => hfaulty (.noName h)
    · exact Bool.of_not_eq_true fun h => hfaulty (.reserved _ List.mem_cons_self h)
    · exact Bool.of_not_eq_true fun h =>
        hfaulty (.reserved _ (List.mem_cons_of_mem _ List.mem_cons_self) h)

/-! ### What is said of targets -/

/-- Issues of another aspect are about no target. -/
theorem about?_related_of_aspect {i : Issue} (h : i.aspect ≠ .targets) (entity : String) :
    (i.finding entity).about? "related" = none := by
  cases i <;> first | rfl | exact absurd rfl h

/-- All that is said of targets is found in the check of relationships. -/
theorem mem_relationshipIssues_of_about? {i : Issue} (h : i ∈ d.issues) {target : String}
    (habout : (i.finding d.name).about? "related" = some target) : i ∈ d.relationshipIssues := by
  have haspect : i.aspect = .targets := by
    by_contra hne
    rw [about?_related_of_aspect hne] at habout
    cases habout
  simp only [issues, List.mem_append] at h
  rcases h with ((((h | h) | h) | h) | h) | h
  · rw [aspect_of_mem_nameIssues h] at haspect; cases haspect
  · rw [aspect_of_mem_keyIssues h] at haspect; cases haspect
  · rw [aspect_of_mem_coverageIssues h] at haspect; cases haspect
  · rw [aspect_of_mem_typeIssues h] at haspect; cases haspect
  · exact h
  · rw [aspect_of_mem_hintIssues h] at haspect; cases haspect

end Document

/-- One relationship that cannot be read keeps all targets from being collected. -/
theorem relationshipTargets_go_eq_error {fields : List (String × String)}
    {field : String × String} (hfield : field ∈ fields) {fault : DescriptorFault}
    (h : targetOf field.2 = .error fault) (seen : List String) :
    ∃ e, relationshipTargets.go seen fields = .error e := by
  induction fields generalizing seen with
  | nil => cases hfield
  | cons first rest ih =>
    rw [relationshipTargets.go]
    cases hfirst : targetOf first.2 with
    | error _ => exact ⟨_, rfl⟩
    | ok target =>
      have hrest : field ∈ rest := by
        refine (List.mem_cons.mp hfield).resolve_left ?_
        rintro rfl
        rw [h] at hfirst
        cases hfirst
      cases target with
      | none => exact ih hrest seen
      | some target => exact ih hrest (addNew seen target)

/-- The entity that a field refers to, as far as it can be found. -/
def foundTarget? (field : String × String) : Option String :=
  (targetOf field.2).toOption.join

@[simp] theorem foundTarget?_eq_some {field : String × String} {target : String} :
    foundTarget? field = some target ↔ targetOf field.2 = .ok (some target) := by
  unfold foundTarget?
  cases targetOf field.2 <;> simp [Except.toOption]

theorem relationshipTargets_of_readable {fields : List (String × String)}
    (h : ∀ field ∈ fields, ∃ found, targetOf field.2 = .ok found) :
    relationshipTargets fields = .ok (fields.filterMap foundTarget?).eraseDups := by
  refine relationshipTargets_eq fun field hfield => ?_
  obtain ⟨found, hfound⟩ := h field hfield
  rw [foundTarget?, hfound]
  rfl

theorem exists_relationshipTargets_eq_error {fields : List (String × String)}
    (h : ¬∀ field ∈ fields, ∃ found, targetOf field.2 = .ok found) :
    ∃ e, relationshipTargets fields = .error e := by
  push Not at h
  obtain ⟨field, hfield, hnot⟩ := h
  cases hread : targetOf field.2 with
  | ok found => exact absurd hread (hnot found)
  | error fault => exact relationshipTargets_go_eq_error hfield hread []

namespace Document

variable {d : Document}

/-- The check of relationships finds the issues of each target, where all of them can be read. -/
theorem mem_relationshipIssues {i : Issue} :
    i ∈ d.relationshipIssues
      ↔ (∀ field ∈ d.schema.entries, ∃ found, targetOf field.2 = .ok found)
        ∧ ∃ field ∈ d.schema.entries, ∃ target, targetOf field.2 = .ok (some target)
          ∧ i ∈ d.targetIssues target := by
  by_cases hreadable : ∀ field ∈ d.schema.entries, ∃ found, targetOf field.2 = .ok found
  · rw [relationshipIssues, relationshipTargets_of_readable hreadable]
    simp only [List.mem_flatMap, List.mem_eraseDups, List.mem_filterMap, foundTarget?_eq_some]
    rw [and_iff_right hreadable]
    constructor
    · rintro ⟨target, ⟨field, hfield, htarget⟩, hi⟩
      exact ⟨field, hfield, target, htarget, hi⟩
    · rintro ⟨field, hfield, target, htarget, hi⟩
      exact ⟨target, ⟨field, hfield, htarget⟩, hi⟩
  · refine iff_of_false ?_ fun h => hreadable h.1
    obtain ⟨e, he⟩ := exists_relationshipTargets_eq_error hreadable
    rw [relationshipIssues, he]
    exact List.not_mem_nil

theorem typeIssue?_of_error {field : String × String} {fault : DescriptorFault}
    (h : d.typeOf field.1 field.2 = .error fault) :
    d.typeIssue? field = some (.badDescriptor field.1 field.2 fault) := by
  rw [typeIssue?, h]

/-- A descriptor that cannot be read is reported with its field. -/
theorem exists_finding_of_unreadable {field : String × String}
    (hfield : field ∈ d.schema.entries) {fault : DescriptorFault}
    (h : d.typeOf field.1 field.2 = .error fault) :
    ∃ f ∈ d.findings, f.isError = true ∧ f.about? "field" = some field.1
      ∧ f.about? "type" = some field.2 := by
  have hmem : Issue.badDescriptor field.1 field.2 fault ∈ d.issues := by
    have htypes := List.mem_filterMap.mpr ⟨field, hfield, typeIssue?_of_error h⟩
    simp only [issues, List.mem_append]
    exact .inl (.inl (.inr htypes))
  exact ⟨_, List.mem_map.mpr ⟨_, hmem, rfl⟩, rfl, rfl, rfl⟩

/-- The target of a relationship whose own descriptor can be read is reported as an error exactly
when it is faulty and every relationship of the schema can be read. One that cannot be read is
reported itself, with its field, but hides the faults of all targets. -/
theorem faulty_target_reported_iff {field : String × String} (hfield : field ∈ d.schema.entries)
    {target : String} {cardinality : Cardinality}
    (htype : d.typeOf field.1 field.2 = .ok (.relationship target cardinality)) :
    ((∃ f ∈ d.findings, f.isError = true ∧ f.about? "related" = some target)
        ↔ d.IsFaultyTarget target
          ∧ ∀ other ∈ d.schema.entries, ∃ found, targetOf other.2 = .ok found)
      ∧ ∀ other ∈ d.schema.entries, ∀ fault, targetOf other.2 = .error fault →
        ∃ f ∈ d.findings, f.isError = true ∧ f.about? "field" = some other.1
          ∧ f.about? "type" = some other.2 := by
  have hexact : isEntityName target = true → isExactEntityName target = true := by
    obtain ⟨entity, -, rfl, -⟩ := exists_strip_of_ofDescriptor htype
    exact isExactEntityName_strip
  refine ⟨?_, fun other hother fault hfault => ?_⟩
  · rw [isFaultyTarget_iff hexact, ← targetIssues_eq_nil]
    constructor
    · rintro ⟨f, hf, -, habout⟩
      obtain ⟨i, hi, rfl⟩ := List.mem_map.mp hf
      -- the finding may come from another field with the same target
      obtain ⟨hreadable, other, -, found, -, hissue⟩ :=
        mem_relationshipIssues.mp (mem_relationshipIssues_of_about? hi habout)
      have hfound := (about?_of_mem_targetIssues hissue).2
      rw [habout, Option.some.injEq] at hfound
      exact ⟨List.ne_nil_of_mem (hfound ▸ hissue), hreadable⟩
    · rintro ⟨hne, hreadable⟩
      obtain ⟨i, hi⟩ := List.exists_mem_of_ne_nil _ hne
      obtain ⟨haspect, habout⟩ := about?_of_mem_targetIssues hi
      have hissue : i ∈ d.relationshipIssues := mem_relationshipIssues.mpr
        ⟨hreadable, field, hfield, target, targetOf_of_ofDescriptor htype, hi⟩
      refine ⟨i.finding d.name, List.mem_map.mpr ⟨i, ?_, rfl⟩,
        isError_of_aspect haspect (by decide), habout⟩
      simp only [issues, List.mem_append]
      exact .inl (.inr hissue)
  · cases htype' : d.typeOf other.1 other.2 with
    | error fault' => exact exists_finding_of_unreadable hother htype'
    | ok type =>
      rw [targetOf_of_ofDescriptor htype'] at hfault
      cases hfault

/-- An order of itself, with a relationship that names no entity. -/
def silencedDocument : Document where
  version := none
  name := "order"
  overrides := {}
  schema := .ofList [("buyer", "relationship:order"), ("items", "relationship:")]
  ui := .ofList [("buyer", {}), ("items", {})]

/-- It refers to itself, and no finding says so. -/
theorem order_refers_to_itself :
    silencedDocument.typeOf "buyer" "relationship:order" = .ok (.relationship "order" .single)
      ∧ silencedDocument.IsFaultyTarget "order"
      ∧ ¬∃ f ∈ silencedDocument.findings, f.isError = true ∧ f.about? "related" = some "order" := by
  have htype : silencedDocument.typeOf "buyer" "relationship:order"
      = .ok (.relationship "order" .single) := by decide
  have hfield : ("buyer", "relationship:order") ∈ silencedDocument.schema.entries := by decide
  refine ⟨htype, .self rfl, fun hreported => ?_⟩
  obtain ⟨-, hreadable⟩ := (faulty_target_reported_iff hfield htype).1.mp hreported
  obtain ⟨found, hfound⟩ := hreadable ("items", "relationship:") (by decide)
  cases hfound

end Document

end Scaffold
