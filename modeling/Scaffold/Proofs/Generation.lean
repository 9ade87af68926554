import Scaffold.Proofs.Assembly

/-!
# The ways of a generator

With the built-in themes, a document goes one of three ways: it is rejected by validation, which
reports an error (`isSome_entity_validate`), its settings cannot be written, which is an error of
assembling, or it is assembled and exported. What is left behind is said once for each way.
-/

namespace Scaffold

namespace Document

/-- A value that is no document is rejected without findings. -/
theorem findings_of_parse_eq_error {v : Value} {r : Rejection} (h : parse v = .error r) :
    r.findings = none := by
  unfold parse at h
  split at h
  · split at h <;> cases h
    rfl
  · cases h
    rfl

/-- A document is rejected with findings among which there is an error. -/
theorem errors_ne_nil_of_ensureValid {d : Document} {r : Rejection} (h : d.ensureValid = .error r) :
    r.findings = some d.findings ∧ d.findings.errors ≠ [] := by
  obtain ⟨first, hfirst, rfl⟩ := ensureValid_eq_error.mp h
  have herror : first ∈ d.findings.errors :=
    List.mem_filter.mpr ⟨List.mem_of_find?_eq_some hfirst, List.find?_some hfirst⟩
  exact ⟨rfl, List.ne_nil_of_mem herror⟩

end Document

theorem Report.isClean_iff {r : Report} :
    r.isClean = true ↔ r.inputErrors = [] ∧ r.validationErrors = [] ∧ r.generationErrors = []
      ∧ r.exportErrors = [] := by
  simp [isClean, and_assoc]

namespace Generator

variable {g : Generator} {v : Value} {e : Entity} {faults : Nat → Option Fault} {t : FileTree}
  {source : String}

/-! ### Validation -/

/-- Validation gives an entity exactly when it reports no error. -/
theorem isSome_entity_validate (g : Generator) (v : Value) :
    (g.validate v).entity.isSome = (g.validate v).errors.isEmpty := by
  unfold validate
  cases hparse : Document.parse v with
  | error r => simp [Validated.rejected, Document.findings_of_parse_eq_error hparse]
  | ok d =>
    cases hvalid : d.ensureValid with
    | error r =>
      obtain ⟨hfindings, herrors⟩ := Document.errors_ne_nil_of_ensureValid hvalid
      simp [hvalid, Validated.rejected, hfindings, Findings.messages, herrors]
    | ok fs =>
      -- an accepted document has an entity, which warnings may still withhold
      have hd := Document.isAccepted_iff.mp (Document.ensureValid_eq_ok.mp hvalid).1
      obtain ⟨fields, -, hof⟩ := Entity.exists_ofDocument hd
      simp only [hvalid, accept, hof]
      split <;> rfl

/-- An accepted document has an entity, unless it is held back for its warnings. -/
theorem exists_entity_of_valid {v : Value} {d : Document} (hparse : Document.parse v = .ok d)
    (hvalid : d.findings.isValid = true)
    (hwarnings : g.failOnWarnings = true → d.findings.warnings = []) :
    ∃ e, (g.validate v).entity = some e ∧ e.names.name = d.name
      ∧ ∀ s : Settings, s.IsWritable → Scaffold.assemble v s = .ok (e.artifacts s) := by
  obtain ⟨hd, fields, hfields, -, hassemble⟩ := exists_assemble_eq_ok hparse hvalid
  have hensure : d.ensureValid = .ok d.findings :=
    Document.ensureValid_eq_ok.mpr ⟨Document.isAccepted_iff.mpr hd, rfl⟩
  have hof := Entity.ofDocument_of_reads hfields
  have hkept : (g.failOnWarnings && !d.findings.warnings.messages.isEmpty) = false := by
    cases hfail : g.failOnWarnings with
    | false => rfl
    | true =>
      rw [hwarnings hfail]
      rfl
  refine ⟨_, ?_, rfl, hassemble⟩
  simp [validate, hparse, hensure, accept, hof, hkept]

theorem errors_ne_nil_of_validate (h : (g.validate v).entity = none) :
    (g.validate v).errors ≠ [] := by
  have hsome := g.isSome_entity_validate v
  rw [h] at hsome
  simpa using hsome.symm

theorem errors_eq_nil_of_validate (h : (g.validate v).entity = some e) :
    (g.validate v).errors = [] := by
  have hsome := g.isSome_entity_validate v
  rw [h] at hsome
  simpa using hsome.symm

/-- A document that comes to its export has succeeded when the export has: nothing before it can
have left an error. -/
theorem success_exportReport (h : (g.validate v).entity = some e) (source : String)
    (artifacts : List Artifact) (result : ExportResult) :
    (exportReport artifacts result (g.validationReport source (g.validate v))).success
      = result.success := by
  simp [exportReport, concluded, validationReport, Report.isClean, errors_eq_nil_of_validate h,
    ExportResult.success]

/-! ### What is left behind -/

/-- A document that is rejected leaves a report. -/
theorem generateWith_of_rejected (h : (g.validate v).entity = none) :
    g.generateWith faults t source v
      = ⟨t, concluded (g.validationReport source (g.validate v)), (g.validate v).notices,
        g.interruption?⟩ := by
  simp only [generateWith, h]

/-- What stops an export, if anything does. -/
def exportStop? (g : Generator) (t : FileTree) (name : String) (artifacts : List Artifact) :
    Option Interruption :=
  (g.exporter.barrier? t name artifacts).map .place
    <|> if g.exporter.isBroken t name artifacts then some (.place .nullCharacter) else none

theorem exportStop?_eq_none {name : String} {artifacts : List Artifact} :
    g.exportStop? t name artifacts = none
      ↔ g.exporter.barrier? t name artifacts = none
        ∧ g.exporter.isBroken t name artifacts = false := by
  unfold exportStop?
  cases g.exporter.barrier? t name artifacts <;> simp

/-- A document whose artifacts are assembled leaves what their export leaves; where something keeps
the export from taking place, the tree is as it was. -/
theorem generateWith_of_assembled {artifacts : List Artifact}
    (h : (g.validate v).entity = some e) (hassemble : g.assemble e = .ok artifacts) :
    let after := g.exportArtifacts faults t e artifacts (g.validationReport source (g.validate v))
    g.generateWith faults t source v
      = ⟨if (g.exporter.barrier? t e.names.name artifacts).isSome then t else after.tree,
        after.result, (g.validate v).notices ++ after.notices,
        g.exportStop? t e.names.name artifacts⟩ := by
  simp only [generateWith, h, finish, hassemble, exportStop?]
  cases g.exporter.barrier? t e.names.name artifacts with
  | some fault => rfl
  | none => cases g.exporter.isBroken t e.names.name artifacts <;> rfl

/-- The report on an accepted document whose settings cannot be written. -/
def overlongReport (g : Generator) (source : String) (v : Value) : Report :=
  let r := g.validationReport source (g.validate v)
  concluded { r with
    steps := r.steps ++ [assembleStep none]
    generationErrors := ["ValueError: " ++ Text.overlongMessage] }

@[simp] theorem success_overlongReport (g : Generator) (source : String) (v : Value) :
    (g.overlongReport source v).success = false := by
  simp [overlongReport, concluded, Report.isClean]

/-- An accepted document whose settings cannot be written leaves a report, and nothing else. -/
theorem generateWith_of_unwritable (hs : ¬g.settings.IsWritable)
    (h : (g.validate v).entity = some e) :
    g.generateWith faults t source v
      = ⟨t, g.overlongReport source v,
        (g.validate v).notices ++ [.error ("Generation failed for '" ++ e.names.name ++ "': "
          ++ ("ValueError: " ++ Text.overlongMessage))], g.interruption?⟩ := by
  have hassemble : g.assemble e = .error .overlong := Entity.render_of_not_isWritable e hs _
  simp only [generateWith, h, finish, hassemble]
  rfl

/-- With the built-in themes and settings that can be written, the artifacts of an accepted document
are assembled. -/
theorem generateWith_of_accepted (hthemes : g.themes = ThemeTable.builtIn.map ThemeTable.theme)
    (hs : g.settings.IsWritable) (h : (g.validate v).entity = some e) :
    let artifacts := e.artifacts g.settings
    let after := g.exportArtifacts faults t e artifacts (g.validationReport source (g.validate v))
    g.generateWith faults t source v
      = ⟨if (g.exporter.barrier? t e.names.name artifacts).isSome then t else after.tree,
        after.result, (g.validate v).notices ++ after.notices,
        g.exportStop? t e.names.name artifacts⟩ := by
  refine generateWith_of_assembled h ?_
  rw [assemble, hthemes, Entity.render_builtIn e hs]

end Generator

/-! ### What stops the work -/

/-- Whether loading a file stops whatever it is loaded for. -/
def Source.stopsReading (t : FileTree) (p : Place) : Bool :=
  match Source.load t p with
  | .error e => e.isFatal
  | .ok _ => false

@[simp] theorem Interruption.isSome_ofLoad? (e : Source.LoadError) :
    (Interruption.ofLoad? e).isSome = e.isFatal := by
  unfold ofLoad?
  cases e.isFatal <;> rfl

namespace Generator

variable {g : Generator} {v : Value} {faults : Nat → Option Fault} {t : FileTree} {source : String}

/-- Nothing stops the work on a value: the output directory is a place, and artifacts, where there
are any, can be exported. -/
def Finishes (g : Generator) (t : FileTree) (v : Value) : Prop :=
  g.output.hasNull = false ∧ ∀ e, (g.validate v).entity = some e → g.settings.IsWritable →
    g.exportStop? t e.names.name (e.artifacts g.settings) = none

@[simp] theorem interruption?_eq_none : g.interruption? = none ↔ g.output.hasNull = false := by
  simp [interruption?]

theorem hasNull_of_exportStop? {name : String} {artifacts : List Artifact}
    (h : g.exportStop? t name artifacts = none) : g.output.hasNull = false := by
  have hbarrier := (exportStop?_eq_none.mp h).1
  unfold Exporter.barrier? at hbarrier
  split at hbarrier
  next => cases hbarrier
  next hnull => exact Bool.eq_false_iff.mpr hnull

/-- What stops the work on a value does so whatever fails. -/
theorem stopped_generateWith_eq_none_iff
    (hthemes : g.themes = ThemeTable.builtIn.map ThemeTable.theme) :
    (g.generateWith faults t source v).stopped = none ↔ g.Finishes t v := by
  unfold Finishes
  cases hentity : (g.validate v).entity with
  | none =>
    rw [generateWith_of_rejected hentity, interruption?_eq_none]
    simp
  | some e =>
    by_cases hs : g.settings.IsWritable
    · rw [generateWith_of_accepted hthemes hs hentity]
      simp only [Option.some.injEq, forall_eq', hs, forall_const]
      exact ⟨fun h => ⟨hasNull_of_exportStop? h, h⟩, And.right⟩
    · rw [generateWith_of_unwritable hs hentity, interruption?_eq_none]
      simp [hs]

end Generator

end Scaffold
