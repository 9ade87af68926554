import Scaffold.Proofs.Generation
import Scaffold.Proofs.Rehearsal

/-!
# How many files a report counts

An export has a record of each file, and the detail of its step tells how many there are. The report
counts its records as well, but where it has none it counts the artifacts (`Report.totalFiles`). An
export has no records of its artifacts exactly if it comes to nothing: it is refused, or each of its
writes fails (`Exporter.files_exportWith_eq_nil_iff`). So these are the exports of which the report
tells two numbers, and of all others it tells one (`Generator.files_counted`).
-/

namespace Scaffold

namespace Exporter

variable {x : Exporter} {faults : Nat → Option Fault} {entity : String} {artifacts : List Artifact}
  {t : FileTree} {outcomes : List (Nat × Outcome)} {result : ExportResult}

theorem recordsOf_eq_nil_iff : recordsOf outcomes = [] ↔ ∀ o ∈ outcomes, ∃ e, o.2 = .error e := by
  rw [List.eq_nil_iff_forall_not_mem]
  constructor
  · rintro hnone ⟨n, e | r⟩ ho
    · exact ⟨e, rfl⟩
    · exact absurd (mem_recordsOf.mpr ⟨n, ho⟩) (hnone r)
  · intro hfailed r hr
    obtain ⟨n, ho⟩ := mem_recordsOf.mp hr
    obtain ⟨e, he⟩ := hfailed _ ho
    cases he

/-- An export comes to nothing where it is refused, or where it writes artifacts and every write
fails. -/
def ComesToNothing (x : Exporter) (faults : Nat → Option Fault) (entity : String)
    (artifacts : List Artifact) (t : FileTree) : Prop :=
  x.isRefused t entity artifacts = true
    ∨ x.dryRun = false ∧ artifacts ≠ []
      ∧ ∀ o ∈ (x.writeFrom faults entity t 0 artifacts).2, ∃ e, o.2 = .error e

/-- Nothing is refused where there are no artifacts. -/
theorem ComesToNothing.artifacts_ne_nil (h : x.ComesToNothing faults entity artifacts t) :
    artifacts ≠ [] := by
  obtain hrefused | ⟨-, hne, -⟩ := h
  · obtain ⟨-, a, ha, -⟩ := isRefused_iff.mp hrefused
    exact List.ne_nil_of_mem ha
  · exact hne

/-- What an export has records of, by how it goes. -/
structure RecordsFiles (x : Exporter) (faults : Nat → Option Fault) (entity : String)
    (artifacts : List Artifact) (t : FileTree) (result : ExportResult) : Prop where
  /-- One that is refused has none, -/
  refused : x.isRefused t entity artifacts = true → result.files = []
  /-- a dry run describes all artifacts, -/
  described : x.isRefused t entity artifacts = false → x.dryRun = true →
    result.files = artifacts.map (x.describe entity)
  /-- otherwise there are those of the artifacts that have been written, -/
  written : x.isRefused t entity artifacts = false → x.dryRun = false →
    result.files = kept (artifacts.map (x.describe entity))
      (x.writeFrom faults entity t 0 artifacts).2
  /-- and an error for each of the others. -/
  counted : x.isRefused t entity artifacts = false →
    result.files.length + result.errors.length = artifacts.length

theorem records_exportWith (x : Exporter) (faults : Nat → Option Fault) (entity : String)
    (artifacts : List Artifact) (t : FileTree) :
    x.RecordsFiles faults entity artifacts t (x.exportWith faults entity artifacts t).2 := by
  refine ⟨fun hrefused => ?_, fun hrefused hdry => ?_, fun hrefused hwet => ?_, fun hrefused => ?_⟩
  · rw [exportWith_of_isRefused hrefused]
  · simp [exportWith, hrefused, hdry]
  · exact files_exportWith hwet hrefused
  · cases hdry : x.dryRun with
    | true => simp [exportWith, hrefused, hdry]
    | false =>
      rcases hwrite : x.writeFrom faults entity t 0 artifacts with ⟨t', outcomes⟩
      have hnumbers := congrArg List.length (map_fst_writeFrom hwrite)
      rw [List.length_map, List.length_range'] at hnumbers
      simp only [exportWith, hrefused, hdry, hwrite, Bool.false_eq_true, if_false]
      rw [length_recordsOf_add_length_errorsOf, hnumbers]

/-- Apart from exports of no artifacts, the ones without records are those that come to nothing. -/
theorem files_exportWith_eq_nil_iff :
    (x.exportWith faults entity artifacts t).2.files = []
      ↔ artifacts = [] ∨ x.ComesToNothing faults entity artifacts t := by
  have hrecords := x.records_exportWith faults entity artifacts t
  cases hrefused : x.isRefused t entity artifacts with
  | true => exact iff_of_true (hrecords.refused hrefused) (.inr (.inl hrefused))
  | false =>
    cases hdry : x.dryRun with
    | true =>
      rw [hrecords.described hrefused hdry, List.map_eq_nil_iff]
      simp [ComesToNothing, hrefused, hdry]
    | false =>
      have hfiles : (x.exportWith faults entity artifacts t).2.files
          = recordsOf (x.writeFrom faults entity t 0 artifacts).2 := by
        simp [exportWith, hrefused, hdry]
      rw [hfiles, recordsOf_eq_nil_iff]
      by_cases hartifacts : artifacts = []
      · subst hartifacts
        simp [writeFrom]
      · simp [ComesToNothing, hrefused, hdry, hartifacts]

end Exporter

namespace Report

/-- The line of a summary that tells the number of files. -/
def filesLine (r : Report) : String :=
  "  Files:            " ++ toString r.totalFiles ++ if r.dryRun then " (dry run)" else ""

theorem filesLine_mem_summaryLines (r : Report) : r.filesLine ∈ r.summaryLines := by
  unfold summaryLines
  -- it is the first line behind the ones about the source and the output
  iterate 7 refine List.mem_append_left _ ?_
  exact List.mem_append_right _ List.mem_cons_self

end Report

namespace Generator

variable {g : Generator} {v : Value} {e : Entity} {artifacts : List Artifact}
  {faults : Nat → Option Fault} {t : FileTree} {source : String}

/-- What the report on a document tells of the number of files of its export. -/
structure CountsFiles (g : Generator) (faults : Nat → Option Fault) (t : FileTree)
    (entity : String) (artifacts : List Artifact) (result : ExportResult) (r : Report) : Prop where
  /-- It has the records of the export, -/
  files : r.files = result.files
  /-- namely of what has been described or written, -/
  records : g.exporter.RecordsFiles faults entity artifacts t result
  /-- whose number is in the detail of the step. -/
  detail : ∃ step ∈ r.steps, step.name = "Export" ∧ step.detail
    = toString result.files.length ++ " file(s), " ++ Text.grouped result.totalBytes ++ " bytes"
  /-- The number of the summary is the same, -/
  shown : r.filesLine ∈ r.summaryLines
  /-- unless the export comes to nothing; -/
  differs : r.totalFiles ≠ result.files.length
    ↔ g.exporter.ComesToNothing faults entity artifacts t
  /-- there are no records then, and the artifacts are counted. -/
  nothing : g.exporter.ComesToNothing faults entity artifacts t →
    result.files = [] ∧ r.totalFiles = artifacts.length

/-- A document comes to its export exactly when it is accepted and assembled. -/
theorem exported_iff_assembled :
    (∃ step ∈ (g.generateWith faults t source v).result.steps, step.name = "Export")
      ↔ ∃ e artifacts, (g.validate v).entity = some e ∧ g.assemble e = .ok artifacts := by
  constructor
  · intro h
    cases hentity : (g.validate v).entity with
    | none =>
      rw [generateWith_of_rejected hentity] at h
      simp [concluded, validationReport, validateStep] at h
    | some e =>
      cases hassemble : g.assemble e with
      | ok artifacts => exact ⟨e, artifacts, rfl, hassemble⟩
      | error fault =>
        simp [generateWith, hentity, finish, hassemble, concluded, validationReport, validateStep,
          assembleStep] at h
  · rintro ⟨e, artifacts, hentity, hassemble⟩
    rw [generateWith_of_assembled hentity hassemble]
    refine ⟨exportStep (g.exporter.exportWith faults e.names.name artifacts t).2, ?_, rfl⟩
    exact List.mem_append_right _ (List.mem_cons_of_mem _ List.mem_cons_self)

/-- Where nothing stops the work on a document, its export has the result that is reported. -/
theorem runWith_of_stopped_eq_none (hentity : (g.validate v).entity = some e)
    (hassemble : g.assemble e = .ok artifacts)
    (hstopped : (g.generateWith faults t source v).stopped = none) :
    g.exporter.runWith faults e.names.name artifacts t
      = ((g.generateWith faults t source v).tree,
        .ok (g.exporter.exportWith faults e.names.name artifacts t).2) := by
  rw [generateWith_of_assembled hentity hassemble] at hstopped ⊢
  obtain ⟨hbarrier, hbroken⟩ := exportStop?_eq_none.mp hstopped
  simp [Exporter.runWith, exportArtifacts, hbarrier, hbroken]

/-- The report on a document that comes to its export counts the records, or else the artifacts. -/
theorem countsFiles_exportArtifacts (g : Generator) (faults : Nat → Option Fault) (t : FileTree)
    (e : Entity) (artifacts : List Artifact) (r : Report) :
    g.CountsFiles faults t e.names.name artifacts
      (g.exporter.exportWith faults e.names.name artifacts t).2
      (g.exportArtifacts faults t e artifacts r).result := by
  rcases hexport : g.exporter.exportWith faults e.names.name artifacts t with ⟨t', result⟩
  have hrecords := g.exporter.records_exportWith faults e.names.name artifacts t
  have hnil := @Exporter.files_exportWith_eq_nil_iff g.exporter faults e.names.name artifacts t
  rw [hexport] at hrecords hnil
  have htotal : (exportReport artifacts result r).totalFiles
      = if result.files = [] then artifacts.length else result.files.length := by
    simp [exportReport, concluded, Report.totalFiles]
  have hstep : exportStep result ∈ (exportReport artifacts result r).steps := by
    simp [exportReport, concluded]
  rw [exportArtifacts, hexport]
  refine ⟨rfl, hrecords, ⟨exportStep result, hstep, rfl, rfl⟩, ?_, ?_, fun hnothing => ?_⟩
  · exact Report.filesLine_mem_summaryLines _
  · rw [htotal]
    by_cases hfiles : result.files = []
    · -- the numbers are then those of the artifacts and zero
      rw [if_pos hfiles, hfiles, List.length_nil, ne_eq, List.length_eq_zero_iff]
      refine ⟨fun hne => (hnil.mp hfiles).resolve_left hne, fun hnothing => ?_⟩
      exact hnothing.artifacts_ne_nil
    · rw [if_neg hfiles]
      exact iff_of_false (not_not.mpr rfl) fun hnothing => hfiles (hnil.mpr (.inr hnothing))
  · have hfiles := hnil.mpr (.inr hnothing)
    exact ⟨hfiles, by rw [htotal, if_pos hfiles]⟩

/-- Whenever a document has come to its export, its report tells the number of the records of the
export, both in the detail of the step and in the summary; but of an export that comes to nothing,
the summary tells the number of its artifacts. -/
theorem files_counted (g : Generator) (faults : Nat → Option Fault) (t : FileTree)
    (source : String) (v : Value)
    (hstopped : (g.generateWith faults t source v).stopped = none)
    (hexported : ∃ step ∈ (g.generateWith faults t source v).result.steps, step.name = "Export") :
    ∃ e artifacts result, (g.validate v).entity = some e ∧ g.assemble e = .ok artifacts
      ∧ g.exporter.runWith faults e.names.name artifacts t
        = ((g.generateWith faults t source v).tree, .ok result)
      ∧ g.CountsFiles faults t e.names.name artifacts result
        (g.generateWith faults t source v).result := by
  obtain ⟨e, artifacts, hentity, hassemble⟩ := exported_iff_assembled.mp hexported
  have hrun := runWith_of_stopped_eq_none hentity hassemble hstopped
  refine ⟨e, artifacts, _, hentity, hassemble, hrun, ?_⟩
  rw [generateWith_of_assembled hentity hassemble]
  exact countsFiles_exportArtifacts g faults t e artifacts _

/-! An order whose module is there and must not be overwritten. -/

def orderKeeper : Generator where
  settings := keepingExporter.settings
  output := keepingExporter.output

theorem refuses_order (e : Entity) :
    orderKeeper.exporter.isRefused orderTree "order" (e.artifacts orderKeeper.settings) = true := by
  obtain ⟨a, ha⟩ := List.exists_mem_of_ne_nil _
    (Entity.artifacts_ne_nil e (.inl rfl : orderKeeper.settings.generateFrontend = true ∨ _))
  refine Exporter.isRefused_of_contains rfl ha ?_
  show orderTree.contains (keepingExporter.modulePlace "order" a.side) = true
  rw [FileTree.contains, FileTree.stat?_eq_some.mpr (find_orderModule a.side)]
  rfl

theorem exportStop?_order (e : Entity) :
    orderKeeper.exportStop? orderTree "order" (e.artifacts orderKeeper.settings) = none := by
  refine exportStop?_eq_none.mpr ⟨Exporter.barrier?_eq_none_iff.mpr ⟨?_, fun a _ => ?_⟩, ?_⟩
  · rw [Place.hasNull_eq_any]
    rfl
  · show orderTree.isUnreachable (keepingExporter.modulePlace "order" a.side) = false
    rw [FileTree.isUnreachable, find_orderModule]
  · simp [Exporter.isBroken, refuses_order]

/-- The report on an order that is refused counts all artifacts, though it has no records. -/
theorem refused_order_counted : ∃ artifacts : List Artifact, artifacts ≠ []
    ∧ (orderKeeper.generate orderTree "" orderValue).result.files = []
    ∧ (orderKeeper.generate orderTree "" orderValue).result.totalFiles = artifacts.length := by
  obtain ⟨e, hentity, hname, -⟩ := exists_entity_of_valid (g := orderKeeper) parse_orderValue
    isValid_orderDocument fun hfail => nomatch hfail
  have hassemble : orderKeeper.assemble e = .ok (e.artifacts orderKeeper.settings) :=
    e.render_builtIn (by decide)
  have hstopped : (orderKeeper.generate orderTree "" orderValue).stopped = none := by
    rw [generate, generateWith_of_assembled hentity hassemble, hname]
    exact exportStop?_order e
  obtain ⟨e', artifacts, result, hentity', hassemble', -, hcounts⟩ :=
    files_counted orderKeeper (fun _ => none) orderTree "" orderValue hstopped
      (exported_iff_assembled.mpr ⟨e, _, hentity, hassemble⟩)
  cases hentity.symm.trans hentity'
  cases hassemble.symm.trans hassemble'
  rw [hname] at hcounts
  have hnothing : orderKeeper.exporter.ComesToNothing (fun _ => none) "order"
      (e.artifacts orderKeeper.settings) orderTree := .inl (refuses_order e)
  obtain ⟨hfiles, htotal⟩ := hcounts.nothing hnothing
  rw [generate]
  exact ⟨_, hnothing.artifacts_ne_nil, hcounts.files.trans hfiles, htotal⟩

end Generator

end Scaffold
