import Scaffold.Proofs.Export
import Scaffold.Proofs.Generation

/-!
# What a report says

A report tells the outcome of a document in several ways: by its steps, by its verdict, by four
lists of errors, and by what it says was made. `Report.Agrees` says that these agree with each other
and with the tree. Whichever step is the last one, they do (`Generator.reports_agree`): a step that
fails leaves an error, and nothing is done before the export. Where the work is stopped there is no
report; `Generator.Finishes` says where it is not.
-/

namespace Scaffold

/-- The steps that a document goes through. -/
def Report.documentSteps : List String := ["Validate", "Assemble", "Export"]

/-- The steps that a file goes through. -/
def Report.fileSteps : List String := "Load Schema File" :: documentSteps

/-- What a report says of work that has led from one tree to another agrees with itself and with
what was done. Assembling succeeds where the settings can be written. -/
structure Report.Agrees (r : Report) (names : List String) (writable : Prop) (t t' : FileTree) :
    Prop where
  taken : r.steps ≠ []
  named : r.steps.map (·.name) <+: names
  passed : ∀ step ∈ r.steps.dropLast, step.success = true
  assembled : ∀ step ∈ r.steps, step.name = "Assemble" → (step.success = true ↔ writable)
  success_iff_exported : r.success = true
    ↔ ∃ step, r.steps.getLast? = some step ∧ step.name = "Export" ∧ step.success = true
  success_iff_clean : r.success = true
    ↔ r.inputErrors = [] ∧ r.validationErrors = [] ∧ r.generationErrors = [] ∧ r.exportErrors = []
  untouched : ∀ step, r.steps.getLast? = some step → step.name ≠ "Export" →
    r.artifacts = [] ∧ r.files = [] ∧ t' = t

/-- What is left behind by work on a tree: a report that agrees with it, where nothing has stopped
the work; and the tree as it was, where something has, unless that is an artifact without a place,
next to which others may have been written. -/
structure Aftermath.Agrees (names : List String) (writable : Prop) (t : FileTree)
    (after : Aftermath Report) : Prop where
  reported : after.stopped = none → after.result.Agrees names writable t after.tree
  idle : ∀ fault, after.stopped = some fault → fault ≠ .place .nullCharacter → after.tree = t

namespace Report.Agrees

variable {r : Report} {writable : Prop} {t t' : FileTree}

/-- A file that has been loaded is reported like its document, with one step more in front. -/
theorem loaded (h : r.Agrees documentSteps writable t t') (detail : String) :
    Agrees { r with steps := Generator.loadStep true detail :: r.steps } fileSteps writable
      t t' := by
  -- the last step is still that of the document
  have hlast : (Generator.loadStep true detail :: r.steps).getLast? = r.steps.getLast? := by
    obtain ⟨first, rest, hsteps⟩ := List.exists_cons_of_ne_nil h.taken
    rw [hsteps, List.getLast?_cons_cons]
  have hload : (Generator.loadStep true detail).name ≠ "Assemble" :=
    show "Load Schema File" ≠ "Assemble" by decide
  refine ⟨List.cons_ne_nil _ _, ?_, ?_, ?_, ?_, h.success_iff_clean, ?_⟩
  · exact List.cons_prefix_cons.mpr ⟨rfl, h.named⟩
  · dsimp only
    rw [List.dropLast_cons_of_ne_nil h.taken, List.forall_mem_cons]
    exact ⟨rfl, h.passed⟩
  · exact List.forall_mem_cons.mpr ⟨fun hname => absurd hname hload, h.assembled⟩
  · dsimp only
    rw [hlast]
    exact h.success_iff_exported
  · dsimp only
    rw [hlast]
    exact h.untouched

end Report.Agrees

namespace Generator

variable {g : Generator} {v : Value} {e : Entity} {writable : Prop}

/-- The report on a document that is rejected. -/
theorem agrees_of_rejected (h : (g.validate v).entity = none) (writable : Prop) (t : FileTree)
    (source : String) :
    (concluded (g.validationReport source (g.validate v))).Agrees Report.documentSteps writable
      t t := by
  have herrors := errors_ne_nil_of_validate h
  refine ⟨List.cons_ne_nil _ _, ?_, nofun, ?_, ?_, Report.isClean_iff, fun _ _ _ => ⟨rfl, rfl, rfl⟩⟩
  · exact ⟨["Assemble", "Export"], rfl⟩
  · simp [concluded, validationReport, validateStep]
  · simp [concluded, validationReport, validateStep, Report.isClean, herrors]

/-- The report on an accepted document whose settings cannot be written. -/
theorem agrees_overlongReport (h : (g.validate v).entity = some e) (hwritable : ¬writable)
    (t : FileTree) (source : String) :
    (g.overlongReport source v).Agrees Report.documentSteps writable t t := by
  have hsuccess := g.success_overlongReport source v
  refine ⟨List.cons_ne_nil _ _, ?_, ?_, ?_, ?_, Report.isClean_iff, fun _ _ _ => ⟨rfl, rfl, rfl⟩⟩
  · exact ⟨["Export"], rfl⟩
  · simp [overlongReport, concluded, validationReport, validateStep, h]
  · simp [overlongReport, concluded, validationReport, validateStep, assembleStep, hwritable]
  · rw [hsuccess]
    simp [overlongReport, concluded, validationReport, assembleStep]

/-- The report on a document that comes to its export. -/
theorem agrees_of_exported (h : (g.validate v).entity = some e) (hwritable : writable)
    (t t' : FileTree) (source : String) (artifacts : List Artifact) (result : ExportResult) :
    (exportReport artifacts result (g.validationReport source (g.validate v))).Agrees
      Report.documentSteps writable t t' := by
  have hsuccess := success_exportReport h source artifacts result
  refine ⟨List.cons_ne_nil _ _, List.prefix_refl _, ?_, ?_, ?_, Report.isClean_iff, ?_⟩
  · simp [exportReport, concluded, validationReport, validateStep, assembleStep, h]
  · simp [exportReport, concluded, validationReport, validateStep, assembleStep, exportStep,
      hwritable]
  · rw [hsuccess]
    simp [exportReport, concluded, validationReport, exportStep]
  · simp [exportReport, concluded, validationReport, exportStep]

/-- The report on a file that cannot be loaded. -/
theorem agrees_loadFailure (g : Generator) (writable : Prop) (t : FileTree) (p : Place)
    (message : String) :
    (g.loadFailure p message).Agrees Report.fileSteps writable t t := by
  refine ⟨List.cons_ne_nil _ _, ?_, nofun, ?_, ?_, ?_, fun _ _ _ => ⟨rfl, rfl, rfl⟩⟩
  · exact ⟨Report.documentSteps, rfl⟩
  · simp [loadFailure, loadStep]
  · simp [loadFailure, loadStep]
  · simp [loadFailure]

theorem agrees_generateWith (hthemes : g.themes = ThemeTable.builtIn.map ThemeTable.theme)
    (faults : Nat → Option Fault) (t : FileTree) (source : String) (v : Value) :
    (g.generateWith faults t source v).Agrees Report.documentSteps g.settings.IsWritable t := by
  cases hentity : (g.validate v).entity with
  | none =>
    rw [generateWith_of_rejected hentity]
    exact ⟨fun _ => agrees_of_rejected hentity _ t source, fun _ _ _ => rfl⟩
  | some e =>
    by_cases hs : g.settings.IsWritable
    · rw [generateWith_of_accepted hthemes hs hentity]
      refine ⟨fun _ => agrees_of_exported hentity hs t _ source _ _, fun fault hfault hplace => ?_⟩
      -- what stops an export without a barrier is an artifact without a place
      refine if_pos (Option.isSome_iff_ne_none.mpr fun hbarrier => ?_)
      simp only [exportStop?, hbarrier] at hfault
      split at hfault <;> cases hfault
      exact hplace rfl
    · rw [generateWith_of_unwritable hs hentity]
      exact ⟨fun _ => agrees_overlongReport hentity hs t source, fun _ _ _ => rfl⟩

/-- The report on a document or a file agrees with itself and with what was done, whatever the value
or the file is, whichever writes fail, and under all settings, wherever nothing stops the work;
where something does there is no report, and as a rule nothing has been done. A document is stopped
by its export alone, a file also by its reader. Of files with a torn character nothing is said. -/
theorem reports_agree (s : Settings) (output : Place) (dryRun failOnWarnings : Bool)
    (faults : Nat → Option Fault) (t : FileTree) :
    let g : Generator :=
      ⟨s, output, dryRun, failOnWarnings, ThemeTable.builtIn.map ThemeTable.theme⟩
    (∀ source v,
      let after := g.generateWith faults t source v
      after.Agrees Report.documentSteps s.IsWritable t
        ∧ (after.stopped = none ↔ g.Finishes t v))
      ∧ ∀ p, Source.load t p ≠ .error .torn →
        let after := g.generateFileWith faults t p
        after.Agrees Report.fileSteps s.IsWritable t
          ∧ (after.stopped = none ↔ output.hasNull = false ∧ Source.stopsReading t p = false
            ∧ ∀ entries, Source.load t p = .ok entries → g.Finishes t (.map entries)) := by
  intro g
  have hagrees (source : String) (v : Value) := agrees_generateWith (g := g) rfl faults t source v
  refine ⟨fun source v => ⟨hagrees source v, stopped_generateWith_eq_none_iff rfl⟩, fun p _ => ?_⟩
  unfold generateFileWith Source.stopsReading
  -- a file that can be read goes on as the document in it
  cases hload : Source.load t p with
  | error e =>
    refine ⟨⟨fun _ => agrees_loadFailure g _ t p _, fun _ _ _ => rfl⟩, ?_⟩
    have hstopped : (Interruption.ofLoad? e <|> g.interruption?) = none
        ↔ e.isFatal = false ∧ g.interruption? = none := by
      unfold Interruption.ofLoad?
      cases e.isFatal <;> simp
    rw [hstopped, interruption?_eq_none, and_comm]
    simp [g]
  | ok entries =>
    obtain ⟨hreported, hidle⟩ := hagrees p.text (.map entries)
    refine ⟨⟨fun h => (hreported h).loaded _, hidle⟩, ?_⟩
    refine (stopped_generateWith_eq_none_iff rfl).trans ?_
    simp only [Except.ok.injEq, forall_eq', true_and]
    exact ⟨fun h => ⟨h.1, h⟩, And.right⟩

/-- Settings that cannot be written fail for an order when it is assembled; a file that is missing
leaves a report, and nothing else. -/
theorem orders_reported :
    let g : Generator := { settings := .overlong, output := [] }
    let order := g.generate FileTree.empty "" orderValue
    let missing := g.generateFile FileTree.empty ["order.json"]
    (order.stopped = none ∧ ∀ step ∈ order.result.steps, step.name = "Assemble" →
        step.success = false)
      ∧ missing.stopped = none ∧ missing.result.files = [] ∧ missing.tree = FileTree.empty := by
  intro g order missing
  have hnull : Place.hasNull [] = false := rfl
  have hload : Source.load FileTree.empty ["order.json"] = .error (.missing ["order.json"]) := by
    have hfind : FileTree.empty.find ["order.json"] = .error .notFound := by
      simp only [FileTree.find, Place.hasNull_eq_any]
      decide
    rw [Source.load, hfind]
  obtain ⟨hvalues, hfiles⟩ := reports_agree .overlong [] false false (fun _ => none) FileTree.empty
  constructor
  · obtain ⟨hreports, hstopped⟩ := hvalues "" orderValue
    have horder : order.stopped = none :=
      hstopped.mpr ⟨hnull, fun _ _ hs => absurd hs Settings.not_isWritable_overlong⟩
    have hagrees : order.result.Agrees Report.documentSteps Settings.overlong.IsWritable
        FileTree.empty order.tree := hreports.reported horder
    refine ⟨horder, fun step hstep hname => Bool.eq_false_iff.mpr ?_⟩
    exact mt (hagrees.assembled step hstep hname).mp Settings.not_isWritable_overlong
  · obtain ⟨hreports, hstopped⟩ := hfiles ["order.json"] (by simp [hload])
    have hreads : Source.stopsReading FileTree.empty ["order.json"] = false := by
      rw [Source.stopsReading, hload]
      rfl
    have hmissing : missing.stopped = none :=
      hstopped.mpr ⟨hnull, hreads, fun entries h => by simp [hload] at h⟩
    have hagrees : missing.result.Agrees Report.fileSteps Settings.overlong.IsWritable
        FileTree.empty missing.tree := hreports.reported hmissing
    have hlast : missing.result.steps
        = [loadStep false (Source.LoadError.missing ["order.json"]).message] := by
      simp only [missing, generateFile, generateFileWith, hload, loadFailure]
    have huntouched := hagrees.untouched _ (by rw [hlast]; rfl)
    exact ⟨hmissing, (huntouched (show "Load Schema File" ≠ "Export" by decide)).2⟩

end Generator

end Scaffold
