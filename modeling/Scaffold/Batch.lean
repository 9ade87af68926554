import Scaffold.Generation
import Scaffold.Writer

/-!
# Batches on several workers

The files of a batch are worked on at the same time, and so are the artifacts of each document. A
`Batch` is the tree that all of them share, with a `Job` for each file; each step of it is one step
of a job or of one of its writers. A schedule says whose turn it is. When all jobs are done there is
a report for each file, in the order of the files. `Generator.generateFiles` works on the files one
after another.
-/

namespace Scaffold

/-- A document on its way to the export. -/
structure Draft where
  /-- The report as far as the document has been validated. -/
  report : Report
  entity : String
  artifacts : List Artifact

/-- How far the work on one file has come. -/
inductive Job.Stage where
  /-- The file is to be loaded, and its document to be validated and assembled. -/
  | waiting
  /-- The modules of the entity are to be looked for. -/
  | checking (draft : Draft)
  /-- Each artifact has a writer. The outcomes are in the order in which they came, with the numbers
  of the artifacts. -/
  | writing (draft : Draft) (writers : List Writer) (outcomes : List (Nat × Exporter.Outcome))
  /-- There is a report, or something has stopped the work. -/
  | ended (result : Except Interruption Report)

/-- The work on one file. -/
structure Job where
  path : Place
  stage : Job.Stage := .waiting

/-- Several files that are worked on at the same time. -/
structure Batch where
  tree : FileTree
  jobs : List Job

/-- What work returns: its result, unless something has stopped it. -/
def Aftermath.returned {α : Type} (after : Aftermath α) : Except Interruption α :=
  match after.stopped with
  | some interruption => .error interruption
  | none => .ok after.result

namespace Generator

/-- What is exported of the document in a file; nothing where the file cannot be loaded or the
document is rejected. -/
def draft? (g : Generator) (t : FileTree) (p : Place) : Option Draft :=
  match Source.load t p with
  | .error _ => none
  | .ok entries =>
    let validated := g.validate (.map entries)
    let loaded := loadStep true ("from " ++ p.name)
    let report := g.validationReport p.text validated
    match validated.entity with
    | none => none
    | some e =>
      match g.assemble e with
      | .error _ => none
      | .ok artifacts =>
        some ⟨{ report with steps := loaded :: report.steps }, e.names.name, artifacts⟩

end Generator

namespace Draft

variable (g : Generator) (d : Draft)

/-- The writers of the artifacts. -/
def writers : List Writer :=
  d.artifacts.map fun a => .start (g.exporter.target d.entity a) a.content.toUTF8

/-- What came of the artifact of a number. -/
def outcome (n : Nat) (error : Option FileError) : Option (Nat × Exporter.Outcome) :=
  d.artifacts[n]?.map fun a =>
    match error with
    | none => (n, .ok (g.exporter.describe d.entity a))
    | some e => (n, .error (g.exporter.writeError d.entity a e))

/-- The report on the export. -/
def exported (result : ExportResult) : Report :=
  Generator.exportReport d.artifacts result d.report

/-- Looks for the modules of the entity. -/
def check (t : FileTree) : Job.Stage :=
  match g.exporter.barrier? t d.entity d.artifacts with
  | some fault => .ended (.error (.place fault))
  | none =>
    -- neither of the two writes anything, so the report is there at once
    if g.exporter.isRefused t d.entity d.artifacts || g.dryRun then
      .ended (.ok (d.exported (g.exporter.exportWith (fun _ => none) d.entity d.artifacts t).2))
    else .writing d (d.writers g) []

/-- The report when all artifacts have outcomes, in whatever order they came. An artifact that has
no place stops the work. -/
def conclude (outcomes : List (Nat × Exporter.Outcome)) : Except Interruption Report :=
  if d.artifacts.any fun a => (g.exporter.target d.entity a).hasNull then
    .error (.place .nullCharacter)
  else
    .ok (d.exported ⟨d.entity, g.dryRun, Exporter.recordsOf outcomes, Exporter.errorsOf outcomes⟩)

end Draft

namespace Job

/-- Loads the file, and validates and assembles its document. -/
def begin (g : Generator) (t : FileTree) (p : Place) : Stage :=
  match g.draft? t p with
  | some draft => .checking draft
  -- without an export the work touches nothing and is one step
  | none => .ended (g.generateFile t p).returned

/-- One step of the writer of the given number; when it is done, its outcome comes behind the
others. -/
def write (g : Generator) (t : FileTree) (n : Nat) (draft : Draft) (writers : List Writer)
    (outcomes : List (Nat × Exporter.Outcome)) : FileTree × Stage :=
  match writers[n]? with
  | none => (t, .writing draft writers outcomes)
  | some w =>
    match w.ended? with
    -- a writer that is done lets its turn pass
    | some _ => (t, .writing draft writers outcomes)
    | none =>
      let (t', stage) := w.step t
      let w' := { w with stage := stage }
      let outcome := w'.ended?.bind (draft.outcome g n)
      (t', .writing draft (writers.set n w') (outcomes ++ outcome.toList))

/-- One step of a job; while artifacts are written, one of the writer of the given number. -/
def step (g : Generator) (t : FileTree) (n : Nat) (job : Job) : FileTree × Stage :=
  match job.stage with
  | .waiting => (t, begin g t job.path)
  | .checking draft => (t, draft.check g t)
  | .writing draft writers outcomes => write g t n draft writers outcomes
  | .ended result => (t, .ended result)

/-- What a job that is done returns. -/
def result? (g : Generator) (job : Job) : Option (Except Interruption Report) :=
  match job.stage with
  | .writing draft _ outcomes =>
    if outcomes.length = draft.artifacts.length then some (draft.conclude g outcomes) else none
  | .ended result => some result
  | _ => none

end Job

namespace Batch

/-- The files before anything is done. -/
def start (t : FileTree) (paths : List Place) : Batch :=
  ⟨t, paths.map fun p => { path := p }⟩

/-- One step of a job, and of one of its writers while it has any. -/
def step (g : Generator) (b : Batch) (turn : Nat × Nat) : Batch :=
  match b.jobs[turn.1]? with
  | none => b
  | some job =>
    let (t, stage) := job.step g b.tree turn.2
    ⟨t, b.jobs.set turn.1 { job with stage := stage }⟩

/-- The steps of a schedule: whose turn it is, one after another. -/
def run (g : Generator) (b : Batch) (schedule : List (Nat × Nat)) : Batch :=
  schedule.foldl (step g) b

/-- What the jobs return when all of them are done, in the order of the files. -/
def results? (g : Generator) (b : Batch) : Option (List (Except Interruption Report)) :=
  b.jobs.mapM (Job.result? g)

end Batch

end Scaffold
