import Scaffold.Module
import Scaffold.Report
import Scaffold.Source.File

/-!
# Generation

A generator takes documents through their steps: a file is loaded, the document is validated, its
artifacts are assembled, and they are exported. The first step that fails is the last one of the
report. Documents that are rejected change nothing in the file tree. Some errors stop the work
without a report: `Aftermath.stopped` then says which, and the result counts for nothing.

`Generator.batch` works on several files, one after another, and its reports come in the order of
the files. A file that stops the work stops it after the others have been worked on.
-/

namespace Scaffold

/-- How documents are worked on. -/
structure Generator where
  settings : Settings := {}
  /-- The directory below which modules are written. -/
  output : Place
  dryRun : Bool := false
  /-- Whether a document with warnings is rejected. -/
  failOnWarnings : Bool := false
  /-- The themes of the views; one whose class table lacks tokens makes assembling fail. -/
  themes : List (Except ThemeFault Theme) := ThemeTable.builtIn.map ThemeTable.theme

/-- What came of validating a value as a document. -/
structure Validated where
  entity : Option Entity
  /-- The name of the entity, as far as it is known. -/
  name : String
  errors : List String := []
  warnings : List String := []
  notices : List Notice := []

/-- What stops all work, without a report. -/
inductive Interruption where
  | source (error : Source.LoadError)
  | place (fault : PlaceFault)
deriving Repr, DecidableEq

namespace Interruption

/-- The message about what stops the work. -/
def message : Interruption → String
  | source e => e.message
  | place fault => fault.message

/-- The interruption that an error about a file is, if it is one. -/
def ofLoad? (e : Source.LoadError) : Option Interruption :=
  if e.isFatal then some (.source e) else none

end Interruption

/-- What is left behind by working on documents. -/
structure Aftermath (α : Type) where
  tree : FileTree
  result : α
  notices : List Notice := []
  /-- What has stopped the work, if anything has. -/
  stopped : Option Interruption := none

def Findings.messages (fs : Findings) : List String := fs.map (·.message)

/-- The notice that validation gives about a document with errors. -/
def Document.rejectionNotices (d : Document) : List Notice :=
  if d.findings.isValid then []
  else [.error ("Entity '" ++ d.name ++ "' rejected. " ++ d.findings.summary)]

/-- The outcome for a document that is rejected. -/
def Validated.rejected (name : String) (r : Rejection) (notices : List Notice) : Validated :=
  { entity := none
    name := name
    errors := match r.findings with
      | some fs => fs.errors.messages
      | none => [r.message]
    warnings := match r.findings with
      | some fs => fs.warnings.messages
      | none => []
    notices := notices }

namespace Generator

/-! ### The steps -/

/-- Makes an entity of a document without errors. -/
def accept (g : Generator) (d : Document) (fs : Findings) : Validated :=
  let warnings := fs.warnings.messages
  let notices := warnings.map Notice.warning
  match Entity.ofDocument d with
  | .error r => .rejected d.name r notices
  | .ok e =>
    -- the warnings are listed as such, and make one error together
    if g.failOnWarnings && !warnings.isEmpty then
      { entity := none, name := d.name, warnings := warnings, notices := notices
        errors := [toString warnings.length ++ " warning(s) treated as errors."] }
    else { entity := some e, name := d.name, warnings := warnings, notices := notices }

def validate (g : Generator) (v : Value) : Validated :=
  match Document.parse v with
  -- a value that is no document may have told its name before it failed
  | .error r => .rejected (r.entity.getD "") r []
  | .ok d =>
    match d.ensureValid with
    | .error r => .rejected d.name r d.rejectionNotices
    | .ok fs => g.accept d fs

def assemble (g : Generator) (e : Entity) : Except RenderFault (List Artifact) :=
  e.render g.themes g.settings

def exporter (g : Generator) : Exporter := ⟨g.output, g.settings, g.dryRun⟩

def exportNotices (refused : Bool) (r : ExportResult) : List Notice :=
  if r.success then []
  else (if refused then [] else r.errors.map Notice.error)
    ++ [.error ("Export of '" ++ r.entity ++ "' finished with " ++ toString r.errors.length
      ++ " error(s).")]

/-! ### Reports -/

def loadStep (success : Bool) (detail : String) : StepRecord :=
  { name := "Load Schema File", success := success, detail := detail }

def validateStep (v : Validated) : StepRecord :=
  { name := "Validate", success := v.entity.isSome
    detail := toString v.errors.length ++ " error(s), " ++ toString v.warnings.length
      ++ " warning(s)" }

def assembleStep (artifacts : Option (List Artifact)) : StepRecord :=
  { name := "Assemble", success := artifacts.isSome
    detail := toString (artifacts.getD []).length ++ " artifact(s)" }

def exportStep (r : ExportResult) : StepRecord :=
  { name := "Export", success := r.success
    detail := toString r.files.length ++ " file(s), " ++ Text.grouped r.totalBytes ++ " bytes" }

/-- What stops the work on a document whose output directory is no place. -/
def interruption? (g : Generator) : Option Interruption :=
  if g.output.hasNull then some (.place .nullCharacter) else none

/-- The report on a document of which only the validation is known. -/
def validationReport (g : Generator) (source : String) (v : Validated) : Report :=
  { entity := v.name, source := source, output := g.output.text, dryRun := g.dryRun
    steps := [validateStep v], validationErrors := v.errors, validationWarnings := v.warnings }

/-- A report with its verdict. -/
def concluded (r : Report) : Report := { r with success := r.isClean }

/-- A report on a validated document with what came of the export of its artifacts. -/
def exportReport (artifacts : List Artifact) (result : ExportResult) (r : Report) : Report :=
  concluded { r with
    artifacts := artifacts
    steps := r.steps ++ [assembleStep (some artifacts), exportStep result]
    files := result.files
    exportErrors := result.errors }

/-- Exports artifacts, while the given faults happen, and adds to a report what came of it. -/
def exportArtifacts (g : Generator) (faults : Nat → Option Fault) (t : FileTree) (e : Entity)
    (artifacts : List Artifact) (r : Report) : Aftermath Report :=
  let name := e.names.name
  let (t', result) := g.exporter.exportWith faults name artifacts t
  { tree := t'
    result := exportReport artifacts result r
    notices := exportNotices (g.exporter.isRefused t name artifacts) result }

/-- Takes a validated entity through the steps that are left. -/
def finish (g : Generator) (faults : Nat → Option Fault) (t : FileTree) (e : Entity) (r : Report) :
    Aftermath Report :=
  match g.assemble e with
  | .ok artifacts =>
    let name := e.names.name
    let after := g.exportArtifacts faults t e artifacts r
    match g.exporter.barrier? t name artifacts with
    -- what the export would have done counts for nothing
    | some fault => { after with tree := t, stopped := some (.place fault) }
    | none =>
      if g.exporter.isBroken t name artifacts then
        { after with stopped := some (.place .nullCharacter) }
      else after
  | .error fault =>
    let message := "ValueError: " ++ fault.message
    { tree := t
      result := concluded { r with
        steps := r.steps ++ [assembleStep none]
        generationErrors := [message] }
      notices := [.error ("Generation failed for '" ++ e.names.name ++ "': " ++ message)]
      stopped := g.interruption? }

/-- Works on one document while the given faults happen; `source` says where it is from. -/
def generateWith (g : Generator) (faults : Nat → Option Fault) (t : FileTree) (source : String)
    (v : Value) : Aftermath Report :=
  let validated := g.validate v
  let report := g.validationReport source validated
  match validated.entity with
  | none =>
    { tree := t, result := concluded report, notices := validated.notices
      stopped := g.interruption? }
  | some e =>
    let after := g.finish faults t e report
    { after with notices := validated.notices ++ after.notices }

/-- Works on one document. -/
def generate (g : Generator) (t : FileTree) (source : String) (v : Value) : Aftermath Report :=
  g.generateWith (fun _ => none) t source v

/-! ### Files -/

/-- The report on a file that cannot be loaded. -/
def loadFailure (g : Generator) (p : Place) (message : String) : Report :=
  { source := p.text, output := g.output.text, dryRun := g.dryRun
    steps := [loadStep false message], inputErrors := [message] }

/-- Works on the document in a file while the given faults happen. -/
def generateFileWith (g : Generator) (faults : Nat → Option Fault) (t : FileTree) (p : Place) :
    Aftermath Report :=
  match Source.load t p with
  | .error e =>
    { tree := t, result := g.loadFailure p e.message
      notices := [.error ("Failed to load " ++ p.text ++ ": " ++ e.message)]
      -- the reader comes to its error before the output directory is looked at
      stopped := Interruption.ofLoad? e <|> g.interruption? }
  | .ok entries =>
    let after := g.generateWith faults t p.text (.map entries)
    let loaded := loadStep true ("from " ++ p.name)
    { after with result := { after.result with steps := loaded :: after.result.steps } }

/-- Works on the document in a file. -/
def generateFile (g : Generator) (t : FileTree) (p : Place) : Aftermath Report :=
  g.generateFileWith (fun _ => none) t p

/-- Works on the documents in several files, one after another. -/
def generateFiles (g : Generator) (t : FileTree) : List Place → Aftermath (List Report)
  | [] => { tree := t, result := [] }
  | p :: rest =>
    let first := g.generateFile t p
    let others := g.generateFiles first.tree rest
    { tree := others.tree
      result := first.result :: others.result
      notices := first.notices ++ others.notices
      stopped := first.stopped <|> others.stopped }

/-- The names that occur more than once, each of them once, in alphabetical order. -/
def repeatedNames (names : List String) : List String :=
  Exporter.sortTexts (names.eraseDups.filter fun n => 1 < names.count n)

/-- The notices about a batch whose reports are given: entities that occur more than once. -/
def batchNotices (reports : List Report) : List Notice :=
  -- a file that was not loaded has a report without a name
  let names := (reports.map (·.entity)).filter fun n => !n.isEmpty
  match repeatedNames names with
  | [] => []
  | repeated =>
    [.warning ("Entities generated more than once in this batch (last writer wins): "
      ++ ", ".intercalate repeated)]

/-- Works on a batch of files. -/
def batch (g : Generator) (t : FileTree) (paths : List Place) : Aftermath (List Report) :=
  let after := g.generateFiles t paths
  { after with notices := after.notices ++ batchNotices after.result }

end Generator

end Scaffold
