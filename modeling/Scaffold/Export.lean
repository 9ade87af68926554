import Scaffold.FileTree
import Scaffold.Settings
import Scaffold.Text.Digest

/-!
# Exports

An export writes the artifacts of one entity below a directory, each under the root of its side and
the name of the entity. It is refused as a whole when overwriting is disabled and the module of the
entity exists on a side that has artifacts. Otherwise every artifact is written, whatever happens to
the others; the result has a record of each written file, in the order of the artifacts, and an
error for each of the others, in alphabetical order. A dry run makes the records and writes nothing.
Modules are looked for whether overwriting is disabled or not, and where the system refuses that, no
export takes place. An export that comes upon an artifact that can have no place writes the others,
but has no result.
-/

namespace Scaffold

/-- What is known of a written file. -/
structure FileRecord where
  /-- The path below the output directory. -/
  path : String
  absolute : String
  bytes : Nat
  lines : Nat
  sha256 : String
deriving Repr, DecidableEq, Inhabited

/-- What an export did. -/
structure ExportResult where
  entity : String
  dryRun : Bool
  files : List FileRecord
  errors : List String
deriving Repr, DecidableEq, Inhabited

namespace ExportResult

/-- Whether nothing went wrong. -/
def success (r : ExportResult) : Bool := r.errors.isEmpty

/-- The number of bytes of all files. -/
def totalBytes (r : ExportResult) : Nat := (r.files.map (·.bytes)).foldr (· + ·) 0

/-- The number of lines of all files. -/
def totalLines (r : ExportResult) : Nat := (r.files.map (·.lines)).foldr (· + ·) 0

/-- The checksum of each file under its path. -/
def checksums (r : ExportResult) : List (String × String) :=
  r.files.map fun f => (f.path, f.sha256)

end ExportResult

/-- An export of an entity: the directory below which it writes, and the settings that say where. -/
structure Exporter where
  output : Place
  settings : Settings
  dryRun : Bool := false

namespace Exporter

def modulePlace (x : Exporter) (entity : String) (side : Side) : Place :=
  (x.output.below (x.settings.root side).text).below entity

/-- The path of an artifact below the output directory. -/
def relativePath (x : Exporter) (entity : String) (a : Artifact) : String :=
  (x.settings.root a.side).text ++ "/" ++ entity ++ "/" ++ a.path

def target (x : Exporter) (entity : String) (a : Artifact) : Place :=
  x.output.below (x.relativePath entity a)

/-- The sides of artifacts, in the order in which they first occur. -/
def sides (artifacts : List Artifact) : List Side :=
  artifacts.foldl (fun seen a => if seen.contains a.side then seen else seen ++ [a.side]) []

/-- The modules of the entity that exist on the sides of the artifacts. -/
def existingModules (x : Exporter) (t : FileTree) (entity : String) (artifacts : List Artifact) :
    List Place :=
  ((sides artifacts).map (x.modulePlace entity)).filter t.contains

/-- What keeps an export from taking place: the output directory is no place, or the system refuses
to look at a module of the entity. -/
def barrier? (x : Exporter) (t : FileTree) (entity : String) (artifacts : List Artifact) :
    Option PlaceFault :=
  if x.output.hasNull then some .nullCharacter
  else (((sides artifacts).map (x.modulePlace entity)).find? t.isUnreachable).map .tooLong

/-- Whether an export is refused as a whole. -/
def isRefused (x : Exporter) (t : FileTree) (entity : String) (artifacts : List Artifact) : Bool :=
  !(x.existingModules t entity artifacts).isEmpty && !x.settings.overwriteExisting

/-- The error for a module that must not be overwritten. -/
def refusal (p : Place) : String :=
  "Module directory already exists and overwriting is disabled: " ++ p.text

def describe (x : Exporter) (entity : String) (a : Artifact) : FileRecord :=
  let content := a.content.toUTF8
  { path := x.relativePath entity a
    absolute := (x.target entity a).text
    bytes := content.size
    lines := a.lineCount
    sha256 := Text.sha256 content }

/-- The error for an artifact that could not be written, for a reason in words. -/
def failure (x : Exporter) (entity : String) (a : Artifact) (reason : String) : String :=
  "Failed to write " ++ x.relativePath entity a ++ ": " ++ reason

def writeError (x : Exporter) (entity : String) (a : Artifact) (e : FileError) : String :=
  x.failure entity a e.word

/-- What came of writing one artifact. -/
abbrev Outcome := Except String FileRecord

def writeOne (x : Exporter) (fault : Option Fault) (entity : String) (t : FileTree) (a : Artifact) :
    FileTree × Outcome :=
  match t.write fault (x.target entity a) a.content.toUTF8 with
  | (t', none) => (t', .ok (x.describe entity a))
  | (t', some e) => (t', .error (x.writeError entity a e))

/-- Writes artifacts one after another, from a number on; `faults` says what fails from outside by
the number of the artifact. -/
def writeFrom (x : Exporter) (faults : Nat → Option Fault) (entity : String) (t : FileTree)
    (n : Nat) : List Artifact → FileTree × List (Nat × Outcome)
  | [] => (t, [])
  | a :: rest =>
    let (t', outcome) := x.writeOne (faults n) entity t a
    let (t'', others) := x.writeFrom faults entity t' (n + 1) rest
    (t'', (n, outcome) :: others)

/-- The records among outcomes that came in any order, in the order of their numbers. -/
def recordsOf (outcomes : List (Nat × Outcome)) : List FileRecord :=
  let records := outcomes.filterMap fun
    | (n, .ok r) => some (n, r)
    | (_, .error _) => none
  (records.mergeSort fun a b => a.1 ≤ b.1).map (·.2)

/-- Texts in alphabetical order. -/
def sortTexts (texts : List String) : List String :=
  texts.mergeSort fun a b => !decide (b < a)

/-- The errors among outcomes that came in any order, in alphabetical order. -/
def errorsOf (outcomes : List (Nat × Outcome)) : List String :=
  sortTexts (outcomes.filterMap fun
    | (_, .ok _) => none
    | (_, .error e) => some e)

/-- Exports artifacts while the given faults happen. -/
def exportWith (x : Exporter) (faults : Nat → Option Fault) (entity : String)
    (artifacts : List Artifact) (t : FileTree) : FileTree × ExportResult :=
  if x.isRefused t entity artifacts then
    (t, ⟨entity, x.dryRun, [], (x.existingModules t entity artifacts).map refusal⟩)
  -- a dry run is refused like any other export
  else if x.dryRun then (t, ⟨entity, x.dryRun, artifacts.map (x.describe entity), []⟩)
  else
    let (t', outcomes) := x.writeFrom faults entity t 0 artifacts
    (t', ⟨entity, x.dryRun, recordsOf outcomes, errorsOf outcomes⟩)

/-- Whether an export comes upon an artifact that has no place, so that it ends without a result. -/
def isBroken (x : Exporter) (t : FileTree) (entity : String) (artifacts : List Artifact) : Bool :=
  !x.isRefused t entity artifacts && !x.dryRun
    && artifacts.any fun a => (x.target entity a).hasNull

/-- Exports artifacts while the given faults happen. Where something keeps the export from taking
place, nothing is done; where an artifact has no place, the others are written. -/
def runWith (x : Exporter) (faults : Nat → Option Fault) (entity : String)
    (artifacts : List Artifact) (t : FileTree) : FileTree × Except PlaceFault ExportResult :=
  match x.barrier? t entity artifacts with
  | some fault => (t, .error fault)
  | none =>
    let (t', result) := x.exportWith faults entity artifacts t
    (t', if x.isBroken t entity artifacts then .error .nullCharacter else .ok result)

def run (x : Exporter) (entity : String) (artifacts : List Artifact) (t : FileTree) :
    FileTree × Except PlaceFault ExportResult :=
  x.runWith (fun _ => none) entity artifacts t

end Exporter

end Scaffold
