import Scaffold.Export
import Scaffold.Notice

/-!
# Reports

A report says what happened to one document: the steps that were taken, what was wrong and what was
made. `Report.summary` is its text, and `exitCode` the worst outcome of several reports.
-/

namespace Scaffold

/-- One step of a run; times are in milliseconds. -/
structure StepRecord where
  name : String
  success : Bool
  millis : Int := 0
  detail : String := ""
deriving Repr, DecidableEq, Inhabited

/-- What happened to one document. -/
structure Report where
  success : Bool := false
  entity : String := ""
  source : String := ""
  output : String := ""
  dryRun : Bool := false
  millis : Int := 0
  steps : List StepRecord := []
  inputErrors : List String := []
  validationErrors : List String := []
  validationWarnings : List String := []
  generationErrors : List String := []
  exportErrors : List String := []
  artifacts : List Artifact := []
  files : List FileRecord := []
deriving Repr, DecidableEq, Inhabited

namespace Report

/-- Whether nothing was found wrong. -/
def isClean (r : Report) : Bool :=
  -- warnings do not count
  r.inputErrors.isEmpty && r.validationErrors.isEmpty && r.generationErrors.isEmpty
    && r.exportErrors.isEmpty

/-- The number of files, or of artifacts when there are no files. -/
def totalFiles (r : Report) : Nat :=
  if r.files.isEmpty then r.artifacts.length else r.files.length

/-- The number of lines of all artifacts. -/
def totalLines (r : Report) : Nat := (r.artifacts.map Artifact.lineCount).foldr (· + ·) 0

/-! ### Summaries -/

/-- A text repeated. -/
def ruler (mark : String) : String := String.join (List.replicate 60 mark)

/-- Blanks in front of a text up to a width. -/
def padLeft (width : Nat) (s : String) : String :=
  String.ofList (List.replicate (width - s.length) ' ') ++ s

/-- Blanks behind a text up to a width. -/
def padRight (width : Nat) (s : String) : String :=
  s ++ String.ofList (List.replicate (width - s.length) ' ')

/-- Milliseconds as seconds with three places. -/
def seconds (millis : Int) : String :=
  let n := millis.natAbs
  (if millis < 0 then "-" else "") ++ toString (n / 1000) ++ "." ++ Text.padded 3 (n % 1000)

/-- The mark of an outcome. -/
def mark (success : Bool) : String := if success then "✓" else "✗"

def stepLine (s : StepRecord) : String :=
  "    " ++ mark s.success ++ " " ++ padRight 20 s.name ++ " " ++ padLeft 7 (seconds s.millis)
    ++ "s  " ++ s.detail

/-- The lines of a list that has a title, none for an empty list. -/
def listSection (title icon : String) (items : List String) : List String :=
  if items.isEmpty then []
  else ruler "─" :: ("  " ++ title ++ " (" ++ toString items.length ++ "):")
    :: items.map fun item => "    " ++ icon ++ " " ++ item

/-- What a report is about. -/
def subject (r : Report) : String := if r.entity.isEmpty then r.source else r.entity

/-- A line, unless its text is empty. -/
def lineUnlessEmpty (label s : String) : List String := if s.isEmpty then [] else [label ++ s]

def summaryLines (r : Report) : List String :=
  [ruler "=", "  Lux Generator: " ++ r.subject, ruler "=",
    "  Status:           " ++ if r.success then "✅ SUCCESS" else "❌ FAILED"]
    ++ lineUnlessEmpty "  Source:           " r.source
    ++ lineUnlessEmpty "  Output:           " r.output
    ++ ["  Files:            " ++ toString r.totalFiles ++ if r.dryRun then " (dry run)" else "",
    "  Total lines:      " ++ Text.grouped r.totalLines,
    "  Total time:       " ++ seconds r.millis ++ "s"]
    ++ (if r.steps.isEmpty then []
      else ruler "─" :: "  Pipeline Steps:" :: r.steps.map stepLine)
    ++ listSection "Input Errors" "✗" r.inputErrors
    ++ listSection "Validation Errors" "✗" r.validationErrors
    ++ listSection "Validation Warnings" "⚠" r.validationWarnings
    ++ listSection "Generation Errors" "✗" r.generationErrors
    ++ listSection "Export Errors" "✗" r.exportErrors
    ++ [ruler "="]

def summary (r : Report) : String := "\n".intercalate r.summaryLines

end Report

/-! ### Exit codes -/

/-- The outcomes of a run, from the best to the worst. -/
inductive ExitCode where
  | success
  | validation
  | generation
  | export
  | input
deriving Repr, DecidableEq, Inhabited

def ExitCode.number : ExitCode → Nat
  | success => 0
  | validation => 1
  | generation => 2
  | .export => 3
  | input => 4

/-- The worse of two outcomes. -/
def ExitCode.worse (a b : ExitCode) : ExitCode := if a.number < b.number then b else a

/-- The outcome of one document. -/
def Report.exitCode (r : Report) : ExitCode :=
  if r.success then .success
  else if !r.inputErrors.isEmpty then .input
  else if !r.validationErrors.isEmpty then .validation
  -- what is left has failed while its artifacts were assembled
  else if !r.exportErrors.isEmpty then .export
  else .generation

/-- The worst outcome of several documents. -/
def exitCode (reports : List Report) : ExitCode :=
  (reports.map Report.exitCode).foldl ExitCode.worse .success

end Scaffold
