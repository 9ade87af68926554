import Scaffold.Generation

/-!
# Checking documents

Documents can be checked without generating anything. Each file is reported on its own: a file that
is no document with one line, a document with a list of what was found. The outcome of a check is
the worst outcome of its files. A file with an error that stops everything stops the check as well.
-/

namespace Scaffold.CommandLine.Check

/-- The line above and below a report. -/
def ruler : String := String.join (List.replicate 50 "=")

/-- The findings of one level, under a title, with an icon in front of each; nothing without any. -/
def findingLines (title icon : String) (fs : Findings) : List String :=
  if fs.isEmpty then []
  else "" :: ("  " ++ title ++ " (" ++ toString fs.length ++ "):")
    :: fs.map fun f => "    " ++ icon ++ " " ++ f.line

/-- The lines of the report on a document in a file of the given name. -/
def reportLines (file : String) (d : Document) : List String :=
  let fs := d.findings
  ["", ruler, "  Schema Validation Report", ruler,
    "  File:     " ++ file,
    "  Entity:   " ++ d.name,
    "  Fields:   " ++ toString d.schema.size,
    "  Time:     " ++ Report.seconds 0 ++ "s",
    "  Valid:    " ++ if fs.isValid then "Yes" else "No"]
    ++ findingLines "Errors" "✗" fs.errors
    ++ findingLines "Warnings" "⚠" fs.warnings
    ++ (if fs.isEmpty then ["", "  ✅ All validations passed!"] else [])
    ++ [ruler, ""]

/-- What came of checking one file. -/
structure FileCheck where
  outcome : ExitCode
  lines : List String := []
  notices : List Notice := []
  /-- What has stopped the check, if anything has. -/
  stopped : Option Interruption := none

def file (t : FileTree) (p : Place) : FileCheck :=
  match Source.load t p with
  | .error e =>
    { outcome := .input, notices := [.error ("Failed to load schema: " ++ e.message)]
      stopped := Interruption.ofLoad? e }
  | .ok entries =>
    match Document.parse (.map entries) with
    | .error r => { outcome := .validation, lines := ["  ✗ " ++ p.name ++ ": " ++ r.text] }
    | .ok d =>
      { outcome := if d.findings.isValid then .success else .validation
        lines := reportLines p.name d
        notices := d.rejectionNotices }

def outcome (checks : List FileCheck) : ExitCode :=
  (checks.map FileCheck.outcome).foldl ExitCode.worse .success

end Scaffold.CommandLine.Check
