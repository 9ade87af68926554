import Scaffold.CommandLine.Options

/-!
# Help

The texts in which the command line describes itself: its usage in a few lines, the help that lists
every option, and its version.
-/

namespace Scaffold.CommandLine

/-- The groups of options in the help. -/
inductive FlagGroup where
  | general
  | mode
  | settings
  | behaviour
  | verbosity
deriving Repr, DecidableEq

namespace FlagGroup

def all : List FlagGroup := [general, mode, settings, behaviour, verbosity]

def title : FlagGroup → String
  | general => "options"
  | mode => "operation modes"
  | settings => "configuration overrides"
  | behaviour => "behaviour flags"
  | verbosity => "verbosity"

end FlagGroup

namespace Flag

def group : Flag → FlagGroup
  | help | version | schema | output | config => .general
  | validateOnly | dryRun | frontendOnly | backendOnly => .mode
  | frontendRoot | backendRoot | adminRole | tokenKey | workers => .settings
  | noOverwrite | failOnWarnings => .behaviour
  | verbose | quiet => .verbosity

/-- What an option does. -/
def description : Flag → String
  | help => "show this help message and exit"
  | version => "show program's version number and exit"
  | schema => "Schema document (JSON or YAML). Repeat for several entities."
  | output => "Project root to write into. Required unless --validate-only is set."
  | config => "Generation settings file (JSON or YAML). Flags below override it."
  | validateOnly => "Only validate the schema documents."
  | dryRun => "Run the whole pipeline but write nothing."
  | frontendOnly => "Emit only the dashboard module."
  | backendOnly => "Emit only the API module."
  | frontendRoot => "Directory holding dashboard modules (relative to --output)."
  | backendRoot => "Directory holding API modules (relative to --output)."
  | adminRole => "Role required by the mutating routes."
  | tokenKey => "localStorage key the client reads the bearer token from."
  | workers => "Thread pool size for batch generation and file writes."
  | noOverwrite => "Refuse to touch module directories that already exist."
  | failOnWarnings => "Treat validation warnings as errors."
  | verbose => "Increase verbosity (-v for INFO, -vv for DEBUG)."
  | quiet => "Suppress all output except errors."

def withValue (f : Flag) (spelling : String) : String :=
  match f.valueWord? with
  | some word => spelling ++ " " ++ word
  | none => spelling

/-- All spellings in front of a description. -/
def invocation (f : Flag) : String := ", ".intercalate (f.spellings.map f.withValue)

end Flag

namespace Help

/-- Puts words on lines of a width; the words of the line being filled are given in reverse. -/
def fill (width : Nat) (line : List String) : List String → List String
  | [] => if line.isEmpty then [] else [" ".intercalate line.reverse]
  | w :: rest =>
    let filled := " ".intercalate (w :: line).reverse
    if !line.isEmpty && width < filled.length then
      " ".intercalate line.reverse :: fill width [w] rest
    else fill width (w :: line) rest

def descriptionColumn : Nat := 24

def descriptionWidth : Nat := 54

def flagLines (f : Flag) : List String :=
  let indented (s : String) : String := String.ofList (List.replicate descriptionColumn ' ') ++ s
  let lead := "  " ++ f.invocation
  let lines := fill descriptionWidth [] ((f.description.split ' ').toList.map (·.toString))
  match lines with
  | first :: rest =>
    if lead.length + 2 ≤ descriptionColumn then
      (lead ++ String.ofList (List.replicate (descriptionColumn - lead.length) ' ') ++ first)
        :: rest.map indented
    else lead :: lines.map indented
  | [] => [lead]

def groupLines (g : FlagGroup) : List String :=
  "" :: (g.title ++ ":") :: (Flag.all.filter (·.group = g)).flatMap flagLines

def usageLines : List String :=
  ["usage: luxgen [-h] [--version] -s PATH [-o DIR] [--config PATH]",
    "              [--validate-only] [--dry-run] [--frontend-only | --backend-only]",
    "              [--frontend-root DIR] [--backend-root DIR] [--admin-role ROLE]",
    "              [--token-key KEY] [--workers N] [--no-overwrite]",
    "              [--fail-on-warnings] [-v] [-q]"]

/-- What the program does. -/
def purposeLines : List String :=
  ["", "Lux Generator: CRUD module scaffolding.", "",
    "Turns an entity schema (JSON/YAML) into a Vue dashboard module and an Express + mongoose API "
      ++ "module."]

/-- How the program is called. -/
def exampleLines : List String :=
  ["", "Examples:", "  luxgen -s book.json -o .",
    "  luxgen -s book.json -s author.yaml -o ./project --workers 4",
    "  luxgen -s book.json --validate-only"]

/-- Lines with a line end behind each of them. -/
def ended (lines : List String) : String := String.join (lines.map (· ++ "\n"))

def usage : String := ended usageLines

def text : String :=
  ended (usageLines ++ purposeLines ++ FlagGroup.all.flatMap groupLines ++ exampleLines)

def version : String := "Lux Generator v1.0.0\n"

/-- The line for arguments that are refused. -/
def usageError (e : UsageError) : String := "luxgen: error: " ++ e.message

end Help

end Scaffold.CommandLine
