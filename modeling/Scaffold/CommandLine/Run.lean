import Scaffold.CommandLine.Check
import Scaffold.CommandLine.Help

/-!
# Runs of the command line

A run takes the arguments, the directory it is started in and the file tree, and leaves a
`Transcript`: the exit code, what was printed, what was noted, and the tree. Arguments that are
refused, files that are missing and settings that are invalid end a run before any document is
worked on. A run may also be stopped by an error that is not foreseen; then its exit code, its
output and its notices count for nothing.
-/

namespace Scaffold.CommandLine

/-- What a run of the command line leaves behind. -/
structure Transcript where
  exit : Nat
  tree : FileTree
  output : String := ""
  notices : List Notice := []
  /-- Why the arguments were refused. -/
  refusal : Option UsageError := none
  /-- Whether the usage is shown. -/
  showsUsage : Bool := false
  /-- What has stopped the run, if anything has. -/
  stopped : Option Interruption := none

namespace Options

/-- The settings that options give, as entries. -/
def overrides (o : Options) : Entries :=
  let entry (setting : Setting) (v : Value) : Value × Value := (.text setting.name, v)
  let given (setting : Setting) (v : Option Value) : Entries := (v.map (entry setting)).toList
  (if o.frontendOnly then [entry .generateBackend (.bool false)] else [])
    ++ (if o.backendOnly then [entry .generateFrontend (.bool false)] else [])
    ++ given .frontendRoot (o.frontendRoot.map .text)
    ++ given .backendRoot (o.backendRoot.map .text)
    ++ given .adminRole (o.adminRole.map .text)
    ++ given .tokenKey (o.tokenKey.map .text)
    ++ given .maxWorkers (o.workers.map .int)
    ++ (if o.noOverwrite then [entry .overwriteExisting (.bool false)] else [])

/-- Why there are no settings for a run: the first line of a message, and what stops the run. -/
structure SettingsFailure where
  message : String
  stopped : Option Interruption := none

def SettingsFailure.ofLoad (e : Settings.LoadError) : SettingsFailure :=
  { message := e.headline
    stopped := match e with
      | .source e => Interruption.ofLoad? e
      | .invalid _ _ => none }

/-- The settings of a run: those of the settings file, if there is one, changed by the options. -/
def settings (o : Options) (here : Place) (t : FileTree) : Except SettingsFailure Settings :=
  match o.config with
  | some path =>
    if (here.below path).hasNull then .error { message := PlaceFault.nullCharacter.message }
    else (Settings.load t (here.below path).settled o.overrides).mapError SettingsFailure.ofLoad
  | none =>
    (Settings.ofValue (.map o.overrides)).mapError fun m =>
      { message := "Invalid option: " ++ m.headline }

/-- The places of the documents. -/
def schemaPlaces (o : Options) (here : Place) : List Place :=
  o.schemas.map fun path => (here.below path).settled

end Options

/-- A run that ends early, with an error. -/
def failed (t : FileTree) (code : ExitCode) (message : String) : Transcript :=
  { exit := code.number, tree := t, notices := [.error message] }

def check (t : FileTree) (places : List Place) : Transcript :=
  let checks := places.map (Check.file t)
  { exit := (Check.outcome checks).number
    tree := t
    output := Help.ended (checks.flatMap Check.FileCheck.lines)
    notices := checks.flatMap Check.FileCheck.notices
    stopped := checks.findSome? Check.FileCheck.stopped }

/-- Generates the modules of the documents. -/
def generate (o : Options) (s : Settings) (output : Place) (t : FileTree) (places : List Place) :
    Transcript :=
  let g : Generator :=
    { settings := s, output := output, dryRun := o.dryRun, failOnWarnings := o.failOnWarnings }
  let after := g.batch t places
  let code := exitCode after.result
  { exit := code.number
    tree := after.tree
    output := Help.ended (after.result.map Report.summary)
    notices := after.notices ++ (match code with
      | .success => []
      | code => [.error ("Generation failed with exit code " ++ toString code.number ++ ".")])
    stopped := after.stopped }

/-- A run that is stopped because a place that the options name is none. -/
def stoppedAt (t : FileTree) (fault : PlaceFault) : Transcript :=
  { failed t .input fault.message with stopped := some (.place fault) }

def runOptions (here : Place) (o : Options) (t : FileTree) : Transcript :=
  let places := o.schemaPlaces here
  if o.schemas.any fun path => (here.below path).hasNull then stoppedAt t .nullCharacter
  -- all files are looked for before any of them is read
  else match places.find? fun p => !t.isFile p with
  | some p =>
    if t.isUnreachable p then stoppedAt t (.tooLong p)
    else failed t .input ("Schema file not found: " ++ p.text)
  | none =>
    if o.validateOnly then check t places
    else match o.output with
      | none =>
        { failed t .input
            ("Output directory is required for generation. "
              ++ "Use -o/--output or --validate-only.") with
          showsUsage := true }
      | some path =>
        -- the settings come last, so that a check never reads them
        match o.settings here t with
        | .error e =>
          { failed t .input ("Invalid configuration: " ++ e.message) with stopped := e.stopped }
        | .ok s =>
          if (here.below path).hasNull then stoppedAt t .nullCharacter
          else generate o s (here.below path).settled t places

/-- The exit code for arguments that are refused. -/
def refusedExit : Nat := 2

/-- A run with the given arguments, started in a directory. -/
def run (here : Place) (arguments : List String) (t : FileTree) : Transcript :=
  match Options.parse arguments with
  | .error (.usage e) =>
    { exit := refusedExit, tree := t, refusal := some e, showsUsage := true }
  | .error .help => { exit := 0, tree := t, output := Help.text }
  | .error .version => { exit := 0, tree := t, output := Help.version }
  | .ok o =>
    let r := runOptions here o t
    { r with notices := Notice.told o.quiet r.notices }

end Scaffold.CommandLine
