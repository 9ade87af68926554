import Scaffold.CommandLine.Run

/-!
# The program

The program looks at the files that its arguments name, runs on a tree with what it saw, and carries
out the changes to that tree. A first run, on the input files alone, shows which places matter;
these are looked at, and a second run on what is there decides.
-/

namespace Scaffold.Program

open CommandLine

/-- The places on the way to a place, and the place itself. -/
def way (p : Place) : List Place := (List.range p.length).map fun n => p.take (n + 1)

def look (p : Place) : IO (Option Entry) := do
  let there ← (do discard (IO.FS.realPath p.text); return true) <|> return false
  if !there then return none
  (do return some (.file (← IO.FS.readBinFile p.text))) <|> return some .directory

/-- A tree with what is at some places and on the way to them. -/
def observe (t : FileTree) (places : List Place) : IO FileTree :=
  (places.flatMap way).foldlM (fun t p => do
    match ← look p with
    | some e => return t.put p e
    | none => return t) t

def inputPlaces (o : CommandLine.Options) (here : Place) : List Place :=
  o.schemaPlaces here ++ (o.config.map fun path => (here.below path).settled).toList

/-- The entries of a tree that another tree has not. -/
def changes (before after : FileTree) : List (Place × Entry) :=
  after.entries.toList.filter fun e => before.entry? e.1 ≠ some e.2

/-- Makes a change to the file system; a file is put in its place by renaming. -/
def carryOut (change : Place × Entry) : IO Unit := do
  let (p, entry) := change
  match entry with
  | .directory => IO.FS.createDirAll p.text
  | .file content =>
    let temporary := p.parent ++ [FileTree.temporaryName p.name 0]
    IO.FS.writeBinFile temporary.text content
    IO.FS.rename temporary.text p.text

/-- The exit code of a run that is stopped. -/
def stoppedExit : Nat := 1

/-- Tells what a run has to say. -/
def tell (r : Transcript) : IO Unit := do
  if let some e := r.stopped then
    IO.eprintln e.message
    return
  IO.print r.output
  for n in r.notices do
    IO.eprintln (Report.padRight 8 n.severity.name ++ " │ " ++ n.message)
  if r.showsUsage then IO.eprint Help.usage
  for e in r.refusal.toList do
    IO.eprintln (Help.usageError e)

def run (arguments : List String) : IO UInt32 := do
  let here := RelativePath.namesOf (← IO.currentDir).toString
  let inputs := match CommandLine.Options.parse arguments with
    | .ok o => inputPlaces o here
    | .error _ => []
  let seen ← observe .empty (here :: inputs)
  let touched := (changes seen (CommandLine.run here arguments seen).tree).map (·.1)
  let seen ← observe seen touched
  let r := CommandLine.run here arguments seen
  tell r
  try
    (changes seen r.tree).forM carryOut
    return (if r.stopped.isSome then stoppedExit else r.exit).toUInt32
  catch e =>
    IO.eprintln (toString e)
    return (max r.exit ExitCode.export.number).toUInt32

end Scaffold.Program

/-- The entry point. -/
def main (arguments : List String) : IO UInt32 := Scaffold.Program.run arguments
