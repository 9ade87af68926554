import Scaffold.Shape.Coerce
import Scaffold.Shape.Record
import Scaffold.Text.Lines

/-!
# Artifacts

An artifact is one generated file: the side of the project that it belongs to, its path below the
module of its entity, and its content. Artifacts are values; only an export makes files of them.
-/

namespace Scaffold

/-- The sides of a project, each with a root of its own. -/
inductive Side where
  | frontend
  | backend
deriving Repr, DecidableEq, Inhabited

def Side.word : Side → String
  | .frontend => "frontend"
  | .backend => "backend"

def Side.words : List (String × Side) :=
  [("frontend", .frontend), ("backend", .backend)]

/-- One generated file. -/
structure Artifact where
  side : Side
  /-- The path below the module of the entity. -/
  path : String
  content : String
deriving Repr, DecidableEq, Inhabited

namespace Artifact

open Shape

/-- The number of lines of the content. -/
def lineCount (a : Artifact) : Nat := Text.countLines a.content

/-- The side and the path. -/
def address (a : Artifact) : String := a.side.word ++ ":" ++ a.path

/-- A short text for logs. -/
def summary (a : Artifact) : String :=
  "<GeneratedArtifact " ++ a.address ++ " (" ++ toString a.content.length ++ " chars)>"

def recordName : String := "GeneratedArtifact"

def read (entries : Entries) : Checked Artifact :=
  (fun side path content _ => ⟨side, path, content⟩)
    <$> (Slot.plain "root").required entries (fun v => .ofExcept (choice Side.words v))
    <*> (Slot.plain "path").required entries (fun v => .ofExcept (text v))
    <*> (Slot.plain "content").required entries (fun v => .ofExcept (text v))
    <*> noExtras [.plain "root", .plain "path", .plain "content"] entries

def ofValue (v : Value) : Except Mismatch Artifact :=
  (record recordName read v).named recordName

end Artifact

end Scaffold
