import Scaffold.FileTree

/-!
# Writing a file step by step

A `Writer` puts a file at a place by one call to the file system after another, and others may work
on the tree between its calls. Its `Stage` says how far it has come. A writer that is left to itself
does what `FileTree.write` does.
-/

namespace Scaffold

namespace Writer

/-- How far a writer has come. -/
inductive Stage where
  /-- A directory is to be made, and those above it as far as they are missing. Its names are given
  from the last one to the first; those `below` lead on to the directory of the file. -/
  | climbing (names below : List String)
  /-- One directory is there; those `below` are to be made. -/
  | descending (here : Place) (below : List String)
  /-- The temporary file is to be made. -/
  | opening
  /-- The temporary file is to be filled. -/
  | filling (temporary : Place)
  /-- The temporary file is to be renamed. -/
  | placing (temporary : Place)
  /-- Renaming has failed; the temporary file is to be taken away. -/
  | discarding (temporary : Place) (error : FileError)
  /-- The file is written, or the error says why it is not. -/
  | ended (error : Option FileError)
deriving Repr, DecidableEq

end Writer

/-- The writing of one file. -/
structure Writer where
  target : Place
  content : ByteArray
  stage : Writer.Stage

namespace Writer

/-- A writer that has not begun. -/
def start (target : Place) (content : ByteArray) : Writer :=
  ⟨target, content, .climbing target.parent.reverse []⟩

/-- What came of a writer that is done. -/
def ended? (w : Writer) : Option (Option FileError) :=
  match w.stage with
  | .ended error => some error
  | _ => none

/-- Makes the temporary file. -/
def openTemporary (t : FileTree) (target : Place) : FileTree × Stage :=
  match t.walk target.parent with
  | .error e => (t, .ended (some e))
  | .ok dir =>
    if target.isEmpty then (t, .ended (some .isDirectory))
    else match t.freshPlace dir target.name with
      | .error e => (t, .ended (some e))
      | .ok temporary => (t.put temporary (.file .empty), .filling temporary)

/-- One call to the file system, and the stage behind it. -/
def step (t : FileTree) (w : Writer) : FileTree × Stage :=
  match w.stage with
  | .climbing [] below => (t, .descending [] below)
  | .climbing (name :: above) below =>
    match t.ensureDirectory none (name :: above).reverse with
    | .ok t' => (t', .descending (name :: above).reverse below)
    | .error .notFound => (t, .climbing above (name :: below))
    | .error e => (t, .ended (some e))
  | .descending _ [] => (t, .opening)
  | .descending here (name :: below) =>
    match t.ensureDirectory none (here ++ [name]) with
    | .ok t' => (t', .descending (here ++ [name]) below)
    | .error e => (t, .ended (some e))
  | .opening => openTemporary t w.target
  | .filling temporary => (t.put temporary (.file w.content), .placing temporary)
  | .placing temporary =>
    match t.walk w.target.parent with
    | .error e => (t, .discarding temporary e)
    | .ok dir =>
      match t.renameTo none temporary dir w.target.name w.content with
      | .ok t' => (t', .ended none)
      | .error e => (t, .discarding temporary e)
  | .discarding temporary e => (t.erase temporary, .ended (some e))
  | .ended error => (t, .ended error)

end Writer

end Scaffold
