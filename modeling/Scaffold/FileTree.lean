import Std.Data.ExtTreeMap
import Scaffold.RelativePath
import Scaffold.Text.Numeral
import Scaffold.Text.Quoted

/-!
# File trees

A file tree is a tree of files and directories; files are byte strings. A `Place` is the list of the
names on the way from the root; two dots on the way lead back to the directory above.

`FileTree.write` puts a file at a place in three steps: it makes the missing directories, puts the
bytes under a fresh temporary name beside the place, and renames that file. Each step can fail, by
what is in the tree or by a `Fault` from outside; a failed write leaves no temporary file behind,
and the old file where it was.
-/

namespace Scaffold

/-- The names on the way from the root of a tree. -/
abbrev Place := List String

namespace Place

def text (p : Place) : String := "/" ++ "/".intercalate p

def name (p : Place) : String := p.getLastD ""

/-- The place above. -/
def parent (p : Place) : Place := p.dropLast

/-- The place that a written path leads to from a directory. -/
def below (p : Place) (path : String) : Place :=
  if path.startsWith "/" then RelativePath.namesOf path else p ++ RelativePath.namesOf path

/-- The place without two dots in it: each of them drops the name in front of it. -/
def settled (p : Place) : Place :=
  p.foldl (fun acc name => if name = ".." then acc.dropLast else acc ++ [name]) []

/-- Whether a name on the way has a null character in it. Nothing can be at such a place. -/
def hasNull (p : Place) : Bool := p.any (·.contains '\x00')

end Place

/-- What is wrong with a place by itself, whatever is in a tree. -/
inductive PlaceFault where
  /-- The place or a name on the way is too long for the system. -/
  | tooLong (place : Place)
  /-- A name on the way has a null character in it. -/
  | nullCharacter
deriving Repr, DecidableEq

def PlaceFault.message : PlaceFault → String
  | .tooLong p => "[Errno 36] File name too long: " ++ Text.quoted p.text
  | .nullCharacter => "embedded null byte"

/-- What is at a place. -/
inductive Entry where
  | file (content : ByteArray)
  | directory

/-- Files are compared by their bytes. -/
instance : DecidableEq Entry
  | .file a, .file b =>
    match ByteArray.instDecidableEq a b with
    | isTrue h => isTrue (h ▸ rfl)
    | isFalse h => isFalse fun e => h (Entry.file.inj e)
  | .file _, .directory => isFalse nofun
  | .directory, .file _ => isFalse nofun
  | .directory, .directory => isTrue rfl

/-- Why a step on a file tree fails. -/
inductive FileError where
  | notFound
  | exists
  | notDirectory
  | isDirectory
  /-- The system refuses for another reason, such as a name that is too long. -/
  | refused
  /-- A name has a null character in it. -/
  | nullCharacter
deriving Repr, DecidableEq, Inhabited

def FileError.word : FileError → String
  | .notFound => "FileNotFoundError"
  | .exists => "FileExistsError"
  | .notDirectory => "NotADirectoryError"
  | .isDirectory => "IsADirectoryError"
  | .refused => "OSError"
  | .nullCharacter => "ValueError"

/-- A failure of one step of a write that the tree does not explain. -/
inductive Fault where
  /-- The directory with so many names on its place cannot be made. -/
  | directory (depth : Nat) (error : FileError)
  /-- The temporary file cannot be made. -/
  | temporary (error : FileError)
  /-- Only so many bytes get into the temporary file. -/
  | filling (bytes : Nat) (error : FileError)
  /-- The temporary file cannot be renamed. -/
  | rename (error : FileError)
deriving Repr, DecidableEq

/-- What is in a file system. The root is always a directory, and is not listed. -/
structure FileTree where
  entries : Std.ExtTreeMap Place Entry compare
deriving DecidableEq

namespace FileTree

/-- The tree with nothing in it. -/
def empty : FileTree := ⟨∅⟩

instance : Inhabited FileTree := ⟨empty⟩

/-- What is at a place without two dots in it. -/
def entry? (t : FileTree) (p : Place) : Option Entry :=
  if p.isEmpty then some .directory else t.entries[p]?

def put (t : FileTree) (p : Place) (e : Entry) : FileTree := ⟨t.entries.insert p e⟩

/-- Takes away what is at a place. -/
def erase (t : FileTree) (p : Place) : FileTree := ⟨t.entries.erase p⟩

/-- The most bytes that a name may have. -/
def maxNameBytes : Nat := 255

/-- Whether a name is too long for the system. -/
def isTooLong (name : String) : Bool := maxNameBytes < name.utf8ByteSize

/-- The most bytes that a place may have as a text. -/
def maxPlaceBytes : Nat := 4095

/-- Whether a place is too long for the system. -/
def isTooLongPlace (p : Place) : Bool := maxPlaceBytes < p.text.utf8ByteSize

/-- Walks through directories from one of them. -/
def walkFrom (t : FileTree) (here : Place) : List String → Except FileError Place
  | [] => .ok here
  | name :: rest =>
    if name = ".." then t.walkFrom here.dropLast rest
    else if isTooLong name then .error .refused
    else match t.entry? (here ++ [name]) with
      | some .directory => t.walkFrom (here ++ [name]) rest
      | some (.file _) => .error .notDirectory
      | none => .error .notFound

/-- The directory that a place leads to, with two dots followed. -/
def walk (t : FileTree) (p : Place) : Except FileError Place := t.walkFrom [] p

/-- What a place leads to. -/
def find (t : FileTree) (p : Place) : Except FileError Entry :=
  if p.hasNull then .error .nullCharacter
  -- the length of the whole place is looked at before any name on the way
  else if isTooLongPlace p then .error .refused
  else match t.walk p.parent with
  | .error e => .error e
  | .ok dir =>
    if p.isEmpty || p.name = ".." then .ok .directory
    else if isTooLong p.name then .error .refused
    else match t.entry? (dir ++ [p.name]) with
      | some e => .ok e
      | none => .error .notFound

/-- What a place leads to, if anything. -/
def stat? (t : FileTree) (p : Place) : Option Entry := (t.find p).toOption

/-- Whether the system refuses to look at a place. -/
def isUnreachable (t : FileTree) (p : Place) : Bool :=
  match t.find p with
  | .error .refused => true
  | _ => false

/-- Whether a place leads to anything. -/
def contains (t : FileTree) (p : Place) : Bool := (t.stat? p).isSome

/-- The content of the file that a place leads to. -/
def read? (t : FileTree) (p : Place) : Option ByteArray :=
  match t.stat? p with
  | some (.file content) => some content
  | _ => none

def isFile (t : FileTree) (p : Place) : Bool := (t.read? p).isSome

/-! ### Writing -/

/-- Makes one directory in a directory that exists. -/
def makeDirectory (fault : Option Fault) (t : FileTree) (p : Place) : Except FileError FileTree :=
  if p.hasNull then .error .nullCharacter
  else if isTooLongPlace p then .error .refused
  else match t.walk p.parent with
  | .error e => .error e
  | .ok dir =>
    -- the root and the way back are directories already
    if p.isEmpty || p.name = ".." then .error .exists
    else if isTooLong p.name then .error .refused
    else match t.entry? (dir ++ [p.name]) with
      | some _ => .error .exists
      | none =>
        match fault with
        | some (.directory depth e) =>
          if depth = p.length then .error e else .ok (t.put (dir ++ [p.name]) .directory)
        | _ => .ok (t.put (dir ++ [p.name]) .directory)

/-- Makes one directory, or finds it there. -/
def ensureDirectory (fault : Option Fault) (t : FileTree) (p : Place) : Except FileError FileTree :=
  match makeDirectory fault t p with
  | .ok t' => .ok t'
  | .error e => if t.stat? p = some .directory then .ok t else .error e

/-- Makes a directory and those above it that are missing; the names are given from the last one to
the first. What was made before a failure stays. -/
def makeUp (fault : Option Fault) (t : FileTree) : List String → FileTree × Option FileError
  | [] => (t, none)
  | name :: above =>
    let p := (name :: above).reverse
    match ensureDirectory fault t p with
    | .ok t' => (t', none)
    -- what is above is missing: it is made first, and then this one is tried again
    | .error .notFound =>
      match makeUp fault t above with
      | (t', some e) => (t', some e)
      | (t', none) =>
        match ensureDirectory fault t' p with
        | .ok t'' => (t'', none)
        | .error e => (t', some e)
    | .error e => (t, some e)

/-- Makes a directory and those above it that are missing. -/
def makeDirectories (fault : Option Fault) (t : FileTree) (p : Place) :
    FileTree × Option FileError :=
  makeUp fault t p.reverse

def temporaryName (name : String) (k : Nat) : String :=
  "." ++ name ++ "." ++ Text.padded 8 k ++ ".tmp"

/-- The number of names that are tried for a temporary file: more than there are entries. -/
def temporaryTries (t : FileTree) : Nat := t.entries.size + 1

/-- The first unused place for a temporary file, of those from the `k`-th on. -/
def freshFrom (t : FileTree) (dir : Place) (name : String) (k : Nat) : Nat → Option Place
  | 0 => none
  | tries + 1 =>
    let p := dir ++ [temporaryName name k]
    if (t.entry? p).isNone then some p else t.freshFrom dir name (k + 1) tries

/-- The unused place for a temporary file in a directory. -/
def freshPlace (t : FileTree) (dir : Place) (name : String) : Except FileError Place :=
  if name.contains '\x00' then .error .nullCharacter
  -- the first name that would be tried stands for all of them
  else if isTooLong (temporaryName name 0) then .error .refused
  else if isTooLongPlace (dir ++ [temporaryName name 0]) then .error .refused
  else match t.freshFrom dir name 0 t.temporaryTries with
    | some p => .ok p
    | none => .error .exists

/-- Renames the temporary file with the given content to the place of a file in a directory. -/
def renameTo (fault : Option Fault) (t : FileTree) (temporary dir : Place) (name : String)
    (content : ByteArray) : Except FileError FileTree :=
  match fault with
  | some (.rename e) => .error e
  | _ =>
    if name = ".." then .error .refused
    else if t.entry? (dir ++ [name]) = some .directory then .error .isDirectory
    else .ok ((t.erase temporary).put (dir ++ [name]) (.file content))

/-- Puts the bytes into a temporary file. -/
def fillTemporary (fault : Option Fault) (t : FileTree) (temporary : Place) (content : ByteArray) :
    FileTree × Option FileError :=
  match fault with
  | some (.filling bytes e) => (t.put temporary (.file (content.extract 0 bytes)), some e)
  | _ => (t.put temporary (.file content), none)

/-- Puts the bytes under a temporary name in a directory, and renames that file. -/
def replaceFile (fault : Option Fault) (t : FileTree) (dir : Place) (name : String)
    (content : ByteArray) : FileTree × Option FileError :=
  match fault with
  | some (.temporary e) => (t, some e)
  | _ =>
    match t.freshPlace dir name with
    | .error e => (t, some e)
    | .ok temporary =>
      match fillTemporary fault t temporary content with
      -- what got into the temporary file goes with it
      | (t', some e) => (t'.erase temporary, some e)
      | (t', none) =>
        match renameTo fault t' temporary dir name content with
        | .ok t'' => (t'', none)
        | .error e => (t'.erase temporary, some e)

/-- Writes a file. What was made before a failure stays, but for the temporary file. -/
def write (fault : Option Fault) (t : FileTree) (p : Place) (content : ByteArray) :
    FileTree × Option FileError :=
  match makeDirectories fault t p.parent with
  | (t', some e) => (t', some e)
  | (t', none) =>
    match t'.walk p.parent with
    | .error e => (t', some e)
    | .ok dir =>
      if p.isEmpty then (t', some .isDirectory) else replaceFile fault t' dir p.name content

/-! ### Listing -/

/-- One line of a listing: the path, and the content of a file or nothing for a directory. -/
abbrev Listed := String × Option ByteArray

/-- What a listing says of an entry: a file by its path and content, a directory by its path and a
slash when nothing is in it. -/
def listed? (t : FileTree) (top : Place) (e : Place × Entry) : Option Listed :=
  let path := "/".intercalate (e.1.drop top.length)
  if e.1.length ≤ top.length || !top.isPrefixOf e.1 then none
  else match e.2 with
    | .file content => some (path, some content)
    | .directory =>
      -- a directory with something in it shows in the paths of that
      if t.entries.any fun q _ => e.1.isPrefixOf q && e.1 != q then none
      else some (path ++ "/", none)

/-- The files and the empty directories below a place, in the order of their paths. -/
def listing (t : FileTree) (top : Place) : List Listed :=
  (t.entries.toList.filterMap (t.listed? top)).mergeSort fun a b => !decide (b.1 < a.1)

end FileTree

end Scaffold
