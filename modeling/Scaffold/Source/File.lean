import Scaffold.FileTree
import Scaffold.Settings
import Scaffold.Source.Json
import Scaffold.Source.Yaml.Value
import Scaffold.Text.Lines

/-!
# Source files

Documents and settings are read from files that hold a map, in JSON or in YAML. The extension of a
file's name tells which; with another extension JSON is tried first, and YAML when the text is not a
map in JSON.

A map with half a character in it is `torn`: no text holds it, and what becomes of it is left open.
-/

namespace Scaffold.Source

/-- The formats of source files. -/
inductive Format where
  | json
  | yaml
deriving Repr, DecidableEq

/-- What a file of a format must hold. -/
def Format.expected : Format → String
  | .json => "a JSON object"
  | .yaml => "a YAML mapping"

/-- The extension of a name: the part from the last point on, if there is something on both sides of
that point. -/
def extension (name : String) : String :=
  let reversed := name.toList.reverse
  let letters := reversed.takeWhile (· != '.')
  match reversed.drop letters.length with
  | _ :: _ :: _ => if letters.isEmpty then "" else "." ++ String.ofList letters.reverse
  | _ => ""

/-- The format that the name of a file tells, if it tells any. -/
def format? (name : String) : Option Format :=
  let e := String.ofList ((extension name).toList.map Char.toLower)
  if e = ".yaml" || e = ".yml" then some .yaml
  else if e = ".json" then some .json
  else none

/-- Why a file cannot be read as a map. -/
inductive LoadError where
  /-- The system refuses to look at the place. -/
  | unreachable (place : Place)
  | missing (place : Place)
  | notFile (place : Place)
  | encoding (error : Text.Utf8.DecodeError)
  | json (place : Place) (error : Json.ReadError)
  | yaml (place : Place) (error : Yaml.ReadError)
  /-- The text is not a map, but of another kind of data. -/
  | notMap (format : Format) (kind : String)
  /-- The text is a map, but an escape in it spells half a character. -/
  | torn
deriving Repr, DecidableEq

def LoadError.message : LoadError → String
  | unreachable p => (PlaceFault.tooLong p).message
  | missing p => "Schema file not found: " ++ p.text
  | notFile p => "Schema path is not a file: " ++ p.text
  | encoding e => e.message
  | json p (.malformed fault line column position) =>
    "Invalid JSON in " ++ p.text ++ ": "
      ++ (Json.ReadError.malformed fault line column position).message
  | json _ e => e.message
  | yaml p .invalid => Yaml.ReadError.invalid.message ++ " in " ++ p.text
  | yaml _ e => e.message
  | notMap format kind => "Expected " ++ format.expected ++ " at top level, got " ++ kind ++ "."
  | torn => Text.halfMessage

/-- Whether an error stops whatever the file is read for, and is not a matter of this file only. -/
def LoadError.isFatal : LoadError → Bool
  | unreachable _ => true
  | json _ e => e.isFatal
  | yaml _ e => e.isFatal
  | torn => true
  | _ => false

/-- The entries of a value that must be a map. -/
def entriesOf (format : Format) (v : Value) : Except LoadError Entries :=
  match v.opened with
  | .map entries => .ok entries
  | v => .error (.notMap format v.kindName)

/-- Reads a text as a value. -/
def readValue (format : Format) (place : Place) (cs : List Char) : Except LoadError Value :=
  match format with
  | .json => (Json.read cs).mapError (.json place)
  | .yaml => (Yaml.read cs).mapError (.yaml place)

/-- Whether a text that is read has half a character in it. -/
def isTorn (format : Format) (cs : List Char) : Bool :=
  match format with
  | .json => Json.spellsHalf cs
  | .yaml => Yaml.spellsHalf cs

/-- Reads a text as a map. -/
def readAs (format : Format) (place : Place) (cs : List Char) : Except LoadError Entries := do
  let entries ← entriesOf format (← readValue format place cs)
  if isTorn format cs then throw .torn else return entries

def readText (place : Place) (cs : List Char) : Except LoadError Entries :=
  match format? place.name with
  | some format => readAs format place cs
  | none =>
    match readAs .json place cs with
    | .ok entries => .ok entries
    | .error e => if e.isFatal then .error e else readAs .yaml place cs

def readContent (place : Place) (content : ByteArray) : Except LoadError Entries :=
  match Text.Utf8.decode content with
  | .error e => .error (.encoding e)
  | .ok cs => readText place (Text.unifyBreaks cs)

def load (t : FileTree) (place : Place) : Except LoadError Entries :=
  match t.find place with
  | .error .refused => .error (.unreachable place)
  | .error _ => .error (.missing place)
  | .ok .directory => .error (.notFile place)
  | .ok (.file content) => readContent place content

end Scaffold.Source

namespace Scaffold.Settings

/-- Why settings cannot be read from a file. -/
inductive LoadError where
  | source (error : Source.LoadError)
  | invalid (place : Place) (mismatch : Shape.Mismatch)
deriving Repr, DecidableEq

/-- The first line of the message for an error. -/
def LoadError.headline : LoadError → String
  | source e => e.message
  | invalid p m => "Config validation failed for " ++ p.text ++ ": " ++ m.headline

/-- Reads the settings at a place; entries that are given besides win over those of the file. -/
def load (t : FileTree) (place : Place) (overrides : Entries) : Except LoadError Settings :=
  match Source.load t place with
  | .error e => .error (.source e)
  | .ok entries => (Settings.ofValue (.map (entries.putAll overrides))).mapError (.invalid place)

end Scaffold.Settings
