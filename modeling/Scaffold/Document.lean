import Scaffold.Identifier
import Scaffold.Keyed
import Scaffold.Names
import Scaffold.Rejection
import Scaffold.UiHint

/-!
# Documents

A document describes one entity: its name, names that override the derived ones, a type descriptor
for each field and a presentation for each field. The order of the schema and the order of the
presentations both matter and are kept.

`Document.read` checks the shape of a map; `Document.parse` turns what is wrong into a rejection.
-/

namespace Scaffold

/-- The description of one entity. -/
structure Document where
  version : Option String
  name : String
  overrides : NameOverrides
  /-- The type descriptor of each field. -/
  schema : Keyed String
  /-- The presentation of each field that has one. -/
  ui : Keyed UiHint
deriving DecidableEq, Inhabited

namespace Document

open Shape

/-- Reads a version: any value stands for its text. -/
def readVersion : Value → Checked (Option String)
  | .null => .ok none
  | v =>
    match v.shown? with
    | some s => .ok (some s)
    | none => .fault (.refused Text.overlongMessage)

def readName (v : Value) : Except Cause String :=
  match text v with
  | .error cause => .error cause
  | .ok s => if Identifier.isExactEntityName s then .ok s
    else .error (.pattern Identifier.entityPattern)

/-- Reads one entry of a map with texts as keys. -/
def readEntry {α : Type} (check : Value → Checked α) (entry : Value × Value) :
    Checked (String × α) :=
  Prod.mk <$> ((Checked.ofExcept (text entry.1)).under (.key "[key]")).under (.ofKey entry.1)
    <*> (check entry.2).under (.ofKey entry.1)

/-- Reads the entries of a map with texts as keys. -/
def readEntries {α : Type} (check : Value → Checked α) :
    List (Value × Value) → Checked (List (String × α))
  | [] => .ok []
  | e :: rest => (· :: ·) <$> readEntry check e <*> readEntries check rest

def readMap {α : Type} (check : Value → Checked α) (v : Value) : Checked (Keyed α) :=
  match v.opened with
  | .map entries => Keyed.ofList <$> readEntries check entries
  | _ => .fault .notMap

/-- Reads the type descriptors; there must be at least one. -/
def readSchema (v : Value) : Checked (Keyed String) :=
  match readMap (fun d => .ofExcept (text d)) v with
  | .ok schema =>
    if schema.entries.isEmpty then .fault (.refused "'schema' must declare at least one field.")
    else .ok schema
  | checked => checked

/-- The entries of a document. -/
def slots : List Slot :=
  [.plain "version", .plain "name", ⟨"Name", "capitalized"⟩, ⟨"namePlural", "name_plural"⟩,
    ⟨"NamePlural", "capitalized_plural"⟩, .plain "path", ⟨"schema", "field_types"⟩, .plain "ui"]

/-- Reads an entry that is a text or nothing. -/
def readText (s : Slot) (entries : Entries) : Checked (Option String) :=
  s.optional entries none (fun v => .ofExcept (textOrNull v))

/-- Puts the entries of a document together. -/
def assemble (version : Option String) (name : String)
    (capitalized plural capitalizedPlural path : Option String)
    (schema : Keyed String) (ui : Keyed UiHint) (_ : Unit) : Document :=
  ⟨version, name, ⟨capitalized, plural, capitalizedPlural, path⟩, schema, ui⟩

def read (entries : Entries) : Checked Document :=
  assemble
    <$> (Slot.plain "version").optional entries none readVersion
    <*> (Slot.plain "name").required entries (fun v => .ofExcept (readName v))
    <*> readText ⟨"Name", "capitalized"⟩ entries
    <*> readText ⟨"namePlural", "name_plural"⟩ entries
    <*> readText ⟨"NamePlural", "capitalized_plural"⟩ entries
    <*> readText (.plain "path") entries
    <*> Slot.required ⟨"schema", "field_types"⟩ entries readSchema
    <*> (Slot.plain "ui").required entries (readMap UiHint.check)
    <*> noExtras slots entries

/-- The name that a value gives to its entity, if it is a text. -/
def givenName? (entries : Entries) : Option String :=
  match entries.get? "name" with
  | some (.text s) => some s
  | _ => none

def problemText (p : Problem) : String :=
  let place := ".".intercalate (p.place.map Step.text)
  (if place.isEmpty then "<root>" else place) ++ ": " ++ p.cause.message

/-- The rejection of a value that does not have the shape of a document. -/
def malformed (name : Option String) (problems : List Problem) : Rejection :=
  let about := match name with
    | some n => if n.isEmpty then "" else " for entity " ++ Text.quoted n
    | none => ""
  { kind := .malformed
    message := "Malformed schema document" ++ about ++ ": "
      ++ "; ".intercalate (problems.map problemText)
    entity := name }

def parse (v : Value) : Except Rejection Document :=
  match v.opened with
  | .map entries =>
    match read entries with
    | .ok d => .ok d
    | .bad problems => .error (malformed (givenName? entries) problems)
  | v => .error { kind := .malformed
                  message := "Schema document must be a mapping, got " ++ v.kindName ++ "." }

/-- An entry with a text, if there is one. -/
def textEntry (name : String) (s : Option String) : Entries :=
  (s.map fun s => (.text name, .text s)).toList

/-- A map with texts as keys. -/
def mapValue {α : Type} (toValue : α → Value) (m : Keyed α) : Value :=
  .map (m.entries.map fun e => (.text e.1, toValue e.2))

/-- A document as a map; what is absent has no entry. -/
def toValue (d : Document) : Value :=
  .map (textEntry "version" d.version ++ textEntry "name" (some d.name)
    ++ textEntry "Name" d.overrides.capitalized ++ textEntry "namePlural" d.overrides.plural
    ++ textEntry "NamePlural" d.overrides.capitalizedPlural ++ textEntry "path" d.overrides.path
    ++ [(.text "schema", mapValue .text d.schema), (.text "ui", mapValue UiHint.toValue d.ui)])

/-- The forms of the entity's name. -/
def names (d : Document) : Names :=
  Names.derive d.name d.overrides

end Document

end Scaffold
