import Scaffold.Shape.Problem

/-!
# Records

A record is a map with known entries. An entry has the name that documents use and may have a second
one; the first wins when both are there, and the second is then an entry that the record does not
know. Entries are read in the order in which the record declares them, and unknown ones are reported
after them, in the order of the map.
-/

namespace Scaffold.Shape

/-- The names of an entry: the one that documents use, and a second one. -/
structure Slot where
  name : String
  other : String
deriving Repr, DecidableEq

/-- An entry with one name. -/
def Slot.plain (name : String) : Slot := ⟨name, name⟩

/-- The name under which an entry is found, with its value. -/
def Slot.find? (s : Slot) (entries : Entries) : Option (String × Value) :=
  match entries.get? s.name with
  | some v => some (s.name, v)
  | none => (entries.get? s.other).map fun v => (s.other, v)

/-- Reads an entry that must be there. -/
def Slot.required {α : Type} (s : Slot) (entries : Entries) (check : Value → Checked α) :
    Checked α :=
  match s.find? entries with
  | some (name, v) => (check v).under (.key name)
  | none => (Checked.fault .missing).under (.key s.name)

/-- Reads an entry that may be absent. -/
def Slot.optional {α : Type} (s : Slot) (entries : Entries) (default : α)
    (check : Value → Checked α) : Checked α :=
  match s.find? entries with
  | some (name, v) => (check v).under (.key name)
  | none => .ok default

/-- The names under which the entries of a record are found. -/
def usedNames (slots : List Slot) (entries : Entries) : List String :=
  slots.filterMap fun s => (s.find? entries).map (·.1)

/-- The problem with an entry that a record with the given entries does not know. -/
def extraProblem? (used : List String) (key : Value) : Option Problem :=
  match key with
  | .text k => if used.contains k then none else some ⟨[.key k], .extra⟩
  | k => some ⟨[.ofKey k], .keyNotText⟩

/-- Refuses every entry that is none of the given ones. -/
def noExtras (slots : List Slot) (entries : Entries) : Checked Unit :=
  match entries.filterMap fun e => extraProblem? (usedNames slots entries) e.1 with
  | [] => .ok ()
  | ps => .bad ps

/-- Reads a map as a record of the given name. -/
def record {α : Type} (name : String) (read : Entries → Checked α) (v : Value) : Checked α :=
  match v.opened with
  | .map entries => read entries
  | _ => .fault (.notRecord name)

end Scaffold.Shape
