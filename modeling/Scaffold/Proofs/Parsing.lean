import Scaffold.Document

/-!
# What reading a document ensures

A value that is read as a document has passed the checks of its parts, and the document is made of
what they gave (`Document.read_eq_ok_iff`). One of them matters to all that follows: the name of the
entity has nothing behind it (`Document.isExactEntityName_of_parse`).
-/

namespace Scaffold

open Shape

/-- The parts of a document are read from the entries of a map. -/
structure Document.ReadFrom (entries : Entries) (d : Document) : Prop where
  version : (Slot.plain "version").optional entries none readVersion = .ok d.version
  name : (Slot.plain "name").required entries (fun v => .ofExcept (readName v)) = .ok d.name
  capitalized : readText ⟨"Name", "capitalized"⟩ entries = .ok d.overrides.capitalized
  plural : readText ⟨"namePlural", "name_plural"⟩ entries = .ok d.overrides.plural
  capitalizedPlural :
    readText ⟨"NamePlural", "capitalized_plural"⟩ entries = .ok d.overrides.capitalizedPlural
  path : readText (.plain "path") entries = .ok d.overrides.path
  schema : Slot.required ⟨"schema", "field_types"⟩ entries readSchema = .ok d.schema
  ui : (Slot.plain "ui").required entries (readMap UiHint.check) = .ok d.ui
  /-- The map has no other entries. -/
  known : noExtras slots entries = .ok ()

theorem map_eq_ok {ε α β : Type} {x : Except ε α} {f : α → β} {b : β} :
    x.map f = .ok b ↔ ∃ a, x = .ok a ∧ f a = b := by
  cases x <;> simp [Except.map]

@[simp] theorem map_eq_error {ε α β : Type} {x : Except ε α} {f : α → β} {e : ε} :
    x.map f = .error e ↔ x = .error e := by
  cases x <;> simp [Except.map]

@[simp]
theorem mapError_ok {ε ε' α : Type} (f : ε → ε') (a : α) :
    (.ok a : Except ε α).mapError f = .ok a :=
  rfl

@[simp]
theorem mapError_error {ε ε' α : Type} (f : ε → ε') (e : ε) :
    (.error e : Except ε α).mapError f = .error (f e) :=
  rfl

@[simp] theorem mapError_eq_ok {ε ε' α : Type} {f : ε → ε'} {x : Except ε α} {a : α} :
    x.mapError f = .ok a ↔ x = .ok a := by
  cases x <;> simp

namespace Shape

namespace Checked

variable {α β : Type}

@[simp] theorem seq_eq_ok {f : Checked (α → β)} {a : Checked α} {b : β} :
    f <*> a = .ok b ↔ ∃ g x, f = .ok g ∧ a = .ok x ∧ g x = b := by
  change f.seq (fun _ => a) = .ok b ↔ _
  cases f <;> cases a <;> simp [seq]

theorem map_eq_ok {f : α → β} {a : Checked α} {b : β} :
    f <$> a = .ok b ↔ ∃ x, a = .ok x ∧ f x = b := by
  change a.map f = .ok b ↔ _
  cases a <;> simp [map]

@[simp]
theorem under_eq_ok {step : Step} {a : Checked α} {x : α} : a.under step = .ok x ↔ a = .ok x := by
  cases a <;> simp [under]

@[simp] theorem ofExcept_eq_ok {a : Except Cause α} {x : α} : ofExcept a = .ok x ↔ a = .ok x := by
  cases a <;> simp [ofExcept, fault]

end Checked

/-- An entry that must be there has passed its check. -/
theorem Slot.exists_of_required {α : Type} {s : Slot} {entries : Entries}
    {check : Value → Checked α} {a : α} (h : s.required entries check = .ok a) :
    ∃ v, check v = .ok a := by
  unfold required at h
  split at h
  next name v _ => exact ⟨v, Checked.under_eq_ok.mp h⟩
  next => cases h

end Shape

namespace Document

theorem read_eq_ok_iff {entries : Entries} {d : Document} :
    read entries = .ok d ↔ ReadFrom entries d := by
  constructor
  · intro h
    simp only [read, Checked.seq_eq_ok, Checked.map_eq_ok] at h
    -- one level for each part that is read, the last one on the outside
    obtain ⟨_, _, ⟨_, _, ⟨_, _, ⟨_, _, ⟨_, _, ⟨_, _, ⟨_, _, ⟨_, _, ⟨_, hversion, rfl⟩, hname, rfl⟩,
      hcapitalized, rfl⟩, hplural, rfl⟩, hplurals, rfl⟩, hpath, rfl⟩, hschema, rfl⟩, hui, rfl⟩,
      hknown, rfl⟩ := h
    exact ⟨hversion, hname, hcapitalized, hplural, hplurals, hpath, hschema, hui, hknown⟩
  · intro h
    rw [read, h.version, h.name, h.capitalized, h.plural, h.capitalizedPlural, h.path, h.schema,
      h.ui, h.known]
    rfl

theorem isExactEntityName_of_readName {v : Value} {name : String} (h : readName v = .ok name) :
    Identifier.isExactEntityName name = true := by
  unfold readName at h
  split at h
  next => cases h
  next s _ =>
    split at h
    next hname => cases h; exact hname
    next => cases h

/-- A value that is read as a document is a map whose entries are read. -/
theorem exists_of_parse {v : Value} {d : Document} (h : parse v = .ok d) :
    ∃ entries, v.opened = .map entries ∧ read entries = .ok d := by
  unfold parse at h
  split at h
  next entries hopened =>
    split at h
    next d' hread => cases h; exact ⟨entries, hopened, hread⟩
    next => cases h
  next => cases h

/-- The name of a document has nothing behind it. -/
theorem isExactEntityName_of_parse {v : Value} {d : Document} (h : parse v = .ok d) :
    Identifier.isExactEntityName d.name = true := by
  obtain ⟨entries, -, hread⟩ := exists_of_parse h
  obtain ⟨v, hname⟩ := Slot.exists_of_required (read_eq_ok_iff.mp hread).name
  exact isExactEntityName_of_readName (Checked.ofExcept_eq_ok.mp hname)

end Document

end Scaffold
