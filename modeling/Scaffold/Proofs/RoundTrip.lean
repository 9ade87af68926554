import Scaffold.Proofs.Settings

/-!
# Documents that are written and read again

`Document.toValue` writes a document as a map under the first names of its entries, without what is
absent. Values of many shapes are read as one document, but what was read is always read again from
the map that it is written as (`Document.parse_toValue`), because each reading takes its own results
for what they are. Of the conditions on documents two remain to be seen: a document that was read
has an exact name and at least one field.
-/

namespace Scaffold

/-! ### Entries -/

theorem Entries.get?_append (entries more : Entries) (key : String) :
    get? (entries ++ more) key = (entries.get? key).or (more.get? key) := by
  fun_induction get? entries key with
  | case1 => rfl
  | case2 v rest => simp [get?]
  | case3 k v rest hne ih => simpa [get?, hne] using ih
  | case4 first rest hother ih =>
    obtain ⟨k, v⟩ := first
    cases k with
    | text k => exact absurd rfl (hother k v)
    | _ => exact ih

namespace Keyed

variable {α : Type}

theorem putEntry_of_notMem {key : String} {value : α} {entries : List (String × α)}
    (h : key ∉ entries.map (·.1)) : putEntry key value entries = entries ++ [(key, value)] := by
  induction entries with
  | nil => rfl
  | cons first rest ih =>
    rw [List.map_cons, List.mem_cons, not_or] at h
    rw [putEntry, if_neg (Ne.symm h.1), ih h.2, List.cons_append]

/-- Pairs with keys of their own are added in their order. -/
theorem entries_foldl_put {m : Keyed α} {more : List (String × α)}
    (h : (m.entries.map (·.1) ++ more.map (·.1)).Nodup) :
    (more.foldl (fun m e => m.put e.1 e.2) m).entries = m.entries ++ more := by
  induction more generalizing m with
  | nil => simp
  | cons first rest ih =>
    have hfirst : first.1 ∉ m.entries.map (·.1) := by
      obtain ⟨-, -, hapart⟩ := List.nodup_append.mp h
      exact fun hmem => hapart _ hmem _ List.mem_cons_self rfl
    have hput : (m.put first.1 first.2).entries = m.entries ++ [first] := putEntry_of_notMem hfirst
    rw [List.foldl_cons, ih, hput, List.append_assoc, List.singleton_append]
    rw [hput, List.map_append, List.append_assoc]
    exact h

@[simp] theorem ofList_entries (m : Keyed α) : ofList m.entries = m := by
  obtain ⟨entries, distinct⟩ := m
  rw [Keyed.mk.injEq]
  exact entries_foldl_put distinct

end Keyed

namespace Shape

variable {α : Type} {s : Slot} {entries : Entries}

theorem Slot.find?_of_get? {v : Value} (h : entries.get? s.name = some v) :
    s.find? entries = some (s.name, v) := by
  rw [find?, h]

theorem Slot.find?_eq_none (h : entries.get? s.name = none) (h' : entries.get? s.other = none) :
    s.find? entries = none := by
  rw [find?, h, h']
  rfl

theorem Slot.required_of_get? {check : Value → Checked α} {v : Value} {a : α}
    (h : entries.get? s.name = some v) (hcheck : check v = .ok a) :
    s.required entries check = .ok a := by
  rw [required, find?_of_get? h]
  exact Checked.under_eq_ok.mpr hcheck

/-- An entry is written when there is something, and is read again as that or as nothing. -/
theorem Slot.optional_of_get? {write : α → Value} {check : Value → Checked (Option α)}
    {a : Option α} (hcheck : ∀ a, check (write a) = .ok (some a))
    (h : entries.get? s.name = a.map write)
    (hother : entries.get? s.other = none ∨ s.other = s.name) :
    s.optional entries none check = .ok a := by
  cases a with
  | some a =>
    rw [optional, find?_of_get? h]
    exact Checked.under_eq_ok.mpr (hcheck a)
  | none => rw [optional, find?_eq_none h (hother.elim id fun heq => heq ▸ h)]

/-- Entries under the first names of a record are known to it. -/
theorem noExtras_of_named {slots : List Slot}
    (h : ∀ entry ∈ entries, ∃ s ∈ slots, entry.1 = .text s.name) :
    noExtras slots entries = .ok () := by
  have hnone : (entries.filterMap fun e => extraProblem? (usedNames slots entries) e.1) = [] := by
    rw [List.filterMap_eq_nil_iff]
    intro entry hentry
    obtain ⟨s, hs, hkey⟩ := h entry hentry
    have hsome : (entries.get? s.name).isSome = true :=
      Entries.isSome_get?_of_mem (v := entry.2) (hkey ▸ hentry)
    obtain ⟨v, hv⟩ := Option.isSome_iff_exists.mp hsome
    have hused : s.name ∈ usedNames slots entries :=
      List.mem_filterMap.mpr ⟨s, hs, by rw [Slot.find?_of_get? hv]; rfl⟩
    simp [hkey, extraProblem?, hused]
  rw [noExtras, hnone]

end Shape

open Shape

/-! ### Presentations -/

namespace UiHint

@[simp] theorem readOptions_texts (os : List String) :
    readOptions (.list (os.map .text)) = .ok (some os) := by
  have hshown : (os.map Value.text).mapM Value.shown? = some os := by
    rw [List.mapM_map]
    exact List.mapM_pure.trans (congrArg some os.map_id)
  have hread : readOptions (.list (os.map .text)) = readShown (os.map .text) := rfl
  rw [hread, readShown, hshown]

theorem read_of_get? {entries : Entries} {h : UiHint}
    (htype : entries.get? "type" = some (.text h.type))
    (hlabel : entries.get? "label" = some (.text h.label))
    (hplaceholder : entries.get? "placeholder" = some (.text h.placeholder))
    (hrequired : entries.get? "required" = some (.bool h.required))
    (hoptions : entries.get? "options" = h.options.map fun os => .list (os.map .text))
    (hapiRef : entries.get? apiRefSlot.name = h.apiRef.map .text)
    (hother : entries.get? apiRefSlot.other = none) : read entries = .ok h := by
  have hoptions' : (Slot.plain "options").optional entries none readOptions = .ok h.options :=
    Slot.optional_of_get? readOptions_texts hoptions (.inr rfl)
  have hapiRef' : apiRefSlot.optional entries none (fun v => .ofExcept (textOrNull v))
      = .ok h.apiRef := Slot.optional_of_get? (fun _ => rfl) hapiRef (.inl hother)
  rw [read, hoptions', hapiRef']
  simp only [Slot.optional, Slot.find?, Slot.plain, htype, hlabel, hplaceholder, hrequired]
  rfl

/-- A presentation is read again from the map that it is written as. -/
@[simp] theorem check_toValue (h : UiHint) : check h.toValue = .ok h := by
  have hopened : check h.toValue = read _ := rfl
  rw [hopened]
  apply read_of_get?
  all_goals cases h.options <;> cases h.apiRef <;> rfl

end UiHint

/-! ### Documents -/

namespace Document

section

variable {α : Type} {check : Value → Checked α} {write : α → Value}

theorem readEntries_map (h : ∀ a, check (write a) = .ok a) (entries : List (String × α)) :
    readEntries check (entries.map fun e => (.text e.1, write e.2)) = .ok entries := by
  induction entries with
  | nil => rfl
  | cons first rest ih =>
    rw [List.map_cons, readEntries, readEntry, ih, h]
    rfl

theorem readMap_mapValue (h : ∀ a, check (write a) = .ok a) (m : Keyed α) :
    readMap check (mapValue write m) = .ok m := by
  have hmap : readMap check (mapValue write m)
      = Keyed.ofList <$> readEntries check (m.entries.map fun e => (.text e.1, write e.2)) := rfl
  rw [hmap, readEntries_map h]
  exact congrArg Checked.ok m.ofList_entries

end

/-- A schema is a map of texts with at least one entry. -/
theorem readSchema_eq_ok_iff {v : Value} {schema : Keyed String} :
    readSchema v = .ok schema
      ↔ readMap (fun d => .ofExcept (text d)) v = .ok schema ∧ schema.entries ≠ [] := by
  rw [readSchema]
  cases readMap (fun d => .ofExcept (text d)) v with
  | bad problems => simp
  | ok read =>
    by_cases hempty : read.entries = []
    · have hnot : ¬(read = schema ∧ schema.entries ≠ []) := fun h => h.2 (h.1 ▸ hempty)
      simpa [hempty, Checked.fault] using hnot
    · have hiff : read = schema ↔ read = schema ∧ schema.entries ≠ [] :=
        ⟨fun h => ⟨h, h ▸ hempty⟩, And.left⟩
      simpa [hempty] using hiff

/-- The entries that a document is written as. -/
def toEntries (d : Document) : Entries :=
  textEntry "version" d.version ++ textEntry "name" (some d.name)
    ++ textEntry "Name" d.overrides.capitalized ++ textEntry "namePlural" d.overrides.plural
    ++ textEntry "NamePlural" d.overrides.capitalizedPlural ++ textEntry "path" d.overrides.path
    ++ [(.text "schema", mapValue .text d.schema), (.text "ui", mapValue UiHint.toValue d.ui)]

theorem get?_textEntry (name key : String) (t : Option String) :
    (textEntry name t).get? key = if name = key then t.map .text else none := by
  cases t <;> simp [textEntry, Entries.get?]

theorem mem_textEntry {name : String} {t : Option String} {entry : Value × Value}
    (h : entry ∈ textEntry name t) : entry.1 = .text name := by
  cases t with
  | none => cases h
  | some t => rw [List.mem_singleton.mp h]

/-- The value under a key, by going through the names of the entries. -/
theorem get?_toEntries (d : Document) (key : String) :
    d.toEntries.get? key
      = if "version" = key then d.version.map .text
        else if "name" = key then some (.text d.name)
        else if "Name" = key then d.overrides.capitalized.map .text
        else if "namePlural" = key then d.overrides.plural.map .text
        else if "NamePlural" = key then d.overrides.capitalizedPlural.map .text
        else if "path" = key then d.overrides.path.map .text
        else if "schema" = key then some (mapValue .text d.schema)
        else if "ui" = key then some (mapValue UiHint.toValue d.ui)
        else none := by
  split_ifs
  all_goals
    subst_vars
    simp [toEntries, Entries.get?_append, get?_textEntry, Entries.get?, *]

/-- A document is written under the first names of its entries. -/
theorem exists_slot_of_mem_toEntries {d : Document} {entry : Value × Value}
    (h : entry ∈ d.toEntries) : ∃ s ∈ slots, entry.1 = .text s.name := by
  simp only [toEntries, List.mem_append, or_assoc] at h
  rcases h with h | h | h | h | h | h | h
  · exact ⟨.plain "version", by decide, mem_textEntry h⟩
  · exact ⟨.plain "name", by decide, mem_textEntry h⟩
  · exact ⟨⟨"Name", "capitalized"⟩, by decide, mem_textEntry h⟩
  · exact ⟨⟨"namePlural", "name_plural"⟩, by decide, mem_textEntry h⟩
  · exact ⟨⟨"NamePlural", "capitalized_plural"⟩, by decide, mem_textEntry h⟩
  · exact ⟨.plain "path", by decide, mem_textEntry h⟩
  · rcases List.mem_pair.mp h with rfl | rfl
    · exact ⟨⟨"schema", "field_types"⟩, by decide, rfl⟩
    · exact ⟨.plain "ui", by decide, rfl⟩

theorem readText_of_get? {s : Slot} {entries : Entries} {t : Option String}
    (h : entries.get? s.name = t.map .text)
    (hother : entries.get? s.other = none ∨ s.other = s.name) : readText s entries = .ok t :=
  Slot.optional_of_get? (fun _ => rfl) h hother

theorem readFrom_toEntries {d : Document} (hname : Identifier.isExactEntityName d.name = true)
    (hschema : d.schema.entries ≠ []) : ReadFrom d.toEntries d where
  version := by
    have hversion : d.toEntries.get? "version" = d.version.map .text := by
      rw [get?_toEntries, if_pos rfl]
    exact Slot.optional_of_get? (fun _ => rfl) hversion (.inr rfl)
  name := by
    have hread : readName (.text d.name) = .ok d.name := if_pos hname
    refine Slot.required_of_get? (v := .text d.name) (get?_toEntries d _) ?_
    exact Checked.ofExcept_eq_ok.mpr hread
  capitalized := readText_of_get? (get?_toEntries d _) (.inl (get?_toEntries d _))
  plural := readText_of_get? (get?_toEntries d _) (.inl (get?_toEntries d _))
  capitalizedPlural := readText_of_get? (get?_toEntries d _) (.inl (get?_toEntries d _))
  path := readText_of_get? (get?_toEntries d _) (.inr rfl)
  schema := by
    refine Slot.required_of_get? (get?_toEntries d _) ?_
    have hcheck : ∀ s, Checked.ofExcept (text (.text s)) = .ok s := fun _ => rfl
    exact readSchema_eq_ok_iff.mpr ⟨readMap_mapValue hcheck d.schema, hschema⟩
  ui := Slot.required_of_get? (get?_toEntries d _) (readMap_mapValue UiHint.check_toValue d.ui)
  known := noExtras_of_named fun _ => exists_slot_of_mem_toEntries

theorem schema_ne_nil_of_parse {v : Value} {d : Document} (h : parse v = .ok d) :
    d.schema.entries ≠ [] := by
  obtain ⟨entries, -, hread⟩ := exists_of_parse h
  obtain ⟨w, hschema⟩ := Slot.exists_of_required (read_eq_ok_iff.mp hread).schema
  exact (readSchema_eq_ok_iff.mp hschema).2

/-- The documents that are read again from the maps that they are written as. -/
theorem parse_toValue_iff {d : Document} :
    parse d.toValue = .ok d
      ↔ Identifier.isExactEntityName d.name = true ∧ d.schema.entries ≠ [] := by
  constructor
  · intro h
    exact ⟨isExactEntityName_of_parse h, schema_ne_nil_of_parse h⟩
  · rintro ⟨hname, hschema⟩
    have hread := read_eq_ok_iff.mpr (readFrom_toEntries hname hschema)
    show parse (.map d.toEntries) = .ok d
    simp only [parse, Value.opened, hread]

/-- A document that was read from a value of whatever shape is read again from the map that it is
written as: the same texts, presentations and fields, in the same order. -/
theorem parse_toValue {v : Value} {d : Document} (h : parse v = .ok d) :
    parse d.toValue = .ok d :=
  parse_toValue_iff.mpr ⟨isExactEntityName_of_parse h, schema_ne_nil_of_parse h⟩

/-- A notice in loose spelling: a number for the version, second names, a word for a truth value,
and options that are no texts. -/
def noticeValue : Value :=
  .map [(.text "version", .int 2), (.text "name", .text "notice"),
    (.text "name_plural", .text "notices"),
    (.text "ui", .map [
      (.text "level", .map [(.text "options", .tuple [.int 1, .null]), (.text "size", .int 3)]),
      (.text "seen", .map [(.text "required", .text "Yes"), (.text "api_ref", .null)])]),
    (.text "field_types", .map [(.text "seen", .text "boolean"), (.text "level", .text "enum")])]

/-- The notice as it is read. -/
def noticeDocument : Document where
  version := some "2"
  name := "notice"
  overrides := ⟨none, some "notices", none, none⟩
  schema := .ofList [("seen", "boolean"), ("level", "enum")]
  ui := .ofList [("level", ⟨"text", "", "", false, some ["1", "None"], none⟩),
    ("seen", ⟨"text", "", "", true, none, none⟩)]

theorem notice_read_again :
    parse noticeValue = .ok noticeDocument
      ∧ parse noticeDocument.toValue = .ok noticeDocument := by
  have hparse : parse noticeValue = .ok noticeDocument := by decide
  exact ⟨hparse, parse_toValue hparse⟩

end Document

end Scaffold
