import Mathlib.Data.List.Perm.Basic
import Scaffold.Proofs.Entity
import Scaffold.Proofs.Text.Unbroken

/-!
# What mappings are made of

Most of a mapping is fixed by the type of its field: the types on both sides, what the database
stores, the default. None of it breaks a line, and none of it has the character in it that ends the
entry where it is written. Only the names of related entities come from the document; they are
exact names.
-/

namespace Scaffold

open Text

namespace FieldSpec

theorem mapping_of_relationship {s : FieldSpec} {entity : String} {cardinality : Cardinality}
    (h : s.type = .relationship entity cardinality) :
    s.mapping = s.relationshipMapping entity cardinality := by
  simp only [mapping, h]

theorem mapping_of_enum {s : FieldSpec} {options : Options} (h : s.type = .enum options) :
    s.mapping = s.enumMapping options := by
  simp only [mapping, h]

/-- A mapping is made in one of four ways. -/
theorem mapping_cases (s : FieldSpec) :
    (∃ entity cardinality, s.type = .relationship entity cardinality
        ∧ s.mapping = s.relationshipMapping entity cardinality)
      ∨ (∃ options, s.type = .enum options ∧ s.mapping = s.enumMapping options)
      ∨ ∃ kind, s.type = .primitive kind
        ∧ (s.mapping = s.timestampMapping ∨ s.mapping = s.scalarMapping kind) := by
  cases htype : s.type with
  | relationship entity cardinality =>
    exact .inl ⟨entity, cardinality, rfl, mapping_of_relationship htype⟩
  | enum options => exact .inr (.inl ⟨options, rfl, mapping_of_enum htype⟩)
  | primitive kind =>
    refine .inr (.inr ⟨kind, rfl, ?_⟩)
    simp only [mapping, htype]
    exact (ite_eq_or_eq _ _ _)

/-- A mapping is that of a timestamp when its key is. -/
@[simp]
theorem isTimestamp_mapping (s : FieldSpec) : s.mapping.isTimestamp = isTimestampKey s.key := by
  unfold mapping
  split <;> try rfl
  split <;> rfl

/-- The model that a mapping refers to is named like the target of its type. -/
@[simp] theorem storedRef_mapping (s : FieldSpec) : s.mapping.storedRef = s.type.target? := by
  rcases s.mapping_cases with ⟨entity, cardinality, htype, hm⟩ | ⟨options, htype, hm⟩
    | ⟨kind, htype, hm | hm⟩ <;> rw [htype, hm] <;> rfl

/-- A type of the client is that of the target, perhaps of several, or built in. -/
theorem clientType_mapping (s : FieldSpec) :
    (∃ target, s.type.target? = some target
      ∧ (s.mapping.clientType = (Names.ofName target).capitalized
        ∨ s.mapping.clientType = (Names.ofName target).capitalized ++ "[]"))
      ∨ s.mapping.clientType ∈ ["string", "number", "boolean"] := by
  rcases s.mapping_cases with ⟨entity, cardinality, htype, hm⟩ | ⟨options, -, hm⟩
    | ⟨kind, -, hm | hm⟩ <;> rw [hm]
  · refine .inl ⟨entity, by rw [htype]; rfl, ?_⟩
    cases cardinality
    · exact .inl (by simp [relationshipMapping])
    · exact .inr (by simp [relationshipMapping])
  · exact .inr List.mem_cons_self
  · exact .inr List.mem_cons_self
  · right
    show kind.word ∈ ["string", "number", "boolean"]
    cases kind <;> decide

/-- A type of the client has no other characters than those of names and brackets. -/
theorem notMem_clientType {s : FieldSpec}
    (h : ∀ target, s.type.target? = some target → Identifier.isExactEntityName target = true)
    {c : Char} (hpart : Identifier.isPart c = false) (hbreak : c ≠ '\n')
    (hbrackets : c ∉ "[]".toList) : c ∉ s.mapping.clientType.toList := by
  rcases s.clientType_mapping with ⟨target, htype, hclient⟩ | hclient
  · have hcap := (Names.areIdentifiers_ofName (h target htype)).capitalized
    have hname : c ∉ (Names.ofName target).capitalized.toList :=
      Identifier.notMem_of_isIdentifier hcap hpart hbreak
    rcases hclient with hclient | hclient
    · rwa [hclient]
    · rw [hclient]
      exact notMem_append hname hbrackets
  · have hall : ∀ t ∈ ["string", "number", "boolean"], Identifier.isIdentifier t = true := by decide
    exact Identifier.notMem_of_isIdentifier (hall _ hclient) hpart hbreak

/-- A field is required as its presentation says. -/
@[simp] theorem required_mapping (s : FieldSpec) : s.mapping.required = s.required := by
  unfold mapping
  split <;> try rfl
  split <;> rfl

@[simp] theorem control_mapping (s : FieldSpec) : s.mapping.control = s.control := by
  unfold mapping
  split <;> try rfl
  split <;> rfl

@[simp] theorem placeholder_mapping (s : FieldSpec) :
    s.mapping.placeholder = (s.hint.map (·.placeholder)).getD "" := by
  unfold mapping
  split <;> try rfl
  split <;> rfl

def documentTypes : List String :=
  ["(mongoose.Types.ObjectId | string)[]", "mongoose.Types.ObjectId | string", "Date", "string",
    "number", "boolean"]

theorem documentType_mapping (s : FieldSpec) : s.mapping.documentType ∈ documentTypes := by
  rcases s.mapping_cases with ⟨entity, cardinality, -, hm⟩ | ⟨options, -, hm⟩
    | ⟨kind, -, hm | hm⟩ <;> rw [hm]
  · show (if _ then _ else _ : String) ∈ documentTypes
    split <;> decide
  · show "string" ∈ documentTypes
    decide
  · show "Date" ∈ documentTypes
    decide
  · show kind.word ∈ documentTypes
    cases kind <;> decide

/-- A type of the server has no comma in it. -/
theorem comma_notMem_documentType (s : FieldSpec) : ',' ∉ s.mapping.documentType.toList := by
  have hall : ∀ t ∈ documentTypes, ',' ∉ t.toList := by decide
  exact hall _ s.documentType_mapping

def storedTypes : List String := ["Schema.Types.ObjectId", "Date", "String", "Number", "Boolean"]

theorem storedType_mapping (s : FieldSpec) : s.mapping.storedType ∈ storedTypes := by
  rcases s.mapping_cases with ⟨entity, cardinality, -, hm⟩ | ⟨options, -, hm⟩
    | ⟨kind, -, hm | hm⟩ <;> rw [hm]
  · show "Schema.Types.ObjectId" ∈ storedTypes
    decide
  · show "String" ∈ storedTypes
    decide
  · show "Date" ∈ storedTypes
    decide
  · show storedName kind ∈ storedTypes
    cases kind <;> decide

/-- What is stored is written without a line feed. -/
theorem unbroken_storedType (s : FieldSpec) : Unbroken s.mapping.storedType := by
  have hall : ∀ t ∈ storedTypes, Unbroken t := by decide
  exact hall _ s.storedType_mapping

/-- The defaults that are not the option of an enumeration. -/
def fixedDefaults : List String := ["[]", "undefined", "\"\"", "0", "false"]

/-- A default is a quoted option, or one of a few others. -/
theorem defaultLiteral_mapping (s : FieldSpec) :
    (∃ option, s.mapping.defaultLiteral = literal option)
      ∨ s.mapping.defaultLiteral ∈ fixedDefaults := by
  rcases s.mapping_cases with ⟨entity, cardinality, -, hm⟩ | ⟨options, -, hm⟩
    | ⟨kind, -, hm | hm⟩ <;> rw [hm]
  · right
    show (if _ then _ else _ : String) ∈ fixedDefaults
    split <;> decide
  · exact .inl ⟨options.first, rfl⟩
  · right
    show "\"\"" ∈ fixedDefaults
    decide
  · right
    show emptyLiteral kind ∈ fixedDefaults
    cases kind <;> decide

/-- A default is written without a line feed. -/
theorem unbroken_defaultLiteral (s : FieldSpec) : Unbroken s.mapping.defaultLiteral := by
  rcases s.defaultLiteral_mapping with ⟨option, hdefault⟩ | hdefault
  · rw [hdefault]
    exact unbroken_literal option
  · have hall : ∀ t ∈ fixedDefaults, Unbroken t := by decide
    exact hall _ hdefault

def apiTypes : List String := ["array", "string", "number", "boolean"]

theorem apiType_mapping (s : FieldSpec) : s.mapping.apiType ∈ apiTypes := by
  rcases s.mapping_cases with ⟨entity, cardinality, -, hm⟩ | ⟨options, -, hm⟩
    | ⟨kind, -, hm | hm⟩ <;> rw [hm]
  · show (if _ then _ else _ : String) ∈ apiTypes
    split <;> decide
  · show "string" ∈ apiTypes
    decide
  · show "string" ∈ apiTypes
    decide
  · show kind.word ∈ apiTypes
    cases kind <;> decide

/-- A type in the API document is written without a line feed. -/
theorem unbroken_apiType (s : FieldSpec) : Unbroken s.mapping.apiType := by
  have hall : ∀ t ∈ apiTypes, Unbroken t := by decide
  exact hall _ s.apiType_mapping

def apiFormats : List String := ["objectId", "date-time"]

theorem mem_apiFormats {s : FieldSpec} {format : String} (h : s.mapping.apiFormat = some format) :
    format ∈ apiFormats := by
  rcases s.mapping_cases with ⟨entity, cardinality, -, hm⟩ | ⟨options, -, hm⟩
    | ⟨kind, -, hm | hm⟩ <;> rw [hm] at h
  · cases cardinality with
    | single =>
      obtain rfl : "objectId" = format := Option.some.inj h
      decide
    | array => cases h
  · cases h
  · obtain rfl : "date-time" = format := Option.some.inj h
    decide
  · cases h

/-- So is a format. -/
theorem unbroken_apiFormat {s : FieldSpec} {format : String}
    (h : s.mapping.apiFormat = some format) : Unbroken format := by
  have hall : ∀ t ∈ apiFormats, Unbroken t := by decide
  exact hall _ (mem_apiFormats h)

def columnTypes : List String := ["relationship", "number", "boolean", "picture", "string"]

theorem columnType_mem (s : FieldSpec) : s.columnType ∈ columnTypes := by
  unfold columnType
  split
  next => decide
  next =>
    split
    next h =>
      have hmem : s.widget ∈ typedColumns := by simpa using h
      have hall : ∀ word ∈ typedColumns, word ∈ columnTypes := by decide
      exact hall _ hmem
    next => decide

/-- The type of a column is written without a line feed. -/
theorem unbroken_columnType (s : FieldSpec) : Unbroken s.columnType := by
  have hall : ∀ t ∈ columnTypes, Unbroken t := by decide
  exact hall _ s.columnType_mem

@[simp] theorem columnType_mapping (s : FieldSpec) : s.mapping.columnType = s.columnType := by
  unfold mapping
  split <;> try rfl
  split <;> rfl

end FieldSpec

/-! ### The order of mappings -/

namespace Document

/-- The keys of the fields that are edited, in schema order. -/
def editedKeys (d : Document) : List String :=
  d.schema.keys.filter fun key => !isTimestampKey key

/-- The keys of the fields that the form edits, in the order of their presentations. -/
def formKeys (d : Document) : List String :=
  d.ui.keys.filter fun key => !isTimestampKey key

end Document

namespace Entity

section

variable {d : Document} {fields : List FieldSpec}
  (hfields : List.Forall₂ (Reads d) d.schema.entries fields)

/-- Clients send a field when its key is edited. -/
theorem inPayload_of_mem {m : FieldMapping} (hm : m ∈ (ofFields d fields).mappings) :
    m.inPayload = !isTimestampKey m.key := by
  obtain ⟨field, -, rfl⟩ := List.mem_map.mp hm
  rw [FieldMapping.inPayload, FieldSpec.isTimestamp_mapping, FieldSpec.key_mapping]

include hfields

/-- The mappings are in schema order. -/
theorem map_key_mappings : (ofFields d fields).mappings.map (·.key) = d.schema.keys := by
  show (fields.map FieldSpec.mapping).map (·.key) = d.schema.entries.map (·.1)
  rw [List.map_map]
  generalize d.schema.entries = entries at hfields
  induction hfields with
  | nil => rfl
  | cons hfirst _ ih =>
    rw [List.map_cons, List.map_cons, ih, Function.comp_apply, FieldSpec.key_mapping, hfirst.key]

/-- The mappings of what is sent have the edited keys, in schema order. -/
theorem map_key_payload : (ofFields d fields).payload.map (·.key) = d.editedKeys := by
  have hfilter : (ofFields d fields).payload
      = (ofFields d fields).mappings.filter ((fun key => !isTimestampKey key) ∘ (·.key)) := by
    apply List.filter_congr
    intro m hm
    exact inPayload_of_mem hm
  rw [hfilter, ← List.filter_map, map_key_mappings hfields, Document.editedKeys]

/-- Every key of the schema has a mapping. -/
theorem exists_mapping? {key : String} (hkey : key ∈ d.schema.keys) :
    ∃ m ∈ (ofFields d fields).mappings, (ofFields d fields).mapping? key = some m
      ∧ m.key = key := by
  rw [← map_key_mappings hfields] at hkey
  obtain ⟨m, hm, rfl⟩ := List.mem_map.mp hkey
  obtain ⟨m', hm'⟩ : ∃ m', (ofFields d fields).mapping? m.key = some m' := by
    rw [← Option.isSome_iff_exists, mapping?, List.find?_isSome]
    exact ⟨m, hm, by simp⟩
  exact ⟨m', List.mem_of_find?_eq_some hm', hm', by simpa using List.find?_some hm'⟩

/-- What is presented are mappings, in the order of the presentations. -/
theorem presented_eq (hd : d.WellFormed) :
    (∀ m ∈ (ofFields d fields).presented, m ∈ (ofFields d fields).mappings)
      ∧ (ofFields d fields).presented.map (·.key) = d.ui.keys := by
  have hpresented : ∀ keys : List String, (∀ key ∈ keys, key ∈ d.schema.keys) →
      (∀ m ∈ keys.filterMap (ofFields d fields).mapping?, m ∈ (ofFields d fields).mappings)
        ∧ (keys.filterMap (ofFields d fields).mapping?).map (·.key) = keys := by
    intro keys
    induction keys with
    | nil => exact fun _ => ⟨by simp, rfl⟩
    | cons key rest ih =>
      intro hkeys
      obtain ⟨m, hm, hfind, hkey⟩ := exists_mapping? hfields (hkeys key List.mem_cons_self)
      obtain ⟨hmem, hrest⟩ := ih fun k hk => hkeys k (List.mem_cons_of_mem _ hk)
      rw [List.filterMap_cons_some hfind]
      exact ⟨List.forall_mem_cons.mpr ⟨hm, hmem⟩, by rw [List.map_cons, hrest, hkey]⟩
  exact hpresented d.ui.keys hd.declared

/-- The form has the keys that it edits, in the order of the presentations. -/
theorem map_key_form (hd : d.WellFormed) :
    ((ofFields d fields).presented.filter FieldMapping.inPayload).map (·.key) = d.formKeys := by
  obtain ⟨hmem, hkeys⟩ := presented_eq hfields hd
  have hfilter : (ofFields d fields).presented.filter FieldMapping.inPayload
      = (ofFields d fields).presented.filter ((fun key => !isTimestampKey key) ∘ (·.key)) := by
    apply List.filter_congr
    intro m hm
    exact inPayload_of_mem (hmem m hm)
  rw [hfilter, ← List.filter_map, hkeys, Document.formKeys]

end

section

variable {d : Document} {fields : List FieldSpec} (hd : d.WellFormed)
  (hfields : List.Forall₂ (Reads d) d.schema.entries fields)

include hd hfields

/-- The keys of mappings are identifiers. -/
theorem isIdentifier_key {m : FieldMapping} (hm : m ∈ (ofFields d fields).mappings) :
    Identifier.isIdentifier m.key = true := by
  have hkey : m.key ∈ d.schema.keys := map_key_mappings hfields ▸ List.mem_map_of_mem hm
  exact (hd.keys m.key hkey).1

/-- The target of a field has an exact name. -/
theorem isExactEntityName_of_target? {field : FieldSpec} (hfield : field ∈ fields) {target : String}
    (htarget : field.type.target? = some target) : Identifier.isExactEntityName target = true :=
  Document.isExactEntityName_of_mem_targets hd (mem_targets_of_mem hfields hfield htarget)

end

end Entity

/-- The form edits the fields that are edited, each of them once. -/
theorem Document.WellFormed.formKeys_perm {d : Document} (hd : d.WellFormed) :
    d.formKeys.Perm d.editedKeys := by
  apply (List.perm_ext_iff_of_nodup (d.ui.distinct.filter _) (d.schema.distinct.filter _)).mpr
  intro key
  rw [List.mem_filter, List.mem_filter]
  constructor
  · rintro ⟨hkey, hedited⟩
    exact ⟨hd.declared key hkey, hedited⟩
  · rintro ⟨hkey, hedited⟩
    exact ⟨hd.presented key hkey (by simpa using hedited), hedited⟩

end Scaffold
