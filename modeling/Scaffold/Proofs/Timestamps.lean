import Scaffold.Proofs.FieldOrder

/-!
# Timestamps in a schema

A schema may list the timestamps that every entity has anyway. They show in the interface of what is
received, and in the columns of the views where they have presentations. Nothing else looks at them:
clients do not send them, and the model and the API document list both timestamps always. So
documents that differ in them have the same files otherwise (`timestamps_in_interface_and_columns`).
-/

namespace Scaffold

open Text

/-- A document with timestamps added to its schema, each with the descriptor of a text. Both they
and their presentations, if there are any, stand anywhere among the others. -/
structure Document.GainsTimestamps (d d' : Document) (added : List String) : Prop where
  version : d'.version = d.version
  name : d'.name = d.name
  overrides : d'.overrides = d.overrides
  distinct : added.Nodup
  timestamps : ∀ key ∈ added, isTimestampKey key = true
  declared : ∀ key ∈ added, d'.schema.get? key = some "string"
  schema : d'.schema.entries.filter (fun e => !added.contains e.1) = d.schema.entries
  ui : d'.ui.entries.filter (fun e => !added.contains e.1) = d.ui.entries

/-- A document has files under settings, and so has every value that is read as it. -/
structure Document.Gives (d : Document) (s : Settings) (files : List Artifact) : Prop where
  assembled : d.assembled s = .ok files
  values : ∀ v, Document.parse v = .ok d → Scaffold.assemble v s = .ok files

/-- Artifacts at one place whose contents are related. -/
structure Artifact.Differ (R : String → String → Prop) (a a' : Artifact) : Prop where
  side : a'.side = a.side
  path : a'.path = a.path
  content : R a.content a'.content

/-- Entities with the same names that send the same. -/
structure Entity.SendsAlike (e e' : Entity) : Prop where
  names : e'.names = e.names
  related : e'.related = e.related
  payload : e'.payload = e.payload

/-- The columns of a table. -/
def View.columnArray (columns : List Column) : List String :=
  ["const columns = ref<TableColumn[]>(["] ++ commaSeparatedBlocks (columns.map columnBlock)
    ++ ["])"]

/-- A text has another one's lines, and one line for each added timestamp among the members of the
interface of what is received. -/
def GainsMembers (n : Names) (added : List String) (text text' : String) : Prop :=
  ∃ front members members' back,
    text = joinLines
        (front ++ Client.interfaceBlock n.capitalized ("  _id: string;" :: members) ++ back)
      ∧ text' = joinLines
        (front ++ Client.interfaceBlock n.capitalized ("  _id: string;" :: members') ++ back)
      ∧ members.Sublist members'
      ∧ members'.Perm (added.map (fun key => "  " ++ key ++ ": string;") ++ members)

/-- A text has another one's lines, and columns for added timestamps among those of the table. -/
def GainsColumns (added : List String) (text text' : String) : Prop :=
  ∃ front columns columns' back,
    text = joinLines (front ++ View.columnArray columns ++ back)
      ∧ text' = joinLines (front ++ View.columnArray columns' ++ back)
      ∧ columns = columns'.filter fun c => !added.contains c.key

/-! ### Mappings that are kept -/

/-- Fields under other keys than the given ones. -/
def FieldSpec.without (keys : List String) (fields : List FieldSpec) : List FieldSpec :=
  fields.filter fun field => !keys.contains field.key

namespace Entity

theorem mappings_kept (d d' : Document) (added : List String) (fields : List FieldSpec) :
    (ofFields d (FieldSpec.without added fields)).mappings
      = (ofFields d' fields).mappings.filter fun m => !added.contains m.key := by
  show (fields.filter _).map FieldSpec.mapping = (fields.map FieldSpec.mapping).filter _
  rw [List.filter_map]
  congr 1
  exact List.filter_congr fun field _ => by rw [Function.comp_apply, FieldSpec.key_mapping]

theorem find?_kept (added : List String) (mappings : List FieldMapping) (key : String) :
    (mappings.find? (·.key == key)).filter (fun m => !added.contains m.key)
      = if !added.contains key then
          (mappings.filter fun m => !added.contains m.key).find? (·.key == key)
        else none := by
  have hkey : ∀ m, mappings.find? (·.key == key) = some m → m.key = key := by
    intro m hm
    simpa using List.find?_some hm
  -- what is found has the key that is looked for, so that the key decides whether it is kept
  by_cases hadded : key ∈ added
  · rw [if_neg (by simpa using hadded)]
    cases hfind : mappings.find? (·.key == key) with
    | none => rfl
    | some m => simp [hkey m hfind, hadded]
  · have hsame : (fun m : FieldMapping =>
        decide ((!added.contains m.key) = true ∧ (m.key == key) = true))
          = fun m => m.key == key := by
      funext m
      by_cases hm : m.key = key <;> simp [hm, hadded]
    rw [if_pos (by simpa using hadded), List.find?_filter, hsame]
    cases hfind : mappings.find? (·.key == key) with
    | none => rfl
    | some m => simp [hkey m hfind, hadded]

end Entity

namespace Document.GainsTimestamps

variable {d d' : Document} {added : List String} (h : d.GainsTimestamps d' added)

include h

/-! ### Documents -/

theorem names_eq : d'.names = d.names := by
  rw [names, names, h.name, h.overrides]

theorem notMem_of_not_isTimestampKey {key : String} (hkey : isTimestampKey key = false) :
    key ∉ added := by
  intro hadded
  rw [h.timestamps key hadded] at hkey
  cases hkey

theorem mem_schema_iff {field : String × String} (hfield : field.1 ∉ added) :
    field ∈ d'.schema.entries ↔ field ∈ d.schema.entries := by
  rw [← h.schema, List.mem_filter]
  simp [hfield]

theorem mem_schemaKeys_iff {key : String} (hkey : key ∉ added) :
    key ∈ d'.schema.keys ↔ key ∈ d.schema.keys := by
  simp only [Keyed.mem_keys, Keyed.get?_eq_some]
  exact exists_congr fun _ => h.mem_schema_iff hkey

theorem get?_ui_eq {key : String} (hkey : key ∉ added) : d'.ui.get? key = d.ui.get? key := by
  apply Option.ext
  intro hint
  rw [Keyed.get?_eq_some, Keyed.get?_eq_some, ← h.ui, List.mem_filter]
  simp [hkey]

theorem mem_uiKeys_iff {key : String} (hkey : key ∉ added) :
    key ∈ d'.ui.keys ↔ key ∈ d.ui.keys := by
  rw [Keyed.mem_keys, Keyed.mem_keys, h.get?_ui_eq hkey]

theorem typeOf_eq {key : String} (hkey : key ∉ added) (descriptor : String) :
    d'.typeOf key descriptor = d.typeOf key descriptor := by
  rw [typeOf, typeOf, h.get?_ui_eq hkey]

/-- An added timestamp is a text, whatever its presentation says. -/
theorem typeOf_added {field : String × String} (hfield : field ∈ d'.schema.entries)
    (hadded : field.1 ∈ added) : d'.typeOf field.1 field.2 = .ok (.primitive .string) := by
  have hdescriptor : field.2 = "string" := by
    have hget := h.declared field.1 hadded
    rw [Keyed.get?_eq_some.mpr hfield] at hget
    exact Option.some.inj hget
  have hword : wordMeaning? PrimitiveKind.words (Text.strip "string") = some .string := by
    decide +kernel
  rw [typeOf, FieldType.ofDescriptor, hdescriptor]
  simp only [hword]

/-- A field is an added timestamp, or one of the document without them. -/
theorem added_or_kept {field : String × String} (hfield : field ∈ d'.schema.entries) :
    (field.1 ∈ added ∧ d'.typeOf field.1 field.2 = .ok (.primitive .string))
      ∨ (field.1 ∉ added ∧ field ∈ d.schema.entries
        ∧ d'.typeOf field.1 field.2 = d.typeOf field.1 field.2) := by
  by_cases hadded : field.1 ∈ added
  · exact .inl ⟨hadded, h.typeOf_added hfield hadded⟩
  · exact .inr ⟨hadded, (h.mem_schema_iff hadded).mp hfield, h.typeOf_eq hadded _⟩

theorem targets_eq : d'.targets = d.targets := by
  have hfields : d'.schema.entries.filterMap d'.target?
      = (d'.schema.entries.filter fun e => !added.contains e.1).filterMap d.target? := by
    rw [List.filterMap_filter]
    apply List.filterMap_congr
    intro field hfield
    -- a timestamp refers to no entity
    obtain ⟨hadded, htype⟩ | ⟨hadded, -, htype⟩ := h.added_or_kept hfield
    · simp [hadded, target?, htype, FieldType.target?]
    · simp [hadded, target?, htype]
  rw [targets, targets, hfields, h.schema]

/-- Timestamps do not decide whether a document is well formed. -/
theorem wellFormed (hd : d.WellFormed) : d'.WellFormed where
  capitalized := h.overrides ▸ hd.capitalized
  plural := h.overrides ▸ hd.plural
  capitalizedPlural := h.overrides ▸ hd.capitalizedPlural
  path := h.overrides ▸ hd.path
  nameFree := h.names_eq ▸ hd.nameFree
  pluralFree := h.names_eq ▸ hd.pluralFree
  -- an added key is a timestamp, and every other field was there before
  keys key hkey := by
    by_cases hadded : key ∈ added
    · have hall : ∀ key ∈ timestampFields,
          Identifier.isIdentifier key = true ∧ key ≠ identityField := by decide
      exact hall key (List.contains_iff_mem.mp (h.timestamps key hadded))
    · exact hd.keys key ((h.mem_schemaKeys_iff hadded).mp hkey)
  presented key hkey hedited := by
    have hadded := h.notMem_of_not_isTimestampKey hedited
    rw [h.mem_uiKeys_iff hadded]
    exact hd.presented key ((h.mem_schemaKeys_iff hadded).mp hkey) hedited
  declared key hkey := by
    by_cases hadded : key ∈ added
    · exact Keyed.mem_keys.mpr ⟨_, h.declared key hadded⟩
    · rw [h.mem_schemaKeys_iff hadded]
      exact hd.declared key ((h.mem_uiKeys_iff hadded).mp hkey)
  readable field hfield := by
    obtain ⟨-, htype⟩ | ⟨-, hkept, htype⟩ := h.added_or_kept hfield
    · exact ⟨_, htype⟩
    · rw [htype]
      exact hd.readable field hkept
  timestamps field hfield htimestamp := by
    obtain ⟨-, htype⟩ | ⟨-, hkept, htype⟩ := h.added_or_kept hfield
    · exact htype
    · rw [htype]
      exact hd.timestamps field hkept htimestamp
  targets field hfield target cardinality hread := by
    obtain ⟨-, htype⟩ | ⟨-, hkept, htype⟩ := h.added_or_kept hfield
    · rw [htype] at hread
      cases hread
    · rw [htype] at hread
      exact (hd.targets field hkept target cardinality hread).of_names_eq h.name h.names_eq

/-! ### Entities -/

/-- Without the added timestamps, the fields are those of the document without them. -/
theorem reads_kept {fields' : List FieldSpec}
    (hfields' : List.Forall₂ (Entity.Reads d') d'.schema.entries fields') :
    List.Forall₂ (Entity.Reads d) d.schema.entries (FieldSpec.without added fields') := by
  rw [← h.schema]
  unfold FieldSpec.without
  -- the induction is on the entries, of which it forgets the document that they come from
  generalize d'.schema.entries = entries at hfields' ⊢
  induction hfields' with
  | nil => exact .nil
  | @cons entry field rest others hfirst _ ih =>
    by_cases hadded : entry.1 ∈ added
    · rw [List.filter_cons_of_neg (by simpa using hadded),
        List.filter_cons_of_neg (by simpa [hfirst.key] using hadded)]
      exact ih
    · rw [List.filter_cons_of_pos (by simpa using hadded),
        List.filter_cons_of_pos (by simpa [hfirst.key] using hadded)]
      refine .cons ⟨hfirst.key, ?_, ?_⟩ ih
      · rw [hfirst.hint, h.get?_ui_eq hadded]
      · rw [← h.typeOf_eq hadded, hfirst.type]

/-- An added timestamp is not sent. -/
theorem inPayload_imp {fields' : List FieldSpec} {m : FieldMapping}
    (hm : m ∈ (Entity.ofFields d' fields').mappings) (hsent : m.inPayload = true) :
    (!added.contains m.key) = true := by
  rw [Entity.inPayload_of_mem hm, Bool.not_eq_true'] at hsent
  simpa using h.notMem_of_not_isTimestampKey hsent

theorem filter_inPayload_kept {fields' : List FieldSpec} {mappings : List FieldMapping}
    (hmappings : ∀ m ∈ mappings, m ∈ (Entity.ofFields d' fields').mappings) :
    (mappings.filter fun m => !added.contains m.key).filter FieldMapping.inPayload
      = mappings.filter FieldMapping.inPayload := by
  rw [List.filter_filter]
  apply List.filter_congr
  intro m hm
  cases hsent : m.inPayload with
  | false => rfl
  | true => rw [h.inPayload_imp (hmappings m hm) hsent]; rfl

theorem payload_kept (fields' : List FieldSpec) :
    (Entity.ofFields d (FieldSpec.without added fields')).payload
      = (Entity.ofFields d' fields').payload := by
  rw [Entity.payload, Entity.mappings_kept d d', Entity.payload]
  exact h.filter_inPayload_kept fun _ hm => hm

theorem presented_kept (fields' : List FieldSpec) :
    (Entity.ofFields d (FieldSpec.without added fields')).presented
      = (Entity.ofFields d' fields').presented.filter fun m => !added.contains m.key := by
  have hui : d.ui.keys = d'.ui.keys.filter fun key => !added.contains key := by
    rw [Keyed.keys, ← h.ui, Keyed.keys, List.filter_map]
    rfl
  show d.ui.keys.filterMap _ = (d'.ui.keys.filterMap _).filter _
  rw [hui, List.filterMap_filter, List.filter_filterMap]
  apply List.filterMap_congr
  intro key _
  rw [Entity.mapping?, Entity.mappings_kept d d']
  exact (Entity.find?_kept added _ key).symm

/-- What has no presentation is not presented. -/
theorem presented_eq (hd : d'.WellFormed) (hui : d'.ui = d.ui) {fields' : List FieldSpec}
    (hfields' : List.Forall₂ (Entity.Reads d') d'.schema.entries fields') :
    (Entity.ofFields d (FieldSpec.without added fields')).presented
      = (Entity.ofFields d' fields').presented := by
  rw [h.presented_kept, List.filter_eq_self]
  intro m hm
  have hkey : m.key ∈ d.ui.keys := by
    rw [← hui, ← (Entity.presented_eq hfields' hd).2]
    exact List.mem_map_of_mem hm
  rw [Keyed.keys, ← h.ui, List.mem_map] at hkey
  obtain ⟨e, he, hkey⟩ := hkey
  rw [← hkey]
  exact (List.mem_filter.mp he).2

/-! ### Members of interfaces -/

theorem requiredMember_added {field : FieldSpec} {entry : String × String}
    (hentry : entry ∈ d'.schema.entries) (hreads : Entity.Reads d' entry field)
    (hadded : entry.1 ∈ added) :
    Client.requiredMember field.mapping = "  " ++ entry.1 ++ ": string;" := by
  have htype : field.type = .primitive .string := by
    have htype := hreads.type
    rw [h.typeOf_added hentry hadded] at htype
    exact (Except.ok.inj htype).symm
  have htimestamp : field.isTimestamp = true := by
    rw [FieldSpec.isTimestamp, hreads.key, h.timestamps _ hadded]
  rw [Client.requiredMember, FieldSpec.key_mapping, hreads.key, FieldSpec.mapping, htype]
  simp only [htimestamp, if_true, FieldSpec.timestampMapping]
  simp [← String.toList_inj]

/-- The keys of added timestamps are those of their mappings, in schema order. -/
theorem perm_added {fields' : List FieldSpec}
    (hfields' : List.Forall₂ (Entity.Reads d') d'.schema.entries fields') :
    (((Entity.ofFields d' fields').mappings.filter fun m => added.contains m.key).map (·.key)).Perm
      added := by
  have hkeys : ((Entity.ofFields d' fields').mappings.filter fun m => added.contains m.key).map
      (·.key) = d'.schema.keys.filter added.contains := by
    rw [← Entity.map_key_mappings hfields', List.filter_map]
    rfl
  have hdistinct : d'.schema.keys.Nodup := d'.schema.distinct
  rw [hkeys, List.perm_ext_iff_of_nodup (hdistinct.filter _) h.distinct]
  intro key
  rw [List.mem_filter, List.contains_iff_mem, and_iff_right_iff_imp]
  exact fun hadded => Keyed.mem_keys.mpr ⟨_, h.declared key hadded⟩

theorem members_perm {fields' : List FieldSpec}
    (hfields' : List.Forall₂ (Entity.Reads d') d'.schema.entries fields') :
    ((Entity.ofFields d' fields').mappings.map Client.requiredMember).Perm
      (added.map (fun key => "  " ++ key ++ ": string;")
        ++ (Entity.ofFields d (FieldSpec.without added fields')).mappings.map
          Client.requiredMember) := by
  have hlines : ((Entity.ofFields d' fields').mappings.filter fun m => added.contains m.key).map
      Client.requiredMember
        = (((Entity.ofFields d' fields').mappings.filter fun m => added.contains m.key).map
          (·.key)).map fun key => "  " ++ key ++ ": string;" := by
    rw [List.map_map]
    apply List.map_congr_left
    intro m hm
    obtain ⟨hm, hadded⟩ := List.mem_filter.mp hm
    obtain ⟨field, hfield, rfl⟩ := List.mem_map.mp hm
    obtain ⟨entry, hentry, hreads⟩ := Entity.exists_reads_of_mem hfields' hfield
    rw [List.contains_iff_mem, FieldSpec.key_mapping, hreads.key] at hadded
    rw [h.requiredMember_added hentry hreads hadded, Function.comp_apply, FieldSpec.key_mapping,
      hreads.key]
  rw [Entity.mappings_kept d d']
  -- the members of added timestamps are moved in front of the others
  refine ((List.filter_append_perm (fun m => added.contains m.key) _).symm.map _).trans ?_
  rw [List.map_append, hlines]
  exact ((h.perm_added hfields').map _).append_right _

/-- A field that is not added is the same, whatever presentations the added ones have. -/
theorem field_eq {d'' : Document} (h' : d.GainsTimestamps d'' added) {entry : String × String}
    (hentry : entry.1 ∉ added) {field field' : FieldSpec} (hreads : Entity.Reads d' entry field)
    (hreads' : Entity.Reads d'' entry field') : field' = field := by
  have htype : field'.type = field.type := by
    have htype := hreads'.type
    rw [h'.typeOf_eq hentry, ← h.typeOf_eq hentry, hreads.type] at htype
    exact (Except.ok.inj htype).symm
  have hhint : field'.hint = field.hint := by
    rw [hreads'.hint, hreads.hint, h'.get?_ui_eq hentry, h.get?_ui_eq hentry]
  have hkey : field'.key = field.key := hreads'.key.trans hreads.key.symm
  obtain ⟨key, type, hint⟩ := field
  obtain rfl := hkey
  obtain rfl := htype
  obtain rfl := hhint
  rfl

/-- The members do not depend on the presentations of added timestamps. -/
theorem members_eq {d'' : Document} (h' : d.GainsTimestamps d'' added)
    {entries : List (String × String)} (hentries : ∀ entry ∈ entries, entry ∈ d'.schema.entries)
    (hentries' : ∀ entry ∈ entries, entry ∈ d''.schema.entries) {fields fields' : List FieldSpec}
    (hfields : List.Forall₂ (Entity.Reads d') entries fields)
    (hfields' : List.Forall₂ (Entity.Reads d'') entries fields') :
    fields'.map (fun field => Client.requiredMember field.mapping)
      = fields.map fun field => Client.requiredMember field.mapping := by
  induction hfields generalizing fields' with
  | nil =>
    cases hfields'
    rfl
  | @cons entry field rest others hfirst _ ih =>
    obtain _ | ⟨hfirst', hrest'⟩ := hfields'
    next field' others' =>
      rw [List.forall_mem_cons] at hentries hentries'
      rw [List.map_cons, List.map_cons, ih hentries.2 hentries'.2 hrest']
      congr 1
      -- an added timestamp may have another presentation, which its member does not show
      by_cases hadded : entry.1 ∈ added
      · rw [h.requiredMember_added hentries.1 hfirst hadded,
          h'.requiredMember_added hentries'.1 hfirst' hadded]
      · rw [h.field_eq h' hadded hfirst hfirst']

end Document.GainsTimestamps

/-! ### Files -/

namespace Entity

/-- The interfaces, if the client side is generated. -/
def interfaceFiles (e : Entity) (s : Settings) : List Artifact :=
  if s.generateFrontend then
    [⟨.frontend, Client.interfacePath e.names, Client.interfaceText e⟩]
  else []

/-- The files between the interfaces and the views. -/
def filesBetween (e : Entity) (s : Settings) : List Artifact :=
  if s.generateFrontend then (e.clientFiles s).tail else []

theorem artifacts_eq_around_interfaces (e : Entity) (s : Settings) :
    e.artifacts s = e.interfaceFiles s ++ e.filesBetween s ++ e.viewFiles s ++ e.filesBehind s := by
  have hbefore : e.filesBefore s = e.interfaceFiles s ++ e.filesBetween s := by
    unfold filesBefore interfaceFiles filesBetween
    split <;> rfl
  rw [artifacts_eq, hbefore]

/-- The lines in front of the interface of what is received. -/
def linesBefore (e : Entity) : List String :=
  e.related.flatMap fun n => Client.relatedInterface n ++ [""]

/-- The lines behind the interface of what is received. -/
def linesBehind (e : Entity) : List String :=
  [""] ++ Client.createInterface e ++ [""] ++ Client.updateInterface e

theorem interfaceText_eq (e : Entity) :
    Client.interfaceText e = joinLines (e.linesBefore
      ++ Client.interfaceBlock e.names.capitalized
        ("  _id: string;" :: e.mappings.map Client.requiredMember)
      ++ e.linesBehind) := by
  simp only [Client.interfaceText, Client.interfaceLines, Client.readInterface, linesBefore,
    linesBehind, List.append_assoc]

namespace SendsAlike

variable {e e' : Entity} (h : e.SendsAlike e')

include h

theorem filesBetween_eq (s : Settings) : e'.filesBetween s = e.filesBetween s := by
  simp only [filesBetween, clientFiles, clientFilesWith, List.tail_cons, h.names, h.related]

theorem serverFiles_eq (s : Settings) : e'.serverFiles s = e.serverFiles s := by
  have hmodel : Server.modelText e' = Server.modelText e := by
    simp only [Server.modelText, Server.modelLines, Server.documentMembers, h.names, h.payload]
  have hrequired : Server.requiredList e' = Server.requiredList e := by
    rw [Server.requiredList, Server.requiredList, requiredKeys, requiredKeys, h.payload]
  have hdoc : Server.apiDocText e' = Server.apiDocText e := by
    simp only [Server.apiDocText, Server.apiDocBlocks, Server.componentBlock, hrequired, h.names,
      h.payload]
  rw [serverFiles, serverFiles, hmodel, hdoc, h.names]

theorem filesBehind_eq (s : Settings) : e'.filesBehind s = e.filesBehind s := by
  have hrelated : e'.relatedFiles s = e.relatedFiles s := by
    funext n
    rw [relatedFiles, relatedFiles, h.names]
  rw [filesBehind, filesBehind, h.serverFiles_eq, h.related, hrelated]

theorem linesBefore_eq : linesBefore e' = linesBefore e := by
  rw [linesBefore, linesBefore, h.related]

theorem linesBehind_eq : linesBehind e' = linesBehind e := by
  simp only [linesBehind, Client.createInterface, Client.updateInterface, h.names, h.payload]

end SendsAlike

end Entity

namespace View

/-- The lines of a view in front of its columns. -/
def linesBefore (t : Theme) (spec : Spec) : List String :=
  (templateLines spec ++ plain [""] ++ markup [["<script setup lang=\"ts\">"]] ++ importLines spec
    ++ plain ([""] ++ [""].intercalate [stateLines spec, openingLines spec, submitLines spec,
      editLines spec, deleteLines spec.names, toggleLines spec.names] ++ [""])).map t.line

/-- The lines of a view behind its columns. -/
def linesBehind (t : Theme) : List String :=
  (markup [["</script>"]] ++ plain ([""] ++ styleLines)).map t.line

theorem content_artifact (t : Theme) (spec : Spec) :
    (artifact t spec).content
      = joinLines (linesBefore t spec ++ columnArray spec.columns ++ linesBehind t) := by
  have hparts : [""].intercalate [stateLines spec, openingLines spec, submitLines spec,
        editLines spec, deleteLines spec.names, toggleLines spec.names, columnLines spec]
      = [""].intercalate [stateLines spec, openingLines spec, submitLines spec, editLines spec,
        deleteLines spec.names, toggleLines spec.names] ++ [""] ++ columnArray spec.columns := by
    simp [List.intercalate, List.intersperse, columnLines, columnArray]
  have hplain : (columnArray spec.columns) = (plain (columnArray spec.columns)).map t.line :=
    (map_line_plain t _).symm
  rw [linesBefore, linesBehind, hplain, ← List.map_append, ← List.map_append, artifact,
    Theme.render, componentLines, scriptLines, hparts]
  simp [plain]

/-- Views of entities that send alike differ in their columns only. -/
theorem gainsColumns {e e' : Entity} (h : e.SendsAlike e') {added : List String} (t : Theme)
    (hform : e.presented.filter FieldMapping.inPayload = e'.presented.filter FieldMapping.inPayload)
    (hpresented : e.presented = e'.presented.filter fun m => !added.contains m.key) :
    GainsColumns added (artifact t (.ofEntity e)).content (artifact t (.ofEntity e')).content := by
  have hspec :
      Spec.ofEntity e' = { Spec.ofEntity e with columns := e'.presented.map .ofMapping } := by
    simp only [Spec.ofEntity, h.names, h.related, h.payload, hform]
  have hbefore : linesBefore t (.ofEntity e') = linesBefore t (.ofEntity e) := by
    rw [hspec]
    rfl
  refine ⟨linesBefore t (.ofEntity e), (Spec.ofEntity e).columns, (Spec.ofEntity e').columns,
    linesBehind t, content_artifact t _, ?_, ?_⟩
  · rw [content_artifact, hbefore]
  · show e.presented.map _ = (e'.presented.map _).filter _
    rw [hpresented, List.filter_map]
    rfl

end View

/-! ### Documents with timestamps -/

theorem Document.gives_of_reads {d : Document} (hd : d.WellFormed) {fields : List FieldSpec}
    (hfields : List.Forall₂ (Entity.Reads d) d.schema.entries fields) {s : Settings}
    (hs : s.IsWritable) : d.Gives s ((Entity.ofFields d fields).artifacts s) :=
  have hfiles := Document.assembled_of_reads hd hfields hs
  ⟨hfiles, fun _ hparse => (assemble_eq_assembled hparse s).trans hfiles⟩

/-- Where the interfaces of an entity are. -/
def Entity.interfacePlaces (n : Names) (s : Settings) : List (Side × String) :=
  if s.generateFrontend then [(.frontend, Client.interfacePath n)] else []

namespace Document.GainsTimestamps

variable {d d' d'' : Document} {added : List String} (h : d.GainsTimestamps d' added)
  {fields' fields'' : List FieldSpec}
  (hfields' : List.Forall₂ (Entity.Reads d') d'.schema.entries fields')

include h

/-- The entity of a document without the added timestamps sends the same. -/
theorem sendsAlike (fields' : List FieldSpec) :
    (Entity.ofFields d (FieldSpec.without added fields')).SendsAlike
      (Entity.ofFields d' fields') where
  names := h.names_eq
  related := by
    show d'.targets.map _ = d.targets.map _
    rw [h.targets_eq]
  payload := (h.payload_kept fields').symm

include hfields'

theorem interfaceFiles_differ (s : Settings) :
    List.Forall₂ (Artifact.Differ (GainsMembers d.names added))
      ((Entity.ofFields d (FieldSpec.without added fields')).interfaceFiles s)
      ((Entity.ofFields d' fields').interfaceFiles s) := by
  have halike := h.sendsAlike fields'
  unfold Entity.interfaceFiles
  split
  next =>
    refine .cons ⟨rfl, ?_, ?_⟩ .nil
    · rw [halike.names]
    · refine ⟨_, _, _, _, Entity.interfaceText_eq _, ?_, ?_, h.members_perm hfields'⟩
      · rw [Entity.interfaceText_eq, halike.linesBefore_eq, halike.linesBehind_eq, halike.names]
        rfl
      · rw [Entity.mappings_kept d d']
        exact List.filter_sublist.map _
  next => exact .nil

/-- The interfaces do not show the presentations of added timestamps. -/
theorem interfaceFiles_eq (h' : d.GainsTimestamps d'' added) (hschema : d''.schema = d'.schema)
    (hfields'' : List.Forall₂ (Entity.Reads d'') d''.schema.entries fields'')
    (hkept : FieldSpec.without added fields'' = FieldSpec.without added fields') (s : Settings) :
    (Entity.ofFields d'' fields'').interfaceFiles s
      = (Entity.ofFields d' fields').interfaceFiles s := by
  have halike := h.sendsAlike fields'
  have halike' := h'.sendsAlike fields''
  rw [hkept] at halike'
  have hmembers : (Entity.ofFields d'' fields'').mappings.map Client.requiredMember
      = (Entity.ofFields d' fields').mappings.map Client.requiredMember := by
    show (fields''.map _).map _ = (fields'.map _).map _
    rw [List.map_map, List.map_map]
    rw [hschema] at hfields''
    exact h.members_eq h' (fun _ he => he) (fun _ he => hschema ▸ he) hfields' hfields''
  have htext : Client.interfaceText (Entity.ofFields d'' fields'')
      = Client.interfaceText (Entity.ofFields d' fields') := by
    rw [Entity.interfaceText_eq, Entity.interfaceText_eq, hmembers, halike.linesBefore_eq,
      halike'.linesBefore_eq, halike.linesBehind_eq, halike'.linesBehind_eq, halike.names,
      halike'.names]
  rw [Entity.interfaceFiles, Entity.interfaceFiles, htext, halike.names, halike'.names]

theorem viewFiles_differ (hd' : d'.WellFormed) (s : Settings) :
    List.Forall₂ (Artifact.Differ (GainsColumns added))
      ((Entity.ofFields d (FieldSpec.without added fields')).viewFiles s)
      ((Entity.ofFields d' fields').viewFiles s) := by
  have halike := h.sendsAlike fields'
  have hpresented := h.presented_kept fields'
  -- a form has the presented fields that are sent, and no timestamp is sent
  have hform := h.filter_inPayload_kept (Entity.presented_eq hfields' hd').1
  rw [← hpresented] at hform
  unfold Entity.viewFiles
  split
  next =>
    refine List.forall₂_map_left_iff.mpr (List.forall₂_map_right_iff.mpr ?_)
    refine List.forall₂_same.mpr fun t _ => ⟨rfl, ?_, View.gainsColumns halike t hform hpresented⟩
    show Client.viewPath t.name d'.names = Client.viewPath t.name d.names
    rw [h.names_eq]
  next => exact .nil

/-- Timestamps without presentations do not show in views. -/
theorem viewFiles_eq (hd' : d'.WellFormed) (hui : d'.ui = d.ui) (s : Settings) :
    (Entity.ofFields d' fields').viewFiles s
      = (Entity.ofFields d (FieldSpec.without added fields')).viewFiles s := by
  have halike := h.sendsAlike fields'
  have hspec : View.Spec.ofEntity (Entity.ofFields d' fields') = View.Spec.ofEntity
      (Entity.ofFields d (FieldSpec.without added fields')) := by
    simp only [View.Spec.ofEntity, halike.names, halike.related, halike.payload,
      h.presented_eq hd' hui hfields']
  rw [Entity.viewFiles, Entity.viewFiles, Entity.views, Entity.views, hspec]

end Document.GainsTimestamps

/-- Timestamps added to the schema of an accepted document, without presentations, make an accepted
document. Under all settings that can be written it has the same files, but for one line in the
interface of what is received for each of them. Whatever presentations they get in addition, these
show in the columns of the views only. -/
theorem timestamps_in_interface_and_columns {d d' : Document} {added : List String}
    (hvalid : d.findings.isValid = true) (h : d.GainsTimestamps d' added) (hui : d'.ui = d.ui) :
    d'.findings.isValid = true
      ∧ ∀ d'', d.GainsTimestamps d'' added → d''.schema = d'.schema →
        d''.findings.isValid = true
          ∧ ∀ s : Settings, s.IsWritable → ∃ interfaces interfaces' between views views'' behind,
            d.Gives s (interfaces ++ between ++ views ++ behind)
              ∧ d'.Gives s (interfaces' ++ between ++ views ++ behind)
              ∧ d''.Gives s (interfaces' ++ between ++ views'' ++ behind)
              ∧ interfaces.map (fun a => (a.side, a.path)) = Entity.interfacePlaces d.names s
              ∧ views.map (fun a => (a.side, a.path)) = Entity.viewPlaces d.names s
              ∧ List.Forall₂ (Artifact.Differ (GainsMembers d.names added)) interfaces interfaces'
              ∧ List.Forall₂ (Artifact.Differ (GainsColumns added)) views views'' := by
  rw [Document.isValid_findings] at hvalid
  have hd := Document.isAccepted_iff.mp hvalid
  have hd' := h.wellFormed hd
  obtain ⟨fields', hfields'⟩ := Entity.exists_forall₂_reads hd'.readable
  refine ⟨by rw [Document.isValid_findings]; exact Document.isAccepted_iff.mpr hd', ?_⟩
  intro d'' h'' hschema
  have hd'' := h''.wellFormed hd
  obtain ⟨fields'', hfields''⟩ := Entity.exists_forall₂_reads hd''.readable
  refine ⟨by rw [Document.isValid_findings]; exact Document.isAccepted_iff.mpr hd'',
    fun s hs => ?_⟩
  -- without the timestamps, either document with them has the fields of the first one
  have hkept : FieldSpec.without added fields'' = FieldSpec.without added fields' := by
    have hread := Entity.readFields_of_reads (h.reads_kept hfields')
    rw [Entity.readFields_of_reads (h''.reads_kept hfields'')] at hread
    exact Except.ok.inj hread
  -- all three documents have the files of the first one, but for interfaces and views
  have hfiles := Document.gives_of_reads hd (h.reads_kept hfields') hs
  have hfiles' := Document.gives_of_reads hd' hfields' hs
  have hfiles'' := Document.gives_of_reads hd'' hfields'' hs
  have halike := h.sendsAlike fields'
  have halike'' := h''.sendsAlike fields''
  have hviews := h''.viewFiles_differ hfields'' hd'' s
  rw [hkept] at halike'' hviews
  rw [Entity.artifacts_eq_around_interfaces] at hfiles
  rw [Entity.artifacts_eq_around_interfaces, halike.filesBetween_eq, halike.filesBehind_eq,
    h.viewFiles_eq hfields' hd' hui] at hfiles'
  rw [Entity.artifacts_eq_around_interfaces, halike''.filesBetween_eq, halike''.filesBehind_eq,
    h.interfaceFiles_eq hfields' h'' hschema hfields'' hkept] at hfiles''
  refine ⟨_, _, _, _, _, _, hfiles, hfiles', hfiles'', ?_, Entity.places_viewFiles _ s,
    h.interfaceFiles_differ hfields' s, hviews⟩
  rw [Entity.interfaceFiles, Entity.interfacePlaces]
  split <;> rfl

/-- The document about tasks without its timestamps. -/
def plainTaskDocument : Document :=
  { taskDocument with
    schema := .ofList [("title", "string"), ("done", "boolean"), ("owner", "relationship:user")]
    ui := .ofList [("owner", {}), ("done", {}), ("title", {})] }

/-- Tasks have timestamps between their fields, and a presentation of one of them. -/
theorem tasks_with_timestamps :
    plainTaskDocument.findings.isValid = true
      ∧ plainTaskDocument.GainsTimestamps taskDocument ["createdAt", "updatedAt"]
      ∧ taskDocument.findings.isValid = true
      ∧ ∃ interfaces interfaces' between views views'' behind,
        plainTaskDocument.Gives {} (interfaces ++ between ++ views ++ behind)
          ∧ taskDocument.Gives {} (interfaces' ++ between ++ views'' ++ behind)
          ∧ interfaces.map (·.path) = ["interfaces/task.interface.ts"]
          ∧ List.Forall₂ (Artifact.Differ
              (GainsMembers plainTaskDocument.names ["createdAt", "updatedAt"]))
            interfaces interfaces'
          ∧ List.Forall₂ (Artifact.Differ (GainsColumns ["createdAt", "updatedAt"]))
            views views'' := by
  have hvalid : plainTaskDocument.findings.isValid = true := by decide +kernel
  have hplain : plainTaskDocument.GainsTimestamps
      { plainTaskDocument with schema := taskDocument.schema } ["createdAt", "updatedAt"] :=
    ⟨rfl, rfl, rfl, by decide, by decide, by decide, by decide, by decide⟩
  have hpresented : plainTaskDocument.GainsTimestamps taskDocument ["createdAt", "updatedAt"] :=
    ⟨rfl, rfl, rfl, by decide, by decide, by decide, by decide, by decide⟩
  obtain ⟨-, hall⟩ := timestamps_in_interface_and_columns hvalid hplain rfl
  obtain ⟨hvalid', hfiles⟩ := hall taskDocument hpresented rfl
  obtain ⟨interfaces, interfaces', between, views, views'', behind, hgives, -, hgives'', hplaces, -,
    hmembers, hcolumns⟩ := hfiles {} Settings.isWritable_default
  refine ⟨hvalid, hpresented, hvalid', interfaces, interfaces', between, views, views'', behind,
    hgives, hgives'', ?_, hmembers, hcolumns⟩
  rw [Entity.map_path_eq, hplaces]
  decide

end Scaffold
