import Scaffold.Proofs.Assembly

/-!
# What presentations decide

The mapping of a field carries its label, its placeholder, its control and the type of its column to
every file, but only views look at them, and only views follow the order of the presentations. So
every other file of an entity is that of the bare entity, which lacks them (`clientFiles_bare`,
`serverFiles_bare`). Documents that say the same and are presented otherwise have one bare entity,
and with it the same files but for the views (`presented_otherwise_in_views_only`).
-/

namespace Scaffold

/-- What a presentation says of a field beside its looks. -/
def UiHint.substance (h : UiHint) : Bool × Option (List String) := (h.required, h.options)

/-- A document that says the same as another one and is presented otherwise: its presentations may
come in another order, and differ in the looks of a field. -/
structure Document.PresentedOtherwise (d d' : Document) : Prop where
  version : d'.version = d.version
  name : d'.name = d.name
  overrides : d'.overrides = d.overrides
  schema : d'.schema = d.schema
  /-- The same fields have presentations, which ask alike for values and offer the same options. -/
  substance : (d'.ui.mapValues fun _ => UiHint.substance).entries.Perm
    (d.ui.mapValues fun _ => UiHint.substance).entries

/-! ### Files of bare entities -/

/-- A mapping without what only views look at. -/
def FieldMapping.bare (m : FieldMapping) : FieldMapping :=
  { m with label := "", placeholder := "", control := .text, columnType := "" }

namespace Entity

/-- An entity without its document and what only views look at. -/
def bare (e : Entity) : Entity where
  document := default
  names := e.names
  fields := []
  mappings := e.mappings.map FieldMapping.bare
  related := e.related

@[simp] theorem payload_bare (e : Entity) : e.bare.payload = e.payload.map FieldMapping.bare := by
  rw [payload, payload, bare, List.filter_map]
  rfl

@[simp] theorem requiredKeys_bare (e : Entity) : e.bare.requiredKeys = e.requiredKeys := by
  rw [requiredKeys, requiredKeys, payload_bare, List.filter_map, List.map_map]
  rfl

section

variable {β : Type} {f : FieldMapping → β}

/-- What does not look at the looks of fields sees the same fields. -/
theorem map_payload_bare (h : ∀ m : FieldMapping, f m.bare = f m) (e : Entity) :
    e.bare.payload.map f = e.payload.map f := by
  rw [payload_bare, List.map_map]
  exact List.map_congr_left fun m _ => h m

theorem map_mappings_bare (h : ∀ m : FieldMapping, f m.bare = f m) (e : Entity) :
    e.bare.mappings.map f = e.mappings.map f := by
  show (e.mappings.map FieldMapping.bare).map f = e.mappings.map f
  rw [List.map_map]
  exact List.map_congr_left fun m _ => h m

theorem flatMap_payload_bare {f : FieldMapping → List β} (h : ∀ m : FieldMapping, f m.bare = f m)
    (e : Entity) : e.bare.payload.flatMap f = e.payload.flatMap f := by
  rw [List.flatMap_def, List.flatMap_def, map_payload_bare h]

end

/-- The interfaces do not show how an entity is presented. -/
theorem interfaceText_bare (e : Entity) : Client.interfaceText e.bare = Client.interfaceText e := by
  have hread : Client.readInterface e.bare = Client.readInterface e := by
    rw [Client.readInterface, Client.readInterface, map_mappings_bare fun _ => rfl]
    rfl
  have hcreate : Client.createInterface e.bare = Client.createInterface e := by
    rw [Client.createInterface, Client.createInterface, map_payload_bare fun _ => rfl]
    rfl
  have hupdate : Client.updateInterface e.bare = Client.updateInterface e := by
    rw [Client.updateInterface, Client.updateInterface, map_payload_bare fun _ => rfl]
    rfl
  rw [Client.interfaceText, Client.interfaceText, Client.interfaceLines, Client.interfaceLines,
    hread, hcreate, hupdate]
  rfl

/-- The model does not show how an entity is presented. -/
@[simp] theorem modelText_bare (e : Entity) : Server.modelText e.bare = Server.modelText e := by
  have hmembers : Server.documentMembers e.bare = Server.documentMembers e := by
    rw [Server.documentMembers, Server.documentMembers, map_payload_bare fun _ => rfl]
  rw [Server.modelText, Server.modelText, Server.modelLines, Server.modelLines, hmembers,
    flatMap_payload_bare fun _ => rfl]
  rfl

/-- The API document does not show how an entity is presented. -/
@[simp] theorem apiDocText_bare (e : Entity) : Server.apiDocText e.bare = Server.apiDocText e := by
  have hcomponent : Server.componentBlock e.bare = Server.componentBlock e := by
    rw [Server.componentBlock, Server.componentBlock, Server.requiredList, Server.requiredList,
      requiredKeys_bare, flatMap_payload_bare fun _ => rfl]
    rfl
  rw [Server.apiDocText, Server.apiDocText, Server.apiDocBlocks, Server.apiDocBlocks, hcomponent]
  rfl

@[simp]
theorem clientFiles_bare (e : Entity) (s : Settings) : e.bare.clientFiles s = e.clientFiles s := by
  rw [clientFiles, clientFiles, clientFilesWith, clientFilesWith, interfaceText_bare]
  rfl

@[simp]
theorem serverFiles_bare (e : Entity) (s : Settings) : e.bare.serverFiles s = e.serverFiles s := by
  rw [serverFiles, serverFiles, modelText_bare, apiDocText_bare]
  rfl

/-! ### Files around the views -/

/-- The files in front of the views. -/
def filesBefore (e : Entity) (s : Settings) : List Artifact :=
  if s.generateFrontend then e.clientFiles s else []

/-- The files behind the views. -/
def filesBehind (e : Entity) (s : Settings) : List Artifact :=
  (if s.generateBackend then e.serverFiles s else [])
    ++ (if s.generateFrontend then e.related.flatMap (e.relatedFiles s) else [])

/-- The views, if the client side is generated. -/
def viewFiles (e : Entity) (s : Settings) : List Artifact :=
  if s.generateFrontend then e.views Theme.builtIn else []

theorem artifacts_eq (e : Entity) (s : Settings) :
    e.artifacts s = e.filesBefore s ++ e.viewFiles s ++ e.filesBehind s := by
  unfold artifacts filesBefore viewFiles filesBehind
  cases s.generateFrontend <;> simp

@[simp]
theorem filesBefore_bare (e : Entity) (s : Settings) : e.bare.filesBefore s = e.filesBefore s := by
  rw [filesBefore, filesBefore, clientFiles_bare]

@[simp]
theorem filesBehind_bare (e : Entity) (s : Settings) : e.bare.filesBehind s = e.filesBehind s := by
  rw [filesBehind, filesBehind, serverFiles_bare]
  rfl

theorem map_path_eq (files : List Artifact) :
    files.map (·.path) = (files.map fun a => (a.side, a.path)).map (·.2) := by
  rw [List.map_map]
  rfl

/-- Where the views of an entity are. -/
def viewPlaces (n : Names) (s : Settings) : List (Side × String) :=
  if s.generateFrontend then Theme.builtIn.map fun t => (.frontend, Client.viewPath t.name n)
  else []

theorem places_viewFiles (e : Entity) (s : Settings) :
    (e.viewFiles s).map (fun a => (a.side, a.path)) = viewPlaces e.names s := by
  unfold viewFiles viewPlaces
  split
  next =>
    rw [views, List.map_map]
    rfl
  next => rfl

end Entity

/-! ### Documents that are presented otherwise -/

/-- The bare mapping of a field depends on its key, its type and whether it asks for a value. -/
theorem FieldSpec.bare_mapping {a b : FieldSpec} (hkey : a.key = b.key) (htype : a.type = b.type)
    (hrequired : a.required = b.required) : a.mapping.bare = b.mapping.bare := by
  have htimestamp : a.isTimestamp = b.isTimestamp := by
    rw [isTimestamp, isTimestamp, hkey]
  unfold mapping
  rw [htype, htimestamp]
  cases htype' : b.type with
  | relationship entity cardinality =>
    simp only [FieldMapping.bare, relationshipMapping, hkey, htype, hrequired, htimestamp]
  | enum options =>
    simp only [FieldMapping.bare, enumMapping, hkey, htype, hrequired, htimestamp]
  | primitive kind =>
    dsimp only
    split
    · simp only [FieldMapping.bare, timestampMapping, hkey, htype, hrequired, htimestamp]
    · simp only [FieldMapping.bare, scalarMapping, hkey, htype, hrequired, htimestamp]

namespace Document.PresentedOtherwise

variable {d d' : Document} (h : d.PresentedOtherwise d')

include h

theorem names_eq : d'.names = d.names := by
  rw [names, names, h.name, h.overrides]

/-- The presentations of a field say the same. -/
theorem map_substance_eq (key : String) :
    (d'.ui.get? key).map UiHint.substance = (d.ui.get? key).map UiHint.substance := by
  have hget := Keyed.get?_eq_of_perm h.substance key
  rwa [Keyed.get?_mapValues, Keyed.get?_mapValues] at hget

/-- The same fields have presentations. -/
theorem mem_keys_iff {key : String} : key ∈ d'.ui.keys ↔ key ∈ d.ui.keys := by
  have hsubstance := h.map_substance_eq key
  rw [Keyed.mem_keys, Keyed.mem_keys, ← Option.isSome_iff_exists, ← Option.isSome_iff_exists,
    ← Option.isSome_map (f := UiHint.substance), hsubstance, Option.isSome_map]

/-- The same options are offered for a field. -/
theorem optionList_eq (key : String) :
    UiHint.optionList (d'.ui.get? key) = UiHint.optionList (d.ui.get? key) := by
  have hoptions : ∀ hint : Option UiHint,
      UiHint.optionList hint = ((hint.map UiHint.substance).bind (·.2)).getD [] := by
    intro hint
    cases hint <;> rfl
  rw [hoptions, hoptions, h.map_substance_eq key]

/-- A value is asked for alike. -/
theorem required_eq (key : String) :
    (d'.ui.get? key).any (·.required) = (d.ui.get? key).any (·.required) := by
  have hrequired : ∀ hint : Option UiHint,
      hint.any (·.required) = (hint.map UiHint.substance).any (·.1) := by
    intro hint
    cases hint <;> rfl
  rw [hrequired, hrequired, h.map_substance_eq key]

/-- The same types are read. -/
theorem typeOf_eq (key descriptor : String) :
    d'.typeOf key descriptor = d.typeOf key descriptor := by
  rw [typeOf, typeOf, h.optionList_eq]

theorem targets_eq : d'.targets = d.targets := by
  have htarget : d'.target? = d.target? := by
    funext field
    rw [target?, target?, h.typeOf_eq]
  rw [targets, targets, h.schema, htarget]

/-- How a document is presented does not decide whether it is well formed. -/
theorem wellFormed (hd : d.WellFormed) : d'.WellFormed where
  capitalized := h.overrides ▸ hd.capitalized
  plural := h.overrides ▸ hd.plural
  capitalizedPlural := h.overrides ▸ hd.capitalizedPlural
  path := h.overrides ▸ hd.path
  nameFree := h.names_eq ▸ hd.nameFree
  pluralFree := h.names_eq ▸ hd.pluralFree
  keys := h.schema ▸ hd.keys
  -- the map of hints has the same keys, and no change in it touches a type
  presented key hkey hedited := h.mem_keys_iff.mpr (hd.presented key (h.schema ▸ hkey) hedited)
  declared key hkey := h.schema ▸ hd.declared key (h.mem_keys_iff.mp hkey)
  readable := by
    rw [h.schema]
    intro field hfield
    rw [h.typeOf_eq]
    exact hd.readable field hfield
  timestamps := by
    rw [h.schema]
    intro field hfield
    rw [h.typeOf_eq]
    exact hd.timestamps field hfield
  targets := by
    rw [h.schema]
    intro field hfield target cardinality htype
    rw [h.typeOf_eq] at htype
    exact (hd.targets field hfield target cardinality htype).of_names_eq h.name h.names_eq

/-- The fields that both documents say have the same bare mappings. -/
theorem map_bare_eq {entries : List (String × String)} {fields fields' : List FieldSpec}
    (hfields : List.Forall₂ (Entity.Reads d) entries fields)
    (hfields' : List.Forall₂ (Entity.Reads d') entries fields') :
    fields'.map (·.mapping.bare) = fields.map (·.mapping.bare) := by
  induction hfields generalizing fields' with
  | nil =>
    cases hfields'
    rfl
  | @cons entry field rest others hfirst _ ih =>
    obtain _ | ⟨hfirst', hrest'⟩ := hfields'
    next field' others' =>
      have htype : field'.type = field.type := by
        have := hfirst'.type
        rw [h.typeOf_eq, hfirst.type] at this
        exact (Except.ok.inj this).symm
      have hrequired : field'.required = field.required := by
        rw [FieldSpec.required, FieldSpec.required, hfirst'.hint, hfirst.hint, h.required_eq]
      rw [List.map_cons, List.map_cons, ih hrest',
        FieldSpec.bare_mapping (hfirst'.key.trans hfirst.key.symm) htype hrequired]

/-- Both documents have one bare entity. -/
theorem bare_ofFields {fields fields' : List FieldSpec}
    (hfields : List.Forall₂ (Entity.Reads d) d.schema.entries fields)
    (hfields' : List.Forall₂ (Entity.Reads d') d'.schema.entries fields') :
    (Entity.ofFields d' fields').bare = (Entity.ofFields d fields).bare := by
  rw [h.schema] at hfields'
  have hmappings := h.map_bare_eq hfields hfields'
  simp only [Entity.bare, Entity.ofFields, List.map_map, Function.comp_def, h.names_eq,
    h.targets_eq, hmappings]

end Document.PresentedOtherwise

/-- A document that says the same as an accepted one is accepted however it is presented. Under all
settings that can be written both have artifacts at the same places, which are the same but for the
views. -/
theorem presented_otherwise_in_views_only {d d' : Document} (hvalid : d.findings.isValid = true)
    (h : d.PresentedOtherwise d') :
    d'.findings.isValid = true
      ∧ ∀ s : Settings, s.IsWritable → ∃ before views views' behind,
        d.assembled s = .ok (before ++ views ++ behind)
          ∧ d'.assembled s = .ok (before ++ views' ++ behind)
          ∧ views.map (fun a => (a.side, a.path)) = Entity.viewPlaces d.names s
          ∧ views'.map (fun a => (a.side, a.path)) = Entity.viewPlaces d.names s
          ∧ (∀ v, Document.parse v = .ok d → assemble v s = .ok (before ++ views ++ behind))
          ∧ ∀ v', Document.parse v' = .ok d' →
            assemble v' s = .ok (before ++ views' ++ behind) := by
  rw [Document.isValid_findings] at hvalid
  have hd := Document.isAccepted_iff.mp hvalid
  have hd' := h.wellFormed hd
  refine ⟨by rw [Document.isValid_findings]; exact Document.isAccepted_iff.mpr hd',
    fun s hs => ?_⟩
  obtain ⟨fields, hfields⟩ := Entity.exists_forall₂_reads hd.readable
  obtain ⟨fields', hfields'⟩ := Entity.exists_forall₂_reads hd'.readable
  have hbare := h.bare_ofFields hfields hfields'
  have hfiles := Document.assembled_of_reads hd hfields hs
  have hfiles' := Document.assembled_of_reads hd' hfields' hs
  -- both entities have the files of the bare one around their views
  rw [Entity.artifacts_eq] at hfiles
  rw [Entity.artifacts_eq, ← Entity.filesBefore_bare, ← Entity.filesBehind_bare, hbare,
    Entity.filesBefore_bare, Entity.filesBehind_bare] at hfiles'
  refine ⟨_, _, _, _, hfiles, hfiles', Entity.places_viewFiles _ s, ?_, ?_, ?_⟩
  · rw [Entity.places_viewFiles, ← h.names_eq]
    rfl
  · intro v hparse
    exact (assemble_eq_assembled hparse s).trans hfiles
  · intro v' hparse
    exact (assemble_eq_assembled hparse s).trans hfiles'

/-- The document about orders with its presentations turned round and labelled anew. -/
def relabelledOrderDocument : Document :=
  { orderDocument with ui := .ofList [("gift", { type := "select", label := "Present" }),
    ("items", { placeholder := "Anything" }), ("buyer", { apiRef := some "customers" })] }

/-- Orders have the same files but for their views when they are presented otherwise. -/
theorem orders_presented_otherwise :
    orderDocument.findings.isValid = true ∧ orderDocument.PresentedOtherwise relabelledOrderDocument
      ∧ Document.parse orderValue = .ok orderDocument
      ∧ relabelledOrderDocument.findings.isValid = true
      ∧ ∃ before views views' behind,
        relabelledOrderDocument.assembled {} = .ok (before ++ views' ++ behind)
          ∧ assemble orderValue {} = .ok (before ++ views ++ behind)
          ∧ views.map (·.path) = ["views/OrderBootstrap.vue", "views/OrderFomantic.vue"]
          ∧ views'.map (·.path) = views.map (·.path) := by
  have hother : orderDocument.PresentedOtherwise relabelledOrderDocument :=
    ⟨rfl, rfl, rfl, rfl, by decide⟩
  obtain ⟨hvalid, hall⟩ := presented_otherwise_in_views_only isValid_orderDocument hother
  obtain ⟨before, views, views', behind, -, hfiles', hplaces, hplaces', hvalue, -⟩ :=
    hall {} Settings.isWritable_default
  refine ⟨isValid_orderDocument, hother, parse_orderValue, hvalid, before, views, views', behind,
    hfiles', hvalue orderValue parse_orderValue, ?_, ?_⟩
  · rw [Entity.map_path_eq, hplaces]
    decide
  · rw [Entity.map_path_eq, Entity.map_path_eq, hplaces, hplaces']

end Scaffold
