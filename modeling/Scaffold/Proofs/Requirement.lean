import Scaffold.Proofs.Client.Fields
import Scaffold.Proofs.Server.Fields
import Scaffold.Proofs.Text.Decoding
import Scaffold.Proofs.Text.Occurrences

/-!
# Required fields

Whether a value is required is said by the presentation of a field (`Document.asksFor`), and by
nothing else. The interfaces mark what may be left out, the model and the API document mark what may
not. Each of these marks is shown to stand where the presentation asks for a value, and only there
(`interfacesAsk`, `modelAsks`, `apiDocAsks`).
-/

namespace Scaffold

/-- Whether the presentation of a key asks for a value. -/
def Document.asksFor (d : Document) (key : String) : Bool := (d.ui.get? key).any (·.required)

/-- Whether the form has a check box for a key: its field is a boolean, or a scalar that is
presented as one. -/
def Document.isTicked (d : Document) (key : String) : Bool :=
  match d.schema.get? key with
  | some descriptor =>
    match d.typeOf key descriptor with
    | .ok (.primitive kind) => (d.ui.get? key).any (·.type == "boolean") || kind == .boolean
    | _ => false
  | none => false

/-- What is sent to make an entity may lack what is not asked for, and what is sent to change it may
lack everything. -/
structure Client.InterfacesAsk (d : Document) (content : String) : Prop where
  created : ∃ members, List.Forall₂ (fun key line =>
      IsMember (if d.asksFor key then "" else "?") key line
        ∧ ('?' ∉ line.toList ↔ d.asksFor key = true)) d.editedKeys members
    ∧ HasLines content (["export interface Create" ++ d.names.capitalized ++ "Dto \x7b"] ++ members
      ++ ["\x7d"])
  updated : ∃ members, List.Forall₂ (IsMember "?") d.editedKeys members
    ∧ HasLines content (["export interface Update" ++ d.names.capitalized ++ "Dto \x7b"] ++ members
      ++ ["\x7d"])

/-- The schema of a model has a block for each edited key, with a line that requires a value where
one is asked for. -/
def Server.ModelAsks (d : Document) (content : String) : Prop :=
  ∃ blocks, List.Forall₂ (fun key block => IsSchemaBlock key block
      ∧ ((∃ line ∈ block, "    required: [true, ".toList <+: line.toList) ↔ d.asksFor key = true))
      d.editedKeys blocks
    ∧ HasLines content (["const " ++ d.names.name ++ "Schema = new Schema(\x7b"]
      ++ blocks.flatten ++ ["\x7d, \x7b", "  timestamps: true", "\x7d);"])

/-- Between the type of the component and its properties stands a list of the keys that are asked
for, or nothing where there are none. -/
structure Server.RequiresAsked (d : Document) (listing : List String) : Prop where
  shape : listing = [] ∨ ∃ first items, listing = "      required:" :: first :: items
  present : "      required:" ∈ listing ↔ ∃ key ∈ d.editedKeys, d.asksFor key = true
  keys : listing.filterMap (Text.between? "        - " "") = d.editedKeys.filter d.asksFor

def Server.ApiDocAsks (d : Document) (content : String) : Prop :=
  ∃ listing, RequiresAsked d listing
    ∧ HasLines content ((["components:", "  schemas:", "    " ++ d.names.capitalized ++ ":",
      "      type: object"] ++ listing ++ ["      properties:"]).map (" * " ++ ·))

/-- No other line of a schema block begins like one that requires a value. -/
theorem Server.exists_required_iff {m : FieldMapping}
    (hkey : Identifier.isIdentifier m.key = true) :
    (∃ line ∈ Server.schemaBlock m, "    required: [true, ".toList <+: line.toList)
      ↔ m.required = true := by
  -- every other line of the block begins otherwise
  have hopening : ¬ "    required: [true, ".toList <+: ("  " ++ m.key ++ ": \x7b").toList := by
    obtain ⟨c, tail, hchars, hblank⟩ := Identifier.exists_cons_of_isIdentifier hkey
    have hdiffers : Text.differs "    required: [true, ".toList [' ', ' ', c] = true := by
      simp [Text.differs, hblank.symm]
    exact Text.not_prefix_of_begins hdiffers (by simp [hchars])
  have hstored : ∀ line ∈ Server.storedLines m,
      ¬ "    required: [true, ".toList <+: line.toList := by
    intro line hline
    have hbegins : "    t".toList <+: line.toList ∨ "    ref".toList <+: line.toList := by
      unfold Server.storedLines at hline
      split at hline
      · rw [List.mem_singleton.mp hline]
        exact .inl (by simp)
      · rcases List.mem_cons.mp hline with rfl | hline
        · exact .inl (by simp)
        · split at hline
          · split at hline
            · cases hline
            · rw [List.mem_singleton.mp hline]
              exact .inr (by simp)
          · cases hline
    exact hbegins.elim (Text.not_prefix_of_begins rfl) (Text.not_prefix_of_begins rfl)
  have hoptions : ∀ line ∈ Server.optionLines m,
      ¬ "    required: [true, ".toList <+: line.toList := by
    intro line hline
    unfold Server.optionLines at hline
    split at hline
    · cases hline
    · have hbegins : "    e".toList <+: line.toList := by
        rw [List.mem_singleton.mp hline]
        simp
      exact Text.not_prefix_of_begins rfl hbegins
  have hclosing : ¬ "    required: [true, ".toList <+: "  \x7d,".toList := by decide
  constructor
  · rintro ⟨line, hline, hbegins⟩
    simp only [Server.schemaBlock, List.mem_append, List.mem_singleton] at hline
    rcases hline with (((rfl | hline) | hline) | hline) | rfl
    · exact absurd hbegins hopening
    · exact absurd hbegins (hstored line hline)
    · exact absurd hbegins (hoptions line hline)
    · unfold Server.requiredLines at hline
      split at hline
      next hrequired => exact hrequired
      next => cases hline
    · exact absurd hbegins hclosing
  · intro hrequired
    refine ⟨"    required: [true, " ++ Text.literal (m.key ++ " is required") ++ "],",
      ?_, by simp⟩
    rw [Server.schemaBlock, Server.requiredLines, if_pos hrequired]
    simp

/-- The list of an entity that requires the keys that are asked for. -/
theorem Server.requiresAsked_requiredList {d : Document} {e : Entity}
    (hkeys : e.requiredKeys = d.editedKeys.filter d.asksFor) :
    RequiresAsked d (requiredList e) := by
  have hitem : ∀ key, Text.between? "        - " "" ("        - " ++ key) = some key := by
    intro key
    simpa using Text.between?_append "        - " key ""
  have hheader : Text.between? "        - " "" "      required:" = none :=
    Text.between?_of_not_prefix (by decide) ""
  have hasked : (∃ key ∈ d.editedKeys, d.asksFor key = true) ↔ e.requiredKeys ≠ [] := by
    rw [hkeys, Ne, List.filter_eq_nil_iff]
    simp
  -- the list has a header and a line for each key, and without a key it has neither
  unfold requiredList
  cases hrequired : e.requiredKeys with
  | nil =>
    rw [hrequired] at hkeys hasked
    refine ⟨.inl rfl, ?_, hkeys⟩
    rw [hasked]
    simp
  | cons first others =>
    rw [hrequired] at hkeys hasked
    refine ⟨.inr ⟨_, _, rfl⟩, ?_, ?_⟩
    · rw [hasked]
      simp
    · rw [← hkeys, List.isEmpty_cons, if_neg (by decide), List.filterMap_cons, hheader,
        List.filterMap_map]
      simp only [Function.comp_def, hitem]
      exact List.filterMap_some

/-- The list stands between the type of the component and its properties. -/
theorem Server.hasLines_requiredList (e : Entity) :
    HasLines (apiDocText e) ((["components:", "  schemas:", "    " ++ e.names.capitalized ++ ":",
      "      type: object"] ++ requiredList e ++ ["      properties:"]).map (" * " ++ ·)) := by
  apply hasLines_joinLines
  have hcomponent : ["components:", "  schemas:", "    " ++ e.names.capitalized ++ ":",
      "      type: object"] ++ requiredList e ++ ["      properties:"] <:+: componentBlock e := by
    have hsplit : componentBlock e = (["components:", "  schemas:",
        "    " ++ e.names.capitalized ++ ":", "      type: object"] ++ requiredList e
          ++ ["      properties:"])
        ++ (identityProperty ++ e.payload.flatMap property
          ++ timestampFields.flatMap timestampProperty) := by
      simp [componentBlock, identityProperty]
    rw [hsplit]
    exact (List.prefix_append _ _).isInfix
  have hblock : (componentBlock e).map (" * " ++ ·) <:+: docBlock (componentBlock e) :=
    List.infix_append _ _ _
  exact ((hcomponent.map _).trans hblock).trans (infix_intercalate List.mem_cons_self)

section

variable {d : Document} {fields : List FieldSpec} (hd : d.WellFormed)
  (hfields : List.Forall₂ (Entity.Reads d) d.schema.entries fields)

include hfields

/-- A mapping is required where its presentation asks for a value. -/
theorem Entity.required_eq_asksFor {m : FieldMapping} (hm : m ∈ (ofFields d fields).mappings) :
    m.required = d.asksFor m.key := by
  obtain ⟨field, hfield, rfl⟩ := List.mem_map.mp hm
  obtain ⟨entry, -, hreads⟩ := exists_reads_of_mem hfields hfield
  rw [FieldSpec.required_mapping, FieldSpec.required, hreads.hint, FieldSpec.key_mapping,
    hreads.key]
  rfl

/-- A mapping has a check box where the document says so. -/
theorem Entity.control_eq_checkbox_iff {m : FieldMapping} (hm : m ∈ (ofFields d fields).mappings) :
    m.control = .checkbox ↔ d.isTicked m.key = true := by
  obtain ⟨field, hfield, rfl⟩ := List.mem_map.mp hm
  obtain ⟨entry, hentry, hreads⟩ := exists_reads_of_mem hfields hfield
  have hdescriptor : d.schema.get? entry.1 = some entry.2 := Keyed.get?_eq_some.mpr hentry
  rw [FieldSpec.control_mapping, FieldSpec.key_mapping, hreads.key, Document.isTicked, hdescriptor]
  simp only [hreads.type]
  unfold FieldSpec.control
  cases field.type with
  | relationship => simp
  | enum => simp
  | primitive kind =>
    have hwidget : field.widget = "boolean"
        ↔ (d.ui.get? entry.1).any (·.type == "boolean") = true := by
      rw [FieldSpec.widget, hreads.hint]
      cases d.ui.get? entry.1 <;> simp
    have hcheckbox : FieldSpec.scalarControl field.widget kind = .checkbox
        ↔ field.widget = "boolean" ∨ kind = .boolean := by
      unfold FieldSpec.scalarControl
      split_ifs <;> simp_all
    simp [hcheckbox, hwidget]

/-- The required keys are those that are asked for, in schema order. -/
theorem Entity.requiredKeys_eq :
    (ofFields d fields).requiredKeys = d.editedKeys.filter d.asksFor := by
  rw [← map_key_payload hfields, List.filter_map, requiredKeys]
  refine congrArg _ (List.filter_congr fun m hm => ?_)
  exact required_eq_asksFor hfields (List.mem_filter.mp hm).1

namespace Client

include hd

/-- A member has a mark just when it may be left out. -/
theorem mark_notMem_createMember {m : FieldMapping} (hm : m ∈ (Entity.ofFields d fields).mappings) :
    '?' ∉ (createMember m).toList ↔ m.required = true := by
  have hident := Entity.isIdentifier_key hd hfields hm
  obtain ⟨field, hfield, rfl⟩ := List.mem_map.mp hm
  have hkey : '?' ∉ field.key.toList :=
    Identifier.notMem_of_isIdentifier (field.key_mapping ▸ hident) (by decide) (by decide)
  have htype : '?' ∉ field.mapping.clientType.toList :=
    FieldSpec.notMem_clientType (fun target htarget =>
      Entity.isExactEntityName_of_target? hd hfields hfield htarget) (by decide) (by decide)
      (by decide)
  unfold createMember
  cases field.mapping.required with
  | true => simp [requiredMember, hkey, htype]
  | false => simp [optionalMember]

theorem interfacesAsk : InterfacesAsk d (interfaceText (Entity.ofFields d fields)) where
  created := by
    refine ⟨(Entity.ofFields d fields).payload.map createMember, ?_, hasLines_created _⟩
    rw [← Entity.map_key_payload hfields]
    refine forall₂_map_key fun m hm => ?_
    have hmapping := (List.mem_filter.mp hm).1
    rw [← Entity.required_eq_asksFor hfields hmapping]
    refine ⟨?_, mark_notMem_createMember hd hfields hmapping⟩
    obtain ⟨hrequired, hoptional⟩ := isMember_of_mem_mappings hd hfields hmapping
    unfold createMember
    cases m.required with
    | true => exact hrequired
    | false => exact hoptional
  updated := (interfacesShow hd hfields).updated

end Client

namespace Server

theorem apiDocAsks : ApiDocAsks d (apiDocText (Entity.ofFields d fields)) :=
  ⟨_, requiresAsked_requiredList (Entity.requiredKeys_eq hfields), hasLines_requiredList _⟩

include hd

theorem modelAsks : ModelAsks d (modelText (Entity.ofFields d fields)) := by
  refine ⟨(Entity.ofFields d fields).payload.map schemaBlock, ?_, ?_⟩
  · rw [← Entity.map_key_payload hfields]
    refine forall₂_map_key fun m hm => ⟨isSchemaBlock_of_mem_payload hd hfields hm, ?_⟩
    have hmapping := (List.mem_filter.mp hm).1
    rw [← Entity.required_eq_asksFor hfields hmapping]
    exact exists_required_iff (Entity.isIdentifier_key hd hfields hmapping)
  · rw [← List.flatMap_def]
    exact hasLines_schemaBlocks _

end Server

end

end Scaffold
