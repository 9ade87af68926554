import Scaffold.Proofs.Field
import Scaffold.Proofs.Script
import Scaffold.Server.ApiDoc
import Scaffold.Server.Model

/-!
# Fields on the server

The model and the API document list the fields that are edited, in schema order. The model has them
in front of the timestamps in its document interface, and alone in the database schema; the API
document has them between the identity and the timestamps.
-/

namespace Scaffold.Server

open Text

/-- The line of a document interface for a key. -/
def IsDocumentMember (key line : String) : Prop :=
  ∃ type, ',' ∉ type.toList ∧ IsEntry ("  " ++ key ++ ": " ++ type) line

/-- The block of a database schema for a key. -/
def IsSchemaBlock (key : String) (block : List String) : Prop :=
  ∃ inner, (∀ line ∈ inner, IsInner "    " line)
    ∧ block = ["  " ++ key ++ ": \x7b"] ++ inner ++ ["  \x7d,"]

/-- The lines of an API document for a property. -/
def IsProperty (key : String) (block : List String) : Prop :=
  ∃ inner, (∀ line ∈ inner, IsInner "          " line) ∧ block = ("        " ++ key ++ ":") :: inner

/-- The file with the model lists the edited keys, in front of the timestamps in its interface. -/
structure ModelShows (n : Names) (edited : List String) (content : String) : Prop where
  members : ∃ members, List.Forall₂ IsDocumentMember (edited ++ ["createdAt", "updatedAt"]) members
    ∧ HasLines content (["export interface I" ++ n.capitalized ++ " extends Document \x7b"]
      ++ members ++ ["\x7d"])
  blocks : ∃ blocks, List.Forall₂ IsSchemaBlock edited blocks
    ∧ HasLines content (["const " ++ n.name ++ "Schema = new Schema(\x7b"] ++ blocks.flatten
      ++ ["\x7d, \x7b", "  timestamps: true", "\x7d);"])

/-- The API document lists the identity, the edited keys and the timestamps. -/
def ApiDocShows (edited : List String) (content : String) : Prop :=
  ∃ blocks, List.Forall₂ IsProperty (["_id"] ++ edited ++ ["createdAt", "updatedAt"]) blocks
    ∧ HasLines content ((["      properties:"] ++ blocks.flatten).map (" * " ++ ·) ++ [" */"])

/-- A mapping is related to what it refers to, so that one of several refers to the target. -/
theorem storedLines_mapping (field : FieldSpec) : storedLines field.mapping
    = match field.type.target? with
      | some target =>
        if field.mapping.isArray then
          ["    type: [\x7b type: Schema.Types.ObjectId, ref: '" ++ target ++ "' \x7d],"]
        else ["    type: " ++ field.mapping.storedType ++ ","]
          ++ if target.isEmpty then [] else ["    ref: '" ++ target ++ "',"]
      | none => ["    type: " ++ field.mapping.storedType ++ ","] := by
  rw [storedLines, FieldSpec.related_mapping, FieldSpec.storedRef_mapping]
  cases field.type.target? <;> rfl

section

variable {field : FieldSpec}
  (hexact : ∀ target, field.type.target? = some target → Identifier.isExactEntityName target = true)

include hexact

/-- What the block of a field says of what is stored is inside the block. -/
theorem isInner_of_mem_storedLines {line : String}
    (h : line ∈ storedLines field.mapping) : IsInner "    " line := by
  have htype : IsInner "    " ("    type: " ++ field.mapping.storedType ++ ",") :=
    isInner_enclosed (by decide) (by decide) field.unbroken_storedType (by decide)
  rw [storedLines_mapping] at h
  split at h
  next target htarget =>
    have hname : Unbroken target := by
      intro hbreak
      exact absurd (Identifier.isNamePart_of_mem (hexact target htarget) hbreak) (by decide)
    split at h
    next =>
      rw [List.mem_singleton.mp h]
      exact isInner_enclosed (by decide) (by decide) hname (by decide)
    next =>
      rcases List.mem_cons.mp h with rfl | h
      · exact htype
      · split at h
        · cases h
        · rw [List.mem_singleton.mp h]
          exact isInner_enclosed (by decide) (by decide) hname (by decide)
  next =>
    rw [List.mem_singleton.mp h]
    exact htype

/-- The block of a field in the database schema is that of its key. -/
theorem isSchemaBlock_schemaBlock :
    IsSchemaBlock field.mapping.key (schemaBlock field.mapping) := by
  refine ⟨storedLines field.mapping ++ optionLines field.mapping
    ++ requiredLines field.mapping, ?_, by simp only [schemaBlock, List.append_assoc]⟩
  intro line hline
  rw [List.mem_append, List.mem_append] at hline
  rcases hline with (hstored | hoptions) | hrequired
  · exact isInner_of_mem_storedLines hexact hstored
  · unfold optionLines at hoptions
    split at hoptions
    · cases hoptions
    · rw [List.mem_singleton.mp hoptions]
      exact isInner_enclosed (by decide) (by decide) (unbroken_literalList _) (by decide)
  · unfold requiredLines at hrequired
    split at hrequired
    · rw [List.mem_singleton.mp hrequired]
      exact isInner_enclosed (by decide) (by decide) (unbroken_literal _) (by decide)
    · cases hrequired

end

section

variable {α : Type} {read : String → Option α} {m : FieldMapping}

/-- A reader that passes over the lines of requirements reads nothing of them. -/
theorem filterMap_requiredLines
    (h : ∀ line, "    required: [true, ".toList <+: line.toList → read line = none) :
    (requiredLines m).filterMap read = [] := by
  unfold requiredLines
  split
  next =>
    rw [List.filterMap_cons, h _ (by simp)]
    rfl
  next => rfl

/-- A reader that passes over all other lines of a block reads what it says of what is stored. -/
theorem filterMap_schemaBlock (hopening : read ("  " ++ m.key ++ ": \x7b") = none)
    (hoptions : ∀ line, "    enum: ".toList <+: line.toList → read line = none)
    (hrequired : ∀ line, "    required: [true, ".toList <+: line.toList → read line = none)
    (hclosing : read "  \x7d," = none) :
    (schemaBlock m).filterMap read = (storedLines m).filterMap read := by
  have hlist : (optionLines m).filterMap read = [] := by
    unfold optionLines
    split
    next => rfl
    next =>
      rw [List.filterMap_cons, hoptions _ (by simp)]
      rfl
  simp only [schemaBlock, List.filterMap_append, List.filterMap_cons, List.filterMap_nil, hopening,
    hlist, filterMap_requiredLines hrequired, hclosing, List.nil_append, List.append_nil]

end

/-- The property of a field is that of its key. -/
theorem isProperty_property (field : FieldSpec) :
    IsProperty field.mapping.key (property field.mapping) := by
  refine ⟨(property field.mapping).tail, ?_, rfl⟩
  intro line hline
  simp only [property, List.cons_append, List.nil_append, List.tail_cons, List.mem_cons,
    List.mem_append] at hline
  have hfixed : ∀ l ∈ ["          items:", "            type: string",
      "            format: objectId"], IsInner "          " l := by
    intro l hl
    have hall : ∀ l ∈ ["          items:", "            type: string",
        "            format: objectId"], "          ".toList <+: l.toList ∧ Unbroken l := by decide
    exact ⟨(hall l hl).1, (hall l hl).2⟩
  rcases hline with rfl | ((hitems | hformat) | henum)
  · exact IsInner.append ⟨by decide, by decide⟩ field.unbroken_apiType
  · split at hitems
    · exact hfixed line hitems
    · cases hitems
  · split at hformat
    next format hsome =>
      rw [List.mem_singleton.mp hformat]
      exact IsInner.append ⟨by decide, by decide⟩ (FieldSpec.unbroken_apiFormat hsome)
    next => cases hformat
  · split at henum
    · cases henum
    · rw [List.mem_singleton.mp henum]
      have hoptions : ∀ part ∈ field.mapping.enumValues.map docText, Unbroken part :=
        List.forall_mem_map.mpr fun option _ => unbroken_docText option
      exact isInner_enclosed (by decide) (by decide) (.intercalate (by decide) hoptions) (by decide)

theorem isProperty_timestampProperty (key : String) :
    IsProperty key (timestampProperty key) := by
  refine ⟨["          type: string", "          format: date-time"], ?_, rfl⟩
  intro line hline
  have hall : ∀ l ∈ ["          type: string", "          format: date-time"],
      "          ".toList <+: l.toList ∧ Unbroken l := by decide
  exact ⟨(hall line hline).1, (hall line hline).2⟩

/-- The lines of the API document for the identity. -/
def identityProperty : List String :=
  ["        _id:", "          type: string", "          format: objectId",
    "          description: Auto-generated MongoDB ID"]

theorem isProperty_identityProperty : IsProperty "_id" identityProperty := by
  refine ⟨_, ?_, rfl⟩
  intro line hline
  have hall : ∀ l ∈ ["          type: string", "          format: objectId",
      "          description: Auto-generated MongoDB ID"],
      "          ".toList <+: l.toList ∧ Unbroken l := by decide
  exact ⟨(hall line hline).1, (hall line hline).2⟩

/-! ### Where the blocks are -/

/-- The database schema of a model is made of the blocks of what clients send. -/
theorem hasLines_schemaBlocks (e : Entity) :
    HasLines (modelText e) (["const " ++ e.names.name ++ "Schema = new Schema(\x7b"]
      ++ e.payload.flatMap schemaBlock ++ ["\x7d, \x7b", "  timestamps: true", "\x7d);"]) := by
  apply hasLines_joinLines
  rw [modelLines]
  simp only [List.append_assoc]
  apply List.IsInfix.trans _ (List.suffix_append _ _).isInfix
  apply List.IsInfix.trans _ (List.suffix_append _ _).isInfix
  exact infix_around _ ⟨["\x7d", ""], rfl⟩ ⟨_, rfl⟩

/-- The properties of the API document are those of the identity, of what clients send and of the
timestamps. -/
theorem hasLines_properties (e : Entity) :
    HasLines (apiDocText e) ((["      properties:"] ++ (identityProperty
      ++ e.payload.flatMap property ++ timestampFields.flatMap timestampProperty)).map (" * " ++ ·)
      ++ [" */"]) := by
  apply hasLines_joinLines
  have hblock : (["      properties:"] ++ (identityProperty
        ++ e.payload.flatMap property
        ++ timestampFields.flatMap timestampProperty)).map (" * " ++ ·)
        ++ [" */"]
      <:+ docBlock (componentBlock e) := by
    refine ⟨["/**", " * @swagger"] ++ (["components:", "  schemas:",
      "    " ++ e.names.capitalized ++ ":", "      type: object"]
      ++ requiredList e).map (" * " ++ ·), ?_⟩
    simp only [docBlock, componentBlock, identityProperty, List.map_append, List.append_assoc]
    rfl
  exact hblock.isInfix.trans (infix_intercalate List.mem_cons_self)

section

variable {d : Document} {fields : List FieldSpec} (hd : d.WellFormed)
  (hfields : List.Forall₂ (Entity.Reads d) d.schema.entries fields)

theorem isProperty_of_mem_payload {m : FieldMapping} (hm : m ∈ (Entity.ofFields d fields).payload) :
    IsProperty m.key (property m) := by
  obtain ⟨field, -, rfl⟩ := List.mem_map.mp (List.mem_filter.mp hm).1
  exact isProperty_property field

include hd hfields

theorem isSchemaBlock_of_mem_payload {m : FieldMapping}
    (hm : m ∈ (Entity.ofFields d fields).payload) : IsSchemaBlock m.key (schemaBlock m) := by
  obtain ⟨field, hfield, rfl⟩ := List.mem_map.mp (List.mem_filter.mp hm).1
  exact isSchemaBlock_schemaBlock fun target htarget =>
    Entity.isExactEntityName_of_target? hd hfields hfield htarget

/-- The model lists the fields that are edited. -/
theorem modelShows :
    ModelShows d.names d.editedKeys (modelText (Entity.ofFields d fields)) where
  members := by
    -- the members of the fields and those of the timestamps are made alike
    have hmembers : documentMembers (Entity.ofFields d fields)
        = ((Entity.ofFields d fields).payload.map (fun m => (m.key, m.documentType))
          ++ timestampFields.map (fun key => (key, "Date"))).map
          fun t => "  " ++ t.1 ++ ": " ++ t.2 := by
      rw [List.map_append, List.map_map, List.map_map]
      rfl
    refine ⟨commaSeparated (documentMembers (Entity.ofFields d fields)), ?_,
      hasLines_joinLines ?_⟩
    · have hkeys : d.editedKeys ++ ["createdAt", "updatedAt"]
          = ((Entity.ofFields d fields).payload.map (fun m => (m.key, m.documentType))
            ++ timestampFields.map (fun key => (key, "Date"))).map (·.1) := by
        rw [← Entity.map_key_payload hfields, List.map_append, List.map_map, List.map_map]
        rfl
      rw [hkeys, hmembers]
      refine forall₂_map_key_of (forall₂_commaSeparated _) fun t ht line hline => ⟨t.2, ?_, hline⟩
      rcases List.mem_append.mp ht with ht | ht
      · obtain ⟨m, hm, rfl⟩ := List.mem_map.mp ht
        obtain ⟨field, -, rfl⟩ := List.mem_map.mp (List.mem_filter.mp hm).1
        exact field.comma_notMem_documentType
      · obtain ⟨key, -, rfl⟩ := List.mem_map.mp ht
        show ',' ∉ "Date".toList
        decide
    · have hheader : "export interface I" ++ d.names.capitalized ++ " extends Document \x7b"
          = "export interface " ++ documentType d.names ++ " extends Document \x7b" := by
        simp [documentType, ← String.toList_inj]
      rw [hheader, modelLines]
      simp only [List.append_assoc]
      exact infix_around _ ⟨["import mongoose, \x7b Document, Schema \x7d from 'mongoose';", ""],
        rfl⟩
        ⟨_, rfl⟩
  blocks := by
    refine ⟨(Entity.ofFields d fields).payload.map schemaBlock, ?_, ?_⟩
    · rw [← Entity.map_key_payload hfields]
      exact forall₂_map_key fun m => isSchemaBlock_of_mem_payload hd hfields
    · rw [← List.flatMap_def]
      exact hasLines_schemaBlocks _

omit hd in
/-- The API document lists the identity, the fields that are edited and the timestamps. -/
theorem apiDocShows : ApiDocShows d.editedKeys (apiDocText (Entity.ofFields d fields)) := by
  refine ⟨[identityProperty] ++ (Entity.ofFields d fields).payload.map property
    ++ timestampFields.map timestampProperty, ?_, ?_⟩
  · refine List.rel_append (List.rel_append (.cons isProperty_identityProperty .nil) ?_)
      (.cons (isProperty_timestampProperty _) (.cons (isProperty_timestampProperty _) .nil))
    rw [← Entity.map_key_payload hfields]
    exact forall₂_map_key fun m => isProperty_of_mem_payload
  · rw [List.flatten_append, List.flatten_append, List.flatten_singleton, ← List.flatMap_def,
      ← List.flatMap_def]
    exact hasLines_properties _

end

end Scaffold.Server
