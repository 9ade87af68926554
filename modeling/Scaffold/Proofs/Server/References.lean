import Scaffold.Proofs.Assembly
import Scaffold.Proofs.Parsing
import Scaffold.Proofs.Server.Fields
import Scaffold.Proofs.Text.Occurrences
import Scaffold.Proofs.Text.Split

/-!
# References between models

The schema of a model refers to other models by their names. Where the model of an entity refers to
the model of another one, the name that it gives (`reference?`) can be compared with the name under
which the other file registers its model (`registered?`): the one is the name of the entity, the
other its capitalized form, which are the same only where a document says so
(`reference_is_registered_iff`).
-/

namespace Scaffold.Server

open Text Identifier

/-! ### Reading -/

/-- What a line begins with that refers to a model. -/
def referenceStarts : List (List Char) :=
  ["    ref: '".toList, "    type: [\x7b type: Schema.Types.ObjectId, ref: '".toList]

/-- The model that a line of a schema refers to. -/
def reference? (line : String) : Option String :=
  (referenceStarts.find? (·.isPrefixOf line.toList)).map fun start =>
    String.ofList ((line.toList.drop start.length).takeWhile (· != '\''))

/-- What a line begins with that registers a model. -/
def registrationStart : List Char := "export const ".toList

/-- The name under which a line registers a model. -/
def registered? (line : String) : Option String :=
  if registrationStart <+: line.toList then
    match line.toList.splitOn '\'' with
    | _ :: name :: _ => some (String.ofList name)
    | _ => none
  else none

/-- The schema of a model has a block for a key, which refers to these models and no others. -/
def RefersTo (n : Names) (key : String) (models : List String) (content : String) : Prop :=
  ∃ before block behind, HasLines content
      (["const " ++ n.name ++ "Schema = new Schema(\x7b"] ++ before ++ block ++ behind
        ++ ["\x7d, \x7b"])
    ∧ IsSchemaBlock key block ∧ block.filterMap reference? = models

/-- A file registers models under these names. -/
def Registers (names : List String) (content : String) : Prop :=
  ∃ lines, content = joinLines lines ∧ lines.filterMap registered? = names

/-! ### References in blocks -/

/-- A line that begins in another way refers to nothing. -/
theorem reference?_of_differs {line : String} (front : List Char)
    (h : referenceStarts.all (differs · front) = true) (hline : front <+: line.toList) :
    reference? line = none := by
  have hnone : referenceStarts.find? (·.isPrefixOf line.toList) = none := by
    rw [List.find?_eq_none]
    intro start hstart hprefix
    exact not_prefix_of_begins (List.all_eq_true.mp h start hstart) hline
      (List.isPrefixOf_iff_prefix.mp hprefix)
  rw [reference?, hnone]
  rfl

section

variable {field : FieldSpec}

/-- The lines of a field that say what is stored refer to the target of its type. -/
theorem filterMap_reference_storedLines (hexact : ∀ target, field.type.target? = some target →
    isExactEntityName target = true) :
    (storedLines field.mapping).filterMap reference? = field.type.target?.toList := by
  have htypes : ∀ t ∈ FieldSpec.storedTypes, reference? ("    type: " ++ t ++ ",") = none := by
    decide
  have htype := htypes _ field.storedType_mapping
  rw [storedLines_mapping]
  split
  next target htarget =>
    -- the name of a target ends at the quote behind it
    have hquote : '\'' ∉ target.toList := fun h =>
      absurd (isNamePart_of_mem (hexact target htarget) h) (by decide)
    have hmany : reference? ("    type: [\x7b type: Schema.Types.ObjectId, ref: '" ++ target
        ++ "' \x7d],") = some target := by
      simp [reference?, referenceStarts, List.isPrefixOf, takeWhile_ne_append_cons hquote]
    have hone : reference? ("    ref: '" ++ target ++ "',") = some target := by
      simp [reference?, referenceStarts, List.isPrefixOf, takeWhile_ne_append_cons hquote]
    have hname : target ≠ "" :=
      ne_empty_of_isIdentifier (isIdentifier_of_isExactEntityName (hexact target htarget))
    rw [htarget]
    split
    next => simp [hmany]
    next => simp [htype, hone, hname]
  next hnone =>
    rw [hnone]
    simp [htype]

/-- The block of a field refers to the target of its type, and to nothing else. -/
theorem filterMap_reference_schemaBlock (hkey : isIdentifier field.key = true)
    (hexact : ∀ target, field.type.target? = some target → isExactEntityName target = true) :
    (schemaBlock field.mapping).filterMap reference? = field.type.target?.toList := by
  have hopening : reference? ("  " ++ field.mapping.key ++ ": \x7b") = none := by
    obtain ⟨c, tail, hchars, hblank⟩ := exists_cons_of_isIdentifier hkey
    have hfront : [' ', ' ', c] <+: ("  " ++ field.mapping.key ++ ": \x7b").toList := by
      rw [FieldSpec.key_mapping]
      simp [hchars]
    refine reference?_of_differs _ ?_ hfront
    simp [referenceStarts, differs, hblank.symm]
  rw [filterMap_schemaBlock hopening (fun _ => reference?_of_differs _ (by decide))
    (fun _ => reference?_of_differs _ (by decide)) (by decide)]
  exact filterMap_reference_storedLines hexact

end

/-! ### Registrations -/

/-- A line that begins in another way registers nothing. -/
theorem registered?_of_differs {line : String} (front : List Char)
    (h : differs registrationStart front = true) (hline : front <+: line.toList) :
    registered? line = none := by
  rw [registered?, if_neg (not_prefix_of_begins h hline)]

theorem registered?_of_blank {line : String} (h : [' '] <+: line.toList) :
    registered? line = none :=
  registered?_of_differs [' '] (by decide) h

theorem registered?_of_mem_schemaBlock {key : String} {block : List String}
    (h : IsSchemaBlock key block) : ∀ line ∈ block, registered? line = none := by
  obtain ⟨inner, hinner, rfl⟩ := h
  simp only [List.forall_mem_append, List.forall_mem_singleton]
  refine ⟨⟨registered?_of_blank (by simp), fun line hline => ?_⟩, registered?_of_blank (by decide)⟩
  have hblanks : [' '] <+: "    ".toList := by decide
  exact registered?_of_blank (hblanks.trans (hinner line hline).indented)

theorem registered?_of_mem_documentMembers {e : Entity} :
    ∀ line ∈ commaSeparated (documentMembers e), registered? line = none := by
  intro line hline
  obtain ⟨member, hmember, hentry⟩ := mem_commaSeparated hline
  have hblank : [' '] <+: member.toList := by
    rcases List.mem_append.mp hmember with h | h
    all_goals
      obtain ⟨_, -, rfl⟩ := List.mem_map.mp h
      simp
  rcases hentry with rfl | rfl
  · exact registered?_of_blank hblank
  · apply registered?_of_blank
    rw [String.toList_append]
    exact hblank.trans (List.prefix_append _ _)

/-- The last line of a model registers it under the capitalized name of the entity. -/
theorem registered?_registration {n : Names} (hn : isIdentifier n.capitalized = true) :
    registered? ("export const " ++ modelConst n ++ " = mongoose.model<" ++ documentType n ++ ">('"
      ++ n.capitalized ++ "', " ++ n.name ++ "Schema);") = some n.capitalized := by
  have hquote : '\'' ∉ n.capitalized.toList := notMem_of_isIdentifier hn (by decide) (by decide)
  have hfront : '\'' ∉ "export const ".toList ++ (n.capitalized.toList
      ++ ("Model = mongoose.model<I".toList ++ (n.capitalized.toList ++ ">(".toList))) := by
    simp [hquote]
  have hline : ("export const " ++ modelConst n ++ " = mongoose.model<" ++ documentType n ++ ">('"
      ++ n.capitalized ++ "', " ++ n.name ++ "Schema);").toList
      = ("export const ".toList ++ (n.capitalized.toList ++ ("Model = mongoose.model<I".toList
        ++ (n.capitalized.toList ++ ">(".toList)))) ++ '\'' :: (n.capitalized.toList
        ++ '\'' :: (", ".toList ++ (n.name.toList ++ "Schema);".toList))) := by
    simp [modelConst, documentType]
  have hstart : registrationStart <+: "export const ".toList ++ (n.capitalized.toList
      ++ ("Model = mongoose.model<I".toList ++ (n.capitalized.toList ++ ">(".toList))) :=
    List.prefix_append _ _
  rw [registered?, hline, if_pos (hstart.trans (List.prefix_append _ _)),
    List.splitOn_append_cons_self, List.splitOn_eq_singleton hfront,
    List.splitOn_append_cons_self, List.splitOn_eq_singleton hquote]
  simp

section

variable {d : Document} {fields : List FieldSpec} (hd : d.WellFormed)
  (hfields : List.Forall₂ (Entity.Reads d) d.schema.entries fields)

include hd hfields

/-- A model registers one name, the capitalized one of the entity. -/
theorem registers_modelText (hname : isExactEntityName d.name = true) :
    Registers [d.names.capitalized] (modelText (Entity.ofFields d fields)) := by
  have hn := Document.areIdentifiers_names hd hname
  have hheader : registered? ("export interface " ++ documentType d.names
      ++ " extends Document \x7b") = none :=
    registered?_of_differs "export interface ".toList (by decide) (by simp)
  have hschema : registered? ("const " ++ d.names.name ++ "Schema = new Schema(\x7b") = none :=
    registered?_of_differs "const ".toList (by decide) (by simp)
  have hmembers : (commaSeparated (documentMembers (Entity.ofFields d fields))).filterMap
      registered? = [] :=
    List.filterMap_eq_nil_iff.mpr registered?_of_mem_documentMembers
  have hblocks : ((Entity.ofFields d fields).payload.flatMap schemaBlock).filterMap registered?
      = [] := by
    rw [List.filterMap_eq_nil_iff]
    intro line hline
    obtain ⟨m, hm, hline⟩ := List.mem_flatMap.mp hline
    exact registered?_of_mem_schemaBlock (isSchemaBlock_of_mem_payload hd hfields hm) line hline
  have hfixed : ["import mongoose, \x7b Document, Schema \x7d from 'mongoose';", ""].filterMap
        registered? = []
      ∧ ["\x7d", ""].filterMap registered? = []
      ∧ ["\x7d, \x7b", "  timestamps: true", "\x7d);", ""].filterMap registered? = [] := by
    decide
  -- the lines by what they could register; the last one alone does
  have hsplit : modelLines (Entity.ofFields d fields)
      = ["import mongoose, \x7b Document, Schema \x7d from 'mongoose';", ""]
        ++ ["export interface " ++ documentType d.names ++ " extends Document \x7b"]
        ++ commaSeparated (documentMembers (Entity.ofFields d fields)) ++ ["\x7d", ""]
        ++ ["const " ++ d.names.name ++ "Schema = new Schema(\x7b"]
        ++ (Entity.ofFields d fields).payload.flatMap schemaBlock
        ++ ["\x7d, \x7b", "  timestamps: true", "\x7d);", ""]
        ++ ["export const " ++ modelConst d.names ++ " = mongoose.model<" ++ documentType d.names
          ++ ">('" ++ d.names.capitalized ++ "', " ++ d.names.name ++ "Schema);"] := by
    simp only [modelLines, List.append_assoc, List.cons_append, List.nil_append]
    rfl
  refine ⟨modelLines (Entity.ofFields d fields), rfl, ?_⟩
  rw [hsplit]
  simp only [List.filterMap_append, List.filterMap_cons, List.filterMap_nil, hheader, hmembers,
    hschema, hblocks, hfixed, registered?_registration hn.capitalized, List.nil_append,
    List.append_nil]

/-- The model of an entity refers to the target of each field that is a relationship. -/
theorem refersTo_modelText {entry : String × String} (hentry : entry ∈ d.schema.entries)
    {target : String} {cardinality : Cardinality}
    (htype : d.typeOf entry.1 entry.2 = .ok (.relationship target cardinality)) :
    RefersTo d.names entry.1 [target] (modelText (Entity.ofFields d fields)) := by
  obtain ⟨field, hfield, hreads⟩ := exists_of_forall₂ hfields hentry
  have hexact : ∀ target, field.type.target? = some target → isExactEntityName target = true :=
    fun _ => Entity.isExactEntityName_of_target? hd hfields hfield
  have hmem : field.mapping ∈ (Entity.ofFields d fields).mappings := List.mem_map_of_mem hfield
  have hkey : isIdentifier field.key = true :=
    field.key_mapping ▸ Entity.isIdentifier_key hd hfields hmem
  have htarget : field.type.target? = some target := by
    have := hreads.type
    rw [htype] at this
    rw [← Except.ok.inj this]
    rfl
  -- a timestamp is no relationship, so the field is among those that clients send
  have hpayload : field.mapping ∈ (Entity.ofFields d fields).payload := by
    refine List.mem_filter.mpr ⟨hmem, ?_⟩
    rw [Entity.inPayload_of_mem hmem, FieldSpec.key_mapping, hreads.key, Bool.not_eq_true']
    cases hstamp : isTimestampKey entry.1 with
    | false => rfl
    | true =>
      have := hd.timestamps entry hentry hstamp
      rw [htype] at this
      cases this
  obtain ⟨before, behind, hsplit⟩ := List.append_of_mem hpayload
  have hblock : IsSchemaBlock entry.1 (schemaBlock field.mapping) := by
    rw [← hreads.key, ← FieldSpec.key_mapping]
    exact isSchemaBlock_of_mem_payload hd hfields hpayload
  refine ⟨before.flatMap schemaBlock, schemaBlock field.mapping, behind.flatMap schemaBlock, ?_,
    hblock, ?_⟩
  · have hlines : ["const " ++ d.names.name ++ "Schema = new Schema(\x7b"]
          ++ (Entity.ofFields d fields).payload.flatMap schemaBlock
          ++ ["\x7d, \x7b", "  timestamps: true", "\x7d);"]
        = (["const " ++ d.names.name ++ "Schema = new Schema(\x7b"]
          ++ before.flatMap schemaBlock ++ schemaBlock field.mapping ++ behind.flatMap schemaBlock
          ++ ["\x7d, \x7b"]) ++ ["  timestamps: true", "\x7d);"] := by
      rw [hsplit, List.flatMap_append, List.flatMap_cons]
      simp only [List.append_assoc]
      rfl
    have hblocks := hasLines_schemaBlocks (Entity.ofFields d fields)
    rw [show (Entity.ofFields d fields).names = d.names from rfl, hlines] at hblocks
    exact hblocks.part (List.prefix_append _ _).isInfix
  · rw [filterMap_reference_schemaBlock hkey hexact, htarget]
    rfl

end

/-! ### Names of models -/

/-- An accepted entity is registered under its own name only where the document says so. -/
theorem capitalized_eq_name_iff {d : Document} (hd : d.WellFormed)
    (hname : isExactEntityName d.name = true) :
    d.name = d.names.capitalized ↔ d.overrides.capitalized = some d.name := by
  have hne := ne_empty_of_isIdentifier (isIdentifier_of_isExactEntityName hname)
  show d.name = overriding d.overrides.capitalized (Text.capitalize d.name) ↔ _
  cases hgiven : d.overrides.capitalized with
  | none =>
    -- a derived name begins with a capital letter
    refine iff_of_false ?_ (by simp)
    obtain ⟨c, tail, hs, hc, -⟩ := isExactEntityName_iff.mp hname
    intro heq
    have hlists := congrArg String.toList heq
    rw [overriding, toList_capitalize hs (isPart_of_isLower hc), hs] at hlists
    have hupper := isLower_toUpper hc
    rw [← (List.cons.inj hlists).1, hc] at hupper
    cases hupper
  | some given =>
    have hgivenNe := ne_empty_of_isIdentifier (hd.capitalized given hgiven)
    rw [overriding, if_neg (by simpa using hgivenNe), Option.some.injEq, eq_comm]

end Scaffold.Server

namespace Scaffold

/-- Where a field of one document is a relationship to the entity of another, the model of the one
refers to the entity by its name, and the model of the other is registered under the capitalized
form. So the reference names a registered model just where the other document gives the name of its
entity as its capitalized form. -/
theorem reference_is_registered_iff {va vb : Value} {a b : Document} {sa sb : Settings}
    (ha : Document.parse va = .ok a) (hva : a.findings.isValid = true)
    (hb : Document.parse vb = .ok b) (hvb : b.findings.isValid = true)
    (hwritableA : sa.IsWritable) (hwritableB : sb.IsWritable)
    (hsa : sa.generateBackend = true) (hsb : sb.generateBackend = true)
    {field : String × String} (hfield : field ∈ b.schema.entries) {cardinality : Cardinality}
    (htype : b.typeOf field.1 field.2 = .ok (.relationship a.name cardinality)) :
    ∃ filesA filesB modelA modelB, assemble va sa = .ok filesA ∧ assemble vb sb = .ok filesB
      ∧ ⟨.backend, "model.ts", modelA⟩ ∈ filesA ∧ ⟨.backend, "model.ts", modelB⟩ ∈ filesB
      ∧ Server.RefersTo b.names field.1 [a.name] modelB
      ∧ Server.Registers [a.names.capitalized] modelA
      ∧ (a.name = a.names.capitalized ↔ a.overrides.capitalized = some a.name) := by
  obtain ⟨hda, fieldsA, hfieldsA, -, hfilesA⟩ := exists_assemble_eq_ok ha hva
  obtain ⟨hdb, fieldsB, hfieldsB, -, hfilesB⟩ := exists_assemble_eq_ok hb hvb
  have hname := Document.isExactEntityName_of_parse ha
  exact ⟨_, _, _, _, hfilesA sa hwritableA, hfilesB sb hwritableB,
    Entity.mem_artifacts_of_mem_serverFiles hsa List.mem_cons_self,
    Entity.mem_artifacts_of_mem_serverFiles hsb List.mem_cons_self,
    Server.refersTo_modelText hdb hfieldsB hfield htype,
    Server.registers_modelText hda hfieldsA hname, Server.capitalized_eq_name_iff hda hname⟩

/-- The value that describes customers. -/
def customerValue : Value :=
  .map [(.text "name", .text "customer"), (.text "schema", .map [(.text "email", .text "string")]),
    (.text "ui", .map [(.text "email", .map [])])]

/-- The document about customers. -/
def customerDocument : Document where
  version := none
  name := "customer"
  overrides := {}
  schema := .ofList [("email", "string")]
  ui := .ofList [("email", {})]

/-- Orders refer to `customer`, while customers are registered as `Customer`. -/
theorem orders_refer_to_no_model :
    ∃ customerFiles orderFiles customers orders, assemble customerValue {} = .ok customerFiles
      ∧ assemble orderValue {} = .ok orderFiles
      ∧ ⟨.backend, "model.ts", customers⟩ ∈ customerFiles
      ∧ ⟨.backend, "model.ts", orders⟩ ∈ orderFiles
      ∧ Server.RefersTo orderDocument.names "buyer" ["customer"] orders
      ∧ Server.Registers ["Customer"] customers := by
  have hparse : Document.parse customerValue = .ok customerDocument := by decide
  have hvalid : customerDocument.findings.isValid = true := by decide
  have hfield : ("buyer", "relationship:customer") ∈ orderDocument.schema.entries := by decide
  have htype : orderDocument.typeOf "buyer" "relationship:customer"
      = .ok (.relationship customerDocument.name .single) := by decide
  have hname : customerDocument.names.capitalized = "Customer" := by decide
  have hbackend : ({} : Settings).generateBackend = true := rfl
  obtain ⟨customerFiles, orderFiles, customers, orders, hcustomer, horder, hmem, hmem', hrefers,
      hregisters, -⟩ :=
    reference_is_registered_iff hparse hvalid parse_orderValue isValid_orderDocument
      Settings.isWritable_default Settings.isWritable_default hbackend hbackend hfield htype
  rw [hname] at hregisters
  exact ⟨customerFiles, orderFiles, customers, orders, hcustomer, horder, hmem, hmem', hrefers,
    hregisters⟩

end Scaffold
