import Scaffold.Proofs.Declared
import Scaffold.Proofs.Server.Fields
import Scaffold.Proofs.Text.Decoding
import Scaffold.Proofs.Text.Occurrences

/-!
# Options on the server

The model lists the options of an enumeration as literals of its script, the API document lists them
as scalars of its comment. Reading the one by `literals?` and the other as JSON gives the declared
options, whatever texts they are (`modelLists`, `apiDocLists`), and no other line of a field is
taken for such a list.
-/

namespace Scaffold.Server

open Text Identifier

/-! ### Reading -/

/-- The options that a line of a schema block lists. -/
def storedOptions? (line : String) : Option (List String) :=
  (between? "    enum: " "," line).bind literals?

/-- The options that a line of a property lists. -/
def apiOptions? (line : String) : Option (List String) :=
  (between? "          enum: " "" line).bind jsonTexts?

/-- Where options are declared, a block has one list of options, which is that of the declared
ones. -/
def Lists (options? : String → Option (List String)) (declared : Option (List String))
    (block : List String) : Prop :=
  ∀ options, declared = some options → block.filterMap options? = [options]

/-- The schema of a model has a block for each edited key, which lists the options declared for
it. -/
def ModelLists (d : Document) (content : String) : Prop :=
  ∃ blocks, List.Forall₂ (fun key block => IsSchemaBlock key block
      ∧ Lists storedOptions? (d.declaredOptions? key) block) d.editedKeys blocks
    ∧ HasLines content (["const " ++ d.names.name ++ "Schema = new Schema(\x7b"]
      ++ blocks.flatten ++ ["\x7d, \x7b", "  timestamps: true", "\x7d);"])

/-- An API document has a property for each edited key, between the identity and the timestamps,
which lists the options declared for it. -/
def ApiDocLists (d : Document) (content : String) : Prop :=
  ∃ identity blocks stamps, IsProperty "_id" identity
    ∧ List.Forall₂ (fun key block => IsProperty key block
      ∧ Lists apiOptions? (d.declaredOptions? key) block) d.editedKeys blocks
    ∧ List.Forall₂ IsProperty ["createdAt", "updatedAt"] stamps
    ∧ HasLines content
      ((["      properties:"] ++ (identity ++ blocks.flatten ++ stamps.flatten)).map
      (" * " ++ ·) ++ [" */"])

/-! ### Lines of enumerations -/

/-- A line that begins in another way lists nothing in a model. -/
theorem storedOptions?_of_begins {line : String} (front : List Char)
    (h : differs "    enum: ".toList front = true) (hline : front <+: line.toList) :
    storedOptions? line = none := by
  rw [storedOptions?, between?_of_not_prefix (not_prefix_of_begins h hline)]
  rfl

/-- A line that begins in another way lists nothing in an API document. -/
theorem apiOptions?_of_begins {line : String} (front : List Char)
    (h : differs "          enum: ".toList front = true) (hline : front <+: line.toList) :
    apiOptions? line = none := by
  rw [apiOptions?, between?_of_not_prefix (not_prefix_of_begins h hline)]
  rfl

section

variable {field : FieldSpec} (hkey : isIdentifier field.key = true) (options : Options)

include hkey

/-- The schema block of an enumeration lists its options. -/
theorem filterMap_storedOptions_schemaBlock :
    (schemaBlock (field.enumMapping options)).filterMap storedOptions? = [options.toList] := by
  have hopening : storedOptions? ("  " ++ field.key ++ ": \x7b") = none := by
    obtain ⟨c, tail, hchars, hblank⟩ := exists_cons_of_isIdentifier hkey
    refine storedOptions?_of_begins [' ', ' ', c] ?_ (by simp [hchars])
    simp [differs, hblank.symm]
  have hstored : storedOptions? "    type: String," = none :=
    storedOptions?_of_begins "    t".toList (by decide) (by decide)
  have hlist : storedOptions? ("    enum: " ++ literalList options.toList ++ ",")
      = some options.toList := by
    rw [storedOptions?, between?_append, Option.bind_some, literals?_literalList]
  have hrequired : (requiredLines (field.enumMapping options)).filterMap storedOptions? = [] :=
    filterMap_requiredLines fun _ => storedOptions?_of_begins _ (by decide)
  have hclosing : storedOptions? "  \x7d," = none :=
    storedOptions?_of_begins "  \x7d".toList (by decide) (by decide)
  have hblock : schemaBlock (field.enumMapping options)
      = ["  " ++ field.key ++ ": \x7b", "    type: String,",
        "    enum: " ++ literalList options.toList ++ ","]
        ++ requiredLines (field.enumMapping options) ++ ["  \x7d,"] := rfl
  simp only [hblock, List.filterMap_append, List.filterMap_cons, List.filterMap_nil, hopening,
    hstored, hlist, hrequired, hclosing, List.append_nil]

/-- The property of an enumeration lists its options. -/
theorem filterMap_apiOptions_property :
    (property (field.enumMapping options)).filterMap apiOptions? = [options.toList] := by
  have hopening : apiOptions? ("        " ++ field.key ++ ":") = none := by
    obtain ⟨c, tail, hchars, hblank⟩ := exists_cons_of_isIdentifier hkey
    refine apiOptions?_of_begins [' ', ' ', ' ', ' ', ' ', ' ', ' ', ' ', c] ?_ (by simp [hchars])
    simp [differs, hblank.symm]
  have htype : apiOptions? "          type: string" = none :=
    apiOptions?_of_begins "          t".toList (by decide) (by decide)
  have hlist : apiOptions? ("          enum: [" ++ ", ".intercalate (options.toList.map docText)
      ++ "]") = some options.toList := by
    have hline : "          enum: [" ++ ", ".intercalate (options.toList.map docText) ++ "]"
        = "          enum: " ++ ("[" ++ ", ".intercalate (options.toList.map docText) ++ "]")
          ++ "" := by
      simp [← String.toList_inj]
    rw [hline, apiOptions?, between?_append, Option.bind_some, jsonTexts?_docTexts]
  have hblock : property (field.enumMapping options)
      = ["        " ++ field.key ++ ":", "          type: string",
        "          enum: [" ++ ", ".intercalate (options.toList.map docText) ++ "]"] := rfl
  simp only [hblock, List.filterMap_cons, List.filterMap_nil, hopening, htype, hlist]

end

/-! ### The files -/

section

variable {d : Document} {fields : List FieldSpec} (hd : d.WellFormed)
  (hfields : List.Forall₂ (Entity.Reads d) d.schema.entries fields)

include hd hfields

/-- What is made of a mapping lists the options declared for its key, if that holds of
enumerations. -/
theorem lists_of_mem_payload {options? : String → Option (List String)}
    {block : FieldMapping → List String}
    (h : ∀ field : FieldSpec, isIdentifier field.key = true → ∀ o,
      (block (field.enumMapping o)).filterMap options? = [o.toList])
    {m : FieldMapping} (hm : m ∈ (Entity.ofFields d fields).payload) :
    Lists options? (d.declaredOptions? m.key) (block m) := by
  intro options hdeclared
  have hmapping := (List.mem_filter.mp hm).1
  have hkey := Entity.isIdentifier_key hd hfields hmapping
  obtain ⟨field, o, -, rfl, rfl⟩ := Entity.exists_enumMapping hfields hmapping hdeclared
  exact h field hkey o

/-- The model lists the declared options. -/
theorem modelLists : ModelLists d (modelText (Entity.ofFields d fields)) := by
  refine ⟨(Entity.ofFields d fields).payload.map schemaBlock, ?_, ?_⟩
  · rw [← Entity.map_key_payload hfields]
    exact forall₂_map_key fun m hm => ⟨isSchemaBlock_of_mem_payload hd hfields hm,
      lists_of_mem_payload hd hfields (fun _ => filterMap_storedOptions_schemaBlock) hm⟩
  · rw [← List.flatMap_def]
    exact hasLines_schemaBlocks _

/-- The API document lists the declared options. -/
theorem apiDocLists : ApiDocLists d (apiDocText (Entity.ofFields d fields)) := by
  refine ⟨identityProperty, (Entity.ofFields d fields).payload.map property,
    timestampFields.map timestampProperty, isProperty_identityProperty, ?_, ?_, ?_⟩
  · rw [← Entity.map_key_payload hfields]
    exact forall₂_map_key fun m hm => ⟨isProperty_of_mem_payload hm,
      lists_of_mem_payload hd hfields (fun _ => filterMap_apiOptions_property) hm⟩
  · exact .cons (isProperty_timestampProperty _) (.cons (isProperty_timestampProperty _) .nil)
  · rw [← List.flatMap_def, ← List.flatMap_def]
    exact hasLines_properties _

end

end Scaffold.Server
