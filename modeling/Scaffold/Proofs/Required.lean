import Scaffold.Proofs.Assembly
import Scaffold.Proofs.Parsing
import Scaffold.Proofs.View.Controls

/-!
# What is required, in all files

The presentation of a field says whether a value is required, and five files say it again: the
interfaces, the model, the API document and both views. They read it from the mapping of the field,
from the list of required keys and from the node of the form, in schema order or in the order of the
presentations, and they agree on every field that is edited (`required_alike`). Timestamps are not
edited, so that nothing asks for them, whatever their presentations say.
-/

namespace Scaffold

/-- The files of the client side ask for what the presentations ask for. -/
structure ClientAsks (d : Document) (files : List Artifact) : Prop where
  interfaces : ∃ content, ⟨.frontend, "interfaces/" ++ d.name ++ ".interface.ts", content⟩ ∈ files
    ∧ Client.InterfacesAsk d content
  views : ∀ theme ∈ ["Bootstrap", "Fomantic"], ∃ content,
    ⟨.frontend, "views/" ++ d.names.capitalized ++ theme ++ ".vue", content⟩ ∈ files
      ∧ View.ViewAsks d content

/-- The files of the server side ask for what the presentations ask for. -/
structure ServerAsks (d : Document) (files : List Artifact) : Prop where
  model : ∃ content, ⟨.backend, "model.ts", content⟩ ∈ files ∧ Server.ModelAsks d content
  apiDoc : ∃ content, ⟨.backend, "swagger.ts", content⟩ ∈ files ∧ Server.ApiDocAsks d content

/-- Every field that is edited has a presentation, which says whether it is asked for. -/
theorem Document.WellFormed.exists_hint {d : Document} (hd : d.WellFormed) {key : String}
    (hkey : key ∈ d.editedKeys) :
    ∃ hint, d.ui.get? key = some hint ∧ (d.asksFor key = true ↔ hint.required = true) := by
  have hform : key ∈ d.formKeys := hd.formKeys_perm.mem_iff.mpr hkey
  have hpresented : key ∈ d.ui.keys := (List.mem_filter.mp hform).1
  obtain ⟨entry, hentry, rfl⟩ := List.mem_map.mp hpresented
  have hhint : d.ui.get? entry.1 = some entry.2 := Keyed.get?_eq_some.mpr hentry
  refine ⟨entry.2, hhint, ?_⟩
  rw [asksFor, hhint, Option.any_some]

section

variable {d : Document} {fields : List FieldSpec} {s : Settings} (hd : d.WellFormed)
  (hfields : List.Forall₂ (Entity.Reads d) d.schema.entries fields)

include hd hfields

theorem clientAsks (hname : Identifier.isExactEntityName d.name = true)
    (hfrontend : s.generateFrontend = true) :
    ClientAsks d ((Entity.ofFields d fields).artifacts s) := by
  refine ⟨⟨_, Entity.mem_artifacts_of_mem_clientFiles hfrontend List.mem_cons_self,
    Client.interfacesAsk hd hfields⟩, ?_⟩
  intro theme htheme
  obtain ⟨t, ht, hview⟩ := Entity.exists_view hfrontend (Entity.ofFields d fields) htheme
  exact ⟨_, hview, View.viewAsks hd hname hfields ht⟩

theorem serverAsks (hbackend : s.generateBackend = true) :
    ServerAsks d ((Entity.ofFields d fields).artifacts s) := by
  refine ⟨⟨_, Entity.mem_artifacts_of_mem_serverFiles hbackend List.mem_cons_self,
    Server.modelAsks hd hfields⟩, ?_⟩
  refine ⟨_, Entity.mem_artifacts_of_mem_serverFiles hbackend ?_, Server.apiDocAsks hfields⟩
  exact .tail _ (.tail _ (.tail _ (.head _)))

end

/-- Every field that is edited is required in all files of an accepted document, or in none: a
payload must have it, the model and the API document require it, and each form asks for it, unless
with a check box, just when its presentation does. -/
theorem required_alike {v : Value} {d : Document} (hparse : Document.parse v = .ok d)
    (hvalid : d.findings.isValid = true) {s : Settings} (hwritable : s.IsWritable) :
    (∀ key ∈ d.editedKeys, ∃ hint, d.ui.get? key = some hint
        ∧ (d.asksFor key = true ↔ hint.required = true))
      ∧ ∃ files, assemble v s = .ok files
        ∧ (s.generateFrontend = true → ClientAsks d files)
        ∧ (s.generateBackend = true → ServerAsks d files) := by
  obtain ⟨hd, fields, hfields, -, hfiles⟩ := exists_assemble_eq_ok hparse hvalid
  refine ⟨fun key hkey => hd.exists_hint hkey, _, hfiles s hwritable, ?_, ?_⟩
  · exact clientAsks hd hfields (Document.isExactEntityName_of_parse hparse)
  · exact serverAsks hd hfields

/-- The value that describes chores: a timestamp, a check box and an enumeration that are required,
and a title that is not. -/
def choreValue : Value :=
  .map [(.text "name", .text "chore"),
    (.text "schema", .map [(.text "createdAt", .text "string"), (.text "title", .text "string"),
      (.text "done", .text "boolean"), (.text "state", .text "enum")]),
    (.text "ui", .map [
      (.text "state", .map [(.text "options", .list [.text "open required>"]),
        (.text "required", .bool true)]),
      (.text "createdAt", .map [(.text "required", .bool true)]),
      (.text "done", .map [(.text "required", .bool true)]),
      (.text "title", .map [(.text "placeholder", .text "\" required>")])])]

/-- The document about chores. -/
def choreDocument : Document where
  version := none
  name := "chore"
  overrides := {}
  schema := .ofList [("createdAt", "string"), ("title", "string"), ("done", "boolean"),
    ("state", "enum")]
  ui := .ofList [("state", { options := some ["open required>"], required := true }),
    ("createdAt", { required := true }), ("done", { required := true }),
    ("title", { placeholder := "\" required>" })]

/-- Chores are required alike. -/
theorem chores_required_alike :
    choreDocument.editedKeys = ["title", "done", "state"]
      ∧ choreDocument.editedKeys.filter choreDocument.asksFor = ["done", "state"]
      ∧ choreDocument.isTicked "done" = true
      ∧ ∃ files, assemble choreValue {} = .ok files ∧ ClientAsks choreDocument files
        ∧ ServerAsks choreDocument files := by
  have hparse : Document.parse choreValue = .ok choreDocument := by decide
  have hvalid : choreDocument.findings.isValid = true := by decide
  obtain ⟨-, files, hfiles, hclient, hserver⟩ :=
    required_alike hparse hvalid Settings.isWritable_default
  exact ⟨by decide, by decide, by decide, files, hfiles, hclient rfl, hserver rfl⟩

end Scaffold
