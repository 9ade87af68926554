import Scaffold.Proofs.Client.Fields
import Scaffold.Proofs.Presentation
import Scaffold.Proofs.Server.Fields
import Scaffold.Proofs.View.Fields

/-!
# The order of fields

A schema and its presentations each have an order of their own. What follows the schema lists the
fields that are edited in schema order, and views show what is presented in the order of the
presentations. No field is lost, repeated or moved on the way (`assemble_keeps_fields`). The form
and the payload have the same fields in two orders, because validation asks for a presentation of
every field that is edited and for a field behind every presentation.
-/

namespace Scaffold

/-- The files of the client side show the fields of a document. -/
structure ClientShows (d : Document) (files : List Artifact) : Prop where
  interfaces : ∃ content, ⟨.frontend, "interfaces/" ++ d.name ++ ".interface.ts", content⟩ ∈ files
    ∧ Client.InterfacesShow d.names d.schema.keys d.editedKeys content
  views : ∀ theme ∈ ["Bootstrap", "Fomantic"], ∃ content,
    ⟨.frontend, "views/" ++ d.names.capitalized ++ theme ++ ".vue", content⟩ ∈ files
      ∧ View.ViewShows d.names d.editedKeys d.formKeys d.ui.keys content

/-- The files of the server side show the fields of a document. -/
structure ServerShows (d : Document) (files : List Artifact) : Prop where
  model : ∃ content, ⟨.backend, "model.ts", content⟩ ∈ files
    ∧ Server.ModelShows d.names d.editedKeys content
  apiDoc : ∃ content, ⟨.backend, "swagger.ts", content⟩ ∈ files
    ∧ Server.ApiDocShows d.editedKeys content

section

variable {d : Document} {fields : List FieldSpec} {s : Settings} (hd : d.WellFormed)
  (hfields : List.Forall₂ (Entity.Reads d) d.schema.entries fields)

include hd hfields

theorem clientShows (hfrontend : s.generateFrontend = true) :
    ClientShows d ((Entity.ofFields d fields).artifacts s) := by
  refine ⟨⟨_, Entity.mem_artifacts_of_mem_clientFiles hfrontend List.mem_cons_self,
    Client.interfacesShow hd hfields⟩, ?_⟩
  intro theme htheme
  obtain ⟨t, -, hview⟩ := Entity.exists_view hfrontend (Entity.ofFields d fields) htheme
  exact ⟨_, hview, View.viewShows hfields hd t⟩

theorem serverShows (hbackend : s.generateBackend = true) :
    ServerShows d ((Entity.ofFields d fields).artifacts s) := by
  refine ⟨⟨_, Entity.mem_artifacts_of_mem_serverFiles hbackend List.mem_cons_self,
    Server.modelShows hd hfields⟩, ?_⟩
  refine ⟨_, Entity.mem_artifacts_of_mem_serverFiles hbackend ?_, Server.apiDocShows hfields⟩
  exact .tail _ (.tail _ (.tail _ (.head _)))

end

/-- The files of an accepted document show its fields under all settings that can be written: what
follows the schema in schema order, what follows the presentations in theirs. The form edits what is
sent, in an order of its own. -/
theorem assemble_keeps_fields {d : Document} (hvalid : d.findings.isValid = true) :
    d.formKeys.Perm d.editedKeys
      ∧ (∃ e, Entity.ofAccepted d = .ok e
        ∧ (View.Spec.ofEntity e).form.map (·.key) = d.formKeys
        ∧ (View.Spec.ofEntity e).columns.map (·.key) = d.ui.keys
        ∧ (View.Spec.ofEntity e).payloadKeys = d.editedKeys)
      ∧ ∀ s : Settings, s.IsWritable → ∃ files, d.assembled s = .ok files
        ∧ (∀ v, Document.parse v = .ok d → assemble v s = .ok files)
        ∧ (s.generateFrontend = true → ClientShows d files)
        ∧ (s.generateBackend = true → ServerShows d files) := by
  rw [Document.isValid_findings] at hvalid
  have hd := Document.isAccepted_iff.mp hvalid
  obtain ⟨fields, hfields⟩ := Entity.exists_forall₂_reads hd.readable
  refine ⟨hd.formKeys_perm, ⟨_, Entity.ofAccepted_of_reads hd hfields, ?_⟩, fun s hs => ?_⟩
  · exact View.keys_ofEntity hfields hd
  have hfiles := Document.assembled_of_reads hd hfields hs
  refine ⟨_, hfiles, ?_, ?_, ?_⟩
  · intro v hparse
    exact (assemble_eq_assembled hparse s).trans hfiles
  · exact clientShows hd hfields
  · exact serverShows hd hfields

/-- The document about tasks: timestamps among its fields, and presentations in an order of their
own. -/
def taskDocument : Document where
  version := none
  name := "task"
  overrides := {}
  schema := .ofList [("createdAt", "string"), ("title", "string"), ("done", "boolean"),
    ("updatedAt", "string"), ("owner", "relationship:user")]
  ui := .ofList [("owner", {}), ("createdAt", {}), ("done", {}), ("title", {})]

/-- Tasks are sent in schema order, and edited in the order of their presentations. -/
theorem tasks_keep_fields :
    taskDocument.findings.isValid = true
      ∧ taskDocument.editedKeys = ["title", "done", "owner"]
      ∧ taskDocument.formKeys = ["owner", "done", "title"]
      ∧ ["owner", "done", "title"].Perm ["title", "done", "owner"]
      ∧ ∃ files, taskDocument.assembled {} = .ok files ∧ ClientShows taskDocument files
        ∧ ServerShows taskDocument files := by
  have hvalid : taskDocument.findings.isValid = true := by decide +kernel
  have hedited : taskDocument.editedKeys = ["title", "done", "owner"] := by decide +kernel
  have hform : taskDocument.formKeys = ["owner", "done", "title"] := by decide +kernel
  obtain ⟨hperm, -, hall⟩ := assemble_keeps_fields hvalid
  obtain ⟨files, hfiles, -, hclient, hserver⟩ := hall {} Settings.isWritable_default
  rw [hedited, hform] at hperm
  exact ⟨hvalid, hedited, hform, hperm, files, hfiles, hclient rfl, hserver rfl⟩

end Scaffold
