import Scaffold.Proofs.Assembly
import Scaffold.Proofs.Parsing
import Scaffold.Proofs.Server.Options
import Scaffold.Proofs.View.Options

/-!
# Enumerations in generated files

The options of an enumeration may be any texts. They are written in three ways, into the model, into
the API document and into the form of each view, and can be read out of each of these again, in the
order in which they are declared (`declared_options_recovered`). A new form starts with the first of
them.
-/

namespace Scaffold

/-- The files of the server side list the declared options. -/
structure ServerLists (d : Document) (files : List Artifact) : Prop where
  model : ∃ content, ⟨.backend, "model.ts", content⟩ ∈ files ∧ Server.ModelLists d content
  apiDoc : ∃ content, ⟨.backend, "swagger.ts", content⟩ ∈ files ∧ Server.ApiDocLists d content

/-- The views offer the declared options. -/
def ViewsOffer (d : Document) (files : List Artifact) : Prop :=
  ∀ theme ∈ ["Bootstrap", "Fomantic"], ∃ content,
    ⟨.frontend, "views/" ++ d.names.capitalized ++ theme ++ ".vue", content⟩ ∈ files
      ∧ View.ViewOffers d content

section

variable {d : Document} {fields : List FieldSpec} {s : Settings} (hd : d.WellFormed)
  (hfields : List.Forall₂ (Entity.Reads d) d.schema.entries fields)

include hd hfields

theorem serverLists (hbackend : s.generateBackend = true) :
    ServerLists d ((Entity.ofFields d fields).artifacts s) := by
  refine ⟨⟨_, Entity.mem_artifacts_of_mem_serverFiles hbackend List.mem_cons_self,
    Server.modelLists hd hfields⟩, ?_⟩
  refine ⟨_, Entity.mem_artifacts_of_mem_serverFiles hbackend ?_, Server.apiDocLists hd hfields⟩
  exact .tail _ (.tail _ (.tail _ (.head _)))

theorem viewsOffer (hname : Identifier.isExactEntityName d.name = true)
    (hfrontend : s.generateFrontend = true) :
    ViewsOffer d ((Entity.ofFields d fields).artifacts s) := by
  intro theme htheme
  obtain ⟨t, ht, hview⟩ := Entity.exists_view hfrontend (Entity.ofFields d fields) htheme
  exact ⟨_, hview, View.viewOffers hfields hd hname (View.isBareTheme_of_mem_builtIn ht)⟩

end

/-- Every enumeration of an accepted document is edited, and its declared options can be read again
wherever they are written: in the model, in the API document, and in the form of each view, which
starts with the first of them. -/
theorem declared_options_recovered {v : Value} {d : Document} (hparse : Document.parse v = .ok d)
    (hvalid : d.findings.isValid = true) {s : Settings} (hwritable : s.IsWritable) :
    (∀ key options, d.declaredOptions? key = some options → key ∈ d.editedKeys ∧ key ∈ d.formKeys)
      ∧ ∃ files, assemble v s = .ok files
        ∧ (s.generateBackend = true → ServerLists d files)
        ∧ (s.generateFrontend = true → ViewsOffer d files) := by
  obtain ⟨hd, fields, hfields, -, hfiles⟩ := exists_assemble_eq_ok hparse hvalid
  refine ⟨fun key options hdeclared => ?_, _, hfiles s hwritable, serverLists hd hfields,
    viewsOffer hd hfields (Document.isExactEntityName_of_parse hparse)⟩
  have hedited := hd.mem_editedKeys_of_declared hdeclared
  exact ⟨hedited, hd.formKeys_perm.mem_iff.mpr hedited⟩

/-- The value that describes tickets, with options that need every escape. -/
def ticketValue : Value :=
  .map [(.text "name", .text "ticket"), (.text "schema", .map [(.text "state", .text "enum")]),
    (.text "ui", .map [(.text "state", .map [(.text "options",
      .list [.text "it's \\n", .text "*/ ', '", .text "\"<b>\" & \n</option>"])])])]

/-- The document about tickets. -/
def ticketDocument : Document where
  version := none
  name := "ticket"
  overrides := {}
  schema := .ofList [("state", "enum")]
  ui := .ofList [("state", { options := some ["it's \\n", "*/ ', '", "\"<b>\" & \n</option>"] })]

/-- The options of tickets are recovered. -/
theorem ticket_options_recovered :
    ticketDocument.declaredOptions? "state"
        = some ["it's \\n", "*/ ', '", "\"<b>\" & \n</option>"]
      ∧ "state" ∈ ticketDocument.editedKeys
      ∧ ∃ files, assemble ticketValue {} = .ok files ∧ ServerLists ticketDocument files
        ∧ ViewsOffer ticketDocument files := by
  have hparse : Document.parse ticketValue = .ok ticketDocument := by decide
  have hvalid : ticketDocument.findings.isValid = true := by decide
  have hdeclared : ticketDocument.declaredOptions? "state"
      = some ["it's \\n", "*/ ', '", "\"<b>\" & \n</option>"] := by decide
  obtain ⟨hkeys, files, hfiles, hserver, hviews⟩ := 
    declared_options_recovered hparse hvalid Settings.isWritable_default
  exact ⟨hdeclared, (hkeys _ _ hdeclared).1, files, hfiles, hserver rfl, hviews rfl⟩

end Scaffold
