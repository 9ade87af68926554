import Scaffold.Proofs.Assembly
import Scaffold.Proofs.Declared
import Scaffold.Proofs.Parsing
import Scaffold.Proofs.Server.Fields
import Scaffold.Proofs.Text.Decoding
import Scaffold.Proofs.Text.Evaluation
import Scaffold.Proofs.View.Fields

/-!
# Quoted texts in generated files

The titles of columns, the options of enumerations and the options that forms start with are written
as literals. Any text can be read back from its literal by undoing the escapes, so that texts with
the same literal are the same. As part of a script, the literal evaluates to the text just if the
text has no carriage return, which is written as it is and breaks the literal
(`texts_evaluate_iff`). `Quotes` says so of a line, with the code around the literals.
-/

namespace Scaffold

open Text

/-! ### What is said of the files -/

namespace View

/-- The block of a column has a line that quotes its title. -/
def QuotesTitle (m : FieldMapping) (block : List String) : Prop :=
  IsColumn m.key block ∧ ∃ line ∈ block, Quotes "    title: ''," [m.label] line

/-- If options are declared for a key, a line that gives it a value quotes the first of them. -/
def QuotesDefault (d : Document) (blanks key line : String) : Prop :=
  ∀ options, d.declaredOptions? key = some options → ∀ option ∈ options.head?,
    ∃ code, IsEntry (blanks ++ key ++ ": ''") code ∧ Quotes code [option] line

/-- A view quotes the titles of its columns, and the options that its form starts with, wherever it
is made new. -/
structure ViewQuotes (d : Document) (e : Entity) (content : String) : Prop where
  titles : ∃ blocks, List.Forall₂ QuotesTitle e.presented blocks
    ∧ HasLines content (["const columns = ref<TableColumn[]>(["] ++ blocks.flatten ++ ["])"])
  defaults : ∃ members, List.Forall₂ (QuotesDefault d "  ") d.editedKeys members
    ∧ HasLines content (["const " ++ d.names.name ++ "Form = ref<Create" ++ d.names.capitalized
      ++ "Dto & Update" ++ d.names.capitalized ++ "Dto>(\x7b"] ++ members ++ ["\x7d)"])
  reset : ∃ members, List.Forall₂ (QuotesDefault d "    ") d.editedKeys members
    ∧ HasLines content (["const resetForm = () => \x7b",
      "  " ++ d.names.name ++ "Form.value = \x7b"] ++ members ++ ["  \x7d"])

end View

namespace Server

/-- If options are declared for a key, its schema block has a line that quotes them. -/
def QuotesOptions (d : Document) (key : String) (block : List String) : Prop :=
  IsSchemaBlock key block ∧ ∀ options, d.declaredOptions? key = some options →
    ∃ line ∈ block,
      Quotes ("    enum: " ++ literalList (options.map fun _ => "") ++ ",") options line

/-- A model quotes the declared options. -/
def ModelQuotes (d : Document) (content : String) : Prop :=
  ∃ blocks, List.Forall₂ (QuotesOptions d) d.editedKeys blocks
    ∧ HasLines content (["const " ++ d.names.name ++ "Schema = new Schema(\x7b"]
      ++ blocks.flatten ++ ["\x7d, \x7b", "  timestamps: true", "\x7d);"])

end Server

/-! ### Lines -/

/-- A key opens nothing. -/
theorem opensNothing_of_isIdentifier {key : String} (h : Identifier.isIdentifier key = true) :
    opensNothing key.toList = true := by
  have hopeners : Mode.openers.all (fun c => !Identifier.isPart c && c != '\n') = true := by decide
  rw [opensNothing, List.all_eq_true]
  intro c hc
  rw [Bool.not_eq_true', ← Bool.not_eq_true, List.contains_iff_mem]
  intro hopens
  have hopener := List.all_eq_true.mp hopeners c hopens
  rw [Bool.and_eq_true, Bool.not_eq_true', bne_iff_ne] at hopener
  exact Identifier.notMem_of_isIdentifier h hopener.1 hopener.2 hc

theorem View.quotes_title (title : String) :
    Quotes "    title: ''," [title] ("    " ++ ("title: " ++ literal title) ++ ",") := by
  have hblanks : Reads "    " [] "    " := reads_code rfl
  have hkey : Reads "title: " [] "title: " := reads_code rfl
  have hcomma : Reads "," [] "," := reads_code rfl
  exact ((hblanks.append (hkey.append (reads_literal title))).append hcomma).quotes

/-- An entry that gives a key an option quotes it. -/
theorem View.exists_quotes_entry {blanks key option line : String}
    (hblanks : opensNothing blanks.toList = true) (hkey : Identifier.isIdentifier key = true)
    (hline : IsEntry (blanks ++ (key ++ ": " ++ literal option)) line) :
    ∃ code, IsEntry (blanks ++ key ++ ": ''") code ∧ Quotes code [option] line := by
  have hsep : Reads ": " [] ": " := reads_code rfl
  have hcomma : Reads "," [] "," := reads_code rfl
  have hentry : Reads (blanks ++ key ++ ": ''") [option]
      (blanks ++ (key ++ ": " ++ literal option)) := by
    have hmember := ((reads_code (opensNothing_of_isIdentifier hkey)).append hsep).append
      (reads_literal option)
    have hparts := (reads_code hblanks).append hmember
    have hcode : blanks ++ (key ++ ": " ++ "''") = blanks ++ key ++ ": ''" := by
      simp [← String.toList_inj]
    exact hcode ▸ hparts
  rcases hline with rfl | rfl
  · exact ⟨_, .inl rfl, hentry.quotes⟩
  · exact ⟨_, .inr rfl, (hentry.append hcomma).quotes⟩

theorem Server.quotes_options (options : List String) :
    Quotes ("    enum: " ++ literalList (options.map fun _ => "") ++ ",") options
      ("    enum: " ++ literalList options ++ ",") := by
  have hkey : Reads "    enum: " [] "    enum: " := reads_code rfl
  have hcomma : Reads "," [] "," := reads_code rfl
  have hline := ((hkey.append (reads_literalList options)).append hcomma).quotes
  rwa [List.nil_append, List.append_nil] at hline

/-! ### The files -/

section

variable {d : Document} {fields : List FieldSpec} (hd : d.WellFormed)
  (hfields : List.Forall₂ (Entity.Reads d) d.schema.entries fields)

include hd hfields

/-- The block of a column quotes the title. -/
theorem View.quotesTitle_of_mem_presented {m : FieldMapping}
    (hm : m ∈ (Entity.ofFields d fields).presented) {last : String}
    (hlast : IsEntry (columnBlock (.ofMapping m)).2 last) :
    QuotesTitle m ((columnBlock (.ofMapping m)).1 ++ [last]) := by
  obtain ⟨field, -, rfl⟩ := List.mem_map.mp ((Entity.presented_eq hfields hd).1 m hm)
  refine ⟨isColumn_columnBlock field hlast, _, ?_, quotes_title _⟩
  -- the title stands below the key
  exact .tail _ (.tail _ (.head _))

/-- The form starts with the first of the declared options. -/
theorem View.quotesDefault_defaults {blanks : String}
    (hblanks : opensNothing blanks.toList = true) :
    List.Forall₂ (QuotesDefault d blanks) d.editedKeys
      (objectBody blanks (defaultMembers (.ofEntity (Entity.ofFields d fields)))) := by
  rw [objectBody, map_defaultMembers, ← Entity.map_key_payload hfields]
  refine forall₂_map_key_of (forall₂_commaSeparated _) fun m hm line hline => ?_
  intro options hdeclared option hoption
  have hmapping := (List.mem_filter.mp hm).1
  have hkey := Entity.isIdentifier_key hd hfields hmapping
  obtain ⟨field, o, -, rfl, rfl⟩ := Entity.exists_enumMapping hfields hmapping hdeclared
  cases hoption
  exact exists_quotes_entry hblanks hkey hline

theorem View.viewQuotes (t : Theme) :
    ViewQuotes d (Entity.ofFields d fields)
      (artifact t (.ofEntity (Entity.ofFields d fields))).content where
  titles := by
    obtain ⟨blocks, hblocks, hlines⟩ := exists_columnBlocks (Entity.ofFields d fields)
    refine ⟨blocks, ?_, hasLines_columns t hlines⟩
    refine forall₂_imp_of_mem hblocks fun m hm block hblock => ?_
    obtain ⟨last, hlast, rfl⟩ := hblock
    exact quotesTitle_of_mem_presented hd hfields hm hlast
  defaults := ⟨_, quotesDefault_defaults hd hfields rfl, hasLines_defaults t _⟩
  reset := ⟨_, quotesDefault_defaults hd hfields rfl, hasLines_reset t _⟩

/-- The schema block of a mapping quotes the options declared for its key. -/
theorem Server.quotesOptions_of_mem_payload {m : FieldMapping}
    (hm : m ∈ (Entity.ofFields d fields).payload) : QuotesOptions d m.key (schemaBlock m) := by
  refine ⟨isSchemaBlock_of_mem_payload hd hfields hm, fun options hdeclared => ?_⟩
  obtain ⟨field, o, -, rfl, rfl⟩ :=
    Entity.exists_enumMapping hfields (List.mem_filter.mp hm).1 hdeclared
  refine ⟨_, ?_, quotes_options o.toList⟩
  -- the options stand below what is stored
  exact .tail _ (.tail _ (.head _))

theorem Server.modelQuotes : ModelQuotes d (modelText (Entity.ofFields d fields)) := by
  refine ⟨(Entity.ofFields d fields).payload.map schemaBlock, ?_, ?_⟩
  · rw [← Entity.map_key_payload hfields]
    exact forall₂_map_key fun m hm => quotesOptions_of_mem_payload hd hfields hm
  · rw [← List.flatMap_def]
    exact hasLines_schemaBlocks _

end

/-- Every text can be read back from its literal, which has no line feed, has a carriage return just
if the text has one, and evaluates to the text if it has none. So texts with the same literal are
the same, and in the files of an accepted document the titles of columns, the options of
enumerations and those that forms start with stay in their literals, those with a carriage return
apart. -/
theorem texts_evaluate_iff {v : Value} {d : Document} (hparse : Document.parse v = .ok d)
    (hvalid : d.findings.isValid = true) {s : Settings} (hwritable : s.IsWritable) :
    (∀ text, literal? (literal text) = some text ∧ '\n' ∉ (literal text).toList
        ∧ ('\r' ∈ (literal text).toList ↔ '\r' ∈ text.toList)
        ∧ evaluated? (literal text)
          = if '\r' ∈ text.toList then none else some ("''", [units text]))
      ∧ Function.Injective literal
      ∧ ∃ e files, Entity.ofAccepted d = .ok e ∧ assemble v s = .ok files
        ∧ (s.generateFrontend = true → ∀ theme ∈ ["Bootstrap", "Fomantic"], ∃ content,
          ⟨.frontend, "views/" ++ d.names.capitalized ++ theme ++ ".vue", content⟩ ∈ files
            ∧ View.ViewQuotes d e content)
        ∧ (s.generateBackend = true → ∃ content,
          ⟨.backend, "model.ts", content⟩ ∈ files ∧ Server.ModelQuotes d content) := by
  refine ⟨fun text => ⟨literal?_literal text, unbroken_literal text, ?_, ?_⟩, ?_, ?_⟩
  · refine ⟨fun h => ?_, fun h => mem_literal h (by decide)⟩
    exact (mem_of_mem_literal h).2.resolve_right (by decide)
  · rw [(reads_literal text).quotes]
    by_cases h : '\r' ∈ text.toList <;> simp [h]
  · intro text text' h
    -- a literal is read back as its text
    have hread := congrArg literal? h
    rw [literal?_literal, literal?_literal] at hread
    exact Option.some.inj hread
  · obtain ⟨hd, fields, hfields, he, hfiles⟩ := exists_assemble_eq_ok hparse hvalid
    refine ⟨_, _, he, hfiles s hwritable, fun hfrontend theme htheme => ?_, fun hbackend => ?_⟩
    · obtain ⟨t, -, hview⟩ := Entity.exists_view hfrontend (Entity.ofFields d fields) htheme
      exact ⟨_, hview, View.viewQuotes hd hfields t⟩
    · exact ⟨_, Entity.mem_artifacts_of_mem_serverFiles hbackend List.mem_cons_self,
        Server.modelQuotes hd hfields⟩

/-- The value that describes badges, with a carriage return in a label, and options that need
escapes. -/
def badgeValue : Value :=
  .map [(.text "name", .text "badge"), (.text "schema", .map [(.text "state", .text "enum")]),
    (.text "ui", .map [(.text "state", .map [(.text "label", .text "a\rb"),
      (.text "options", .list [.text "it's\\", .text "sent\n"])])])]

/-- The document about badges. -/
def badgeDocument : Document where
  version := none
  name := "badge"
  overrides := {}
  schema := .ofList [("state", "enum")]
  ui := .ofList [("state", { label := "a\rb", options := some ["it's\\", "sent\n"] })]

/-- In the scripts about badges, the options evaluate to themselves and the title breaks its line.
-/
theorem badge_title_breaks :
    badgeDocument.declaredOptions? "state" = some ["it's\\", "sent\n"]
      ∧ (∃ e files, Entity.ofAccepted badgeDocument = .ok e ∧ assemble badgeValue {} = .ok files
        ∧ (∃ content, ⟨.frontend, "views/BadgeBootstrap.vue", content⟩ ∈ files
          ∧ View.ViewQuotes badgeDocument e content)
        ∧ ∃ content, ⟨.backend, "model.ts", content⟩ ∈ files
          ∧ Server.ModelQuotes badgeDocument content)
      ∧ evaluated? (literal "it's\\") = some ("''", [units "it's\\"])
      ∧ evaluated? (literal "a\rb") = none := by
  have hparse : Document.parse badgeValue = .ok badgeDocument := by decide
  have hvalid : badgeDocument.findings.isValid = true := by decide
  obtain ⟨htexts, -, e, files, he, hfiles, hviews, hmodel⟩ :=
    texts_evaluate_iff hparse hvalid Settings.isWritable_default
  refine ⟨by decide, ⟨e, files, he, hfiles, ?_, hmodel rfl⟩, ?_, ?_⟩
  · exact hviews rfl "Bootstrap" List.mem_cons_self
  · exact (htexts "it's\\").2.2.2
  · exact (htexts "a\rb").2.2.2

end Scaffold
