import Scaffold.Proofs.Assembly
import Scaffold.Proofs.Parsing
import Scaffold.Proofs.Server.Fields
import Scaffold.Proofs.Text.Comments

/-!
# The comments of the API document

The API document is six comments and nothing else. Names, keys and paths have no asterisk in them,
and options are quoted, so that nothing a document says closes a comment before the line that does
(`apiDoc_is_comments`).
-/

namespace Scaffold.Server

open Text

/-! ### Blocks of lines that stay open -/

/-- The text between what opens a comment and what closes it. -/
def commentBody (lines : List String) : String :=
  "\n" ++ "\n".intercalate (" * @swagger" :: lines.map (" * " ++ ·)) ++ "\n "

theorem intercalate_docBlock (lines : List String) :
    "\n".intercalate (docBlock lines) = "/**" ++ commentBody lines ++ "*/" := by
  have hblock : docBlock lines
      = ["/**"] ++ ((" * @swagger" :: lines.map (" * " ++ ·)) ++ [" */"]) := by
    simp [docBlock]
  have hend : " */" = " " ++ "*/" := by decide
  rw [hblock, intercalate_append (by simp) (by simp), intercalate_append (by simp) (by simp),
    String.intercalate_singleton, String.intercalate_singleton, commentBody, hend]
  simp [← String.toList_inj]

/-- Blocks with empty lines between them end with the line that closes the last one. -/
theorem exists_docBlocks_eq {blocks : List (List String)} (hne : blocks ≠ []) :
    ∃ front, [""].intercalate (blocks.map docBlock) = front ++ [" */"] := by
  induction blocks with
  | nil => exact absurd rfl hne
  | cons first rest ih =>
    cases rest with
    | nil => exact ⟨_, by rw [List.map_singleton, List.intercalate_singleton, docBlock]⟩
    | cons second others =>
      obtain ⟨front, hfront⟩ := ih (List.cons_ne_nil _ _)
      refine ⟨docBlock first ++ [""] ++ front, ?_⟩
      rw [List.map_cons] at hfront
      rw [List.map_cons, List.map_cons, List.intercalate_cons_cons, hfront,
        List.append_assoc _ front]

/-- Their text is that of the comments, with empty lines between them. -/
theorem intercalate_docBlocks {blocks : List (List String)} (hne : blocks ≠ []) :
    "\n".intercalate ([""].intercalate (blocks.map docBlock))
      = "\n\n".intercalate (blocks.map fun lines => "\n".intercalate (docBlock lines)) := by
  have hblock : ∀ lines, docBlock lines ≠ [] := fun lines => by simp [docBlock]
  induction blocks with
  | nil => exact absurd rfl hne
  | cons first rest ih =>
    cases rest with
    | nil => simp
    | cons second others =>
      have hrest := ih (List.cons_ne_nil _ _)
      obtain ⟨front, hfront⟩ := exists_docBlocks_eq (List.cons_ne_nil second others)
      simp only [List.map_cons] at hrest hfront ⊢
      rw [List.intercalate_cons_cons, intercalate_append (by simp [hblock]) (by simp [hfront]),
        intercalate_append (hblock first) (by simp), hrest, String.intercalate_cons_cons]
      simp [← String.toList_inj]

section

variable {lines : List String} (h : ∀ line ∈ lines, StaysOpen line)

include h

/-- What stands in a comment does not close it. -/
theorem staysOpen_of_mem_docLines {line : String}
    (hline : line ∈ " * @swagger" :: lines.map (" * " ++ ·)) : StaysOpen line := by
  have hmark : StaysOpen " * " := ⟨by decide, by decide⟩
  rcases List.mem_cons.mp hline with rfl | hline
  · have hname : StaysOpen "@swagger" := staysOpen_literal rfl
    exact hmark.append hname
  · obtain ⟨l, hl, rfl⟩ := List.mem_map.mp hline
    exact hmark.append (h l hl)

theorem staysOpen_docLines :
    StaysOpen ("\n".intercalate (" * @swagger" :: lines.map (" * " ++ ·))) :=
  StaysOpen.intercalate (staysOpen_literal rfl) fun _ => staysOpen_of_mem_docLines h

theorem staysOpen_commentBody : StaysOpen (commentBody lines) := by
  have hbreak : StaysOpen "\n" := staysOpen_literal rfl
  exact (hbreak.append (staysOpen_docLines h)).append
    (staysOpen_literal rfl)

/-- A comment is closed once. -/
theorem adds_docBlock : Adds commentEnd 1 ("\n".intercalate (docBlock lines)) := by
  -- what opens a comment ends with an asterisk, so that it is taken together with the line feed
  have hopening : StaysOpen "/**\n" := ⟨by decide, by decide⟩
  have hclosing : Adds commentEnd 1 "\n */" := ⟨by decide, by decide⟩
  have hall := Adds.append (hopening.append (staysOpen_docLines h)) hclosing
  have htext : "\n".intercalate (docBlock lines) = "/**\n"
      ++ "\n".intercalate (" * @swagger" :: lines.map (" * " ++ ·)) ++ "\n */" := by
    rw [intercalate_docBlock, commentBody]
    simp [← String.toList_inj]
  rw [htext]
  exact hall

/-- A rendered line of a comment closes it, or has no place in it that does. -/
theorem not_infix_of_mem_docBlock {line : String} (hline : line ∈ docBlock lines) :
    line = " */" ∨ ¬ commentEnd <:+: line.toList := by
  have hblock : docBlock lines
      = "/**" :: (" * @swagger" :: lines.map (" * " ++ ·)) ++ [" */"] := rfl
  rw [hblock, List.mem_append, List.mem_singleton, List.mem_cons] at hline
  rcases hline with (rfl | hline) | rfl
  · exact .inr (by decide)
  · exact .inr (staysOpen_of_mem_docLines h hline).not_isInfix
  · exact .inl rfl

end

/-! ### Files of comments -/

/-- A text of line feeds has empty lines only. -/
theorem eq_empty_of_mem_splitOn {text line : String} (h : ∀ c ∈ text.toList, c = '\n')
    (hline : line ∈ splitOn '\n' text) : line = "" := by
  have hbreak := notMem_of_mem_splitOn hline
  rw [← String.toList_eq_nil_iff, List.eq_nil_iff_forall_not_mem]
  intro c hc
  obtain rfl := h c ((infix_of_mem_splitOn hline).subset hc)
  exact hbreak hc

section

variable {blocks : List (List String)}
  (h : ∀ block ∈ blocks, ∀ line ∈ block, StaysOpen line)

include h

/-- A rendered line of the blocks closes a comment, or has no place in it that does. -/
theorem not_infix_of_mem_docBlocks {line : String}
    (hline : line ∈ [""].intercalate (blocks.map docBlock)) :
    line = " */" ∨ ¬ commentEnd <:+: line.toList := by
  rcases exists_of_mem_intercalate hline with hline | ⟨part, hpart, hline⟩
  · rw [List.mem_singleton.mp hline]
    exact .inr (by decide)
  · obtain ⟨block, hblock, rfl⟩ := List.mem_map.mp hpart
    exact not_infix_of_mem_docBlock (h block hblock) hline

variable (hne : blocks ≠ [])

include hne

/-- Blocks whose lines stay open make a file of comments. -/
theorem isComments_docBlocks :
    IsComments blocks.length (joinLines ([""].intercalate (blocks.map docBlock))) := by
  obtain ⟨front, hfront⟩ := exists_docBlocks_eq hne
  have hlast : " */".toList.getLast? = some '/' := by decide
  have htext : joinLines ([""].intercalate (blocks.map docBlock))
      = "\n\n".intercalate (blocks.map fun lines => "\n".intercalate (docBlock lines)) ++ "\n" := by
    rw [hfront, joinLines_eq hlast (by decide), ← hfront, intercalate_docBlocks hne]
  refine ⟨?_, ?_, ?_⟩
  · have hcomments : AddsAll commentEnd (blocks.map fun _ => 1).sum
        (blocks.map fun lines => "\n".intercalate (docBlock lines)) :=
      .map fun lines hlines => adds_docBlock (h lines hlines)
    have hempty : StaysOpen "" := staysOpen_literal rfl
    have hsep : StaysOpen "\n\n" := staysOpen_literal rfl
    have hbreak : StaysOpen "\n" := staysOpen_literal rfl
    have hall := (hcomments.joined hempty hsep).append hbreak
    rw [htext, hall.count]
    simp
  · intro line hline hcloses
    rw [hfront, splitOn_joinLines hlast (by decide)] at hline
    -- a line of the file is a part of a rendered line, or stands behind the last one
    have hrendered : (∃ rendered ∈ front ++ [" */"], line ∈ splitOn '\n' rendered) ∨ line = "" := by
      simpa [List.mem_flatMap, or_assoc] using hline
    rcases hrendered with ⟨rendered, hmem, hpart⟩ | rfl
    · rcases not_infix_of_mem_docBlocks h (hfront ▸ hmem) with rfl | hopen
      · rw [splitOn_of_notMem (by decide)] at hpart
        exact List.mem_singleton.mp hpart
      · exact absurd (hcloses.trans (infix_of_mem_splitOn hpart)) hopen
    · exact absurd hcloses (by decide)
  · have hbodies : ∀ body ∈ blocks.map fun lines => (commentBody lines).toList,
        ¬ commentEnd <:+: body :=
      List.forall_mem_map.mpr fun lines hlines =>
        (staysOpen_commentBody (h lines hlines)).not_isInfix
    obtain ⟨parts, hparts, hlength, hbreaks⟩ := exists_partsFrom? (by simpa using hne) hbodies []
    refine ⟨([] :: parts).map String.ofList, ?_, by simp [hlength], ?_⟩
    · have hcomments : (blocks.map fun lines => "\n".intercalate (docBlock lines)).map String.toList
          = (blocks.map fun lines => (commentBody lines).toList).map
            fun body => '/' :: '*' :: '*' :: (body ++ commentEnd) := by
        rw [List.map_map, List.map_map]
        refine List.map_congr_left fun lines _ => ?_
        simp [intercalate_docBlock, commentEnd]
      rw [aroundComments?, htext, String.toList_append, String.toList_intercalate, hcomments]
      exact congrArg _ hparts
    · intro line
      apply eq_empty_of_mem_splitOn
      intro c hc
      rw [String.toList_join] at hc
      obtain ⟨text, htext, hc⟩ := List.mem_flatMap.mp hc
      obtain ⟨part, hpart, rfl⟩ := List.mem_map.mp htext
      rw [String.toList_ofList] at hc
      rcases List.mem_cons.mp hpart with rfl | hpart
      · cases hc
      · exact hbreaks part hpart c hc

end

/-! ### The API document -/

/-- Names without asterisks. -/
structure StarlessNames (n : Names) : Prop where
  name : Starless n.name
  capitalized : Starless n.capitalized
  plural : Starless n.plural
  capitalizedPlural : Starless n.capitalizedPlural
  path : Starless n.path

/-- Lines without asterisks. -/
def StarlessLines (lines : List String) : Prop := ∀ line ∈ lines, Starless line

theorem StarlessLines.append {front back : List String} (hfront : StarlessLines front)
    (hback : StarlessLines back) : StarlessLines (front ++ back) :=
  List.forall_mem_append.mpr ⟨hfront, hback⟩

theorem starless_responses : StarlessLines ["    responses:"] :=
  isPiecewise_starless.lines rfl (by simp)

theorem starless_idParameter : StarlessLines idParameter := by
  unfold idParameter
  exact isPiecewise_starless.lines rfl (by simp)

theorem starless_answer {status description : String} (hstatus : Starless status)
    (hdescription : Starless description) : StarlessLines (answer status description) := by
  unfold answer
  exact isPiecewise_starless.lines rfl (by simp [hstatus, hdescription])

section

variable {n : Names} (hn : StarlessNames n)

include hn

theorem starless_reference : Starless (reference n) := by
  unfold reference
  exact isPiecewise_starless.text rfl (by simp [hn.capitalized])

theorem starless_itemPath : Starless (itemPath n) := by
  unfold itemPath
  exact isPiecewise_starless.text rfl (by simp [hn.path])

theorem starless_answerWith {status description : String} (hstatus : Starless status)
    (hdescription : Starless description) : StarlessLines (answerWith n status description) :=
  (starless_answer hstatus hdescription).append
    (isPiecewise_starless.lines rfl (by simp [starless_reference hn]))

theorem starless_notFound : StarlessLines (notFound n) :=
  starless_answer (by decide) (isPiecewise_starless.text rfl (by simp [hn.capitalized]))

theorem starless_operationHead {path verb summary : String} (hpath : Starless path)
    (hverb : Starless verb) (hsummary : Starless summary) :
    StarlessLines (operationHead n path verb summary) := by
  unfold operationHead
  exact isPiecewise_starless.lines rfl (by simp [hpath, hverb, hsummary, hn.capitalizedPlural])

theorem starless_bodyOf : StarlessLines (bodyOf n) := by
  unfold bodyOf
  exact isPiecewise_starless.lines rfl (by simp [starless_reference hn])

theorem starless_listBlock : StarlessLines (listBlock n) := by
  have hsummary : Starless ("Get all " ++ n.plural) :=
    isPiecewise_starless.text rfl (by simp [hn.plural])
  have hdescription : Starless ("List of " ++ n.plural) :=
    isPiecewise_starless.text rfl (by simp [hn.plural])
  have hhead := starless_operationHead hn hn.path (by decide : Starless "get") hsummary
  have hanswer := starless_answer (by decide : Starless "200") hdescription
  refine ((hhead.append ?_).append hanswer).append ?_
  · exact isPiecewise_starless.lines rfl (by simp)
  · exact isPiecewise_starless.lines rfl (by simp [starless_reference hn])

theorem starless_getBlock : StarlessLines (getBlock n) := by
  have hsummary : Starless ("Get a " ++ n.name ++ " by ID") :=
    isPiecewise_starless.text rfl (by simp [hn.name])
  have hdescription : Starless ("The " ++ n.name) :=
    isPiecewise_starless.text rfl (by simp [hn.name])
  have hhead :=
    starless_operationHead hn (starless_itemPath hn) (by decide : Starless "get") hsummary
  have hanswer := starless_answerWith hn (by decide : Starless "200") hdescription
  exact (((hhead.append starless_idParameter).append starless_responses).append hanswer).append
    (starless_notFound hn)

theorem starless_createBlock : StarlessLines (createBlock n) := by
  have hsummary : Starless ("Create a new " ++ n.name) :=
    isPiecewise_starless.text rfl (by simp [hn.name])
  have hdescription : Starless (n.capitalized ++ " created") :=
    isPiecewise_starless.text rfl (by simp [hn.capitalized])
  have hhead := starless_operationHead hn hn.path (by decide : Starless "post") hsummary
  have hcreated := starless_answerWith hn (by decide : Starless "201") hdescription
  have hinvalid : StarlessLines (answer "400" "Validation error") :=
    starless_answer (by decide) (by decide)
  exact (((hhead.append (starless_bodyOf hn)).append starless_responses).append hcreated).append
    hinvalid

theorem starless_updateBlock : StarlessLines (updateBlock n) := by
  have hsummary : Starless ("Update a " ++ n.name) :=
    isPiecewise_starless.text rfl (by simp [hn.name])
  have hdescription : Starless (n.capitalized ++ " updated") :=
    isPiecewise_starless.text rfl (by simp [hn.capitalized])
  have hhead :=
    starless_operationHead hn (starless_itemPath hn) (by decide : Starless "put") hsummary
  have hupdated := starless_answerWith hn (by decide : Starless "200") hdescription
  exact ((((hhead.append starless_idParameter).append (starless_bodyOf hn)).append
    starless_responses).append hupdated).append (starless_notFound hn)

theorem starless_deleteBlock : StarlessLines (deleteBlock n) := by
  have hsummary : Starless ("Delete a " ++ n.name) :=
    isPiecewise_starless.text rfl (by simp [hn.name])
  have hdescription : Starless (n.capitalized ++ " deleted") :=
    isPiecewise_starless.text rfl (by simp [hn.capitalized])
  have hhead :=
    starless_operationHead hn (starless_itemPath hn) (by decide : Starless "delete") hsummary
  have hdeleted := starless_answer (by decide : Starless "204") hdescription
  exact (((hhead.append starless_idParameter).append starless_responses).append hdeleted).append
    (starless_notFound hn)

end

/-- What a property says of a field closes no comment, whatever the options of the field are. -/
theorem staysOpen_of_mem_property {field : FieldSpec} (hkey : Starless field.key) {line : String}
    (hline : line ∈ property field.mapping) : StaysOpen line := by
  have htypes : ∀ t ∈ FieldSpec.apiTypes, Starless t := by decide
  have htype : Starless field.mapping.apiType := htypes _ field.apiType_mapping
  simp only [property, List.mem_append] at hline
  rcases hline with ((hhead | hitems) | hformat) | henum
  · have hall : ∀ l ∈ ["        " ++ field.mapping.key ++ ":",
        "          type: " ++ field.mapping.apiType], Starless l :=
      isPiecewise_starless.lines rfl (by simp [hkey, htype])
    exact (hall line hhead).staysOpen
  · have hall : ∀ l ∈ ["          items:", "            type: string",
        "            format: objectId"], Starless l :=
      isPiecewise_starless.lines rfl (by simp)
    split at hitems
    · exact (hall line hitems).staysOpen
    · cases hitems
  · split at hformat
    next format hsome =>
      obtain rfl := List.mem_singleton.mp hformat
      have hformats : ∀ t ∈ FieldSpec.apiFormats, Starless t := by decide
      have hgiven : Starless format := hformats _ (FieldSpec.mem_apiFormats hsome)
      exact (isPiecewise_starless.text rfl (by simp [hgiven])).staysOpen
    next => cases hformat
  · split at henum
    · cases henum
    · obtain rfl := List.mem_singleton.mp henum
      -- options are free text, and only their encoding keeps the comment open
      have hopening : StaysOpen "          enum: [" := staysOpen_literal rfl
      have hcomma : StaysOpen ", " := staysOpen_literal rfl
      have hclosing : StaysOpen "]" := staysOpen_literal rfl
      have hoptions : ∀ part ∈ field.mapping.enumValues.map docText, StaysOpen part :=
        List.forall_mem_map.mpr fun option _ => staysOpen_docText option
      exact (hopening.append (hcomma.intercalate hoptions)).append hclosing

section

variable {d : Document} {fields : List FieldSpec} (hd : d.WellFormed)
  (hname : Identifier.isExactEntityName d.name = true)
  (hfields : List.Forall₂ (Entity.Reads d) d.schema.entries fields)

include hd

include hname in
theorem starlessNames_names : StarlessNames d.names := by
  have hn := Document.areIdentifiers_names hd hname
  have hstar : ∀ {s : String}, Identifier.isIdentifier s = true → Starless s := fun h =>
    Identifier.notMem_of_isIdentifier h (by decide) (by decide)
  refine ⟨hstar hn.name, hstar hn.capitalized, hstar hn.plural, hstar hn.capitalizedPlural, ?_⟩
  rcases Document.path_names hd with ⟨path, -, heq, hpath⟩ | ⟨-, heq⟩
  · rw [heq]
    exact Identifier.notMem_of_matchesLine hpath (by decide) (by decide) (by decide)
  · rw [heq]
    exact hstar hn.plural

include hfields

theorem starless_key {m : FieldMapping} (hm : m ∈ (Entity.ofFields d fields).mappings) :
    Starless m.key :=
  Identifier.notMem_of_isIdentifier (Entity.isIdentifier_key hd hfields hm) (by decide) (by decide)

theorem starless_requiredList :
    StarlessLines (requiredList (Entity.ofFields d fields)) := by
  unfold requiredList
  split
  · exact List.forall_mem_nil _
  · refine List.forall_mem_cons.mpr ⟨by decide, ?_⟩
    refine List.forall_mem_map.mpr fun key hkey => ?_
    obtain ⟨m, hm, rfl⟩ := List.mem_map.mp hkey
    have hmapping := List.mem_of_mem_filter (List.mem_of_mem_filter hm)
    exact isPiecewise_starless.text rfl (by simp [starless_key hd hfields hmapping])

include hname

theorem staysOpen_of_mem_componentBlock {line : String}
    (hline : line ∈ componentBlock (Entity.ofFields d fields)) : StaysOpen line := by
  have hcapitalized := (starlessNames_names hd hname).capitalized
  simp only [componentBlock, List.mem_append] at hline
  rcases hline with (((hopening | hrequired) | hidentity) | hproperty) | hstamp
  · have hall : ∀ l ∈ ["components:", "  schemas:",
        "    " ++ d.names.capitalized ++ ":", "      type: object"], Starless l :=
      isPiecewise_starless.lines rfl (by simp [hcapitalized])
    exact (hall line hopening).staysOpen
  · exact (starless_requiredList hd hfields line hrequired).staysOpen
  · have hall : ∀ l ∈ "      properties:" :: identityProperty, Starless l := by decide
    exact (hall line hidentity).staysOpen
  · obtain ⟨m, hm, hline⟩ := List.mem_flatMap.mp hproperty
    have hkey := starless_key hd hfields (List.mem_of_mem_filter hm)
    obtain ⟨field, -, rfl⟩ := List.mem_map.mp (List.mem_of_mem_filter hm)
    exact staysOpen_of_mem_property (field.key_mapping ▸ hkey) hline
  · have hall : ∀ l ∈ timestampFields.flatMap timestampProperty, Starless l := by decide
    exact (hall line hstamp).staysOpen

/-- The API document is six comments. -/
theorem isComments_apiDocText : IsComments 6 (apiDocText (Entity.ofFields d fields)) := by
  have hn : StarlessNames (Entity.ofFields d fields).names := starlessNames_names hd hname
  have hblocks : ∀ block ∈ apiDocBlocks (Entity.ofFields d fields), ∀ line ∈ block,
      StaysOpen line := by
    intro block hblock line hline
    simp only [apiDocBlocks, List.mem_cons, List.not_mem_nil, or_false] at hblock
    rcases hblock with rfl | rfl | rfl | rfl | rfl | rfl
    · exact staysOpen_of_mem_componentBlock hd hname hfields hline
    · exact (starless_listBlock hn line hline).staysOpen
    · exact (starless_getBlock hn line hline).staysOpen
    · exact (starless_createBlock hn line hline).staysOpen
    · exact (starless_updateBlock hn line hline).staysOpen
    · exact (starless_deleteBlock hn line hline).staysOpen
  exact isComments_docBlocks hblocks (List.cons_ne_nil _ _)

end

end Scaffold.Server

namespace Scaffold

/-- The API document of an accepted document is six comments with blank lines around them, each
closed by a line of its own: nothing that the document says closes one. -/
theorem apiDoc_is_comments {v : Value} {d : Document} (hparse : Document.parse v = .ok d)
    (hvalid : d.findings.isValid = true) {s : Settings} (hwritable : s.IsWritable) :
    ∃ files, assemble v s = .ok files ∧ (s.generateBackend = true →
      ∃ content, ⟨.backend, "swagger.ts", content⟩ ∈ files ∧ Text.IsComments 6 content) := by
  obtain ⟨hd, fields, hfields, -, hfiles⟩ := exists_assemble_eq_ok hparse hvalid
  refine ⟨_, hfiles s hwritable, fun hbackend =>
    ⟨_, Entity.mem_artifacts_of_mem_serverFiles hbackend ?_,
      Server.isComments_apiDocText hd (Document.isExactEntityName_of_parse hparse) hfields⟩⟩
  exact .tail _ (.tail _ (.tail _ (.head _)))

/-- The value that describes remarks, with options that would close a comment. -/
def remarkValue : Value :=
  .map [(.text "name", .text "remark"), (.text "path", .text "all/remarks"),
    (.text "schema", .map [(.text "kind", .text "enum")]),
    (.text "ui", .map [(.text "kind", .map [(.text "options",
      .list [.text "*/", .text "**//", .text "/** */ \"*", .text "/"])])])]

/-- The document about remarks. -/
def remarkDocument : Document where
  version := none
  name := "remark"
  overrides := { path := some "all/remarks" }
  schema := .ofList [("kind", "enum")]
  ui := .ofList [("kind", { options := some ["*/", "**//", "/** */ \"*", "/"] })]

/-- The options of remarks close no comment of their API document. -/
theorem remarks_in_comments :
    Document.parse remarkValue = .ok remarkDocument ∧ remarkDocument.findings.isValid = true
      ∧ ∃ files, assemble remarkValue {} = .ok files
        ∧ ∃ content, ⟨.backend, "swagger.ts", content⟩ ∈ files ∧ Text.IsComments 6 content := by
  have hparse : Document.parse remarkValue = .ok remarkDocument := by decide
  have hvalid : remarkDocument.findings.isValid = true := by decide
  obtain ⟨files, hfiles, hcomments⟩ := apiDoc_is_comments hparse hvalid Settings.isWritable_default
  exact ⟨hparse, hvalid, files, hfiles, hcomments rfl⟩

end Scaffold
