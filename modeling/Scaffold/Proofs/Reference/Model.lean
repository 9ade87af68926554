import Scaffold.Proofs.Reference.Content
import Scaffold.Proofs.Reference.Quoted
import Scaffold.Proofs.Reference.Templates
import Scaffold.Proofs.Server.Comments
import Scaffold.Server.ApiDoc
import Scaffold.Server.Model

/-!
# The model and the API document

The model exports two names and imports one library. What it says about fields has keys and quoted
texts in it, but a key without quotation marks around it is no import, and neither is a quoted text
behind anything but the word for imports.

The API document refers to nothing. Its blocks are comments: a line with an asterisk in front of it
has no tokens, and the keys that may break such a line have no quotation marks.
-/

namespace Scaffold.Server

open Text Reading

theorem isWord_documentType {n : Names} (hn : n.AreWords) : IsWord (documentType n) :=
  .append (.literal rfl) hn.capitalized

theorem isWord_modelConst {n : Names} (hn : n.AreWords) : IsWord (modelConst n) :=
  .append hn.capitalized (.literal rfl)

/-- The line that registers the model, with the forms of a name. -/
theorem text_registrationLine {σ : Filling} {n : Names} (hn : n.IsFilledBy σ) :
    σ.text (registrationLine .placeholders) = registrationLine n := by
  unfold registrationLine modelConst documentType
  simp (disch := decide) [Filling.text_ascii, hn.name, hn.capitalized]

/-- The lines that refer to a model cite nothing. -/
theorem cites_storedReferences {target : String} (h : IsWord target) :
    ∀ s ∈ storedReferences target, CitesText [] [] s := by
  obtain ⟨σ, hσ⟩ := Filling.exists_text_other h
  have hlines : (storedReferences otherPlaceholder).map σ.text = storedReferences target := by
    simp (disch := decide) [storedReferences, Filling.text_ascii, hσ]
  rw [← hlines]
  exact citesText_of_holdsOf templates_refer.2.2.2.2.1

/-! ### What the model says about fields -/

section

variable {e : Entity} (he : e.WellNamed)

include he

/-- The type of a field is written without quotation marks. -/
theorem unquoted_documentMember {m : FieldMapping} (hm : m ∈ e.mappings) :
    Unquoted ("  " ++ m.key ++ ": " ++ m.documentType) := by
  have htypes : ∀ t ∈ FieldSpec.documentTypes, Unquoted t := by
    simp only [FieldSpec.documentTypes, List.forall_mem_cons, List.not_mem_nil, false_imp_iff,
      implies_true, and_true]
    exact ⟨.literal rfl, .literal rfl, .literal rfl, .literal rfl, .literal rfl, .literal rfl⟩
  have hkey := unquoted_of_isIdentifier (he.keys m hm)
  obtain ⟨field, rfl, -⟩ := he.mappings m hm
  exact .append (.append (.append (.literal rfl) hkey) (.literal rfl))
    (htypes _ field.documentType_mapping)

/-- What is said of what is stored cites nothing. -/
theorem cites_storedLines {m : FieldMapping} (hm : m ∈ e.mappings) :
    ∀ s ∈ storedLines m, CitesText [] [] s := by
  have htypes : ∀ t ∈ FieldSpec.storedTypes, Unquoted t := by
    simp only [FieldSpec.storedTypes, List.forall_mem_cons, List.not_mem_nil, false_imp_iff,
      implies_true, and_true]
    exact ⟨.literal rfl, .literal rfl, .literal rfl, .literal rfl, .literal rfl⟩
  obtain ⟨field, rfl, htarget⟩ := he.mappings m hm
  have htype : CitesText [] [] ("    type: " ++ field.mapping.storedType ++ ",") :=
    .of_unquoted (.append (.append (.literal rfl) (htypes _ field.storedType_mapping))
      (.literal rfl))
  rw [storedLines_mapping]
  split
  next target htype' =>
    have hname := he.isExactEntityName_of_mem (htarget target htype')
    have hreferences := cites_storedReferences (isWord_of_isExactEntityName hname)
    rw [storedReferences, List.forall_mem_cons, List.forall_mem_singleton] at hreferences
    split
    next =>
      rw [List.forall_mem_singleton]
      exact hreferences.1
    next =>
      refine List.forall_mem_cons.mpr ⟨htype, ?_⟩
      split
      · exact List.forall_mem_nil _
      · exact List.forall_mem_singleton.mpr hreferences.2
  next =>
    rw [List.forall_mem_singleton]
    exact htype

/-- The block of a field cites nothing. -/
theorem cites_schemaBlock {m : FieldMapping} (hm : m ∈ e.mappings) :
    ∀ s ∈ schemaBlock m, CitesText [] [] s := by
  have hkey := unquoted_of_isIdentifier (he.keys m hm)
  simp only [schemaBlock, List.forall_mem_append, List.forall_mem_singleton]
  refine ⟨⟨⟨⟨?key, cites_storedLines he hm⟩, ?options⟩, ?required⟩, .of_unquoted (.literal rfl)⟩
  case key => exact .of_unquoted (.append (.append (.literal rfl) hkey) (.literal rfl))
  case options =>
    intro s hs
    unfold optionLines at hs
    split at hs
    next => cases hs
    next =>
      rw [List.mem_singleton.mp hs]
      exact .quotedList rfl m.enumValues
  case required =>
    intro s hs
    unfold requiredLines at hs
    split at hs
    next =>
      rw [List.mem_singleton.mp hs]
      exact .quoted rfl (m.key ++ " is required")
    next => cases hs

/-! ### The model -/

/-- The model imports one library. -/
theorem cites_modelLines : ∀ s ∈ modelLines e, CitesText modelLibraries [] s := by
  have hnothing : ∀ {s}, CitesText [] [] s → CitesText modelLibraries [] s := fun h =>
    h.mono (List.nil_subset _) (List.nil_subset _)
  have hunquoted : ∀ {s}, Unquoted s → CitesText modelLibraries [] s := fun h =>
    hnothing (.of_unquoted h)
  have hpayload : ∀ m ∈ e.payload, m ∈ e.mappings := fun m hm => (List.mem_filter.mp hm).1
  obtain ⟨σ, hσ, -⟩ := he.names.exists_filling_other he.names.name
  have hlibraries : modelLibraries.map (fillImport σ) = modelLibraries := by
    simp (disch := decide) [modelLibraries, fillImport, Filling.text_ascii]
  have hcites := citesText_of_holdsOf (σ := σ) templates_refer.2.2.2.1
  have hlibrary := hcites (σ.text libraryLine) (by simp)
  have hregistration := hcites (σ.text (registrationLine .placeholders)) (by simp)
  rw [hlibraries, σ.text_ascii (by decide)] at hlibrary
  rw [hlibraries, text_registrationLine hσ] at hregistration
  -- the first and the last line fill checked templates; what is between them quotes no source
  simp only [modelLines, List.forall_mem_append, List.forall_mem_cons, List.not_mem_nil,
    false_imp_iff, implies_true, and_true]
  refine ⟨⟨⟨⟨⟨hlibrary, hunquoted (.literal rfl), ?header⟩, ?members⟩, hunquoted (.literal rfl),
    hunquoted (.literal rfl), ?schema⟩, ?blocks⟩, hunquoted (.literal rfl),
    hunquoted (.literal rfl), hunquoted (.literal rfl), hunquoted (.literal rfl), hregistration⟩
  case header =>
    exact hunquoted (.append (.append (.literal rfl) (isWord_documentType he.names).unquoted)
      (.literal rfl))
  case members =>
    intro s hs
    obtain ⟨member, hmember, hs⟩ := mem_commaSeparated hs
    have hentry : Unquoted member := by
      rcases List.mem_append.mp hmember with hmember | hmember
      · obtain ⟨m, hm, rfl⟩ := List.mem_map.mp hmember
        exact unquoted_documentMember he (hpayload m hm)
      · have hall : ∀ s ∈ timestampFields.map fun key => "  " ++ key ++ ": Date", Unquoted s := by
          unfold Unquoted
          decide
        exact hall _ hmember
    rcases hs with rfl | rfl
    · exact hunquoted hentry
    · exact hunquoted (hentry.append (.literal rfl))
  case schema =>
    exact hunquoted (.append (.append (.literal rfl) he.names.name.unquoted) (.literal rfl))
  case blocks =>
    intro s hs
    obtain ⟨m, hm, hs⟩ := List.mem_flatMap.mp hs
    exact hnothing (cites_schemaBlock he (hpayload m hm) s hs)

omit he in
theorem isScript_model :
    (⟨.backend, modelPath, modelText e⟩ : Artifact).IsScript (modelLines e) where
  path := ⟨"model", rfl⟩
  content := rfl
  ending := by
    have hlast : ∀ front : String, (front ++ "Schema);").toList.getLast? = some ';' := by
      intro front
      rw [String.toList_append, List.getLast?_append]
      rfl
    exact ⟨_, ';', by rw [modelLines, List.getLast?_append]; rfl, hlast _, by decide⟩

/-- The model exports the type of its documents. -/
theorem documentType_mem_exports {a : Artifact} (ha : a.IsScript (modelLines e)) :
    documentType e.names ∈ a.exports := by
  have hkind : "interface" ∈ ["const", "interface", "class"] := by decide
  refine ha.mem_exports hkind (isWord_documentType he.names)
    (by decide : '\n' ∉ "extends Document \x7b".toList) ?_
  have hline : "export " ++ "interface" ++ " " ++ documentType e.names ++ " "
        ++ "extends Document \x7b"
      = "export interface " ++ documentType e.names ++ " extends Document \x7b" := by
    simp [← String.toList_inj]
  rw [hline]
  simp [modelLines]

/-- The model exports the constant that holds it. -/
theorem modelConst_mem_exports {a : Artifact} (ha : a.IsScript (modelLines e)) :
    modelConst e.names ∈ a.exports := by
  have hkind : "const" ∈ ["const", "interface", "class"] := by decide
  have hword : ∀ {s}, IsWord s → Unbroken s := fun h => h.notMem (by decide)
  have hrest : Unbroken ("= mongoose.model<" ++ documentType e.names ++ ">('"
      ++ e.names.capitalized ++ "', " ++ e.names.name ++ "Schema);") :=
    .append (.append (.append (.append (.append (.append (by decide)
      (hword (isWord_documentType he.names))) (by decide)) (hword he.names.capitalized))
      (by decide)) (hword he.names.name)) (by decide)
  refine ha.mem_exports hkind (isWord_modelConst he.names) hrest ?_
  have hline : "export " ++ "const" ++ " " ++ modelConst e.names ++ " "
        ++ ("= mongoose.model<" ++ documentType e.names ++ ">('" ++ e.names.capitalized ++ "', "
          ++ e.names.name ++ "Schema);")
      = registrationLine e.names := by
    unfold registrationLine
    simp only [← String.toList_inj, String.toList_append, List.append_assoc]
    rfl
  rw [hline, modelLines]
  exact List.mem_append_right _ (.tail _ (.tail _ (.tail _ (.tail _ List.mem_cons_self))))

end

/-! ### The API document -/

/-- A line that cites nothing in a comment: either it stays one line, or it has no quotation marks.
-/
def IsDocLine (s : String) : Prop := Unbroken s ∨ Unquoted s

theorem IsDocLine.cites {s : String} (h : IsDocLine s) : CitesText [] [] (" * " ++ s) := by
  rcases h with hunbroken | hunquoted
  · -- reading stops at the asterisk
    have htokens : tokens (" * " ++ s) = [] := by
      rw [tokens, String.toList_append]
      rfl
    have hline : '\n' ∉ (" * " ++ s).toList :=
      Unbroken.append (by decide : Unbroken " * ") hunbroken
    refine .of_tokens hline ?_
    rw [htokens]
    exact .of_literal_notMem fun _ => List.not_mem_nil
  · exact .of_unquoted (.append (.literal rfl) hunquoted)

theorem isDocLine_isWord {front back name : String} (hfront : Unbroken front) (hname : IsWord name)
    (hback : Unbroken back) : IsDocLine (front ++ name ++ back) :=
  .inl ((hfront.append (hname.notMem (by decide))).append hback)

theorem isDocLine_key {front back : List Char} {key : String}
    (hkey : Identifier.isIdentifier key = true)
    (hfront : (!front.contains '\'' && !front.contains '"') = true)
    (hback : (!back.contains '\'' && !back.contains '"') = true) :
    IsDocLine (String.ofList front ++ key ++ String.ofList back) :=
  .inr (.append (.append (.literal hfront) (unquoted_of_isIdentifier hkey)) (.literal hback))

/-- Lines that can be looked at are documentation lines when none breaks. -/
theorem isDocLine_of_forall {lines : List String} (h : ∀ s ∈ lines, Unbroken s) :
    ∀ s ∈ lines, IsDocLine s := fun s hs => .inl (h s hs)

section

variable {e : Entity} (he : e.WellNamed)

include he

theorem isDocLine_property {m : FieldMapping} (hm : m ∈ e.mappings) :
    ∀ s ∈ property m, IsDocLine s := by
  have hkey := he.keys m hm
  obtain ⟨field, rfl, -⟩ := he.mappings m hm
  simp only [property, List.forall_mem_append, List.forall_mem_cons, List.not_mem_nil,
    false_imp_iff, implies_true, and_true]
  refine ⟨⟨⟨⟨isDocLine_key hkey rfl rfl, ?type⟩, ?items⟩, ?format⟩, ?options⟩
  case type => exact .inl ((by decide : Unbroken "          type: ").append field.unbroken_apiType)
  case items =>
    split
    · exact isDocLine_of_forall (by decide)
    · exact fun s hs => absurd hs List.not_mem_nil
  case format =>
    split
    next format hformat =>
      rw [List.forall_mem_singleton]
      exact .inl ((by decide : Unbroken "          format: ").append
        (FieldSpec.unbroken_apiFormat hformat))
    next => exact fun s hs => absurd hs List.not_mem_nil
  case options =>
    split
    · exact fun s hs => absurd hs List.not_mem_nil
    · rw [List.forall_mem_singleton]
      have hoptions : ∀ part ∈ field.mapping.enumValues.map docText, Unbroken part :=
        List.forall_mem_map.mpr fun option _ => unbroken_docText option
      exact .inl (((by decide : Unbroken "          enum: [").append
        (.intercalate (by decide) hoptions)).append (by decide))

/-- The shape of the entity. -/
theorem isDocLine_componentBlock : ∀ s ∈ componentBlock e, IsDocLine s := by
  have hpayload : ∀ m ∈ e.payload, m ∈ e.mappings := fun m hm => (List.mem_filter.mp hm).1
  simp only [componentBlock, List.forall_mem_append]
  refine ⟨⟨⟨⟨?head, ?required⟩, isDocLine_of_forall (by decide)⟩, ?properties⟩,
    isDocLine_of_forall (by decide)⟩
  case head =>
    simp only [List.forall_mem_cons, List.not_mem_nil, false_imp_iff, implies_true, and_true]
    exact ⟨.inl (by decide), .inl (by decide),
      isDocLine_isWord (by decide) he.names.capitalized (by decide), .inl (by decide)⟩
  case required =>
    unfold requiredList
    split
    · exact fun s hs => absurd hs List.not_mem_nil
    · refine List.forall_mem_cons.mpr ⟨.inl (by decide), ?_⟩
      intro s hs
      obtain ⟨key, hkey, rfl⟩ := List.mem_map.mp hs
      obtain ⟨m, hm, rfl⟩ := List.mem_map.mp hkey
      have hident := he.keys m (hpayload m (List.mem_filter.mp hm).1)
      exact .inr (.append (.literal rfl) (unquoted_of_isIdentifier hident))
  case properties =>
    intro s hs
    obtain ⟨m, hm, hs⟩ := List.mem_flatMap.mp hs
    exact isDocLine_property he (hpayload m hm) s hs

end

section

variable {n : Names} (hn : n.AreWords)

include hn

/-- A line with a reference to the shape of the entity. -/
theorem unbroken_reference {front : String} (hfront : Unbroken front) :
    Unbroken (front ++ reference n) :=
  hfront.append (((by decide : Unbroken "$ref: '#/components/schemas/").append
    (hn.capitalized.notMem (by decide))).append (by decide))

/-- The head of an operation. -/
theorem isDocLine_operationHead {path verb summary : String} (hpath : Unquoted path)
    (hverb : Unbroken verb) (hsummary : Unbroken summary) :
    ∀ s ∈ operationHead n path verb summary, IsDocLine s := by
  simp only [operationHead, List.forall_mem_cons, List.not_mem_nil, false_imp_iff, implies_true,
    and_true]
  exact ⟨.inr (.append (.append (.literal rfl) hpath) (.literal rfl)),
    .inl (((by decide : Unbroken "  ").append hverb).append (by decide)),
    .inl ((by decide : Unbroken "    summary: ").append hsummary),
    isDocLine_isWord (by decide) hn.capitalizedPlural (by decide), .inl (by decide),
    .inl (by decide)⟩

theorem isDocLine_bodyOf : ∀ s ∈ bodyOf n, IsDocLine s := by
  refine isDocLine_of_forall ?_
  simp only [bodyOf, List.forall_mem_cons, List.not_mem_nil, false_imp_iff, implies_true, and_true]
  exact ⟨by decide, by decide, by decide, by decide, by decide,
    unbroken_reference hn (by decide)⟩

omit hn in
theorem isDocLine_answer {status description : String} (hstatus : Unbroken status)
    (hdescription : Unbroken description) : ∀ s ∈ answer status description, IsDocLine s := by
  refine isDocLine_of_forall ?_
  simp only [answer, List.forall_mem_cons, List.not_mem_nil, false_imp_iff, implies_true, and_true]
  exact ⟨((by decide : Unbroken "      ").append hstatus).append (by decide),
    (by decide : Unbroken "        description: ").append hdescription⟩

theorem isDocLine_answerWith {status description : String} (hstatus : Unbroken status)
    (hdescription : Unbroken description) : ∀ s ∈ answerWith n status description, IsDocLine s := by
  refine List.forall_mem_append.mpr ⟨isDocLine_answer hstatus hdescription, isDocLine_of_forall ?_⟩
  simp only [List.forall_mem_cons, List.not_mem_nil, false_imp_iff, implies_true, and_true]
  exact ⟨by decide, by decide, by decide, unbroken_reference hn (by decide)⟩

theorem isDocLine_notFound : ∀ s ∈ notFound n, IsDocLine s :=
  isDocLine_answer (by decide) (Unbroken.append (hn.capitalized.notMem (by decide)) (by decide))

omit hn in
theorem isDocLine_idParameter : ∀ s ∈ idParameter, IsDocLine s :=
  isDocLine_of_forall (by decide)

/-- The operations. -/
theorem isDocLine_operations (hpath : Unquoted n.path) :
    ∀ block ∈ [listBlock n, getBlock n, createBlock n, updateBlock n, deleteBlock n],
      ∀ s ∈ block, IsDocLine s := by
  have hitem : Unquoted (itemPath n) := hpath.append (.literal rfl)
  have hbetween : ∀ {front name back : String}, Unbroken front → IsWord name → Unbroken back →
      Unbroken (front ++ name ++ back) := fun hfront hname hback =>
    (hfront.append (hname.notMem (by decide))).append hback
  have hafter : ∀ {front name : String}, Unbroken front → IsWord name → Unbroken (front ++ name) :=
    fun hfront hname => hfront.append (hname.notMem (by decide))
  have hbefore : ∀ {name back : String}, IsWord name → Unbroken back → Unbroken (name ++ back) :=
    fun hname hback => Unbroken.append (hname.notMem (by decide)) hback
  have hresponses : ∀ s ∈ ["    responses:"], IsDocLine s := isDocLine_of_forall (by decide)
  simp only [List.forall_mem_cons, List.not_mem_nil, false_imp_iff, implies_true, and_true]
  refine ⟨?list, ?get, ?create, ?update, ?delete⟩
  case list =>
    -- this block alone has an answer with pages
    simp only [listBlock, List.forall_mem_append]
    refine ⟨⟨⟨isDocLine_operationHead hn hpath (by decide) (hafter (by decide) hn.plural),
      isDocLine_of_forall (by decide)⟩,
      isDocLine_answer (by decide) (hafter (by decide) hn.plural)⟩, ?_⟩
    have hclosed : ∀ s ∈ ["        content:", "          application/json:", "            schema:",
        "              type: object", "              properties:", "                data:",
        "                  type: array", "                  items:",
        "                pagination:", "                  type: object",
        "                  properties:", "                    total:",
        "                      type: integer", "                    page:",
        "                    pages:"], Unbroken s := by
      decide
    have hreference : Unbroken ("                    " ++ reference n) :=
      unbroken_reference hn (by decide)
    refine isDocLine_of_forall ?_
    simp only [List.forall_mem_cons, List.not_mem_nil, false_imp_iff, implies_true, and_true]
      at hclosed ⊢
    simp only [hclosed, hreference, and_self]
  case get =>
    simp only [getBlock, List.forall_mem_append]
    exact ⟨⟨⟨⟨isDocLine_operationHead hn hitem (by decide)
      (hbetween (by decide) hn.name (by decide)), isDocLine_idParameter⟩, hresponses⟩,
      isDocLine_answerWith hn (by decide) (hafter (by decide) hn.name)⟩, isDocLine_notFound hn⟩
  case create =>
    simp only [createBlock, List.forall_mem_append]
    exact ⟨⟨⟨⟨isDocLine_operationHead hn hpath (by decide) (hafter (by decide) hn.name),
      isDocLine_bodyOf hn⟩, hresponses⟩,
      isDocLine_answerWith hn (by decide) (hbefore hn.capitalized (by decide))⟩,
      isDocLine_answer (by decide) (by decide)⟩
  case update =>
    simp only [updateBlock, List.forall_mem_append]
    exact ⟨⟨⟨⟨⟨isDocLine_operationHead hn hitem (by decide) (hafter (by decide) hn.name),
      isDocLine_idParameter⟩, isDocLine_bodyOf hn⟩, hresponses⟩,
      isDocLine_answerWith hn (by decide) (hbefore hn.capitalized (by decide))⟩,
      isDocLine_notFound hn⟩
  case delete =>
    simp only [deleteBlock, List.forall_mem_append]
    exact ⟨⟨⟨⟨isDocLine_operationHead hn hitem (by decide) (hafter (by decide) hn.name),
      isDocLine_idParameter⟩, hresponses⟩,
      isDocLine_answer (by decide) (hbefore hn.capitalized (by decide))⟩, isDocLine_notFound hn⟩

end

/-- The lines of the API document. -/
def apiDocLines (e : Entity) : List String := [""].intercalate ((apiDocBlocks e).map docBlock)

/-- The API document cites nothing. -/
theorem cites_apiDocLines {e : Entity} (he : e.WellNamed) :
    ∀ s ∈ apiDocLines e, CitesText [] [] s := by
  have hblocks : ∀ block ∈ apiDocBlocks e, ∀ s ∈ block, IsDocLine s :=
    List.forall_mem_cons.mpr ⟨isDocLine_componentBlock he, isDocLine_operations he.names he.path⟩
  intro s hs
  rcases exists_of_mem_intercalate hs with hs | ⟨block, hblock, hs⟩
  · rw [List.mem_singleton.mp hs]
    exact .of_unquoted (.literal rfl)
  · obtain ⟨lines, hlines, rfl⟩ := List.mem_map.mp hblock
    simp only [docBlock, List.mem_append, List.mem_cons, List.not_mem_nil, or_false] at hs
    rcases hs with ((rfl | rfl) | hs) | rfl
    · exact .of_unquoted (.literal rfl)
    · exact .of_unquoted (.literal rfl)
    · obtain ⟨line, hline, rfl⟩ := List.mem_map.mp hs
      exact (hblocks lines hlines line hline).cites
    · exact .of_unquoted (.literal rfl)

theorem isScript_apiDoc {e : Entity} :
    (⟨.backend, apiDocPath, apiDocText e⟩ : Artifact).IsScript (apiDocLines e) where
  path := ⟨"swagger", rfl⟩
  content := rfl
  ending := by
    obtain ⟨front, hfront⟩ := exists_docBlocks_eq (List.cons_ne_nil (componentBlock e)
      [listBlock e.names, getBlock e.names, createBlock e.names, updateBlock e.names,
        deleteBlock e.names])
    exact ⟨" */", '/', by rw [apiDocLines, apiDocBlocks, hfront, List.getLast?_concat], rfl,
      by decide⟩

end Scaffold.Server
