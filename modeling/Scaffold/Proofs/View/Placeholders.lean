import Scaffold.Proofs.Required
import Scaffold.Proofs.View.Openings

/-!
# Placeholders in views

The value of an attribute is written by four replacements, one after another, and read again in one
pass from left to right. It has no quotation mark and no angle bracket, and an ampersand only where
an entity begins, whatever entities stood in the text before (`OnlyEntities`). So the tags to edit
with in the markup of a view are those of its controls, and each of them, taken apart at its
quotation marks, has the placeholder that the document gives (`showsPlaceholders_controlTags`).
Views that are the same show the same placeholders.
-/

namespace Scaffold

namespace Text

/-- What stands for the characters that the value of an attribute cannot have. -/
def entities : List (List Char) :=
  [['&', 'a', 'm', 'p', ';'], ['&', 'q', 'u', 'o', 't', ';'], ['&', 'l', 't', ';'],
    ['&', 'g', 't', ';']]

/-- What stands in front of the first occurrence of a word. -/
def textBefore (word : List Char) : List Char → List Char
  | [] => []
  | c :: rest => if word <+: c :: rest then [] else c :: textBefore word rest

/-- Every ampersand of a text begins an entity. -/
def OnlyEntities (cs : List Char) : Prop :=
  ∀ rest, '&' :: rest <:+ cs → ∃ entity ∈ entities, entity <+: '&' :: rest

/-- The value in a part of a tag, if that is the attribute with a name. -/
def attribute? (name part : String) : Option String :=
  between? (name ++ "=\"") "\"" part

/-- The values that a tag gives an attribute, read again. -/
def attributeValues (name : String) (tag : List Char) : List String :=
  ((attributes tag).filterMap (attribute? name)).map fun value =>
    String.ofList (Markup.decodeAttribute value.toList)

end Text

/-- The placeholder of a key: what its presentation gives a scalar field, unless that is presented
as a check box. -/
def Document.placeholder? (d : Document) (key : String) : Option String :=
  match d.schema.get? key with
  | some descriptor =>
    match d.typeOf key descriptor with
    | .ok (.primitive _) =>
      if d.isTicked key then none else some (((d.ui.get? key).map (·.placeholder)).getD "")
    | _ => none
  | none => none

namespace View

open Text

/-- The tags to edit with in the markup of a view, which its first closing tag ends. -/
def controlTags (content : String) : List (List Char) :=
  tagsAt controlStarts (textBefore templateEnd content.toList)

/-- A text is the view of a document in one of the built-in themes. -/
def IsViewOf (d : Document) (content : String) : Prop :=
  ∃ e, Entity.ofAccepted d = .ok e ∧ ∃ t ∈ Theme.builtIn,
    content = (artifact t (.ofEntity e)).content

/-- A tag binds a key, and it has the placeholder of the key as its only one, or none. -/
def ShowsPlaceholder (d : Document) (key : String) (tag : List Char) : Prop :=
  Edits (d.names.name ++ "Form") key tag
    ∧ attributeValues "placeholder" tag = (d.placeholder? key).toList

end View

/-! ### Values of attributes -/

namespace Text

/-- A character is written as an entity or, if it is no ampersand, as itself. -/
theorem Markup.attributeChar_cases (c : Char) :
    (∃ tail, attributeChar c = '&' :: tail ∧ '&' ∉ tail ∧ attributeChar c ∈ entities)
      ∨ (attributeChar c = [c] ∧ c ≠ '&') := by
  unfold attributeChar
  by_cases ha : c = '&'
  · subst ha; exact .inl ⟨_, rfl, by decide, by decide⟩
  by_cases hq : c = '"'
  · subst hq; exact .inl ⟨_, rfl, by decide, by decide⟩
  by_cases hl : c = '<'
  · subst hl; exact .inl ⟨_, rfl, by decide, by decide⟩
  by_cases hg : c = '>'
  · subst hg; exact .inl ⟨_, rfl, by decide, by decide⟩
  · right
    simp [ha, hq, hl, hg]

/-- Where a word begins behind a text that is closed against it, that text stands in front of it. -/
theorem textBefore_of_adds {word : List Char} {s : String} (h : Adds word 0 s) (rest : List Char) :
    textBefore word (s.toList ++ (word ++ rest)) = s.toList := by
  obtain ⟨hclosed, hcount⟩ := h
  generalize s.toList = cs at hcount hclosed
  induction cs with
  | nil =>
    cases word with
    | nil => cases rest <;> simp [textBefore]
    | cons first others => simp [textBefore]
  | cons c cs ih =>
    rw [occurrences, Nat.add_eq_zero_iff] at hcount
    have hnot : ¬ word <+: c :: (cs ++ (word ++ rest)) := by
      rw [← List.cons_append, hclosed.prefix_append_iff (List.cons_ne_nil c cs)]
      intro hbegins
      simp [hbegins] at hcount
    rw [List.cons_append, textBefore, if_neg hnot, ih hcount.2 hclosed.tail]

theorem suffix_of_suffix_append {c : Char} {xs ys rest : List Char} (hc : c ∉ xs)
    (h : c :: rest <:+ xs ++ ys) : c :: rest <:+ ys := by
  induction xs with
  | nil => exact h
  | cons x xs ih =>
    rw [List.mem_cons, not_or] at hc
    rw [List.cons_append, List.suffix_cons_iff] at h
    rcases h with h | h
    · exact absurd (List.cons.inj h).1 hc.1
    · exact ih hc.2 h

theorem onlyEntities_encodeAttribute (cs : List Char) :
    OnlyEntities (Markup.encodeAttribute cs) := by
  rw [Markup.encodeAttribute_eq]
  induction cs with
  | nil =>
    intro rest h
    cases List.suffix_nil.mp h
  | cons c cs ih =>
    intro rest h
    rw [List.flatMap_cons] at h
    rcases Markup.attributeChar_cases c with ⟨tail, hchar, htail, hentity⟩ | ⟨hchar, hc⟩
    · rw [hchar, List.cons_append, List.suffix_cons_iff] at h
      rcases h with h | h
      · refine ⟨_, hentity, ?_⟩
        rw [hchar, h, ← List.cons_append]
        exact List.prefix_append _ _
      · exact ih rest (suffix_of_suffix_append htail h)
    · rw [hchar] at h
      refine ih rest (suffix_of_suffix_append (fun hmem => hc ?_) h)
      exact (List.mem_singleton.mp hmem).symm

@[simp] theorem decodeAttribute_attributeText (s : String) :
    String.ofList (Markup.decodeAttribute (attributeText s).toList) = s := by
  rw [attributeText, String.toList_ofList, Markup.decodeAttribute_encodeAttribute,
    String.ofList_toList]

theorem attributeText_injective {s s' : String} (h : attributeText s = attributeText s') :
    s = s' := by
  rw [← decodeAttribute_attributeText s, h, decodeAttribute_attributeText]

/-! ### Reading an attribute -/

section

variable {name other value word : String}

@[simp] theorem attribute?_valued : attribute? name (valued name value) = some value :=
  between?_append (name ++ "=\"") value "\""

/-- An attribute is not read under the name of another one, -/
theorem attribute?_valued_of_ne (hname : isAttributeName name = true)
    (hother : isAttributeName other = true) (h : name ≠ other) :
    attribute? name (valued other value) = none := by
  apply between?_of_not_prefix
  rintro ⟨rest, hrest⟩
  have hchars : name.toList ++ '=' :: ('"' :: rest)
      = other.toList ++ '=' :: ('"' :: (value.toList ++ ['"'])) := by
    simpa [valued] using hrest
  have hnames := (eq_of_append_cons_eq (notMem_of_isAttributeName hname rfl)
    (notMem_of_isAttributeName hother rfl) hchars).1
  exact h (String.toList_inj.mp hnames)

/-- and a word is not read at all. -/
theorem attribute?_word (h : '=' ∉ word.toList) : attribute? name word = none := by
  apply between?_of_not_prefix
  intro hbegins
  exact h (hbegins.subset (by simp))

end

end Text

/-! ### The placeholder of a control -/

namespace View

open Text

/-- The placeholder that a control shows, if it is one to write in. -/
def FormNode.placeholder? (node : FormNode) : Option String :=
  match node.input with
  | .text | .number | .textarea => some node.placeholder
  | _ => none

/-- A mapping of a field shows the placeholder that the document gives its key. -/
theorem placeholder?_ofMapping {d : Document} {fields : List FieldSpec}
    (hfields : List.Forall₂ (Entity.Reads d) d.schema.entries fields) {m : FieldMapping}
    (hm : m ∈ (Entity.ofFields d fields).mappings) :
    (FormNode.ofMapping m).placeholder? = d.placeholder? m.key := by
  have hticked := Entity.control_eq_checkbox_iff hfields hm
  obtain ⟨field, hfield, rfl⟩ := List.mem_map.mp hm
  obtain ⟨entry, hentry, hreads⟩ := Entity.exists_reads_of_mem hfields hfield
  have hdescriptor : d.schema.get? entry.1 = some entry.2 := Keyed.get?_eq_some.mpr hentry
  have hplaceholder : (FormNode.ofMapping field.mapping).placeholder
      = ((d.ui.get? entry.1).map (·.placeholder)).getD "" := by
    rw [← hreads.hint]
    exact field.placeholder_mapping
  rw [FieldSpec.key_mapping, hreads.key, FieldSpec.control_mapping, FieldSpec.control] at hticked
  rw [FormNode.placeholder?, hplaceholder, input_ofMapping, FormInput.ofField,
    FieldSpec.key_mapping, hreads.key, Document.placeholder?, hdescriptor]
  simp only [hreads.type]
  cases htype : field.type with
  | relationship => rfl
  | enum => rfl
  | primitive kind =>
    rw [htype] at hticked
    simp only [← hticked]
    generalize FieldSpec.scalarControl field.widget kind = control
    cases control <;> rfl

section

variable {t : Theme} {model : String} {node : FormNode}

/-- The tag of a control has its placeholder as the only one. -/
theorem filterMap_tagParts :
    (tagParts t model node).filterMap (attribute? "placeholder")
      = (node.placeholder?.map attributeText).toList := by
  have hvalued : ∀ name ∈ ["type", "class", "id", "v-model", "v-model.number"], ∀ value,
      attribute? "placeholder" (valued name value) = none := by
    have hnames : ∀ name ∈ ["type", "class", "id", "v-model", "v-model.number"],
        isAttributeName name = true ∧ "placeholder" ≠ name := by decide
    intro name hname value
    exact attribute?_valued_of_ne rfl (hnames name hname).1 (hnames name hname).2
  have hclasses : ∀ token, (classPart t token).filterMap (attribute? "placeholder") = [] := by
    intro token
    refine List.filterMap_eq_nil_iff.mpr fun part hpart => ?_
    rw [mem_classPart hpart]
    exact hvalued _ (by decide) _
  have hrequired : (requiredPart node).filterMap (attribute? "placeholder") = [] := by
    refine List.filterMap_eq_nil_iff.mpr fun part hpart => ?_
    rw [(mem_requiredPart.mp hpart).1]
    exact attribute?_word (by decide)
  have hmultiple : attribute? "placeholder" "multiple" = none := attribute?_word (by decide)
  -- every part but the placeholder has another name
  unfold tagParts FormNode.placeholder?
  cases node.input with
  | reference related multiple =>
    cases multiple <;>
      simp [hvalued, hclasses, hrequired, hmultiple, -List.filterMap_eq_nil_iff]
  | _ => simp [hvalued, hclasses, hrequired]

end

/-! ### The markup of a view -/

/-- An icon is opened like an input is, but a blank or the closing bracket follows it. -/
theorem tagless_iconLine {t : Theme} (ht : IsBareTheme t) (token : ClassToken) {front : List Char}
    (hclosed : lacksTags controlStarts (front ++ ['>']) = true)
    (hblank : lacksTags controlStarts (front ++ [' ']) = true) :
    Tagless (t.line [.text (String.ofList front), .classes token, .text "></i>"]) := by
  have hclasses := ht.classes token
  have hpieces : t.line [.text (String.ofList front), .classes token, .text "></i>"]
      = String.ofList front ++ t.classAttribute token ++ "></i>" := by
    simp [Theme.line, Theme.piece, String.join]
  rw [hpieces]
  unfold Theme.classAttribute at hclasses ⊢
  dsimp only at hclasses ⊢
  -- a theme without classes for the token leaves the attribute out
  split at hclasses
  next hnone =>
    have hline : String.ofList front ++ "" ++ "></i>"
        = String.ofList (front ++ ['>']) ++ "</i>" := by
      simp [← String.toList_inj]
    rw [if_pos hnone, hline]
    exact isTagwise_tagless.append (isTagwise_tagless.literal hclosed)
      (isTagwise_tagless.literal rfl)
  next hsome =>
    have hline : String.ofList front ++ (" class=\"" ++ t.classes token ++ "\"") ++ "></i>"
        = String.ofList (front ++ [' ']) ++ ("class=\"" ++ t.classes token ++ "\"") ++ "></i>" := by
      simp [← String.toList_inj]
    have hattribute : Bare ("class=\"" ++ t.classes token ++ "\"") := by
      simpa [Bare] using hclasses
    rw [if_neg hsome, hline]
    exact isTagwise_tagless.append
      (isTagwise_tagless.append (isTagwise_tagless.literal hblank) hattribute.tagless)
      (isTagwise_tagless.literal rfl)

section

variable {t : Theme} (ht : IsBareTheme t) {n : Names} (hn : BareNames n)

include ht hn

theorem tagless_headerLines : ∀ line ∈ (headerLines n).map t.line, Tagless line := by
  have hcap := hn.capitalized.tagless
  have hplural := hn.plural.tagless
  have hplurals := hn.capitalizedPlural.tagless
  have hlist : Tagless (t.line ["          <i", .classes .iconList, "></i>"]) :=
    tagless_iconLine ht _ rfl rfl
  have hplus : Tagless (t.line ["          <i", .classes .iconPlus, "></i>"]) :=
    tagless_iconLine ht _ rfl rfl
  refine List.forall_mem_map.mpr ?_
  unfold headerLines
  simp only [List.forall_mem_cons, List.not_mem_nil, false_imp_iff, implies_true, and_true]
  refine ⟨?_, ?_, ?_, ?_, hlist, ?_, ?_, ?_, ?_, ?_, ?_, ?_, hplus, ?_, ?_, ?_, ?_⟩
  all_goals exact isTagwise_tagless.text_line ht rfl (by simp [hcap, hplural, hplurals])

theorem tagless_linesAboveForm : ∀ line ∈ (linesAboveForm n).map t.line, Tagless line := by
  have hname := hn.name.tagless
  have hcap := hn.capitalized.tagless
  rw [linesAboveForm, List.map_append, List.map_append]
  refine List.forall_mem_append.mpr ⟨List.forall_mem_append.mpr ⟨?_, tagless_headerLines ht hn⟩, ?_⟩
  all_goals
    exact isTagwise_tagless.lines_of_theme ht
      (isTagwise_tagless.linesHave rfl (by simp [hname, hcap]))

theorem tagless_linesBelowForm : ∀ line ∈ (linesBelowForm n).map t.line, Tagless line := by
  have hplurals := hn.capitalizedPlural.tagless
  have hpath := hn.path.tagless
  have hcheck : Tagless (t.line ["              <i", .classes .iconCheck, "></i>"]) :=
    tagless_iconLine ht _ rfl rfl
  refine List.forall_mem_map.mpr ?_
  unfold linesBelowForm tableLines
  simp only [plain, List.map_cons, List.map_nil, List.forall_mem_append, List.forall_mem_cons,
    List.not_mem_nil, false_imp_iff, implies_true, and_true]
  refine ⟨⟨⟨⟨?_, ?_, ?_, ?_, ?_, ?_, hcheck, ?_, ?_, ?_, ?_, ?_⟩, ?_⟩, ?_, ?_, ?_, ?_, ?_⟩, ?_⟩
  all_goals exact isTagwise_tagless.text_line ht rfl (by simp [hplurals, hpath])

end

/-- The first closing tag of a view ends its markup. -/
theorem textBefore_content {t : Theme} (ht : IsBareTheme t) {spec : Spec} (h : BareForm spec) :
    textBefore templateEnd (artifact t spec).content.toList
      = (markupText t spec ++ "\n").toList := by
  have hquiet := (quiet_markupText h ht).append (.literal rfl : Quiet "\n")
  have hcontent : (artifact t spec).content.toList = (markupText t spec ++ "\n").toList
      ++ (templateEnd ++ ("\n\n" ++ scriptText t spec ++ "\n</script>\n\n"
        ++ "\n".intercalate styleLines ++ "\n").toList) := by
    rw [content_eq_blocks]
    simp [templateEnd]
  rw [hcontent]
  exact textBefore_of_adds (hquiet templateEnd (by decide)) _

section

variable {d : Document} {fields : List FieldSpec} (hd : d.WellFormed)
  (hname : Identifier.isExactEntityName d.name = true)
  (hfields : List.Forall₂ (Entity.Reads d) d.schema.entries fields)

include hd hname hfields

/-- The control of a field shows the placeholder of its key. -/
theorem showsPlaceholder_tagOf {t : Theme} (ht : t ∈ Theme.builtIn) {m : FieldMapping}
    (hm : m ∈ (Entity.ofFields d fields).presented.filter FieldMapping.inPayload) :
    ShowsPlaceholder d m.key (tagOf t d.names m) := by
  have hmapping := (Entity.presented_eq hfields hd).1 m (List.mem_filter.mp hm).1
  obtain ⟨-, hedits, hattributes⟩ := tagOf_spec hd hname hfields ht hm
  have hfirst : attribute? "placeholder" ("<" ++ elementName (FormNode.ofMapping m).input)
      = none := by
    have helement := notMem_of_isAttributeName (elementName_spec (FormNode.ofMapping m).input).2.1
      (c := '=') rfl
    exact attribute?_word (by simpa using helement)
  refine ⟨hedits, ?_⟩
  rw [attributeValues, hattributes, List.filterMap_cons_none hfirst, filterMap_tagParts,
    placeholder?_ofMapping hfields hmapping]
  cases d.placeholder? m.key <;> simp

/-- The tags to edit with in a view are those of its controls. -/
theorem controlTags_artifact {t : Theme} (ht : t ∈ Theme.builtIn) :
    controlTags (artifact t (.ofEntity (Entity.ofFields d fields))).content
      = ((Entity.ofFields d fields).presented.filter FieldMapping.inPayload).map
        (tagOf t d.names) := by
  have htheme := isBareTheme_of_mem_builtIn ht
  have hform := bareForm_ofEntity hd hname hfields
  have hbreak : Tagless "\n" := isTagwise_tagless.literal rfl
  have hcontrols : ContributesAll (tagsAt controlStarts)
      (((Entity.ofFields d fields).presented.filter FieldMapping.inPayload).map
        fun m => [tagOf t d.names m]).flatten
      ((formLines (.ofEntity (Entity.ofFields d fields))).map t.line) := by
    rw [map_line_formLines]
    refine .intercalate ?_ (contributesAll_nil (List.forall_mem_singleton.mpr contributes_empty))
    rw [List.forall₂_map_left_iff, List.forall₂_map_right_iff, List.forall₂_same]
    exact fun m hm => (tagOf_spec hd hname hfields ht hm).1
  have hlines := ((contributesAll_nil (tagless_linesAboveForm htheme hform.names)).append
    hcontrols).append (contributesAll_nil (tagless_linesBelowForm htheme hform.names))
  rw [← List.map_append, ← List.map_append, ← templateBody_eq] at hlines
  rw [controlTags, textBefore_content htheme hform]
  have hmarkup := ((hlines.joined hbreak).append hbreak).read_eq rfl
  rw [markupText, hmarkup, ← List.flatMap_def, ← List.map_eq_flatMap]
  simp

/-- So they show the placeholders of the keys of the form, in their order. -/
theorem showsPlaceholders_controlTags {t : Theme} (ht : t ∈ Theme.builtIn) :
    List.Forall₂ (ShowsPlaceholder d) d.formKeys
      (controlTags (artifact t (.ofEntity (Entity.ofFields d fields))).content) := by
  rw [controlTags_artifact hd hname hfields ht, ← Entity.map_key_form hfields hd]
  exact forall₂_map_key fun m hm => showsPlaceholder_tagOf hd hname hfields ht hm

end

/-- Tags that show the placeholders of keys are read as these. -/
theorem map_attributeValues {d : Document} {keys : List String} {tags : List (List Char)}
    (h : List.Forall₂ (ShowsPlaceholder d) keys tags) :
    tags.map (attributeValues "placeholder") = keys.map fun key => (d.placeholder? key).toList := by
  induction h with
  | nil => rfl
  | cons hfirst _ ih => rw [List.map_cons, List.map_cons, hfirst.2, ih]

end View

open Text View

section

variable {v : Value} {d : Document} (hparse : Document.parse v = .ok d)
  (hvalid : d.findings.isValid = true)

include hparse hvalid

theorem exists_isViewOf {s : Settings} (hwritable : s.IsWritable)
    (hfrontend : s.generateFrontend = true) :
    ∃ files, assemble v s = .ok files ∧ ∀ theme ∈ ["Bootstrap", "Fomantic"], ∃ content,
      ⟨.frontend, "views/" ++ d.names.capitalized ++ theme ++ ".vue", content⟩ ∈ files
        ∧ IsViewOf d content := by
  obtain ⟨-, fields, -, he, hfiles⟩ := exists_assemble_eq_ok hparse hvalid
  refine ⟨_, hfiles s hwritable, fun theme htheme => ?_⟩
  obtain ⟨t, ht, hview⟩ := Entity.exists_view hfrontend (Entity.ofFields d fields) htheme
  exact ⟨_, hview, _, he, t, ht, rfl⟩

theorem showsPlaceholders_of_isViewOf {content : String} (hview : IsViewOf d content) :
    List.Forall₂ (ShowsPlaceholder d) d.formKeys (controlTags content) := by
  obtain ⟨hd, fields, hfields, hentity, -⟩ := exists_assemble_eq_ok hparse hvalid
  obtain ⟨e, he, t, ht, rfl⟩ := hview
  obtain rfl : Entity.ofFields d fields = e := Except.ok.inj (hentity.symm.trans he)
  exact showsPlaceholders_controlTags hd (Document.isExactEntityName_of_parse hparse) hfields ht

end

/-- The value of an attribute has no character that ends it or its tag, every ampersand in it begins
an entity, and it is read as the text that it was made of, so that no two texts are written alike.
The views of an accepted document show its placeholders, each in the control of its key, and no
other document has the same view unless it has the same placeholders. -/
theorem placeholders_shown_as_given {v : Value} {d : Document} (hparse : Document.parse v = .ok d)
    (hvalid : d.findings.isValid = true) :
    (∀ s, IsAttributeValue (attributeText s) ∧ OnlyEntities (attributeText s).toList
        ∧ Markup.decodeAttribute (attributeText s).toList = s.toList)
      ∧ (∀ s s', attributeText s = attributeText s' → s = s')
      ∧ (∀ s : Settings, s.IsWritable → s.generateFrontend = true →
        ∃ files, assemble v s = .ok files ∧ ∀ theme ∈ ["Bootstrap", "Fomantic"], ∃ content,
          ⟨.frontend, "views/" ++ d.names.capitalized ++ theme ++ ".vue", content⟩ ∈ files
            ∧ IsViewOf d content)
      ∧ ∀ content, IsViewOf d content →
        List.Forall₂ (ShowsPlaceholder d) d.formKeys (controlTags content)
          ∧ ∀ v' d', Document.parse v' = .ok d' → d'.findings.isValid = true →
            IsViewOf d' content →
              d'.formKeys.map d'.placeholder? = d.formKeys.map d.placeholder? := by
  refine ⟨fun s => ⟨isAttributeValue_attributeText s, ?_, ?_⟩, fun s s' => attributeText_injective,
    fun s => exists_isViewOf hparse hvalid, fun content hview => ⟨?_, ?_⟩⟩
  · rw [attributeText, String.toList_ofList]
    exact onlyEntities_encodeAttribute _
  · rw [attributeText, String.toList_ofList]
    exact Markup.decodeAttribute_encodeAttribute _
  · exact showsPlaceholders_of_isViewOf hparse hvalid hview
  · intro v' d' hparse' hvalid' hview'
    -- the placeholders are read off the content, which is the same
    have hread := map_attributeValues (showsPlaceholders_of_isViewOf hparse hvalid hview)
    have hread' := map_attributeValues (showsPlaceholders_of_isViewOf hparse' hvalid' hview')
    have hlists := congrArg (List.map List.head?) (hread'.symm.trans hread)
    simpa [Function.comp_def] using hlists

/-- A placeholder with a quotation mark and a bracket is shown, and entities in a text are written
like other text. -/
theorem chores_show_placeholders :
    choreDocument.formKeys.map choreDocument.placeholder? = [none, none, some "\" required>"]
      ∧ (∃ files content, assemble choreValue {} = .ok files
        ∧ ⟨.frontend, "views/ChoreBootstrap.vue", content⟩ ∈ files
        ∧ List.Forall₂ (ShowsPlaceholder choreDocument) ["state", "done", "title"]
          (controlTags content))
      ∧ attributeText "&lt;" = "&amp;lt;" ∧ Markup.decodeAttribute (attributeText "&lt;").toList
        = ['&', 'l', 't', ';'] := by
  have hparse : Document.parse choreValue = .ok choreDocument := by decide
  have hvalid : choreDocument.findings.isValid = true := by decide
  obtain ⟨hwritten, -, hfiles, hviews⟩ := placeholders_shown_as_given hparse hvalid
  obtain ⟨files, hassembled, hthemes⟩ := hfiles {} Settings.isWritable_default rfl
  obtain ⟨content, hfile, hview⟩ := hthemes "Bootstrap" List.mem_cons_self
  have hkeys : choreDocument.formKeys = ["state", "done", "title"] := by decide
  have hshown := (hviews content hview).1
  rw [hkeys] at hshown
  exact ⟨by decide, ⟨files, content, hassembled, hfile, hshown⟩, by decide, (hwritten "&lt;").2.2⟩

end Scaffold
