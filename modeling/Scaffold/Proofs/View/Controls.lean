import Scaffold.Proofs.Requirement
import Scaffold.Proofs.Text.Tags
import Scaffold.Proofs.View.Blocks

/-!
# Controls in views

The text of a control has one tag that opens an element to edit with, whatever its label, its
placeholder and its options are: none of these has an angle bracket when it is written. Read
attribute by attribute, the tag binds the value under the key, and requires one where the
presentation asks for it (`asksInControl`). A check box has a value in any case, so that it requires
none.
-/

namespace Scaffold.View

open Text

/-! ### Reading -/

/-- What the tags begin with that open an element to edit with. -/
def controlStarts : List (List Char) :=
  [['<', 'i', 'n', 'p', 'u', 't'], ['<', 's', 'e', 'l', 'e', 'c', 't'],
    ['<', 't', 'e', 'x', 't', 'a', 'r', 'e', 'a']]

/-- A tag binds the value of a form under a key. -/
def Edits (form key : String) (tag : List Char) : Prop :=
  ∃ modifier ∈ ["", ".number"], valued ("v-model" ++ modifier) (form ++ "." ++ key) ∈ attributes tag

/-- The lines of a control have one tag to edit with. It binds the key, and requires a value where
one is asked for, but not as a check box. -/
def AsksInControl (d : Document) (key : String) (block : List String) : Prop :=
  ∃ tag, tagsAt controlStarts ("\n".intercalate block).toList = [tag]
    ∧ Edits (d.names.name ++ "Form") key tag
    ∧ (valued "type" "checkbox" ∈ attributes tag ↔ d.isTicked key = true)
    ∧ ("required" ∈ attributes tag ↔ d.asksFor key = true ∧ d.isTicked key = false)

/-- The form of a view has such a control for each of its keys. -/
def ViewAsks (d : Document) (content : String) : Prop :=
  ∃ classes blocks, List.Forall₂ (AsksInControl d) d.formKeys blocks
    ∧ HasLines content (["            <form" ++ classes ++ " @submit.prevent=\"handleSubmit\">"]
      ++ [""].intercalate blocks ++ ["            </form>"])

/-! ### The tag of a control -/

/-- The name of the element of a control. -/
def elementName : FormInput → String
  | .checkbox | .number | .text => "input"
  | .textarea => "textarea"
  | .select _ | .reference _ _ => "select"

/-- The attribute with the classes of a token, if it has any. -/
def classPart (t : Theme) (token : ClassToken) : List String :=
  if (t.classes token).isEmpty then [] else [valued "class" (t.classes token)]

def requiredPart (node : FormNode) : List String := if node.required then ["required"] else []

/-- The attributes of a control, in their order. -/
def tagParts (t : Theme) (model : String) (node : FormNode) : List String :=
  match node.input with
  | .checkbox => valued "type" "checkbox" :: classPart t .checkboxInput
      ++ [valued "v-model" model, valued "id" node.key]
  | .number => valued "type" "number" :: classPart t .input
      ++ [valued "id" node.key, valued "v-model.number" model,
        valued "placeholder" (attributeText node.placeholder)] ++ requiredPart node
  | .text => valued "type" "text" :: classPart t .input
      ++ [valued "id" node.key, valued "v-model" model,
        valued "placeholder" (attributeText node.placeholder)] ++ requiredPart node
  | .textarea => classPart t .textarea
      ++ [valued "id" node.key, valued "v-model" model,
        valued "placeholder" (attributeText node.placeholder)] ++ requiredPart node
  | .select _ => classPart t .select ++ [valued "id" node.key, valued "v-model" model]
      ++ requiredPart node
  | .reference _ multiple => classPart t .select ++ [valued "id" node.key, valued "v-model" model]
      ++ (if multiple then ["multiple"] else []) ++ requiredPart node

/-- The tag that opens the element of a control. -/
def controlTag (t : Theme) (model : String) (node : FormNode) : String :=
  openTag ("<" ++ elementName node.input) (tagParts t model node)

/-- The tag that opens the control of a mapping. -/
def tagOf (t : Theme) (n : Names) (m : FieldMapping) : List Char :=
  (controlTag t (formConst n ++ "." ++ m.key) (.ofMapping m)).toList

@[simp] theorem join_classPart (t : Theme) (token : ClassToken) :
    String.join ((classPart t token).map (" " ++ ·)) = t.classAttribute token := by
  rw [classPart, Theme.classAttribute]
  split
  · rfl
  · simp only [List.map_cons, List.map_nil, String.join_cons, String.join_nil, valued]
    rw [← String.toList_inj]
    simp

@[simp] theorem join_requiredPart (node : FormNode) :
    String.join ((requiredPart node).map (" " ++ ·)) = requiredAttribute node := by
  unfold requiredPart requiredAttribute
  split
  · decide
  · rfl

/-- The line that opens an element is its tag with blanks in front of it. -/
theorem line_tagLine (t : Theme) (model : String) (node : FormNode) :
    ∃ blanks ∈ ["                ", "                  "], ∃ behind ∈ ["", "</textarea>"],
      t.line (.text "              " :: tagLine model node)
        = blanks ++ (controlTag t model node ++ ">") ++ behind := by
  unfold tagLine controlTag elementName tagParts openTag
  cases node.input with
  | checkbox =>
    refine ⟨_, .tail _ List.mem_cons_self, _, List.mem_cons_self, ?_⟩
    simp [valued, ← String.toList_inj]
  | textarea =>
    refine ⟨_, List.mem_cons_self, _, .tail _ List.mem_cons_self, ?_⟩
    simp [textareaLine, valued, ← String.toList_inj]
  | reference related multiple =>
    refine ⟨_, List.mem_cons_self, _, List.mem_cons_self, ?_⟩
    cases multiple <;> simp [valued, ← String.toList_inj]
  | _ =>
    refine ⟨_, List.mem_cons_self, _, List.mem_cons_self, ?_⟩
    simp [inputLine, valued, ← String.toList_inj]

/-! ### The attributes of the tag -/

/-- The classes of a theme can be the value of an attribute. -/
theorem isAttributeValue_classes {t : Theme} (ht : t ∈ Theme.builtIn) (token : ClassToken) :
    IsAttributeValue (t.classes token) := by
  obtain ⟨table, htable, rfl⟩ := mem_builtIn ht
  have hvalues : ∀ table ∈ ThemeTable.builtIn, ∀ entry ∈ table.classes,
      '"' ∉ entry.2.toList ∧ '<' ∉ entry.2.toList ∧ '>' ∉ entry.2.toList := by decide
  refine classes_themeOf ⟨by decide, by decide, by decide⟩ (fun entry hentry => ?_) token
  obtain ⟨hquote, hopening, hclosing⟩ := hvalues table htable entry hentry
  exact ⟨hquote, hopening, hclosing⟩

theorem isAttributeValue_attributeText (s : String) : IsAttributeValue (attributeText s) := by
  have hnot : ∀ c, c ∈ ['"', '<', '>'] → c ∉ (attributeText s).toList := by
    intro c hc
    rw [attributeText, String.toList_ofList]
    exact notMem_encodeAttribute hc _
  exact ⟨hnot _ (by decide), hnot _ (by decide), hnot _ (by decide)⟩

theorem isAttributeValue_of_isIdentifier {s : String} (h : Identifier.isIdentifier s = true) :
    IsAttributeValue s where
  quote := Identifier.notMem_of_isIdentifier h (by decide) (by decide)
  opening := Identifier.notMem_of_isIdentifier h (by decide) (by decide)
  closing := Identifier.notMem_of_isIdentifier h (by decide) (by decide)

theorem isAttributeValue_model {n : Names} {key : String} (hn : n.AreIdentifiers)
    (hkey : Identifier.isIdentifier key = true) : IsAttributeValue (formConst n ++ "." ++ key) := by
  have hname := isAttributeValue_of_isIdentifier hn.name
  unfold formConst
  refine .append (.append (.append hname ?_) ?_) (isAttributeValue_of_isIdentifier hkey)
  · exact ⟨by decide, by decide, by decide⟩
  · exact ⟨by decide, by decide, by decide⟩

section

variable {t : Theme} {model : String} {node : FormNode}

theorem mem_classPart {token : ClassToken} {part : String} (h : part ∈ classPart t token) :
    part = valued "class" (t.classes token) := by
  unfold classPart at h
  split at h
  · cases h
  · exact List.mem_singleton.mp h

@[simp] theorem mem_requiredPart {part : String} :
    part ∈ requiredPart node ↔ part = "required" ∧ node.required = true := by
  unfold requiredPart
  split <;> simp_all

/-- A tag requires a value when its control does, but not as a check box. -/
theorem required_mem_tagParts :
    "required" ∈ tagParts t model node ↔ node.required = true ∧ node.input ≠ .checkbox := by
  have hvalued : ∀ name value, "required" ≠ valued name value := fun name value =>
    (valued_ne_of_notMem (by decide)).symm
  have hclasses : ∀ token, "required" ∉ classPart t token := fun token hmem =>
    hvalued _ _ (mem_classPart hmem)
  unfold tagParts
  cases node.input with
  | reference related multiple =>
    cases multiple <;> simp [hvalued, hclasses]
  | _ => simp [hvalued, hclasses]

/-- A tag is that of a check box when its control is one. -/
theorem checkbox_mem_tagParts :
    valued "type" "checkbox" ∈ tagParts t model node ↔ node.input = .checkbox := by
  have hvalued : ∀ name ∈ ["class", "id", "v-model", "v-model.number", "placeholder"], ∀ value,
      valued "type" "checkbox" ≠ valued name value := by
    intro name hname value heq
    have hall : ∀ name ∈ ["class", "id", "v-model", "v-model.number", "placeholder"],
        isAttributeName name = true ∧ "type" ≠ name := by decide
    exact (hall name hname).2 ((valued_eq_iff rfl (hall name hname).1).mp heq).1
  have hclasses : ∀ token, valued "type" "checkbox" ∉ classPart t token := fun token hmem =>
    hvalued _ List.mem_cons_self _ (mem_classPart hmem)
  have hwords : ∀ word ∈ ["multiple", "required"], valued "type" "checkbox" ≠ word := by decide
  have htypes : ∀ type ∈ ["number", "text"], valued "type" "checkbox" ≠ valued "type" type := by
    decide
  unfold tagParts
  cases node.input with
  | reference related multiple =>
    cases multiple <;> simp [hvalued, hclasses, hwords]
  | _ => simp [hvalued, hclasses, hwords, htypes]

/-- A tag binds the model of its control. -/
theorem model_mem_tagParts :
    ∃ modifier ∈ ["", ".number"], valued ("v-model" ++ modifier) model ∈ tagParts t model node := by
  unfold tagParts
  cases node.input with
  | number => exact ⟨_, .tail _ List.mem_cons_self, by simp⟩
  | _ => exact ⟨_, List.mem_cons_self, by simp⟩

/-- The attributes of a tag have neither brackets nor blanks outside of their values. -/
theorem isPart_tagParts (ht : t ∈ Theme.builtIn) (hmodel : IsAttributeValue model)
    (hkey : IsAttributeValue node.key) : ∀ part ∈ tagParts t model node, IsPart part := by
  have hclasses : ∀ token, ∀ part ∈ classPart t token, IsPart part := by
    intro token part hpart
    rw [mem_classPart hpart]
    exact isPart_valued rfl (isAttributeValue_classes ht token)
  have hrequired : ∀ part ∈ requiredPart node, IsPart part := by
    intro part hpart
    rw [(mem_requiredPart.mp hpart).1]
    exact ⟨rfl, by decide, by decide⟩
  have hmultiple : IsPart "multiple" := ⟨rfl, by decide, by decide⟩
  have htype : ∀ type ∈ ["checkbox", "number", "text"], IsPart (valued "type" type) := by
    intro type hmem
    have hidentifier : ∀ type ∈ ["checkbox", "number", "text"],
        Identifier.isIdentifier type = true := by decide
    exact isPart_valued rfl (isAttributeValue_of_isIdentifier (hidentifier type hmem))
  have hid : IsPart (valued "id" node.key) := isPart_valued rfl hkey
  have htext : IsPart (valued "v-model" model) := isPart_valued rfl hmodel
  have hnumber : IsPart (valued "v-model.number" model) := isPart_valued rfl hmodel
  have hplaceholder : IsPart (valued "placeholder" (attributeText node.placeholder)) :=
    isPart_valued rfl (isAttributeValue_attributeText _)
  have hsome : ∀ {parts : List String} {part : String}, IsPart part →
      (∀ p ∈ parts, IsPart p) → ∀ p ∈ part :: parts, IsPart p :=
    fun hfirst hothers => List.forall_mem_cons.mpr ⟨hfirst, hothers⟩
  -- each kind of input puts its own selection of these parts into the tag
  unfold tagParts
  cases node.input with
  | checkbox =>
    exact List.forall_mem_append.mpr ⟨hsome (htype _ (by decide)) (hclasses _),
      hsome htext (hsome hid (List.forall_mem_nil _))⟩
  | number =>
    exact List.forall_mem_append.mpr ⟨List.forall_mem_append.mpr ⟨hsome (htype _ (by decide))
      (hclasses _), hsome hid (hsome hnumber (hsome hplaceholder (List.forall_mem_nil _)))⟩,
      hrequired⟩
  | text =>
    exact List.forall_mem_append.mpr ⟨List.forall_mem_append.mpr ⟨hsome (htype _ (by decide))
      (hclasses _), hsome hid (hsome htext (hsome hplaceholder (List.forall_mem_nil _)))⟩,
      hrequired⟩
  | textarea =>
    exact List.forall_mem_append.mpr ⟨List.forall_mem_append.mpr ⟨hclasses _,
      hsome hid (hsome htext (hsome hplaceholder (List.forall_mem_nil _)))⟩, hrequired⟩
  | select options =>
    exact List.forall_mem_append.mpr ⟨List.forall_mem_append.mpr ⟨hclasses _,
      hsome hid (hsome htext (List.forall_mem_nil _))⟩, hrequired⟩
  | reference related multiple =>
    refine List.forall_mem_append.mpr ⟨List.forall_mem_append.mpr ⟨List.forall_mem_append.mpr
      ⟨hclasses _, hsome hid (hsome htext (List.forall_mem_nil _))⟩, ?_⟩, hrequired⟩
    split
    · exact hsome hmultiple (List.forall_mem_nil _)
    · exact List.forall_mem_nil _

/-- The element of a control is one to edit with. -/
theorem elementName_spec (input : FormInput) : '<' :: (elementName input).toList ∈ controlStarts
    ∧ isAttributeName (elementName input) = true
    ∧ isWhole false ("<" ++ elementName input).toList = true := by
  have hname : elementName input ∈ ["input", "select", "textarea"] := by
    cases input <;> simp [elementName]
  have hall : ∀ name ∈ ["input", "select", "textarea"], '<' :: name.toList ∈ controlStarts
      ∧ isAttributeName name = true ∧ isWhole false ("<" ++ name).toList = true := by decide
  exact hall _ hname

theorem head?_of_mem_controlStarts : ∀ start ∈ controlStarts, start.head? = some '<' := by
  simp [controlStarts]

theorem contributes_controlTag (ht : t ∈ Theme.builtIn) (hmodel : IsAttributeValue model)
    (hkey : IsAttributeValue node.key) :
    Contributes (tagsAt controlStarts) [(controlTag t model node).toList]
      (controlTag t model node ++ ">") :=
  contributes_openTag head?_of_mem_controlStarts (elementName_spec node.input).1
    (elementName_spec node.input).2.1 (isPart_tagParts ht hmodel hkey)

theorem attributes_controlTag (ht : t ∈ Theme.builtIn) (hmodel : IsAttributeValue model)
    (hkey : IsAttributeValue node.key) :
    attributes (controlTag t model node).toList
      = ("<" ++ elementName node.input) :: tagParts t model node :=
  attributes_openTag (elementName_spec node.input).2.2 (isPart_tagParts ht hmodel hkey)

end

/-- What the control of a scalar lets its user enter. -/
def FormInput.ofScalar : Control → FormInput
  | .checkbox => .checkbox
  | .textarea => .textarea
  | .number => .number
  | _ => .text

/-- What the control of a field lets its user enter. -/
def FormInput.ofField (s : FieldSpec) : FormInput :=
  match s.type with
  | .relationship entity cardinality => .reference (Names.ofName entity) (cardinality == .array)
  | .enum options => .select options.toList
  | .primitive kind => .ofScalar (FieldSpec.scalarControl s.widget kind)

theorem input_ofMapping (s : FieldSpec) : (FormNode.ofMapping s.mapping).input = .ofField s := by
  have hcontrol : (FormNode.ofMapping s.mapping).control = s.control := s.control_mapping
  unfold FormNode.input FormInput.ofField
  rw [hcontrol, FieldSpec.control]
  cases htype : s.type with
  | relationship entity cardinality =>
    rw [FieldSpec.mapping_of_relationship htype]
    rfl
  | enum options =>
    rw [FieldSpec.mapping_of_enum htype]
    rfl
  | primitive kind =>
    dsimp only
    unfold FieldSpec.scalarControl
    split_ifs <;> rfl

theorem input_ofMapping_eq_checkbox_iff {m : FieldMapping} :
    (FormNode.ofMapping m).input = .checkbox ↔ m.control = .checkbox := by
  unfold FormNode.input FormNode.ofMapping
  cases m.control with
  | relationship => cases m.related <;> simp
  | _ => simp

/-! ### The lines around the tag -/

/-- A part of a text with no tag to edit with. -/
def Tagless (s : String) : Prop := Contributes (tagsAt controlStarts) [] s

theorem isTagwise_tagless : IsTagwise controlStarts Tagless :=
  .of_adds head?_of_mem_controlStarts contributes_nil_of_adds Contributes.append

theorem Bare.tagless {s : String} (h : Bare s) : Tagless s := isTagwise_tagless.bare h

section

variable {node : FormNode} (hnode : BareNode node)

include hnode

theorem tagless_linesAboveTag : LinesHave Tagless (linesAboveTag node) := by
  have hkey := hnode.key.tagless
  have hlabel := (bare_contentText node.label).tagless
  unfold linesAboveTag labelLine
  split
  all_goals exact isTagwise_tagless.linesHave rfl (by simp [hkey, hlabel])

theorem tagless_linesBelowTag : LinesHave Tagless (linesBelowTag node) := by
  have hkey := hnode.key.tagless
  have hlabel := (bare_contentText node.label).tagless
  unfold linesBelowTag
  cases hinput : node.input with
  | checkbox => exact isTagwise_tagless.linesHave rfl (by simp [hkey, hlabel])
  | select options =>
    have hoption : LinesHave Tagless (options.map optionLine) := by
      refine List.forall_mem_map.mpr fun option _ => ?_
      have hvalue := (bare_attributeText option).tagless
      have hshown := (bare_contentText option).tagless
      unfold optionLine
      exact List.forall_mem_singleton.mp
        (isTagwise_tagless.linesHave rfl (by simp [hvalue, hshown]))
    exact hoption.append (isTagwise_tagless.linesHave rfl (by simp))
  | reference related multiple =>
    have hr : BareNames related := hnode.related related (by rw [hinput]; rfl)
    have hname := hr.name.tagless
    have hplural := hr.plural.tagless
    unfold entityOptions Client.storeConst
    cases multiple
    all_goals
      simp only [if_true, if_false, Bool.false_eq_true]
      exact isTagwise_tagless.linesHave rfl (by simp [hlabel, hname, hplural])
  | _ => exact List.forall_mem_nil _

end

/-! ### The control -/

/-- The lines of a control stand above the line that opens its element, or below it. -/
theorem map_line_formNodeLines (t : Theme) (n : Names) (node : FormNode) :
    (indented "              " (formNodeLines n node)).map t.line
      = (indented "              "
          (markup [["<div", .classes .field, ">"]] ++ linesAboveTag node)).map t.line
        ++ [t.line (.text "              " :: tagLine (formConst n ++ "." ++ node.key) node)]
        ++ (indented "              " (linesBelowTag node ++ plain ["</div>"])).map t.line := by
  rw [formNodeLines, controlLines_eq]
  simp only [indented, List.map_append, List.append_assoc]
  rfl

/-- A control has one tag to edit with. -/
theorem contributes_controlBlock {t : Theme} (ht : t ∈ Theme.builtIn) {n : Names} {m : FieldMapping}
    (hnode : BareNode (.ofMapping m)) (hmodel : IsAttributeValue (formConst n ++ "." ++ m.key))
    (hkey : IsAttributeValue m.key) :
    ContributesAll (tagsAt controlStarts) [tagOf t n m] (controlBlock t n m) := by
  have hbare := isBareTheme_of_mem_builtIn ht
  have hfield : LinesHave Tagless (markup [["<div", .classes .field, ">"]]) :=
    isTagwise_tagless.linesHave rfl (by simp)
  have hclosing : LinesHave Tagless (plain ["</div>"]) := isTagwise_tagless.linesHave rfl (by simp)
  have hlines : ∀ {lines : List Line}, LinesHave Tagless lines →
      ∀ line ∈ (indented "              " lines).map t.line, Tagless line := fun h =>
    isTagwise_tagless.lines_of_theme hbare (h.indented (isTagwise_tagless.literal rfl))
  have hblock : controlBlock t n m = _ := map_line_formNodeLines t n (.ofMapping m)
  have habove := hlines (hfield.append (tagless_linesAboveTag hnode))
  have hbelow := hlines ((tagless_linesBelowTag hnode).append hclosing)
  -- of all lines only the opening tag of the control counts
  have hopening : Contributes (tagsAt controlStarts) [tagOf t n m] (controlOpening t n m) := by
    obtain ⟨blanks, hblanks, behind, hbehind, hline⟩ :=
      line_tagLine t (formConst n ++ "." ++ m.key) (.ofMapping m)
    have hfront : Tagless blanks := by
      have hall : ∀ blanks ∈ ["                ", "                  "], Bare blanks := by decide
      exact (hall blanks hblanks).tagless
    have hback : Tagless behind := by
      rcases List.mem_cons.mp hbehind with rfl | hbehind
      · exact contributes_empty
      · rw [List.mem_singleton.mp hbehind]
        exact isTagwise_tagless.literal rfl
    rw [controlOpening, tagOf, hline]
    simpa using (Contributes.append hfront (contributes_controlTag ht hmodel hkey)).append hback
  rw [hblock]
  exact ((contributesAll_nil habove).append hopening.all).append (contributesAll_nil hbelow)

section

variable {d : Document} {fields : List FieldSpec} (hd : d.WellFormed)
  (hname : Identifier.isExactEntityName d.name = true)
  (hfields : List.Forall₂ (Entity.Reads d) d.schema.entries fields)

include hd hname hfields

/-- The control of a field has one tag to edit with. It binds the key, and it has the attributes
that it is made of. -/
theorem tagOf_spec {t : Theme} (ht : t ∈ Theme.builtIn) {m : FieldMapping}
    (hm : m ∈ (Entity.ofFields d fields).presented.filter FieldMapping.inPayload) :
    ContributesAll (tagsAt controlStarts) [tagOf t d.names m] (controlBlock t d.names m)
      ∧ Edits (d.names.name ++ "Form") m.key (tagOf t d.names m)
      ∧ attributes (tagOf t d.names m) = ("<" ++ elementName (FormNode.ofMapping m).input)
        :: tagParts t (formConst d.names ++ "." ++ m.key) (.ofMapping m) := by
  have hmapping := (Entity.presented_eq hfields hd).1 m (List.mem_filter.mp hm).1
  have hidentifier := Entity.isIdentifier_key hd hfields hmapping
  have hkey := isAttributeValue_of_isIdentifier hidentifier
  have hmodel := isAttributeValue_model (Document.areIdentifiers_names hd hname) hidentifier
  have hnode : BareNode (.ofMapping m) :=
    (bareForm_ofEntity hd hname hfields).form _ (List.mem_map_of_mem hm)
  have hattributes :
      attributes (tagOf t d.names m) = ("<" ++ elementName (FormNode.ofMapping m).input)
        :: tagParts t (formConst d.names ++ "." ++ m.key) (.ofMapping m) :=
    attributes_controlTag ht hmodel hkey
  refine ⟨contributes_controlBlock ht hnode hmodel hkey, ?_, hattributes⟩
  obtain ⟨modifier, hmodifier, hmem⟩ :=
    @model_mem_tagParts t (formConst d.names ++ "." ++ m.key) (.ofMapping m)
  refine ⟨modifier, hmodifier, ?_⟩
  rw [hattributes]
  exact List.mem_cons_of_mem _ hmem

/-- The control of a field has one tag to edit with, which asks for a value as the document does. -/
theorem asksInControl {t : Theme} (ht : t ∈ Theme.builtIn) {m : FieldMapping}
    (hm : m ∈ (Entity.ofFields d fields).presented.filter FieldMapping.inPayload) :
    AsksInControl d m.key (controlBlock t d.names m) := by
  have hmapping := (Entity.presented_eq hfields hd).1 m (List.mem_filter.mp hm).1
  obtain ⟨htag, hedits, hattributes⟩ := tagOf_spec hd hname hfields ht hm
  have hinput : (FormNode.ofMapping m).input = .checkbox ↔ d.isTicked m.key = true := by
    rw [← Entity.control_eq_checkbox_iff hfields hmapping, input_ofMapping_eq_checkbox_iff]
  -- the name of the element is no attribute
  have hfirst : ∀ name : String,
      "required" ≠ "<" ++ name ∧ valued "type" "checkbox" ≠ "<" ++ name := by
    intro name
    simp [valued, ← String.toList_inj]
  have hbreak : Tagless "\n" := isTagwise_tagless.literal rfl
  refine ⟨_, (htag.joined hbreak).read_eq rfl, hedits, ?_, ?_⟩
  · rw [hattributes, List.mem_cons, or_iff_right (hfirst _).2, checkbox_mem_tagParts, hinput]
  · rw [hattributes, List.mem_cons, or_iff_right (hfirst _).1, required_mem_tagParts, Ne, hinput,
      Bool.not_eq_true]
    show m.required = true ∧ _ ↔ _
    rw [Entity.required_eq_asksFor hfields hmapping]

/-- The controls of a view ask for values as the document does. -/
theorem viewAsks {t : Theme} (ht : t ∈ Theme.builtIn) :
    ViewAsks d (artifact t (.ofEntity (Entity.ofFields d fields))).content := by
  refine ⟨t.classAttribute .form, _, ?_, map_line_formLines t _ ▸ hasLines_form t _⟩
  rw [← Entity.map_key_form hfields hd]
  exact forall₂_map_key fun m hm => asksInControl hd hname hfields ht hm

end

end Scaffold.View
