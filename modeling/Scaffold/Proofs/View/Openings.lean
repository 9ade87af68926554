import Scaffold.Proofs.Text.Openings
import Scaffold.Proofs.View.Blocks
import Scaffold.Proofs.View.Controls

/-!
# What the markup of a view opens

The markup shows labels and options between tags. A view whose texts are blanked tells what the
markup opens by itself: with the texts, it opens the same tags, and an interpolation more wherever
a text has three braces one after another (`fills_markupText`). The lines are compared one by one: a
line that shows no text leads from element content to element content, and one that shows a text
does so around it.
-/

namespace Scaffold.View

open Text

/-- A control whose label and options are empty. -/
def FormNode.blanked (node : FormNode) : FormNode :=
  { node with label := "", options := node.options.map fun _ => "" }

/-- What a view shows, with controls whose labels and options are empty. -/
def Spec.blanked (spec : Spec) : Spec := { spec with form := spec.form.map .blanked }

/-- A text that opens no interpolation where it is shown. -/
def Whole (s : String) : Prop := ¬ ['{', '{', '{'] <:+: s.toList

instance (s : String) : Decidable (Whole s) := inferInstanceAs (Decidable (¬ _))

/-- A control refers to a field and to an entity by names that are identifiers. -/
structure NamedNode (node : FormNode) : Prop where
  key : Identifier.isIdentifier node.key = true
  related : ∀ r ∈ node.input.related?, r.AreIdentifiers

/-! ### Parts of lines -/

section

variable {t : Theme}

theorem inert_of_isIdentifier {s : String} (h : Identifier.isIdentifier s = true) : Inert s where
  opening := Identifier.notMem_of_isIdentifier h (by decide) (by decide)
  closing := Identifier.notMem_of_isIdentifier h (by decide) (by decide)
  quote := Identifier.notMem_of_isIdentifier h (by decide) (by decide)
  brace := Identifier.notMem_of_isIdentifier h (by decide) (by decide)

theorem leads_classAttribute (ht : t ∈ Theme.builtIn) (token : ClassToken) :
    Leads .tag (t.classAttribute token) .tag := by
  have hclasses := leads_value (isAttributeValue_classes ht token).quote
  rw [Theme.classAttribute]
  split
  · exact leads_empty _
  · exact .append (.append (.literal rfl) hclasses) (.literal rfl)

/-- A line with a place for classes leads back to element content if its text does. -/
theorem leads_line_classes (ht : t ∈ Theme.builtIn) {blanks front back : String}
    {token : ClassToken} (hfront : Leads .content (blanks ++ front) .tag)
    (hback : Leads .tag back .content) :
    Leads .content (t.line [.text blanks, .text front, .classes token, .text back]) .content := by
  rw [line_classes]
  exact (hfront.append (leads_classAttribute ht token)).append hback

theorem leads_line_plain {s : String} (h : Leads .content s .content) :
    Leads .content (t.line [.text "              ", .text s]) .content := by
  rw [← List.singleton_append, line_append, line_text, line_text]
  exact .append (.literal rfl) h

theorem leads_field (ht : t ∈ Theme.builtIn) :
    Leads .content (t.line (.text "              " :: ["<div", .classes .field, ">"])) .content :=
  leads_line_classes ht (.append (.literal rfl) (.literal rfl)) (.literal rfl)

/-- The line that opens the element of a control leads back to element content. -/
theorem leads_tagLine (ht : t ∈ Theme.builtIn) {n : Names} {node : FormNode}
    (hn : n.AreIdentifiers) (hnode : NamedNode node) : Leads .content
      (t.line (.text "              " :: tagLine (formConst n ++ "." ++ node.key) node))
      .content := by
  obtain ⟨blanks, hblanks, behind, hbehind, hline⟩ :=
    line_tagLine t (formConst n ++ "." ++ node.key) node
  have hparts := isPart_tagParts ht (isAttributeValue_model hn hnode.key)
    (isAttributeValue_of_isIdentifier hnode.key)
  have htag := leads_openTag (elementName_spec node.input).2.1 hparts
  have hfront : Leads .content blanks .content := by
    simp only [List.mem_cons, List.not_mem_nil, or_false] at hblanks
    rcases hblanks with rfl | rfl <;> exact .literal rfl
  have hback : Leads .content behind .content := by
    simp only [List.mem_cons, List.not_mem_nil, or_false] at hbehind
    rcases hbehind with rfl | rfl
    · exact leads_empty _
    · exact .literal rfl
  rw [hline]
  exact (hfront.append htag).append hback

/-- The option for an entity leads back to element content. -/
theorem leads_entityOptions {related : Names} (hrelated : related.AreIdentifiers) :
    Leads .content (t.line (.text "              " :: entityOptions related)) .content := by
  have hname : Leads .value related.name .value :=
    (inert_of_isIdentifier hrelated.name).leads (by decide)
  have hplural : Leads .value related.plural .value :=
    (inert_of_isIdentifier hrelated.plural).leads (by decide)
  have hshown : Leads .content related.name .content :=
    (inert_of_isIdentifier hrelated.name).leads (by decide)
  -- names stand in the values of attributes, and one is shown
  have hline : t.line (.text "              " :: entityOptions related)
      = ("                  <option v-for=\"" ++ related.name ++ " in " ++ related.name ++ "Store."
          ++ related.plural ++ "\" :key=\"" ++ related.name ++ "._id\" :value=\""
          ++ related.name ++ "\">")
        ++ ("\x7b\x7b " ++ related.name ++ ".name \x7d\x7d</option>") := by
    simp [← String.toList_inj, Theme.line, Theme.piece, entityOptions, Client.storeConst,
      String.join]
  have htag : Leads .content ("                  <option v-for=\"" ++ related.name ++ " in "
      ++ related.name ++ "Store." ++ related.plural ++ "\" :key=\"" ++ related.name
      ++ "._id\" :value=\"" ++ related.name ++ "\">") .content := by
    apply Leads.append (q := .value) _ (.literal rfl)
    apply Leads.append (q := .value) _ hname
    apply Leads.append (q := .value) _ (.literal rfl)
    apply Leads.append (q := .value) _ hname
    apply Leads.append (q := .value) _ (.literal rfl)
    apply Leads.append (q := .value) _ hplural
    apply Leads.append (q := .value) _ (.literal rfl)
    apply Leads.append (q := .value) _ hname
    apply Leads.append (q := .value) _ (.literal rfl)
    exact .append (.literal rfl) hname
  rw [hline]
  exact htag.append (.append (.append (.literal rfl) hshown) (.literal rfl))

/-! ### Lines that show texts -/

/-- A label opens what its text opens. -/
theorem fillsAll_label (ht : t ∈ Theme.builtIn) {front key : String} {token : ClassToken}
    (hfront : Leads .content ("              " ++ front) .tag)
    (hkey : Identifier.isIdentifier key = true) (s : String) :
    FillsAll (Whole s)
      [t.line [.text "              ", .text front, .classes token,
        .text (" for=\"" ++ key ++ "\">" ++ contentText s ++ "</label>")]]
      [t.line [.text "              ", .text front, .classes token,
        .text (" for=\"" ++ key ++ "\">" ++ contentText "" ++ "</label>")]] := by
  have hvalue : Leads .value key .value := (inert_of_isIdentifier hkey).leads (by decide)
  have hline : ∀ s, t.line [.text "              ", .text front, .classes token,
        .text (" for=\"" ++ key ++ "\">" ++ contentText s ++ "</label>")]
      = ("              " ++ front ++ t.classAttribute token ++ (" for=\"" ++ key ++ "\">"))
        ++ contentText s ++ "</label>" := by
    intro s
    simp [String.append_assoc]
  have hopening : Leads .content
      ("              " ++ front ++ t.classAttribute token ++ (" for=\"" ++ key ++ "\">"))
      .content := by
    refine .append (hfront.append (leads_classAttribute ht token)) ?_
    exact .append (.append (.literal rfl) hvalue) (.literal rfl)
  rw [hline, hline]
  exact fillsAll_text hopening hopening rfl (.literal rfl) rfl

/-- The option that stands for no choice opens what the label opens. -/
theorem fillsAll_placeholder (s : String) : FillsAll (Whole s)
    [t.line [.text "              ",
      .text ("    <option :value=\"undefined\">Select " ++ contentText s ++ "</option>")]]
    [t.line [.text "              ",
      .text ("    <option :value=\"undefined\">Select " ++ contentText "" ++ "</option>")]] := by
  have hline : ∀ s, t.line [.text "              ",
        .text ("    <option :value=\"undefined\">Select " ++ contentText s ++ "</option>")]
      = "                  <option :value=\"undefined\">Select " ++ contentText s
        ++ "</option>" := by
    intro s
    simp [← String.toList_inj, Theme.line, Theme.piece, String.join]
  rw [hline, hline]
  exact fillsAll_text (.literal rfl) (.literal rfl) rfl (.literal rfl) rfl

/-- An option of an enumeration opens what its text opens. -/
theorem fillsAll_option (option : String) : FillsAll (Whole option)
    [t.line (.text "              " :: optionLine option)]
    [t.line (.text "              " :: optionLine "")] := by
  have hline : ∀ option, t.line (.text "              " :: optionLine option)
      = ("                  <option value=\"" ++ attributeText option ++ "\">")
        ++ contentText option ++ "</option>" := by
    intro option
    simp [← String.toList_inj, Theme.line, Theme.piece, optionLine, String.join]
  have hquote : ∀ option, '"' ∉ (attributeText option).toList :=
    fun option => (isAttributeValue_attributeText option).quote
  have hfront : ∀ option, Leads .content
      ("                  <option value=\"" ++ attributeText option ++ "\">") .content :=
    fun option => .append (.append (.literal rfl) (leads_value (hquote option))) (.literal rfl)
  have hopening : Leads .content "                  <option value=\"" .value := .literal rfl
  rw [hline, hline]
  refine fillsAll_text (hfront option) (hfront "") ?_ (.literal rfl) rfl
  rw [openings_value hopening (hquote option), openings_value hopening (hquote "")]

end

/-! ### Controls -/

section

variable {t : Theme} {n : Names} {node : FormNode}

theorem input_blanked : node.blanked.input
    = match node.input with
      | .select options => .select (options.map fun _ => "")
      | input => input := by
  unfold FormNode.input FormNode.blanked
  cases node.control with
  | relationship => cases node.related <;> rfl
  | _ => rfl

@[simp]
theorem tagLine_blanked (model : String) : tagLine model node.blanked = tagLine model node := by
  unfold tagLine
  rw [input_blanked]
  cases node.input <;> rfl

/-- A control that is no check box has its label above. -/
theorem linesAboveTag_of_ne (h : node.input ≠ .checkbox) :
    linesAboveTag node = [labelLine node] := by
  unfold linesAboveTag
  split
  next hinput => exact absurd hinput h
  next => rfl

theorem fillsAll_above (ht : t ∈ Theme.builtIn) (hnode : NamedNode node)
    (hinput : node.input ≠ .checkbox) : FillsAll (Whole node.label)
      ((indented "              " (linesAboveTag node)).map t.line)
      ((indented "              " (linesAboveTag node.blanked)).map t.line) := by
  have hother : node.blanked.input ≠ .checkbox := by
    rw [input_blanked]
    split
    · nofun
    · exact hinput
  rw [linesAboveTag_of_ne hinput, linesAboveTag_of_ne hother]
  exact fillsAll_label ht (.append (.literal rfl) (.literal rfl)) hnode.key node.label

/-- A choice among entities opens what the option that stands for no choice opens. -/
theorem fillsAll_reference (ht : t ∈ Theme.builtIn) {related : Names}
    (hrelated : related.AreIdentifiers) (multiple : Bool)
    (hinput : node.input = .reference related multiple) :
    FillsAll (multiple = false → Whole node.label)
      ((indented "              " (linesBelowTag node)).map t.line)
      ((indented "              " (linesBelowTag node.blanked)).map t.line) := by
  have hother : node.blanked.input = .reference related multiple := by rw [input_blanked, hinput]
  have hoptions := leads_entityOptions (t := t) hrelated
  have hclosing := @leads_line_plain t "  </select>" (.literal rfl)
  have hhelp : Leads .content (t.line [.text "              ", .text "  <small", .classes .helpText,
      .text ">Hold Ctrl/Cmd to select multiple items</small>"]) .content :=
    leads_line_classes ht (.append (.literal rfl) (.literal rfl)) (.literal rfl)
  unfold linesBelowTag
  rw [hinput, hother]
  simp only [indented, plain, markup, List.map_append, List.map_cons, List.map_nil]
  -- only where one is chosen, an option that chooses none shows the label
  cases multiple with
  | true =>
    simp only [if_true, List.map_cons, List.map_nil, List.nil_append]
    refine (fillsAll_self ?_).congr (by simp)
    exact List.forall_mem_cons.mpr ⟨hoptions, List.forall_mem_cons.mpr ⟨hclosing,
      List.forall_mem_singleton.mpr hhelp⟩⟩
  | false =>
    simp only [Bool.false_eq_true, if_false, List.map_cons, List.map_nil, List.append_nil]
    refine ((fillsAll_placeholder node.label).append (fillsAll_self ?_)).congr (by simp)
    exact List.forall_mem_cons.mpr ⟨hoptions, List.forall_mem_singleton.mpr hclosing⟩

/-- A choice among options opens what they open. -/
theorem fillsAll_select {options : List String} (hinput : node.input = .select options) :
    FillsAll (∀ option ∈ options, Whole option)
      ((indented "              " (linesBelowTag node)).map t.line)
      ((indented "              " (linesBelowTag node.blanked)).map t.line) := by
  have hother : node.blanked.input = .select (options.map fun _ => "") := by
    rw [input_blanked, hinput]
  have hclosing := @leads_line_plain t "  </select>" (.literal rfl)
  unfold linesBelowTag
  rw [hinput, hother]
  simp only [indented, plain, List.map_append, List.map_cons, List.map_nil, List.map_map]
  rw [List.map_eq_flatMap, List.map_eq_flatMap]
  refine (FillsAll.append (.map fun option _ => fillsAll_option option)
    (fillsAll_self (List.forall_mem_singleton.mpr hclosing))).congr (by simp)

/-- A check box has its label below the tag. -/
theorem fillsAll_checkbox (ht : t ∈ Theme.builtIn) (hnode : NamedNode node)
    (hinput : node.input = .checkbox) :
    FillsAll True ((indented "              " (linesAboveTag node)).map t.line)
        ((indented "              " (linesAboveTag node.blanked)).map t.line)
      ∧ FillsAll (Whole node.label) ((indented "              " (linesBelowTag node)).map t.line)
        ((indented "              " (linesBelowTag node.blanked)).map t.line) := by
  have hother : node.blanked.input = .checkbox := by rw [input_blanked, hinput]
  have hopening : Leads .content (t.line [.text "              ", .text "  <div",
      .classes .checkbox, .text ">"]) .content :=
    leads_line_classes ht (.append (.literal rfl) (.literal rfl)) (.literal rfl)
  have hlabel : FillsAll (Whole node.label) _ _ :=
    @fillsAll_label t ht "    <label" node.key .checkboxLabel
      (.append (.literal rfl) (.literal rfl)) hnode.key node.label
  have hclosing := @leads_line_plain t "  </div>" (.literal rfl)
  unfold linesAboveTag linesBelowTag
  rw [hinput, hother]
  constructor
  · exact fillsAll_self (List.forall_mem_singleton.mpr hopening)
  · exact (hlabel.append (fillsAll_self (List.forall_mem_singleton.mpr hclosing))).congr (by simp)

/-- A control opens what stands above and below its tag. -/
theorem fillsAll_around (ht : t ∈ Theme.builtIn) (hn : n.AreIdentifiers)
    (hnode : NamedNode node) {above below : Prop}
    (habove : FillsAll above ((indented "              " (linesAboveTag node)).map t.line)
      ((indented "              " (linesAboveTag node.blanked)).map t.line))
    (hbelow : FillsAll below ((indented "              " (linesBelowTag node)).map t.line)
      ((indented "              " (linesBelowTag node.blanked)).map t.line)) :
    FillsAll (above ∧ below) (nodeBlock t n node) (nodeBlock t n node.blanked) := by
  have hfield := fillsAll_self (List.forall_mem_singleton.mpr (leads_field ht))
  have htag := fillsAll_self (List.forall_mem_singleton.mpr (leads_tagLine ht hn hnode))
  have hend := @leads_line_plain t "</div>" (.literal rfl)
  have hclosing := fillsAll_self (List.forall_mem_singleton.mpr hend)
  have hkey : node.blanked.key = node.key := rfl
  unfold nodeBlock
  rw [map_line_formNodeLines, map_line_formNodeLines, hkey, tagLine_blanked]
  simp only [indented, List.map_append]
  exact (((hfield.append habove).append htag).append (hbelow.append hclosing)).congr (by simp)

/-- A control opens what its label and its options open. -/
theorem fillsAll_nodeBlock (ht : t ∈ Theme.builtIn) (hn : n.AreIdentifiers)
    (hnode : NamedNode node) : FillsAll (∀ s ∈ node.label :: node.input.options, Whole s)
      (nodeBlock t n node) (nodeBlock t n node.blanked) := by
  -- the input decides which free texts the block shows
  cases hinput : node.input with
  | checkbox =>
    obtain ⟨habove, hbelow⟩ := fillsAll_checkbox ht hnode hinput
    exact (fillsAll_around ht hn hnode habove hbelow).congr (by simp [FormInput.options])
  | reference related multiple =>
    have hrelated := hnode.related related (by rw [hinput]; rfl)
    have habove := fillsAll_above ht hnode (by simp [hinput])
    have hbelow := fillsAll_reference ht hrelated multiple hinput
    refine (fillsAll_around ht hn hnode habove hbelow).congr ?_
    simp +contextual [FormInput.options]
  | select options =>
    have habove := fillsAll_above ht hnode (by simp [hinput])
    exact (fillsAll_around ht hn hnode habove (fillsAll_select hinput)).congr
      List.forall_mem_cons.symm
  | text | number | textarea =>
    have hother : node.blanked.input = node.input := by rw [input_blanked, hinput]
    have habove := fillsAll_above ht hnode (by simp [hinput])
    have hbelow : FillsAll True ((indented "              " (linesBelowTag node)).map t.line)
        ((indented "              " (linesBelowTag node.blanked)).map t.line) := by
      unfold linesBelowTag
      rw [hother, hinput]
      exact fillsAll_nil
    exact (fillsAll_around ht hn hnode habove hbelow).congr (by simp [FormInput.options])

end

/-! ### The markup -/

section

variable {t : Theme} {n : Names} {spec : Spec}

/-- What a view shows refers to names that are identifiers. -/
structure NamedForm (spec : Spec) : Prop where
  names : spec.names.AreIdentifiers
  form : ∀ node ∈ spec.form, NamedNode node

/-- The form opens what its labels and options open. -/
theorem fillsAll_formLines (ht : t ∈ Theme.builtIn) (h : NamedForm spec) :
    FillsAll (∀ node ∈ spec.form, ∀ s ∈ node.label :: node.input.options, Whole s)
      ((formLines spec).map t.line) ((formLines spec.blanked).map t.line) := by
  have hsep : FillsAll True [""] [""] := fillsAll_self (List.forall_mem_singleton.mpr rfl)
  have hother : spec.blanked.form.map (nodeBlock t spec.blanked.names)
      = spec.form.map fun node => nodeBlock t spec.names node.blanked := by
    rw [Spec.blanked, List.map_map]
    rfl
  rw [map_line_form, map_line_form, hother]
  exact .intercalate hsep fun node hnode => fillsAll_nodeBlock ht h.names (h.form node hnode)

/-- What stands in front of the form. -/
def linesAboveForm (n : Names) : List Line :=
  markup [["<template>"], ["  <div class=\"" ++ n.name ++ "-list\">"]] ++ headerLines n
    ++ markup [[""],
      ["    <!-- " ++ n.capitalized ++ " modal -->"],
      ["    <div", .classes .modal, " ref=\"" ++ n.name ++ "Modal\" tabindex=\"-1\">"],
      ["      <div", .classes .modalDialog, ">"],
      ["        <div", .classes .modalContent, ">"],
      ["          <div", .classes .modalHeader, ">"],
      ["            <h5", .classes .modalTitle, ">\x7b\x7b isEditing ? 'Edit " ++ n.capitalized
        ++ "' : 'Create " ++ n.capitalized ++ "' \x7d\x7d</h5>"],
      ["            <button type=\"button\"", .classes .buttonClose,
        " aria-label=\"Close\" @click=\"closeModal\"></button>"],
      ["          </div>"],
      ["          <div", .classes .modalBody, ">"],
      ["            <form", .classes .form, " @submit.prevent=\"handleSubmit\">"]]

def linesBelowForm (n : Names) : List Line :=
  markup [["            </form>"],
    ["          </div>"],
    ["          <div", .classes .modalFooter, ">"],
    ["            <button type=\"button\"", .classes .buttonSecondary,
      " @click=\"closeModal\">Cancel</button>"],
    ["            <button type=\"button\"", .classes .buttonPrimary, " @click=\"handleSubmit\">"],
    ["              \x7b\x7b isEditing ? 'Update' : 'Create' \x7d\x7d"],
    ["              <i", .classes .iconCheck, "></i>"],
    ["            </button>"],
    ["          </div>"],
    ["        </div>"],
    ["      </div>"],
    ["    </div>"]]
    ++ plain [""] ++ tableLines n ++ plain ["  </div>"]

/-- The form stands between lines that do not depend on it. -/
theorem templateBody_eq (spec : Spec) : templateBody spec
    = linesAboveForm spec.names ++ formLines spec ++ linesBelowForm spec.names := by
  simp [templateBody, modalLines, linesAboveForm, linesBelowForm, plain]

theorem leads_line (t : Theme) {s : String} (h : Leads .content s .content) :
    Leads .content (t.line [.text s]) .content := by
  rwa [line_text]

theorem leads_tag (ht : t ∈ Theme.builtIn) {front back : String} {token : ClassToken}
    (hfront : Leads .content front .tag) (hback : Leads .tag back .content) :
    Leads .content (t.line [.text front, .classes token, .text back]) .content := by
  have hline : t.line [.text front, .classes token, .text back]
      = front ++ t.classAttribute token ++ back := by
    simp [Theme.line, Theme.piece, String.join]
  rw [hline]
  exact (hfront.append (leads_classAttribute ht token)).append hback

theorem leads_headerLines (ht : t ∈ Theme.builtIn) (hn : n.AreIdentifiers) :
    ∀ line ∈ headerLines n, Leads .content (t.line line) .content := by
  have hcap : Leads .content n.capitalized .content :=
    (inert_of_isIdentifier hn.capitalized).leads (by decide)
  have hplural : Leads .content n.plural .content :=
    (inert_of_isIdentifier hn.plural).leads (by decide)
  have hplurals : Leads .content n.capitalizedPlural .content :=
    (inert_of_isIdentifier hn.capitalizedPlural).leads (by decide)
  unfold headerLines
  simp only [List.forall_mem_cons, List.not_mem_nil, false_imp_iff, implies_true, and_true]
  refine ⟨leads_line t (.literal rfl), leads_tag ht (.literal rfl) (.literal rfl),
    leads_tag ht (.literal rfl) (.literal rfl), leads_line t (.literal rfl),
    leads_tag ht (.literal rfl) (.literal rfl), leads_line t (.append (.literal rfl) hplurals),
    leads_tag ht (.literal rfl)
      (.append (.append (q := .content) (.literal rfl) hplural) (.literal rfl)),
    leads_line t (.literal rfl), leads_line t (.literal rfl), leads_line t (.literal rfl),
    leads_tag ht (.literal rfl) (.literal rfl), leads_tag ht (.literal rfl) (.literal rfl),
    leads_tag ht (.literal rfl) (.literal rfl), leads_line t (.append (.literal rfl) hcap),
    leads_line t (.literal rfl), leads_line t (.literal rfl), leads_line t (.literal rfl)⟩

/-- What stands in front of the form leads to element content. -/
theorem leads_linesAboveForm (ht : t ∈ Theme.builtIn) (hn : n.AreIdentifiers) :
    ∀ line ∈ (linesAboveForm n).map t.line, Leads .content line .content := by
  have hname : Leads .value n.name .value := (inert_of_isIdentifier hn.name).leads (by decide)
  have hcap : Leads .content n.capitalized .content :=
    (inert_of_isIdentifier hn.capitalized).leads (by decide)
  refine List.forall_mem_map.mpr (List.forall_mem_append.mpr ⟨List.forall_mem_append.mpr
    ⟨?_, leads_headerLines ht hn⟩, ?_⟩)
  · simp only [List.forall_mem_cons, List.not_mem_nil, false_imp_iff, implies_true, and_true]
    exact ⟨leads_line t (.literal rfl),
      leads_line t (.append (.append (.literal rfl) hname) (.literal rfl))⟩
  · simp only [List.forall_mem_cons, List.not_mem_nil, false_imp_iff, implies_true, and_true]
    refine ⟨leads_line t (.literal rfl),
      leads_line t (.append (q := .tag) (.append (q := .tag) (.literal rfl) ?_) (.literal rfl)),
      leads_tag ht (.literal rfl) (.append (.append (.literal rfl) hname) (.literal rfl)),
      leads_tag ht (.literal rfl) (.literal rfl), leads_tag ht (.literal rfl) (.literal rfl),
      leads_tag ht (.literal rfl) (.literal rfl), leads_tag ht (.literal rfl) ?_,
      leads_tag ht (.literal rfl) (.literal rfl), leads_line t (.literal rfl),
      leads_tag ht (.literal rfl) (.literal rfl), leads_tag ht (.literal rfl) (.literal rfl)⟩
    · exact (inert_of_isIdentifier hn.capitalized).leads (by decide)
    · exact .append (.append (.append (.append (.literal rfl) hcap) (.literal rfl)) hcap)
        (.literal rfl)

/-- The markup opens what its labels and options open, and nothing else depends on them. -/
theorem fills_markupText (ht : t ∈ Theme.builtIn) (h : NamedForm spec) :
    Fills (∀ node ∈ spec.form, ∀ s ∈ node.label :: node.input.options, Whole s)
      (openings (markupText t spec).toList) (openings (markupText t spec.blanked).toList) := by
  have hmarkup : ∀ other : Spec, other.names = spec.names → markupText t other
      = "\n".intercalate ((linesAboveForm spec.names).map t.line ++ (formLines other).map t.line)
        ++ ("\n" ++ "\n".intercalate ((linesBelowForm spec.names).map t.line)) := by
    intro other hnames
    rw [markupText, templateBody_eq, hnames, List.map_append,
      intercalate_append (by simp [linesAboveForm]) (by simp [linesBelowForm]), List.map_append,
      String.append_assoc]
  have hlines := (fillsAll_self (leads_linesAboveForm ht h.names)).append (fillsAll_formLines ht h)
  rw [hmarkup spec rfl, hmarkup spec.blanked rfl]
  exact (hlines.congr (by rw [true_and])).joined _

end

/-! ### Views of accepted documents -/

theorem namedForm_ofEntity {d : Document} {fields : List FieldSpec} (hd : d.WellFormed)
    (hname : Identifier.isExactEntityName d.name = true)
    (hfields : List.Forall₂ (Entity.Reads d) d.schema.entries fields) :
    NamedForm (.ofEntity (Entity.ofFields d fields)) where
  names := Document.areIdentifiers_names hd hname
  form := by
    refine List.forall_mem_map.mpr fun m hm => ⟨?_, fun r hr => ?_⟩
    · have hmapping := (Entity.presented_eq hfields hd).1 m (List.mem_of_mem_filter hm)
      exact Entity.isIdentifier_key hd hfields hmapping
    · exact Entity.areIdentifiers_related hd fields r (mem_related_of_input hd hfields hm hr)

/-- Element content that was a text before has no angle brackets, and a pair of opening braces just
where the text has three of them one after another. So in the view of an accepted document, the
labels and options open no tag, and they open no interpolation exactly if none of them has three
braces one after another. -/
theorem shown_texts_open_iff {v : Value} {d : Document} (hparse : Document.parse v = .ok d)
    (hvalid : d.findings.isValid = true) :
    (∀ s, '<' ∉ (contentText s).toList ∧ '>' ∉ (contentText s).toList
        ∧ (['{', '{'] <:+: (contentText s).toList ↔ ¬ Whole s))
      ∧ ∃ e, Entity.ofAccepted d = .ok e ∧ ∀ t ∈ Theme.builtIn,
        let spec := Spec.ofEntity e
        (∃ rest, (artifact t spec).content = markupText t spec ++ "\n</template>\n" ++ rest)
          ∧ (openings (markupText t spec).toList).filter (· = .tag)
            = (openings (markupText t spec.blanked).toList).filter (· = .tag)
          ∧ (openings (markupText t spec).toList = openings (markupText t spec.blanked).toList
            ↔ ∀ node ∈ spec.form, ∀ s ∈ node.label :: node.input.options, Whole s) := by
  refine ⟨fun s => ?_, ?_⟩
  · obtain ⟨hopening, hclosing⟩ := notMem_contentText s
    exact ⟨hopening, hclosing, by rw [infix_contentText_iff, Whole, not_not]⟩
  · obtain ⟨hd, fields, hfields, he, -⟩ := exists_assemble_eq_ok hparse hvalid
    have hname := Document.isExactEntityName_of_parse hparse
    refine ⟨_, he, fun t ht => ?_⟩
    intro spec
    obtain ⟨htags, -, hsame⟩ := fills_markupText ht (namedForm_ofEntity hd hname hfields)
    refine ⟨⟨"\n" ++ scriptText t spec ++ "\n</script>\n\n" ++ "\n".intercalate styleLines ++ "\n",
      ?_⟩, htags, hsame⟩
    rw [content_eq_blocks]
    simp [← String.toList_inj]

/-- The value that describes signs, with a label in three braces. -/
def signValue : Value :=
  .map [(.text "name", .text "sign"), (.text "schema", .map [(.text "title", .text "string")]),
    (.text "ui", .map [(.text "title",
      .map [(.text "label", .text "\x7b\x7b\x7b title \x7d\x7d\x7d")])])]

/-- The document about signs. -/
def signDocument : Document where
  version := none
  name := "sign"
  overrides := {}
  schema := .ofList [("title", "string")]
  ui := .ofList [("title", { label := "\x7b\x7b\x7b title \x7d\x7d\x7d" })]

/-- The label of signs opens an interpolation. -/
theorem sign_opens_interpolation :
    ∃ e, Entity.ofAccepted signDocument = .ok e ∧ ∀ t ∈ Theme.builtIn,
      openings (markupText t (.ofEntity e)).toList
        ≠ openings (markupText t (Spec.ofEntity e).blanked).toList := by
  have hparse : Document.parse signValue = .ok signDocument := by decide
  have hvalid : signDocument.findings.isValid = true := by decide
  have hlabels : (Entity.ofAccepted signDocument).toOption.all (fun e =>
      (Spec.ofEntity e).form.any fun node => !decide (Whole node.label)) = true := by decide
  obtain ⟨-, e, he, hviews⟩ := shown_texts_open_iff hparse hvalid
  refine ⟨e, he, fun t ht hsame => ?_⟩
  rw [he] at hlabels
  obtain ⟨node, hnode, hlabel⟩ := List.any_eq_true.mp hlabels
  have hwhole := (hviews t ht).2.2.mp hsame node hnode node.label List.mem_cons_self
  simp [hwhole] at hlabel

end Scaffold.View
