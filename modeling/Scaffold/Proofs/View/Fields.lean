import Scaffold.Proofs.Field
import Scaffold.Proofs.Script
import Scaffold.View.Component

/-!
# Fields in views

A view has a form with a control for each field that is presented and edited, in the order of the
presentations, a table with a column for each field that is presented, in the same order, and a
script that gives each edited field a default and sends it, in schema order. `ViewShows` says so of
the content of a view, `viewShows` proves it of every theme.
-/

namespace Scaffold.View

open Text

/-- A line that sends the value of the form under a key. -/
def IsSent (blanks form key line : String) : Prop :=
  IsEntry (blanks ++ key ++ ": " ++ form ++ ".value." ++ key) line

/-- A line that gives a key a value. -/
def IsGiven (blanks key line : String) : Prop :=
  ∃ value, Unbroken value ∧ IsEntry (blanks ++ key ++ ": " ++ value) line

/-- The description of the column for a key. -/
def IsColumn (key : String) (block : List String) : Prop :=
  ∃ inner last, (∀ line ∈ inner, IsInner "    " line) ∧ IsEntry "  \x7d" last
    ∧ block = ["  \x7b", "    data: '" ++ key ++ "',"] ++ inner ++ [last]

/-- A line that binds a control to the value of a form under a key. -/
def Binds (form key line : String) : Prop :=
  ∃ before modifier after, modifier ∈ ["", ".number"]
    ∧ line = before ++ " v-model" ++ modifier ++ "=\"" ++ form ++ "." ++ key ++ "\"" ++ after

/-- A view has a control for each of the form's keys, a column for each presented key, and for each
edited key a default, wherever the form is made new, and an entry, wherever it is sent. -/
structure ViewShows (n : Names) (edited form presented : List String) (content : String) :
    Prop where
  controls : ∃ classes blocks,
    List.Forall₂ (fun key block => ∃ line ∈ block, Binds (n.name ++ "Form") key line) form blocks
      ∧ HasLines content (["            <form" ++ classes ++ " @submit.prevent=\"handleSubmit\">"]
        ++ [""].intercalate blocks ++ ["            </form>"])
  columns : ∃ blocks, List.Forall₂ IsColumn presented blocks
    ∧ HasLines content (["const columns = ref<TableColumn[]>(["] ++ blocks.flatten ++ ["])"])
  defaults : ∃ members, List.Forall₂ (IsGiven "  ") edited members
    ∧ HasLines content (["const " ++ n.name ++ "Form = ref<Create" ++ n.capitalized
      ++ "Dto & Update" ++ n.capitalized ++ "Dto>(\x7b"] ++ members ++ ["\x7d)"])
  reset : ∃ members, List.Forall₂ (IsGiven "    ") edited members
    ∧ HasLines content (["const resetForm = () => \x7b", "  " ++ n.name ++ "Form.value = \x7b"]
      ++ members ++ ["  \x7d"])
  updated : ∃ members, List.Forall₂ (IsSent "        " (n.name ++ "Form")) edited members
    ∧ HasLines content (["      const updateData: Update" ++ n.capitalized ++ "Dto = \x7b"]
      ++ members ++ ["      \x7d"])
  created : ∃ members, List.Forall₂ (IsSent "        " (n.name ++ "Form")) edited members
    ∧ HasLines content (["      const createData: Create" ++ n.capitalized ++ "Dto = \x7b"]
      ++ members ++ ["      \x7d"])

/-! ### Lines of views -/

@[simp] theorem line_text (t : Theme) (s : String) : t.line [.text s] = s := by
  simp [Theme.line, Theme.piece, String.join]

@[simp] theorem line_append (t : Theme) (front back : Line) :
    t.line (front ++ back) = t.line front ++ t.line back := by
  simp [Theme.line]

/-- What holds of the pieces of a line holds of the line, if it holds of joined texts. -/
theorem line_of_pieces {holds : String → Prop} (hempty : holds "")
    (happend : ∀ {a b : String}, holds a → holds b → holds (a ++ b)) {t : Theme} {line : Line}
    (h : ∀ piece ∈ line, holds (t.piece piece)) : holds (t.line line) := by
  induction line with
  | nil => exact hempty
  | cons piece rest ih =>
    obtain ⟨hpiece, hrest⟩ := List.forall_mem_cons.mp h
    have hline : t.line (piece :: rest) = t.piece piece ++ t.line rest := by
      rw [Theme.line, List.map_cons, String.join_cons]
      rfl
    rw [hline]
    exact happend hpiece (ih hrest)

/-- A line of markup with a place for classes. -/
@[simp] theorem line_classes (t : Theme) (blanks front back : String) (token : ClassToken) :
    t.line [.text blanks, .text front, .classes token, .text back]
      = blanks ++ front ++ t.classAttribute token ++ back := by
  simp [Theme.line, Theme.piece, String.join]

@[simp]
theorem map_line_plain (t : Theme) (lines : List String) : (plain lines).map t.line = lines := by
  rw [plain, List.map_map]
  exact (List.map_congr_left fun s _ => line_text t s).trans (List.map_id lines)

/-- The parts of the script that a view has in common with no other file. -/
def scriptParts (spec : Spec) : List (List String) :=
  [stateLines spec, openingLines spec, submitLines spec, editLines spec, deleteLines spec.names,
    toggleLines spec.names, columnLines spec]

/-- A view has the lines of each part of its script. -/
theorem infix_of_mem_scriptParts (t : Theme) {spec : Spec} (part : List String)
    (h : part ∈ scriptParts spec) {lines : List String} (hlines : lines <:+: part) :
    lines <:+: (componentLines spec).map t.line := by
  have hscript : part <:+: (scriptLines spec).map t.line := by
    unfold scriptLines
    rw [List.map_append, List.map_append, map_line_plain]
    apply List.IsInfix.trans _ (List.infix_append _ _ _)
    exact (infix_intercalate h).trans (List.suffix_append _ _).isInfix
  unfold componentLines
  rw [List.map_append, List.map_append]
  exact hlines.trans (hscript.trans (List.infix_append _ _ _))

/-- A view has the lines of its modal window. -/
theorem infix_modalLines (t : Theme) (spec : Spec) :
    (modalLines spec).map t.line <:+: (componentLines spec).map t.line := by
  have htemplate : modalLines spec <:+: templateLines spec := by
    unfold templateLines
    simp only [List.append_assoc]
    apply List.IsInfix.trans _ (List.suffix_append _ _).isInfix
    apply List.IsInfix.trans _ (List.suffix_append _ _).isInfix
    apply List.IsInfix.trans _ (List.suffix_append _ _).isInfix
    exact (List.prefix_append _ _).isInfix
  have hcomponent : templateLines spec <:+: componentLines spec := by
    unfold componentLines
    rw [List.append_assoc, List.append_assoc]
    exact (List.prefix_append _ _).isInfix
  exact (htemplate.trans hcomponent).map t.line

/-! ### Controls -/

/-- What a piece of text binds, its line binds too. -/
theorem Binds.line {form key text : String} (h : Binds form key text) (t : Theme)
    (front back : Line) : Binds form key (t.line (front ++ [.text text] ++ back)) := by
  obtain ⟨before, modifier, after, hmodifier, rfl⟩ := h
  refine ⟨t.line front ++ before, modifier, after ++ t.line back, hmodifier, ?_⟩
  rw [line_append, line_append, line_text]
  simp only [String.append_assoc]

/-- The line of a control that opens its element. -/
def tagLine (model : String) (node : FormNode) : Line :=
  match node.input with
  | .checkbox => ["    <input type=\"checkbox\"", .classes .checkboxInput,
      " v-model=\"" ++ model ++ "\" id=\"" ++ node.key ++ "\">"]
  | .reference _ multiple => ["  <select", .classes .select, " id=\"" ++ node.key ++ "\" v-model=\""
      ++ model ++ "\"" ++ (if multiple then " multiple" else "") ++ requiredAttribute node ++ ">"]
  | .select _ => ["  <select", .classes .select, " id=\"" ++ node.key ++ "\" v-model=\"" ++ model
      ++ "\"" ++ requiredAttribute node ++ ">"]
  | .textarea => textareaLine model node
  | .number => inputLine "number" ".number" model node
  | .text => inputLine "text" "" model node

/-- What stands above that line. -/
def linesAboveTag (node : FormNode) : List Line :=
  match node.input with
  | .checkbox => [["  <div", .classes .checkbox, ">"]]
  | _ => [labelLine node]

/-- What stands below it. -/
def linesBelowTag (node : FormNode) : List Line :=
  match node.input with
  | .checkbox => [["    <label", .classes .checkboxLabel, " for=\"" ++ node.key ++ "\">"
      ++ contentText node.label ++ "</label>"], ["  </div>"]]
  | .reference related multiple =>
    (if multiple then []
      else plain ["    <option :value=\"undefined\">Select " ++ contentText node.label
        ++ "</option>"])
      ++ [entityOptions related, ["  </select>"]]
      ++ (if multiple then
        markup [["  <small", .classes .helpText, ">Hold Ctrl/Cmd to select multiple items</small>"]]
        else [])
  | .select options => options.map optionLine ++ plain ["  </select>"]
  | _ => []

/-- A control has one line that opens its element. -/
theorem controlLines_eq (model : String) (node : FormNode) :
    controlLines model node = linesAboveTag node ++ [tagLine model node] ++ linesBelowTag node := by
  unfold controlLines linesAboveTag tagLine linesBelowTag
  cases node.input with
  | reference related multiple => cases multiple <;> rfl
  | _ => rfl

/-- That line has a piece of text that binds the control. -/
theorem exists_binds_of_tagLine (form key : String) (node : FormNode) :
    ∃ front text back, tagLine (form ++ "." ++ key) node = front ++ [.text text] ++ back
      ∧ Binds form key text := by
  unfold tagLine
  cases node.input with
  | text =>
    refine ⟨["  <input type=\"text\"", .classes .input], _, [], rfl,
      " id=\"" ++ node.key ++ "\"", "", " placeholder=\"" ++ attributeText node.placeholder ++ "\""
        ++ requiredAttribute node ++ ">", List.mem_cons_self, ?_⟩
    simp [← String.toList_inj]
  | number =>
    refine ⟨["  <input type=\"number\"", .classes .input], _, [], rfl,
      " id=\"" ++ node.key ++ "\"", ".number", " placeholder=\"" ++ attributeText node.placeholder
        ++ "\"" ++ requiredAttribute node ++ ">", by decide, ?_⟩
    simp [← String.toList_inj]
  | textarea =>
    refine ⟨["  <textarea", .classes .textarea], _, [], rfl,
      " id=\"" ++ node.key ++ "\"", "", " placeholder=\"" ++ attributeText node.placeholder ++ "\""
        ++ requiredAttribute node ++ "></textarea>", List.mem_cons_self, ?_⟩
    simp [← String.toList_inj]
  | checkbox =>
    refine ⟨["    <input type=\"checkbox\"", .classes .checkboxInput], _, [], rfl,
      "", "", " id=\"" ++ node.key ++ "\">", List.mem_cons_self, ?_⟩
    simp [← String.toList_inj]
  | select options =>
    refine ⟨["  <select", .classes .select], _, [], rfl,
      " id=\"" ++ node.key ++ "\"", "", requiredAttribute node ++ ">", List.mem_cons_self, ?_⟩
    simp [← String.toList_inj]
  | reference related multiple =>
    refine ⟨["  <select", .classes .select], _, [], rfl,
      " id=\"" ++ node.key ++ "\"", "",
      (if multiple then " multiple" else "") ++ requiredAttribute node ++ ">",
      List.mem_cons_self, ?_⟩
    simp [← String.toList_inj]

/-- The lines of a control. -/
def nodeBlock (t : Theme) (n : Names) (node : FormNode) : List String :=
  (indented "              " (formNodeLines n node)).map t.line

/-- The lines of a control in a view. -/
def controlBlock (t : Theme) (n : Names) (m : FieldMapping) : List String :=
  (indented "              " (formNodeLines n (.ofMapping m))).map t.line

/-- The line that opens the element of a control in a view. -/
def controlOpening (t : Theme) (n : Names) (m : FieldMapping) : String :=
  t.line (.text "              " :: tagLine (formConst n ++ "." ++ m.key) (.ofMapping m))

theorem binds_controlOpening (t : Theme) (n : Names) (m : FieldMapping) :
    Binds (formConst n) m.key (controlOpening t n m) := by
  obtain ⟨front, text, back, htag, hbinds⟩ :=
    exists_binds_of_tagLine (formConst n) m.key (.ofMapping m)
  rw [controlOpening, htag]
  exact hbinds.line t (.text "              " :: front) back

/-- The lines of a control have one that binds it. -/
theorem exists_binds_of_controlBlock (t : Theme) (n : Names) (m : FieldMapping) :
    ∃ line ∈ controlBlock t n m, Binds (formConst n) m.key line := by
  refine ⟨controlOpening t n m, List.mem_map_of_mem (List.mem_map_of_mem ?_),
    binds_controlOpening t n m⟩
  rw [formNodeLines, controlLines_eq]
  apply List.mem_append_left _ (List.mem_append_right _ _)
  exact List.mem_append_left _ (List.mem_append_right _ (List.mem_singleton.mpr rfl))

/-- The form is made of its controls, with blank lines between them. -/
theorem map_line_form (t : Theme) (spec : Spec) : (formLines spec).map t.line
    = [""].intercalate (spec.form.map (nodeBlock t spec.names)) := by
  rw [formLines, map_intercalate, List.map_map]
  show [t.line [.text ""]].intercalate _ = _
  rw [line_text]
  rfl

/-- In the view of an entity, these are the controls of what is edited. -/
theorem map_line_formLines (t : Theme) (e : Entity) :
    (formLines (.ofEntity e)).map t.line = [""].intercalate
      ((e.presented.filter FieldMapping.inPayload).map (controlBlock t e.names)) := by
  have hform : (Spec.ofEntity e).form
      = (e.presented.filter FieldMapping.inPayload).map .ofMapping := rfl
  rw [map_line_form, hform, List.map_map]
  rfl

/-! ### Columns -/

/-- What a column says beside its key, in the order of its lines. -/
def columnMembers (c : Column) : List String :=
  ["title: " ++ literal c.title, "type: '" ++ c.type ++ "'"]
    ++ (match c.referenceName with
      | some name => if name.isEmpty then [] else ["referenceName: '" ++ name ++ "'"]
      | none => [])

theorem unbroken_of_mem_columnMembers {field : FieldSpec} {member : String}
    (h : member ∈ columnMembers (.ofMapping field.mapping)) : Unbroken member := by
  have htype : Unbroken field.mapping.columnType :=
    field.columnType_mapping ▸ field.unbroken_columnType
  simp only [columnMembers, Column.ofMapping, List.mem_append, List.mem_cons, List.not_mem_nil,
    or_false] at h
  rcases h with (rfl | rfl) | h
  · exact (by decide : Unbroken "title: ").append (unbroken_literal _)
  · exact ((by decide : Unbroken "type: '").append htype).append (by decide)
  · split at h
    next name hname =>
      split at hname
      · cases hname
        rw [if_neg (by decide)] at h
        rw [List.mem_singleton.mp h]
        decide
      · cases hname
    next => cases h

/-- The block of a column describes the column of its key. -/
theorem isColumn_columnBlock (field : FieldSpec) {last : String}
    (hlast : IsEntry (columnBlock (.ofMapping field.mapping)).2 last) :
    IsColumn field.mapping.key ((columnBlock (.ofMapping field.mapping)).1 ++ [last]) := by
  refine ⟨objectBody "    " (columnMembers (.ofMapping field.mapping)), last, ?_, hlast, ?_⟩
  · intro line hline
    obtain ⟨entry, hentry, hline⟩ := mem_commaSeparated hline
    obtain ⟨member, hmember, rfl⟩ := List.mem_map.mp hentry
    have hinner : IsInner "    " ("    " ++ member) :=
      IsInner.append ⟨by decide, by decide⟩ (unbroken_of_mem_columnMembers hmember)
    rcases hline with rfl | rfl
    · exact hinner
    · exact hinner.append (by decide)
  · have hdata : "    data: '" ++ field.mapping.key ++ "',"
        = "    " ++ ("data: '" ++ field.mapping.key ++ "'") ++ "," := by
      simp [← String.toList_inj]
    rw [hdata]
    rfl

/-- The table of an entity has the block of a column for each of its presented mappings. -/
theorem exists_columnBlocks (e : Entity) :
    ∃ blocks, List.Forall₂ (fun m block => ∃ last, IsEntry (columnBlock (.ofMapping m)).2 last
        ∧ block = (columnBlock (.ofMapping m)).1 ++ [last]) e.presented blocks
      ∧ columnLines (.ofEntity e)
        = ["const columns = ref<TableColumn[]>(["] ++ blocks.flatten ++ ["])"] := by
  obtain ⟨blocks, heq, hblocks⟩ := exists_commaSeparatedBlocks
    (e.presented.map fun m => columnBlock (.ofMapping m))
  refine ⟨blocks, List.forall₂_map_left_iff.mp hblocks, ?_⟩
  rw [← heq, columnLines]
  show _ ++ commaSeparatedBlocks (List.map _ (List.map _ _)) ++ _ = _
  rw [List.map_map]
  rfl

/-! ### Where parts of a view are -/

/-- A view has its table. -/
theorem hasLines_columns (t : Theme) {spec : Spec} {lines : List String}
    (h : columnLines spec = lines) : HasLines (artifact t spec).content lines :=
  hasLines_joinLines
    (infix_of_mem_scriptParts t lines (by simp [scriptParts, h]) (List.infix_refl _))

/-- A view has its form. -/
theorem hasLines_form (t : Theme) (spec : Spec) :
    HasLines (artifact t spec).content (["            <form" ++ t.classAttribute .form
      ++ " @submit.prevent=\"handleSubmit\">"] ++ (formLines spec).map t.line
      ++ ["            </form>"]) := by
  apply hasLines_joinLines
  apply List.IsInfix.trans _ (infix_modalLines t _)
  have hopening : "            <form" ++ t.classAttribute .form
      ++ " @submit.prevent=\"handleSubmit\">"
      = t.line ["            <form", ClassToken.form, " @submit.prevent=\"handleSubmit\">"] := by
    simp [Theme.line, Theme.piece, String.join]
  have hclosing : "            </form>" = t.line ["            </form>"] := (line_text t _).symm
  rw [hopening, hclosing, modalLines, List.map_append, List.map_append, List.append_assoc,
    List.append_assoc]
  exact infix_around _ (List.suffix_iff_eq_append.mpr rfl) ⟨_, rfl⟩

/-- A view has what its form starts with. -/
theorem hasLines_defaults (t : Theme) (spec : Spec) :
    HasLines (artifact t spec).content (["const " ++ spec.names.name ++ "Form = ref<Create"
      ++ spec.names.capitalized ++ "Dto & Update" ++ spec.names.capitalized ++ "Dto>(\x7b"]
      ++ objectBody "  " (defaultMembers spec) ++ ["\x7d)"]) := by
  apply hasLines_joinLines
  have hheader : "const " ++ spec.names.name ++ "Form = ref<Create" ++ spec.names.capitalized
      ++ "Dto & Update" ++ spec.names.capitalized ++ "Dto>(\x7b"
      = "const " ++ formConst spec.names ++ " = ref<" ++ Client.createType spec.names ++ " & "
        ++ Client.updateType spec.names ++ ">(\x7b" := by
    simp [formConst, Client.createType, Client.updateType, ← String.toList_inj]
  apply infix_of_mem_scriptParts t (stateLines spec) (by simp [scriptParts])
  rw [hheader, stateLines]
  simp only [List.append_assoc]
  apply List.IsInfix.trans _ (List.suffix_append _ _).isInfix
  apply List.IsInfix.trans _ (List.suffix_append _ _).isInfix
  exact infix_around _ (List.suffix_iff_eq_append.mpr rfl) ⟨_, rfl⟩

/-- A view has what its form is given when it is made new. -/
theorem hasLines_reset (t : Theme) (spec : Spec) :
    HasLines (artifact t spec).content (["const resetForm = () => \x7b",
      "  " ++ spec.names.name ++ "Form.value = \x7b"]
      ++ objectBody "    " (defaultMembers spec) ++ ["  \x7d"]) := by
  apply hasLines_joinLines
  have hheader : "  " ++ spec.names.name ++ "Form.value = \x7b"
      = "  " ++ formConst spec.names ++ ".value = \x7b" := by
    simp [formConst, ← String.toList_inj]
  apply infix_of_mem_scriptParts t (stateLines spec) (by simp [scriptParts])
  rw [hheader, stateLines]
  simp only [List.append_assoc]
  -- the second object of the state is that of the function which makes the form new
  apply List.IsInfix.trans _ (List.suffix_append _ _).isInfix
  apply List.IsInfix.trans _ (List.suffix_append _ _).isInfix
  apply List.IsInfix.trans _ (List.suffix_append _ _).isInfix
  apply List.IsInfix.trans _ (List.suffix_append _ _).isInfix
  exact infix_around _ (List.suffix_iff_eq_append.mpr rfl) ⟨_, rfl⟩

/-! ### The view -/

/-- The members of a new form, indented. -/
theorem map_defaultMembers (blanks : String) (e : Entity) :
    (defaultMembers (.ofEntity e)).map (blanks ++ ·)
      = e.payload.map fun m => blanks ++ (m.key ++ ": " ++ m.defaultLiteral) := by
  show ((e.payload.map fun m => (m.key, m.defaultLiteral)).map _).map _ = _
  rw [List.map_map, List.map_map]
  rfl

section

variable {d : Document} {fields : List FieldSpec} (hd : d.WellFormed)
  (hfields : List.Forall₂ (Entity.Reads d) d.schema.entries fields)

include hfields

/-- The entries of an object that gives each edited key its default. -/
theorem isGiven_defaults (blanks : String) :
    List.Forall₂ (IsGiven blanks) d.editedKeys
      (objectBody blanks (defaultMembers (.ofEntity (Entity.ofFields d fields)))) := by
  rw [objectBody, map_defaultMembers, ← Entity.map_key_payload hfields]
  refine forall₂_map_key_of (forall₂_commaSeparated _) fun m hm line hline => ?_
  obtain ⟨field, -, rfl⟩ := List.mem_map.mp (List.mem_filter.mp hm).1
  refine ⟨_, field.unbroken_defaultLiteral, ?_⟩
  simpa only [String.append_assoc] using hline

/-- The entries of an object that sends what the form has under each edited key. -/
theorem isSent_payload (blanks : String) :
    List.Forall₂ (IsSent blanks (d.name ++ "Form")) d.editedKeys
      (objectBody blanks (payloadMembers (.ofEntity (Entity.ofFields d fields)))) := by
  have hmembers : (payloadMembers (.ofEntity (Entity.ofFields d fields))).map (blanks ++ ·)
      = (Entity.ofFields d fields).payload.map
        fun m => blanks ++ (m.key ++ ": " ++ (d.name ++ "Form") ++ ".value." ++ m.key) := by
    show (((Entity.ofFields d fields).payload.map (·.key)).map _).map _ = _
    rw [List.map_map, List.map_map]
    rfl
  rw [objectBody, hmembers, ← Entity.map_key_payload hfields]
  refine forall₂_map_key_of (forall₂_commaSeparated _) fun m hm line hline => ?_
  unfold IsSent
  simpa only [String.append_assoc] using hline

/-- Without a theme, a view has these keys in its form, in its table and in what is sent. -/
theorem keys_ofEntity (hd : d.WellFormed) :
    (Spec.ofEntity (Entity.ofFields d fields)).form.map (·.key) = d.formKeys
      ∧ (Spec.ofEntity (Entity.ofFields d fields)).columns.map (·.key) = d.ui.keys
      ∧ (Spec.ofEntity (Entity.ofFields d fields)).payloadKeys = d.editedKeys := by
  refine ⟨?_, ?_, ?_⟩
  · rw [← Entity.map_key_form hfields hd, Spec.ofEntity, List.map_map]
    rfl
  · rw [← (Entity.presented_eq hfields hd).2, Spec.ofEntity, List.map_map]
    rfl
  · exact Entity.map_key_payload hfields

/-- The table has a column for each presented key. -/
theorem exists_columns (hd : d.WellFormed) :
    ∃ blocks, List.Forall₂ IsColumn d.ui.keys blocks
      ∧ columnLines (.ofEntity (Entity.ofFields d fields))
        = ["const columns = ref<TableColumn[]>(["] ++ blocks.flatten ++ ["])"] := by
  obtain ⟨hmem, hkeys⟩ := Entity.presented_eq hfields hd
  obtain ⟨blocks, hblocks, heq⟩ := exists_columnBlocks (Entity.ofFields d fields)
  refine ⟨blocks, ?_, heq⟩
  rw [← hkeys, List.forall₂_map_left_iff]
  refine forall₂_imp_of_mem hblocks fun m hm block hblock => ?_
  obtain ⟨field, -, rfl⟩ := List.mem_map.mp (hmem m hm)
  obtain ⟨last, hlast, rfl⟩ := hblock
  exact isColumn_columnBlock field hlast

/-- Views show what the fields and their presentations say. -/
theorem viewShows (hd : d.WellFormed) (t : Theme) :
    ViewShows d.names d.editedKeys d.formKeys d.ui.keys
      (artifact t (.ofEntity (Entity.ofFields d fields))).content where
  controls := by
    refine ⟨t.classAttribute .form, _, ?_, map_line_formLines t _ ▸ hasLines_form t _⟩
    rw [← Entity.map_key_form hfields hd]
    exact forall₂_map_key fun m _ => exists_binds_of_controlBlock t d.names m
  columns := by
    obtain ⟨blocks, hblocks, heq⟩ := exists_columns hfields hd
    exact ⟨blocks, hblocks, hasLines_columns t heq⟩
  defaults := ⟨_, isGiven_defaults hfields "  ", hasLines_defaults t _⟩
  reset := ⟨_, isGiven_defaults hfields "    ", hasLines_reset t _⟩
  -- both payloads stand in the lines that submit the form, one behind the other
  updated := by
    refine ⟨_, isSent_payload hfields "        ", hasLines_joinLines ?_⟩
    have hheader : "      const updateData: Update" ++ d.names.capitalized ++ "Dto = \x7b"
        = "      const updateData: " ++ Client.updateType d.names ++ " = \x7b" := by
      simp [Client.updateType, ← String.toList_inj]
    apply infix_of_mem_scriptParts t (submitLines (.ofEntity (Entity.ofFields d fields)))
      (by simp [scriptParts])
    rw [hheader, submitLines]
    simp only [List.append_assoc]
    exact infix_around _ (List.suffix_iff_eq_append.mpr rfl) ⟨_, rfl⟩
  created := by
    refine ⟨_, isSent_payload hfields "        ", hasLines_joinLines ?_⟩
    have hheader : "      const createData: Create" ++ d.names.capitalized ++ "Dto = \x7b"
        = "      const createData: " ++ Client.createType d.names ++ " = \x7b" := by
      simp [Client.createType, ← String.toList_inj]
    apply infix_of_mem_scriptParts t (submitLines (.ofEntity (Entity.ofFields d fields)))
      (by simp [scriptParts])
    rw [hheader, submitLines]
    simp only [List.append_assoc]
    apply List.IsInfix.trans _ (List.suffix_append _ _).isInfix
    apply List.IsInfix.trans _ (List.suffix_append _ _).isInfix
    exact infix_around _ (List.suffix_iff_eq_append.mpr rfl) ⟨_, rfl⟩

end

end Scaffold.View
