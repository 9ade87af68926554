import Mathlib.Data.List.Find
import Scaffold.Proofs.View.Controls

/-!
# Coherent mappings

The parts of a mapping are computed one by one, from the type of a field, from its key and from the
widget that its presentation asks for, which may be any text. They go together all the same
(`FieldMapping.Coherent`): templates may ask any of the parts what kind of a field there is. So the
control of a relationship is never an input, and the database schema refers to one model for a
relationship and to none for any other field, whatever the keys are.
-/

namespace Scaffold

open Text

def FieldType.IsRelationship (type : FieldType) : Prop :=
  ∃ entity cardinality, type = .relationship entity cardinality

def FieldType.IsEnum (type : FieldType) : Prop := ∃ options, type = .enum options

/-- Whether values of a type refer to several entities. -/
def FieldType.IsMany (type : FieldType) : Prop := ∃ entity, type = .relationship entity .array

/-- The controls of scalar fields. -/
def scalarControls : List Control := [.checkbox, .textarea, .number, .text]

/-- All parts of a mapping say the same of the type of its field. -/
structure FieldMapping.Coherent (m : FieldMapping) : Prop where
  related : m.type.IsRelationship ↔ m.related.isSome = true
  storedRef : m.type.IsRelationship ↔ m.storedRef.isSome = true
  named : ∀ model, m.storedRef = some model → model ≠ ""
  relationship : m.type.IsRelationship ↔ m.control = .relationship
  columnType : m.type.IsRelationship ↔ m.columnType = "relationship"
  array : m.isArray = true → m.related.isSome = true
  apiType : m.isArray = true ↔ m.apiType = "array"
  emptyList : m.isArray = true ↔ m.defaultLiteral = "[]"
  enumValues : m.type.IsEnum ↔ m.enumValues ≠ []
  select : m.type.IsEnum ↔ m.control = .select
  /-- A new form starts with the first option of an enumeration. -/
  firstOption : m.type.IsEnum → ∃ option, m.enumValues.head? = some option
    ∧ m.defaultLiteral = literal option
  scalar : ¬ m.type.IsRelationship → ¬ m.type.IsEnum → m.control ∈ scalarControls

theorem FieldType.isRelationship_iff {type : FieldType} :
    type.IsRelationship ↔ type.target?.isSome = true := by
  cases type <;> simp [IsRelationship, target?]

namespace FieldSpec

variable {s : FieldSpec}

/-! ### What the type of a field decides -/

/-- Whatever widget is asked for, the control of a scalar is one of these. -/
theorem scalarControl_mem (widget : String) (kind : PrimitiveKind) :
    scalarControl widget kind ∈ scalarControls := by
  unfold scalarControl
  split_ifs <;> decide

theorem scalarControl_ne (widget : String) (kind : PrimitiveKind) :
    scalarControl widget kind ≠ .relationship ∧ scalarControl widget kind ≠ .select := by
  have hall : ∀ control ∈ scalarControls, control ≠ .relationship ∧ control ≠ .select := by decide
  exact hall _ (scalarControl_mem widget kind)

@[simp]
theorem control_eq_relationship_iff : s.control = .relationship ↔ s.type.IsRelationship := by
  unfold control FieldType.IsRelationship
  cases s.type <;> simp [(scalarControl_ne _ _).1]

@[simp] theorem control_eq_select_iff : s.control = .select ↔ s.type.IsEnum := by
  unfold control FieldType.IsEnum
  cases s.type <;> simp [(scalarControl_ne _ _).2]

/-- No widget has the column of a relationship. -/
theorem columnType_eq_relationship_iff :
    s.columnType = "relationship" ↔ s.type.IsRelationship := by
  have hwords : "relationship" ∉ "string" :: typedColumns := by decide
  have hother : (if typedColumns.contains s.widget then s.widget else "string")
      ≠ "relationship" := by
    split
    next hwidget =>
      intro heq
      exact hwords (List.mem_cons_of_mem _ (heq ▸ List.contains_iff_mem.mp hwidget))
    next => decide
  unfold columnType
  rw [FieldType.isRelationship_iff]
  cases s.type with
  | relationship => simp [FieldType.target?]
  | _ => exact iff_of_false hother (by simp [FieldType.target?])

/-- A literal begins with a quotation mark. -/
theorem literal_ne_emptyList (option : String) : literal option ≠ "[]" := by
  intro heq
  simpa [literal] using congrArg (·.toList.head?) heq

/-- Only relationships to several entities are lists, -/
theorem isArray_mapping_iff : s.mapping.isArray = true ↔ s.type.IsMany := by
  unfold FieldType.IsMany
  rcases s.mapping_cases with ⟨entity, cardinality, htype, hm⟩ | ⟨options, htype, hm⟩
    | ⟨kind, htype, hm | hm⟩ <;> rw [hm, htype]
  · cases cardinality <;> simp [relationshipMapping]
  · simp [enumMapping]
  · simp [timestampMapping]
  · simp [scalarMapping]

/-- only they are arrays in the API document, -/
theorem apiType_mapping_eq_array_iff : s.mapping.apiType = "array" ↔ s.type.IsMany := by
  unfold FieldType.IsMany
  rcases s.mapping_cases with ⟨entity, cardinality, htype, hm⟩ | ⟨options, htype, hm⟩
    | ⟨kind, htype, hm | hm⟩ <;> rw [hm, htype]
  · cases cardinality <;> simp [relationshipMapping]
  · simp [enumMapping]
  · simp [timestampMapping]
  · cases kind <;> simp [scalarMapping, PrimitiveKind.word]

/-- and only they are empty at the beginning. -/
theorem defaultLiteral_mapping_eq_emptyList_iff :
    s.mapping.defaultLiteral = "[]" ↔ s.type.IsMany := by
  unfold FieldType.IsMany
  rcases s.mapping_cases with ⟨entity, cardinality, htype, hm⟩ | ⟨options, htype, hm⟩
    | ⟨kind, htype, hm | hm⟩ <;> rw [hm, htype]
  · cases cardinality <;> simp [relationshipMapping]
  · simp [enumMapping, literal_ne_emptyList]
  · simp [timestampMapping]
  · cases kind <;> simp [scalarMapping, emptyLiteral]

theorem enumValues_mapping : s.mapping.enumValues
    = match s.type with
      | .enum options => options.toList
      | _ => [] := by
  rcases s.mapping_cases with ⟨entity, cardinality, htype, hm⟩ | ⟨options, htype, hm⟩
    | ⟨kind, htype, hm | hm⟩ <;> rw [hm, htype] <;> rfl

theorem coherent_mapping (hnamed : ∀ target, s.type.target? = some target → target ≠ "") :
    s.mapping.Coherent where
  related := by
    rw [type_mapping, FieldType.isRelationship_iff, related_mapping, Option.isSome_map]
  storedRef := by rw [type_mapping, FieldType.isRelationship_iff, storedRef_mapping]
  named := by
    intro model hmodel
    rw [storedRef_mapping] at hmodel
    exact hnamed model hmodel
  relationship := by rw [type_mapping, control_mapping, control_eq_relationship_iff]
  columnType := by rw [type_mapping, columnType_mapping, columnType_eq_relationship_iff]
  array := by
    rw [isArray_mapping_iff, related_mapping, Option.isSome_map]
    rintro ⟨entity, htype⟩
    rw [htype]
    rfl
  apiType := by rw [isArray_mapping_iff, apiType_mapping_eq_array_iff]
  emptyList := by rw [isArray_mapping_iff, defaultLiteral_mapping_eq_emptyList_iff]
  enumValues := by
    rw [type_mapping, enumValues_mapping, FieldType.IsEnum]
    cases s.type <;> simp [Options.toList]
  select := by rw [type_mapping, control_mapping, control_eq_select_iff]
  firstOption := by
    rw [type_mapping]
    rintro ⟨options, htype⟩
    rw [mapping_of_enum htype]
    exact ⟨options.first, rfl, rfl⟩
  -- what is no relationship and no choice has the control of its kind
  scalar := by
    rw [type_mapping, control_mapping]
    intro hrelationship henum
    unfold control
    cases htype : s.type with
    | relationship entity cardinality => exact absurd ⟨entity, cardinality, htype⟩ hrelationship
    | enum options => exact absurd ⟨options, htype⟩ henum
    | primitive kind => exact scalarControl_mem s.widget kind

end FieldSpec

/-! ### Elements of controls -/

namespace View

/-- How a line begins behind its blanks, if it opens an element to edit with. -/
def editStart? (line : String) : Option (List Char) :=
  controlStarts.find? fun start => decide (start <+: line.toList.dropWhile (· == ' '))

/-- Whether it can be seen from the beginning of a line if that opens such an element. -/
def isSettled (s : String) : Bool :=
  controlStarts.all fun start =>
    start.isPrefixOf (s.toList.dropWhile (· == ' '))
      || differs start (s.toList.dropWhile (· == ' '))

/-- Such a line opens what its beginning opens. -/
theorem editStart?_of_begins {line : String} (front : String) (h : isSettled front = true)
    (hline : front.toList <+: line.toList) : editStart? line = editStart? front := by
  obtain ⟨rest, hrest⟩ := hline
  have hword : front.toList.dropWhile (· == ' ') ≠ [] := by
    intro hnil
    rw [isSettled, hnil] at h
    revert h
    decide
  have hdrop : line.toList.dropWhile (· == ' ') = front.toList.dropWhile (· == ' ') ++ rest := by
    rw [← hrest, List.dropWhile_append, if_neg (by simpa using hword)]
  unfold editStart?
  refine List.find?_congr fun start hstart => ?_
  rw [hdrop]
  rcases Bool.or_eq_true_iff.mp (List.all_eq_true.mp h start hstart) with hbegins | hdiffers
  · have hbegins := List.isPrefixOf_iff_prefix.mp hbegins
    rw [decide_eq_true hbegins, decide_eq_true (hbegins.trans (List.prefix_append _ _))]
  · rw [decide_eq_false (not_prefix_of_differs hdiffers).1,
      decide_eq_false (not_prefix_of_begins hdiffers (List.prefix_append _ _))]

theorem editStart?_line (t : Theme) (front : String) (h : isSettled front = true) {s : String}
    (hs : front.toList <+: s.toList) (rest : Line) :
    editStart? (t.line (.text s :: rest)) = editStart? front := by
  have hline : t.line (.text s :: rest) = s ++ t.line rest := by
    simp [Theme.line, Theme.piece, String.join_cons]
  apply editStart?_of_begins front h
  rw [hline, String.toList_append]
  exact hs.trans (List.prefix_append _ _)

section

variable (t : Theme) (node : FormNode)

/-- The line of a control that opens its element is found, -/
theorem editStart?_tagLine (model : String) :
    editStart? (t.line (tagLine model node)) = some ('<' :: (elementName node.input).toList) := by
  have hselect : ∀ rest : Line,
      editStart? (t.line ("  <select" :: rest)) = some ('<' :: "select".toList) :=
    fun rest => editStart?_line t "  <select" (by decide) List.prefix_rfl rest
  unfold tagLine elementName
  cases node.input with
  | checkbox => exact editStart?_line t "    <input" (by decide) (by decide) _
  | text => exact editStart?_line t "  <input" (by decide) (by simp) _
  | number => exact editStart?_line t "  <input" (by decide) (by simp) _
  | textarea => exact editStart?_line t "  <textarea" (by decide) (by decide) _
  | select => exact hselect _
  | reference => exact hselect _

/-- and no other one. -/
theorem editStart?_above : ∀ line ∈ linesAboveTag node, editStart? (t.line line) = none := by
  have hlabel : editStart? (t.line (labelLine node)) = none :=
    editStart?_line t "  <label" (by decide) (by decide) _
  unfold linesAboveTag
  cases node.input with
  | checkbox =>
    exact List.forall_mem_singleton.mpr (editStart?_line t "  <div" (by decide) (by decide) _)
  | _ => exact List.forall_mem_singleton.mpr hlabel

theorem editStart?_below : ∀ line ∈ linesBelowTag node, editStart? (t.line line) = none := by
  have hclosing : editStart? (t.line ["  </select>"]) = none :=
    editStart?_line t "  </select" (by decide) (by decide) _
  unfold linesBelowTag
  cases node.input with
  | checkbox =>
    exact List.forall_mem_cons.mpr ⟨editStart?_line t "    <label" (by decide) (by decide) _,
      List.forall_mem_singleton.mpr (editStart?_line t "  </div" (by decide) (by decide) _)⟩
  | select options =>
    have hoption : ∀ option, editStart? (t.line (optionLine option)) = none := fun option =>
      editStart?_line t "    <option" (by decide) (by simp) _
    exact List.forall_mem_append.mpr ⟨List.forall_mem_map.mpr fun option _ => hoption option,
      List.forall_mem_singleton.mpr hclosing⟩
  | reference related multiple =>
    have hnone : editStart? (t.line ["    <option :value=\"undefined\">Select "
        ++ contentText node.label ++ "</option>"]) = none :=
      editStart?_line t "    <option" (by decide) (by simp) _
    have hentities : editStart? (t.line (entityOptions related)) = none :=
      editStart?_line t "    <option" (by decide) (by simp) _
    have hhelp : editStart? (t.line ["  <small", .classes .helpText,
        ">Hold Ctrl/Cmd to select multiple items</small>"]) = none :=
      editStart?_line t "  <small" (by decide) (by decide) _
    rw [line_text] at hnone hclosing
    cases multiple <;> simp [plain, hnone, hentities, hclosing, hhelp]
  | _ => exact List.forall_mem_nil _

/-- A control has one line that opens an element to edit with. -/
theorem filterMap_editStart? (n : Names) :
    ((formNodeLines n node).map t.line).filterMap editStart?
      = ['<' :: (elementName node.input).toList] := by
  have hnothing : ∀ {lines : List Line}, (∀ line ∈ lines, editStart? (t.line line) = none) →
      (lines.map t.line).filterMap editStart? = [] := fun h =>
    List.filterMap_eq_nil_iff.mpr (List.forall_mem_map.mpr h)
  have hfield : editStart? (t.line ["<div", .classes .field, ">"]) = none :=
    editStart?_line t "<div" (by decide) List.prefix_rfl _
  have hclosing : editStart? (t.line ["</div>"]) = none :=
    editStart?_line t "</div" (by decide) (by decide) _
  rw [formNodeLines, controlLines_eq]
  simp only [plain, List.map_append, List.map_cons, List.map_nil, List.filterMap_append,
    List.filterMap_cons, List.filterMap_nil, hfield, hclosing, editStart?_tagLine,
    hnothing (editStart?_above t node), hnothing (editStart?_below t node), List.nil_append,
    List.append_nil]

end

end View

/-! ### References of schema blocks -/

namespace Server

/-- The model that a line of a schema block refers to. -/
def refersTo? (line : String) : Option String :=
  (between? "    ref: '" "'," line).or
    (between? "    type: [\x7b type: Schema.Types.ObjectId, ref: '" "' \x7d]," line)

/-- A line that ends in another way refers to nothing, -/
theorem refersTo?_of_ends {line : String} {c : Char} (hline : line.toList.getLast? = some c)
    (hc : c ≠ ',') : refersTo? line = none := by
  have hback : ∀ back : String, back.toList.getLast? = some ',' →
      ¬ back.toList <:+ line.toList := by
    rintro back hlast ⟨front, hfront⟩
    rw [← hfront, List.getLast?_append, hlast] at hline
    exact hc (Option.some.inj hline).symm
  rw [refersTo?, between?_of_not_suffix (hback _ (by decide)),
    between?_of_not_suffix (hback _ (by decide))]
  rfl

/-- and neither does one that begins in another way. -/
theorem refersTo?_of_begins {line : String} (front : List Char) (hfront : front <+: line.toList)
    (hone : differs "    ref: '".toList front = true)
    (hmany : differs "    type: [\x7b type: Schema.Types.ObjectId, ref: '".toList front = true) :
    refersTo? line = none := by
  rw [refersTo?, between?_of_not_prefix (not_prefix_of_begins hone hfront),
    between?_of_not_prefix (not_prefix_of_begins hmany hfront)]
  rfl

section

variable {s : FieldSpec}

theorem filterMap_refersTo?_storedLines
    (hnamed : ∀ target, s.type.target? = some target → target ≠ "") :
    (storedLines s.mapping).filterMap refersTo? = s.type.target?.toList := by
  have htypes : ∀ t ∈ FieldSpec.storedTypes, refersTo? ("    type: " ++ t ++ ",") = none := by
    decide
  have htype := htypes _ s.storedType_mapping
  rw [storedLines_mapping]
  cases htarget : s.type.target? with
  | none => simp [htype]
  | some target =>
    have hname : target.isEmpty = false := by simpa using hnamed target htarget
    have hone : refersTo? ("    ref: '" ++ target ++ "',") = some target := by
      rw [refersTo?, between?_append]
      rfl
    have hmany : refersTo? ("    type: [\x7b type: Schema.Types.ObjectId, ref: '" ++ target
        ++ "' \x7d],") = some target := by
      have hother : ¬ "    ref: '".toList <+: ("    type: [\x7b type: Schema.Types.ObjectId, ref: '"
          ++ target ++ "' \x7d],").toList :=
        not_prefix_of_begins (b := "    type".toList) (by decide) (by simp)
      rw [refersTo?, between?_of_not_prefix hother, between?_append]
      rfl
    dsimp only
    split <;> simp [htype, hone, hmany, hname]

/-- The schema block of a field refers to the target of its type, and to nothing else. -/
theorem filterMap_refersTo?_schemaBlock
    (hnamed : ∀ target, s.type.target? = some target → target ≠ "") :
    (schemaBlock s.mapping).filterMap refersTo? = s.type.target?.toList := by
  have hopening : refersTo? ("  " ++ s.mapping.key ++ ": \x7b") = none :=
    refersTo?_of_ends (c := '\x7b') (by rw [String.toList_append, List.getLast?_append]; rfl)
      (by decide)
  rw [filterMap_schemaBlock hopening (fun _ h => refersTo?_of_begins _ h (by decide) (by decide))
    (fun _ h => refersTo?_of_begins _ h (by decide) (by decide)) (by decide)]
  exact filterMap_refersTo?_storedLines hnamed

end

end Server

/-! ### What follows for the templates -/

/-- The element of a control is a choice when the field is a relationship or an enumeration. -/
theorem View.elementName_ofField_iff (s : FieldSpec) :
    elementName (.ofField s) = "select" ↔ s.type.IsRelationship ∨ s.type.IsEnum := by
  have hscalar : ∀ control, elementName (.ofScalar control) ≠ "select" := by
    intro control
    cases control <;> decide
  unfold FormInput.ofField FieldType.IsRelationship FieldType.IsEnum
  cases s.type with
  | relationship => simp [elementName]
  | enum => simp [elementName]
  | primitive kind => simpa using hscalar _

/-- The parts of a mapping go together, whatever the key of the field is and whatever widget is
asked for. So the control of a relationship chooses among the entities of its target, and it has one
element to edit with, which is no input; the schema block of a field refers to the target of a
relationship, once, and the block of any other field refers to nothing. -/
theorem parts_of_mapping_agree (s : FieldSpec)
    (hnamed : ∀ target, s.type.target? = some target → target ≠ "") :
    s.mapping.type = s.type ∧ s.mapping.Coherent
      ∧ (∀ entity cardinality, s.type = .relationship entity cardinality →
        (View.FormNode.ofMapping s.mapping).input
          = .reference (Names.ofName entity) (cardinality == .array))
      ∧ (∀ (t : Theme) (n : Names), ∃ start,
        ((View.formNodeLines n (.ofMapping s.mapping)).map t.line).filterMap View.editStart?
            = [start]
          ∧ (start = "<select".toList ↔ s.type.IsRelationship ∨ s.type.IsEnum))
      ∧ (Server.schemaBlock s.mapping).filterMap Server.refersTo? = s.type.target?.toList := by
  refine ⟨s.type_mapping, FieldSpec.coherent_mapping hnamed, ?_, fun t n => ⟨_,
    View.filterMap_editStart? t _ n, ?_⟩, Server.filterMap_refersTo?_schemaBlock hnamed⟩
  · intro entity cardinality htype
    rw [View.input_ofMapping, View.FormInput.ofField, htype]
  · rw [View.input_ofMapping, ← View.elementName_ofField_iff]
    constructor
    · intro h
      exact String.toList_inj.mp (List.cons.inj h).2
    · intro h
      rw [h]
      rfl

/-- A field that refers to several buyers is a relationship in all its parts, though it has the key
of a timestamp and asks for a check box. -/
theorem buyers_agree :
    let buyers : FieldSpec :=
      ⟨"createdAt", .relationship "buyer" .array, some { type := "boolean" }⟩
    FieldType.ofDescriptor [] "relationship: buyer :array" = .ok buyers.type
      ∧ buyers.mapping.Coherent ∧ buyers.mapping.control = .relationship
      ∧ buyers.mapping.columnType = "relationship" ∧ buyers.mapping.defaultLiteral = "[]"
      ∧ (Server.schemaBlock buyers.mapping).filterMap Server.refersTo? = ["buyer"] := by
  intro buyers
  have hread : FieldType.ofDescriptor [] "relationship: buyer :array" = .ok buyers.type := by
    decide
  obtain ⟨-, hcoherent, -, -, hrefs⟩ :=
    parts_of_mapping_agree buyers (FieldType.target_ne_empty hread)
  have hrelationship : buyers.mapping.type.IsRelationship := ⟨_, _, rfl⟩
  exact ⟨hread, hcoherent, hcoherent.relationship.mp hrelationship,
    hcoherent.columnType.mp hrelationship, hcoherent.emptyList.mp rfl, hrefs⟩

end Scaffold
