import Scaffold.Entity

/-!
# Views without a theme

What the view of an entity shows: a form with a control for each field that is edited, a table with
a column for each field that is presented, and the literals that a new form starts with. Nothing in
it depends on a theme.
-/

namespace Scaffold.View

/-- What a form control lets its user enter. -/
inductive FormInput where
  | text
  | number
  | textarea
  | checkbox
  | select (options : List String)
  /-- A choice among the entities of a store. -/
  | reference (related : Names) (multiple : Bool)
deriving Repr, DecidableEq

/-- One form control. -/
structure FormNode where
  key : String
  control : Control
  label : String
  placeholder : String
  required : Bool
  /-- The options of an enumeration. -/
  options : List String
  /-- Whether several entities may be chosen. -/
  multiple : Bool
  /-- The entity that is chosen from. -/
  related : Option Names
deriving Repr, DecidableEq

/-- One column of the table. -/
structure Column where
  key : String
  title : String
  type : String
  /-- The member that is shown of a related entity. -/
  referenceName : Option String
deriving Repr, DecidableEq

/-- What the view of an entity shows. -/
structure Spec where
  names : Names
  form : List FormNode
  columns : List Column
  /-- The fields of a new form, each with the literal that it starts with. -/
  defaults : List (String × String)
  /-- The keys that are sent. -/
  payloadKeys : List String
  related : List Names
deriving Repr, DecidableEq

def FormInput.control : FormInput → Control
  | text => .text
  | number => .number
  | textarea => .textarea
  | checkbox => .checkbox
  | select _ => .select
  | reference .. => .relationship

def FormInput.options : FormInput → List String
  | select options => options
  | _ => []

/-- Whether several entities may be chosen. -/
def FormInput.multiple : FormInput → Bool
  | reference _ multiple => multiple
  | _ => false

/-- The entity that is chosen from. -/
def FormInput.related? : FormInput → Option Names
  | reference related _ => some related
  | _ => none

/-- What a form control lets its user enter. A choice among entities that names none is a text. -/
def FormNode.input (node : FormNode) : FormInput :=
  match node.control with
  | .checkbox => .checkbox
  | .relationship =>
    match node.related with
    | some related => .reference related node.multiple
    | none => .text
  | .select => .select node.options
  | .textarea => .textarea
  | .number => .number
  | .text => .text

def FormNode.ofMapping (m : FieldMapping) : FormNode where
  key := m.key
  control := m.control
  label := m.label
  placeholder := m.placeholder
  required := m.required
  options := m.enumValues
  multiple := m.isArray
  related := m.related

def Column.ofMapping (m : FieldMapping) : Column :=
  ⟨m.key, m.label, m.columnType, if m.columnType = "relationship" then some "name" else none⟩

namespace Spec

/-- What the view of an entity shows. -/
def ofEntity (e : Entity) : Spec where
  names := e.names
  form := (e.presented.filter FieldMapping.inPayload).map .ofMapping
  columns := e.presented.map .ofMapping
  defaults := e.payload.map fun m => (m.key, m.defaultLiteral)
  payloadKeys := e.payload.map (·.key)
  related := e.related

end Spec

end Scaffold.View
