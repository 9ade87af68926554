import Scaffold.FieldType
import Scaffold.Names
import Scaffold.Text.Literal
import Scaffold.UiHint

/-!
# Fields

A `FieldSpec` is a field whose descriptor has been read. `FieldSpec.mapping` decides once, for all
generated files, how the field appears in each of them: its types on both sides, its form control,
its column, its default and its place in the API document.
-/

namespace Scaffold

/-- The fields that the database keeps up itself. -/
def timestampFields : List String := ["createdAt", "updatedAt"]

/-- The field that the database assigns. -/
def identityField : String := "_id"

def isTimestampKey (key : String) : Bool := timestampFields.contains key

/-- A field with its type and, if it has one, its presentation. -/
structure FieldSpec where
  key : String
  type : FieldType
  hint : Option UiHint
deriving DecidableEq

/-- The controls of a form. -/
inductive Control where
  | text
  | number
  | textarea
  | checkbox
  | select
  | relationship
deriving Repr, DecidableEq, Inhabited

def Control.name : Control → String
  | .text => "text"
  | .number => "number"
  | .textarea => "textarea"
  | .checkbox => "checkbox"
  | .select => "select"
  | .relationship => "relationship"

/-- How a field appears in the generated files. -/
structure FieldMapping where
  key : String
  label : String
  placeholder : String
  required : Bool
  isTimestamp : Bool
  type : FieldType
  /-- The type in the client's interfaces. -/
  clientType : String
  /-- The type in the server's document interface. -/
  documentType : String
  /-- The type in the database schema. -/
  storedType : String
  /-- The model that the database schema refers to. -/
  storedRef : Option String := none
  enumValues : List String := []
  isArray : Bool := false
  control : Control
  /-- The literal that a form starts with. -/
  defaultLiteral : String := "\"\""
  columnType : String
  related : Option Names := none
  apiType : String := "string"
  apiFormat : Option String := none
deriving DecidableEq

/-- Whether clients send the field. -/
def FieldMapping.inPayload (m : FieldMapping) : Bool := !m.isTimestamp

namespace FieldSpec

def isTimestamp (s : FieldSpec) : Bool := isTimestampKey s.key

/-- Whether the presentation asks for a value. -/
def required (s : FieldSpec) : Bool := s.hint.any (·.required)

/-- The label of the presentation, or else the key with a capital letter. -/
def label (s : FieldSpec) : String :=
  match s.hint with
  | some h => if h.label.isEmpty then Text.capitalize s.key else h.label
  | none => Text.capitalize s.key

/-- The widget that the presentation asks for. -/
def widget (s : FieldSpec) : String :=
  match s.hint with
  | some h => h.type
  | none => ""

/-- The control of a scalar field: what the widget asks for, before what the kind suggests. -/
def scalarControl (widget : String) (kind : PrimitiveKind) : Control :=
  if widget = "boolean" || kind = .boolean then .checkbox
  else if widget = "textarea" then .textarea
  else if widget = "number" || kind = .number then .number
  else .text

def control (s : FieldSpec) : Control :=
  match s.type with
  | .relationship .. => .relationship
  | .enum _ => .select
  | .primitive kind => scalarControl s.widget kind

/-- The widgets that have a column of their own. -/
def typedColumns : List String := ["number", "boolean", "picture"]

/-- The type of the table column. -/
def columnType (s : FieldSpec) : String :=
  match s.type with
  | .relationship .. => "relationship"
  | _ => if typedColumns.contains s.widget then s.widget else "string"

/-- The database type of a kind. -/
def storedName : PrimitiveKind → String
  | .string => "String"
  | .number => "Number"
  | .boolean => "Boolean"

/-- The literal that a field of a kind starts with. -/
def emptyLiteral : PrimitiveKind → String
  | .string => "\"\""
  | .number => "0"
  | .boolean => "false"

def relationshipMapping (s : FieldSpec) (entity : String) (cardinality : Cardinality) :
    FieldMapping :=
  let related := Names.ofName entity
  let isArray := cardinality == .array
  { key := s.key, label := s.label, placeholder := (s.hint.map (·.placeholder)).getD ""
    required := s.required, isTimestamp := s.isTimestamp, type := s.type
    control := s.control, columnType := s.columnType
    clientType := related.capitalized ++ if isArray then "[]" else ""
    documentType := if isArray then "(mongoose.Types.ObjectId | string)[]"
      else "mongoose.Types.ObjectId | string"
    storedType := "Schema.Types.ObjectId"
    -- the name as the schema spells it, and not as a model registers itself
    storedRef := some related.name
    isArray := isArray
    defaultLiteral := if isArray then "[]" else "undefined"
    related := some related
    apiType := if isArray then "array" else "string"
    apiFormat := if isArray then none else some "objectId" }

def enumMapping (s : FieldSpec) (options : Options) : FieldMapping :=
  { key := s.key, label := s.label, placeholder := (s.hint.map (·.placeholder)).getD ""
    required := s.required, isTimestamp := s.isTimestamp, type := s.type
    control := s.control, columnType := s.columnType
    clientType := "string", documentType := "string", storedType := "String"
    enumValues := options.toList
    defaultLiteral := Text.literal options.first }

def timestampMapping (s : FieldSpec) : FieldMapping :=
  { key := s.key, label := s.label, placeholder := (s.hint.map (·.placeholder)).getD ""
    required := s.required, isTimestamp := s.isTimestamp, type := s.type
    control := s.control, columnType := s.columnType
    -- a moment travels as a text
    clientType := "string", documentType := "Date", storedType := "Date"
    apiFormat := some "date-time" }

def scalarMapping (s : FieldSpec) (kind : PrimitiveKind) : FieldMapping :=
  { key := s.key, label := s.label, placeholder := (s.hint.map (·.placeholder)).getD ""
    required := s.required, isTimestamp := s.isTimestamp, type := s.type
    control := s.control, columnType := s.columnType
    clientType := kind.word, documentType := kind.word, storedType := storedName kind
    defaultLiteral := emptyLiteral kind
    apiType := kind.word }

/-- How a field appears in the generated files. -/
def mapping (s : FieldSpec) : FieldMapping :=
  match s.type with
  | .relationship entity cardinality => s.relationshipMapping entity cardinality
  | .enum options => s.enumMapping options
  | .primitive kind => if s.isTimestamp then s.timestampMapping else s.scalarMapping kind

end FieldSpec

/-! ### Reading a field by itself -/

namespace FieldType

open Shape

def readWord {α : Type} (words : List (String × α)) (v : Value) : Checked α :=
  .ofExcept (choice words v)

/-- Reads the kind of a scalar. -/
def readPrimitive (entries : Entries) : Checked FieldType :=
  (fun kind _ => primitive kind)
    <$> (Slot.plain "kind").required entries (readWord PrimitiveKind.words)
    <*> noExtras [.plain "tag", .plain "kind"] entries

def readOptions (v : Value) : Checked Options :=
  match texts v with
  | .bad ps => .bad ps
  | .ok options =>
    match optionsOf options with
    | .ok o => .ok o
    | .error (.repeatedOption os) =>
      .fault (.refused ("Duplicate enum options: " ++ DescriptorFault.quotedList os))
    | .error _ => .fault (.refused "Enum field requires at least one option.")

def readEnum (entries : Entries) : Checked FieldType :=
  (fun options _ => enum options)
    <$> (Slot.plain "options").required entries readOptions
    <*> noExtras [.plain "tag", .plain "options"] entries

def readRelationship (entries : Entries) : Checked FieldType :=
  (fun entity cardinality _ => relationship entity cardinality)
    <$> (Slot.plain "entity").required entries (fun v => .ofExcept (text v))
    <*> (Slot.plain "cardinality").optional entries .single (readWord Cardinality.words)
    <*> noExtras [.plain "tag", .plain "entity", .plain "cardinality"] entries

def variants : List (String × (Entries → Checked FieldType)) :=
  [("primitive", readPrimitive), ("enum", readEnum), ("relationship", readRelationship)]

/-- Reads a type that is written as a record with a tag. -/
def readTagged : Value → Checked FieldType
  | .map entries =>
    match Entries.get? entries "tag" with
    | none => .fault (.tagMissing "tag")
    | some tag =>
      match tag with
      | .text word =>
        match wordMeaning? variants word with
        | some read => (read entries).under (.key word)
        | none => .fault (.tagUnknown word "tag" (variants.map (·.1)))
      | v => .fault (.tagUnknown (v.shown?.getD v.unprintable) "tag" (variants.map (·.1)))
  | _ => .fault .notTagged

end FieldType

namespace FieldSpec

open Shape

/-- Reads a presentation, or nothing. -/
def readHint : Value → Checked (Option UiHint)
  | .null => .ok none
  | v => some <$> UiHint.check v

def read (entries : Entries) : Checked FieldSpec :=
  (fun key type hint _ => ⟨key, type, hint⟩)
    <$> (Slot.plain "key").required entries (fun v => .ofExcept (text v))
    <*> (Slot.plain "field_type").required entries FieldType.readTagged
    <*> (Slot.plain "ui").optional entries none readHint
    <*> noExtras [.plain "key", .plain "field_type", .plain "ui"] entries

def recordName : String := "FieldSpec"

def ofValue (v : Value) : Except Mismatch FieldSpec :=
  (record recordName read v).named recordName

end FieldSpec

end Scaffold
