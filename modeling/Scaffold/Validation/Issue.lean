import Scaffold.FieldType
import Scaffold.Field

/-!
# Issues of a document

Everything that validation can have against a document, each with what it is about. An issue of an
entity becomes a finding: `Issue.level`, `Issue.code`, `Issue.message` and `Issue.context` say how.
-/

namespace Scaffold

/-- An issue of a document. -/
inductive Issue where
  /-- An overriding name is no identifier. -/
  | badOverride (label value : String)
  | badPath (path : String)
  /-- A form of the entity's name is reserved. -/
  | reservedName (form : String)
  /-- A field has the name of the identity. -/
  | reservedKey (key : String)
  | badKey (key : String)
  /-- A field that is edited has no presentation. -/
  | missingHint (key : String)
  /-- A presentation belongs to no field. -/
  | orphanHint (key : String)
  | badDescriptor (key descriptor : String) (fault : DescriptorFault)
  /-- A timestamp is not declared as a text. -/
  | timestampType (key descriptor : String)
  | badTarget (target : String)
  | targetIsSelf (target : String)
  /-- A form of a related entity's name is also one of this entity. -/
  | targetCollision (target form : String)
  /-- A form of a related entity's name is reserved. -/
  | targetReserved (target form : String)
  | optionsIgnored (key : String)
  | cardinalityMismatch (key widget : String) (type : FieldType)
  | apiRefMismatch (key reference target : String)
  /-- A timestamp has a presentation. -/
  | timestampInForm (key : String)
deriving DecidableEq

namespace Issue

/-- Presentations that do not fit are warnings; all other issues are errors. -/
def level : Issue → Level
  | optionsIgnored _ => .warning
  | cardinalityMismatch .. => .warning
  | apiRefMismatch .. => .warning
  | timestampInForm _ => .warning
  | _ => .error

def code : Issue → String
  | badOverride .. => "INVALID_NAME_OVERRIDE"
  | badPath _ => "INVALID_PATH"
  | reservedName _ => "ENTITY_NAME_RESERVED"
  | reservedKey _ => "FIELD_KEY_RESERVED"
  | badKey _ => "INVALID_FIELD_KEY"
  | missingHint _ => "MISSING_UI_ENTRY"
  | orphanHint _ => "ORPHAN_UI_ENTRY"
  | badDescriptor _ _ fault =>
    match fault.kind with
    | .unknownFieldType => "UNKNOWN_FIELD_TYPE"
    | _ => "MALFORMED_FIELD_TYPE"
  | timestampType .. => "TIMESTAMP_TYPE"
  | badTarget _ => "INVALID_RELATED_ENTITY"
  | targetIsSelf _ => "RELATED_ENTITY_IS_SELF"
  | targetCollision .. => "RELATED_NAME_COLLISION"
  | targetReserved .. => "RELATED_ENTITY_RESERVED"
  | optionsIgnored _ => "OPTIONS_IGNORED"
  | cardinalityMismatch .. => "CARDINALITY_MISMATCH"
  | apiRefMismatch .. => "API_REF_MISMATCH"
  | timestampInForm _ => "TIMESTAMP_IN_FORM"

def message (entity : String) : Issue → String
  | badOverride label value =>
    "Entity '" ++ entity ++ "': '" ++ label ++ "' override '" ++ value
      ++ "' is not a valid identifier."
  | badPath path =>
    "Entity '" ++ entity ++ "': path '" ++ path ++ "' is not a valid URL segment."
  | reservedName form =>
    "Entity '" ++ entity ++ "': '" ++ form ++ "' is a reserved word in generated code."
  | reservedKey key =>
    "Entity '" ++ entity ++ "': '" ++ key
      ++ "' is assigned by the database and cannot be declared as a field."
  | badKey key =>
    "Entity '" ++ entity ++ "': field key '" ++ key ++ "' is not a valid identifier."
  | missingHint key =>
    "Field '" ++ key ++ "' of entity '" ++ entity ++ "' has no 'ui' entry."
  | orphanHint key =>
    "'ui' entry '" ++ key ++ "' of entity '" ++ entity ++ "' has no matching 'schema' field."
  | badDescriptor key _ fault => fault.message key entity
  | timestampType key _ =>
    "Timestamp field '" ++ key ++ "' of entity '" ++ entity ++ "' must be declared as 'string'."
  | badTarget target =>
    "Entity '" ++ entity ++ "' references '" ++ target
      ++ "', which is not a valid entity name (lower-case letters and digits)."
  | targetIsSelf _ =>
    "Entity '" ++ entity ++ "' references itself; its generated service and store would overwrite "
      ++ "the primary ones."
  | targetCollision target form =>
    "Entity '" ++ entity ++ "' references '" ++ target ++ "', whose generated name '" ++ form
      ++ "' is already used by the primary entity."
  | targetReserved target form =>
    "Entity '" ++ entity ++ "' references '" ++ target ++ "': '" ++ form
      ++ "' is a reserved word in generated code."
  | optionsIgnored key =>
    "Field '" ++ key ++ "' of entity '" ++ entity ++ "' lists options but is not an enum."
  | cardinalityMismatch key widget type =>
    "Field '" ++ key ++ "' of entity '" ++ entity ++ "' has ui type '" ++ widget
      ++ "' but is declared '" ++ type.descriptor ++ "'."
  | apiRefMismatch key reference target =>
    "Field '" ++ key ++ "' of entity '" ++ entity ++ "' has api-ref '" ++ reference
      ++ "' but references '" ++ target ++ "'."
  | timestampInForm key =>
    "Timestamp field '" ++ key ++ "' of entity '" ++ entity
      ++ "' has a 'ui' entry; it is shown in the table but never edited."

/-- What an issue is about, beside the entity. -/
def subject : Issue → List (String × String)
  | badOverride .. => []
  | badPath _ => []
  | reservedName _ => []
  | reservedKey key => [("field", key)]
  | badKey key => [("field", key)]
  | missingHint key => [("field", key)]
  | orphanHint key => [("field", key)]
  | badDescriptor key descriptor _ => [("field", key), ("type", descriptor)]
  | timestampType key descriptor => [("field", key), ("type", descriptor)]
  | badTarget target => [("related", target)]
  | targetIsSelf target => [("related", target)]
  | targetCollision target _ => [("related", target)]
  | targetReserved target _ => [("related", target)]
  | optionsIgnored key => [("field", key)]
  | cardinalityMismatch key _ _ => [("field", key)]
  | apiRefMismatch key _ _ => [("field", key)]
  | timestampInForm key => [("field", key)]

def finding (entity : String) (i : Issue) : Finding where
  level := i.level
  code := i.code
  message := i.message entity
  context := ("entity", entity) :: i.subject

/-- The kind of rejection that an issue leads to when it is the first error. -/
def rejectionKind : Issue → RejectionKind
  | badDescriptor _ _ fault => fault.kind
  | reservedName _ => .namingCollision
  | targetIsSelf _ => .namingCollision
  | targetCollision .. => .namingCollision
  | targetReserved .. => .namingCollision
  | _ => .malformed

def isError (i : Issue) : Bool := i.level == .error

end Issue

end Scaffold
