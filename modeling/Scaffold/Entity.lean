import Scaffold.Document
import Scaffold.Field

/-!
# Entities

An `Entity` is a document whose descriptors have been read, with everything that is derived from it:
the forms of its name, the mapping of each field and the forms of each related entity's name. All
generated files are rendered from it alone.
-/

namespace Scaffold

/-- A document with everything derived from it. -/
structure Entity where
  document : Document
  names : Names
  fields : List FieldSpec
  mappings : List FieldMapping
  /-- The related entities, in the order in which the schema first refers to them. -/
  related : List Names
deriving DecidableEq

namespace Entity

/-- Reads the descriptors in schema order; the first that cannot be read rejects the document. -/
def readFields (d : Document) : List (String × String) → Except Rejection (List FieldSpec)
  | [] => .ok []
  | (key, descriptor) :: rest =>
    let hint := d.ui.get? key
    match FieldType.ofDescriptor (UiHint.optionList hint) descriptor with
    | .error fault => .error (fault.rejection key d.name)
    | .ok type => (readFields d rest).map (⟨key, type, hint⟩ :: ·)

def fieldsOf (d : Document) : Except Rejection (List FieldSpec) :=
  readFields d d.schema.entries

def targetsOf (d : Document) : Except Rejection (List String) :=
  match relationshipTargets d.schema.entries with
  | .ok targets => .ok targets
  | .error (key, fault) => .error (fault.rejection key d.name)

def ofDocument (d : Document) : Except Rejection Entity := do
  let fields ← fieldsOf d
  let targets ← targetsOf d
  return {
    document := d
    names := d.names
    fields := fields
    mappings := fields.map FieldSpec.mapping
    related := targets.map Names.ofName }

/-- The mappings of the fields that clients send, in schema order. -/
def payload (e : Entity) : List FieldMapping :=
  e.mappings.filter FieldMapping.inPayload

def mapping? (e : Entity) (key : String) : Option FieldMapping :=
  e.mappings.find? (·.key == key)

/-- The mappings of the fields that are presented, in the order of their presentations. -/
def presented (e : Entity) : List FieldMapping :=
  e.document.ui.keys.filterMap e.mapping?

/-- The fields that clients must send, in schema order. -/
def requiredKeys (e : Entity) : List String :=
  (e.payload.filter (·.required)).map (·.key)

end Entity

end Scaffold
