import Scaffold.Rejection
import Scaffold.Text.Blank
import Scaffold.Text.Lines
import Scaffold.Value.Basic

/-!
# Field types

A schema gives each field a type descriptor:

    string | number | boolean | enum
    relationship:<entity> | relationship:<entity>:single | relationship:<entity>:array

with blanks allowed around the descriptor and around the parts of a relationship. The options of an
enumeration come from the field's user interface entry. `FieldType.ofDescriptor` reads a descriptor;
what it cannot read it explains by a `DescriptorFault`.
-/

namespace Scaffold

/-- The kinds of scalar fields. -/
inductive PrimitiveKind where
  | string
  | number
  | boolean
deriving Repr, DecidableEq, Inhabited

/-- How many entities a relationship refers to. -/
inductive Cardinality where
  | single
  | array
deriving Repr, DecidableEq, Inhabited

/-- The options of an enumeration: at least one, and no two the same. -/
structure Options where
  first : String
  others : List String
  distinct : (first :: others).Nodup
deriving DecidableEq

namespace Options

def toList (o : Options) : List String := o.first :: o.others

end Options

/-- The type of a field. -/
inductive FieldType where
  | primitive (kind : PrimitiveKind)
  | enum (options : Options)
  | relationship (entity : String) (cardinality : Cardinality)
deriving DecidableEq

def PrimitiveKind.word : PrimitiveKind → String
  | .string => "string"
  | .number => "number"
  | .boolean => "boolean"

def Cardinality.word : Cardinality → String
  | .single => "single"
  | .array => "array"

def PrimitiveKind.words : List (String × PrimitiveKind) :=
  [("string", .string), ("number", .number), ("boolean", .boolean)]

def Cardinality.words : List (String × Cardinality) :=
  [("single", .single), ("array", .array)]

def wordMeaning? {α : Type} (words : List (String × α)) (word : String) : Option α :=
  (words.find? (·.1 == word)).map (·.2)

namespace FieldType

/-- The canonical descriptor of a type. -/
def descriptor : FieldType → String
  | primitive kind => kind.word
  | enum _ => "enum"
  | relationship entity cardinality => "relationship:" ++ entity ++ ":" ++ cardinality.word

def tag : FieldType → String
  | primitive _ => "primitive"
  | enum _ => "enum"
  | relationship .. => "relationship"

/-- The entity that a relationship refers to. -/
def target? : FieldType → Option String
  | relationship entity _ => some entity
  | _ => none

end FieldType

/-- What is wrong with a type descriptor. -/
inductive DescriptorFault where
  /-- It is no text; its quoted form is given. -/
  | notText (quoted : String)
  /-- A relationship names no entity. -/
  | noTarget (descriptor : String)
  /-- A relationship has more than three parts. -/
  | tooManyParts (descriptor : String)
  | unknownCardinality (word : String)
  /-- An enumeration has no options. -/
  | noOptions
  | repeatedOption (options : List String)
  | unknownType (descriptor : String)
deriving Repr, DecidableEq

namespace DescriptorFault

/-- Incomplete descriptors are malformed; the others are unknown. -/
def kind : DescriptorFault → RejectionKind
  | noTarget _ => .malformed
  | noOptions => .malformed
  | repeatedOption _ => .malformed
  | notText _ => .unknownFieldType
  | tooManyParts _ => .unknownFieldType
  | unknownCardinality _ => .unknownFieldType
  | unknownType _ => .unknownFieldType

/-- Texts as a quoted list. -/
def quotedList (items : List String) : String :=
  "[" ++ ", ".intercalate (items.map Text.quoted) ++ "]"

def message (key entity : String) : DescriptorFault → String
  | notText quoted =>
    "Field '" ++ key ++ "' of entity '" ++ entity ++ "' has a non-string type descriptor " ++ quoted
      ++ "."
  | noTarget descriptor =>
    "Field '" ++ key ++ "' of entity '" ++ entity
      ++ "' declares a relationship without a target entity: '" ++ descriptor ++ "'."
  | tooManyParts descriptor =>
    "Field '" ++ key ++ "' of entity '" ++ entity
      ++ "' has an unrecognised relationship descriptor '" ++ descriptor ++ "'."
  | unknownCardinality word =>
    "Field '" ++ key ++ "' of entity '" ++ entity ++ "' has unknown relationship cardinality '"
      ++ word ++ "' (expected one of ['array', 'single'])."
  | noOptions => "Enum field '" ++ key ++ "' of entity '" ++ entity ++ "' has no options."
  | repeatedOption options =>
    "Enum field '" ++ key ++ "' of entity '" ++ entity ++ "' repeats an option: "
      ++ quotedList options ++ "."
  | unknownType descriptor =>
    "Field '" ++ key ++ "' of entity '" ++ entity ++ "' has unknown type '" ++ descriptor ++ "'."

def rejection (key entity : String) (fault : DescriptorFault) : Rejection where
  kind := fault.kind
  message := fault.message key entity
  entity := some entity
  field := some key

end DescriptorFault

/-- Why a value is not read as a type descriptor. -/
inductive ValueFault where
  | descriptor (fault : DescriptorFault)
  /-- It is no text, and it cannot be written for the message about it. -/
  | unwritable
deriving Repr, DecidableEq

/-! ### Reading descriptors -/

/-- The parts of a stripped descriptor, if it is that of a relationship. -/
def relationshipParts? (raw : String) : Option (List String) :=
  match Text.splitOn ':' raw with
  | "relationship" :: parts => some parts
  | _ => none

/-- Reads the parts behind the word `relationship`: an entity, and perhaps a cardinality. -/
def relationshipOfParts (raw : String) : List String →
    Except DescriptorFault (String × Cardinality)
  | [] => .error (.noTarget raw)
  | entity :: rest =>
    let target := Text.strip entity
    -- a missing entity comes before a part that is too many
    if target.isEmpty then .error (.noTarget raw)
    else match rest with
      | [] => .ok (target, .single)
      | [word] =>
        match wordMeaning? Cardinality.words (Text.strip word) with
        | some c => .ok (target, c)
        | none => .error (.unknownCardinality (Text.strip word))
      | _ => .error (.tooManyParts raw)

def optionsOf (options : List String) : Except DescriptorFault Options :=
  match options with
  | [] => .error .noOptions
  | first :: others =>
    if h : (first :: others).Nodup then .ok ⟨first, others, h⟩
    else .error (.repeatedOption (first :: others))

namespace FieldType

/-- Reads a type descriptor; `options` are those of the field's user interface entry. -/
def ofDescriptor (options : List String) (descriptor : String) : Except DescriptorFault FieldType :=
  let raw := Text.strip descriptor
  match wordMeaning? PrimitiveKind.words raw with
  | some kind => .ok (primitive kind)
  | none =>
    if raw = "enum" then (optionsOf options).map enum
    else match relationshipParts? raw with
      | some parts => (relationshipOfParts raw parts).map fun r => relationship r.1 r.2
      -- the message shows the descriptor as it was given, with its blanks
      | none => .error (.unknownType descriptor)

/-- Reads a value that should be a type descriptor. -/
def ofValue (options : List String) : Value → Except ValueFault FieldType
  | .text descriptor => (ofDescriptor options descriptor).mapError .descriptor
  | v =>
    match v.quoted? with
    | some form => .error (.descriptor (.notText form))
    | none => .error .unwritable

end FieldType

/-! ### Relationships of a schema -/

/-- The entity that a descriptor refers to, if it is that of a relationship. -/
def targetOf (descriptor : String) : Except DescriptorFault (Option String) :=
  let raw := Text.strip descriptor
  match relationshipParts? raw with
  | some parts => (relationshipOfParts raw parts).map fun r => some r.1
  | none => .ok none

/-- Adds a text to the end of a list, unless it is there. -/
def addNew (seen : List String) (s : String) : List String :=
  if seen.contains s then seen else seen ++ [s]

/-- The distinct entities that a schema refers to, in the order in which they first occur; the first
relationship that cannot be read decides the error, with its key. -/
def relationshipTargets {κ : Type} (fields : List (κ × String)) :
    Except (κ × DescriptorFault) (List String) :=
  go [] fields
where
  go (seen : List String) : List (κ × String) → Except (κ × DescriptorFault) (List String)
    | [] => .ok seen
    | (key, descriptor) :: rest =>
      match targetOf descriptor with
      | .error fault => .error (key, fault)
      | .ok none => go seen rest
      | .ok (some target) => go (addNew seen target) rest

/-- The keys of a map with the descriptors under them; what is no text is left out. -/
def descriptorEntries (entries : Entries) : List (Value × String) :=
  entries.filterMap fun
    | (key, .text descriptor) => some (key, descriptor)
    | _ => none

end Scaffold
