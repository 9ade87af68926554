import Scaffold.Entity
import Scaffold.Validation.Issue

/-!
# Validation

Six checks look at a whole document, each at one aspect of it, and list the issues they find.
`Document.issues` lists those of all checks in turn. A document without errors is accepted;
`Document.ensureValid` rejects any other, for the reason of the first error.
-/

namespace Scaffold.Document

/-! ### Names -/

/-- The overriding names that are no identifiers. -/
def overrideIssues (d : Document) : List Issue :=
  let check (label : String) : Option String → List Issue
    | some value => if Identifier.isIdentifier value then [] else [.badOverride label value]
    | none => []
  check "Name" d.overrides.capitalized ++ check "namePlural" d.overrides.plural
    ++ check "NamePlural" d.overrides.capitalizedPlural

/-- The overriding path, if it is no path of a resource. -/
def pathIssues (d : Document) : List Issue :=
  match d.overrides.path with
  | some path => if Identifier.isResourcePath path then [] else [.badPath path]
  | none => []

/-- Two texts, or one when they are the same. -/
def distinctPair (a b : String) : List String :=
  if b = a then [a] else [a, b]

/-- The forms of a name that are declared in lower case, and reserved. -/
def reservedForms (n : Names) : List String :=
  (distinctPair n.name n.plural).filter isReserved

/-- The forms of the entity's name must be usable in code. Reserved words are looked for only when
every override is well formed. -/
def nameIssues (d : Document) : List Issue :=
  match d.overrideIssues ++ d.pathIssues with
  | [] => (reservedForms d.names).map .reservedName
  | issues => issues

/-! ### Fields -/

/-- The issue with a key, if there is one. -/
def keyIssue? (key : String) : Option Issue :=
  if key = identityField then some (.reservedKey key)
  else if Identifier.isIdentifier key then none
  else some (.badKey key)

/-- Keys must be identifiers, and not that of the identity. -/
def keyIssues (d : Document) : List Issue :=
  d.schema.keys.filterMap keyIssue?

/-- Every field that is edited has a presentation, and every presentation a field. -/
def coverageIssues (d : Document) : List Issue :=
  (d.schema.keys.filter fun key => !isTimestampKey key && !d.ui.has key).map .missingHint
    ++ (d.ui.keys.filter fun key => !d.schema.has key).map .orphanHint

/-- The type of a field, read with the options of its presentation. -/
def typeOf (d : Document) (key descriptor : String) : Except DescriptorFault FieldType :=
  FieldType.ofDescriptor (UiHint.optionList (d.ui.get? key)) descriptor

/-- The issue with a descriptor, if there is one. -/
def typeIssue? (d : Document) (field : String × String) : Option Issue :=
  match d.typeOf field.1 field.2 with
  | .error fault => some (.badDescriptor field.1 field.2 fault)
  | .ok type =>
    if isTimestampKey field.1 && type ≠ .primitive .string then
      some (.timestampType field.1 field.2)
    else none

/-- Every descriptor can be read, and timestamps are texts. -/
def typeIssues (d : Document) : List Issue :=
  d.schema.entries.filterMap d.typeIssue?

/-! ### Relationships -/

def least? : List String → Option String
  | [] => none
  | s :: rest =>
    match least? rest with
    | some t => some (if t < s then t else s)
    | none => some s

/-- The least form that two entities share. -/
def sharedForm? (a b : Names) : Option String :=
  least? (a.forms.filter b.forms.contains)

/-- The issues with the target of a relationship. -/
def targetIssues (d : Document) (target : String) : List Issue :=
  if !Identifier.isEntityName target then [.badTarget target]
  else if target = d.name then [.targetIsSelf target]
  else
    let related := Names.ofName target
    match sharedForm? d.names related with
    | some form => [.targetCollision target form]
    -- reserved words are looked for only where no form is shared
    | none => (reservedForms related).map (.targetReserved target)

/-- The targets of relationships are usable beside the entity itself. Nothing is said of them while
a relationship cannot be read. -/
def relationshipIssues (d : Document) : List Issue :=
  match relationshipTargets d.schema.entries with
  | .ok targets => targets.flatMap d.targetIssues
  | .error _ => []

/-! ### Presentations -/

/-- The cardinalities that widgets stand for. -/
def widgetCardinalities : List (String × Cardinality) :=
  [("relationship-single", .single), ("relationship-multiple", .array),
    ("relationship-array", .array)]

/-- Whether a reference names an entity, in the singular or in the plural. -/
def refersTo (reference target : String) : Bool :=
  let name := Text.stripWith (· == '/') reference
  name == target || name == (Names.ofName target).plural

/-- What does not fit between a presentation and the type of its field. -/
def hintIssuesFor (key : String) (hint : UiHint) (type : FieldType) : List Issue :=
  let hasOptions := !(UiHint.optionList (some hint)).isEmpty
  let options := match type with
    | .enum _ => []
    | _ => if hasOptions then [Issue.optionsIgnored key] else []
  let relationship := match type with
    | .relationship target cardinality =>
      -- a widget that does not tell how many entities fits both cardinalities
      let widget := match wordMeaning? widgetCardinalities hint.type with
        | some c => if c = cardinality then [] else [Issue.cardinalityMismatch key hint.type type]
        | none => []
      let reference := match hint.apiRef with
        | some r =>
          if r.isEmpty || refersTo r target then [] else [Issue.apiRefMismatch key r target]
        | none => []
      widget ++ reference
    | _ => []
  let timestamp := if isTimestampKey key then [Issue.timestampInForm key] else []
  options ++ relationship ++ timestamp

/-- The issues with one presentation; one without a readable field has none. -/
def hintIssuesOf (d : Document) (entry : String × UiHint) : List Issue :=
  match d.schema.get? entry.1 with
  | none => []
  | some descriptor =>
    match FieldType.ofDescriptor (UiHint.optionList (some entry.2)) descriptor with
    | .ok type => hintIssuesFor entry.1 entry.2 type
    | .error _ => []

/-- Presentations should fit the types of their fields. -/
def hintIssues (d : Document) : List Issue :=
  d.ui.entries.flatMap d.hintIssuesOf

/-! ### The whole document -/

def issues (d : Document) : List Issue :=
  d.nameIssues ++ d.keyIssues ++ d.coverageIssues ++ d.typeIssues ++ d.relationshipIssues
    ++ d.hintIssues

def findingsOf (d : Document) (issues : List Issue) : Findings :=
  issues.map (Issue.finding d.name)

def findings (d : Document) : Findings :=
  d.findingsOf d.issues

/-- Whether no issue is an error. -/
def isAccepted (d : Document) : Bool :=
  !d.issues.any Issue.isError

/-- The rejection for the first error. -/
def rejectionFor (d : Document) (first : Issue) : Rejection where
  kind := first.rejectionKind
  message := first.message d.name
  entity := some d.name
  field := (first.finding d.name).about? "field"
  findings := some d.findings

/-- The findings of an accepted document; any other is rejected. -/
def ensureValid (d : Document) : Except Rejection Findings :=
  match d.issues.find? Issue.isError with
  | some first => .error (d.rejectionFor first)
  | none => .ok d.findings

/-- Reads a value as a document and validates it. -/
def validate (v : Value) : Except Rejection Findings :=
  match parse v with
  | .error r => .error r
  | .ok d => d.ensureValid

end Scaffold.Document

namespace Scaffold.Entity

/-- Derives the entity of an accepted document. -/
def ofAccepted (d : Document) : Except Rejection Entity :=
  match d.ensureValid with
  | .error r => .error r
  | .ok _ => ofDocument d

/-- Derives the entity of a value that is an accepted document. -/
def ofValue (v : Value) : Except Rejection Entity :=
  match Document.parse v with
  | .error r => .error r
  | .ok d => ofAccepted d

end Scaffold.Entity
