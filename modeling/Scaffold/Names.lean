import Scaffold.Text.Case

/-!
# Names of an entity

Generated code refers to an entity by five forms of its name. `Names.derive` makes them all from the
lower-case name, except those that a document overrides; an overridden plural also makes the
capitalized plural and the path.

A name that a script could not declare, or that every generated file declares already, is reserved.
-/

namespace Scaffold

/-- The forms of an entity's name. -/
structure Names where
  name : String
  capitalized : String
  plural : String
  capitalizedPlural : String
  /-- The path of the resource below the address of the service. -/
  path : String
deriving Repr, DecidableEq, Inhabited

/-- The forms that a document gives; an empty one counts as not given. -/
structure NameOverrides where
  capitalized : Option String := none
  plural : Option String := none
  capitalizedPlural : Option String := none
  path : Option String := none
deriving Repr, DecidableEq, Inhabited

/-- The plural of a word: a `y` at the end becomes `ies`, and anything else gets an `s`. -/
def pluralizeChars (cs : List Char) : List Char :=
  match cs.reverse with
  | [] => []
  | 'y' :: stem => stem.reverse ++ ['i', 'e', 's']
  | _ => cs ++ ['s']

/-- The plural of a word. -/
def pluralize (s : String) : String :=
  String.ofList (pluralizeChars s.toList)

/-- The overriding text, unless it is absent or empty. -/
def overriding (given : Option String) (derived : String) : String :=
  match given with
  | some s => if s.isEmpty then derived else s
  | none => derived

namespace Names

def derive (name : String) (overrides : NameOverrides) : Names :=
  let plural := overriding overrides.plural (pluralize name)
  { name := name
    capitalized := overriding overrides.capitalized (Text.capitalize name)
    plural := plural
    capitalizedPlural := overriding overrides.capitalizedPlural (Text.capitalize plural)
    path := overriding overrides.path plural }

/-- The forms of a name without overrides. -/
def ofName (name : String) : Names :=
  derive name {}

/-- The four forms that are declared in code. -/
def forms (n : Names) : List String :=
  [n.name, n.plural, n.capitalized, n.capitalizedPlural]

/-- A short text for logs. -/
def summary (n : Names) : String :=
  "<EntityNames " ++ n.name ++ "/" ++ n.plural ++ ">"

end Names

/-- The words that a script cannot declare. -/
def keywords : List String :=
  ["abstract", "any", "as", "async", "await", "boolean", "break", "case", "catch", "class", "const",
    "constructor", "continue", "debugger", "declare", "default", "delete", "do", "else", "enum",
    "export", "extends", "false", "finally", "for", "from", "function", "get", "if", "implements",
    "import", "in", "infer", "instanceof", "interface", "is", "keyof", "let", "module", "namespace",
    "never", "new", "null", "number", "object", "of", "package", "private", "protected", "public",
    "readonly", "require", "return", "set", "static", "string", "super", "switch", "symbol", "this",
    "throw", "true", "try", "type", "typeof", "undefined", "unique", "unknown", "var", "void",
    "while", "with", "yield"]

/-- The names that every generated store or view declares. -/
def declaredNames : List String :=
  ["loading", "error", "errors", "columns", "modal", "router", "apiato", "axios", "ref", "refs",
    "data", "result", "results", "mongoose", "schema", "schemas", "swal"]

/-- Whether a word cannot name an entity in generated code. -/
def isReserved (word : String) : Bool :=
  keywords.contains word || declaredNames.contains word

end Scaffold
