/-!
# Identifiers

The classes of names that may stand in generated code without quotation, each with the pattern that
messages and documents know it by. A pattern that ends in `$` allows one line feed behind the name;
`isEntityName` has two forms because document names are checked without that allowance.
-/

namespace Scaffold.Identifier

/-- A lower-case letter of ASCII. -/
def isLower (c : Char) : Bool := 'a' ≤ c && c ≤ 'z'

/-- An upper-case letter of ASCII. -/
def isUpper (c : Char) : Bool := 'A' ≤ c && c ≤ 'Z'

/-- A digit of ASCII. -/
def isDigit (c : Char) : Bool := '0' ≤ c && c ≤ '9'

/-- A character that may start an identifier. -/
def isStart (c : Char) : Bool := isLower c || isUpper c || c == '_' || c == '$'

/-- A character that may stand in an identifier. -/
def isPart (c : Char) : Bool := isStart c || isDigit c

/-- Whether a text is one character of a first class and any number of a second. -/
def matchesWhole (first rest : Char → Bool) : List Char → Bool
  | [] => false
  | c :: cs => first c && cs.all rest

/-- Drops one line feed at the end. -/
def dropFinalBreak (cs : List Char) : List Char :=
  match cs.reverse with
  | '\n' :: rest => rest.reverse
  | _ => cs

/-- Like `matchesWhole`, with one line feed allowed at the end. -/
def matchesLine (first rest : Char → Bool) (cs : List Char) : Bool :=
  matchesWhole first rest cs || matchesWhole first rest (dropFinalBreak cs)

def isIdentifier (s : String) : Bool := matchesLine isStart isPart s.toList

/-- The name of an environment variable: upper-case letters, digits and underscores. -/
def isVariable (s : String) : Bool :=
  matchesLine isUpper (fun c => isUpper c || isDigit c || c == '_') s.toList

/-- The path of a resource: lower-case letters, digits, dashes, underscores and slashes. -/
def isResourcePath (s : String) : Bool :=
  matchesLine (fun c => isLower c || isDigit c)
    (fun c => isLower c || isDigit c || c == '-' || c == '_' || c == '/') s.toList

/-- The pattern of an entity name. -/
def entityPattern : String := "^[a-z][a-z0-9]*$"

/-- An entity name, as the target of a relationship. -/
def isEntityName (s : String) : Bool :=
  matchesLine isLower (fun c => isLower c || isDigit c) s.toList

/-- An entity name with nothing behind it, as the name of a document. -/
def isExactEntityName (s : String) : Bool :=
  matchesWhole isLower (fun c => isLower c || isDigit c) s.toList

end Scaffold.Identifier
