/-!
# Findings

What validation says about a document: a list of findings, each an error or a warning. A document
is valid when there is no error among them.
-/

namespace Scaffold

/-- How serious a finding is. -/
inductive Level where
  | error
  | warning
deriving Repr, DecidableEq, Inhabited

def Level.name : Level → String
  | .error => "error"
  | .warning => "warning"

/-- One remark about a document. The context names what it is about. -/
structure Finding where
  level : Level
  code : String
  message : String
  context : List (String × String) := []
deriving Repr, DecidableEq, Inhabited

namespace Finding

def isError (f : Finding) : Bool := f.level == .error

def isWarning (f : Finding) : Bool := f.level == .warning

/-- The finding on one line, with its level and code. -/
def line (f : Finding) : String :=
  "[" ++ (match f.level with | .error => "ERROR" | .warning => "WARNING") ++ "] " ++ f.code ++ ": "
    ++ f.message

/-- The text under a name of the context. -/
def about? (f : Finding) (name : String) : Option String :=
  (f.context.find? (·.1 == name)).map (·.2)

end Finding

/-- Findings in the order in which they were made. -/
abbrev Findings := List Finding

namespace Findings

def errors (fs : Findings) : Findings := fs.filter Finding.isError

def warnings (fs : Findings) : Findings := fs.filter Finding.isWarning

def isValid (fs : Findings) : Bool := !fs.any Finding.isError

/-- The numbers of errors and warnings in words. -/
def summary (fs : Findings) : String :=
  "Validation: " ++ toString fs.errors.length ++ " error(s), " ++ toString fs.warnings.length
    ++ " warning(s)."

def logText (fs : Findings) : String :=
  "<ValidationResult " ++ fs.summary ++ ">"

def reportLine (f : Finding) : String :=
  "  " ++ (if f.isError then "✗" else "⚠") ++ " [" ++ f.code ++ "] " ++ f.message

/-- The summary, and a line for each finding. -/
def report (fs : Findings) : String :=
  "\n".intercalate (fs.summary :: fs.map reportLine)

end Findings

end Scaffold
