/-!
# Notices

What a run tells its user apart from its reports: warnings and errors. A quiet run tells errors
only.
-/

namespace Scaffold

/-- How important a notice is. -/
inductive Severity where
  | warning
  | error
deriving Repr, DecidableEq, Inhabited

def Severity.name : Severity → String
  | .warning => "WARNING"
  | .error => "ERROR"

/-- Something that a run tells its user. -/
structure Notice where
  severity : Severity
  message : String
deriving Repr, DecidableEq, Inhabited

namespace Notice

def warning (message : String) : Notice := ⟨.warning, message⟩

def error (message : String) : Notice := ⟨.error, message⟩

/-- The notices that a run tells its user. -/
def told (quiet : Bool) (notices : List Notice) : List Notice :=
  if quiet then notices.filter (·.severity == .error) else notices

end Notice

end Scaffold
