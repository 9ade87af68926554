import Scaffold.Finding

/-!
# Rejections

A document that cannot be turned into artifacts is rejected, before any artifact exists. The kind
tells the three families of reasons apart. A rejection by validation carries all findings.
-/

namespace Scaffold

/-- The family of a reason to reject a document. -/
inductive RejectionKind where
  /-- Something is missing, incomplete or of the wrong shape. -/
  | malformed
  /-- A type descriptor is outside the grammar. -/
  | unknownFieldType
  /-- A derived name is reserved or used twice. -/
  | namingCollision
deriving Repr, DecidableEq, Inhabited

def RejectionKind.code : RejectionKind → String
  | .malformed => "MALFORMED_SCHEMA"
  | .unknownFieldType => "UNKNOWN_FIELD_TYPE"
  | .namingCollision => "NAMING_COLLISION"

/-- Why a document is rejected, and what the reason is about. -/
structure Rejection where
  kind : RejectionKind
  message : String
  entity : Option String := none
  field : Option String := none
  findings : Option Findings := none
deriving Repr, DecidableEq, Inhabited

/-- The message; when more than one error was found, all findings follow it. -/
def Rejection.text (r : Rejection) : String :=
  match r.findings with
  | some fs => if 1 < fs.errors.length then r.message ++ "\n" ++ fs.report else r.message
  | none => r.message

end Scaffold
