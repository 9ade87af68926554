import Scaffold.Client.Layout
import Scaffold.Entity
import Scaffold.Text.Lines

/-!
# Interfaces

The interfaces of an entity: one for each related entity with what lists of choices show of it, the
entity as it is received, and the payloads that make and change it.
-/

namespace Scaffold.Client

def interfaceBlock (name : String) (members : List String) : List String :=
  ["export interface " ++ name ++ " \x7b"] ++ members ++ ["\x7d"]

def relatedInterface (n : Names) : List String :=
  interfaceBlock n.capitalized ["  _id: string;", "  name: string;", "  description?: string;"]

/-- A member that is always there. -/
def requiredMember (m : FieldMapping) : String :=
  "  " ++ m.key ++ ": " ++ m.clientType ++ ";"

/-- A member that may be absent. -/
def optionalMember (m : FieldMapping) : String :=
  "  " ++ m.key ++ "?: " ++ m.clientType ++ ";"

/-- A member of what is sent to make an entity. -/
def createMember (m : FieldMapping) : String :=
  if m.required then requiredMember m else optionalMember m

/-- The entity as it is received. -/
def readInterface (e : Entity) : List String :=
  interfaceBlock e.names.capitalized ("  _id: string;" :: e.mappings.map requiredMember)

/-- What is sent to make an entity. -/
def createInterface (e : Entity) : List String :=
  interfaceBlock (createType e.names) (e.payload.map createMember)

/-- What is sent to change an entity. -/
def updateInterface (e : Entity) : List String :=
  interfaceBlock (updateType e.names) (e.payload.map optionalMember)

def interfaceLines (e : Entity) : List String :=
  e.related.flatMap (fun n => relatedInterface n ++ [""])
    ++ readInterface e ++ [""] ++ createInterface e ++ [""] ++ updateInterface e

/-- The content of the file with the interfaces. -/
def interfaceText (e : Entity) : String :=
  Text.joinLines (interfaceLines e)

end Scaffold.Client
