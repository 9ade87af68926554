import Scaffold.Names
import Scaffold.Script

/-!
# The layout of the client side

Where the files of the client side are below the module of an entity, what they export, and how one
of them imports it from another. Every file that refers to another one takes the path and the names
from here.
-/

namespace Scaffold.Client

def interfacePath (n : Names) : String := "interfaces/" ++ n.name ++ ".interface.ts"

def servicePath (n : Names) : String := "services/" ++ n.name ++ ".service.ts"

def storePath (n : Names) : String := "stores/" ++ n.name ++ ".store.ts"

/-- The file that registers the routes of the views. -/
def routePath : String := "config.ts"

/-- The type of what is sent to make an entity. -/
def createType (n : Names) : String := "Create" ++ n.capitalized ++ "Dto"

/-- The type of what is sent to change an entity. -/
def updateType (n : Names) : String := "Update" ++ n.capitalized ++ "Dto"

/-- The function that makes a service. -/
def useService (n : Names) : String := "use" ++ n.capitalized ++ "Service"

/-- The function that makes a store. -/
def useStore (n : Names) : String := "use" ++ n.capitalized ++ "Store"

/-- The types that the service and the store of an entity are written against. -/
structure EntityTypes where
  imported : List String
  /-- The type of what is received. -/
  received : String
  created : String
  updated : String
  /-- The entity whose interfaces declare them. -/
  owner : Names
deriving Repr, DecidableEq

def EntityTypes.ofOwner (n : Names) : EntityTypes where
  imported := [n.capitalized, createType n, updateType n]
  received := n.capitalized
  created := createType n
  updated := updateType n
  owner := n

/-- The types of an entity that another one refers to. -/
def EntityTypes.ofRelated (owner related : Names) : EntityTypes where
  imported := [related.capitalized]
  received := related.capitalized
  created := "Partial<" ++ related.capitalized ++ ">"
  updated := "Partial<" ++ related.capitalized ++ ">"
  owner := owner

/-- The import of types from the interfaces of an entity. -/
def interfaceImport (n : Names) (types : List String) : Import where
  names := types
  source := "../interfaces/" ++ n.name ++ ".interface"
  typesOnly := true

/-- The import of the types that a service or a store is written against. -/
def EntityTypes.typeImport (t : EntityTypes) : Import :=
  interfaceImport t.owner t.imported

def serviceImport (n : Names) : Import where
  names := [useService n]
  source := "../services/" ++ n.name ++ ".service"

/-- The import of a store from a file in the given directory. -/
def storeImport (directory : String) (n : Names) : Import where
  names := [useStore n]
  source := directory ++ n.name ++ ".store"

/-! ### Members -/

/-- The function of a service that gets all entities. -/
def getAll (n : Names) : String := "get" ++ n.capitalizedPlural

/-- The function of a service that gets one entity. -/
def getOne (n : Names) : String := "get" ++ n.capitalized ++ "ById"

/-- The function of a store that fetches all entities. -/
def fetchAll (n : Names) : String := "fetch" ++ n.capitalizedPlural

/-- The function of a store that fetches one entity. -/
def fetchOne (n : Names) : String := "fetch" ++ n.capitalized ++ "ById"

/-- The function that makes an entity. -/
def create (n : Names) : String := "create" ++ n.capitalized

/-- The function that changes an entity. -/
def update (n : Names) : String := "update" ++ n.capitalized

/-- The function that deletes an entity. -/
def delete (n : Names) : String := "delete" ++ n.capitalized

/-- The function of a service that changes one field. -/
def updateField : String := "updateField"

/-- The value of a store that holds one entity. -/
def current (n : Names) : String := "current" ++ n.capitalized

def serviceMembers (n : Names) : List String :=
  [getAll n, getOne n, create n, update n, delete n, updateField]

def storeMembers (n : Names) : List String :=
  [n.plural, current n, "loading", "error", fetchAll n, fetchOne n, create n, update n, delete n]

def serviceConst (n : Names) : String := n.name ++ "Service"

def storeConst (n : Names) : String := n.name ++ "Store"

end Scaffold.Client
