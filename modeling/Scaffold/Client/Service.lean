import Scaffold.Client.Layout
import Scaffold.Settings
import Scaffold.Text.Literal

/-!
# Services

A service is the client's access to the resource of an entity: a function for each operation, which
reads the token of the user anew for every call. Related entities get a service too.
-/

namespace Scaffold.Client

/-- A function of a service: its name, parameters, result and body. -/
structure ServiceFunction where
  name : String
  parameters : String
  result : String
  body : List String

def ServiceFunction.lines (f : ServiceFunction) : List String :=
  ["  const " ++ f.name ++ " = async (" ++ f.parameters ++ "): Promise<" ++ f.result ++ "> => \x7b"]
    ++ f.body ++ ["  \x7d"]

/-- The address of the resource. -/
def endpoint (n : Names) : String := "$\x7bAPI_URL\x7d/" ++ n.path

/-- The address of one entity. -/
def itemEndpoint (n : Names) : String := "$\x7bAPI_URL\x7d/" ++ n.path ++ "/$\x7bid\x7d"

/-- A request whose answer is returned. -/
def requestBody (request : String) : List String :=
  ["    const response = await axios." ++ request, "    return response.data.data"]

def serviceFunctions (n : Names) (t : EntityTypes) : List ServiceFunction :=
  [{ name := getAll n, parameters := "", result := t.received ++ "[]"
     body := requestBody ("get(`" ++ endpoint n ++ "`, authHeaders())") },
   { name := getOne n, parameters := "id: string", result := t.received
     body := requestBody ("get(`" ++ itemEndpoint n ++ "`, authHeaders())") },
   { name := create n, parameters := "data: " ++ t.created, result := t.received
     body := requestBody ("post(`" ++ endpoint n ++ "`, data, authHeaders())") },
   { name := update n, parameters := "id: string, data: " ++ t.updated, result := t.received
     body := requestBody ("put(`" ++ itemEndpoint n ++ "`, data, authHeaders())") },
   { name := delete n, parameters := "id: string", result := "void"
     body := ["    await axios.delete(`" ++ itemEndpoint n ++ "`, authHeaders())"] },
   { name := updateField, parameters := "id: string, field: string, value: unknown"
     result := t.received
     body := ["    const updateData = \x7b", "      [field]: value", "    \x7d"]
       ++ requestBody ("put(`" ++ itemEndpoint n ++ "`, updateData, authHeaders())") }]

def serviceHead (s : Settings) (t : EntityTypes) : List String :=
  [t.typeImport.line,
    "import axios from 'axios'",
    "",
    "const API_URL = import.meta.env." ++ s.apiUrlVariable,
    "",
    "const authHeaders = () => (\x7b",
    "  headers: \x7b",
    "    Authorization: `Bearer $\x7blocalStorage.getItem(" ++ Text.literal s.tokenKey ++ ")\x7d`",
    "  \x7d",
    "\x7d)",
    ""]

def serviceLines (s : Settings) (n : Names) (t : EntityTypes) : List String :=
  serviceHead s t
    ++ ["export const " ++ useService n ++ " = () => \x7b"]
    ++ (serviceFunctions n t).flatMap (fun f => f.lines ++ [""])
    ++ ["  return \x7b"] ++ commaSeparated ((serviceMembers n).map ("    " ++ ·))
    ++ ["  \x7d", "\x7d"]

/-- The content of the file with the service of an entity. -/
def serviceText (s : Settings) (n : Names) : String :=
  Text.joinLines (serviceLines s n (.ofOwner n))

/-- The content of the file with the service of a related entity. -/
def relatedServiceText (s : Settings) (owner related : Names) : String :=
  Text.joinLines (serviceLines s related (.ofRelated owner related))

end Scaffold.Client
