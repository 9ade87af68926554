import Scaffold.Client.Layout
import Scaffold.Text.Lines
import Scaffold.Text.Literal

/-!
# Stores

A store holds the entities that the client has received, and keeps them in step with its service.
Fetching all entities of a store also fetches those that it refers to; these have stores too.
-/

namespace Scaffold.Client

/-- An asynchronous function of a store, which reports whether it is at work and what went wrong. -/
structure StoreAction where
  name : String
  parameters : String
  body : List String
  /-- The literal of the message for an error without one. -/
  fallback : String
  /-- What is done about an error beside keeping its message. -/
  onError : List String

def StoreAction.lines (a : StoreAction) : List String :=
  ["  const " ++ a.name ++ " = async (" ++ a.parameters ++ ") => \x7b",
    "    loading.value = true",
    "    error.value = null",
    "    try \x7b"]
    ++ a.body
    ++ ["    \x7d catch (e) \x7b",
      "      error.value = e instanceof Error ? e.message : " ++ a.fallback]
    ++ a.onError
    ++ ["    \x7d finally \x7b",
      "      loading.value = false",
      "    \x7d",
      "  \x7d"]

/-- The call that fetches the entities of a related store. -/
def relatedFetch (n : Names) : String :=
  "        " ++ storeConst n ++ "." ++ fetchAll n ++ "()"

/-- The body of the action that fetches everything. -/
def fetchAllBody (n : Names) (related : List Names) : List String :=
  if related.isEmpty then
    ["      " ++ n.plural ++ ".value = await " ++ serviceConst n ++ "." ++ getAll n ++ "()"]
  else
    ["      await Promise.all([",
      "        " ++ serviceConst n ++ "." ++ getAll n ++ "().then(data => \x7b",
      "          " ++ n.plural ++ ".value = data",
      "        \x7d),"]
      ++ commaSeparated (related.map relatedFetch)
      ++ ["      ])"]

/-- What an action does that has to tell its caller about an error. -/
def rethrow : List String := ["      throw e"]

def storeActions (n : Names) (t : EntityTypes) (related : List Names) : List StoreAction :=
  let cap := n.capitalized
  let service := serviceConst n
  [{ name := fetchAll n, parameters := "", body := fetchAllBody n related
     fallback := Text.literal ("Failed to fetch " ++ n.plural), onError := [] },
   { name := fetchOne n, parameters := "id: string"
     body := ["      " ++ current n ++ ".value = await " ++ service ++ "." ++ getOne n ++ "(id)"]
     fallback := "'Failed to fetch " ++ n.name ++ "'"
     onError := ["      " ++ current n ++ ".value = null"] },
   { name := create n, parameters := "data: " ++ t.created
     body := ["      const new" ++ cap ++ " = await " ++ service ++ "." ++ create n ++ "(data)",
       "      " ++ n.plural ++ ".value.push(new" ++ cap ++ ")",
       "      return new" ++ cap]
     fallback := Text.literal ("Failed to create " ++ n.name), onError := rethrow },
   { name := update n, parameters := "id: string, data: " ++ t.updated
     body := ["      const updated" ++ cap ++ " = await " ++ service ++ "." ++ update n
         ++ "(id, data)",
       "      const index = " ++ n.plural ++ ".value.findIndex(item => item._id === id)",
       "      if (index !== -1) \x7b",
       "        " ++ n.plural ++ ".value[index] = updated" ++ cap,
       "      \x7d",
       "      if (" ++ current n ++ ".value?._id === id) \x7b",
       "        " ++ current n ++ ".value = updated" ++ cap,
       "      \x7d",
       "      return updated" ++ cap]
     fallback := Text.literal ("Failed to update " ++ n.name), onError := rethrow },
   { name := delete n, parameters := "id: string"
     body := ["      await " ++ service ++ "." ++ delete n ++ "(id)",
       "      " ++ n.plural ++ ".value = " ++ n.plural ++ ".value.filter(item => item._id !== id)",
       "      if (" ++ current n ++ ".value?._id === id) \x7b",
       "        " ++ current n ++ ".value = null",
       "      \x7d"]
     fallback := Text.literal ("Failed to delete " ++ n.name), onError := rethrow }]

def storeImports (n : Names) (t : EntityTypes) (related : List Names) : List Import :=
  [t.typeImport, serviceImport n] ++ related.map (storeImport "./")

/-- The constants that a store is made of, before its actions. -/
def storeState (n : Names) (t : EntityTypes) (related : List Names) : List String :=
  ["  const " ++ n.plural ++ " = ref<" ++ t.received ++ "[]>([])",
    "  const " ++ current n ++ " = ref<" ++ t.received ++ " | null>(null)",
    "  const loading = ref(false)",
    "  const error = ref<string | null>(null)",
    "",
    "  const " ++ serviceConst n ++ " = " ++ useService n ++ "()"]
    ++ related.map fun r => "  const " ++ storeConst r ++ " = " ++ useStore r ++ "()"

def storeLines (n : Names) (t : EntityTypes) (related : List Names) : List String :=
  ["import \x7b defineStore \x7d from 'pinia'", "import \x7b ref \x7d from 'vue'"]
    ++ (storeImports n t related).map Import.line
    ++ ["", "export const " ++ useStore n ++ " = defineStore('" ++ n.name ++ "', () => \x7b"]
    ++ storeState n t related ++ [""]
    ++ (storeActions n t related).flatMap (fun a => a.lines ++ [""])
    ++ ["  return \x7b"] ++ commaSeparated ((storeMembers n).map ("    " ++ ·))
    ++ ["  \x7d", "\x7d)"]

/-- The content of the file with the store of an entity. -/
def storeText (n : Names) (related : List Names) : String :=
  Text.joinLines (storeLines n (.ofOwner n) related)

/-- The content of the file with the store of a related entity. -/
def relatedStoreText (owner related : Names) : String :=
  Text.joinLines (storeLines related (.ofRelated owner related) [])

end Scaffold.Client
