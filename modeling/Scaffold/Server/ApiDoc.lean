import Scaffold.Entity
import Scaffold.Text.DocText
import Scaffold.Text.Lines

/-!
# The API document

The API of an entity is documented in comments: one with the shape of the entity, and one for each
operation. A block is a comment of its own; its lines are given without what makes them a comment.
-/

namespace Scaffold.Server

def apiDocPath : String := "swagger.ts"

/-- A comment with the given lines. -/
def docBlock (lines : List String) : List String :=
  ["/**", " * @swagger"] ++ lines.map (" * " ++ ·) ++ [" */"]

def property (m : FieldMapping) : List String :=
  ["        " ++ m.key ++ ":", "          type: " ++ m.apiType]
    ++ (if m.apiType = "array" then
      ["          items:", "            type: string", "            format: objectId"] else [])
    ++ (match m.apiFormat with
      | some format => ["          format: " ++ format]
      | none => [])
    ++ (if m.enumValues.isEmpty then []
      else ["          enum: [" ++ ", ".intercalate (m.enumValues.map Text.docText) ++ "]"])

/-- The list of the fields that clients must send. -/
def requiredList (e : Entity) : List String :=
  if e.requiredKeys.isEmpty then []
  else "      required:" :: e.requiredKeys.map ("        - " ++ ·)

def timestampProperty (key : String) : List String :=
  ["        " ++ key ++ ":", "          type: string", "          format: date-time"]

/-- The shape of the entity. -/
def componentBlock (e : Entity) : List String :=
  ["components:", "  schemas:", "    " ++ e.names.capitalized ++ ":", "      type: object"]
    ++ requiredList e
    ++ ["      properties:",
    "        _id:",
    "          type: string",
    "          format: objectId",
    "          description: Auto-generated MongoDB ID"]
    ++ e.payload.flatMap property
    ++ timestampFields.flatMap timestampProperty

/-- A reference to the shape of the entity. -/
def reference (n : Names) : String := "$ref: '#/components/schemas/" ++ n.capitalized ++ "'"

def operationHead (n : Names) (path verb summary : String) : List String :=
  ["/" ++ path ++ ":",
    "  " ++ verb ++ ":",
    "    summary: " ++ summary,
    "    tags: [" ++ n.capitalizedPlural ++ "]",
    "    security:",
    "      - bearerAuth: []"]

/-- The parameter that names one entity. -/
def idParameter : List String :=
  ["    parameters:",
    "      - in: path",
    "        name: id",
    "        required: true",
    "        schema:",
    "          type: string"]

/-- The entity in the body of a request. -/
def bodyOf (n : Names) : List String :=
  ["    requestBody:",
    "      required: true",
    "      content:",
    "        application/json:",
    "          schema:",
    "            " ++ reference n]

/-- An answer without content. -/
def answer (status description : String) : List String :=
  ["      " ++ status ++ ":", "        description: " ++ description]

/-- An answer with the entity as its content. -/
def answerWith (n : Names) (status description : String) : List String :=
  answer status description
    ++ ["        content:",
    "          application/json:",
    "            schema:",
    "              " ++ reference n]

/-- The answer that there is no such entity. -/
def notFound (n : Names) : List String := answer "404" (n.capitalized ++ " not found")

def itemPath (n : Names) : String := n.path ++ "/\x7bid\x7d"

/-- The operation that lists entities. -/
def listBlock (n : Names) : List String :=
  operationHead n n.path "get" ("Get all " ++ n.plural)
    ++ ["    parameters:",
    "      - in: query",
    "        name: page",
    "        schema:",
    "          type: integer",
    "        description: Page number",
    "      - in: query",
    "        name: limit",
    "        schema:",
    "          type: integer",
    "        description: Items per page",
    "    responses:"]
    ++ answer "200" ("List of " ++ n.plural)
    ++ ["        content:",
    "          application/json:",
    "            schema:",
    "              type: object",
    "              properties:",
    "                data:",
    "                  type: array",
    "                  items:",
    "                    " ++ reference n,
    "                pagination:",
    "                  type: object",
    "                  properties:",
    "                    total:",
    "                      type: integer",
    "                    page:",
    "                      type: integer",
    "                    pages:",
    "                      type: integer"]

/-- The operation that gets one entity. -/
def getBlock (n : Names) : List String :=
  operationHead n (itemPath n) "get" ("Get a " ++ n.name ++ " by ID") ++ idParameter
    ++ ["    responses:"] ++ answerWith n "200" ("The " ++ n.name) ++ notFound n

/-- The operation that makes an entity. -/
def createBlock (n : Names) : List String :=
  operationHead n n.path "post" ("Create a new " ++ n.name) ++ bodyOf n
    ++ ["    responses:"] ++ answerWith n "201" (n.capitalized ++ " created")
    ++ answer "400" "Validation error"

/-- The operation that changes an entity. -/
def updateBlock (n : Names) : List String :=
  operationHead n (itemPath n) "put" ("Update a " ++ n.name) ++ idParameter ++ bodyOf n
    ++ ["    responses:"] ++ answerWith n "200" (n.capitalized ++ " updated") ++ notFound n

/-- The operation that deletes an entity. -/
def deleteBlock (n : Names) : List String :=
  operationHead n (itemPath n) "delete" ("Delete a " ++ n.name) ++ idParameter
    ++ ["    responses:"] ++ answer "204" (n.capitalized ++ " deleted") ++ notFound n

def apiDocBlocks (e : Entity) : List (List String) :=
  let n := e.names
  [componentBlock e, listBlock n, getBlock n, createBlock n, updateBlock n, deleteBlock n]

/-- The content of the file with the API document: its blocks with blank lines between them. -/
def apiDocText (e : Entity) : String :=
  Text.joinLines ([""].intercalate ((apiDocBlocks e).map docBlock))

end Scaffold.Server
