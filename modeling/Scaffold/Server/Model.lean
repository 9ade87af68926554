import Scaffold.Entity
import Scaffold.Script
import Scaffold.Text.Lines

/-!
# The model

The server's model of an entity: the interface of its documents, the schema of the database with a
block for each field that clients send, and the model that both are registered under.
-/

namespace Scaffold.Server

def modelPath : String := "model.ts"

def modelConst (n : Names) : String := n.capitalized ++ "Model"

/-- The interface of the documents. -/
def documentType (n : Names) : String := "I" ++ n.capitalized

def documentMembers (e : Entity) : List String :=
  e.payload.map (fun m => "  " ++ m.key ++ ": " ++ m.documentType)
    ++ timestampFields.map fun key => "  " ++ key ++ ": Date"

/-- The lines of a schema block that say what is stored. Several related documents refer to their
model in any case, everything else only to a model with a name. -/
def storedLines (m : FieldMapping) : List String :=
  if m.related.isSome && m.isArray then
    ["    type: [\x7b type: Schema.Types.ObjectId, ref: '" ++ m.storedRef.getD "None" ++ "' \x7d],"]
  else
    ["    type: " ++ m.storedType ++ ","]
      ++ match m.storedRef with
        | some model => if model.isEmpty then [] else ["    ref: '" ++ model ++ "',"]
        | none => []

/-- The line of a schema block that lists the options. -/
def optionLines (m : FieldMapping) : List String :=
  if m.enumValues.isEmpty then [] else ["    enum: " ++ Text.literalList m.enumValues ++ ","]

/-- The line of a schema block that asks for a value. -/
def requiredLines (m : FieldMapping) : List String :=
  if m.required then ["    required: [true, " ++ Text.literal (m.key ++ " is required") ++ "],"]
  else []

/-- The block of a field in the database schema. -/
def schemaBlock (m : FieldMapping) : List String :=
  ["  " ++ m.key ++ ": \x7b"] ++ storedLines m ++ optionLines m ++ requiredLines m ++ ["  \x7d,"]

def modelLines (e : Entity) : List String :=
  let n := e.names
  ["import mongoose, \x7b Document, Schema \x7d from 'mongoose';",
    "",
    "export interface " ++ documentType n ++ " extends Document \x7b"]
    ++ commaSeparated (documentMembers e)
    ++ ["\x7d", "", "const " ++ n.name ++ "Schema = new Schema(\x7b"]
    -- the database adds the timestamps itself
    ++ e.payload.flatMap schemaBlock
    ++ ["\x7d, \x7b",
    "  timestamps: true",
    "\x7d);",
    "",
    "export const " ++ modelConst n ++ " = mongoose.model<" ++ documentType n ++ ">('"
      ++ n.capitalized ++ "', " ++ n.name ++ "Schema);"]

def modelText (e : Entity) : String :=
  Text.joinLines (modelLines e)

end Scaffold.Server
