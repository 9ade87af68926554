import Scaffold.Client.Route
import Scaffold.Proofs.Client.Store
import Scaffold.Proofs.Reference.Layout
import Scaffold.Proofs.View.Fields
import Scaffold.Server.Routes

/-!
# What the templates refer to

For each kind of file there is what it imports, what it makes and which members it takes, and there
are its lines with placeholders for the names in them. Lines for related entities, fields and
settings are as many as these, so each of them has a text of its own. A name that may have a line
feed behind it is looked at with the line feed and without. All these texts are closed: what their
lines refer to is evaluated once (`templates_refer`).
-/

namespace Scaffold

open Text Reading

/-! ### Services -/

namespace Client

/-- The library that a service imports. -/
def serviceLibrary : Import := ⟨["axios"], "axios", false⟩

/-- The lines of a service that import. -/
def serviceImportLines (t : EntityTypes) : List String :=
  [t.typeImport.line, "import axios from 'axios'"]

/-! ### Stores -/

/-- What a store imports from outside its module. -/
def storeLibraries : List Import := [⟨["defineStore"], "pinia", false⟩, ⟨["ref"], "vue", false⟩]

/-- What is made in a store. -/
def storeMade (n : Names) : List (String × String) := [(serviceConst n, useService n)]

/-- The members that are taken in all stores. -/
def commonTaken : List (String × String) :=
  [("loading", "value"), ("error", "value"), ("value", "push"), ("value", "findIndex"),
    ("value", "filter"), ("value", "_id"), ("item", "_id"), ("e", "message"), ("Promise", "all")]

/-- The members that are taken in a store. -/
def storeTaken (n : Names) : List (String × String) :=
  (serviceMembers n).map (serviceConst n, ·) ++ [(n.plural, "value"), (current n, "value")]
    ++ commonTaken

/-- The lines that a store may have whatever it relates to. -/
def ownStoreLines (n : Names) (t : EntityTypes) : List String :=
  storeLines n t [] ++ [joinLine] ++ ownRequest n ++ [joinEnd]

/-- The lines that a store may have for a related entity. -/
def relatedStoreLines (r : Names) : List String :=
  [importLine r, instanceLine r, relatedFetch r, relatedFetch r ++ ","]

/-- The line of a store that makes its service. -/
def serviceLine (n : Names) : String :=
  "  const " ++ serviceConst n ++ " = " ++ useService n ++ "()"

/-- The line of a store that adds an entity. -/
def pushLine (n : Names) : String :=
  "      " ++ n.plural ++ ".value.push(new" ++ n.capitalized ++ ")"

/-- The line of a store that forgets the current entity. -/
def clearLine (n : Names) : String := "      " ++ current n ++ ".value = null"

/-! ### The registration -/

/-- What the registration imports from outside its module. -/
def routeLibraries : List Import := [⟨["RouteRecordRaw"], "vue-router", true⟩]

/-- The source of the view for a framework. -/
def viewSource (theme : ThemeName) (n : Names) : String := "./" ++ viewPath theme n

/-- The sources of the views that the registration imports when they are needed. -/
def viewSources (n : Names) : List String := [viewSource .fomantic n, viewSource .bootstrap n]

/-- The line that picks a framework. -/
def frameworkLine (theme : ThemeName) (variable' : String) : String :=
  "const UI_FRAMEWORK = import.meta.env." ++ variable' ++ " || '" ++ theme.word ++ "'"

/-- The line with the layout. -/
def layoutLine (layout : String) : String := "    layout: '" ++ layout ++ "',"

end Client

/-! ### Views -/

namespace View

open Client

/-- What a view imports from outside its module. -/
def viewLibraries (t : Theme) : List Import :=
  [⟨["ref", "onMounted"], "vue", false⟩,
    ⟨["TableColumn"], "../../../../types/datatable", true⟩,
    ⟨["DatatableComponent"],
      "@/components/dashboard/" ++ t.componentDir ++ "/DatatableComponent.vue", false⟩,
    ⟨["Swal"], "sweetalert2", false⟩, ⟨["Modal"], t.modalModule, false⟩]

/-- What is made in a view. -/
def viewMade (n : Names) : List (String × String) :=
  [(serviceConst n, useService n), ("datatableRef", "ref"), (n.name ++ "Modal", "ref")]

/-- The members that are taken in all views. -/
def sharedTaken : List (String × String) :=
  [("isEditing", "value"), ("editingId", "value"), ("datatableRef", "value"),
    ("value", "forceRedraw"), ("modal", "show"), ("modal", "hide"), ("Swal", "fire"),
    ("result", "isConfirmed"), ("console", "error")]

/-- The members that are taken in a view. -/
def viewTaken (n : Names) : List (String × String) :=
  (serviceMembers n).map (serviceConst n, ·)
    ++ [(n.name ++ "Modal", "value"), (formConst n, "value")]
    ++ sharedTaken

/-- The members that a view takes for a field. -/
def keyTaken (n : Names) (key : String) : List (String × String) :=
  [(formConst n, "value"), ("value", key), ("data", key)]

/-- The keys of the fields that a script has members for. -/
def Spec.keys (spec : Spec) : List String :=
  spec.defaults.map (·.1) ++ spec.payloadKeys ++ spec.columns.map (·.key)

/-- What a view takes of the store of a related entity for a choice. -/
def storeChoice (r : Names) : String × String := (storeConst r, r.plural)

/-- The view of an entity that shows nothing. -/
def Spec.bare (n : Names) : Spec where
  names := n
  form := []
  columns := []
  defaults := []
  payloadKeys := []
  related := []

@[simp] theorem Spec.bare_names (n : Names) : (Spec.bare n).names = n := rfl

/-- The lines of a script between those that open and close it. -/
def innerLines (t : Theme) (spec : Spec) : List String :=
  (importLines spec).map t.line ++ ([""] ++ [""].intercalate (scriptParts spec))

/-- The lines that a script may have whatever it shows. -/
def ownViewLines (t : Theme) (n : Names) : List String :=
  innerLines t (.bare n) ++ ["  \x7b", "  \x7d", "  \x7d,"]

/-- What the options for the entities of a store go through. -/
def choiceExpression (r : Names) : String := r.name ++ " in " ++ storeConst r ++ "." ++ r.plural

/-- The code that a view may have for a related entity. -/
def relatedViewLines (r : Names) : List String :=
  [(storeImport "../stores/" r).line, "const " ++ storeConst r ++ " = " ++ useStore r ++ "()",
    "  " ++ storeConst r ++ "." ++ fetchAll r ++ "()", choiceExpression r]

/-- What stands in front of the members of objects. -/
def indents : List String := ["  ", "    ", "      ", "        "]

/-- The members of objects that a script may have for a field, but for those with quoted texts. -/
def keyMembers (n : Names) (key : String) : List String :=
  [key ++ ": " ++ formConst n ++ ".value." ++ key, key ++ ": data." ++ key, "data: '" ++ key ++ "'"]
    ++ FieldSpec.fixedDefaults.map (key ++ ": " ++ ·)
    ++ FieldSpec.columnTypes.map ("type: '" ++ · ++ "'") ++ ["referenceName: 'name'"]

/-- The lines with such members. -/
def keyLines (n : Names) (key : String) : List String :=
  indents.flatMap fun blanks => (keyMembers n key).flatMap fun member =>
    [blanks ++ member, blanks ++ member ++ ","]

end View

/-! ### The server side -/

namespace Server

/-- What the model imports. -/
def modelLibraries : List Import := [⟨["mongoose", "Document", "Schema"], "mongoose", false⟩]

/-- The line of the model that imports. -/
def libraryLine : String := "import mongoose, \x7b Document, Schema \x7d from 'mongoose';"

/-- The line that registers the model. -/
def registrationLine (n : Names) : String :=
  "export const " ++ modelConst n ++ " = mongoose.model<" ++ documentType n ++ ">('"
    ++ n.capitalized ++ "', " ++ n.name ++ "Schema);"

/-- The lines of the model that refer to the model of a name. -/
def storedReferences (target : String) : List String :=
  ["    type: [\x7b type: Schema.Types.ObjectId, ref: '" ++ target ++ "' \x7d],",
    "    ref: '" ++ target ++ "',"]

/-- What the controller imports. -/
def controllerImports (n : Names) : List Import :=
  [⟨["Request", "Response"], "express", false⟩, ⟨[modelConst n, documentType n], "./model", false⟩]

/-- What the routes import, if the names of the middleware do not break the line. -/
def routesImports (auth guard : String) (n : Names) : List Import :=
  [⟨["Router"], "express", false⟩, ⟨[modelConst n], "./model", false⟩,
    ⟨["ApiatoNoSQL"], "../../libs/apiato/no-sql/apiato", false⟩,
    ⟨[auth, guard], "../../middleware/auth.middleware", false⟩,
    ⟨["UserRole"], "../../types/user", false⟩, ⟨[controllerClass n], "./controller", false⟩]

/-- What the routes make. -/
def routesMade : List (String × String) := [("router", "Router")]

/-- The members that the routes take. -/
def routesTaken (role : String) : List (String × String) :=
  [("router", "use"), ("router", "post"), ("router", "get"), ("router", "put"),
    ("router", "delete"), ("apiato", "datatable_aggregate"), ("apiato", "getMany"),
    ("apiato", "getOneById"), ("apiato", "createOne"), ("apiato", "updateById"),
    ("apiato", "findIdAndDelete"), ("apiato", "findUpdateOrCreate"), ("apiato", "findUpdate"),
    ("apiato", "getOneWhere"), ("UserRole", role)]

/-- Settings with placeholders for the names in the routes, and with what stands behind them. -/
def closedSettings (auth guard role : String) : Settings :=
  { (default : Settings) with
    authMiddleware := otherPlaceholder ++ auth
    roleGuard := secondPlaceholder ++ guard
    adminRole := thirdPlaceholder ++ role }

end Server

/-! ### The texts with placeholders -/

open Client View Server in
/-- What the texts with placeholders refer to. -/
theorem templates_refer :
    ((∀ t ∈ closedTypes,
        holdsOf (citesOnly [t.typeImport, serviceLibrary] []) (serviceImportLines t) = true
          ∧ holdsOf (refersOnly (storeLibraries ++ storeImports .placeholders t [])
            (storeMade .placeholders) (storeTaken .placeholders)) (ownStoreLines .placeholders t)
              = true)
      ∧ holdsOf (refersOnly [storeImport "./" .placeholders] [storeInstance .placeholders]
        [storeFetch .placeholders]) (relatedStoreLines .placeholders) = true
      ∧ (holdsOf (importsAs (serviceImport .placeholders))
          [(serviceImport .placeholders).line] = true
        ∧ holdsOf (importsAs (storeImport "./" .placeholders)) [importLine .placeholders] = true)
      ∧ (holdsOf (makes (serviceConst .placeholders, useService .placeholders))
          [serviceLine .placeholders] = true
        ∧ holdsOf (makes (storeInstance .placeholders)) [instanceLine .placeholders] = true)
      ∧ holdsOf (takes (Names.placeholders.plural, "value")) [pushLine .placeholders] = true
      ∧ holdsOf (takes (current .placeholders, "value")) [clearLine .placeholders] = true)
    ∧ (holdsOf (citesOnly routeLibraries (viewSources .placeholders))
        (routeLines default "1" .placeholders) = true
      ∧ ∀ back ∈ ["", "\n"], holdsOf (citesOnly [] []) [layoutLine (otherPlaceholder ++ back),
        frameworkLine .bootstrap (otherPlaceholder ++ back),
        frameworkLine .fomantic (otherPlaceholder ++ back)] = true)
    ∧ ((∀ t ∈ Theme.builtIn,
        holdsOf (refersOnly (viewLibraries t ++ viewImports (.bare .placeholders))
          (viewMade .placeholders) (viewTaken .placeholders)) (ownViewLines t .placeholders) = true)
      ∧ holdsOf (refersOnly [storeImport "../stores/" .placeholders] [storeInstance .placeholders]
        [storeFetch .placeholders, storeChoice .placeholders])
        (relatedViewLines .placeholders) = true
      ∧ ∀ back ∈ ["", "\n"], holdsOf (refersOnly [] [] (keyTaken .placeholders otherPlaceholder))
        (keyLines .placeholders (otherPlaceholder ++ back)) = true)
    ∧ (holdsOf (citesOnly modelLibraries []) [libraryLine, registrationLine .placeholders] = true
      ∧ holdsOf (citesOnly [] []) (storedReferences otherPlaceholder) = true
      ∧ holdsOf (refersOnly (controllerImports .placeholders) [] []) (controllerLines .placeholders)
        = true
      ∧ ∀ auth ∈ ["", "\n"], ∀ guard ∈ ["", "\n"], ∀ role ∈ ["", "\n"],
        holdsOf (refersOnly (routesImports otherPlaceholder secondPlaceholder .placeholders)
          routesMade (routesTaken thirdPlaceholder))
          (routesLines (closedSettings auth guard role) .placeholders) = true) := by
  decide +kernel

end Scaffold
