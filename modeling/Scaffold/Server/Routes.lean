import Scaffold.Server.Model
import Scaffold.Settings

/-!
# Controller and routes of the server

The controller is a class for methods of one's own. The routes need a token everywhere, and the role
of an administrator for everything but plain reading.
-/

namespace Scaffold.Server

def controllerPath : String := "controller.ts"

def routesPath : String := "routes.ts"

def controllerClass (n : Names) : String := n.capitalized ++ "Controller"

def controllerLines (n : Names) : List String :=
  ["import \x7b Request, Response \x7d from 'express';",
    (Import.mk [modelConst n, documentType n] "./model" false).line ++ ";",
    "",
    "interface ApiError \x7b",
    "  message: string,",
    "  [key: string]: any",
    "\x7d",
    "",
    "export class " ++ controllerClass n ++ " \x7b",
    "  // Add custom controller methods here",
    "\x7d"]

/-- The content of the file with the controller. -/
def controllerText (n : Names) : String :=
  Text.joinLines (controllerLines n)

/-- The guard of the routes that only administrators may use. -/
def adminGuard (s : Settings) : String :=
  s.roleGuard ++ "([UserRole." ++ s.adminRole ++ "])"

def routesLines (s : Settings) (n : Names) : List String :=
  let model := modelConst n
  let validation := n.name ++ "Validation"
  let admin := adminGuard s
  ["import \x7b Router \x7d from 'express';",
    (Import.mk [model] "./model" false).line ++ ";",
    "import \x7b ApiatoNoSQL \x7d from '../../libs/apiato/no-sql/apiato';",
    (Import.mk [s.authMiddleware, s.roleGuard] "../../middleware/auth.middleware" false).line
      ++ ";",
    "import \x7b UserRole \x7d from '../../types/user';",
    (Import.mk [controllerClass n] "./controller" false).line ++ ";",
    "",
    "const router = Router();",
    "const apiato = new ApiatoNoSQL();",
    "",
    "// Authentication for every route",
    "router.use(" ++ s.authMiddleware ++ ");",
    "",
    "const " ++ validation ++ " = \x7b\x7d;",
    "const populationObject = \x7b\x7d;",
    "",
    "// Server-side paginated / searchable listing",
    "router.post('/datatable', " ++ admin ++ ", apiato.datatable_aggregate(" ++ model
      ++ ", [], '', \x7b allowDiskUse: true, search_by_field: true \x7d));",
    "",
    "// List",
    "router.get('/', apiato.getMany(" ++ model ++ ", populationObject));",
    "",
    "// Get one by id",
    "router.get('/:id', apiato.getOneById(" ++ model ++ ", populationObject));",
    "",
    "// Create",
    "router.post('/', " ++ admin ++ ", apiato.createOne(" ++ model ++ ", " ++ validation
      ++ ", populationObject, \x7b customValidationCode: 400 \x7d));",
    "",
    "// Update by id",
    "router.put('/:id', " ++ admin ++ ", apiato.updateById(" ++ model ++ ", " ++ validation
      ++ ", populationObject, \x7b updateFieldName: 'updatedAt' \x7d));",
    "",
    "// Delete by id",
    "router.delete('/:id', " ++ admin ++ ", apiato.findIdAndDelete(" ++ model ++ "));",
    "",
    "// Find-and-update helpers",
    "router.post('/find-update-create', " ++ admin ++ ", apiato.findUpdateOrCreate(" ++ model
      ++ ", " ++ validation ++ ", populationObject, \x7b updateFieldName: 'updatedAt' \x7d));",
    "",
    "router.put('/find-update', " ++ admin ++ ", apiato.findUpdate(" ++ model ++ ", " ++ validation
      ++ ", populationObject, \x7b updateFieldName: 'updatedAt' \x7d));",
    "",
    "router.get('/where/first', " ++ admin ++ ", apiato.getOneWhere(" ++ model
      ++ ", populationObject));",
    "",
    "export default router;"]

def routesText (s : Settings) (n : Names) : String :=
  Text.joinLines (routesLines s n)

end Scaffold.Server
