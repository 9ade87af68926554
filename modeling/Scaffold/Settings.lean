import Scaffold.Artifact
import Scaffold.Identifier
import Scaffold.RelativePath
import Scaffold.View.Theme

/-!
# Settings

Settings shape a generated module without changing its entity: where its two sides go, which of them
are generated, and the names of what the project around it provides. A setting is changed by
`Settings.assign`, which reads the new value by the same rules as `Settings.ofValue`.
-/

namespace Scaffold

/-- The settings of a run. -/
structure Settings where
  frontendRoot : RelativePath := ⟨["src", "_frontends", "dashboard"], by decide⟩
  backendRoot : RelativePath := ⟨["src", "modules"], by decide⟩
  generateFrontend : Bool := true
  generateBackend : Bool := true
  /-- The variable with the address of the service. -/
  apiUrlVariable : String := "VITE_API_URL"
  /-- The variable that picks the framework of the views. -/
  frameworkVariable : String := "VITE_UI_FRAMEWORK"
  defaultTheme : ThemeName := .bootstrap
  /-- The key under which the browser stores the token. -/
  tokenKey : String := "idToken"
  dashboardLayout : String := "DashboardLayout"
  navOrder : Nat := 1
  navIcon : String := "list"
  adminRole : String := "ADMIN"
  authMiddleware : String := "validateFirebaseToken"
  roleGuard : String := "roleGuard"
  overwriteExisting : Bool := true
  /-- The number of documents that may be worked on at the same time. -/
  maxWorkers : Nat := 4
deriving Repr, DecidableEq, Inhabited

/-- The names of the settings. -/
inductive Setting where
  | frontendRoot
  | backendRoot
  | generateFrontend
  | generateBackend
  | apiUrlVariable
  | frameworkVariable
  | defaultTheme
  | tokenKey
  | dashboardLayout
  | navOrder
  | navIcon
  | adminRole
  | authMiddleware
  | roleGuard
  | overwriteExisting
  | maxWorkers
deriving Repr, DecidableEq, Inhabited

namespace Setting

open Shape

def name : Setting → String
  | frontendRoot => "frontend_root"
  | backendRoot => "backend_root"
  | generateFrontend => "generate_frontend"
  | generateBackend => "generate_backend"
  | apiUrlVariable => "api_url_env"
  | frameworkVariable => "ui_framework_env"
  | defaultTheme => "default_theme"
  | tokenKey => "token_storage_key"
  | dashboardLayout => "dashboard_layout"
  | navOrder => "nav_order"
  | navIcon => "nav_icon"
  | adminRole => "admin_role"
  | authMiddleware => "auth_middleware"
  | roleGuard => "role_guard"
  | overwriteExisting => "overwrite_existing"
  | maxWorkers => "max_workers"

/-- All settings, in the order in which they are read. -/
def all : List Setting :=
  [frontendRoot, backendRoot, generateFrontend, generateBackend, apiUrlVariable, frameworkVariable,
    defaultTheme, tokenKey, dashboardLayout, navOrder, navIcon, adminRole, authMiddleware,
    roleGuard, overwriteExisting, maxWorkers]

def checkedText (accepts : String → Bool) (complaint : String → String) (v : Value) :
    Except Cause String := do
  let s ← text v
  if accepts s then .ok s else .error (.refused (complaint s))

def root (v : Value) : Except Cause RelativePath := do
  let s ← text v
  match RelativePath.ofText? s with
  | some p => .ok p
  | none =>
    .error (.refused ("Module root must be a relative path inside the project: '" ++ s ++ "'"))

def variableName (v : Value) : Except Cause String :=
  checkedText Identifier.isVariable
    (fun s => "Invalid environment variable name: '" ++ s ++ "'") v

def identifier (v : Value) : Except Cause String :=
  checkedText Identifier.isIdentifier (fun s => "Not a valid identifier: '" ++ s ++ "'") v

def update (setting : Setting) (v : Value) : Except Cause (Settings → Settings) :=
  match setting with
  | frontendRoot => (root v).map fun p s => { s with frontendRoot := p }
  | backendRoot => (root v).map fun p s => { s with backendRoot := p }
  | generateFrontend => (flag v).map fun b s => { s with generateFrontend := b }
  | generateBackend => (flag v).map fun b s => { s with generateBackend := b }
  | apiUrlVariable => (variableName v).map fun t s => { s with apiUrlVariable := t }
  | frameworkVariable => (variableName v).map fun t s => { s with frameworkVariable := t }
  | defaultTheme => (choice ThemeName.words v).map fun t s => { s with defaultTheme := t }
  | tokenKey => (text v).map fun t s => { s with tokenKey := t }
  | dashboardLayout => (identifier v).map fun t s => { s with dashboardLayout := t }
  | navOrder => (integerFrom 0 v).map fun n s => { s with navOrder := n.toNat }
  | navIcon => (text v).map fun t s => { s with navIcon := t }
  | adminRole => (identifier v).map fun t s => { s with adminRole := t }
  | authMiddleware => (identifier v).map fun t s => { s with authMiddleware := t }
  | roleGuard => (identifier v).map fun t s => { s with roleGuard := t }
  | overwriteExisting => (flag v).map fun b s => { s with overwriteExisting := b }
  | maxWorkers => (integerBetween 1 64 v).map fun n s => { s with maxWorkers := n.toNat }

/-- The entry of a setting. -/
def slot (setting : Setting) : Slot := .plain setting.name

/-- Reads the entry of a setting; without one the setting stays as it is. -/
def readEntry (entries : Entries) (setting : Setting) : Checked (Settings → Settings) :=
  setting.slot.optional entries id fun v => .ofExcept (setting.update v)

end Setting

namespace Settings

open Shape

def get (s : Settings) : Setting → Value
  | .frontendRoot => .text s.frontendRoot.text
  | .backendRoot => .text s.backendRoot.text
  | .generateFrontend => .bool s.generateFrontend
  | .generateBackend => .bool s.generateBackend
  | .apiUrlVariable => .text s.apiUrlVariable
  | .frameworkVariable => .text s.frameworkVariable
  | .defaultTheme => .text s.defaultTheme.word
  | .tokenKey => .text s.tokenKey
  | .dashboardLayout => .text s.dashboardLayout
  | .navOrder => .int s.navOrder
  | .navIcon => .text s.navIcon
  | .adminRole => .text s.adminRole
  | .authMiddleware => .text s.authMiddleware
  | .roleGuard => .text s.roleGuard
  | .overwriteExisting => .bool s.overwriteExisting
  | .maxWorkers => .int s.maxWorkers

def toValue (s : Settings) : Value :=
  .map (Setting.all.map fun setting => (.text setting.name, s.get setting))

/-- Reads the entries of some settings, one after another. -/
def readUpdates (entries : Entries) : List Setting → Checked (Settings → Settings)
  | [] => .ok id
  | setting :: rest =>
    (fun first others s => others (first s))
      <$> setting.readEntry entries <*> readUpdates entries rest

/-- Reads the entries of settings; what is absent has its default. -/
def read (entries : Entries) : Checked Settings :=
  (fun update _ => update {})
    <$> readUpdates entries Setting.all <*> noExtras (Setting.all.map Setting.slot) entries

def recordName : String := "GenerationConfig"

def ofValue (v : Value) : Except Mismatch Settings :=
  (record recordName read v).named recordName

def setting? (name : String) : Option Setting :=
  Setting.all.find? (·.name == name)

/-- Changes the setting of a name. A name that starts with an underscore is no setting, but may be
assigned, without effect. -/
def assign (s : Settings) (name : String) (v : Value) : Except Mismatch Settings :=
  match setting? name with
  | some setting =>
    match setting.update v with
    | .ok change => .ok (change s)
    | .error cause => .error ⟨recordName, [⟨[.key name], cause⟩]⟩
  | none =>
    if name.startsWith "_" then .ok s
    else .error ⟨recordName, [⟨[.key name], .unknownSetting name⟩]⟩

def root (s : Settings) : Side → RelativePath
  | .frontend => s.frontendRoot
  | .backend => s.backendRoot

def generates (s : Settings) : Side → Bool
  | .frontend => s.generateFrontend
  | .backend => s.generateBackend

end Settings

end Scaffold
