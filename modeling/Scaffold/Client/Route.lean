import Scaffold.Client.Layout
import Scaffold.Settings
import Scaffold.Text.Literal

/-!
# Routes of the client

The registration of an entity with the dashboard: its entry in the navigation and the route of its
list, whose view depends on the framework that the environment picks.
-/

namespace Scaffold.Client

def viewPath (theme : ThemeName) (n : Names) : String :=
  "views/" ++ n.capitalized ++ Text.capitalize theme.word ++ ".vue"

/-- The import of a view when its route is first visited. -/
def lazyView (theme : ThemeName) (n : Names) : String :=
  "/* @vite-ignore */ () => import('./" ++ viewPath theme n ++ "')"

/-- The shape of a registration. -/
def registrationInterface : List String :=
  ["export interface MicroFrontendConfig \x7b",
    "    name: string",
    "    routes: RouteRecordRaw[]",
    "    layout?: string",
    "    menu?: string",
    "    type?: string",
    "    navItem?: \x7b",
    "        label: string",
    "        order?: number",
    "        icon?: string",
    "    \x7d",
    "\x7d"]

/-- The lines of the file that registers an entity; `order` is the position in the navigation as it
is written. -/
def routeLines (s : Settings) (order : String) (n : Names) : List String :=
  ["import type \x7b RouteRecordRaw \x7d from 'vue-router'",
    "",
    "const UI_FRAMEWORK = import.meta.env." ++ s.frameworkVariable ++ " || '" ++ s.defaultTheme.word
      ++ "'",
    ""]
    ++ registrationInterface
    ++ ["",
    "export const config: MicroFrontendConfig = \x7b",
    "    name: " ++ Text.literal (n.capitalizedPlural ++ " Management") ++ ",",
    "    layout: '" ++ s.dashboardLayout ++ "',",
    "    type: 'dashboard',",
    "    navItem: \x7b",
    "        label: " ++ Text.literal n.capitalizedPlural ++ ",",
    "        order: " ++ order ++ ",",
    "        icon: " ++ Text.literal s.navIcon,
    "    \x7d,",
    "    routes: [",
    "        \x7b",
    "            path: '/" ++ n.plural ++ "',",
    "            name: '" ++ n.plural ++ "',",
    "            component: UI_FRAMEWORK === 'fomantic'",
    "                ? " ++ lazyView .fomantic n,
    "                : " ++ lazyView .bootstrap n ++ ",",
    "            meta: \x7b",
    "                title: " ++ Text.literal (n.capitalizedPlural ++ " List"),
    "            \x7d",
    "        \x7d",
    "    ]",
    "\x7d"]

/-- The content of the file that registers an entity, unless its position in the navigation has too
many digits. -/
def routeText? (s : Settings) (n : Names) : Option String :=
  (Text.decimal? s.navOrder).map fun order => Text.joinLines (routeLines s order n)

end Scaffold.Client
