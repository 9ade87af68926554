import Scaffold.Artifact
import Scaffold.Client.Route
import Scaffold.View.Behaviour

/-!
# Views

The view of an entity is a component with three blocks: markup, script and style. There is one view
for each theme.
-/

namespace Scaffold.View

/-- The block of the component with the style. -/
def styleLines : List String :=
  ["<style scoped>",
    "h2 i \x7b",
    "  vertical-align: middle;",
    "  margin-right: 0.5rem;",
    "\x7d",
    "</style>"]

def componentLines (spec : Spec) : List Line :=
  templateLines spec ++ plain [""] ++ scriptLines spec ++ plain ([""] ++ styleLines)

/-- The view of an entity in a theme. -/
def artifact (t : Theme) (spec : Spec) : Artifact where
  side := .frontend
  path := Client.viewPath t.name spec.names
  content := t.render (componentLines spec)

end Scaffold.View
