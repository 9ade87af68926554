import Scaffold.Client.Interface
import Scaffold.Client.Service
import Scaffold.Client.Store
import Scaffold.Server.ApiDoc
import Scaffold.Server.Routes
import Scaffold.Validation
import Scaffold.View.Component

/-!
# The module of an entity

All artifacts of an entity in their order: the client side with a view for each theme, the server
side, and at the end a service and a store for each related entity. The settings say which sides are
generated.

`assemble` takes a value all the way to its artifacts. What keeps it from them is the rejection of
the document, a position in the navigation with too many digits, or a theme that cannot be made.
-/

namespace Scaffold

/-- Why an entity has no artifacts. -/
inductive RenderFault where
  /-- The position in the navigation has too many digits to be written. -/
  | overlong
  /-- A theme cannot be made. -/
  | theme (fault : ThemeFault)
deriving Repr, DecidableEq

def RenderFault.message : RenderFault → String
  | overlong => Text.overlongMessage
  | theme fault => fault.message

namespace Entity

/-- The files of the client side, views and related entities apart; the content of the one that
registers the entity is given. -/
def clientFilesWith (e : Entity) (s : Settings) (registration : String) : List Artifact :=
  [⟨.frontend, Client.interfacePath e.names, Client.interfaceText e⟩,
    ⟨.frontend, Client.servicePath e.names, Client.serviceText s e.names⟩,
    ⟨.frontend, Client.storePath e.names, Client.storeText e.names e.related⟩,
    ⟨.frontend, Client.routePath, registration⟩]

/-- The files of the client side, unless one of them cannot be written. -/
def clientFiles? (e : Entity) (s : Settings) : Option (List Artifact) :=
  (Client.routeText? s e.names).map (e.clientFilesWith s)

def views (e : Entity) (themes : List Theme) : List Artifact :=
  themes.map fun t => View.artifact t (.ofEntity e)

def serverFiles (e : Entity) (s : Settings) : List Artifact :=
  [⟨.backend, Server.modelPath, Server.modelText e⟩,
    ⟨.backend, Server.controllerPath, Server.controllerText e.names⟩,
    ⟨.backend, Server.routesPath, Server.routesText s e.names⟩,
    ⟨.backend, Server.apiDocPath, Server.apiDocText e⟩]

def relatedFiles (e : Entity) (s : Settings) (related : Names) : List Artifact :=
  [⟨.frontend, Client.servicePath related, Client.relatedServiceText s e.names related⟩,
    ⟨.frontend, Client.storePath related, Client.relatedStoreText e.names related⟩]

/-- The client side with views for themes that are made when the views are. A file that cannot be
written is the fault, or the first theme that cannot be made. -/
def clientSide (e : Entity) (themes : List (Except ThemeFault Theme)) (s : Settings) :
    Except RenderFault (List Artifact) :=
  match e.clientFiles? s with
  | none => .error .overlong
  | some files =>
    match themes.mapM id with
    | .error fault => .error (.theme fault)
    | .ok themes => .ok (files ++ e.views themes)

/-- All artifacts of an entity. -/
def render (e : Entity) (themes : List (Except ThemeFault Theme)) (s : Settings) :
    Except RenderFault (List Artifact) :=
  let server := if s.generateBackend then e.serverFiles s else []
  let related := if s.generateFrontend then e.related.flatMap (e.relatedFiles s) else []
  -- only the client side can fail
  (if s.generateFrontend then e.clientSide themes s else .ok []).map fun client =>
    client ++ server ++ related

end Entity

/-- Why a document has no artifacts. -/
inductive AssemblyFault where
  /-- It is not accepted. -/
  | rejected (rejection : Rejection)
  /-- Its entity is not rendered. -/
  | unrendered (fault : RenderFault)
deriving Repr, DecidableEq

/-- The artifacts of an entity, unless its document was rejected. -/
def renderAccepted (entity : Except Rejection Entity) (s : Settings) :
    Except AssemblyFault (List Artifact) :=
  match entity with
  | .error r => .error (.rejected r)
  | .ok e => (e.render (ThemeTable.builtIn.map ThemeTable.theme) s).mapError .unrendered

/-- The artifacts of an accepted document; any other is rejected before anything is rendered. -/
def Document.assembled (d : Document) (s : Settings) : Except AssemblyFault (List Artifact) :=
  renderAccepted (Entity.ofAccepted d) s

/-- The artifacts of a value that is an accepted document. -/
def assemble (v : Value) (s : Settings) : Except AssemblyFault (List Artifact) :=
  renderAccepted (Entity.ofValue v) s

end Scaffold
