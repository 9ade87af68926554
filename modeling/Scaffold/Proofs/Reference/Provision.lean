import Scaffold.Proofs.Reference.Client
import Scaffold.Proofs.Reference.Component
import Scaffold.Proofs.Reference.Members
import Scaffold.Proofs.Reference.Model
import Scaffold.Proofs.Reference.Route
import Scaffold.Proofs.Reference.Server
import Scaffold.Proofs.Reference.Store
import Scaffold.Proofs.Reference.Target

/-!
# What files provide for each other

Each file of an entity finds what it imports: the types among the interfaces, services and stores
with the functions that make them and the members that are taken of these, the views where they are
registered, and the model and the controller on the server side.
-/

namespace Scaffold

open Text Reading Client

namespace Entity

section

variable {e : Entity} (he : e.WellNamed) (hnames : e.names.AreIdentifiers) {s : Settings}
  (hfrontend : s.generateFrontend = true)

include hfrontend in
theorem mem_interface :
    ⟨.frontend, interfacePath e.names, interfaceText e⟩ ∈ e.artifacts s :=
  mem_artifacts_of_mem_clientFiles hfrontend List.mem_cons_self

include hfrontend in
/-- There is a service for the entity and for each related one. -/
theorem exists_service {n : Names} (hn : n = e.names ∨ n ∈ e.related) :
    ∃ t, ⟨.frontend, servicePath n, joinLines (serviceLines s n t)⟩ ∈ e.artifacts s := by
  rcases hn with rfl | hn
  · exact ⟨.ofOwner e.names,
      mem_artifacts_of_mem_clientFiles hfrontend (List.mem_cons_of_mem _ List.mem_cons_self)⟩
  · exact ⟨.ofRelated e.names n,
      mem_artifacts_of_mem_relatedFiles hfrontend hn List.mem_cons_self⟩

include hfrontend in
theorem mem_relatedStore {r : Names} (hr : r ∈ e.related) :
    ⟨.frontend, storePath r, joinLines (storeLines r (.ofRelated e.names r) [])⟩ ∈ e.artifacts s :=
  mem_artifacts_of_mem_relatedFiles hfrontend hr (List.mem_cons_of_mem _ List.mem_cons_self)

include he in
theorem areIdentifiers_of_mem_related {r : Names} (hr : r ∈ e.related) : r.AreIdentifiers := by
  obtain ⟨target, htarget, rfl⟩ := he.related r hr
  exact Names.areIdentifiers_ofName htarget

/-- A file of the client side that stands in a directory. -/
structure StandsAt (a : Artifact) (address : Address) : Prop where
  side : a.side = .frontend
  path : a.path = address.path
  isPlain : address.IsPlain
  directory : address.directory ≠ none

variable {a : Artifact} {address : Address} (ha : StandsAt a address)

include he hnames hfrontend ha

/-- The interfaces provide types. -/
theorem provides_interface {types : List String}
    (htypes : ∀ name ∈ types, name ∈ [e.names.capitalized, createType e.names, updateType e.names]
      ∨ ∃ r ∈ e.related, name = r.capitalized) :
    ∃ b, Provides (e.artifacts s) a (interfaceImport e.names types).source b
      ∧ Satisfies a (interfaceImport e.names types) b := by
  obtain ⟨hcap, hcreate, hupdate, hrelated⟩ := mem_exports_interface he isScript_interface
  refine ⟨_, ⟨mem_interface hfrontend, ha.side.symm, ?_⟩, .of_typesOnly rfl fun name hname => ?_⟩
  · rw [ha.path]
    exact target?_interface ha.isPlain hnames ha.directory types
  · rcases htypes name hname with hname | ⟨r, hr, rfl⟩
    · simp only [List.mem_cons, List.not_mem_nil, or_false] at hname
      rcases hname with rfl | rfl | rfl
      · exact hcap
      · exact hcreate
      · exact hupdate
    · exact hrelated r hr

variable {made taken : List (String × String)}
  (huses : ∀ line ∈ a.codeLines, Uses made taken (tokens line))

include huses

/-- Services provide functions that make them. -/
theorem provides_service {n : Names} (hn : n = e.names ∨ n ∈ e.related)
    (hmade : ∀ p ∈ made, p.2 = useService n → p.1 = serviceConst n)
    (htaken : OnlyMembers (serviceConst n) (serviceMembers n) taken) :
    ∃ b, Provides (e.artifacts s) a (serviceImport n).source b
      ∧ Satisfies a (serviceImport n) b := by
  have hwords : n.AreWords := by
    rcases hn with rfl | hn
    · exact he.names
    · exact areWords_related he n hn
  have hidentifiers : n.AreIdentifiers := by
    rcases hn with rfl | hn
    · exact hnames
    · exact areIdentifiers_of_mem_related he hn
  obtain ⟨t, hmem⟩ := exists_service hfrontend hn
  refine ⟨_, ⟨hmem, ha.side.symm, ?_⟩, .of_uses huses ?_ fun p hp hname q hq heq => ?_⟩
  · rw [ha.path]
    exact target?_service ha.isPlain hidentifiers ha.directory
  · exact List.forall_mem_singleton.mpr (useService_mem_exports hwords isScript_service)
  · rw [hmade p hp (List.mem_singleton.mp hname)] at heq
    exact (returned_service hwords isScript_service).symm ▸ htaken q hq heq

omit hnames in
/-- Stores provide functions that make them. -/
theorem provides_store {r : Names} (hr : r ∈ e.related) {directory : String}
    (htarget : target? address.path (storeImport directory r).source = some (storePath r))
    (hmade : ∀ p ∈ made, p.2 = useStore r → p.1 = storeConst r)
    (htaken : OnlyMembers (storeConst r) (storeMembers r) taken) :
    ∃ b, Provides (e.artifacts s) a (storeImport directory r).source b
      ∧ Satisfies a (storeImport directory r) b := by
  have hwords := areWords_related he r hr
  refine ⟨_, ⟨mem_relatedStore hfrontend hr, ha.side.symm, ?_⟩,
    .of_uses huses ?_ fun p hp hname q hq heq => ?_⟩
  · rwa [ha.path]
  · exact List.forall_mem_singleton.mpr (useStore_mem_exports hwords isScript_store)
  · rw [hmade p hp (List.mem_singleton.mp hname)] at heq
    exact (returned_store hwords isScript_store).symm ▸ htaken q hq heq

end

/-! ### Files of the client side -/

section

variable {n : Names} (hn : n.AreIdentifiers) (content : String)

include hn

theorem standsAt_service : StandsAt ⟨.frontend, servicePath n, content⟩
    ⟨some "services", n.name, "service.ts"⟩ where
  side := rfl
  path := (path_servicePath n).symm
  isPlain := isPlain_of_stem (by decide) hn.name (by decide)
  directory := Option.some_ne_none _

theorem standsAt_store : StandsAt ⟨.frontend, storePath n, content⟩
    ⟨some "stores", n.name, "store.ts"⟩ where
  side := rfl
  path := (path_storePath n).symm
  isPlain := isPlain_of_stem (by decide) hn.name (by decide)
  directory := Option.some_ne_none _

theorem standsAt_view (theme : ThemeName) : StandsAt ⟨.frontend, viewPath theme n, content⟩
    ⟨some "views", n.capitalized ++ Text.capitalize theme.word, "vue"⟩ where
  side := rfl
  path := (path_viewPath n theme).symm
  isPlain := isPlain_viewAddress hn theme
  directory := Option.some_ne_none _

end

section

variable {e : Entity} (he : e.WellNamed)

include he

/-- The interfaces import nothing. -/
theorem isProvidedFor_interface (files : List Artifact) :
    (⟨.frontend, interfacePath e.names, interfaceText e⟩ : Artifact).IsProvidedFor files := by
  have hcites := isScript_interface.cites fun line hline =>
    CitesText.of_unquoted (unquoted_of_mem_interfaceLines he line hline)
  exact .of_cites hcites (List.forall_mem_nil _) (List.forall_mem_nil _)

variable (hnames : e.names.AreIdentifiers) {s : Settings} (hs : s.WellFormed)
  (hfrontend : s.generateFrontend = true)

include hnames hs hfrontend

theorem isProvidedFor_service :
    (⟨.frontend, servicePath e.names, serviceText s e.names⟩ : Artifact).IsProvidedFor
      (e.artifacts s) := by
  have hvariable := unquoted_of_isIdentifier
    (Identifier.isIdentifier_of_isVariable hs.apiUrlVariable)
  have hcites := isScript_service.cites (cites_service he.names he.path hvariable)
  refine .of_cites hcites ?_ (List.forall_mem_nil _)
  refine List.forall_mem_cons.mpr ⟨fun _ => ?_, List.forall_mem_singleton.mpr fun h => ?_⟩
  · exact provides_interface he hnames hfrontend (standsAt_service hnames _) fun _ => .inl
  · exact absurd h (by decide)

theorem isProvidedFor_relatedService {r : Names} (hr : r ∈ e.related) :
    (⟨.frontend, servicePath r, relatedServiceText s e.names r⟩ : Artifact).IsProvidedFor
      (e.artifacts s) := by
  have hvariable := unquoted_of_isIdentifier
    (Identifier.isIdentifier_of_isVariable hs.apiUrlVariable)
  have hwords := areWords_related he r hr
  have hpath : Unquoted r.path := by
    obtain ⟨target, -, rfl⟩ := he.related r hr
    exact hwords.plural.unquoted
  have hcites := isScript_service.cites
    (cites_relatedService he.names.name hwords hpath hvariable)
  refine .of_cites hcites ?_ (List.forall_mem_nil _)
  refine List.forall_mem_cons.mpr ⟨fun _ => ?_, List.forall_mem_singleton.mpr fun h => ?_⟩
  · refine provides_interface he hnames hfrontend
      (standsAt_service (areIdentifiers_of_mem_related he hr) _) ?_
    exact List.forall_mem_singleton.mpr (.inr ⟨r, hr, rfl⟩)
  · exact absurd h (by decide)

omit hs

/-- A store, if its own constants are apart from those that it makes. -/
theorem isProvidedFor_storeLines {n : Names} (hn : n = e.names ∨ n ∈ e.related) {t : EntityTypes}
    (ht : t = .ofOwner e.names ∨ ∃ r ∈ e.related, t = .ofRelated e.names r) {related : List Names}
    (hsubset : related ⊆ e.related)
    (hrefers : ∀ line ∈ storeLines n t related,
      CitesText (storeLibraries ++ storeImports n t related) [] line
        ∧ UsesText (storeMade n ++ related.map storeInstance)
          (storeTaken n ++ related.map storeFetch) line)
    (hplural : n.plural ∉ usedConstants n related)
    (hcurrent : current n ∉ usedConstants n related) :
    (⟨.frontend, storePath n, joinLines (storeLines n t related)⟩ : Artifact).IsProvidedFor
      (e.artifacts s) := by
  have hcites := isScript_store.cites fun line hline => (hrefers line hline).1
  have huses := isScript_store.uses fun line hline => (hrefers line hline).2
  have hidentifiers : n.AreIdentifiers := by
    rcases hn with rfl | hn
    · exact hnames
    · exact areIdentifiers_of_mem_related he hn
  have hstands := standsAt_store hidentifiers (joinLines (storeLines n t related))
  have hlibraries : ∀ i ∈ storeLibraries, ¬ IsInModule i.source := by decide
  -- libraries lie outside the module: this leaves the types, the service and the other stores
  refine .of_cites hcites ?_ (List.forall_mem_nil _)
  simp only [storeImports, List.forall_mem_append, List.forall_mem_cons, List.forall_mem_map,
    List.not_mem_nil, false_imp_iff, implies_true, and_true]
  refine ⟨fun i hi h => absurd h (hlibraries i hi), ⟨fun _ => ?types, fun _ => ?service⟩,
    fun r hr _ => ?store⟩
  case types =>
    rcases ht with rfl | ⟨r, hr, rfl⟩
    · exact provides_interface he hnames hfrontend hstands fun _ => .inl
    · exact provides_interface he hnames hfrontend hstands
        (List.forall_mem_singleton.mpr (.inr ⟨r, hr, rfl⟩))
  case service =>
    refine provides_service he hnames hfrontend hstands huses hn ?_ ?_
    · refine List.forall_mem_append.mpr ⟨?_, List.forall_mem_map.mpr fun r _ heq => ?_⟩
      · exact List.forall_mem_singleton.mpr fun _ => rfl
      · exact absurd heq.symm (useService_ne_useStore n r)
    · refine onlyMembers_append.mpr ⟨onlyMembers_storeTaken (by decide) (fun _ => rfl) ?_ ?_,
        onlyMembers_stores_service n related fetchAll⟩
      · exact fun heq => hplural (heq ▸ List.mem_cons_self)
      · exact fun heq => hcurrent (heq ▸ List.mem_cons_self)
  case store =>
    have hused : storeConst r ∈ usedConstants n related :=
      List.mem_cons_of_mem _ (List.mem_map_of_mem hr)
    have hrelated := hsubset hr
    refine provides_store he hfrontend hstands huses hrelated ?_ ?_ ?_
    · exact target?_otherStore hstands.isPlain (areIdentifiers_of_mem_related he hrelated) rfl
    · refine fun p hp heq => (List.mem_append.mp hp).elim (fun hp => ?_) fun hp =>
        eq_storeConst_of_mem he hsubset hr hp heq
      rw [List.mem_singleton.mp hp] at heq
      exact absurd heq (useService_ne_useStore n r)
    · refine onlyMembers_append.mpr ⟨onlyMembers_storeTaken (by decide) (fun heq => ?_) ?_ ?_,
        onlyMembers_stores he hsubset hr (f := fetchAll) (by simp [storeMembers])⟩
      · exact absurd heq (serviceConst_ne_storeConst n r)
      · exact fun heq => hplural (heq ▸ hused)
      · exact fun heq => hcurrent (heq ▸ hused)

theorem isProvidedFor_store (hplural : e.names.plural ∉ usedConstants e.names e.related)
    (hcurrent : current e.names ∉ usedConstants e.names e.related) :
    (⟨.frontend, storePath e.names, storeText e.names e.related⟩ : Artifact).IsProvidedFor
      (e.artifacts s) :=
  isProvidedFor_storeLines he hnames hfrontend (.inl rfl) (.inl rfl) (List.Subset.refl _)
    (refers_storeLines he.names (areWords_related he)) hplural hcurrent

/-- The store of a related entity, whose constants are apart in any case. -/
theorem isProvidedFor_relatedStore {r : Names} (hr : r ∈ e.related) :
    (⟨.frontend, storePath r, relatedStoreText e.names r⟩ : Artifact).IsProvidedFor
      (e.artifacts s) := by
  have hwords := areWords_related he r hr
  have hrefers := refers_relatedStore hwords he.names.name
  refine isProvidedFor_storeLines he hnames hfrontend (.inr hr) (.inr ⟨r, hr, rfl⟩)
    (List.nil_subset _) ?_ ?_ ?_
  · simpa using hrefers
  · rw [usedConstants, List.map_nil, List.mem_singleton]
    obtain ⟨target, htarget, rfl⟩ := he.related r hr
    exact pluralize_ne_append htarget (by decide) target
  · rw [usedConstants, List.map_nil, List.mem_singleton]
    obtain ⟨target, htarget, rfl⟩ := he.related r hr
    exact current_ne_serviceConst htarget

/-! ### The registration and the views -/

omit he in
/-- The file that registers the entity finds its views. -/
theorem isProvidedFor_route (hs : s.WellFormed) (hwords : e.names.AreWords) :
    (⟨.frontend, routePath, routeText s e.names⟩ : Artifact).IsProvidedFor (e.artifacts s) := by
  have hcites := isScript_route.cites (cites_routeLines hs hwords)
  have hlibraries : ∀ i ∈ routeLibraries, ¬ IsInModule i.source := by decide
  have hplain : (⟨none, "config", "ts"⟩ : Address).IsPlain :=
    isPlain_of_stem (by decide) (by decide) (by decide)
  refine .of_cites hcites (fun i hi h => absurd h (hlibraries i hi)) fun source hsource _ => ?_
  have htheme : ∃ t ∈ Theme.builtIn, source = viewSource t.name e.names := by
    simp only [viewSources, List.mem_cons, List.not_mem_nil, or_false] at hsource
    rcases hsource with rfl | rfl
    · exact ⟨.fomantic, .tail _ List.mem_cons_self, rfl⟩
    · exact ⟨.bootstrap, List.mem_cons_self, rfl⟩
  obtain ⟨t, ht, rfl⟩ := htheme
  refine ⟨_, mem_artifacts_of_mem_views hfrontend (List.mem_map_of_mem ht), rfl, ?_⟩
  exact target?_view hplain hnames rfl t.name

/-- A view takes of services and stores what these return. -/
theorem isProvidedFor_view (hform : View.BareForm (.ofEntity e))
    (hinputs : ∀ node ∈ (View.Spec.ofEntity e).form, ∀ r ∈ node.input.related?, r ∈ e.related)
    {t : Theme} (ht : t ∈ Theme.builtIn) :
    (View.artifact t (.ofEntity e)).IsProvidedFor (e.artifacts s) := by
  obtain ⟨hcites, huses⟩ := View.refers_artifact he ht hform hinputs
  have hstands := standsAt_view hnames (View.artifact t (.ofEntity e)).content t.name
  have hlibraries : ∀ i ∈ View.viewLibraries t, ¬ IsInModule i.source := by
    rcases List.mem_cons.mp ht with rfl | ht
    · decide
    · rw [List.mem_singleton.mp ht]
      decide
  -- as for a store, but references are made in a view too, and are no service and no store
  refine .of_cites hcites ?_ (List.forall_mem_nil _)
  simp only [View.scriptImports, View.viewImports, List.forall_mem_append, List.forall_mem_cons,
    List.forall_mem_map, List.not_mem_nil, false_imp_iff, implies_true, and_true]
  refine ⟨fun i hi h => absurd h (hlibraries i hi), ⟨fun _ => ?types, fun _ => ?service⟩,
    fun r hr _ => ?store⟩
  case types =>
    refine provides_interface he hnames hfrontend hstands fun name hname => .inl ?_
    simp only [List.mem_cons, List.not_mem_nil, or_false] at hname ⊢
    rcases hname with rfl | rfl | rfl
    all_goals simp [View.Spec.ofEntity]
  case service =>
    refine provides_service he hnames hfrontend hstands huses (.inl rfl) ?_ ?_
    · have href : "ref" ≠ useService e.names := ne_append (by decide) _
      refine List.forall_mem_append.mpr ⟨?_, List.forall_mem_map.mpr fun r _ heq => ?_⟩
      · simp only [View.viewMade, List.forall_mem_cons, List.not_mem_nil, false_imp_iff,
          implies_true, and_true]
        exact ⟨trivial, fun heq => absurd heq href, fun heq => absurd heq href⟩
      · exact absurd heq.symm (useService_ne_useStore e.names r)
    · simp only [View.scriptTaken, onlyMembers_append]
      exact ⟨⟨⟨onlyMembers_viewTaken (by decide) fun _ => rfl,
        onlyMembers_stores_service e.names e.related fetchAll⟩,
        onlyMembers_stores_service e.names e.related (·.plural)⟩,
        onlyMembers_keyTaken (by decide) e.names _⟩
  case store =>
    refine provides_store he hfrontend hstands huses hr ?_ ?_ ?_
    · exact target?_store hstands.isPlain (areIdentifiers_of_mem_related he hr) hstands.directory
    · refine fun p hp heq => (List.mem_append.mp hp).elim (fun hp => ?_) fun hp =>
        eq_storeConst_of_mem he (List.Subset.refl _) hr hp heq
      have href : "ref" ≠ useStore r := ne_append (by decide) _
      simp only [View.viewMade, List.mem_cons, List.not_mem_nil, or_false] at hp
      rcases hp with rfl | rfl | rfl
      · exact absurd heq (useService_ne_useStore e.names r)
      · exact absurd heq href
      · exact absurd heq href
    · have hservice := serviceConst_ne_storeConst e.names r
      simp only [View.scriptTaken, onlyMembers_append]
      exact ⟨⟨⟨onlyMembers_viewTaken (by decide) fun heq => absurd heq hservice,
        onlyMembers_stores he (List.Subset.refl _) hr (f := fetchAll) (by simp [storeMembers])⟩,
        onlyMembers_stores he (List.Subset.refl _) hr (f := (·.plural)) (by simp [storeMembers])⟩,
        onlyMembers_keyTaken (by decide) e.names _⟩

end

/-! ### Files of the server side -/

section

variable {e : Entity} (he : e.WellNamed) {s : Settings} (hbackend : s.generateBackend = true)

include he

/-- The model and the API document import nothing of the module. -/
theorem isProvidedFor_model (files : List Artifact) :
    (⟨.backend, Server.modelPath, Server.modelText e⟩ : Artifact).IsProvidedFor files := by
  have hlibraries : ∀ i ∈ Server.modelLibraries, ¬ IsInModule i.source := by decide
  have hcites := Server.isScript_model.cites (Server.cites_modelLines he)
  exact .of_cites hcites (fun i hi h => absurd h (hlibraries i hi)) (List.forall_mem_nil _)

theorem isProvidedFor_apiDoc (files : List Artifact) :
    (⟨.backend, Server.apiDocPath, Server.apiDocText e⟩ : Artifact).IsProvidedFor files :=
  .of_cites (Server.isScript_apiDoc.cites (Server.cites_apiDocLines he)) (List.forall_mem_nil _)
    (List.forall_mem_nil _)

include hbackend

/-- The model is found beside the other files. -/
theorem provides_model {path : String} (htarget : target? path "./model" = some Server.modelPath)
    {content : String} {names : List String}
    (hnames : names ⊆ [Server.modelConst e.names, Server.documentType e.names]) :
    ∃ b, Provides (e.artifacts s) ⟨.backend, path, content⟩ "./model" b
      ∧ ∀ name ∈ names, name ∈ b.exports := by
  have hall : ∀ name ∈ [Server.modelConst e.names, Server.documentType e.names],
      name ∈ (⟨.backend, Server.modelPath, Server.modelText e⟩ : Artifact).exports := by
    simp only [List.forall_mem_cons, List.not_mem_nil, false_imp_iff, implies_true, and_true]
    exact ⟨Server.modelConst_mem_exports he Server.isScript_model,
      Server.documentType_mem_exports he Server.isScript_model⟩
  exact ⟨_, ⟨mem_artifacts_of_mem_serverFiles hbackend List.mem_cons_self, rfl, htarget⟩,
    fun name hname => hall name (hnames hname)⟩

/-- The controller imports the model. -/
theorem isProvidedFor_controller :
    (⟨.backend, Server.controllerPath, Server.controllerText e.names⟩ : Artifact).IsProvidedFor
      (e.artifacts s) := by
  have hrefers := Server.refers_controllerLines he.names
  have hcites := Server.isScript_controller.cites fun line hline => (hrefers line hline).1
  have huses := Server.isScript_controller.uses fun line hline => (hrefers line hline).2
  refine .of_cites hcites ?_ (List.forall_mem_nil _)
  refine List.forall_mem_cons.mpr ⟨fun h => ?_, List.forall_mem_singleton.mpr fun _ => ?_⟩
  · exact absurd h (by decide : ¬ IsInModule "express")
  · obtain ⟨b, hb, hexports⟩ := provides_model he hbackend
      (by decide : target? "controller.ts" "./model" = some "model.ts") (List.Subset.refl _)
    exact ⟨b, hb, .of_uses huses hexports (List.forall_mem_nil _)⟩

/-- The routes import the model and the controller, and make neither. -/
theorem isProvidedFor_routes (hs : s.WellFormed) :
    (⟨.backend, Server.routesPath, Server.routesText s e.names⟩ : Artifact).IsProvidedFor
      (e.artifacts s) := by
  obtain ⟨auth, guard, role, hrefers⟩ := Server.refers_routesLines hs he.names
  have hcites := Server.isScript_routes.cites fun line hline => (hrefers line hline).1
  have huses := Server.isScript_routes.uses fun line hline => (hrefers line hline).2
  have houtside : ∀ source ∈ ["express", "../../libs/apiato/no-sql/apiato",
      "../../middleware/auth.middleware", "../../types/user"], ¬ IsInModule source := by decide
  simp only [List.forall_mem_cons, List.not_mem_nil, false_imp_iff, implies_true, and_true]
    at houtside
  obtain ⟨hexpress, hlibrary, hmiddleware, htypes⟩ := houtside
  -- only the model and the controller are in the module itself
  refine .of_cites hcites ?_ (List.forall_mem_nil _)
  simp only [Server.routesImports, List.forall_mem_cons, List.not_mem_nil, false_imp_iff,
    implies_true, and_true]
  refine ⟨fun h => absurd h hexpress, fun _ => ?model, fun h => absurd h hlibrary,
    fun h => absurd h hmiddleware, fun h => absurd h htypes, fun _ => ?controller⟩
  case model =>
    obtain ⟨b, hb, hexports⟩ := provides_model he hbackend
      (by decide : target? "routes.ts" "./model" = some "model.ts")
      (List.cons_subset.mpr ⟨List.mem_cons_self, List.nil_subset _⟩)
    refine ⟨b, hb, .of_uses huses hexports (List.forall_mem_singleton.mpr fun hname => ?_)⟩
    exact absurd (List.mem_singleton.mp hname) (ne_append (by decide) e.names.capitalized)
  case controller =>
    have hmem : ⟨.backend, Server.controllerPath, Server.controllerText e.names⟩ ∈ e.artifacts s :=
      mem_artifacts_of_mem_serverFiles hbackend (.tail _ List.mem_cons_self)
    have htarget : target? "routes.ts" "./controller" = some "controller.ts" := by decide
    refine ⟨_, ⟨hmem, rfl, htarget⟩,
      .of_uses huses ?_ (List.forall_mem_singleton.mpr fun hname => ?_)⟩
    · exact List.forall_mem_singleton.mpr
        (Server.controllerClass_mem_exports he.names Server.isScript_controller)
    · exact absurd (List.mem_singleton.mp hname) (ne_append (by decide) e.names.capitalized)

end

/-! ### All files -/

/-- The files of an entity refer to nothing in their module but one another. -/
theorem isSelfContained_artifacts {e : Entity} (he : e.WellNamed)
    (hnames : e.names.AreIdentifiers) {s : Settings} (hs : s.WellFormed)
    (hfrontend : s.generateFrontend = true) (hbackend : s.generateBackend = true)
    (hform : View.BareForm (.ofEntity e))
    (hinputs : ∀ node ∈ (View.Spec.ofEntity e).form, ∀ r ∈ node.input.related?, r ∈ e.related)
    (hplural : e.names.plural ∉ usedConstants e.names e.related)
    (hcurrent : current e.names ∉ usedConstants e.names e.related) :
    IsSelfContained (e.artifacts s) := by
  have hclient : ∀ a ∈ e.clientFiles s, a.IsProvidedFor (e.artifacts s) := by
    simp only [clientFiles, clientFilesWith, List.forall_mem_cons, List.not_mem_nil, false_imp_iff,
      implies_true, and_true]
    exact ⟨isProvidedFor_interface he _, isProvidedFor_service he hnames hs hfrontend,
      isProvidedFor_store he hnames hfrontend hplural hcurrent,
      isProvidedFor_route hnames hfrontend hs he.names⟩
  have hviews : ∀ a ∈ e.views Theme.builtIn, a.IsProvidedFor (e.artifacts s) :=
    List.forall_mem_map.mpr fun t ht => isProvidedFor_view he hnames hfrontend hform hinputs ht
  have hserver : ∀ a ∈ e.serverFiles s, a.IsProvidedFor (e.artifacts s) := by
    simp only [serverFiles, List.forall_mem_cons, List.not_mem_nil, false_imp_iff, implies_true,
      and_true]
    exact ⟨isProvidedFor_model he _, isProvidedFor_controller he hbackend,
      isProvidedFor_routes he hbackend hs, isProvidedFor_apiDoc he _⟩
  have hrelated : ∀ r ∈ e.related, ∀ a ∈ e.relatedFiles s r, a.IsProvidedFor (e.artifacts s) := by
    intro r hr
    simp only [relatedFiles, List.forall_mem_cons, List.not_mem_nil, false_imp_iff, implies_true,
      and_true]
    exact ⟨isProvidedFor_relatedService he hnames hs hfrontend hr,
      isProvidedFor_relatedStore he hnames hfrontend hr⟩
  -- with both sides on, every file is in one of the four groups
  intro a ha
  rw [artifacts, if_pos hfrontend, if_pos hbackend, if_pos hfrontend] at ha
  simp only [List.mem_append, List.mem_flatMap] at ha
  rcases ha with ((ha | ha) | ha) | ⟨r, hr, ha⟩
  · exact hclient a ha
  · exact hviews a ha
  · exact hserver a ha
  · exact hrelated r hr a ha

end Entity

end Scaffold
