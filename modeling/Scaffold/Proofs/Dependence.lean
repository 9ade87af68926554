import Scaffold.Proofs.ListLemmas
import Scaffold.Proofs.Placement

/-!
# What settings decide

Settings decide in two ways what is generated. The sides pick files out of those of both sides,
which keep their order (`artifacts_eq_filter`). All other settings are printed in the routes of the
server, in services, and in the registration of the client; a file shows no others, so that settings
which agree on those make the same file (`assemble_depends_on_settings`). But settings may be such
that they can be written for the server side alone: then there are no files of both sides to pick
from.
-/

namespace Scaffold

namespace Settings

/-- The settings with both sides generated. -/
def complete (s : Settings) : Settings :=
  { s with generateFrontend := true, generateBackend := true }

/-- Settings agree on all that the file at a path shows of them. Most files show nothing. -/
structure AgreeAt (s s' : Settings) (path : String) : Prop where
  routes : path = Server.routesPath →
    s.adminRole = s'.adminRole ∧ s.authMiddleware = s'.authMiddleware ∧ s.roleGuard = s'.roleGuard
  service : ∀ n : Names, path = Client.servicePath n →
    s.apiUrlVariable = s'.apiUrlVariable ∧ s.tokenKey = s'.tokenKey
  registration : path = Client.routePath →
    s.frameworkVariable = s'.frameworkVariable ∧ s.defaultTheme = s'.defaultTheme
      ∧ s.dashboardLayout = s'.dashboardLayout ∧ s.navOrder = s'.navOrder ∧ s.navIcon = s'.navIcon

end Settings

/-- Files at one place that are the same wherever the settings agree on what they show. -/
structure Artifact.SameUnder (s s' : Settings) (a b : Artifact) : Prop where
  path : a.path = b.path
  same : s.AgreeAt s' a.path → a = b

theorem Artifact.SameUnder.refl {s s' : Settings} (a : Artifact) : a.SameUnder s s' a :=
  ⟨rfl, fun _ => rfl⟩

namespace Entity

variable {s s' : Settings}

/-! ### Sides -/

theorem filter_generates {side : Side} {files : List Artifact} (h : ∀ a ∈ files, a.side = side) :
    files.filter (fun a => s.generates a.side) = if s.generates side then files else [] := by
  split
  next hside =>
    apply List.filter_eq_self.mpr
    intro a ha
    rw [h a ha, hside]
  next hside =>
    apply List.filter_eq_nil_iff.mpr
    intro a ha
    rwa [h a ha]

/-- The files of the sides that are generated are picked out of those of both sides. -/
theorem artifacts_eq_filter (e : Entity) (s : Settings) :
    e.artifacts s = (e.artifacts s.complete).filter fun a => s.generates a.side := by
  have hclient : ∀ a ∈ e.clientFiles s ++ e.views Theme.builtIn, a.side = .frontend := by
    simp [clientFiles, clientFilesWith, views, View.artifact]
  have hserver : ∀ a ∈ e.serverFiles s, a.side = .backend := by
    simp [serverFiles]
  have hrelated : ∀ a ∈ e.related.flatMap (e.relatedFiles s), a.side = .frontend := by
    intro a ha
    obtain ⟨n, -, ha⟩ := List.mem_flatMap.mp ha
    simp only [relatedFiles, List.mem_cons, List.not_mem_nil, or_false] at ha
    rcases ha with rfl | rfl <;> rfl
  -- with both sides no list is left out, so that the sides only act on the files within
  show _ = ((e.clientFiles s ++ e.views Theme.builtIn) ++ e.serverFiles s
    ++ e.related.flatMap (e.relatedFiles s)).filter fun a => s.generates a.side
  rw [List.filter_append, List.filter_append, filter_generates hclient, filter_generates hserver,
    filter_generates hrelated]
  rfl

/-- The side of an artifact is one that the settings ask for. -/
theorem generates_of_mem_artifacts {e : Entity} {a : Artifact} (ha : a ∈ e.artifacts s) :
    s.generates a.side = true := by
  rw [artifacts_eq_filter] at ha
  exact (List.mem_filter.mp ha).2

/-- There is an artifact on each side that the settings ask for. -/
theorem exists_mem_artifacts (e : Entity) {side : Side} (hside : s.generates side = true) :
    ∃ a ∈ e.artifacts s, a.side = side := by
  cases side with
  | frontend =>
    have hfrontend : s.generateFrontend = true := hside
    simp [artifacts, clientFiles, clientFilesWith, hfrontend]
  | backend =>
    have hbackend : s.generateBackend = true := hside
    refine ⟨⟨.backend, Server.modelPath, Server.modelText e⟩, ?_, rfl⟩
    simp [artifacts, serverFiles, hbackend]

/-- Settings that ask for no side leave no artifacts. -/
theorem artifacts_eq_nil (e : Entity) (h : ∀ side, s.generates side = false) :
    e.artifacts s = [] := by
  apply List.eq_nil_iff_forall_not_mem.mpr
  intro a ha
  have hside := generates_of_mem_artifacts ha
  rw [h a.side] at hside
  cases hside

/-! ### Settings that files show -/

theorem serviceLines_congr {n : Names} (h : s.AgreeAt s' (Client.servicePath n))
    (types : Client.EntityTypes) :
    Client.serviceLines s n types = Client.serviceLines s' n types := by
  obtain ⟨hurl, hkey⟩ := h.service n rfl
  unfold Client.serviceLines Client.serviceHead
  rw [hurl, hkey]

theorem routeText_congr (n : Names) (h : s.AgreeAt s' Client.routePath) :
    Client.routeText s n = Client.routeText s' n := by
  obtain ⟨hvariable, htheme, hlayout, horder, hicon⟩ := h.registration rfl
  unfold Client.routeText Client.routeLines
  rw [hvariable, htheme, hlayout, horder, hicon]

theorem routesLines_congr (n : Names) (h : s.AgreeAt s' Server.routesPath) :
    Server.routesLines s n = Server.routesLines s' n := by
  obtain ⟨hrole, hmiddleware, hguard⟩ := h.routes rfl
  unfold Server.routesLines Server.adminGuard
  rw [hrole, hmiddleware, hguard]

theorem sameUnder_clientFiles (e : Entity) :
    List.Forall₂ (Artifact.SameUnder s s') (e.clientFiles s) (e.clientFiles s') := by
  have hservice : Artifact.SameUnder s s'
      ⟨.frontend, Client.servicePath e.names, Client.serviceText s e.names⟩
      ⟨.frontend, Client.servicePath e.names, Client.serviceText s' e.names⟩ := by
    refine ⟨rfl, fun h => ?_⟩
    rw [Client.serviceText, Client.serviceText, serviceLines_congr h]
  have hroute : Artifact.SameUnder s s'
      ⟨.frontend, Client.routePath, Client.routeText s e.names⟩
      ⟨.frontend, Client.routePath, Client.routeText s' e.names⟩ := by
    refine ⟨rfl, fun h => ?_⟩
    rw [routeText_congr e.names h]
  exact .cons (.refl _) (.cons hservice (.cons (.refl _) (.cons hroute .nil)))

theorem sameUnder_serverFiles (e : Entity) :
    List.Forall₂ (Artifact.SameUnder s s') (e.serverFiles s) (e.serverFiles s') := by
  have hroutes : Artifact.SameUnder s s'
      ⟨.backend, Server.routesPath, Server.routesText s e.names⟩
      ⟨.backend, Server.routesPath, Server.routesText s' e.names⟩ := by
    refine ⟨rfl, fun h => ?_⟩
    rw [Server.routesText, Server.routesText, routesLines_congr e.names h]
  exact .cons (.refl _) (.cons (.refl _) (.cons hroutes (.cons (.refl _) .nil)))

theorem sameUnder_relatedFiles (e : Entity) (related : Names) :
    List.Forall₂ (Artifact.SameUnder s s') (e.relatedFiles s related)
      (e.relatedFiles s' related) := by
  have hservice : Artifact.SameUnder s s'
      ⟨.frontend, Client.servicePath related, Client.relatedServiceText s e.names related⟩
      ⟨.frontend, Client.servicePath related, Client.relatedServiceText s' e.names related⟩ := by
    refine ⟨rfl, fun h => ?_⟩
    rw [Client.relatedServiceText, Client.relatedServiceText, serviceLines_congr h]
  exact .cons hservice (.cons (.refl _) .nil)

/-- Under all settings an entity has the same files of both sides, but for the settings in them. -/
theorem sameUnder_artifacts (e : Entity) (s s' : Settings) :
    List.Forall₂ (Artifact.SameUnder s s') (e.artifacts s.complete) (e.artifacts s'.complete) := by
  have hviews : List.Forall₂ (Artifact.SameUnder s s') (e.views Theme.builtIn)
      (e.views Theme.builtIn) := List.forall₂_same.mpr fun a _ => .refl a
  have hrelated : List.Forall₂ (Artifact.SameUnder s s') (e.related.flatMap (e.relatedFiles s))
      (e.related.flatMap (e.relatedFiles s')) := by
    induction e.related with
    | nil => exact .nil
    | cons n rest ih =>
      rw [List.flatMap_cons, List.flatMap_cons]
      exact List.rel_append (e.sameUnder_relatedFiles n) ih
  exact List.rel_append (List.rel_append (List.rel_append e.sameUnder_clientFiles hviews)
    e.sameUnder_serverFiles) hrelated

/-- A file is the same under settings that agree on what it shows. -/
theorem eq_of_path_eq {e : Entity} (hnodup : ((e.artifacts s.complete).map (·.path)).Nodup)
    {a b : Artifact} (ha : a ∈ e.artifacts s) (hb : b ∈ e.artifacts s')
    (hpath : a.path = b.path) (hagree : s.AgreeAt s' a.path) : a = b := by
  rw [artifacts_eq_filter] at ha hb
  have ha' := (List.mem_filter.mp ha).1
  obtain ⟨a', ha₁, hsame⟩ :=
    exists_of_forall₂ (e.sameUnder_artifacts s s').flip (List.mem_filter.mp hb).1
  -- the paths tell that the file is the one that goes with the other
  obtain rfl := List.inj_on_of_nodup_map hnodup ha' ha₁ (hpath.trans hsame.path.symm)
  exact hsame.same hagree

end Entity

/-- Under settings that can be written, an accepted document has files, and under no others. They
are those of the sides that are generated, picked out of those of both sides and in their order.
What two settings both give is the same file where they agree on what it shows: three settings in
the routes of the server, two in the services, five in the registration, and none in any other file.
-/
theorem assemble_depends_on_settings {v : Value} {d : Document} (hparse : Document.parse v = .ok d)
    (hvalid : d.findings.isValid = true) :
    ∃ files : Settings → List Artifact,
      (∀ s, assemble v s
        = if s.IsWritable then .ok (files s) else .error (.unrendered .overlong))
      ∧ (∀ s, files s = (files s.complete).filter fun a => s.generates a.side)
      ∧ ∀ s s', ∀ a ∈ files s, ∀ b ∈ files s', a.path = b.path → s.AgreeAt s' a.path → a = b := by
  obtain ⟨hd, fields, -, -, hfiles⟩ := exists_assemble_eq_ok hparse hvalid
  have hname := Document.isExactEntityName_of_parse hparse
  have hnames := Document.areIdentifiers_names hd hname
  refine ⟨(Entity.ofFields d fields).artifacts, fun s => ?_,
    fun s => Entity.artifacts_eq_filter _ s, ?_⟩
  · split
    next hs => exact hfiles s hs
    next hs => exact assemble_of_not_isWritable hparse hvalid hs
  intro s s' a ha b hb
  -- no two files of an accepted document have one path
  refine Entity.eq_of_path_eq ?_ ha hb
  rw [Entity.map_path_artifacts]
  exact Address.nodup_path (Entity.isPlain_of_mem_addresses hnames
    (Entity.areIdentifiers_related hd fields)) (Entity.nodup_fileNames_ofFields hd hname fields _)

/-- The store of a related entity is the same file under all settings that can be written. -/
theorem customer_store_under_all_settings :
    ∃ files : Settings → List Artifact,
      (∀ s : Settings, s.IsWritable → assemble orderValue s = .ok (files s))
      ∧ ∀ s s', ∀ a ∈ files s, ∀ b ∈ files s', a.path = "stores/customer.store.ts" →
        b.path = "stores/customer.store.ts" → a = b := by
  obtain ⟨files, hfiles, -, hsame⟩ :=
    assemble_depends_on_settings parse_orderValue isValid_orderDocument
  refine ⟨files, fun s hs => by rw [hfiles, if_pos hs], fun s s' a ha b hb hpath hpath' => ?_⟩
  refine hsame s s' a ha b hb (hpath.trans hpath'.symm) ?_
  have hservice : ∀ n : Names, "stores/customer.store.ts" ≠ Client.servicePath n := by
    intro n h
    have hsecond := congrArg (·.toList[1]?) h
    simp [Client.servicePath] at hsecond
  rw [hpath]
  exact ⟨fun h => absurd h (by decide), fun n h => absurd h (hservice n),
    fun h => absurd h (by decide)⟩

end Scaffold
