import Scaffold.Proofs.Client.Requests
import Scaffold.Proofs.Related

/-!
# The resources of a module

The services of a module, that of its entity and those of related ones, send their requests to the
paths of their entities (`Client.requests`). The paths are derived from plurals, which do not tell
all names apart, and a document may give the path of another entity. `resource_paths_apart_iff`
says when the paths of a module are apart.
-/

namespace Scaffold

open Identifier

section

variable {d : Document}

/-- The path of an accepted entity can be read out of the addresses of a service. -/
theorem isAddressable_path (hd : d.WellFormed) (hname : isExactEntityName d.name = true) :
    Client.IsAddressable d.names.path := by
  rcases Document.path_names hd with ⟨path, -, heq, hpath⟩ | ⟨-, heq⟩
  · have hparts : ∃ name : List Char, name ≠ []
        ∧ (∀ c ∈ name, (isLower c || isDigit c || c == '-' || c == '_' || c == '/') = true)
        ∧ (path.toList = name ∨ path.toList = name ++ ['\n']) :=
      exists_of_matchesLine hpath (by simp +contextual) (by simp +contextual)
    obtain ⟨name, -, hchars, hsplit⟩ := hparts
    rw [heq]
    exact ⟨name, fun h => absurd (hchars _ h) (by decide), fun h => absurd (hchars _ h) (by decide),
      fun h => absurd (hchars _ h) (by decide), hsplit⟩
  · obtain ⟨name, -, hchars, hsplit⟩ :=
      exists_of_isIdentifier (Document.areIdentifiers_names hd hname).plural
    rw [heq]
    exact ⟨name, fun h => absurd (hchars _ h) (by decide), fun h => absurd (hchars _ h) (by decide),
      fun h => absurd (hchars _ h) (by decide), hsplit⟩

theorem isAddressable_of_isExactEntityName {path : String} (h : isExactEntityName path = true) :
    Client.IsAddressable path := by
  have hchars : ∀ c ∈ path.toList, isNamePart c = true := fun c => isNamePart_of_mem h
  exact ⟨path.toList, fun h => absurd (hchars _ h) (by decide),
    fun h => absurd (hchars _ h) (by decide), fun h => absurd (hchars _ h) (by decide), .inl rfl⟩

theorem firstLine_of_isExactEntityName {s : String} (h : isExactEntityName s = true) :
    Client.firstLine s = s := by
  have hbreak : '\n' ∉ s.toList := fun hmem => absurd (isNamePart_of_mem h hmem) (by decide)
  rw [Client.firstLine_eq hbreak (.inl rfl), String.ofList_toList]

/-- The plural of a target is the path of the entity only where the document says so. -/
theorem path_eq_pluralize_iff (hd : d.WellFormed) {target : String} (htarget : target ∈ d.targets) :
    d.names.path = pluralize target ↔ d.overrides.path = some (pluralize target) := by
  have hexact := Document.isExactEntityName_of_mem_targets hd htarget
  constructor
  · intro heq
    rcases Document.path_names hd with ⟨path, hgiven, hpath, -⟩ | ⟨-, hpath⟩
    · rw [hgiven, ← hpath, heq]
    · -- a derived path is a plural, which no target has
      have hplural : d.names.plural ∈ (Names.ofName target).forms := by
        rw [← hpath, heq]
        exact List.mem_cons_of_mem _ List.mem_cons_self
      exact absurd hplural ((Document.admitsTarget_of_mem_targets hd htarget).isApart _
        (List.mem_cons_of_mem _ List.mem_cons_self))
  · intro hgiven
    have hne := ne_empty_of_isIdentifier
      (isIdentifier_of_isExactEntityName (isExactEntityName_pluralize hexact))
    show overriding d.overrides.path d.names.plural = pluralize target
    rw [hgiven, overriding, if_neg (by simpa using hne)]

/-- The plurals of targets are apart unless two of them end in `y` and in `ie` otherwise alike. -/
theorem nodup_map_pluralize_iff {targets : List String}
    (htargets : ∀ r ∈ targets, isExactEntityName r = true) (hnodup : targets.Nodup) :
    (targets.map pluralize).Nodup ↔ ∀ stem, ¬ (stem ++ "y" ∈ targets ∧ stem ++ "ie" ∈ targets) := by
  have hne : ∀ r ∈ targets, r ≠ "" := fun r hr =>
    ne_empty_of_isIdentifier (isIdentifier_of_isExactEntityName (htargets r hr))
  rw [List.nodup_map_iff_inj_on hnodup]
  constructor
  · rintro hinj stem ⟨hy, hie⟩
    have hwords : stem ++ "y" ≠ stem ++ "ie" := by simp
    have hplural := (pluralize_eq_iff (hne _ hy) (hne _ hie) hwords).mpr ⟨stem, .inl ⟨rfl, rfl⟩⟩
    exact hwords (hinj _ hy _ hie hplural)
  · intro hapart a ha b hb hplural
    by_contra hab
    obtain ⟨stem, ⟨rfl, rfl⟩ | ⟨rfl, rfl⟩⟩ :=
      (pluralize_eq_iff (hne a ha) (hne b hb) hab).mp hplural
    · exact hapart stem ⟨ha, hb⟩
    · exact hapart stem ⟨hb, ha⟩

/-- Each service of a module sends its requests to the path of its entity. -/
theorem exists_service {fields : List FieldSpec} {s : Settings} (hd : d.WellFormed)
    (hname : isExactEntityName d.name = true) (hs : s.WellFormed)
    (hfrontend : s.generateFrontend = true) :
    ∀ n ∈ (Entity.ofFields d fields).names :: (Entity.ofFields d fields).related, ∃ content,
      ⟨.frontend, "services/" ++ n.name ++ ".service.ts", content⟩
          ∈ (Entity.ofFields d fields).artifacts s
        ∧ Client.requests content = List.replicate 6 (Client.firstLine n.path) := by
  have hn := Document.areIdentifiers_names hd hname
  refine List.forall_mem_cons.mpr ⟨⟨Client.serviceText s d.names, ?_, ?_⟩, ?_⟩
  · exact Entity.mem_artifacts_of_mem_clientFiles hfrontend
      (List.mem_cons_of_mem _ List.mem_cons_self)
  · exact Client.requests_serviceLines hs hn (Client.unticked_ofOwner hn)
      (isAddressable_path hd hname)
  · intro n hrelated
    obtain ⟨target, htarget, rfl⟩ := List.mem_map.mp hrelated
    have hexact := Document.isExactEntityName_of_mem_targets hd htarget
    have hr := Names.areIdentifiers_ofName hexact
    refine ⟨Client.relatedServiceText s d.names (.ofName target), ?_, ?_⟩
    · exact Entity.mem_artifacts_of_mem_relatedFiles hfrontend hrelated List.mem_cons_self
    · exact Client.requests_serviceLines hs hr (Client.unticked_ofRelated hn hr)
        (isAddressable_of_isExactEntityName (isExactEntityName_pluralize hexact))

end

/-- The services of an accepted entity and of its related entities send their requests to the paths
of these, as they can be read in the files. Two paths are the same just where the document gives the
path of a related entity as its own, or two related entities have the same plural. Of the requests
this holds likewise, up to a line feed behind the path of the entity. -/
theorem resource_paths_apart_iff {v : Value} {d : Document} {s : Settings}
    (hparse : Document.parse v = .ok d) (hvalid : d.findings.isValid = true) (hs : s.WellFormed)
    (hwritable : s.IsWritable) (hfrontend : s.generateFrontend = true) :
    ∃ e files, Entity.ofAccepted d = .ok e ∧ assemble v s = .ok files
      ∧ e.names = d.names ∧ e.related = d.targets.map Names.ofName
      ∧ (∀ n ∈ e.names :: e.related, ∃ content,
        ⟨.frontend, "services/" ++ n.name ++ ".service.ts", content⟩ ∈ files
          ∧ Client.requests content = List.replicate 6 (Client.firstLine n.path))
      ∧ (((e.names :: e.related).map (·.path)).Nodup
        ↔ (∀ r ∈ d.targets, d.overrides.path ≠ some (pluralize r))
          ∧ ∀ stem, ¬ (stem ++ "y" ∈ d.targets ∧ stem ++ "ie" ∈ d.targets))
      ∧ (((e.names :: e.related).map (fun n => Client.firstLine n.path)).Nodup
        ↔ (∀ r ∈ d.targets, Client.firstLine e.names.path ≠ pluralize r)
          ∧ ∀ stem, ¬ (stem ++ "y" ∈ d.targets ∧ stem ++ "ie" ∈ d.targets)) := by
  obtain ⟨hd, fields, -, he, hfiles⟩ := exists_assemble_eq_ok hparse hvalid
  have hname := Document.isExactEntityName_of_parse hparse
  have htargets : ∀ r ∈ d.targets, isExactEntityName r = true := fun r =>
    Document.isExactEntityName_of_mem_targets hd
  have hpaths : (d.targets.map Names.ofName).map (·.path) = d.targets.map pluralize := by
    rw [List.map_map]
    rfl
  have hlines : (d.targets.map Names.ofName).map (fun n => Client.firstLine n.path)
      = d.targets.map pluralize := by
    rw [List.map_map]
    -- a derived path has no line break, so its first line is the whole path
    refine List.map_congr_left fun r hr => ?_
    exact firstLine_of_isExactEntityName (isExactEntityName_pluralize (htargets r hr))
  have hapart {path : String} : path ∉ d.targets.map pluralize
      ↔ ∀ r ∈ d.targets, path ≠ pluralize r := by
    simp [eq_comm]
  have hrelated : (Entity.ofFields d fields).related = d.targets.map Names.ofName := rfl
  have hnames : (Entity.ofFields d fields).names = d.names := rfl
  refine ⟨_, _, he, hfiles s hwritable, hnames, hrelated, exists_service hd hname hs hfrontend,
    ?_, ?_⟩
  · rw [hrelated, hnames, List.map_cons, hpaths, List.nodup_cons, hapart,
      nodup_map_pluralize_iff htargets d.nodup_targets]
    refine and_congr_left' (forall₂_congr fun r hr => not_congr ?_)
    exact path_eq_pluralize_iff hd hr
  · rw [hrelated, hnames, List.map_cons, hlines, List.nodup_cons, hapart,
      nodup_map_pluralize_iff htargets d.nodup_targets]

/-- The services about orders, customers and products send their requests to paths of their own. -/
theorem orders_resources_apart :
    ∃ e files, Entity.ofAccepted orderDocument = .ok e ∧ assemble orderValue {} = .ok files
      ∧ (e.names :: e.related).map (·.path) = ["orders", "customers", "products"]
      ∧ ((e.names :: e.related).map (·.path)).Nodup
      ∧ ∃ content, ⟨.frontend, "services/product.service.ts", content⟩ ∈ files
        ∧ Client.requests content = List.replicate 6 "products" := by
  obtain ⟨e, files, he, hfiles, hnames, hrelated, hservices, hapart, -⟩ :=
    resource_paths_apart_iff (s := {}) parse_orderValue isValid_orderDocument
      Settings.wellFormed_default Settings.isWritable_default rfl
  rw [targets_orderDocument] at hrelated hapart
  have hproduct : Names.ofName "product" ∈ e.names :: e.related := by
    rw [hrelated]
    exact List.mem_cons_of_mem _ (List.mem_cons_of_mem _ List.mem_cons_self)
  obtain ⟨content, hcontent, hrequests⟩ := hservices _ hproduct
  refine ⟨e, files, he, hfiles, ?_, hapart.mpr ⟨?_, ?_⟩, content, hcontent, ?_⟩
  · rw [hnames, hrelated]
    decide
  · decide
  · rintro stem ⟨hy, -⟩
    have hends : ∀ r ∈ ["customer", "product"], r.toList.getLast? ≠ some 'y' := by decide
    exact hends _ hy (by simp)
  · rw [hrequests]
    decide

end Scaffold
