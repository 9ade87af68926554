import Scaffold.Proofs.Export
import Scaffold.Proofs.FileTree.Way
import Scaffold.Proofs.Generation
import Scaffold.Proofs.Placement

/-!
# Modules on a file tree

The module of an entity on a side is the place behind the output directory, the root of the side and
the name of the entity (`modulePlace_eq`). The artifacts of an accepted document have different
places in the modules of its entity (`Generator.inModules_artifacts`).
-/

namespace Scaffold

namespace Address

/-- The directories in a module. -/
def directories : List String := ["interfaces", "services", "stores", "views"]

/-- If there is a directory in an address, it is one of those in a module. -/
def HasKnownDirectory (a : Address) : Prop := ∀ name ∈ a.directory, name ∈ directories

instance (a : Address) : Decidable a.HasKnownDirectory :=
  inferInstanceAs (Decidable (∀ name ∈ a.directory, name ∈ directories))

end Address

theorem Entity.hasKnownDirectory_of_mem_addresses {e : Entity} {s : Settings} :
    ∀ a ∈ e.addresses s, a.HasKnownDirectory := by
  have hclient : ∀ a ∈ clientAddresses e.names Theme.builtIn, a.HasKnownDirectory := by
    simp [clientAddresses, Address.HasKnownDirectory, Address.directories]
  have hserver : ∀ a ∈ serverAddresses, a.HasKnownDirectory := by
    decide
  have hrelated : ∀ a ∈ e.related.flatMap relatedAddresses, a.HasKnownDirectory := by
    intro a ha
    obtain ⟨n, -, ha⟩ := List.mem_flatMap.mp ha
    simp only [relatedAddresses, List.mem_cons, List.not_mem_nil, or_false] at ha
    rcases ha with rfl | rfl <;> simp [Address.HasKnownDirectory, Address.directories]
  refine List.forall_mem_append.mpr ⟨List.forall_mem_append.mpr ⟨?_, ?_⟩, ?_⟩ <;> split
  · exact hclient
  · exact List.forall_mem_nil _
  · exact hserver
  · exact List.forall_mem_nil _
  · exact hrelated
  · exact List.forall_mem_nil _

namespace Exporter

variable {x : Exporter} {entity : String} {artifacts : List Artifact} {t : FileTree}

theorem modulePlace_eq (hentity : isPlainName entity = true) (side : Side) :
    x.modulePlace entity side = x.output ++ (x.settings.root side).names ++ [entity] := by
  have hentity' : entity.startsWith "/" = false := by
    simpa using RelativePath.not_startsWith_slash hentity ""
  have hroot : (x.settings.root side).text.startsWith "/" = false := by
    simpa using RelativePath.text_not_startsWith_slash (x.settings.root side) ""
  rw [modulePlace, Place.below_of_not_startsWith hentity', Place.below_of_not_startsWith hroot,
    RelativePath.namesOf_text, RelativePath.namesOf_of_isPlainName hentity]

theorem ne_dots_of_isPlainName {name : String} (h : isPlainName name = true) : name ≠ ".." :=
  (isPlainName_iff.mp h).2.2.1

/-- No module of an entity goes up from the output directory. -/
theorem notMem_modulePlace (houtput : ".." ∉ x.output) (hentity : isPlainName entity = true)
    (side : Side) : ".." ∉ x.modulePlace entity side := by
  have hroot : ".." ∉ (x.settings.root side).names := fun h =>
    ne_dots_of_isPlainName ((x.settings.root side).plain _ h) rfl
  simp only [modulePlace_eq hentity, List.mem_append, List.mem_singleton, not_or]
  exact ⟨⟨houtput, hroot⟩, (ne_dots_of_isPlainName hentity).symm⟩

theorem mem_sides {side : Side} : side ∈ sides artifacts ↔ ∃ a ∈ artifacts, a.side = side := by
  have hfold : ∀ seen : List Side,
      side ∈ artifacts.foldl (fun seen a => if seen.contains a.side then seen else seen ++ [a.side])
        seen ↔ side ∈ seen ∨ ∃ a ∈ artifacts, a.side = side := by
    induction artifacts with
    | nil => simp
    | cons a rest ih =>
      intro seen
      rw [List.foldl_cons, ih]
      split
      next hseen =>
        have ha : a.side ∈ seen := by simpa using hseen
        grind
      next => grind
  rw [sides, hfold []]
  simp

/-- An export takes place when its directory is a place and the system looks at the modules. -/
theorem barrier?_eq_none_iff : x.barrier? t entity artifacts = none ↔ x.output.hasNull = false
    ∧ ∀ a ∈ artifacts, t.isUnreachable (x.modulePlace entity a.side) = false := by
  have hsides : (∀ side ∈ sides artifacts, t.isUnreachable (x.modulePlace entity side) = false)
      ↔ ∀ a ∈ artifacts, t.isUnreachable (x.modulePlace entity a.side) = false := by
    simp only [mem_sides]
    exact ⟨fun h a ha => h a.side ⟨a, ha, rfl⟩, fun h side ⟨a, ha, hside⟩ => hside ▸ h a ha⟩
  unfold barrier?
  cases x.output.hasNull <;> simp [hsides]

/-- With overwriting disabled, an export is refused where a module is there. -/
theorem isRefused_of_contains (hoverwrite : x.settings.overwriteExisting = false) {a : Artifact}
    (ha : a ∈ artifacts) (hthere : t.contains (x.modulePlace entity a.side) = true) :
    x.isRefused t entity artifacts = true := by
  have hexisting : x.modulePlace entity a.side ∈ x.existingModules t entity artifacts :=
    List.mem_filter.mpr ⟨List.mem_map_of_mem (mem_sides.mpr ⟨a, ha, rfl⟩), hthere⟩
  simp [isRefused, hoverwrite, List.ne_nil_of_mem hexisting]

/-- An export is only refused where some module is there. -/
theorem existingModules_ne_nil (h : x.isRefused t entity artifacts = true) :
    x.existingModules t entity artifacts ≠ [] := by
  intro hnil
  simp [isRefused, hnil] at h

theorem nodup_sides (artifacts : List Artifact) : (sides artifacts).Nodup := by
  have hfold : ∀ seen : List Side, seen.Nodup →
      (artifacts.foldl (fun seen a => if seen.contains a.side then seen else seen ++ [a.side])
        seen).Nodup := by
    induction artifacts with
    | nil => exact fun _ h => h
    | cons a rest ih =>
      intro seen hseen
      rw [List.foldl_cons]
      apply ih
      split
      next => exact hseen
      next hnew =>
        rw [← List.concat_eq_append]
        exact hseen.concat (by simpa using hnew)
  exact hfold [] List.nodup_nil

/-- Artifacts have places in the modules of an entity, and no two have the same. -/
structure InModules (x : Exporter) (entity : String) (artifacts : List Artifact) : Prop where
  named : isPlainName entity = true
  nodup : (artifacts.map (x.target entity)).Nodup
  addressed : ∀ a ∈ artifacts, ∃ address : Address, address.IsPlain ∧ address.HasKnownDirectory
    ∧ x.target entity a = x.modulePlace entity a.side ++ address.names

namespace InModules

/-- No artifact goes up from the output directory. -/
theorem notMem_target (h : x.InModules entity artifacts) (houtput : ".." ∉ x.output) {a : Artifact}
    (ha : a ∈ artifacts) : ".." ∉ x.target entity a := by
  obtain ⟨address, hplain, -, htarget⟩ := h.addressed a ha
  rw [htarget, List.mem_append, not_or]
  exact ⟨notMem_modulePlace houtput h.named a.side, fun hname =>
    ne_dots_of_isPlainName (Address.isPlainName_of_mem_names hplain _ hname) rfl⟩

/-- The module is above the directory of each artifact. -/
theorem modulePlace_prefix_parent (h : x.InModules entity artifacts) {a : Artifact}
    (ha : a ∈ artifacts) : x.modulePlace entity a.side <+: (x.target entity a).parent := by
  obtain ⟨address, -, -, htarget⟩ := h.addressed a ha
  rw [htarget, Place.parent, List.dropLast_append_of_ne_nil address.names_ne_nil]
  exact List.prefix_append _ _

end InModules

end Exporter

theorem Entity.artifacts_ne_nil (e : Entity) {s : Settings}
    (hside : s.generateFrontend = true ∨ s.generateBackend = true) : e.artifacts s ≠ [] := by
  rcases hside with hside | hside <;>
    simp [artifacts, clientFiles, clientFilesWith, serverFiles, hside]

/-- The artifacts of a well-formed document have their places in the modules of its entity. -/
theorem Entity.inModules_ofFields {d : Document} (hd : d.WellFormed)
    (hname : Identifier.isExactEntityName d.name = true) (fields : List FieldSpec) (x : Exporter) :
    x.InModules d.name ((ofFields d fields).artifacts x.settings) := by
  have hnames := Document.areIdentifiers_names hd hname
  have hplain := isPlain_of_mem_addresses hnames (areIdentifiers_related hd fields)
    (s := x.settings)
  have hentity := isPlainName_of_isIdentifier hnames.name
  have hpaths := map_path_artifacts (ofFields d fields) x.settings
  refine ⟨hentity, Exporter.nodup_target hentity hplain hpaths
    (nodup_fileNames_ofFields hd hname fields x.settings), fun a ha => ?_⟩
  obtain ⟨address, haddress, hpath⟩ := Exporter.exists_address hpaths ha
  exact ⟨address, hplain address haddress, hasKnownDirectory_of_mem_addresses address haddress,
    Exporter.target_eq hentity (hplain address haddress) hpath⟩

namespace Generator

variable {g : Generator} {v : Value} {e : Entity}

/-- The entity that validation gives is that of a well-formed document. -/
theorem exists_document_of_validate (h : (g.validate v).entity = some e) :
    ∃ d fields, Document.parse v = .ok d ∧ d.WellFormed ∧ e = Entity.ofFields d fields := by
  unfold validate at h
  split at h
  · cases h
  next d hparse =>
    split at h
    · cases h
    next fs hvalid =>
      have hd := Document.isAccepted_iff.mp (Document.ensureValid_eq_ok.mp hvalid).1
      obtain ⟨fields, -, hof⟩ := Entity.exists_ofDocument hd
      simp only [accept, hof] at h
      split at h <;> cases h
      exact ⟨d, fields, hparse, hd, rfl⟩

/-- The artifacts of an accepted document have their places in the modules of its entity. -/
theorem inModules_artifacts (h : (g.validate v).entity = some e) :
    g.exporter.InModules e.names.name (e.artifacts g.settings) := by
  obtain ⟨d, fields, hparse, hd, rfl⟩ := exists_document_of_validate h
  exact Entity.inModules_ofFields hd (Document.isExactEntityName_of_parse hparse) fields g.exporter

end Generator

end Scaffold
