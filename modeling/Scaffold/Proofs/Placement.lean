import Mathlib.Data.List.Nodup
import Scaffold.Proofs.Assembly
import Scaffold.Proofs.Parsing
import Scaffold.Proofs.RelativePath

/-!
# Where artifacts go

Every artifact of an entity has an `Address` below its module: at most one directory and a file
name, whose stem has no dot in it. The file names of one entity differ from each other, whatever
the directories and the sides are: those of one stem by their extensions, and those of related
entities by their stems (`Entity.nodup_fileNames`). So the roots of the two sides do not matter for
artifacts to be written apart.
-/

namespace Scaffold

/-- The parts of a path below a module. The extension is all that stands behind the first dot. -/
structure Address where
  directory : Option String := none
  stem : String
  extension : String
deriving DecidableEq

namespace Address

def fileName (a : Address) : String := a.stem ++ "." ++ a.extension

def names (a : Address) : List String := a.directory.toList ++ [a.fileName]

/-- The path below the module. -/
def path (a : Address) : String := "/".intercalate a.names

/-- The parts of an address can be told from each other, and can stand on a path. -/
structure IsPlain (a : Address) : Prop where
  directory : ∀ name ∈ a.directory, isPlainName name = true
  stem_ne : a.stem ≠ ""
  stem_dot : '.' ∉ a.stem.toList
  stem_slash : '/' ∉ a.stem.toList
  extension_slash : '/' ∉ a.extension.toList

@[simp] theorem toList_fileName (a : Address) :
    a.fileName.toList = a.stem.toList ++ '.' :: a.extension.toList := by
  simp [fileName]

/-- What stands before the first dot, and what behind it. -/
theorem eq_of_toList_fileName {a : Address} (h : a.IsPlain) {stem rest : List Char}
    (hstem : '.' ∉ stem) (heq : a.fileName.toList = stem ++ '.' :: rest) :
    a.stem.toList = stem ∧ a.extension.toList = rest := by
  rw [toList_fileName] at heq
  exact Text.eq_of_append_cons_eq h.stem_dot hstem heq

/-- The stem and the extension are known from the file name. -/
theorem eq_of_fileName_eq {a b : Address} (ha : a.IsPlain) (hb : b.IsPlain)
    (h : a.fileName = b.fileName) : (a.stem, a.extension) = (b.stem, b.extension) := by
  obtain ⟨hstem, hext⟩ := eq_of_toList_fileName ha hb.stem_dot (h ▸ toList_fileName b)
  rw [String.toList_inj.mp hstem, String.toList_inj.mp hext]

theorem isPlainName_fileName {a : Address} (h : a.IsPlain) : isPlainName a.fileName = true := by
  have hne : a.stem.toList ≠ [] := fun hs => h.stem_ne (String.toList_eq_nil_iff.mp hs)
  -- a name that starts with a dot has an empty stem
  have hdots : ∀ rest, a.fileName.toList ≠ '.' :: rest :=
    fun rest heq => hne (eq_of_toList_fileName h List.not_mem_nil heq).1
  refine isPlainName_iff.mpr ⟨?_, ?_, ?_, ?_⟩
  · intro heq
    have := congrArg String.toList heq
    simp at this
  · exact fun heq => hdots [] (by rw [heq]; rfl)
  · exact fun heq => hdots ['.'] (by rw [heq]; rfl)
  · simp [h.stem_slash, h.extension_slash]

theorem isPlainName_of_mem_names {a : Address} (h : a.IsPlain) :
    ∀ name ∈ a.names, isPlainName name = true := by
  refine List.forall_mem_append.mpr ⟨fun name hname => h.directory name (by simpa using hname), ?_⟩
  simpa using isPlainName_fileName h

@[simp] theorem names_ne_nil (a : Address) : a.names ≠ [] := by
  simp [names]

theorem namesOf_path {a : Address} (h : a.IsPlain) : RelativePath.namesOf a.path = a.names :=
  RelativePath.namesOf_intercalate a.names_ne_nil (isPlainName_of_mem_names h)

/-- Paths end with the names of the files. -/
theorem map_getLast?_path {addresses : List Address} (h : ∀ a ∈ addresses, a.IsPlain) :
    (addresses.map path).map (fun path => (RelativePath.namesOf path).getLast?)
      = (addresses.map fileName).map some := by
  rw [List.map_map, List.map_map]
  refine List.map_congr_left fun a ha => ?_
  simp [namesOf_path (h a ha), names]

/-- Paths to files with different names are different. -/
theorem nodup_path {addresses : List Address} (h : ∀ a ∈ addresses, a.IsPlain)
    (hnodup : (addresses.map fileName).Nodup) : (addresses.map path).Nodup := by
  refine List.Nodup.of_map (fun path => (RelativePath.namesOf path).getLast?) ?_
  rw [map_getLast?_path h]
  exact hnodup.map fun _ _ heq => Option.some.inj heq

theorem length_names (a : Address) : a.names.length = 1 ∨ a.names.length = 2 := by
  cases hd : a.directory <;> simp [names, hd]

end Address

namespace Entity

/-! ### The addresses of an entity -/

/-- The addresses of the client side, related entities apart. -/
def clientAddresses (n : Names) (themes : List Theme) : List Address :=
  [⟨some "interfaces", n.name, "interface.ts"⟩, ⟨some "services", n.name, "service.ts"⟩,
    ⟨some "stores", n.name, "store.ts"⟩, ⟨none, "config", "ts"⟩]
    ++ themes.map fun t => ⟨some "views", n.capitalized ++ Text.capitalize t.name.word, "vue"⟩

def serverAddresses : List Address :=
  [⟨none, "model", "ts"⟩, ⟨none, "controller", "ts"⟩, ⟨none, "routes", "ts"⟩,
    ⟨none, "swagger", "ts"⟩]

def relatedAddresses (related : Names) : List Address :=
  [⟨some "services", related.name, "service.ts"⟩, ⟨some "stores", related.name, "store.ts"⟩]

/-- The addresses of all artifacts of an entity. -/
def addresses (e : Entity) (s : Settings) : List Address :=
  (if s.generateFrontend then clientAddresses e.names Theme.builtIn else [])
    ++ (if s.generateBackend then serverAddresses else [])
    ++ (if s.generateFrontend then e.related.flatMap relatedAddresses else [])

@[simp] theorem path_servicePath (n : Names) :
    (⟨some "services", n.name, "service.ts"⟩ : Address).path = Client.servicePath n := by
  simp [Address.path, Address.names, Address.fileName, Client.servicePath, ← String.toList_inj]

@[simp] theorem path_storePath (n : Names) :
    (⟨some "stores", n.name, "store.ts"⟩ : Address).path = Client.storePath n := by
  simp [Address.path, Address.names, Address.fileName, Client.storePath, ← String.toList_inj]

@[simp] theorem path_interfacePath (n : Names) :
    (⟨some "interfaces", n.name, "interface.ts"⟩ : Address).path = Client.interfacePath n := by
  simp [Address.path, Address.names, Address.fileName, Client.interfacePath, ← String.toList_inj]

@[simp] theorem path_viewPath (n : Names) (theme : ThemeName) :
    (⟨some "views", n.capitalized ++ Text.capitalize theme.word, "vue"⟩ : Address).path
      = Client.viewPath theme n := by
  simp [Address.path, Address.names, Address.fileName, Client.viewPath, ← String.toList_inj]

/-- The addresses are those of the artifacts. -/
theorem map_path_artifacts (e : Entity) (s : Settings) :
    (e.artifacts s).map (·.path) = (e.addresses s).map Address.path := by
  have hclient : (e.clientFiles s ++ e.views Theme.builtIn).map (·.path)
      = (clientAddresses e.names Theme.builtIn).map Address.path := by
    have hroute : Client.routePath = (⟨none, "config", "ts"⟩ : Address).path := rfl
    have hview : ∀ t ∈ Theme.builtIn, (View.artifact t (.ofEntity e)).path
        = Client.viewPath t.name e.names := fun _ _ => rfl
    simpa [clientFiles, clientFilesWith, views, clientAddresses] using ⟨hroute, hview⟩
  have hserver : (e.serverFiles s).map (·.path) = serverAddresses.map Address.path := by
    rfl
  have hrelated : (e.related.flatMap (e.relatedFiles s)).map (·.path)
      = (e.related.flatMap relatedAddresses).map Address.path := by
    simp [List.map_flatMap, relatedFiles, relatedAddresses]
  unfold artifacts addresses
  rw [List.map_append, List.map_append, List.map_append, List.map_append]
  cases s.generateFrontend <;> cases s.generateBackend <;>
    simp [hclient, hserver, hrelated]

/-! ### Addresses apart -/

theorem isPlain_of_stem {directory : Option String} {stem extension : String}
    (hdirectory : ∀ name ∈ directory, isPlainName name = true)
    (hstem : Identifier.isIdentifier stem = true) (hextension : '/' ∉ extension.toList) :
    (⟨directory, stem, extension⟩ : Address).IsPlain :=
  ⟨hdirectory, Identifier.ne_empty_of_isIdentifier hstem,
    Identifier.notMem_of_isIdentifier hstem (by decide) (by decide),
    Identifier.notMem_of_isIdentifier hstem (by decide) (by decide), hextension⟩

theorem isPlain_viewAddress {n : Names} (hn : n.AreIdentifiers) (theme : ThemeName) :
    (⟨some "views", n.capitalized ++ Text.capitalize theme.word, "vue"⟩ : Address).IsPlain := by
  have hdot : '.' ∉ n.capitalized.toList :=
    Identifier.notMem_of_isIdentifier hn.capitalized (by decide) (by decide)
  have hslash : '/' ∉ n.capitalized.toList :=
    Identifier.notMem_of_isIdentifier hn.capitalized (by decide) (by decide)
  have hword : '.' ∉ (Text.capitalize theme.word).toList ∧ '/' ∉ (Text.capitalize theme.word).toList
      ∧ Text.capitalize theme.word ≠ "" := by
    cases theme <;> decide
  have hdirectory : ∀ name ∈ some "views", isPlainName name = true := by decide
  have hextension : '/' ∉ "vue".toList := by decide
  exact ⟨hdirectory, by simp [hword], by simp [hdot, hword], by simp [hslash, hword], hextension⟩

theorem isPlain_of_mem_clientAddresses {n : Names} (hn : n.AreIdentifiers) (themes : List Theme) :
    ∀ a ∈ clientAddresses n themes, a.IsPlain := by
  refine List.forall_mem_append.mpr ⟨?_, List.forall_mem_map.mpr fun t _ =>
    isPlain_viewAddress hn t.name⟩
  simp only [List.forall_mem_cons, List.not_mem_nil, false_imp_iff, implies_true, and_true]
  exact ⟨isPlain_of_stem (by decide) hn.name (by decide),
    isPlain_of_stem (by decide) hn.name (by decide),
    isPlain_of_stem (by decide) hn.name (by decide),
    isPlain_of_stem (by decide) (by decide) (by decide)⟩

theorem isPlain_of_mem_serverAddresses : ∀ a ∈ serverAddresses, a.IsPlain := by
  simp only [serverAddresses, List.forall_mem_cons, List.not_mem_nil,
    false_imp_iff, implies_true, and_true]
  exact ⟨isPlain_of_stem (by decide) (by decide) (by decide),
    isPlain_of_stem (by decide) (by decide) (by decide),
    isPlain_of_stem (by decide) (by decide) (by decide),
    isPlain_of_stem (by decide) (by decide) (by decide)⟩

theorem isPlain_of_mem_relatedAddresses {n : Names} (hn : n.AreIdentifiers) :
    ∀ a ∈ relatedAddresses n, a.IsPlain := by
  simp only [relatedAddresses, List.forall_mem_cons, List.not_mem_nil,
    false_imp_iff, implies_true, and_true]
  exact ⟨isPlain_of_stem (by decide) hn.name (by decide),
    isPlain_of_stem (by decide) hn.name (by decide)⟩

/-- Every address of an entity whose names are identifiers is plain. -/
theorem isPlain_of_mem_addresses {e : Entity} (hnames : e.names.AreIdentifiers)
    (hrelated : ∀ n ∈ e.related, n.AreIdentifiers) {s : Settings} :
    ∀ a ∈ e.addresses s, a.IsPlain := by
  refine List.forall_mem_append.mpr ⟨List.forall_mem_append.mpr ⟨?_, ?_⟩, ?_⟩
  · split
    next => exact isPlain_of_mem_clientAddresses hnames Theme.builtIn
    next => simp
  · split
    next => exact isPlain_of_mem_serverAddresses
    next => simp
  · split
    next =>
      intro a ha
      obtain ⟨n, hn, ha⟩ := List.mem_flatMap.mp ha
      exact isPlain_of_mem_relatedAddresses (hrelated n hn) a ha
    next => simp

/-- With all sides, no stem has the same extension twice. -/
theorem nodup_stems {n : Names} {related : List Names} (hdistinct : (related.map (·.name)).Nodup)
    (hother : n.name ∉ related.map (·.name)) :
    ((clientAddresses n Theme.builtIn ++ serverAddresses ++ related.flatMap relatedAddresses).map
      fun a => (a.stem, a.extension)).Nodup := by
  rw [List.map_append, List.nodup_append]
  refine ⟨?_, ?_, ?_⟩
  · have hviews : n.capitalized ++ Text.capitalize ThemeName.bootstrap.word
        ≠ n.capitalized ++ Text.capitalize ThemeName.fomantic.word :=
      fun h => absurd ((String.append_right_inj _).mp h) (by decide)
    simpa [clientAddresses, serverAddresses, Theme.builtIn, Theme.bootstrap, Theme.fomantic,
      ThemeTable.themeOf, ThemeTable.bootstrap, ThemeTable.fomantic] using hviews
  · rw [List.map_flatMap, List.nodup_flatMap]
    refine ⟨fun r _ => by simp [relatedAddresses], ?_⟩
    refine (List.pairwise_map.mp hdistinct).imp fun {r r'} hne => ?_
    simp [Function.onFun, relatedAddresses, hne.symm]
  · -- what has an extension of a related entity has its stem, or that of the entity itself
    rintro a ha b hb rfl
    have hrelated : a.1 ∈ related.map (·.name) ∧ (a.2 = "service.ts" ∨ a.2 = "store.ts") := by
      simp only [List.map_flatMap, List.mem_flatMap, relatedAddresses, List.map_cons, List.map_nil,
        List.mem_cons, List.not_mem_nil, or_false] at hb
      obtain ⟨r, hr, rfl | rfl⟩ := hb <;> simpa using ⟨r, hr, rfl⟩
    have howner : ∀ p ∈ (clientAddresses n Theme.builtIn ++ serverAddresses).map
        fun a => (a.stem, a.extension), p.2 = "service.ts" ∨ p.2 = "store.ts" → p.1 = n.name := by
      simp [clientAddresses, serverAddresses, Theme.builtIn]
    exact hother (howner a ha hrelated.2 ▸ hrelated.1)

/-- The file names of an entity differ from each other. -/
theorem nodup_fileNames {e : Entity} (hnames : e.names.AreIdentifiers)
    (hrelated : ∀ n ∈ e.related, n.AreIdentifiers)
    (hdistinct : (e.related.map (·.name)).Nodup) (hother : e.names.name ∉ e.related.map (·.name))
    (s : Settings) : ((e.addresses s).map Address.fileName).Nodup := by
  have hsublist : (e.addresses s).Sublist (clientAddresses e.names Theme.builtIn
      ++ serverAddresses ++ e.related.flatMap relatedAddresses) := by
    unfold addresses
    refine List.Sublist.append (List.Sublist.append ?_ ?_) ?_ <;> split <;> simp
  have hstems := ((hsublist.map fun a => (a.stem, a.extension)).nodup
    (nodup_stems hdistinct hother))
  refine List.pairwise_map.mpr ((List.pairwise_map.mp hstems).imp_of_mem ?_)
  intro a b ha hb hne heq
  have hplain := isPlain_of_mem_addresses hnames hrelated (s := s)
  exact hne (Address.eq_of_fileName_eq (hplain a ha) (hplain b hb) heq)

/-- So do those of the entity of a well-formed document. -/
theorem nodup_fileNames_ofFields {d : Document} (hd : d.WellFormed)
    (hname : Identifier.isExactEntityName d.name = true) (fields : List FieldSpec) (s : Settings) :
    (((ofFields d fields).addresses s).map Address.fileName).Nodup := by
  refine nodup_fileNames (Document.areIdentifiers_names hd hname) (areIdentifiers_related hd fields)
    ?_ ?_ s <;> rw [map_name_related]
  · exact d.nodup_targets
  · exact Document.name_notMem_targets hd

end Entity

/-! ### Places of an export -/

theorem isPlainName_of_isIdentifier {name : String} (h : Identifier.isIdentifier name = true) :
    isPlainName name = true := by
  have hdot : '.' ∉ name.toList := Identifier.notMem_of_isIdentifier h (by decide) (by decide)
  refine isPlainName_iff.mpr ⟨Identifier.ne_empty_of_isIdentifier h, ?_, ?_,
    Identifier.notMem_of_isIdentifier h (by decide) (by decide)⟩
  · rintro rfl
    exact hdot (by decide)
  · rintro rfl
    exact hdot (by decide)

namespace Exporter

/-- An artifact with a plain address has its place below the module. -/
theorem target_eq {x : Exporter} {entity : String} {a : Artifact} {address : Address}
    (hentity : isPlainName entity = true) (haddress : address.IsPlain)
    (hpath : a.path = address.path) :
    x.target entity a = x.modulePlace entity a.side ++ address.names := by
  have hentity' : entity.startsWith "/" = false := by
    simpa using RelativePath.not_startsWith_slash hentity ""
  have hroot : (x.settings.root a.side).text.startsWith "/" = false := by
    simpa using RelativePath.text_not_startsWith_slash (x.settings.root a.side) ""
  have hwhole : (x.relativePath entity a).startsWith "/" = false := by
    rw [relativePath, String.append_assoc, String.append_assoc, String.append_assoc]
    exact RelativePath.text_not_startsWith_slash _ _
  rw [target, modulePlace, Place.below_of_not_startsWith hwhole,
    Place.below_of_not_startsWith hentity', Place.below_of_not_startsWith hroot, relativePath,
    hpath, RelativePath.namesOf_append, RelativePath.namesOf_append, Address.namesOf_path haddress,
    List.append_assoc, List.append_assoc, List.append_assoc]

/-- Where artifacts and addresses have the same paths, every artifact has an address. -/
theorem exists_address {files : List Artifact} {addresses : List Address}
    (hpaths : files.map (·.path) = addresses.map Address.path) {a : Artifact} (ha : a ∈ files) :
    ∃ address ∈ addresses, a.path = address.path := by
  have hmem : a.path ∈ addresses.map Address.path := hpaths ▸ List.mem_map.mpr ⟨a, ha, rfl⟩
  obtain ⟨address, haddress, heq⟩ := List.mem_map.mp hmem
  exact ⟨address, haddress, heq.symm⟩

/-- Artifacts whose addresses have different file names have different places. -/
theorem nodup_target {x : Exporter} {entity : String} {files : List Artifact}
    {addresses : List Address} (hentity : isPlainName entity = true)
    (haddresses : ∀ a ∈ addresses, a.IsPlain)
    (hpaths : files.map (·.path) = addresses.map Address.path)
    (hnodup : (addresses.map Address.fileName).Nodup) : (files.map (x.target entity)).Nodup := by
  have hlast : (files.map (x.target entity)).map (·.getLast?)
      = (files.map (·.path)).map fun path => (RelativePath.namesOf path).getLast? := by
    rw [List.map_map, List.map_map]
    refine List.map_congr_left fun a ha => ?_
    obtain ⟨address, haddress, hpath⟩ := exists_address hpaths ha
    have hplain := haddresses address haddress
    simp [target_eq hentity hplain hpath, hpath, Address.namesOf_path hplain, Address.names]
  refine List.Nodup.of_map (·.getLast?) ?_
  rw [hlast, hpaths, Address.map_getLast?_path haddresses]
  exact hnodup.map fun _ _ heq => Option.some.inj heq

/-- Paths that lead to different places are different. -/
theorem nodup_relativePath {x : Exporter} {entity : String} {files : List Artifact}
    (h : (files.map (x.target entity)).Nodup) : (files.map (x.relativePath entity)).Nodup := by
  refine List.Nodup.of_map x.output.below ?_
  rw [List.map_map]
  exact h

end Exporter

/-- The artifacts of an accepted document have places apart from each other, whatever the two roots
are, and each of them is in the module of the entity: behind the root of its side and the name of
the entity there are one or two plain names. -/
theorem artifacts_apart_in_module {v : Value} {d : Document} (hparse : Document.parse v = .ok d)
    (hvalid : d.findings.isValid = true) {s : Settings} (hwritable : s.IsWritable) (output : Place)
    (dryRun : Bool) :
    ∃ files, assemble v s = .ok files
      ∧ (files.map (Exporter.relativePath ⟨output, s, dryRun⟩ d.name)).Nodup
      ∧ (files.map (Exporter.target ⟨output, s, dryRun⟩ d.name)).Nodup
      ∧ ∀ a ∈ files, ∃ names : List String, (names.length = 1 ∨ names.length = 2)
        ∧ (∀ name ∈ names, isPlainName name = true)
        ∧ Exporter.relativePath ⟨output, s, dryRun⟩ d.name a
          = (s.root a.side).text ++ "/" ++ d.name ++ "/" ++ "/".intercalate names
        ∧ Exporter.target ⟨output, s, dryRun⟩ d.name a
          = Exporter.modulePlace ⟨output, s, dryRun⟩ d.name a.side ++ names := by
  obtain ⟨hd, fields, -, -, hfiles⟩ := exists_assemble_eq_ok hparse hvalid
  have hname := Document.isExactEntityName_of_parse hparse
  have hnames := Document.areIdentifiers_names hd hname
  -- all is said of addresses: their names are plain and their file names distinct
  have hplain := Entity.isPlain_of_mem_addresses hnames (Entity.areIdentifiers_related hd fields)
    (s := s)
  have hentity := isPlainName_of_isIdentifier hnames.name
  have hpaths := Entity.map_path_artifacts (Entity.ofFields d fields) s
  have htargets := Exporter.nodup_target (x := ⟨output, s, dryRun⟩) hentity hplain hpaths
    (Entity.nodup_fileNames_ofFields hd hname fields s)
  refine ⟨_, hfiles s hwritable, Exporter.nodup_relativePath htargets, htargets, fun a ha => ?_⟩
  obtain ⟨address, haddress, hpath⟩ := Exporter.exists_address hpaths ha
  refine ⟨address.names, address.length_names,
    Address.isPlainName_of_mem_names (hplain address haddress), ?_,
    Exporter.target_eq hentity (hplain address haddress) hpath⟩
  rw [Exporter.relativePath, hpath]
  rfl

/-- Settings with one root for both sides. -/
def sharedRoot : Settings where
  frontendRoot := ⟨["src"], by decide⟩
  backendRoot := ⟨["src"], by decide⟩

/-- The artifacts of orders have different paths below one root. -/
theorem orders_apart_below_sharedRoot :
    ∃ files, assemble orderValue sharedRoot = .ok files
      ∧ (files.map (Exporter.relativePath ⟨[], sharedRoot, false⟩ "order")).Nodup := by
  obtain ⟨files, hfiles, hpaths, -⟩ :=
    artifacts_apart_in_module parse_orderValue isValid_orderDocument
      (by decide : sharedRoot.IsWritable) [] false
  exact ⟨files, hfiles, hpaths⟩

end Scaffold
