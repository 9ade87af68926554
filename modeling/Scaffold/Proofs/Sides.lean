import Scaffold.Proofs.Arguments
import Scaffold.Proofs.DryRun
import Scaffold.Proofs.Override

/-!
# Runs for one side

An option of the command line asks for the files of one side only. It is put among the entries of
the settings file as an entry that switches the other side off (`Options.settings_of_asksOnly`);
what the settings file says about the side itself stays. So a run emits the files of the side, or
nothing, as the file says (`side_option_emits`).
-/

namespace Scaffold

/-- The setting that says whether a side is generated. -/
def Side.setting : Side → Setting
  | .frontend => .generateFrontend
  | .backend => .generateBackend

namespace Settings

/-- Settings that do not generate a side. -/
def without (s : Settings) : Side → Settings
  | .frontend => { s with generateFrontend := false }
  | .backend => { s with generateBackend := false }

/-- Settings that generate one side and not the other. -/
def only (s : Settings) : Side → Settings
  | .frontend => { s with generateFrontend := true, generateBackend := false }
  | .backend => { s with generateFrontend := false, generateBackend := true }

end Settings

/-- The work on a file exports some artifacts of an entity, and reports on that. -/
structure Generator.Exports (g : Generator) (t : FileTree) (p : Place) (entity : String)
    (files : List Artifact) : Prop where
  artifacts : (g.generateFile t p).result.artifacts = files
  tree : (g.generateFile t p).tree = (g.exporter.run entity files t).1
  reports : ∀ result, (g.exporter.run entity files t).2 = .ok result →
    (g.generateFile t p).stopped = none
      ∧ (g.generateFile t p).result.files = result.files
      ∧ (g.generateFile t p).result.exportErrors = result.errors
      ∧ (g.generateFile t p).result.success = result.success

namespace CommandLine.Options

/-- Options that ask for no side. -/
def withoutSides (o : Options) : Options := { o with frontendOnly := false, backendOnly := false }

/-- The options let a run come to generating files below a directory. -/
structure Generates (o : Options) (here : Place) (t : FileTree) (output : Place) : Prop where
  generating : o.validateOnly = false
  placed : ∀ path ∈ o.schemas, (here.below path).hasNull = false
  present : ∀ p ∈ o.schemaPlaces here, t.isFile p = true
  directory : ∃ path, o.output = some path ∧ (here.below path).hasNull = false
    ∧ (here.below path).settled = output

/-- A document is read and accepted, and is not held back for its warnings. -/
structure Takes (o : Options) (t : FileTree) (p : Place) (entries : Entries) (d : Document) :
    Prop where
  loaded : Source.load t p = .ok entries
  parsed : Document.parse (.map entries) = .ok d
  valid : d.findings.isValid = true
  unwarned : o.failOnWarnings = true → d.findings.warnings = []

/-- The generator of a run. -/
def generator (o : Options) (s : Settings) (output : Place) : Generator :=
  { settings := s, output := output, dryRun := o.dryRun, failOnWarnings := o.failOnWarnings }

end CommandLine.Options

/-! ### One side only -/

namespace Settings

variable {s : Settings} {side : Side}

/-- Settings that generate no side are written nowhere. -/
theorem isWritable_of_no_sides (h : ∀ side, s.generates side = false) : s.IsWritable :=
  isWritable_of_generateFrontend (h .frontend)

theorem without_other_of_generates (h : s.generates side = true) :
    s.without side.other = s.only side := by
  obtain ⟨⟩ := s
  cases side <;> cases h <;> rfl

@[simp] theorem generates_only {side' : Side} :
    (s.only side).generates side' = true ↔ side' = side := by
  cases side <;> cases side' <;> simp [only, generates]

/-- Without the other side and without the side itself, nothing is generated. -/
theorem generates_without_other (h : s.generates side = false) (side' : Side) :
    (s.without side.other).generates side' = false := by
  cases side <;> cases side' <;> first | rfl | exact h

/-- Settings that can be written for one side alone can be written without the other side. -/
theorem isWritable_without_other (h : (s.only side).IsWritable) :
    (s.without side.other).IsWritable := by
  cases hside : s.generates side with
  | true => exact without_other_of_generates hside ▸ h
  | false => exact isWritable_of_no_sides (generates_without_other hside)

@[simp] theorem update_side (side : Side) :
    side.setting.update (.bool false) = .ok fun s => s.without side := by
  cases side <;> rfl

end Settings

namespace CommandLine.Options

variable {o : Options} {side : Side}

theorem overrides_of_asksOnly (hside : o.asksOnly side = true)
    (hother : o.asksOnly side.other = false) :
    o.overrides = (.text side.other.setting.name, .bool false) :: o.withoutSides.overrides := by
  obtain ⟨⟩ := o
  cases side <;> cases hside <;> cases hother <;> rfl

/-- The other options change settings, and none that says whether a side is generated. -/
theorem exists_setting_of_mem_overrides (hasks : ∀ side, o.asksOnly side = false)
    {entry : Value × Value} (h : entry ∈ o.overrides) :
    ∃ setting : Setting, entry.1 = .text setting.name ∧ ∀ side : Side, setting ≠ side.setting := by
  have hfrontend : o.frontendOnly = false := hasks .frontend
  have hbackend : o.backendOnly = false := hasks .backend
  simp only [overrides, hfrontend, hbackend, List.mem_append, Option.mem_toList, Option.map_map,
    Option.map_eq_some_iff, Bool.false_eq_true, if_false, List.not_mem_nil, false_or] at h
  have hsides : ∀ setting : Setting, entry.1 = .text setting.name → setting ≠ .generateFrontend →
      setting ≠ .generateBackend →
      ∃ setting : Setting, entry.1 = .text setting.name
        ∧ ∀ side : Side, setting ≠ side.setting := by
    intro setting hname hfrontend hbackend
    refine ⟨setting, hname, fun side => ?_⟩
    cases side with
    | frontend => exact hfrontend
    | backend => exact hbackend
  -- one case for each option that stands for a setting
  rcases h with ((((⟨_, -, rfl⟩ | ⟨_, -, rfl⟩) | ⟨_, -, rfl⟩) | ⟨_, -, rfl⟩) | ⟨_, -, rfl⟩) | h
  · exact hsides .frontendRoot rfl (by decide) (by decide)
  · exact hsides .backendRoot rfl (by decide) (by decide)
  · exact hsides .adminRole rfl (by decide) (by decide)
  · exact hsides .tokenKey rfl (by decide) (by decide)
  · exact hsides .maxWorkers rfl (by decide) (by decide)
  · split at h
    · obtain rfl := List.mem_singleton.mp h
      exact hsides .overwriteExisting rfl (by decide) (by decide)
    · cases h

@[simp] theorem asksOnly_withoutSides (o : Options) (side : Side) :
    o.withoutSides.asksOnly side = false := by
  cases side <;> rfl

theorem areNamed_overrides (o : Options) : Settings.AreNamed o.withoutSides.overrides := by
  intro entry hentry
  obtain ⟨setting, hname, -⟩ := exists_setting_of_mem_overrides o.asksOnly_withoutSides hentry
  exact ⟨setting, hname⟩

theorem ne_side_of_mem_overrides (side : Side) :
    ∀ entry ∈ o.withoutSides.overrides, entry.1 ≠ .text side.setting.name := by
  intro entry hentry
  obtain ⟨setting, hname, hside⟩ := exists_setting_of_mem_overrides o.asksOnly_withoutSides hentry
  rw [hname]
  exact fun heq => hside side (Setting.name_injective (Value.text.inj heq))

/-- Options that ask for one side give the settings that there are without them, but for the other
side, which is not generated. -/
theorem settings_of_asksOnly {here : Place} {t : FileTree} {base : Settings}
    (hside : o.asksOnly side = true) (hother : o.asksOnly side.other = false)
    (hbase : o.withoutSides.settings here t = .ok base) :
    o.settings here t = .ok (base.without side.other) := by
  have hnamed := o.areNamed_overrides
  have hothers : ∀ other ≠ side.other.setting, side.other.setting.name ≠ other.name :=
    fun other hne heq => hne (Setting.name_injective heq).symm
  unfold settings at hbase ⊢
  rw [overrides_of_asksOnly hside hother]
  have hsame : o.withoutSides.config = o.config := rfl
  rw [hsame] at hbase
  -- both runs read entries that differ in the setting of the other side alone
  cases hconfig : o.config with
  | none =>
    simp only [hconfig, mapError_eq_ok] at hbase ⊢
    refine Settings.ofValue_of_get? (Settings.update_side side.other) ?_ ?_ ?_ hbase
    · exact List.forall_mem_cons.mpr ⟨⟨_, rfl⟩, hnamed⟩
    · exact if_pos rfl
    · intro other hne
      exact if_neg (hothers other hne)
  | some path =>
    simp only [hconfig] at hbase ⊢
    split at hbase
    next => cases hbase
    next hnull =>
      rw [if_neg hnull, mapError_eq_ok]
      rw [mapError_eq_ok] at hbase
      unfold Settings.load at hbase ⊢
      split at hbase
      next => cases hbase
      next entries hload =>
        rw [mapError_eq_ok] at hbase ⊢
        have hfile : Settings.AreNamed entries :=
          (Settings.areNamed_putAll hnamed).mp (Settings.ofValue_map_eq_ok.mp hbase).1
        refine Settings.ofValue_of_get? (Settings.update_side side.other) ?_ ?_ ?_ hbase
        · exact (Settings.areNamed_putAll hnamed).mpr (Settings.areNamed_put.mpr hfile)
        · exact (Settings.get?_putAll_of_notMem hnamed (ne_side_of_mem_overrides side.other)).trans
            (by rw [Entries.get?_put, if_pos rfl])
        · intro other hne
          apply Settings.get?_putAll_congr hnamed
          rw [Entries.get?_put, if_neg (hothers other hne)]

end CommandLine.Options

/-! ### Artifacts of one side -/

namespace Entity

variable (e : Entity) (s : Settings) (side : Side)

/-- Without the other side there are the artifacts of a side, or none, as the settings say. -/
theorem artifacts_without_other :
    e.artifacts (s.without side.other)
      = if s.generates side then e.artifacts (s.only side) else [] := by
  split
  next hside => rw [Settings.without_other_of_generates hside]
  next hside =>
    exact e.artifacts_eq_nil (Settings.generates_without_other (Bool.eq_false_iff.mpr hside))

/-- There are artifacts of the one side that is generated, and no others. -/
theorem artifacts_only :
    e.artifacts (s.only side) ≠ [] ∧ ∀ a ∈ e.artifacts (s.only side), a.side = side := by
  constructor
  · obtain ⟨a, ha, -⟩ := e.exists_mem_artifacts (Settings.generates_only.mpr rfl)
    exact List.ne_nil_of_mem ha
  · intro a ha
    exact Settings.generates_only.mp (generates_of_mem_artifacts ha)

end Entity

/-! ### Exports of files -/

/-- The names on a settled way were there before. -/
theorem Place.mem_of_mem_settled {p : Place} {name : String} (h : name ∈ p.settled) : name ∈ p := by
  have hfold : ∀ {acc : Place}, name ∈ p.foldl
      (fun acc name => if name = ".." then acc.dropLast else acc ++ [name]) acc →
      name ∈ acc ∨ name ∈ p := by
    clear h
    induction p with
    | nil => exact .inl
    | cons first rest ih =>
      intro acc h
      rcases ih h with hacc | hrest
      · dsimp only at hacc
        split at hacc
        · exact .inl (List.mem_of_mem_dropLast hacc)
        · rcases List.mem_append.mp hacc with hacc | hfirst
          · exact .inl hacc
          · exact .inr (List.mem_cons.mpr (.inl (List.mem_singleton.mp hfirst)))
      · exact .inr (List.mem_cons_of_mem _ hrest)
  exact (hfold h).resolve_left List.not_mem_nil

theorem Place.hasNull_settled {p : Place} (h : p.hasNull = false) : p.settled.hasNull = false := by
  unfold hasNull at h ⊢
  rw [List.any_eq_false] at h ⊢
  exact fun name hname => h name (mem_of_mem_settled hname)

theorem Exporter.run_nil {x : Exporter} (houtput : x.output.hasNull = false) (entity : String)
    (t : FileTree) : x.run entity [] t = (t, .ok ⟨entity, x.dryRun, [], []⟩) := by
  have hbarrier : x.barrier? t entity [] = none :=
    barrier?_eq_none_iff.mpr ⟨houtput, List.forall_mem_nil _⟩
  have hrefused : x.isRefused t entity [] = false := rfl
  have hexport : x.exportWith (fun _ => none) entity [] t = (t, ⟨entity, x.dryRun, [], []⟩) := by
    simp [exportWith, hrefused, writeFrom, recordsOf, errorsOf, sortTexts]
  have hbroken : x.isBroken t entity [] = false := by
    rw [isBroken, List.any_nil, Bool.and_false]
  rw [run, runWith, hbarrier, hexport, hbroken]
  rfl

namespace Generator

variable {g : Generator} {t : FileTree} {p : Place} {entries : Entries} {e : Entity}

theorem exports_of_accepted (hthemes : g.themes = ThemeTable.builtIn.map ThemeTable.theme)
    (hwritable : g.settings.IsWritable) (hload : Source.load t p = .ok entries)
    (hentity : (g.validate (.map entries)).entity = some e) :
    g.Exports t p e.names.name (e.artifacts g.settings) := by
  have hwork := @generateWith_of_accepted g (.map entries) e (fun _ => none) t p.text hthemes
    hwritable hentity
  have hfile : g.generateFile t p
      = let after := g.generateWith (fun _ => none) t p.text (.map entries)
        { after with result := { after.result with
            steps := loadStep true ("from " ++ p.name) :: after.result.steps } } := by
    simp only [generateFile, generateFileWith, hload]
  rw [hwork] at hfile
  constructor
  · rw [hfile]
    rfl
  · rw [hfile, Exporter.run, Exporter.runWith]
    cases g.exporter.barrier? t e.names.name (e.artifacts g.settings) <;> rfl
  · intro result hresult
    -- there is a result only where no barrier and no broken target stopped the export
    rw [Exporter.run, Exporter.runWith] at hresult
    cases hbarrier : g.exporter.barrier? t e.names.name (e.artifacts g.settings) with
    | some fault =>
      rw [hbarrier] at hresult
      cases hresult
    | none =>
      simp only [hbarrier] at hresult
      split at hresult
      next => cases hresult
      next hbroken =>
        obtain rfl := Except.ok.inj hresult
        rw [hfile]
        refine ⟨exportStop?_eq_none.mpr ⟨hbarrier, Bool.eq_false_iff.mpr hbroken⟩, rfl, rfl, ?_⟩
        exact success_exportReport hentity p.text _ _

/-- A file whose document is accepted, under settings that cannot be written, fails and leaves the
tree as it is. -/
theorem generateFile_of_unwritable (hwritable : ¬g.settings.IsWritable)
    (hload : Source.load t p = .ok entries)
    (hentity : (g.validate (.map entries)).entity = some e) :
    (g.generateFile t p).result.success = false ∧ (g.generateFile t p).tree = t := by
  simp only [generateFile, generateFileWith, hload, generateWith_of_unwritable hwritable hentity]
  exact ⟨g.success_overlongReport p.text (.map entries), trivial⟩

section

variable (hthemes : g.themes = ThemeTable.builtIn.map ThemeTable.theme)
  (houtput : g.output.hasNull = false) (hsides : ∀ side, g.settings.generates side = false)

include hthemes houtput hsides

/-- With settings that generate no side, a file leaves the tree as it is. -/
theorem tree_generateFile_of_no_sides : (g.generateFile t p).tree = t := by
  cases hload : Source.load t p with
  | error e => simp only [generateFile, generateFileWith, hload]
  | ok entries =>
    cases hentity : (g.validate (.map entries)).entity with
    | none =>
      simp only [generateFile, generateFileWith, hload, generateWith_of_rejected hentity]
    | some e =>
      have hwritable := Settings.isWritable_of_no_sides hsides
      rw [(exports_of_accepted hthemes hwritable hload hentity).tree, e.artifacts_eq_nil hsides,
        Exporter.run_nil houtput]

/-- So do several files. -/
theorem tree_generateFiles_of_no_sides (places : List Place) :
    (g.generateFiles t places).tree = t := by
  induction places with
  | nil => rfl
  | cons p rest ih =>
    have hfirst := tree_generateFile_of_no_sides (t := t) (p := p) hthemes houtput hsides
    simp only [generateFiles, hfirst, ih]

end

end Generator

/-! ### Runs -/

namespace CommandLine

namespace Options

theorem Generates.hasNull_eq_false {o : Options} {here : Place} {t : FileTree} {output : Place}
    (h : o.Generates here t output) : output.hasNull = false := by
  obtain ⟨path, -, hplace, rfl⟩ := h.directory
  exact Place.hasNull_settled hplace

end Options

variable {here : Place} {arguments : List String} {t : FileTree} {o : Options} {output : Place}

/-- A run that comes to generating files leaves what its generator does. -/
theorem run_of_generates (hparse : Options.parse arguments = .ok o)
    (hgenerates : o.Generates here t output) {s : Settings} (hs : o.settings here t = .ok s) :
    run here arguments t
      = let r := generate o s output t (o.schemaPlaces here)
        { r with notices := Notice.told o.quiet r.notices } := by
  obtain ⟨path, hpath, hplace, rfl⟩ := hgenerates.directory
  have hplaced : (o.schemas.any fun path => (here.below path).hasNull) = false := by
    rw [List.any_eq_false]
    exact fun path hpath => Bool.eq_false_iff.mp (hgenerates.placed path hpath)
  have hpresent : (o.schemaPlaces here).find? (fun p => !t.isFile p) = none := by
    rw [List.find?_eq_none]
    intro p hp
    rw [hgenerates.present p hp]
    exact Bool.false_ne_true
  simp [run, hparse, runOptions, hplaced, hpresent, hgenerates.generating, hpath, hs, hplace]

/-- A run for one side has the settings that there are without the option, but the other side is not
generated. Where these settings generate the side, each document that is taken comes to the export
of what assembling gives for the side alone; if the settings cannot be written, assembling gives
nothing, and the document fails. Where they do not, the option does not change that: each document
that is taken counts as generated without any artifact, and the tree is as it was. -/
theorem side_option_emits {side : Side} {base : Settings}
    (hparse : Options.parse arguments = .ok o) (hside : o.asksOnly side = true)
    (hbase : o.withoutSides.settings here t = .ok base)
    (hgenerates : o.Generates here t output) :
    ∃ s, o.settings here t = .ok s ∧
      let g := o.generator s output
      let after := g.batch t (o.schemaPlaces here)
      (run here arguments t).tree = after.tree
        ∧ (run here arguments t).exit = (exitCode after.result).number
        ∧ (run here arguments t).output = Help.ended (after.result.map Report.summary)
        ∧ (∀ t' p entries d, o.Takes t' p entries d → (base.only side).IsWritable → ∃ files,
          assemble (.map entries) (base.only side) = .ok files
            ∧ files ≠ [] ∧ (∀ a ∈ files, a.side = side)
            ∧ g.Exports t' p d.name (if base.generates side then files else []))
        ∧ (∀ t' p entries d, o.Takes t' p entries d → ¬(base.only side).IsWritable →
          assemble (.map entries) (base.only side) = .error (.unrendered .overlong)
            ∧ (base.generates side = true → (g.generateFile t' p).result.success = false
              ∧ (g.generateFile t' p).tree = t'))
        ∧ (base.generates side = true → s = base.only side)
        ∧ (base.generates side = false → after.tree = t ∧ ∀ t' p entries d,
          o.Takes t' p entries d → (g.generateFile t' p).result.success = true) := by
  -- the option only takes the other side away: all is said of the settings without that side
  have hs := Options.settings_of_asksOnly hside (Options.asksOnly_other_of_parse hparse hside) hbase
  have hrun := run_of_generates hparse hgenerates hs
  have houtput := hgenerates.hasNull_eq_false
  let g := o.generator (base.without side.other) output
  have hexports : ∀ {t' p entries e}, Source.load t' p = .ok entries →
      (g.validate (.map entries)).entity = some e → (base.without side.other).IsWritable →
      g.Exports t' p e.names.name
        (if base.generates side then e.artifacts (base.only side) else []) := by
    intro t' p entries e hload hentity hwritable
    rw [← e.artifacts_without_other]
    exact Generator.exports_of_accepted rfl hwritable hload hentity
  refine ⟨_, hs, ?_, ?_, ?_, ?_, ?_, Settings.without_other_of_generates, fun hoff => ⟨?_, ?_⟩⟩
  · rw [hrun]
    rfl
  · rw [hrun]
    rfl
  · rw [hrun]
    rfl
  · intro t' p entries d htakes hwritable
    obtain ⟨e, hentity, hname, hassemble⟩ := g.exists_entity_of_valid htakes.parsed htakes.valid
      htakes.unwarned
    obtain ⟨hne, hsides⟩ := e.artifacts_only base side
    refine ⟨_, hassemble _ hwritable, hne, hsides, ?_⟩
    exact hname ▸ hexports htakes.loaded hentity (Settings.isWritable_without_other hwritable)
  · intro t' p entries d htakes hwritable
    obtain ⟨e, hentity, -, -⟩ := g.exists_entity_of_valid htakes.parsed htakes.valid htakes.unwarned
    refine ⟨assemble_of_not_isWritable htakes.parsed htakes.valid hwritable, fun hon => ?_⟩
    rw [← Settings.without_other_of_generates hon] at hwritable
    exact Generator.generateFile_of_unwritable hwritable htakes.loaded hentity
  · exact Generator.tree_generateFiles_of_no_sides rfl houtput
      (Settings.generates_without_other hoff) _
  · -- nothing is exported, which always succeeds
    intro t' p entries d htakes
    obtain ⟨e, hentity, -, -⟩ := g.exists_entity_of_valid htakes.parsed htakes.valid htakes.unwarned
    have hwork := hexports htakes.loaded hentity
      (Settings.isWritable_of_no_sides (Settings.generates_without_other hoff))
    rw [hoff, if_neg Bool.false_ne_true] at hwork
    obtain ⟨-, -, -, hsuccess⟩ := hwork.reports _ (by rw [Exporter.run_nil houtput])
    exact hsuccess

/-! A run for one side, with a settings file that switches the client side off. -/

namespace OneSide

def settingsText : String := "\x7b\"generate_frontend\": false\x7d"

/-- The settings in that file. -/
def base : Settings := Settings.without default .frontend

def tree : FileTree := Batch.deskTree.put ["lux.json"] (.file settingsText.toUTF8)

def command (side : Side) : List String :=
  ["-s", "note.json", "-o", "out", "--config", "lux.json",
    match side with
    | .frontend => "--frontend-only"
    | .backend => "--backend-only"]

/-- What the command asks for. -/
def request (side : Side) : Options :=
  { schemas := ["note.json"], output := some "out", config := some "lux.json"
    frontendOnly := side = .frontend, backendOnly := side = .backend }

theorem find_tree : tree.find ["note.json"] = .ok (.file (Batch.documentText "note").toUTF8)
    ∧ tree.find ["lux.json"] = .ok (.file settingsText.toUTF8) := by
  simp only [FileTree.find, Place.hasNull_eq_any]
  decide

/-- What the command and the files say: the places, the settings without the client side, and a
document that is accepted. -/
theorem evaluated :
    (∀ side ∈ [Side.frontend, .backend], Options.parse (command side) = .ok (request side))
      ∧ (∀ path ∈ ["note.json", "out", "lux.json"],
        (Place.below [] path).settled = [path] ∧ (Place.below [] path).hasNull = false)
      ∧ ((Source.readContent ["lux.json"] settingsText.toUTF8).toOption.any fun entries =>
        Settings.ofValue (.map (entries.putAll [])) = .ok base) = true
      ∧ ((Source.readContent ["note.json"] (Batch.documentText "note").toUTF8).toOption.any
        fun entries => (Document.parse (.map entries)).toOption.any fun d => d.findings.isValid)
          = true := by
  simp only [Place.hasNull_eq_any]
  decide +kernel

theorem parse_command (side : Side) : Options.parse (command side) = .ok (request side) :=
  evaluated.1 side (by cases side <;> decide)

theorem generates (side : Side) : (request side).Generates [] tree ["out"] := by
  have hschemas : (request side).schemaPlaces [] = [["note.json"]] :=
    congrArg ([·]) (evaluated.2.1 "note.json" (by decide)).1
  constructor
  · rfl
  · exact List.forall_mem_singleton.mpr (evaluated.2.1 "note.json" (by decide)).2
  · rw [hschemas, List.forall_mem_singleton]
    simp [FileTree.isFile, FileTree.read?, FileTree.stat?, find_tree.1, Except.toOption]
  · obtain ⟨hsettled, hnull⟩ := evaluated.2.1 "out" (by decide)
    exact ⟨"out", rfl, hnull, hsettled⟩

theorem settings_request (side : Side) :
    (request side).withoutSides.settings [] tree = .ok base := by
  obtain ⟨hsettled, hnull⟩ := evaluated.2.1 "lux.json" (by decide)
  have hload : Settings.load tree ["lux.json"] [] = .ok base := by
    obtain ⟨-, -, hcontent, -⟩ := evaluated
    rw [Settings.load, Source.load, find_tree.2]
    dsimp only
    cases hread : Source.readContent ["lux.json"] settingsText.toUTF8 with
    | error e =>
      rw [hread] at hcontent
      cases hcontent
    | ok entries =>
      rw [hread] at hcontent
      dsimp only
      rw [of_decide_eq_true hcontent]
      rfl
  have hoverrides : (request side).withoutSides.overrides = [] := rfl
  have hconfig : (request side).withoutSides.config = some "lux.json" := rfl
  simp only [Options.settings, hconfig, hnull, hsettled, hoverrides, hload, Bool.false_eq_true,
    if_false]
  rfl

theorem exists_takes (side : Side) :
    ∃ entries d, (request side).Takes tree ["note.json"] entries d := by
  obtain ⟨-, -, -, hcontent⟩ := evaluated
  have hload : Source.load tree ["note.json"]
      = Source.readContent ["note.json"] (Batch.documentText "note").toUTF8 := by
    rw [Source.load, find_tree.1]
  cases hread : Source.readContent ["note.json"] (Batch.documentText "note").toUTF8 with
  | error e =>
    rw [hread] at hcontent
    cases hcontent
  | ok entries =>
    rw [hread] at hcontent hload
    cases hparse : Document.parse (.map entries) with
    | error r =>
      simp [Except.toOption, hparse] at hcontent
    | ok d =>
      have hvalid : d.findings.isValid = true := by
        simpa [Except.toOption, hparse] using hcontent
      exact ⟨entries, d, hload, hparse, hvalid, fun h => absurd h Bool.false_ne_true⟩

/-- Asked for the client side, the run makes nothing and ends with success, though there are files
of that side; asked for the server side, it exports the files of that side. -/
theorem note_for_one_side :
    (∃ entries d files, (request .frontend).Takes tree ["note.json"] entries d
        ∧ assemble (.map entries) (base.only .frontend) = .ok files ∧ files ≠ []
        ∧ (run [] (command .frontend) tree).tree = tree
        ∧ (run [] (command .frontend) tree).exit = 0)
      ∧ ∃ entries d files, (request .backend).Takes tree ["note.json"] entries d
        ∧ assemble (.map entries) (base.only .backend) = .ok files ∧ files ≠ []
        ∧ ((request .backend).generator (base.only .backend) ["out"]).Exports tree ["note.json"]
          d.name files := by
  constructor
  · obtain ⟨s, -, htree, hexit, -, hemits, -, -, hoff⟩ := side_option_emits
      (parse_command .frontend) (rfl : (request .frontend).asksOnly .frontend = true)
      (settings_request .frontend) (generates .frontend)
    obtain ⟨entries, d, htakes⟩ := exists_takes .frontend
    obtain ⟨files, hfiles, hne, -, -⟩ := hemits _ _ _ _ htakes (by decide)
    obtain ⟨hsame, hsuccess⟩ := hoff rfl
    refine ⟨entries, d, files, htakes, hfiles, hne, htree.trans hsame, hexit.trans ?_⟩
    have hschemas : (request .frontend).schemaPlaces [] = [["note.json"]] :=
      congrArg ([·]) (evaluated.2.1 "note.json" (by decide)).1
    have hreport := hsuccess _ _ _ _ htakes
    simp [hschemas, Generator.batch, Generator.generateFiles, exitCode, Report.exitCode, hreport,
      ExitCode.worse, ExitCode.number]
  · obtain ⟨s, -, -, -, -, hemits, -, hs, -⟩ := side_option_emits
      (parse_command .backend) (rfl : (request .backend).asksOnly .backend = true)
      (settings_request .backend) (generates .backend)
    obtain ⟨entries, d, htakes⟩ := exists_takes .backend
    obtain ⟨files, hfiles, hne, -, hexports⟩ := hemits _ _ _ _ htakes (by decide)
    obtain rfl := hs rfl
    exact ⟨entries, d, files, htakes, hfiles, hne, hexports⟩

end OneSide

end CommandLine

end Scaffold
