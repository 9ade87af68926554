import Scaffold.CommandLine.Run
import Scaffold.Proofs.Completion
import Scaffold.Proofs.Dependence
import Scaffold.Proofs.Modules

/-!
# Checks and dry runs

Documents can be checked, or their generation can be tried without writing anything. The two go
different ways, but where the settings can be written a file has the same outcome on both
(`Generator.IsTrial.generateFile`): nothing that follows the acceptance of a document can fail, as
long as the system looks at its modules. So both end with the same exit code, which the worst file
decides (`dryRun_ends_as_check`). Where the settings cannot be written, every accepted document
fails when it is assembled.
-/

namespace Scaffold

/-! ### The worst outcome -/

theorem ExitCode.foldl_worse_eq {codes : List ExitCode} (h : ExitCode.export ∉ codes)
    {first : ExitCode} (hfirst : first ≠ .export) :
    codes.foldl ExitCode.worse first
      = if .input ∈ first :: codes then .input
        else if .generation ∈ first :: codes then .generation
        else if .validation ∈ first :: codes then .validation else .success := by
  induction codes generalizing first with
  | nil => cases first <;> first | rfl | exact absurd rfl hfirst
  | cons c rest ih =>
    obtain ⟨hc, hrest⟩ := not_or.mp (mt List.mem_cons.mpr h)
    have hworse : first.worse c ≠ .export := by
      unfold worse
      split
      · exact Ne.symm hc
      · exact hfirst
    rw [List.foldl_cons, ih hrest hworse]
    -- the worse one of the first two stands for both
    cases first <;> cases c <;> simp [worse, number] at hc hfirst ⊢

/-! ### The outcome of one file -/

/-- Whether a file cannot be loaded as a map. -/
def Source.isUnreadable (t : FileTree) (p : Place) : Bool := !(Source.load t p).isOk

/-- Whether a file can be loaded, but is no document or a document with an error. -/
def Source.isRejected (t : FileTree) (p : Place) : Bool :=
  (Source.load t p).toOption.any fun entries => !(Document.validate (.map entries)).isOk

/-- Whether a file can be loaded and is a document without an error. -/
def Source.isAccepted (t : FileTree) (p : Place) : Bool :=
  (Source.load t p).toOption.any fun entries => (Document.validate (.map entries)).isOk

/-- The outcome of a file, if the one of accepted documents is given. -/
def Source.outcome (accepted : ExitCode) (t : FileTree) (p : Place) : ExitCode :=
  if Source.isUnreadable t p then .input
  else if Source.isRejected t p then .validation else accepted

/-- A file is of one of three kinds. -/
theorem Source.outcome_cases (accepted : ExitCode) (t : FileTree) (p : Place) :
    (isUnreadable t p = true ∧ isRejected t p = false ∧ isAccepted t p = false
        ∧ outcome accepted t p = .input)
      ∨ (isUnreadable t p = false ∧ isRejected t p = true ∧ isAccepted t p = false
        ∧ outcome accepted t p = .validation)
      ∨ (isUnreadable t p = false ∧ isRejected t p = false ∧ isAccepted t p = true
        ∧ outcome accepted t p = accepted) := by
  unfold outcome isUnreadable isRejected isAccepted
  cases Source.load t p with
  | error e => exact .inl ⟨rfl, rfl, rfl, rfl⟩
  | ok entries =>
    have hloaded : (Except.ok entries : Except Source.LoadError Entries).isOk = true := rfl
    cases hvalid : (Document.validate (.map entries)).isOk <;>
      simp [hloaded, Except.toOption, hvalid]

theorem Source.outcome_eq_iff {accepted : ExitCode}
    (haccepted : accepted = .success ∨ accepted = .generation) (t : FileTree) (p : Place) :
    (outcome accepted t p = .input ↔ isUnreadable t p = true)
      ∧ (outcome accepted t p = .generation ↔ accepted = .generation ∧ isAccepted t p = true)
      ∧ (outcome accepted t p = .validation ↔ isRejected t p = true)
      ∧ outcome accepted t p ≠ .export := by
  rcases outcome_cases accepted t p with
    ⟨hunreadable, hrejected, haccepted', houtcome⟩
      | ⟨hunreadable, hrejected, haccepted', houtcome⟩
      | ⟨hunreadable, hrejected, haccepted', houtcome⟩ <;>
    rw [hunreadable, hrejected, haccepted', houtcome] <;> rcases haccepted with rfl | rfl <;> simp

/-- The worst outcome of several files: one that cannot be loaded decides before an accepted
document that fails, and that before a document that is rejected. -/
theorem Source.foldl_outcome {accepted : ExitCode}
    (haccepted : accepted = .success ∨ accepted = .generation) (t : FileTree)
    (places : List Place) :
    (places.map (outcome accepted t)).foldl ExitCode.worse .success
      = if places.any (isUnreadable t) then .input
        else if accepted = .generation ∧ places.any (isAccepted t) then .generation
        else if places.any (isRejected t) then .validation else .success := by
  have hiff := outcome_eq_iff haccepted t
  have hexport : ExitCode.export ∉ places.map (outcome accepted t) := by
    intro h
    obtain ⟨p, -, hp⟩ := List.mem_map.mp h
    exact (hiff p).2.2.2 hp
  have hinput : .input ∈ ExitCode.success :: places.map (outcome accepted t)
      ↔ places.any (isUnreadable t) = true := by
    simp [(hiff _).1]
  have hgeneration : .generation ∈ ExitCode.success :: places.map (outcome accepted t)
      ↔ accepted = .generation ∧ places.any (isAccepted t) = true := by
    simp only [List.mem_cons, reduceCtorEq, List.mem_map, (hiff _).2.1, false_or, List.any_eq_true]
    grind
  have hvalidation : .validation ∈ ExitCode.success :: places.map (outcome accepted t)
      ↔ places.any (isRejected t) = true := by
    simp [(hiff _).2.2.1]
  -- no file ends with a failed export, which leaves four codes to rank
  have hfold := ExitCode.foldl_worse_eq hexport (by decide : ExitCode.success ≠ .export)
  simpa only [hinput, hgeneration, hvalidation] using hfold

/-- The document in a file is accepted. -/
def Source.Accepts (t : FileTree) (p : Place) (d : Document) : Prop :=
  ∃ entries, Source.load t p = .ok entries ∧ Document.parse (.map entries) = .ok d
    ∧ d.findings.isValid = true

namespace Document

theorem isOk_ensureValid (d : Document) : d.ensureValid.isOk = d.findings.isValid := by
  rw [isValid_findings]
  cases h : d.ensureValid with
  | ok fs =>
    rw [(ensureValid_eq_ok.mp h).1]
    rfl
  | error r =>
    have hnot : d.isAccepted ≠ true := by
      intro haccepted
      rw [ensureValid_eq_ok.mpr ⟨haccepted, rfl⟩] at h
      cases h
    simp [hnot, Except.isOk, Except.toBool]

end Document

namespace CommandLine.Check

variable {t : FileTree} {p : Place}

/-- The outcome of checking a file is known from whether it can be loaded and is accepted. -/
theorem outcome_file (t : FileTree) (p : Place) :
    (file t p).outcome = Source.outcome .success t p := by
  unfold file Source.outcome Source.isUnreadable Source.isRejected Document.validate
  cases hload : Source.load t p with
  | error e => rfl
  | ok entries =>
    cases hparse : Document.parse (.map entries) with
    | error r => simp [hparse, Except.isOk, Except.toBool, Except.toOption]
    | ok d =>
      have hloaded : (Except.ok entries : Except Source.LoadError Entries).isOk = true := rfl
      simp only [hparse, Except.toOption, Option.any_some, d.isOk_ensureValid, hloaded]
      cases d.findings.isValid <;> simp

theorem isSome_stopped_file (t : FileTree) (p : Place) :
    (file t p).stopped.isSome = Source.stopsReading t p := by
  unfold file Source.stopsReading
  cases hload : Source.load t p with
  | error e => exact Interruption.isSome_ofLoad? e
  | ok entries => cases hparse : Document.parse (.map entries) <;> simp [hparse]

end CommandLine.Check

namespace Generator

variable {g : Generator} {t : FileTree}

/-- Where warnings do not count, a value has an entity exactly when validation accepts it. -/
theorem isSome_entity_of_not_failOnWarnings (hwarn : g.failOnWarnings = false) (v : Value) :
    (g.validate v).entity.isSome = (Document.validate v).isOk := by
  unfold validate Document.validate
  cases Document.parse v with
  | error r => rfl
  | ok d =>
    cases hvalid : d.ensureValid with
    | error r => simp [hvalid, Validated.rejected, Except.isOk, Except.toBool]
    | ok fs =>
      have hd := Document.isAccepted_iff.mp (Document.ensureValid_eq_ok.mp hvalid).1
      obtain ⟨fields, -, hof⟩ := Entity.exists_ofDocument hd
      simp [hvalid, accept, hof, hwarn, Except.isOk, Except.toBool]

/-- A generator that only tries what it would do: it writes nothing, overwrites what is there, and
takes documents with warnings. -/
structure IsTrial (g : Generator) : Prop where
  dry : g.dryRun = true
  overwrites : g.settings.overwriteExisting = true
  lenient : g.failOnWarnings = false
  placed : g.output.hasNull = false
  themed : g.themes = ThemeTable.builtIn.map ThemeTable.theme

/-- The system refuses to look at a module of an entity. -/
def CannotReach (g : Generator) (t : FileTree) (entity : String) : Prop :=
  ∃ side, g.settings.generates side = true
    ∧ t.isUnreachable (g.exporter.modulePlace entity side) = true

/-- A file has an accepted document and the settings can be written, but the system refuses to look
at one of its modules. -/
def IsHindered (g : Generator) (t : FileTree) (p : Place) : Prop :=
  g.settings.IsWritable ∧ ∃ d, Source.Accepts t p d ∧ g.CannotReach t d.name

/-- The outcome of an accepted document whose export cannot fail. -/
def acceptedOutcome (g : Generator) : ExitCode :=
  if g.settings.IsWritable then .success else .generation

variable {p : Place}

theorem IsTrial.exportWith_eq (h : g.IsTrial) (faults : Nat → Option Fault) (entity : String)
    (artifacts : List Artifact) (t : FileTree) :
    g.exporter.exportWith faults entity artifacts t
      = (t, ⟨entity, true, artifacts.map (g.exporter.describe entity), []⟩) := by
  simp [Exporter.exportWith, Exporter.isRefused, exporter, h.dry, h.overwrites]

/-- A try stops at an accepted document exactly where the system does not look at a module. -/
theorem IsTrial.isSome_exportStop? (h : g.IsTrial) (e : Entity) :
    (g.exportStop? t e.names.name (e.artifacts g.settings)).isSome = true
      ↔ g.CannotReach t e.names.name := by
  have hbroken : g.exporter.isBroken t e.names.name (e.artifacts g.settings) = false := by
    simp [Exporter.isBroken, exporter, h.dry]
  rw [← not_iff_not, Option.not_isSome_iff_eq_none, exportStop?_eq_none,
    Exporter.barrier?_eq_none_iff]
  simp only [CannotReach, not_exists, not_and, Bool.not_eq_true]
  constructor
  · rintro ⟨⟨-, hreach⟩, -⟩ side hside
    obtain ⟨a, ha, rfl⟩ := Entity.exists_mem_artifacts e hside
    exact hreach a ha
  · intro hreach
    exact ⟨⟨h.placed, fun a ha => hreach a.side (Entity.generates_of_mem_artifacts ha)⟩, hbroken⟩

/-- A try on a value leaves the tree as it is, succeeds with what validation accepts if the settings
can be written, and stops only where the system does not look at a module. -/
theorem IsTrial.generateWith (h : g.IsTrial) (faults : Nat → Option Fault) (t : FileTree)
    (source : String) (v : Value) :
    (g.generateWith faults t source v).tree = t
      ∧ (g.generateWith faults t source v).result.exitCode
        = (if (Document.validate v).isOk then g.acceptedOutcome else .validation)
      ∧ ((g.generateWith faults t source v).stopped.isSome = true
        ↔ g.settings.IsWritable ∧ ∃ d, Document.parse v = .ok d ∧ d.findings.isValid = true
          ∧ g.CannotReach t d.name) := by
  have hentity := isSome_entity_of_not_failOnWarnings h.lenient v
  have hplaced : g.interruption? = none := interruption?_eq_none.mpr h.placed
  -- a trial ends at its validation, at its rendering or with an export that writes nothing
  cases hsome : (g.validate v).entity with
  | none =>
    have herrors := errors_ne_nil_of_validate hsome
    rw [hsome] at hentity
    have hnone : ¬∃ d, Document.parse v = .ok d ∧ d.findings.isValid = true
        ∧ g.CannotReach t d.name := by
      rintro ⟨d, hparse, hvalid, -⟩
      simp [Document.validate, hparse, Document.isOk_ensureValid, hvalid] at hentity
    rw [generateWith_of_rejected hsome, ← hentity, iff_false_right (mt And.right hnone)]
    refine ⟨rfl, ?_, ?_⟩
    · simp [Report.exitCode, concluded, validationReport, Report.isClean, herrors]
    · simp [hplaced]
  | some e =>
    rw [hsome] at hentity
    by_cases hs : g.settings.IsWritable
    · obtain ⟨d, fields, hparse, hd, rfl⟩ := exists_document_of_validate hsome
      have hvalid : d.findings.isValid = true := by
        rw [Document.isValid_findings]
        exact Document.isAccepted_iff.mpr hd
      rw [generateWith_of_accepted h.themed hs hsome, ← hentity, acceptedOutcome, if_pos hs]
      simp only [exportArtifacts, h.exportWith_eq, ite_self]
      refine ⟨trivial, ?_, ?_⟩
      · exact if_pos (success_exportReport hsome source _ _)
      · have hname : (Entity.ofFields d fields).names.name = d.name := rfl
        rw [h.isSome_exportStop?, hname]
        simp [hparse, hvalid, hs]
    · rw [generateWith_of_unwritable hs hsome, ← hentity, acceptedOutcome, if_neg hs]
      refine ⟨rfl, ?_, by simp [hplaced, hs]⟩
      simp [Report.exitCode, overlongReport, concluded, validationReport, Report.isClean,
        errors_eq_nil_of_validate hsome]

/-- A try leaves the tree as it is, gives a file the outcome that checking it has, unless the
settings cannot be written for its document, and stops at a file where the check does or where it is
hindered. -/
theorem IsTrial.generateFile (h : g.IsTrial) (t : FileTree) (p : Place) :
    (g.generateFile t p).tree = t
      ∧ (g.generateFile t p).result.exitCode = Source.outcome g.acceptedOutcome t p
      ∧ ((g.generateFile t p).stopped.isSome = true
        ↔ Source.stopsReading t p = true ∨ g.IsHindered t p) := by
  unfold Generator.generateFile generateFileWith Source.outcome Source.isUnreadable
    Source.isRejected
    Source.stopsReading IsHindered Source.Accepts
  cases hload : Source.load t p with
  | error e =>
    refine ⟨rfl, rfl, ?_⟩
    simp [interruption?, h.placed]
  | ok entries =>
    obtain ⟨htree, hcode, hstopped⟩ := h.generateWith (fun _ => none) t p.text (.map entries)
    refine ⟨htree, hcode.trans ?_, ?_⟩
    · have hloaded : (Except.ok entries : Except Source.LoadError Entries).isOk = true := rfl
      by_cases hok : (Document.validate (.map entries)).isOk = true <;>
        simp [hloaded, Except.toOption, hok]
    · simpa [and_assoc] using hstopped

/-- A try on several files goes on with the same tree from file to file. -/
theorem IsTrial.generateFiles (h : g.IsTrial) (t : FileTree) (places : List Place) :
    (g.generateFiles t places).tree = t
      ∧ (g.generateFiles t places).result.map Report.exitCode
        = places.map (Source.outcome g.acceptedOutcome t)
      ∧ ((g.generateFiles t places).stopped.isSome = true
        ↔ ∃ p ∈ places, Source.stopsReading t p = true ∨ g.IsHindered t p) := by
  induction places with
  | nil => simp [Generator.generateFiles]
  | cons p rest ih =>
    obtain ⟨htree, hcode, hstopped⟩ := h.generateFile t p
    obtain ⟨htrees, hcodes, hstoppeds⟩ := ih
    simp only [Generator.generateFiles, htree, htrees, List.map_cons, hcode, hcodes,
      List.exists_mem_cons_iff, ← hstopped, ← hstoppeds, true_and]
    cases (g.generateFile t p).stopped <;> simp

end Generator

/-! ### Exit codes -/

/-- The exit code of a run, unless the run is stopped. -/
def CommandLine.Transcript.code? (r : CommandLine.Transcript) : Option Nat :=
  if r.stopped.isSome then none else some r.exit

/-- The exit code for the reports on several files, unless the work is stopped. -/
def Aftermath.code? (after : Aftermath (List Report)) : Option Nat :=
  if after.stopped.isSome then none else some (exitCode after.result).number

namespace CommandLine.Check

variable {t : FileTree}

theorem isSome_stopped_check (t : FileTree) (places : List Place) :
    (check t places).stopped.isSome = places.any (Source.stopsReading t) := by
  unfold check
  dsimp only
  induction places with
  | nil => rfl
  | cons p rest ih =>
    rw [List.map_cons, List.findSome?_cons, List.any_cons, ← ih, ← isSome_stopped_file]
    cases (file t p).stopped <;> simp

/-- The exit code of a check is known from whether each file can be loaded and is accepted. -/
theorem code?_check (t : FileTree) (places : List Place) :
    (check t places).code?
      = if places.any (Source.stopsReading t) then none
        else some (if places.any (Source.isUnreadable t) then ExitCode.input.number
          else if places.any (Source.isRejected t) then ExitCode.validation.number
          else ExitCode.success.number) := by
  have hexit : (check t places).exit = (outcome (places.map (file t))).number := rfl
  have hworst := Source.foldl_outcome (.inl rfl : ExitCode.success = .success ∨ _) t places
  simp only [reduceCtorEq, false_and, if_false] at hworst
  have houtcomes : (places.map (file t)).map FileCheck.outcome
      = places.map (Source.outcome .success t) := by
    rw [List.map_map]
    exact List.map_congr_left fun p _ => outcome_file t p
  rw [Transcript.code?, isSome_stopped_check, hexit, outcome, houtcomes, hworst,
    apply_ite ExitCode.number, apply_ite ExitCode.number]

end CommandLine.Check

/-! ### Tries on several files -/

namespace Generator

variable {g : Generator} {t : FileTree} {places : List Place}

theorem acceptedOutcome_cases (g : Generator) :
    g.settings.IsWritable ∧ g.acceptedOutcome = .success
      ∨ ¬g.settings.IsWritable ∧ g.acceptedOutcome = .generation := by
  unfold acceptedOutcome
  split
  next hs => exact .inl ⟨hs, rfl⟩
  next hs => exact .inr ⟨hs, rfl⟩

theorem IsTrial.code?_batch_of_isHindered (h : g.IsTrial)
    (hhindered : ∃ p ∈ places, g.IsHindered t p) : (g.batch t places).code? = none := by
  obtain ⟨-, -, hstopped⟩ := h.generateFiles t places
  obtain ⟨p, hp, hhindered⟩ := hhindered
  exact if_pos (hstopped.mpr ⟨p, hp, .inr hhindered⟩)

/-- A try that is not hindered ends as the check of its files, but for accepted documents where the
settings cannot be written. -/
theorem IsTrial.code?_batch (h : g.IsTrial) (hreach : ∀ p ∈ places, ¬g.IsHindered t p) :
    (g.batch t places).code?
      = if places.any (Source.stopsReading t) then none
        else some (if places.any (Source.isUnreadable t) then ExitCode.input.number
          else if g.acceptedOutcome = .generation ∧ places.any (Source.isAccepted t) then
            ExitCode.generation.number
          else if places.any (Source.isRejected t) then ExitCode.validation.number
          else ExitCode.success.number) := by
  obtain ⟨-, hcodes, hstopped⟩ := h.generateFiles t places
  have haccepted : g.acceptedOutcome = .success ∨ g.acceptedOutcome = .generation :=
    g.acceptedOutcome_cases.imp And.right And.right
  have hstops : (g.batch t places).stopped.isSome = places.any (Source.stopsReading t) := by
    rw [Bool.eq_iff_iff, List.any_eq_true]
    refine hstopped.trans (exists_congr fun p => and_congr_right fun hp => ?_)
    exact or_iff_left (hreach p hp)
  have hexit : (exitCode (g.batch t places).result)
      = (places.map (Source.outcome g.acceptedOutcome t)).foldl ExitCode.worse .success :=
    congrArg (List.foldl ExitCode.worse .success) hcodes
  rw [Aftermath.code?, hstops, hexit, Source.foldl_outcome haccepted,
    apply_ite ExitCode.number, apply_ite ExitCode.number, apply_ite ExitCode.number]

end Generator

namespace Batch

/-- A document in a file has the name that the content of the file tells. -/
theorem IsNamed.name_eq {p : Place} {content : ByteArray} {name : String}
    (hnames : IsNamed desk p content name) (hfind : deskTree.find p = .ok (.file content))
    {d : Document} (h : Source.Accepts deskTree p d) : d.name = name := by
  obtain ⟨entries, hload, hparse, hvalid⟩ := h
  rw [Source.load, hfind] at hload
  rw [IsNamed, show Source.readContent p content = _ from hload] at hnames
  have hsome := Generator.isSome_entity_of_not_failOnWarnings (g := desk) rfl (.map entries)
  simp only [Document.validate, hparse, Document.isOk_ensureValid, hvalid] at hsome
  obtain ⟨e, he⟩ := Option.isSome_iff_exists.mp hsome
  obtain ⟨d', fields, hparse', -, rfl⟩ := Generator.exists_document_of_validate he
  cases hparse.symm.trans hparse'
  simp only [Except.toOption, Option.all_some, he] at hnames
  exact of_decide_eq_true hnames

/-- The desk, where nothing is written. -/
def dryDesk : Generator := { desk with dryRun := true }

/-- Nothing stops the reading of the files, and no module is too far down. -/
theorem desk_reads :
    (∀ p ∈ deskPaths, Source.stopsReading deskTree p = false)
      ∧ ∀ name ∈ ["note", "task"], ∀ side ∈ [Side.frontend, .backend],
        FileTree.isTooLongPlace (dryDesk.exporter.modulePlace name side) = false := by
  obtain ⟨hnote, htask, hlist⟩ := find_deskPaths
  simp only [deskPaths, List.forall_mem_cons, Source.stopsReading, Source.load, hnote, htask, hlist]
  decide +kernel

theorem not_cannotReach_desk {name : String} (hname : name ∈ ["note", "task"]) :
    ¬dryDesk.CannotReach deskTree name := by
  rintro ⟨side, -, hside⟩
  have hshort : (dryDesk.exporter.modulePlace name side).IsShort := isShort_desk name hname side
  rw [FileTree.isUnreachable_eq_of_isShort admits_desk.wellFormed hshort,
    desk_reads.2 name hname side (by cases side <;> decide)] at hside
  simp at hside

theorem not_isHindered_desk : ∀ p ∈ deskPaths, ¬dryDesk.IsHindered deskTree p := by
  obtain ⟨hnote, htask, hlist⟩ := find_deskPaths
  obtain ⟨hnamed, htasked, hnone⟩ := contents_desk
  simp only [deskPaths, List.forall_mem_cons]
  refine ⟨?_, ?_, ?_, List.forall_mem_nil _⟩
  · rintro ⟨-, d, hd, hblocked⟩
    rw [hnamed.name_eq hnote hd] at hblocked
    exact not_cannotReach_desk (by decide) hblocked
  · rintro ⟨-, d, ⟨entries, hload, -⟩, -⟩
    rw [Source.load, hlist] at hload
    rw [show Source.readContent _ _ = _ from hload] at hnone
    cases hnone
  · rintro ⟨-, d, hd, hblocked⟩
    rw [htasked.name_eq htask hd] at hblocked
    exact not_cannotReach_desk (by decide) hblocked

theorem isUnreadable_desk : deskPaths.any (Source.isUnreadable deskTree) = true := by
  have hlist : Source.isUnreadable deskTree ["list.json"] = true := by
    have hnone := contents_desk.2.2
    unfold Source.isUnreadable Source.load
    rw [find_deskPaths.2.2]
    dsimp only
    cases hread : Source.readContent ["list.json"] "[]".toUTF8 with
    | error e => rfl
    | ok entries =>
      rw [hread] at hnone
      cases hnone
  exact List.any_eq_true.mpr ⟨["list.json"], by decide, hlist⟩

end Batch

end Scaffold
