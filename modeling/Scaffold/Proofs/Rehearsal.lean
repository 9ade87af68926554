import Scaffold.Proofs.Gathering
import Scaffold.Proofs.Overwrite

/-!
# What a dry run foretells

A dry run looks at the same modules as the export that it stands for. So the same keeps both from
taking place, and both are refused with the same errors. Otherwise a dry run has a record of every
artifact, and the export has those of the artifacts that get written (`files_exportWith`): all of
them when it succeeds. `dryRun_foretells` puts this together.
-/

namespace Scaffold

/-- Whether an export has been refused because of a module that is there. -/
def ExportResult.IsRefusal (r : ExportResult) : Prop := ∃ p, Exporter.refusal p ∈ r.errors

namespace Exporter

open FileTree

variable {x : Exporter} {faults : Nat → Option Fault} {entity : String} {artifacts : List Artifact}
  {t t' : FileTree} {outcomes : List (Nat × Outcome)} {foretold result : ExportResult}

/-! ### Refusals -/

/-- An export is refused where overwriting is disabled and a module is there. -/
theorem isRefused_iff : x.isRefused t entity artifacts = true
    ↔ x.settings.overwriteExisting = false
      ∧ ∃ a ∈ artifacts, t.contains (x.modulePlace entity a.side) = true := by
  constructor
  · intro hrefused
    obtain ⟨p, hp⟩ := List.exists_mem_of_ne_nil _ (existingModules_ne_nil hrefused)
    obtain ⟨hplace, hthere⟩ := List.mem_filter.mp hp
    obtain ⟨side, hside, rfl⟩ := List.mem_map.mp hplace
    obtain ⟨a, ha, rfl⟩ := mem_sides.mp hside
    refine ⟨?_, a, ha, hthere⟩
    simp only [isRefused, Bool.and_eq_true, Bool.not_eq_true'] at hrefused
    exact hrefused.2
  · rintro ⟨hoverwrite, a, ha, hthere⟩
    exact isRefused_of_contains hoverwrite ha hthere

theorem isRefusal_refusals (h : x.isRefused t entity artifacts = true) (dryRun : Bool) :
    ExportResult.IsRefusal ⟨entity, dryRun, [], x.refusals t entity artifacts⟩ := by
  obtain ⟨-, a, ha, hthere⟩ := isRefused_iff.mp h
  have hside : a.side ∈ (sides artifacts).filter fun side =>
      t.contains (x.modulePlace entity side) :=
    List.mem_filter.mpr ⟨mem_sides.mpr ⟨a, ha, rfl⟩, hthere⟩
  refine ⟨x.modulePlace entity a.side, ?_⟩
  show _ ∈ x.refusals t entity artifacts
  rw [refusals, List.mem_map]
  exact ⟨a.side, hside, rfl⟩

/-- The error for an artifact is no refusal. -/
theorem refusal_ne_failure (p : Place) (a : Artifact) (reason : String) :
    refusal p ≠ x.failure entity a reason := by
  intro h
  unfold refusal failure at h
  have hfirst := congrArg (·.toList.head?) h
  simp at hfirst

/-- What an export that takes place tells of is no refusal. -/
theorem not_isRefusal_exportWith (hwet : x.dryRun = false)
    (hrefused : x.isRefused t entity artifacts = false) :
    ¬(x.exportWith faults entity artifacts t).2.IsRefusal := by
  rintro ⟨p, hp⟩
  obtain ⟨writes, -, hgather⟩ := exportWith_gathers hwet hrefused faults
  have herrors := hgather _ (.refl _)
  rw [gather_outcomeOf x entity writes (.refl _), errorsOf_zipIdx, Prod.mk.injEq] at herrors
  rw [← herrors.2, (sortTexts_perm _).mem_iff] at hp
  obtain ⟨⟨a, ending⟩, -, hfailure⟩ := List.mem_filterMap.mp hp
  cases ending with
  | ok r => cases hfailure
  | error reason => exact refusal_ne_failure p a reason (Option.some.inj hfailure).symm

/-! ### Records -/

/-- The records of the artifacts that have been written, out of those of all artifacts. -/
def kept (files : List FileRecord) (outcomes : List (Nat × Outcome)) : List FileRecord :=
  ((files.zip outcomes).filter fun w => w.2.2.isOk).map (·.1)

theorem kept_cons (r : FileRecord) (files : List FileRecord) (o : Nat × Outcome) :
    kept (r :: files) (o :: outcomes)
      = if o.2.isOk then r :: kept files outcomes else kept files outcomes := by
  rw [kept, List.zip_cons_cons, List.filter_cons]
  split <;> rfl

/-- Where every artifact has been written, all records are kept. -/
theorem kept_eq_self {files : List FileRecord} (hlength : files.length = outcomes.length)
    (hok : ∀ o ∈ outcomes, ∃ r, o.2 = .ok r) : kept files outcomes = files := by
  rw [kept, List.filter_eq_self.mpr]
  · exact List.map_fst_zip (Nat.le_of_eq hlength)
  · intro w hw
    obtain ⟨r, hr⟩ := hok w.2 (List.of_mem_zip hw).2
    rw [hr]
    rfl

/-- The records of what has been written are kept from those of all artifacts. -/
theorem filterMap_writeFrom {n : Nat}
    (h : x.writeFrom faults entity t n artifacts = (t', outcomes)) :
    outcomes.filterMap (·.2.toOption) = kept (artifacts.map (x.describe entity)) outcomes := by
  induction artifacts generalizing t n outcomes with
  | nil =>
    cases h
    rfl
  | cons a rest ih =>
    obtain ⟨t₁, outcome, others, hone, hothers, rfl⟩ := writeFrom_cons h
    rw [List.map_cons, kept_cons, ← ih hothers]
    -- an artifact that gets written gets the record that describes it
    unfold writeOne at hone
    split at hone <;> cases hone <;> rfl

/-- An export keeps the records of the artifacts that get written. -/
theorem files_exportWith (hwet : x.dryRun = false)
    (hrefused : x.isRefused t entity artifacts = false) :
    (x.exportWith faults entity artifacts t).2.files
      = kept (artifacts.map (x.describe entity)) (x.writeFrom faults entity t 0 artifacts).2 := by
  rcases hwrite : x.writeFrom faults entity t 0 artifacts with ⟨t', outcomes⟩
  have hnumbers : (outcomes.map (·.1)).Pairwise (· ≤ ·) := by
    rw [map_fst_writeFrom hwrite]
    exact List.pairwise_le_range'
  rw [← filterMap_writeFrom hwrite, ← recordsOf_eq hnumbers]
  simp [exportWith, hrefused, hwet, hwrite]

/-- An export without errors has a record of every artifact. -/
theorem files_exportWith_of_errors_eq_nil (hwet : x.dryRun = false)
    (hrefused : x.isRefused t entity artifacts = false)
    (herrors : (x.exportWith faults entity artifacts t).2.errors = []) :
    (x.exportWith faults entity artifacts t).2.files = artifacts.map (x.describe entity) := by
  rw [files_exportWith hwet hrefused]
  rcases hwrite : x.writeFrom faults entity t 0 artifacts with ⟨t', outcomes⟩
  have hnumbers := congrArg List.length (map_fst_writeFrom hwrite)
  refine kept_eq_self (by simpa using hnumbers.symm) (errorsOf_eq_nil_iff.mp ?_)
  simpa [exportWith, hrefused, hwet, hwrite] using herrors

/-! ### Dry runs -/

/-- What a dry run foretells of an export. -/
structure Foretells (x : Exporter) (faults : Nat → Option Fault) (entity : String)
    (artifacts : List Artifact) (t : FileTree) (foretold : ExportResult) : Prop where
  /-- One is refused exactly when the other is, -/
  refused : foretold.IsRefusal
    ↔ ∃ result, (x.runWith faults entity artifacts t).2 = .ok result ∧ result.IsRefusal
  /-- namely where a module is there that must not be overwritten, -/
  blocked : foretold.IsRefusal ↔ x.settings.overwriteExisting = false
    ∧ ∃ a ∈ artifacts, t.contains (x.modulePlace entity a.side) = true
  /-- and then they have the same errors, and nothing is done. -/
  same : foretold.IsRefusal →
    x.runWith faults entity artifacts t = (t, .ok { foretold with dryRun := false })
  /-- Otherwise the dry run succeeds with a record of every artifact, -/
  described : ¬foretold.IsRefusal → foretold.success = true
    ∧ foretold.files = artifacts.map (x.describe entity)
  /-- the export has a result if every artifact has a place, -/
  ends : (∀ a ∈ artifacts, (x.target entity a).hasNull = false) →
    ∃ result, (x.runWith faults entity artifacts t).2 = .ok result
  /-- it keeps the records of the artifacts that get written, -/
  files : ¬foretold.IsRefusal → ∀ result, (x.runWith faults entity artifacts t).2 = .ok result →
    result.files = kept foretold.files (x.writeFrom faults entity t 0 artifacts).2
  /-- and these are all of them if it succeeds. -/
  equal : ∀ result, (x.runWith faults entity artifacts t).2 = .ok result →
    result.success = true →
      result.files = foretold.files ∧ result.checksums = foretold.checksums

theorem runWith_of_barrier {fault : PlaceFault}
    (hbarrier : x.barrier? t entity artifacts = some fault) :
    x.runWith faults entity artifacts t = (t, .error fault) := by
  rw [runWith, hbarrier]

theorem runWith_of_isRefused (hbarrier : x.barrier? t entity artifacts = none)
    (hrefused : x.isRefused t entity artifacts = true) :
    x.runWith faults entity artifacts t
      = (t, .ok ⟨entity, x.dryRun, [], x.refusals t entity artifacts⟩) := by
  simp [runWith, hbarrier, exportWith_of_isRefused hrefused, isBroken, hrefused]

/-- An export that takes place and ends gives what it reports. -/
theorem eq_of_runWith (hbarrier : x.barrier? t entity artifacts = none)
    (h : (x.runWith faults entity artifacts t).2 = .ok result) :
    result = (x.exportWith faults entity artifacts t).2 := by
  rw [runWith, hbarrier] at h
  dsimp only at h
  split at h
  · cases h
  · exact (Except.ok.inj h).symm

theorem run_of_dryRun (hdry : x.dryRun = true) (hbarrier : x.barrier? t entity artifacts = none)
    (hrefused : x.isRefused t entity artifacts = false) :
    x.run entity artifacts t
      = (t, .ok ⟨entity, true, artifacts.map (x.describe entity), []⟩) := by
  simp [run, runWith, hbarrier, exportWith, isBroken, hrefused, hdry]

theorem foretells_of_isRefused (hwet : x.dryRun = false)
    (hbarrier : x.barrier? t entity artifacts = none)
    (hrefused : x.isRefused t entity artifacts = true) :
    x.Foretells faults entity artifacts t
      ⟨entity, true, [], x.refusals t entity artifacts⟩ := by
  have hrun : x.runWith faults entity artifacts t
      = (t, .ok ⟨entity, x.dryRun, [], x.refusals t entity artifacts⟩) :=
    runWith_of_isRefused hbarrier hrefused
  have hrefusal := isRefusal_refusals hrefused
  rw [hwet] at hrun
  refine ⟨?_, ?_, fun _ => hrun, fun hnot => ?_, fun _ => ⟨_, by rw [hrun]⟩, fun hnot => ?_, ?_⟩
  · exact iff_of_true (hrefusal true) ⟨_, by rw [hrun], hrefusal false⟩
  · exact iff_of_true (hrefusal true) (isRefused_iff.mp hrefused)
  · exact absurd (hrefusal true) hnot
  · exact absurd (hrefusal true) hnot
  · intro result hresult hsuccess
    rw [hrun] at hresult
    cases hresult
    -- what is refused has an error
    obtain ⟨p, hp⟩ := hrefusal false
    rw [ExportResult.success, List.isEmpty_iff] at hsuccess
    rw [hsuccess] at hp
    cases hp

theorem foretells_of_not_isRefused (hwet : x.dryRun = false)
    (hbarrier : x.barrier? t entity artifacts = none)
    (hrefused : x.isRefused t entity artifacts = false) :
    x.Foretells faults entity artifacts t
      ⟨entity, true, artifacts.map (x.describe entity), []⟩ := by
  have hnot : ¬ExportResult.IsRefusal ⟨entity, true, artifacts.map (x.describe entity), []⟩ := by
    rintro ⟨p, hp⟩
    cases hp
  refine ⟨iff_of_false hnot ?_, iff_of_false hnot ?_, fun h => absurd h hnot, fun _ => ⟨rfl, rfl⟩,
    fun hplaces => ?_, fun _ result hresult => ?_, fun result hresult hsuccess => ?_⟩
  · rintro ⟨result, hresult, hrefusal⟩
    rw [eq_of_runWith hbarrier hresult] at hrefusal
    exact not_isRefusal_exportWith hwet hrefused hrefusal
  · rw [← isRefused_iff, hrefused]
    exact Bool.false_ne_true
  · refine ⟨(x.exportWith faults entity artifacts t).2, ?_⟩
    simp [runWith, hbarrier, isBroken_eq_false hplaces]
  · rw [eq_of_runWith hbarrier hresult, files_exportWith hwet hrefused]
  · rw [eq_of_runWith hbarrier hresult, ExportResult.success, List.isEmpty_iff] at hsuccess
    have hfiles := files_exportWith_of_errors_eq_nil hwet hrefused hsuccess
    rw [← eq_of_runWith hbarrier hresult] at hfiles
    exact ⟨hfiles, by rw [ExportResult.checksums, hfiles]; rfl⟩

/-- A dry run leaves the tree as it is. What keeps it from taking place keeps the export from taking
place, and conversely; where nothing does, it foretells the export, whichever writes fail. -/
theorem dryRun_foretells (hwet : x.dryRun = false) (faults : Nat → Option Fault) (entity : String)
    (artifacts : List Artifact) (t : FileTree) :
    let rehearsal := run { x with dryRun := true } entity artifacts t
    rehearsal.1 = t
      ∧ (∀ fault, x.barrier? t entity artifacts = some fault →
        rehearsal.2 = .error fault ∧ x.runWith faults entity artifacts t = (t, .error fault))
      ∧ (x.barrier? t entity artifacts = none →
        ∃ foretold, rehearsal.2 = .ok foretold
          ∧ x.Foretells faults entity artifacts t foretold) := by
  intro rehearsal
  -- both runs meet the same barriers and refusals, and part only behind them
  cases hbarrier : x.barrier? t entity artifacts with
  | some fault =>
    have hrun : rehearsal = (t, .error fault) := runWith_of_barrier hbarrier
    refine ⟨by rw [hrun], fun fault' hfault => ?_, nofun⟩
    cases hfault
    exact ⟨by rw [hrun], runWith_of_barrier hbarrier⟩
  | none =>
    cases hrefused : x.isRefused t entity artifacts with
    | true =>
      have hrun : rehearsal = (t, .ok ⟨entity, true, [], x.refusals t entity artifacts⟩) :=
        runWith_of_isRefused hbarrier hrefused
      refine ⟨by rw [hrun], nofun, fun _ => ⟨_, by rw [hrun], ?_⟩⟩
      exact foretells_of_isRefused hwet hbarrier hrefused
    | false =>
      have hrun : rehearsal = (t, .ok ⟨entity, true, artifacts.map (x.describe entity), []⟩) :=
        run_of_dryRun rfl hbarrier hrefused
      refine ⟨by rw [hrun], nofun, fun _ => ⟨_, by rw [hrun], ?_⟩⟩
      exact foretells_of_not_isRefused hwet hbarrier hrefused

/-- With a file in the place of one root, a dry run has all three records of the books, and the
export keeps those that can be written. -/
theorem books_foretold : ∃ foretold result,
    run { bookExporter with dryRun := true } "book" bookArtifacts blockedTree
        = (blockedTree, .ok foretold)
      ∧ foretold.files = bookArtifacts.map (bookExporter.describe "book")
      ∧ (bookExporter.run "book" bookArtifacts blockedTree).2 = .ok result
      ∧ result.files = kept foretold.files
        (bookExporter.writeFrom (fun _ => none) "book" blockedTree 0 bookArtifacts).2 := by
  obtain ⟨htree, -, hforetells⟩ := dryRun_foretells (rfl : bookExporter.dryRun = false)
    (fun _ => none) "book" bookArtifacts blockedTree
  obtain ⟨foretold, hforetold, h⟩ := hforetells barrier?_blockedTree
  obtain ⟨result, hresult⟩ := h.ends hasNull_target_bookArtifacts
  have hallowed : ¬foretold.IsRefusal := by
    rw [h.blocked]
    rintro ⟨hoverwrite, -⟩
    cases hoverwrite
  exact ⟨foretold, result, Prod.ext htree hforetold, (h.described hallowed).2, hresult,
    h.files hallowed result hresult⟩

end Exporter

end Scaffold
