import Scaffold.Proofs.FileTree.Rewrite
import Scaffold.Proofs.Success

/-!
# Generating again

Where an export has succeeded, every artifact is a file that can be written again (`HasWritten`),
and stays one while the others are written. So a second export with overwriting writes what is
there, and one without is refused, because there is a module wherever there is an artifact. Neither
changes anything (`Generator.generates_same_again`).
-/

namespace Scaffold

namespace Exporter

open FileTree

variable {x : Exporter} {faults : Nat → Option Fault} {entity : String} {artifacts : List Artifact}
  {t t' : FileTree} {outcomes : List (Nat × Outcome)} {result : ExportResult}

/-- Every artifact is at its place, as a file that can be written again. -/
def HasWritten (x : Exporter) (entity : String) (artifacts : List Artifact) (t : FileTree) : Prop :=
  ∀ a ∈ artifacts, t.Rewritable (x.target entity a) a.content.toUTF8

/-! ### Outcomes without errors -/

/-- Where everything is written, all artifacts are recorded and there are no errors. -/
theorem recordsOf_of_written (hnumbers : (outcomes.map (·.1)).Pairwise (· ≤ ·))
    (h : outcomes.map (·.2) = artifacts.map fun a => .ok (x.describe entity a)) :
    recordsOf outcomes = artifacts.map (x.describe entity) ∧ errorsOf outcomes = [] := by
  constructor
  · have hrecords : outcomes.filterMap (·.2.toOption)
        = (outcomes.map (·.2)).filterMap Except.toOption := by
      rw [List.filterMap_map]
      rfl
    rw [recordsOf_eq hnumbers, hrecords, h, List.filterMap_map]
    exact congrFun List.filterMap_eq_map artifacts
  · refine errorsOf_eq_nil_iff.mpr fun o ho => ?_
    have hmem : o.2 ∈ outcomes.map (·.2) := List.mem_map_of_mem ho
    rw [h] at hmem
    obtain ⟨a, -, ha⟩ := List.mem_map.mp hmem
    exact ⟨_, ha.symm⟩

/-! ### The first time -/

/-- An artifact that is written can be written again. -/
theorem rewritable_of_writeOne {fault : Option Fault} {a : Artifact} {r : FileRecord}
    (hplain : ".." ∉ x.target entity a) (h : x.writeOne fault entity t a = (t', .ok r)) :
    r = x.describe entity a ∧ t'.Rewritable (x.target entity a) a.content.toUTF8 := by
  unfold writeOne at h
  split at h <;> cases h
  next hwrite => exact ⟨rfl, rewritable_of_write hplain hwrite⟩

/-- Where no write has failed, all artifacts are there at the end. -/
theorem hasWritten_of_writeFrom {n : Nat} (hplain : ∀ a ∈ artifacts, ".." ∉ x.target entity a)
    (hnodup : (artifacts.map (x.target entity)).Nodup)
    (h : x.writeFrom faults entity t n artifacts = (t', outcomes))
    (hok : ∀ o ∈ outcomes, ∃ r, o.2 = .ok r) :
    outcomes.map (·.2) = artifacts.map (fun a => .ok (x.describe entity a))
      ∧ x.HasWritten entity artifacts t' := by
  induction artifacts generalizing t n outcomes with
  | nil =>
    cases h
    exact ⟨rfl, nofun⟩
  | cons a rest ih =>
    obtain ⟨hplain₁, hplain'⟩ := List.forall_mem_cons.mp hplain
    rw [List.map_cons, List.nodup_cons] at hnodup
    obtain ⟨t₁, outcome, others, hone, hothers, rfl⟩ := writeFrom_cons h
    obtain ⟨⟨r, hr⟩, hok'⟩ := List.forall_mem_cons.mp hok
    cases hr
    obtain ⟨rfl, hwritten⟩ := rewritable_of_writeOne hplain₁ hone
    obtain ⟨hothers', hwritten'⟩ := ih hplain' hnodup.2 hothers hok'
    refine ⟨?_, List.forall_mem_cons.mpr ⟨?_, hwritten'⟩⟩
    · rw [List.map_cons, List.map_cons, hothers']
    · -- the others have other places
      exact hwritten.mono hplain₁ (touches_writeFrom hplain' hothers) hnodup.1

/-- An export that succeeds was not refused, and leaves all artifacts at their places. -/
theorem hasWritten_of_exportWith (hwet : x.dryRun = false)
    (hplain : ∀ a ∈ artifacts, ".." ∉ x.target entity a)
    (hnodup : (artifacts.map (x.target entity)).Nodup)
    (h : x.exportWith faults entity artifacts t = (t', result)) (hok : result.errors = []) :
    result.files = artifacts.map (x.describe entity) ∧ x.HasWritten entity artifacts t' := by
  unfold exportWith at h
  split at h
  next hrefused =>
    cases h
    exact absurd (List.map_eq_nil_iff.mp hok) (existingModules_ne_nil hrefused)
  · rw [hwet, if_neg Bool.false_ne_true] at h
    rcases hwrite : x.writeFrom faults entity t 0 artifacts with ⟨t₁, outcomes⟩
    rw [hwrite] at h
    cases h
    obtain ⟨houtcomes, hwritten⟩ :=
      hasWritten_of_writeFrom hplain hnodup hwrite (errorsOf_eq_nil_iff.mp hok)
    refine ⟨(recordsOf_of_written ?_ houtcomes).1, hwritten⟩
    rw [map_fst_writeFrom hwrite]
    exact List.pairwise_le_range'

/-! ### The second time -/

/-- Artifacts that are written again leave the tree as it is. -/
theorem writeFrom_same (hplain : ∀ a ∈ artifacts, ".." ∉ x.target entity a)
    (h : x.HasWritten entity artifacts t) (n : Nat) :
    ∃ outcomes, x.writeFrom (fun _ => none) entity t n artifacts = (t, outcomes)
      ∧ outcomes.map (·.2) = artifacts.map fun a => .ok (x.describe entity a) := by
  induction artifacts generalizing n with
  | nil => exact ⟨[], rfl, rfl⟩
  | cons a rest ih =>
    obtain ⟨hplain₁, hplain'⟩ := List.forall_mem_cons.mp hplain
    obtain ⟨hfirst, hrest⟩ := List.forall_mem_cons.mp h
    obtain ⟨others, hothers, hrecords⟩ := ih hplain' hrest (n + 1)
    have hone : x.writeOne none entity t a = (t, .ok (x.describe entity a)) := by
      rw [writeOne, write_same hplain₁ hfirst]
    refine ⟨(n, .ok (x.describe entity a)) :: others, ?_, ?_⟩
    · simp only [writeFrom, hone, hothers]
    · rw [List.map_cons, List.map_cons, hrecords]

/-- With overwriting, an export that is done again records the same and changes nothing. -/
theorem exportWith_same (hwet : x.dryRun = false) (hoverwrite : x.settings.overwriteExisting = true)
    (hplain : ∀ a ∈ artifacts, ".." ∉ x.target entity a) (h : x.HasWritten entity artifacts t) :
    x.exportWith (fun _ => none) entity artifacts t
      = (t, ⟨entity, false, artifacts.map (x.describe entity), []⟩) := by
  obtain ⟨outcomes, hwrite, houtcomes⟩ := writeFrom_same hplain h 0
  have hnumbers : (outcomes.map (·.1)).Pairwise (· ≤ ·) := by
    rw [map_fst_writeFrom hwrite]
    exact List.pairwise_le_range'
  obtain ⟨hrecords, herrors⟩ := recordsOf_of_written hnumbers houtcomes
  simp [exportWith, isRefused, hoverwrite, hwet, hwrite, hrecords, herrors]

namespace InModules

variable (hmodules : x.InModules entity artifacts) (houtput : ".." ∉ x.output)
  (hwritten : x.HasWritten entity artifacts t)

include hmodules houtput hwritten

/-- The module of an artifact that has been written is there. -/
theorem hasDirectory_modulePlace {a : Artifact} (ha : a ∈ artifacts) :
    t.HasDirectory (x.modulePlace entity a.side) :=
  (hwritten a ha).directory.of_prefix (notMem_parent (hmodules.notMem_target houtput ha))
    (hmodules.modulePlace_prefix_parent ha)

/-- Nothing keeps an export from being done again, with or without a refusal. -/
theorem barrier?_eq_none (hvalid : x.output.hasNull = false) :
    x.barrier? t entity artifacts = none := by
  refine barrier?_eq_none_iff.mpr ⟨hvalid, fun a ha => ?_⟩
  rw [isUnreachable, hasDirectory_modulePlace hmodules houtput hwritten ha]

/-- The places of artifacts that have been written are places. -/
theorem isBroken_eq_false : x.isBroken t entity artifacts = false := by
  have hplaces : ∀ a ∈ artifacts, (x.target entity a).hasNull = false := by
    intro a ha
    have hdots := notMem_parent (hmodules.notMem_target houtput ha)
    obtain ⟨hplaced, hdirectory, htemporary, -⟩ := hwritten a ha
    have hparent := ((hasDirectory_iff hdots).mp hdirectory).1.noNull
    rw [← Place.parent_append_name hplaced]
    rw [Place.hasNull] at hparent ⊢
    rw [List.any_append, hparent]
    simpa using contains_null_of_temporaryFault? htemporary
  simp only [isBroken, Bool.and_eq_false_iff, List.any_eq_false]
  exact .inr fun a ha => by simp [hplaces a ha]

/-- Without overwriting, an export that is done again is refused. -/
theorem exportWith_refused (faults : Nat → Option Fault) (hartifacts : artifacts ≠ [])
    (hoverwrite : x.settings.overwriteExisting = false) :
    ∃ errors, errors ≠ []
      ∧ x.exportWith faults entity artifacts t = (t, ⟨entity, x.dryRun, [], errors⟩) := by
  obtain ⟨a, ha⟩ := List.exists_mem_of_ne_nil artifacts hartifacts
  have hthere : t.contains (x.modulePlace entity a.side) = true := by
    rw [contains, stat?_eq_some.mpr (hasDirectory_modulePlace hmodules houtput hwritten ha)]
    rfl
  have hrefused := isRefused_of_contains hoverwrite ha hthere
  refine ⟨_, ?_, by rw [exportWith, if_pos hrefused]⟩
  simpa using existingModules_ne_nil hrefused

end InModules

end Exporter

namespace Generator

variable {g : Generator} {v : Value} {e : Entity} {t : FileTree} {faults : Nat → Option Fault}
  {source : String}

/-- The generator with another choice about modules that exist. -/
def overwriting (g : Generator) (overwrite : Bool) : Generator :=
  { g with settings := { g.settings with overwriteExisting := overwrite } }

/-- A document that has been generated was accepted, under settings that can be written, and has
left all its artifacts at their places. -/
theorem hasWritten_of_generateWith (hthemes : g.themes = ThemeTable.builtIn.map ThemeTable.theme)
    (hwet : g.dryRun = false) (houtput : ".." ∉ g.output)
    (hstopped : (g.generateWith faults t source v).stopped = none)
    (hsuccess : (g.generateWith faults t source v).result.success = true) :
    g.output.hasNull = false ∧ g.settings.IsWritable ∧ ∃ e, (g.validate v).entity = some e
      ∧ (g.generateWith faults t source v).result.files
        = (e.artifacts g.settings).map (g.exporter.describe e.names.name)
      ∧ g.exporter.HasWritten e.names.name (e.artifacts g.settings)
        (g.generateWith faults t source v).tree := by
  cases hentity : (g.validate v).entity with
  | none =>
    rw [generateWith_of_rejected hentity] at hsuccess
    have hclean := Report.isClean_iff.mp hsuccess
    exact absurd hclean.2.1 (errors_ne_nil_of_validate hentity)
  | some e =>
    have hmodules := inModules_artifacts hentity
    -- what is rejected or cannot be rendered does not succeed
    have hwritable : g.settings.IsWritable := by
      by_contra hs
      rw [generateWith_of_unwritable hs hentity, success_overlongReport] at hsuccess
      cases hsuccess
    rw [generateWith_of_accepted hthemes hwritable hentity] at hstopped hsuccess ⊢
    have hbarrier := (exportStop?_eq_none.mp hstopped).1
    have hvalid := (Exporter.barrier?_eq_none_iff.mp hbarrier).1
    rcases hexport : g.exporter.exportWith faults e.names.name (e.artifacts g.settings) t with
      ⟨t', result⟩
    simp only [exportArtifacts, hexport, success_exportReport hentity, hbarrier, Option.isSome_none,
      Bool.false_eq_true, if_false] at hsuccess ⊢
    have herrors : result.errors = [] := by simpa [ExportResult.success] using hsuccess
    obtain ⟨hfiles, hwritten⟩ := Exporter.hasWritten_of_exportWith hwet
      (fun a ha => hmodules.notMem_target houtput ha) hmodules.nodup hexport herrors
    exact ⟨hvalid, hwritable, e, rfl, hfiles, hwritten⟩

section again

variable (hthemes : g.themes = ThemeTable.builtIn.map ThemeTable.theme)
  (hwritable : g.settings.IsWritable) (hwet : g.dryRun = false)
  (houtput : ".." ∉ g.output) (hentity : (g.validate v).entity = some e)
  (hwritten : g.exporter.HasWritten e.names.name (e.artifacts g.settings) t)

include hthemes hwritable houtput hentity hwritten

/-- Nothing stops a generator where all artifacts are at their places already. -/
theorem stopped_of_hasWritten (hvalid : g.output.hasNull = false) :
    (g.generate t source v).stopped = none := by
  have hmodules := inModules_artifacts hentity
  rw [generate, generateWith_of_accepted hthemes hwritable hentity]
  exact exportStop?_eq_none.mpr ⟨hmodules.barrier?_eq_none houtput hwritten hvalid,
    hmodules.isBroken_eq_false houtput hwritten⟩

include hwet in
theorem generate_same (hoverwrite : g.settings.overwriteExisting = true) :
    (g.generate t source v).result.success = true
      ∧ (g.generate t source v).result.files
        = (e.artifacts g.settings).map (g.exporter.describe e.names.name)
      ∧ (g.generate t source v).tree = t := by
  have hmodules := inModules_artifacts hentity
  have hexport := Exporter.exportWith_same hwet hoverwrite
    (fun a ha => hmodules.notMem_target houtput ha) hwritten
  rw [generate, generateWith_of_accepted hthemes hwritable hentity]
  simp only [exportArtifacts, hexport, success_exportReport hentity, ite_self]
  exact ⟨rfl, rfl, trivial⟩

theorem generate_refused (hside : g.settings.generateFrontend = true
      ∨ g.settings.generateBackend = true)
    (hoverwrite : g.settings.overwriteExisting = false) :
    (g.generate t source v).result.success = false ∧ (g.generate t source v).result.files = []
      ∧ (g.generate t source v).tree = t := by
  have hmodules := inModules_artifacts hentity
  obtain ⟨errors, herrors, hexport⟩ := hmodules.exportWith_refused houtput hwritten
    (fun _ => none) (e.artifacts_ne_nil hside) hoverwrite
  rw [generate, generateWith_of_accepted hthemes hwritable hentity]
  simp only [exportArtifacts, hexport, success_exportReport hentity, ite_self]
  exact ⟨by simpa [ExportResult.success] using herrors, rfl, trivial⟩

end again

/-- After a document has been generated, generating it again with overwriting makes the same files
and leaves the tree as it is; without overwriting it is refused, and leaves the tree as it is. -/
theorem generates_same_again (s : Settings)
    (hside : s.generateFrontend = true ∨ s.generateBackend = true) {output : Place}
    (houtput : ".." ∉ output) (failOnWarnings : Bool) (faults : Nat → Option Fault) (t : FileTree)
    (source : String) (v : Value) :
    let g : Generator := { settings := s, output := output, failOnWarnings := failOnWarnings }
    let first := g.generateWith faults t source v
    let again := (g.overwriting true).generate first.tree source v
    let refused := (g.overwriting false).generate first.tree source v
    first.stopped = none → first.result.success = true →
      (again.stopped = none ∧ again.result.success = true
        ∧ again.result.files = first.result.files ∧ again.tree = first.tree)
      ∧ (refused.stopped = none ∧ refused.result.success = false ∧ refused.result.files = []
        ∧ refused.tree = first.tree) := by
  intro g first again refused hstopped hsuccess
  obtain ⟨hvalid, hwritable, e, hentity, hfiles, hwritten⟩ :=
    hasWritten_of_generateWith rfl rfl houtput hstopped hsuccess
  have hwritten' : ∀ overwrite, (g.overwriting overwrite).exporter.HasWritten e.names.name
      (e.artifacts s) first.tree := fun _ => hwritten
  refine ⟨⟨stopped_of_hasWritten rfl hwritable houtput hentity (hwritten' true) hvalid, ?_⟩,
    stopped_of_hasWritten rfl hwritable houtput hentity (hwritten' false) hvalid, ?_⟩
  · rw [hfiles]
    exact generate_same rfl hwritable rfl houtput hentity (hwritten' true) rfl
  · exact generate_refused rfl hwritable houtput hentity (hwritten' false) hside rfl

/-! The server side of orders, on an empty tree. -/

def orderServer : Generator where
  settings := { (default : Settings) with generateFrontend := false }
  output := []

def orderModule : Place := ["src", "modules", "order"]

theorem orders_in_orderModule : (orderServer.validate orderValue).entity.any (fun e =>
    e.names.name = "order" ∧ ∀ a ∈ e.artifacts orderServer.settings,
      let p := orderServer.exporter.target e.names.name a
      p ≠ [] ∧ p.parent = orderModule ∧ p.name.toList.contains '\x00' = false
        ∧ FileTree.isTooLong (FileTree.temporaryName p.name 0) = false
        ∧ FileTree.isTooLongPlace (orderModule ++ [FileTree.temporaryName p.name 0]) = false)
    = true := by
  decide +kernel

theorem isShort_orderModules (side : Side) :
    (orderServer.exporter.modulePlace "order" side).IsShort
      ∧ FileTree.isTooLongPlace (orderServer.exporter.modulePlace "order" side) = false := by
  refine ⟨⟨?_, ?_⟩, ?_⟩ <;> cases side <;> decide +kernel

theorem wayFault?_orderModule : FileTree.empty.wayFault? orderModule = none := by
  have hshort : orderModule.IsShort := ⟨by decide, by decide⟩
  refine (FileTree.wayFault?_eq_none_iff hshort).mpr ⟨⟨?_, by decide, hshort.names⟩, ?_⟩
  · rw [Place.hasNull_eq_any]
    decide
  · decide

/-- Nothing is in the way of an order on an empty tree. -/
theorem orders_generated :
    (orderServer.generate FileTree.empty "" orderValue).stopped = none
      ∧ (orderServer.generate FileTree.empty "" orderValue).result.success = true := by
  obtain ⟨e, hentity, hfacts⟩ := (Option.any_eq_true _ _).mp orders_in_orderModule
  obtain ⟨hname, hfacts⟩ := of_decide_eq_true hfacts
  have hshort (side : Side) := hname ▸ isShort_orderModules side
  have hwritable := Settings.isWritable_of_generateFrontend
    (rfl : orderServer.settings.generateFrontend = false)
  have hnull {a : Artifact} (ha : a ∈ e.artifacts orderServer.settings) :
      (orderServer.exporter.target e.names.name a).hasNull = false := by
    obtain ⟨hplaced, hparent, hname, -⟩ := hfacts a ha
    rw [← Place.parent_append_name hplaced, hparent, Place.hasNull_eq_any, List.any_append,
      List.any_cons, hname]
    decide
  constructor
  · rw [generate, generateWith_of_accepted rfl hwritable hentity]
    refine exportStop?_eq_none.mpr ⟨?_, ?_⟩
    · refine Exporter.barrier?_eq_none_iff.mpr ⟨by rw [Place.hasNull_eq_any]; rfl, fun a ha => ?_⟩
      rw [FileTree.isUnreachable_eq_of_isShort FileTree.wellFormed_empty (hshort a.side).1,
        (hshort a.side).2, Bool.and_false]
    · simp only [Exporter.isBroken, Bool.and_eq_false_iff, List.any_eq_false]
      exact .inr fun a ha => by simp [hnull ha]
  · refine (success_generate_iff rfl hwritable rfl (by decide) FileTree.wellFormed_empty hentity
      (fun side => (hshort side).1) "").mpr ⟨Bool.and_false _, fun a ha => ?_⟩
    obtain ⟨hplaced, hparent, hname, hlong, hlongPlace⟩ := hfacts a ha
    have htemporary : FileTree.temporaryFault? orderModule
        (Place.name (orderServer.exporter.target e.names.name a)) = none := by
      simp only [FileTree.temporaryFault?, hlong, hlongPlace]
      simpa using hname
    rw [← hparent] at htemporary
    rw [FileTree.writeFault?_of_free (hparent ▸ wayFault?_orderModule) htemporary, if_neg]
    simp [hplaced, FileTree.empty, FileTree.entry?]

theorem orders_generate_same_again :
    let first := orderServer.generate FileTree.empty "" orderValue
    first.result.success = true
      ∧ ((orderServer.overwriting true).generate first.tree "" orderValue).tree = first.tree
      ∧ ((orderServer.overwriting false).generate first.tree "" orderValue).result.files = [] := by
  obtain ⟨hstopped, hsuccess⟩ := orders_generated
  obtain ⟨hagain, hrefused⟩ := generates_same_again orderServer.settings (.inr rfl)
    (by decide : ".." ∉ orderServer.output) false (fun _ => none) FileTree.empty "" orderValue
    hstopped hsuccess
  exact ⟨hsuccess, hagain.2.2.2, hrefused.2.2.1⟩

end Generator

end Scaffold
