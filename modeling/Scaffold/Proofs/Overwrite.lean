import Scaffold.Proofs.FileTree.Rewrite
import Scaffold.Proofs.Modules

/-!
# Overwriting disabled

An export looks only at the modules of the entity, but everything that it writes is in them. So
where no module is there, nothing at the places of its artifacts is there either, and no file is
overwritten (`exportWith_keeps`); where one is there, nothing is written at all.
-/

namespace Scaffold

namespace Exporter

open FileTree

variable {x : Exporter} {faults : Nat → Option Fault} {entity : String} {artifacts : List Artifact}
  {t t' : FileTree} {outcomes : List (Nat × Outcome)} {result : ExportResult} {q : Place}
  {content : ByteArray}

/-! ### Files that are there -/

/-- Nothing is written in a directory that is no place. -/
theorem write_ne_none_of_hasNull {fault : Option Fault} {p : Place} (hdots : ".." ∉ p)
    (hnull : p.parent.hasNull = true) : t.write fault p content ≠ (t', none) := by
  intro h
  have hdirectory := (rewritable_of_write hdots h).directory
  have hvalid := ((hasDirectory_iff (notMem_parent hdots)).mp hdirectory).1.noNull
  rw [hnull] at hvalid
  cases hvalid

/-- A file stays when artifacts are written, if those at its place can have no place. -/
theorem file_stays_writeFrom {n : Nat} (hplain : ∀ a ∈ artifacts, ".." ∉ x.target entity a)
    (hmissed : ∀ a ∈ artifacts, x.target entity a = q → q.parent.hasNull = true)
    (h : x.writeFrom faults entity t n artifacts = (t', outcomes))
    (hfile : t.entry? q = some (.file content)) : t'.entry? q = some (.file content) := by
  induction artifacts generalizing t n outcomes with
  | nil =>
    cases h
    exact hfile
  | cons a rest ih =>
    obtain ⟨hplain₁, hplain'⟩ := List.forall_mem_cons.mp hplain
    obtain ⟨hmissed₁, hmissed'⟩ := List.forall_mem_cons.mp hmissed
    obtain ⟨t₁, outcome, others, hone, hothers, -⟩ := writeFrom_cons h
    refine ih hplain' hmissed' hothers ?_
    by_cases hq : x.target entity a = q
    · obtain ⟨-, hsettles⟩ := settles_writeOne hplain₁ hone
      cases outcome with
      | ok r =>
        -- the artifact cannot have been written
        unfold writeOne at hone
        split at hone <;> cases hone
        next hwrite => exact absurd hwrite (write_ne_none_of_hasNull hplain₁ (hq ▸ hmissed₁ hq))
      | error e =>
        rw [Settles, hq] at hsettles
        rw [hsettles, hfile]
    · obtain ⟨htouches, -⟩ := settles_writeOne hplain₁ hone
      exact (htouches.files q content (by simpa using Ne.symm hq)).mpr hfile

/-! ### Modules that are there -/

/-- Where something is at the place of an artifact, the module is there, if the system looks. -/
theorem contains_modulePlace (hmodules : x.InModules entity artifacts) (houtput : ".." ∉ x.output)
    (hwell : t.WellFormed) {a : Artifact} (ha : a ∈ artifacts)
    (hentry : t.entry? (x.target entity a) ≠ none)
    (hvalid : (x.target entity a).parent.hasNull = false)
    (hreach : t.isUnreachable (x.modulePlace entity a.side) = false) :
    t.contains (x.modulePlace entity a.side) = true := by
  have hparent := hmodules.modulePlace_prefix_parent ha
  have hne : x.modulePlace entity a.side ≠ x.target entity a := by
    obtain ⟨address, -, -, htarget⟩ := hmodules.addressed a ha
    rw [htarget]
    simp
  have hdir := hwell.directory_of_prefix hentry (hparent.trans (Place.parent_prefix _)) hne
  exact contains_of_entry? hwell (notMem_modulePlace houtput hmodules.named a.side)
    (Place.hasNull_of_prefix hparent hvalid) hreach hdir

/-- With overwriting disabled, an export changes no file that is there. -/
theorem exportWith_keeps (hmodules : x.InModules entity artifacts) (houtput : ".." ∉ x.output)
    (hwell : t.WellFormed) (hoverwrite : x.settings.overwriteExisting = false)
    (hreach : ∀ a ∈ artifacts, t.isUnreachable (x.modulePlace entity a.side) = false)
    (h : x.exportWith faults entity artifacts t = (t', result))
    (hfile : t.entry? q = some (.file content)) : t'.entry? q = some (.file content) := by
  unfold exportWith at h
  split at h
  · cases h
    exact hfile
  next hrefused =>
    split at h
    · cases h
      exact hfile
    · rcases hwrite : x.writeFrom faults entity t 0 artifacts with ⟨t₁, outcomes⟩
      rw [hwrite] at h
      cases h
      refine file_stays_writeFrom (fun a ha => hmodules.notMem_target houtput ha) ?_ hwrite hfile
      rintro a ha rfl
      -- otherwise the module would have been there, and the export refused
      by_contra hvalid
      have hthere := contains_modulePlace hmodules houtput hwell ha (by rw [hfile]; nofun)
        (by simpa using hvalid) (hreach a ha)
      exact hrefused (isRefused_of_contains hoverwrite ha hthere)

/-- The errors of an export that is refused. -/
def refusals (x : Exporter) (t : FileTree) (entity : String) (artifacts : List Artifact) :
    List String :=
  ((sides artifacts).filter fun side => t.contains (x.modulePlace entity side)).map
    fun side => refusal (x.modulePlace entity side)

theorem exportWith_of_isRefused (h : x.isRefused t entity artifacts = true) :
    x.exportWith faults entity artifacts t
      = (t, ⟨entity, x.dryRun, [], x.refusals t entity artifacts⟩) := by
  rw [exportWith, if_pos h, existingModules, List.filter_map, List.map_map]
  rfl

/-- Where a module is there, the output directory is a place. -/
theorem hasNull_output_of_contains (houtput : ".." ∉ x.output) (hentity : isPlainName entity = true)
    {side : Side} (h : t.contains (x.modulePlace entity side) = true) :
    x.output.hasNull = false := by
  obtain ⟨e, hfound⟩ := Option.isSome_iff_exists.mp h
  have hallowed := ((find_eq_ok_iff (notMem_modulePlace houtput hentity side)).mp
    (stat?_eq_some.mp hfound)).1
  refine Place.hasNull_of_prefix ?_ hallowed.noNull
  rw [modulePlace_eq hentity, List.append_assoc]
  exact List.prefix_append _ _

end Exporter

open Exporter

/-- With overwriting disabled, exporting an accepted document changes and removes no file that is
there, whichever writes fail. Where a module of the entity is there, on any side that has artifacts,
nothing is done at all; the result has no records and an error for each side whose module is there,
provided that the system looks at the modules. -/
theorem export_keeps_files {v : Value} {d : Document} (hparse : Document.parse v = .ok d)
    (hvalid : d.findings.isValid = true) {s : Settings} (hwritable : s.IsWritable)
    (hoverwrite : s.overwriteExisting = false) {output : Place} (houtput : ".." ∉ output)
    (dryRun : Bool) (faults : Nat → Option Fault)
    {t : FileTree} (hwell : t.WellFormed) :
    ∃ files, assemble v s = .ok files ∧
      let x : Exporter := ⟨output, s, dryRun⟩
      let after := x.runWith faults d.name files t
      (∀ q content, t.entry? q = some (.file content) →
          FileTree.entry? after.1 q = some (.file content))
        ∧ ((∃ a ∈ files, t.contains (x.modulePlace d.name a.side) = true) →
          after.1 = t
            ∧ ((∀ a ∈ files, t.isUnreachable (x.modulePlace d.name a.side) = false) →
              (sides files).Nodup
                ∧ after.2 = .ok ⟨d.name, dryRun, [], x.refusals t d.name files⟩)) := by
  obtain ⟨hd, fields, -, -, hfiles⟩ := exists_assemble_eq_ok hparse hvalid
  have hname := Document.isExactEntityName_of_parse hparse
  have hmodules := Entity.inModules_ofFields hd hname fields ⟨output, s, dryRun⟩
  refine ⟨_, hfiles s hwritable, fun q content hfile => ?_, ?_⟩
  · unfold runWith
    split
    · exact hfile
    next hbarrier =>
      exact exportWith_keeps hmodules houtput hwell hoverwrite (barrier?_eq_none_iff.mp hbarrier).2
        rfl hfile
  · -- a module that is there is refused before anything is written
    rintro ⟨a, ha, hthere⟩
    have hrefused := isRefused_of_contains (x := ⟨output, s, dryRun⟩) hoverwrite ha hthere
    unfold runWith
    rw [exportWith_of_isRefused hrefused]
    refine ⟨?_, fun hreach => ⟨nodup_sides _, ?_⟩⟩
    · split <;> rfl
    · have hnull := hasNull_output_of_contains houtput hmodules.named hthere
      rw [barrier?_eq_none_iff.mpr ⟨hnull, hreach⟩]
      simp [isBroken, hrefused]

/-! An order whose module is there, with one root for both sides. -/

def keepingExporter : Exporter := ⟨[], { sharedRoot with overwriteExisting := false }, false⟩

def orderTree : FileTree :=
  ((FileTree.empty.put ["src"] .directory).put ["src", "order"] .directory).put
    ["src", "order", "notes.txt"] (.file "kept".toUTF8)

theorem wellFormed_orderTree : orderTree.WellFormed := by
  refine .put (.put (.put FileTree.wellFormed_empty ?_ ?_ ?_) ?_ ?_ ?_) ?_ ?_ ?_ <;> decide +kernel

theorem find_orderModule (side : Side) :
    orderTree.find (keepingExporter.modulePlace "order" side) = .ok .directory := by
  simp only [FileTree.find, Place.hasNull_eq_any]
  cases side <;> decide +kernel

theorem orders_refused :
    ∃ files, assemble orderValue keepingExporter.settings = .ok files ∧
      ∃ errors, errors ≠ []
        ∧ keepingExporter.runWith (fun _ => none) "order" files orderTree
          = (orderTree, .ok ⟨"order", false, [], errors⟩) := by
  have hwritable : keepingExporter.settings.IsWritable := by decide
  obtain ⟨files, hfiles, -, hthere⟩ := export_keeps_files parse_orderValue isValid_orderDocument
    hwritable (rfl : keepingExporter.settings.overwriteExisting = false)
    (by decide : ".." ∉ ([] : Place)) false (fun _ => none) wellFormed_orderTree
  obtain ⟨-, fields, -, -, hassemble⟩ :=
    exists_assemble_eq_ok parse_orderValue isValid_orderDocument
  have hne : files ≠ [] := by
    rw [hassemble _ hwritable] at hfiles
    cases hfiles
    exact Entity.artifacts_ne_nil _ (.inl rfl)
  obtain ⟨a, ha⟩ := List.exists_mem_of_ne_nil files hne
  have hcontains : ∀ side, orderTree.contains (keepingExporter.modulePlace "order" side) = true :=
    fun side => by rw [FileTree.contains, FileTree.stat?_eq_some.mpr (find_orderModule side)]; rfl
  obtain ⟨htree, hresult⟩ := hthere ⟨a, ha, hcontains a.side⟩
  have hreach : ∀ side,
      orderTree.isUnreachable (keepingExporter.modulePlace "order" side) = false :=
    fun side => by rw [FileTree.isUnreachable, find_orderModule]
  obtain ⟨-, hrefused⟩ := hresult fun b _ => hreach b.side
  refine ⟨files, hfiles, _, ?_, Prod.ext htree hrefused⟩
  simp only [refusals, ne_eq, List.map_eq_nil_iff, List.filter_eq_nil_iff, not_forall]
  exact ⟨a.side, mem_sides.mpr ⟨a, ha, rfl⟩, not_not.mpr (hcontains a.side)⟩

end Scaffold
