import Scaffold.Batch
import Scaffold.Proofs.Territory

/-!
# Documents on their way to the export

The document in a file is exported when the file can be loaded, the document is accepted and its
artifacts are assembled (`Generator.draft?`). What is then left behind is what the look at the
modules and the writing of the artifacts leave (`Generator.generateFile_of_draft`); a document that
is not exported leaves the tree as it was (`Generator.generateFile_of_no_draft`).
-/

namespace Scaffold

variable {g : Generator} {t t' : FileTree} {p : Place} {d : Draft}

namespace Generator

theorem exists_entity_of_draft? (h : g.draft? t p = some d) :
    ∃ entries e, Source.load t p = .ok entries ∧ (g.validate (.map entries)).entity = some e
      ∧ g.assemble e = .ok d.artifacts ∧ d.entity = e.names.name
      ∧ d.report = { g.validationReport p.text (g.validate (.map entries)) with
          steps := loadStep true ("from " ++ p.name)
            :: (g.validationReport p.text (g.validate (.map entries))).steps } := by
  unfold draft? at h
  split at h
  · cases h
  next entries hload =>
    dsimp only at h
    split at h
    · cases h
    next e hentity =>
      split at h <;> cases h
      next artifacts hassemble => exact ⟨entries, e, hload, hentity, hassemble, rfl, rfl⟩

/-- The artifacts of a document have their places in the modules of its entity. -/
theorem inModules_of_draft? (hthemes : g.themes = ThemeTable.builtIn.map ThemeTable.theme)
    (h : g.draft? t p = some d) : g.exporter.InModules d.entity d.artifacts := by
  obtain ⟨entries, e, -, hentity, hassemble, hname, -⟩ := exists_entity_of_draft? h
  rw [assemble, hthemes, Entity.render_builtIn_eq_ok] at hassemble
  rw [hname, ← hassemble.2]
  exact inModules_artifacts hentity

/-- Of a tree, only the file itself matters for what is exported of it. -/
theorem draft?_congr (hload : Source.load t p = Source.load t' p) :
    g.draft? t p = g.draft? t' p := by
  rw [draft?, draft?, hload]

/-- A document that is not exported leaves the tree as it is, and only its file matters for what
else it leaves. -/
theorem generateFile_of_no_draft (h : g.draft? t p = none)
    (hload : Source.load t p = Source.load t' p) :
    g.generateFile t' p = { g.generateFile t p with tree := t' } := by
  unfold draft? at h
  unfold generateFile generateFileWith
  rw [← hload]
  cases hread : Source.load t p with
  | error e => rfl
  | ok entries =>
    rw [hread] at h
    dsimp only at h
    cases hentity : (g.validate (.map entries)).entity with
    | none => simp only [generateWith, hentity]
    | some e =>
      rw [hentity] at h
      cases hassemble : g.assemble e with
      | error fault => simp only [generateWith, hentity, finish, hassemble]
      | ok artifacts =>
        simp only [hassemble] at h
        cases h

/-- The document in a file leaves what the export of its artifacts leaves. -/
theorem generateFile_of_draft (h : g.draft? t p = some d) :
    let exported := g.exporter.exportWith (fun _ => none) d.entity d.artifacts t
    (g.generateFile t p).tree
        = (if (g.exporter.barrier? t d.entity d.artifacts).isSome then t else exported.1)
      ∧ (g.generateFile t p).returned
        = (match g.exportStop? t d.entity d.artifacts with
          | some interruption => .error interruption
          | none => .ok (d.exported exported.2)) := by
  obtain ⟨entries, e, hload, hentity, hassemble, hname, hreport⟩ := exists_entity_of_draft? h
  unfold generateFile generateFileWith
  rw [hload]
  dsimp only
  rw [generateWith_of_assembled hentity hassemble, Draft.exported, hreport, hname]
  exact ⟨rfl, rfl⟩

/-- A document is exported in two parts: its modules are looked for, and where that does not end the
work, its artifacts are written. -/
theorem generateFile_of_check (h : g.draft? t p = some d) :
    (∃ r, d.check g t = .ended r ∧ (g.generateFile t p).tree = t
        ∧ (g.generateFile t p).returned = r)
      ∨ d.check g t = .writing d (d.writers g) []
        ∧ (g.generateFile t p).tree
          = (g.exporter.writeFrom (fun _ => none) d.entity t 0 d.artifacts).1
        ∧ (g.generateFile t p).returned
          = d.conclude g (g.exporter.writeFrom (fun _ => none) d.entity t 0 d.artifacts).2 := by
  obtain ⟨htree, hreturned⟩ := generateFile_of_draft h
  rw [htree, hreturned, Draft.check, exportStop?]
  have hdry : g.exporter.dryRun = g.dryRun := rfl
  -- the check ends the job at a barrier, a refusal or a dry run
  cases g.exporter.barrier? t d.entity d.artifacts with
  | some fault => exact .inl ⟨_, rfl, rfl, rfl⟩
  | none =>
    simp only [Exporter.isBroken, Exporter.exportWith, hdry]
    cases g.exporter.isRefused t d.entity d.artifacts with
    | true => exact .inl ⟨_, rfl, rfl, rfl⟩
    | false =>
      cases g.dryRun with
      | true => exact .inl ⟨_, rfl, rfl, rfl⟩
      | false =>
        refine .inr ⟨rfl, rfl, ?_⟩
        rw [Draft.conclude]
        cases d.artifacts.any fun a => (g.exporter.target d.entity a).hasNull <;> rfl

end Generator

/-! ### The look at the modules -/

/-- The modules of an entity look the same on two trees. -/
def Exporter.SameModules (x : Exporter) (entity : String) (t t' : FileTree) : Prop :=
  ∀ side, t.contains (x.modulePlace entity side) = t'.contains (x.modulePlace entity side)
    ∧ t.isUnreachable (x.modulePlace entity side) = t'.isUnreachable (x.modulePlace entity side)

namespace Exporter.SameModules

variable {x : Exporter} {entity : String} (h : x.SameModules entity t t')
    (artifacts : List Artifact)

include h

theorem existingModules_eq :
    x.existingModules t entity artifacts = x.existingModules t' entity artifacts := by
  refine List.filter_congr fun q hq => ?_
  obtain ⟨side, -, rfl⟩ := List.mem_map.mp hq
  exact (h side).1

theorem isRefused_eq : x.isRefused t entity artifacts = x.isRefused t' entity artifacts := by
  rw [isRefused, isRefused, h.existingModules_eq]

theorem barrier?_eq : x.barrier? t entity artifacts = x.barrier? t' entity artifacts := by
  have hfind : ∀ sides : List Side, (sides.map (x.modulePlace entity)).find? t.isUnreachable
      = (sides.map (x.modulePlace entity)).find? t'.isUnreachable := by
    intro sides
    induction sides with
    | nil => rfl
    | cons side rest ih => rw [List.map_cons, List.find?_cons, List.find?_cons, (h side).2, ih]
  rw [barrier?, barrier?, hfind]

end Exporter.SameModules

/-- The look at the modules ends the work, or the artifacts are written. -/
theorem Draft.check_cases (g : Generator) (d : Draft) (t : FileTree) :
    (∃ r, d.check g t = .ended r) ∨ d.check g t = .writing d (d.writers g) [] := by
  unfold check
  split
  · exact .inl ⟨_, rfl⟩
  · split
    · exact .inl ⟨_, rfl⟩
    · exact .inr rfl

/-- The look at the modules comes to the same where the modules look the same. -/
theorem Draft.check_congr (h : g.exporter.SameModules d.entity t t') :
    d.check g t = d.check g t' := by
  rw [Draft.check, Draft.check, h.barrier?_eq, h.isRefused_eq]
  cases g.exporter.barrier? t' d.entity d.artifacts with
  | some fault => rfl
  | none =>
    dsimp only
    split
    next hended =>
      -- such an export does not come to the writing
      rw [Exporter.exportWith, Exporter.exportWith, h.isRefused_eq, h.existingModules_eq]
      have hdry : g.exporter.dryRun = g.dryRun := rfl
      cases hrefused : g.exporter.isRefused t' d.entity d.artifacts with
      | true => rfl
      | false =>
        rw [hrefused, Bool.false_or] at hended
        rw [hdry, hended]
        rfl
    next => rfl

end Scaffold
