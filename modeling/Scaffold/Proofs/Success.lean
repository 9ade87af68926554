import Scaffold.Proofs.Alone
import Scaffold.Proofs.Generation
import Scaffold.Proofs.Territory

/-!
# When a document is generated

What comes of each artifact of an export is known before anything is written: it is written unless
`FileTree.writeFault?` says why not, and none of the others gets in its way
(`Exporter.map_outcome_writeFrom`). So an accepted document is generated exactly when nothing is in
the way of its artifacts and the export is not refused (`Generator.success_generate_iff`).
-/

namespace Scaffold

open FileTree

variable {places : List Place} {t₀ t : FileTree}

namespace Pool

variable {w : Writer} {others : List Writer}

/-- A writer that goes on alone keeps the invariant. -/
theorem reaches {a b : FileTree × Writer.Stage} (hplaces : Territory places)
    (h : Pool places t₀ a.1 ({ w with stage := a.2 } :: others)) (hreaches : w.Reaches a b) :
    Pool places t₀ b.1 ({ w with stage := b.2 } :: others) := by
  induction hreaches with
  | refl => exact h
  | tail _ hstep ih =>
    rw [← hstep]
    exact ih.step hplaces

/-- So does one that writes its file in one go, and what comes of it was known at the beginning. -/
theorem write (hplaces : Territory places) (h : Pool places t₀ t others) {p : Place}
    (hp : p ∈ places) (hother : ∀ w ∈ others, w.target ≠ p) (content : ByteArray) :
    (t.write none p content).2 = t₀.writeFault? p
      ∧ ∃ w : Writer, w.target = p ∧ Pool places t₀ (t.write none p content).1 (w :: others) := by
  have hjoined : Pool places t₀ t (Writer.start p content :: others) :=
    @Pool.join places t₀ t others h [(p, content)] (List.forall_mem_singleton.mpr hp)
      (List.nodup_singleton p) (List.forall_mem_singleton.mpr hother)
  have hpool := hjoined.reaches hplaces (Writer.reaches_write t p content)
  obtain ⟨hended, -, -⟩ := hpool.sound_ended List.mem_cons_self rfl
  exact ⟨Option.some.inj hended, _, rfl, hpool⟩

end Pool

namespace Exporter

variable {x : Exporter} {entity : String} {artifacts : List Artifact}

/-- What comes of an artifact on a tree, whatever else is written. -/
def foreseen (x : Exporter) (entity : String) (t : FileTree) (a : Artifact) : Outcome :=
  match t.writeFault? (x.target entity a) with
  | none => .ok (x.describe entity a)
  | some e => .error (x.writeError entity a e)

/-- The artifacts come to what was foreseen at the beginning, though each is written after others.
-/
theorem map_outcome_writeFrom {others : List Writer} (hplaces : Territory places)
    (h : Pool places t₀ t others) (hwithin : ∀ a ∈ artifacts, x.target entity a ∈ places)
    (hnodup : (artifacts.map (x.target entity)).Nodup)
    (hother : ∀ a ∈ artifacts, ∀ w ∈ others, w.target ≠ x.target entity a) (n : Nat) :
    (x.writeFrom (fun _ => none) entity t n artifacts).2.map (·.2)
      = artifacts.map (x.foreseen entity t₀) := by
  induction artifacts generalizing t others n with
  | nil => rfl
  | cons a rest ih =>
    obtain ⟨hwithin₁, hwithin'⟩ := List.forall_mem_cons.mp hwithin
    obtain ⟨hother₁, hother'⟩ := List.forall_mem_cons.mp hother
    rw [List.map_cons, List.nodup_cons] at hnodup
    obtain ⟨hfault, w, htarget, hpool⟩ := h.write hplaces hwithin₁ hother₁ a.content.toUTF8
    have hone : x.writeOne none entity t a
        = ((t.write none (x.target entity a) a.content.toUTF8).1, x.foreseen entity t₀ a) := by
      rw [writeOne, foreseen, ← hfault]
      rcases t.write none (x.target entity a) a.content.toUTF8 with ⟨t', _ | e⟩ <;> rfl
    rw [writeFrom]
    simp only [hone, List.map_cons]
    rw [ih hpool hwithin' hnodup.2 (fun b hb => List.forall_mem_cons.mpr ⟨?_, hother' b hb⟩)]
    rw [htarget]
    exact fun heq => hnodup.1 (heq ▸ List.mem_map_of_mem hb)

/-- An export that takes place has no errors exactly when nothing is in the way of its artifacts. -/
theorem errors_exportWith_eq_nil_iff (hwet : x.dryRun = false) (hroots : x.settings.HasApartRoots)
    (hmodules : x.InModules entity artifacts)
    (hshort : ∀ side, (x.modulePlace entity side).IsShort) (hwell : t.WellFormed) :
    (x.exportWith (fun _ => none) entity artifacts t).2.errors = []
      ↔ x.isRefused t entity artifacts = false
        ∧ ∀ a ∈ artifacts, t.writeFault? (x.target entity a) = none := by
  rw [exportWith, hwet]
  cases hrefused : x.isRefused t entity artifacts with
  | true =>
    simpa using existingModules_ne_nil hrefused
  | false =>
    have hplaces := territory_targets (x := x) [(entity, artifacts)] hroots
      (List.forall_mem_singleton.mpr hmodules) (List.forall_mem_singleton.mpr hshort)
    have houtcomes := map_outcome_writeFrom hplaces (Pool.initial hwell)
      (fun a ha => by simpa using ⟨a, ha, rfl⟩) hmodules.nodup (fun _ _ => nofun) 0
    have hok : (∀ o ∈ (x.writeFrom (fun _ => none) entity t 0 artifacts).2, ∃ r, o.2 = .ok r)
        ↔ ∀ o ∈ artifacts.map (x.foreseen entity t), ∃ r, o = .ok r := by
      rw [← houtcomes, List.forall_mem_map]
    simp only [Bool.false_eq_true, if_false, errorsOf_eq_nil_iff, hok, List.forall_mem_map,
      true_and]
    refine forall₂_congr fun a _ => ?_
    rw [foreseen]
    cases t.writeFault? (x.target entity a) <;> simp

end Exporter

namespace Generator

variable {g : Generator} {v : Value} {e : Entity}

/-- An accepted document, under settings that can be written, is generated exactly when its export
is not refused and nothing is in the way of its artifacts. -/
theorem success_generate_iff (hthemes : g.themes = ThemeTable.builtIn.map ThemeTable.theme)
    (hwritable : g.settings.IsWritable) (hwet : g.dryRun = false)
    (hroots : g.settings.HasApartRoots) (hwell : t.WellFormed)
    (hentity : (g.validate v).entity = some e)
    (hshort : ∀ side, (g.exporter.modulePlace e.names.name side).IsShort) (source : String) :
    (g.generate t source v).result.success = true
      ↔ g.exporter.isRefused t e.names.name (e.artifacts g.settings) = false
        ∧ ∀ a ∈ e.artifacts g.settings,
          t.writeFault? (g.exporter.target e.names.name a) = none := by
  rw [generate, generateWith_of_accepted hthemes hwritable hentity, exportArtifacts]
  simp only [success_exportReport hentity, ExportResult.success, List.isEmpty_iff]
  exact Exporter.errors_exportWith_eq_nil_iff hwet hroots (inModules_artifacts hentity) hshort hwell

end Generator

end Scaffold
