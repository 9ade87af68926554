import Mathlib.Data.List.Nodup
import Scaffold.Export
import Scaffold.Proofs.FileTree
import Scaffold.Proofs.ListLemmas

/-!
# What an export does to a file tree

An export writes artifacts one after another, and each write can fail. Where no two artifacts have
places at or below each other, a write leaves the places of the others alone (`settles_writeFrom`),
so that what has come of each artifact is still there at the end. `runWith_reports` says that the
records and errors of an export tell exactly that.
-/

namespace Scaffold

/-- Neither of two places is at or below the other one. -/
def Place.Apart (p q : Place) : Prop := ¬p <+: q ∧ ¬q <+: p

instance (p q : Place) : Decidable (p.Apart q) := inferInstanceAs (Decidable (_ ∧ _))

theorem Place.hasNull_eq_any (p : Place) :
    p.hasNull = p.any fun name => name.toList.contains '\x00' := by
  simp [Place.hasNull]

namespace Exporter

open FileTree

variable {x : Exporter} {faults : Nat → Option Fault} {entity : String} {artifacts : List Artifact}
  {t t' : FileTree} {outcomes : List (Nat × Outcome)}

/-- A record says of an artifact what is at its place. -/
structure Records (x : Exporter) (entity : String) (t' : FileTree) (a : Artifact)
    (r : FileRecord) : Prop where
  written : t'.entry? (x.target entity a) = some (.file a.content.toUTF8)
  absolute : r.absolute = (x.target entity a).text
  bytes : r.bytes = a.content.toUTF8.size
  lines : r.lines = a.lineCount
  sha256 : r.sha256 = Text.sha256 a.content.toUTF8

/-- Records tell which artifacts have been written; the others have left what was there. -/
structure Reports (x : Exporter) (entity : String) (artifacts : List Artifact) (t t' : FileTree)
    (files : List FileRecord) : Prop where
  described : files.Sublist (artifacts.map (x.describe entity))
  recorded : ∀ a ∈ artifacts, ∀ r ∈ files, r.path = x.relativePath entity a →
    x.Records entity t' a r
  unrecorded : ∀ a ∈ artifacts, (∀ r ∈ files, r.path ≠ x.relativePath entity a) →
    t'.entry? (x.target entity a) = t.entry? (x.target entity a)

/-! ### Outcomes -/

theorem mem_recordsOf {r : FileRecord} :
    r ∈ recordsOf outcomes ↔ ∃ n, (n, .ok r) ∈ outcomes := by
  unfold recordsOf
  simp only [List.mem_map, List.mem_mergeSort, List.mem_filterMap]
  constructor
  · rintro ⟨_, ⟨⟨n, outcome⟩, hmem, hrecord⟩, rfl⟩
    cases outcome with
    | ok r' =>
      cases hrecord
      exact ⟨n, hmem⟩
    | error e => cases hrecord
  · rintro ⟨n, hmem⟩
    exact ⟨(n, r), ⟨_, hmem, rfl⟩, rfl⟩

/-- Outcomes that come in the order of their numbers need no sorting. -/
theorem recordsOf_eq (h : (outcomes.map (·.1)).Pairwise (· ≤ ·)) :
    recordsOf outcomes = outcomes.filterMap (·.2.toOption) := by
  unfold recordsOf
  dsimp only
  rw [List.mergeSort_of_pairwise, List.map_filterMap]
  · apply List.filterMap_congr
    rintro ⟨n, r | e⟩ _ <;> rfl
  · rw [List.pairwise_map] at h
    refine h.filterMap _ fun a b hab a' ha b' hb => ?_
    rcases a with ⟨n, _ | _⟩ <;> cases ha
    rcases b with ⟨m, _ | _⟩ <;> cases hb
    simpa using hab

/-- The records do not depend on the order in which the outcomes came. -/
theorem recordsOf_perm {outcomes' : List (Nat × Outcome)} (hnumbers : (outcomes.map (·.1)).Nodup)
    (h : outcomes.Perm outcomes') : recordsOf outcomes = recordsOf outcomes' := by
  unfold recordsOf
  dsimp only
  have hsorted (records : List (Nat × FileRecord)) :
      (records.mergeSort fun a b => a.1 ≤ b.1).Pairwise fun a b => a.1 ≤ b.1 :=
    (List.pairwise_mergeSort (fun a b c => by simpa using Nat.le_trans)
      (fun a b => by simpa using Nat.le_total a.1 b.1) _).imp (by simp)
  -- two records with one number are the same
  have hnumber : ∀ o ∈ outcomes, ∀ o' ∈ outcomes, o.1 = o'.1 → o = o' :=
    fun o ho o' ho' => List.inj_on_of_nodup_map hnumbers ho ho'
  refine congrArg _ (List.Perm.eq_of_pairwise (fun a b ha hb hab hba => ?_) (hsorted _) (hsorted _)
    (((List.mergeSort_perm _ _).trans (h.filterMap _)).trans (List.mergeSort_perm _ _).symm))
  simp only [List.mem_mergeSort, List.mem_filterMap] at ha hb
  obtain ⟨⟨n, r | e⟩, ho, ha⟩ := ha <;> cases ha
  obtain ⟨⟨n', r' | e'⟩, ho', hb⟩ := hb <;> cases hb
  cases hnumber _ ho _ (h.mem_iff.mpr ho') (Nat.le_antisymm hab hba)
  rfl

/-- Sorted texts are in alphabetical order. -/
theorem pairwise_sortTexts (texts : List String) : (sortTexts texts).Pairwise (· ≤ ·) := by
  have hle (a b : String) : (!decide (b < a)) = true ↔ a ≤ b := by
    rw [Bool.not_eq_true', decide_eq_false_iff_not]
    rfl
  refine (List.pairwise_mergeSort (fun a b c hab hbc => ?_) (fun a b => ?_) texts).imp
    fun {a b} => (hle a b).mp
  · exact (hle a c).mpr (String.le_trans ((hle a b).mp hab) ((hle b c).mp hbc))
  · rw [Bool.or_eq_true, hle, hle]
    exact String.le_total a b

theorem sortTexts_perm (texts : List String) : (sortTexts texts).Perm texts :=
  List.mergeSort_perm _ _

/-- Nor do the errors. -/
theorem errorsOf_perm {outcomes' : List (Nat × Outcome)} (h : outcomes.Perm outcomes') :
    errorsOf outcomes = errorsOf outcomes' := by
  refine List.Perm.eq_of_pairwise (fun a b _ _ hab hba => ?_) (pairwise_sortTexts _)
    (pairwise_sortTexts _)
    (((sortTexts_perm _).trans (h.filterMap _)).trans (sortTexts_perm _).symm)
  exact String.le_antisymm hab hba

theorem errorsOf_eq_nil_iff : errorsOf outcomes = [] ↔ ∀ o ∈ outcomes, ∃ r, o.2 = .ok r := by
  unfold errorsOf sortTexts
  rw [← List.length_eq_zero_iff, List.length_mergeSort, List.length_eq_zero_iff,
    List.filterMap_eq_nil_iff]
  refine forall₂_congr fun o _ => ?_
  rcases o with ⟨n, e | r⟩ <;> simp

/-- Every outcome is a record or an error. -/
theorem length_recordsOf_add_length_errorsOf (outcomes : List (Nat × Outcome)) :
    (recordsOf outcomes).length + (errorsOf outcomes).length = outcomes.length := by
  simp only [recordsOf, errorsOf, sortTexts, List.length_map, List.length_mergeSort]
  induction outcomes with
  | nil => rfl
  | cons outcome rest ih =>
    rcases outcome with ⟨n, r | e⟩ <;> simp only [List.filterMap_cons, List.length_cons] <;> omega

/-! ### Writing artifacts one after another -/

/-- What has come of an artifact is what is at its place. -/
def Settles (x : Exporter) (entity : String) (t t' : FileTree) (a : Artifact) : Outcome → Prop
  | .ok r => r = x.describe entity a ∧ t'.entry? (x.target entity a) = some (.file a.content.toUTF8)
  | .error _ => t'.entry? (x.target entity a) = t.entry? (x.target entity a)

theorem settles_writeOne {fault : Option Fault} {a : Artifact} {outcome : Outcome}
    (hplain : ".." ∉ x.target entity a) (h : x.writeOne fault entity t a = (t', outcome)) :
    Touches [x.target entity a] t t' ∧ x.Settles entity t t' a outcome := by
  unfold writeOne at h
  split at h
  all_goals
    next hwrite =>
      cases h
      obtain ⟨htouches, hentry⟩ := touches_write hplain hwrite
      refine ⟨htouches, ?_⟩
      simpa [Settles] using hentry

/-- The first artifact is written, and then the others. -/
theorem writeFrom_cons {n : Nat} {a : Artifact} {rest : List Artifact}
    (h : x.writeFrom faults entity t n (a :: rest) = (t', outcomes)) :
    ∃ t₁ outcome others, x.writeOne (faults n) entity t a = (t₁, outcome)
      ∧ x.writeFrom faults entity t₁ (n + 1) rest = (t', others)
      ∧ outcomes = (n, outcome) :: others := by
  rcases hone : x.writeOne (faults n) entity t a with ⟨t₁, outcome⟩
  rcases hothers : x.writeFrom faults entity t₁ (n + 1) rest with ⟨t₂, others⟩
  simp only [writeFrom, hone, hothers] at h
  cases h
  exact ⟨t₁, outcome, others, rfl, hothers, rfl⟩

/-- The outcomes have the numbers of the artifacts. -/
theorem map_fst_writeFrom {n : Nat}
    (h : x.writeFrom faults entity t n artifacts = (t', outcomes)) :
    outcomes.map (·.1) = List.range' n artifacts.length := by
  induction artifacts generalizing t n outcomes with
  | nil =>
    cases h
    rfl
  | cons a rest ih =>
    obtain ⟨t₁, outcome, others, -, hothers, rfl⟩ := writeFrom_cons h
    rw [List.map_cons, ih hothers]
    rfl

/-- Writing artifacts touches their places only. -/
theorem touches_writeFrom {n : Nat} (hplain : ∀ a ∈ artifacts, ".." ∉ x.target entity a)
    (h : x.writeFrom faults entity t n artifacts = (t', outcomes)) :
    Touches (artifacts.map (x.target entity)) t t' := by
  induction artifacts generalizing t n outcomes with
  | nil =>
    cases h
    exact .refl [] _
  | cons a rest ih =>
    obtain ⟨hfirst, hrest⟩ := List.forall_mem_cons.mp hplain
    obtain ⟨t₁, outcome, others, hone, hothers, -⟩ := writeFrom_cons h
    exact (settles_writeOne hfirst hone).1.append (ih hrest hothers)

/-- Writing artifacts settles each of them. -/
theorem settles_writeFrom {n : Nat} (hplain : ∀ a ∈ artifacts, ".." ∉ x.target entity a)
    (hapart : artifacts.Pairwise fun a b => (x.target entity a).Apart (x.target entity b))
    (h : x.writeFrom faults entity t n artifacts = (t', outcomes)) :
    List.Forall₂ (fun a o => x.Settles entity t t' a o.2) artifacts outcomes := by
  induction artifacts generalizing t t' n outcomes with
  | nil =>
    cases h
    exact .nil
  | cons a rest ih =>
    obtain ⟨hfirst, hrest⟩ := List.pairwise_cons.mp hapart
    obtain ⟨hplain₁, hplain'⟩ := List.forall_mem_cons.mp hplain
    obtain ⟨t₁, outcome, others, hone, hothers, rfl⟩ := writeFrom_cons h
    obtain ⟨htouches, hsettles⟩ := settles_writeOne hplain₁ hone
    have htouches' := touches_writeFrom hplain' hothers
    refine .cons ?_ ?_
    · -- what is at the place of the first artifact stays there
      have hstays : t'.entry? (x.target entity a) = t₁.entry? (x.target entity a) := by
        refine htouches'.elsewhere _ (List.forall_mem_map.mpr fun b hb => ?_)
        exact (hfirst b hb).1
      cases outcome with
      | ok r => exact ⟨hsettles.1, hstays.trans hsettles.2⟩
      | error e => exact hstays.trans hsettles
    · -- and what was at the places of the others had stayed there
      refine ((List.forall₂_and_left _ _).mpr ⟨hfirst, ih hplain' hrest hothers⟩).imp ?_
      rintro b ⟨k, o⟩ ⟨hb, hsettle⟩
      have hstayed : t₁.entry? (x.target entity b) = t.entry? (x.target entity b) := by
        refine htouches.elsewhere _ (List.forall_mem_singleton.mpr ?_)
        exact hb.2
      cases o with
      | ok r => exact hsettle
      | error e => exact hsettle.trans hstayed

/-! ### What an export reports -/

theorem target_eq_of_relativePath_eq {a b : Artifact}
    (h : x.relativePath entity a = x.relativePath entity b) :
    x.target entity a = x.target entity b := congrArg x.output.below h

/-- Artifacts whose places are apart have different paths. -/
theorem eq_of_relativePath_eq
    (hapart : artifacts.Pairwise fun a b => (x.target entity a).Apart (x.target entity b))
    {a b : Artifact} (ha : a ∈ artifacts) (hb : b ∈ artifacts)
    (h : x.relativePath entity a = x.relativePath entity b) : a = b := by
  have hpaths : (artifacts.map (x.relativePath entity)).Nodup := by
    refine List.pairwise_map.mpr (hapart.imp fun hab heq => ?_)
    rw [target_eq_of_relativePath_eq heq] at hab
    exact hab.1 (List.prefix_refl _)
  exact List.inj_on_of_nodup_map hpaths ha hb h

theorem sublist_describe
    (h : List.Forall₂ (fun a o => x.Settles entity t t' a o.2) artifacts outcomes) :
    (outcomes.filterMap (·.2.toOption)).Sublist (artifacts.map (x.describe entity)) := by
  induction h with
  | nil => exact .slnil
  | @cons a o rest others hone _ ih =>
    obtain ⟨n, r | e⟩ := o
    · exact ih.cons _
    · obtain ⟨rfl, -⟩ := hone
      exact ih.cons_cons _

theorem reports_recordsOf
    (hapart : artifacts.Pairwise fun a b => (x.target entity a).Apart (x.target entity b))
    (hsettles : List.Forall₂ (fun a o => x.Settles entity t t' a o.2) artifacts outcomes)
    (hnumbers : (outcomes.map (·.1)).Pairwise (· ≤ ·)) :
    x.Reports entity artifacts t t' (recordsOf outcomes) where
  described := by
    rw [recordsOf_eq hnumbers]
    exact sublist_describe hsettles
  recorded a ha r hr hpath := by
    obtain ⟨n, hmem⟩ := mem_recordsOf.mp hr
    obtain ⟨b, hb, rfl, hwritten⟩ := exists_of_forall₂ hsettles.flip hmem
    obtain rfl := eq_of_relativePath_eq hapart hb ha hpath
    exact ⟨hwritten, rfl, rfl, rfl, rfl⟩
  unrecorded a ha hnone := by
    obtain ⟨⟨n, outcome⟩, hmem, hsettle⟩ := exists_of_forall₂ hsettles ha
    cases outcome with
    | error e => exact hsettle
    | ok r =>
      -- an artifact that has been written has a record under its path
      obtain ⟨rfl, -⟩ := hsettle
      exact absurd rfl (hnone _ (mem_recordsOf.mpr ⟨n, hmem⟩))

theorem exportWith_reports {result : ExportResult} (hwet : x.dryRun = false)
    (hplain : ∀ a ∈ artifacts, ".." ∉ x.target entity a)
    (hapart : artifacts.Pairwise fun a b => (x.target entity a).Apart (x.target entity b))
    (h : x.exportWith faults entity artifacts t = (t', result)) :
    Touches (artifacts.map (x.target entity)) t t'
      ∧ x.Reports entity artifacts t t' result.files
      ∧ (x.isRefused t entity artifacts = false →
          result.files.length + result.errors.length = artifacts.length) := by
  unfold exportWith at h
  split at h
  next hrefused =>
    cases h
    refine ⟨.refl _ t, ⟨List.nil_sublist _, nofun, fun _ _ _ => rfl⟩, fun hnot => ?_⟩
    rw [hrefused] at hnot
    cases hnot
  · rw [hwet, if_neg Bool.false_ne_true] at h
    rcases hwrite : x.writeFrom faults entity t 0 artifacts with ⟨t₁, outcomes⟩
    rw [hwrite] at h
    cases h
    -- each artifact is settled once, as a record or as an error
    have hsettles := settles_writeFrom hplain hapart hwrite
    refine ⟨touches_writeFrom hplain hwrite, reports_recordsOf hapart hsettles ?_, fun _ => ?_⟩
    · rw [map_fst_writeFrom hwrite]
      exact List.pairwise_le_range'
    · rw [length_recordsOf_add_length_errorsOf, hsettles.length_eq]

/-- Only an artifact without a place keeps an export from having a result. -/
theorem isBroken_eq_false (h : ∀ a ∈ artifacts, (x.target entity a).hasNull = false) :
    x.isBroken t entity artifacts = false := by
  rw [isBroken, List.any_eq_false.mpr, Bool.and_false]
  intro a ha hnull
  rw [h a ha] at hnull
  cases hnull

/-- Whichever steps fail: an export changes no file but those of its artifacts, leaves no temporary
file, and reports each artifact as written or as an error. -/
theorem runWith_reports (faults : Nat → Option Fault) (t : FileTree) (hwet : x.dryRun = false)
    (hplain : ∀ a ∈ artifacts, ".." ∉ x.target entity a)
    (hapart : artifacts.Pairwise fun a b => (x.target entity a).Apart (x.target entity b)) :
    ∃ t' outcome, x.runWith faults entity artifacts t = (t', outcome)
      ∧ Touches (artifacts.map (x.target entity)) t t'
      ∧ (x.barrier? t entity artifacts = none →
          (∀ a ∈ artifacts, (x.target entity a).hasNull = false) → ∃ result, outcome = .ok result)
      ∧ ∀ result, outcome = .ok result →
          x.Reports entity artifacts t t' result.files
            ∧ (x.isRefused t entity artifacts = false →
                result.files.length + result.errors.length = artifacts.length) := by
  unfold runWith
  cases x.barrier? t entity artifacts with
  | some fault => exact ⟨_, _, rfl, .refl _ t, nofun, nofun⟩
  | none =>
    -- without a barrier, only a target with a character that no name has leaves no result
    rcases hexport : x.exportWith faults entity artifacts t with ⟨t', result⟩
    obtain ⟨htouches, hreports⟩ := exportWith_reports hwet hplain hapart hexport
    refine ⟨_, _, rfl, htouches, fun _ hplaces => ⟨result, if_neg ?_⟩, fun result' hresult => ?_⟩
    · rw [isBroken_eq_false hplaces]
      exact Bool.false_ne_true
    · split at hresult
      · cases hresult
      · cases hresult
        exact hreports

/-! An export to a directory where a file takes the place of one root, while a file of the other
root can be written by one byte only. -/

def bookExporter : Exporter := ⟨["out"], default, false⟩

def bookArtifacts : List Artifact :=
  [⟨.backend, "model.ts", "export const Book = model()\n"⟩,
    ⟨.frontend, "routes.ts", "export default []\n"⟩,
    ⟨.frontend, "config.ts", "export default config\n"⟩]

def blockedTree : FileTree :=
  ((FileTree.empty.put ["out"] .directory).put ["out", "src"] .directory).put
    ["out", "src", "modules"] (.file "not a directory".toUTF8)

theorem target_bookArtifacts :
    (∀ a ∈ bookArtifacts, ".." ∉ bookExporter.target "book" a
        ∧ (bookExporter.target "book" a).hasNull = false)
      ∧ bookArtifacts.Pairwise fun a b =>
        (bookExporter.target "book" a).Apart (bookExporter.target "book" b) := by
  simp only [Place.hasNull_eq_any]
  decide +kernel

theorem targets_plain : ∀ a ∈ bookArtifacts, ".." ∉ bookExporter.target "book" a :=
  fun a ha => (target_bookArtifacts.1 a ha).1

theorem targets_apart : bookArtifacts.Pairwise fun a b =>
    (bookExporter.target "book" a).Apart (bookExporter.target "book" b) :=
  target_bookArtifacts.2

theorem hasNull_target_bookArtifacts :
    ∀ a ∈ bookArtifacts, (bookExporter.target "book" a).hasNull = false :=
  fun a ha => (target_bookArtifacts.1 a ha).2

theorem barrier?_blockedTree : bookExporter.barrier? blockedTree "book" bookArtifacts = none := by
  have hreach : ∀ p ∈ (sides bookArtifacts).map (bookExporter.modulePlace "book"),
      blockedTree.isUnreachable p = false := by
    simp only [isUnreachable, find, Place.hasNull_eq_any]
    decide +kernel
  have houtput : bookExporter.output.hasNull = false := by
    rw [Place.hasNull_eq_any]
    decide
  rw [barrier?, houtput, List.find?_eq_none.mpr (by simpa using hreach)]
  rfl

theorem books_reported_around_faults :
    ∃ t' result,
      bookExporter.runWith (fun n => if n = 1 then some (.filling 1 .refused) else none) "book"
          bookArtifacts blockedTree = (t', .ok result)
        ∧ t'.entry? ["out", "src", "modules"] = some (.file "not a directory".toUTF8)
        ∧ bookExporter.Reports "book" bookArtifacts blockedTree t' result.files
        ∧ result.files.length + result.errors.length = 3 := by
  obtain ⟨t', outcome, hrun, htouches, hresult, hreports⟩ :=
    runWith_reports (fun n => if n = 1 then some (.filling 1 .refused) else none) blockedTree
      (rfl : bookExporter.dryRun = false) targets_plain targets_apart
  obtain ⟨result, rfl⟩ := hresult barrier?_blockedTree hasNull_target_bookArtifacts
  obtain ⟨hfiles, hlength⟩ := hreports result rfl
  refine ⟨t', result, hrun, ?_, hfiles, hlength (Bool.and_false _)⟩
  exact (htouches.files _ _ (by decide +kernel)).mpr (by decide +kernel)

end Exporter

end Scaffold
