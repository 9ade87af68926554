import Mathlib.Logic.Relation
import Scaffold.Proofs.FileTree.Rewrite
import Scaffold.Writer

/-!
# A writer left to itself

While nobody else works on the tree, a writer comes to its end with the tree and the error that
`FileTree.write` gives (`Writer.reaches_write`). However many others there are, it is done after at
most `Writer.Stage.left` steps of its own (`Writer.left_step`).
-/

namespace Scaffold

namespace FileTree

variable {t : FileTree} {p : Place}

/-- What was put at a place is forgotten when something else is put there. -/
@[simp] theorem put_put (e e' : Entry) : (t.put p e).put p e' = t.put p e' := by
  refine ext_entries fun q => ?_
  simp only [put, Std.ExtTreeMap.getElem?_insert]
  split <;> rfl

end FileTree

namespace Writer

open FileTree

variable {t : FileTree} {w : Writer}

/-- A writer comes from one tree and stage to others by steps of its own. -/
def Reaches (w : Writer) : FileTree × Stage → FileTree × Stage → Prop :=
  Relation.ReflTransGen fun a b => Writer.step a.1 { w with stage := a.2 } = b

/-- Making directories from the last one upwards. -/
theorem reaches_makeUp (t : FileTree) (names below : List String) :
    w.Reaches (t, .climbing names below)
      (match makeUp none t names with
        | (t', none) => (t', .descending names.reverse below)
        | (t', some e) => (t', .ended (some e))) := by
  induction names generalizing t below with
  | nil => exact .single rfl
  | cons name above ih =>
    rw [makeUp]
    cases hensure : t.ensureDirectory none (name :: above).reverse with
    | ok t' => exact .single (by simp only [step, hensure])
    | error e =>
      cases e with
      | notFound =>
        -- those above come first, and then this one is tried again
        have hup := ih t (name :: below)
        refine .head (b := (t, .climbing above (name :: below))) (by simp only [step, hensure]) ?_
        rcases hmake : makeUp none t above with ⟨t', _ | e⟩
        · rw [hmake] at hup
          refine hup.trans (.single ?_)
          simp only [step, ← List.reverse_cons]
          cases t'.ensureDirectory none (name :: above).reverse <;> rfl
        · rw [hmake] at hup
          exact hup
      | _ => exact .single (by simp only [step, hensure])

/-- Making the temporary file, filling it and renaming it. -/
theorem reaches_replaceFile {dir : Place} (hwalk : t.walk w.target.parent = .ok dir)
    (hne : w.target ≠ []) :
    w.Reaches (t, .opening)
      ((replaceFile none t dir w.target.name w.content).1,
        .ended (replaceFile none t dir w.target.name w.content).2) := by
  have hempty : w.target.isEmpty = false := by simpa using hne
  simp only [replaceFile]
  cases hfresh : t.freshPlace dir w.target.name with
  | error e => exact .single (by simp [step, openTemporary, hwalk, hempty, hfresh])
  | ok temporary =>
    obtain ⟨hplaced, hnone⟩ := entry?_freshPlace hfresh
    -- nobody comes between opening, filling and placing the temporary file
    refine .head (b := (t.put temporary (.file .empty), .filling temporary))
      (by simp [step, openTemporary, hwalk, hempty, hfresh]) ?_
    refine .head (b := (t.put temporary (.file w.content), .placing temporary))
      (by simp only [step, put_put]) ?_
    have hwalk' : walk (t.put temporary (.file w.content)) w.target.parent = .ok dir := by
      refine walkFrom_mono (fun q hq => ?_) hwalk
      rw [entry?_put hplaced, if_neg, hq]
      rintro rfl
      rw [hnone] at hq
      cases hq
    simp only [fillTemporary]
    cases hrename : renameTo none (t.put temporary (.file w.content)) temporary dir w.target.name
        w.content with
    | ok t' => exact .single (by simp only [step, hwalk', hrename])
    | error e =>
      refine .head (b := (t.put temporary (.file w.content), .discarding temporary e))
        (by simp only [step, hwalk', hrename]) ?_
      exact .single rfl

/-- A writer that is left to itself does what `FileTree.write` does. -/
theorem reaches_write (t : FileTree) (target : Place) (content : ByteArray) :
    (start target content).Reaches (t, (start target content).stage)
      ((t.write none target content).1, .ended (t.write none target content).2) := by
  have hup := reaches_makeUp (w := start target content) t target.parent.reverse []
  rw [write, makeDirectories]
  rcases hmake : makeUp none t target.parent.reverse with ⟨t', _ | e⟩
  · rw [hmake] at hup
    refine hup.trans (.head (b := (t', .opening)) rfl ?_)
    dsimp only
    cases hwalk : t'.walk target.parent with
    | error e => exact .single (by simp only [step, openTemporary, start, hwalk])
    | ok dir =>
      by_cases hempty : target.isEmpty = true
      · simp only [hempty, if_true]
        exact .single (by simp only [step, openTemporary, start, hwalk, hempty, if_true])
      · have hne : target ≠ [] := by simpa using hempty
        simp only [hempty]
        exact reaches_replaceFile (w := start target content) hwalk hne
  · rw [hmake] at hup
    exact hup

/-! ### Coming to an end -/

@[simp] theorem ended?_eq_some {error : Option FileError} :
    w.ended? = some error ↔ w.stage = .ended error := by
  unfold ended?
  cases w.stage <;> simp

/-- A writer that is done leaves the tree alone. -/
theorem eq_of_reaches {error : Option FileError} {b : FileTree × Stage}
    (h : w.Reaches (t, .ended error) b) : b = (t, .ended error) := by
  induction h with
  | refl => rfl
  | tail _ hstep ih =>
    rw [← hstep, ih]
    rfl

/-- A bound on the steps that are left. -/
def Stage.left : Stage → Nat
  | .climbing names below => 2 * names.length + below.length + 6
  | .descending _ below => below.length + 5
  | .opening => 4
  | .filling _ => 3
  | .placing _ => 2
  | .discarding _ _ => 1
  | .ended _ => 0

/-- Every step brings a writer nearer to its end, whatever others have done to the tree. -/
theorem left_step (h : w.ended? = none) : (w.step t).2.left < w.stage.left := by
  -- on the way a name is used up, and every other step reaches a later stage
  unfold step
  split
  next hstage =>
    rw [hstage]
    simp [Stage.left]
  next name above below hstage =>
    rw [hstage]
    split <;> simp only [Stage.left, List.length_cons] <;> omega
  next hstage =>
    rw [hstage]
    simp [Stage.left]
  next name below hstage =>
    rw [hstage]
    split <;> simp only [Stage.left, List.length_cons] <;> omega
  next hstage =>
    rw [hstage, openTemporary]
    split
    · simp [Stage.left]
    · split
      · simp [Stage.left]
      · split <;> simp [Stage.left]
  next hstage =>
    rw [hstage]
    simp [Stage.left]
  next temporary hstage =>
    rw [hstage]
    split
    · simp [Stage.left]
    · split <;> simp [Stage.left]
  next hstage =>
    rw [hstage]
    simp [Stage.left]
  next error hstage =>
    rw [ended?, hstage] at h
    cases h

end Writer

end Scaffold
