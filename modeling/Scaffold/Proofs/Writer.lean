import Scaffold.Proofs.FileTree.Making
import Scaffold.Proofs.FileTree.Rewrite
import Scaffold.Writer

/-!
# What a writer does

Whether a writer succeeds is known before it begins: `writeFault?` says what keeps a file from being
written, and as long as others leave the way to it alone (`Seen`), nothing else does. `Sound` says
what a writer has done at each stage, and `Effect` what one of its steps does to the tree that it
shares with others: it makes directories on its way, works on its own temporary file, and puts the
file at its place.
-/

namespace Scaffold

namespace FileTree

/-- Why a file cannot be written, if so: its directory cannot be made, no temporary file can be made
in it, or there is a directory at its place. -/
def writeFault? (t : FileTree) (p : Place) : Option FileError :=
  match t.wayFault? p.parent, temporaryFault? p.parent p.name with
  | some e, _ => some e
  | none, some e => some e
  | none, none => if t.entry? p = some .directory then some .isDirectory else none

/-- Two trees look the same to one who writes a file: there are files at the same steps of the way,
and a directory at its place or not. -/
structure Seen (t₀ t : FileTree) (p : Place) : Prop where
  files : ∀ q, q <+: p.parent → t.hasFile q = t₀.hasFile q
  directory : t.entry? p = some .directory ↔ t₀.entry? p = some .directory

theorem writeFault?_of_wayFault? {t : FileTree} {p : Place} {e : FileError}
    (h : t.wayFault? p.parent = some e) : t.writeFault? p = some e := by
  rw [writeFault?, h]

theorem writeFault?_of_temporaryFault? {t : FileTree} {p : Place} {e : FileError}
    (hfree : t.wayFault? p.parent = none) (h : temporaryFault? p.parent p.name = some e) :
    t.writeFault? p = some e := by
  rw [writeFault?, hfree, h]

theorem writeFault?_of_free {t : FileTree} {p : Place} (hfree : t.wayFault? p.parent = none)
    (h : temporaryFault? p.parent p.name = none) :
    t.writeFault? p = if t.entry? p = some .directory then some .isDirectory else none := by
  rw [writeFault?, hfree, h]

theorem Seen.wayFault?_eq {t₀ t : FileTree} {p : Place} (h : Seen t₀ t p) :
    t.wayFault? p.parent = t₀.wayFault? p.parent := wayFault?_congr h.files

end FileTree

namespace Writer

open FileTree

variable {t₀ t t' : FileTree} {w : Writer}

/-- The temporary file of a stage. -/
def Stage.temporary? : Stage → Option Place
  | .filling temporary => some temporary
  | .placing temporary => some temporary
  | .discarding temporary _ => some temporary
  | _ => none

/-- A writer whose place is no root and whose directory has short names. -/
structure IsPlain (w : Writer) : Prop where
  placed : w.target ≠ []
  dots : ".." ∉ w.target
  way : w.target.parent.IsShort

/-- There is a temporary file for a place, in the directory of the place. -/
structure Holds (t₀ t : FileTree) (target temporary : Place) : Prop where
  free : t₀.wayFault? target.parent = none
  named : temporaryFault? target.parent target.name = none
  directory : t.entry? target.parent = some .directory
  place : ∃ k, temporary = target.parent ++ [temporaryName target.name k]
  new : t₀.entry? temporary = none
  file : t.hasFile temporary = true

/-- What a writer that began on one tree has done when the tree has become another. -/
def Sound (t₀ t : FileTree) (w : Writer) : Prop :=
  match w.stage with
  | .climbing names below =>
    names.reverse ++ below = w.target.parent
      ∧ (below ≠ [] → t₀.wayFault? w.target.parent = none)
  | .descending here below =>
    here ++ below = w.target.parent ∧ t₀.wayFault? w.target.parent = none
      ∧ t.entry? here = some .directory
  | .opening =>
    t₀.wayFault? w.target.parent = none ∧ t.entry? w.target.parent = some .directory
  | .filling temporary => Holds t₀ t w.target temporary
  | .placing temporary =>
    Holds t₀ t w.target temporary ∧ t.entry? temporary = some (.file w.content)
  | .discarding temporary e => Holds t₀ t w.target temporary ∧ t₀.writeFault? w.target = some e
  | .ended error =>
    error = t₀.writeFault? w.target
      ∧ (t₀.wayFault? w.target.parent = none → t.entry? w.target.parent = some .directory)
      ∧ (error = none → t.entry? w.target = some (.file w.content))

/-- What a step of a writer does to the tree. -/
structure Effect (t₀ t : FileTree) (w : Writer) (t' : FileTree) (stage : Stage) : Prop where
  wellFormed : t'.WellFormed
  directories : ∀ q, t.entry? q = some .directory → t'.entry? q = some .directory
  made : ∀ q, t'.entry? q = some .directory → t.entry? q = some .directory
    ∨ t.entry? q = none ∧ t₀.wayFault? w.target.parent = none ∧ q <+: w.target.parent
  stays : ∀ q e, t.entry? q = some e → q ≠ w.target → w.stage.temporary? ≠ some q →
    t'.entry? q = some e
  target : t'.entry? w.target = t.entry? w.target
    ∨ t₀.writeFault? w.target = none ∧ t'.entry? w.target = some (.file w.content)
  files : ∀ q content, t'.entry? q = some (.file content) →
    (t.entry? q = some (.file content) ∧ w.stage.temporary? ≠ some q)
      ∨ stage.temporary? = some q
      ∨ q = w.target ∧ t₀.writeFault? w.target = none ∧ content = w.content
  temporary : ∀ q, stage.temporary? = some q → w.stage.temporary? = some q ∨ t.entry? q = none

/-! ### Kinds of steps -/

/-- A step that leaves the tree alone. -/
theorem Effect.quiet (hwell : t.WellFormed) {stage : Stage}
    (h : stage.temporary? = w.stage.temporary?) : Effect t₀ t w t stage where
  wellFormed := hwell
  directories _ hq := hq
  made _ hq := .inl hq
  stays _ _ hq _ _ := hq
  target := .inl rfl
  files q content hq := by
    by_cases htemporary : w.stage.temporary? = some q
    · exact .inr (.inl (h.trans htemporary))
    · exact .inl ⟨hq, htemporary⟩
  temporary q hq := .inl (h ▸ hq)

/-- A step that makes a directory. -/
theorem Effect.directory (hwell : t.WellFormed) {stage : Stage} {p : Place} (hp : p ≠ [])
    (hway : p <+: w.target.parent) (htarget : w.target ≠ [])
    (hfree : t₀.wayFault? w.target.parent = none)
    (hnone : t.entry? p = none) (hparent : t.entry? p.parent = some .directory)
    (hbefore : w.stage.temporary? = none) (hafter : stage.temporary? = none) :
    Effect t₀ t w (t.put p .directory) stage where
  wellFormed := hwell.put hp hparent fun _ => rfl
  directories q hq := by
    rw [entry?_put hp]
    split
    · rfl
    · exact hq
  made q hq := by
    rw [entry?_put hp] at hq
    split at hq
    next heq => exact .inr ⟨heq ▸ hnone, hfree, heq ▸ hway⟩
    next => exact .inl hq
  stays q e hq _ _ := by
    rw [entry?_put hp, if_neg, hq]
    rintro rfl
    rw [hnone] at hq
    cases hq
  target := by
    -- the place of the file is below all directories that are made for it
    rw [entry?_put hp, if_neg]
    · exact .inl rfl
    · intro heq
      exact Place.not_prefix_parent htarget (heq ▸ hway)
  files q content hq := by
    rw [entry?_put hp] at hq
    split at hq
    · cases hq
    · exact .inl ⟨hq, by rw [hbefore]; nofun⟩
  temporary q hq := by
    rw [hafter] at hq
    cases hq

/-- A step that puts bytes into the temporary file. -/
theorem Effect.filled (hwell : t.WellFormed) {stage : Stage} {temporary : Place}
    {content : ByteArray} (hne : temporary ≠ []) (hother : temporary ≠ w.target)
    (hparent : t.entry? temporary.parent = some .directory)
    (hnot : t.entry? temporary ≠ some .directory)
    (hown : w.stage.temporary? = some temporary
      ∨ w.stage.temporary? = none ∧ t.entry? temporary = none)
    (hafter : stage.temporary? = some temporary) :
    Effect t₀ t w (t.put temporary (.file content)) stage where
  wellFormed := hwell.put hne hparent fun hdir => absurd hdir hnot
  directories q hq := by
    rw [entry?_put hne, if_neg, hq]
    rintro rfl
    exact hnot hq
  made q hq := by
    rw [entry?_put hne] at hq
    split at hq
    · cases hq
    · exact .inl hq
  stays q e hq _ htemporary := by
    rw [entry?_put hne, if_neg, hq]
    rintro rfl
    rcases hown with hown | ⟨-, hnone⟩
    · exact htemporary hown
    · rw [hnone] at hq
      cases hq
  target := .inl (by rw [entry?_put hne, if_neg (Ne.symm hother)])
  -- the temporary file is the only one that was not there before
  files q content' hq := by
    rw [entry?_put hne] at hq
    split at hq
    next heq => exact .inr (.inl (heq ▸ hafter))
    next hne' =>
      refine .inl ⟨hq, fun htemporary => ?_⟩
      rcases hown with hown | ⟨hown, -⟩
      · exact hne' (Option.some.inj (htemporary.symm.trans hown))
      · rw [hown] at htemporary
        cases htemporary
  temporary q hq := by
    obtain rfl : temporary = q := Option.some.inj (hafter.symm.trans hq)
    exact hown.imp id And.right

/-- A step that takes the temporary file away. -/
theorem Effect.discarded (hwell : t.WellFormed) {stage : Stage} {temporary : Place}
    (hne : temporary ≠ []) (hother : temporary ≠ w.target)
    (hnot : t.entry? temporary ≠ some .directory)
    (hown : w.stage.temporary? = some temporary) (hafter : stage.temporary? = none) :
    Effect t₀ t w (t.erase temporary) stage where
  wellFormed := hwell.erase hne hnot
  directories q hq := by
    rw [entry?_erase hne, if_neg, hq]
    rintro rfl
    exact hnot hq
  made q hq := by
    rw [entry?_erase hne] at hq
    split at hq
    · cases hq
    · exact .inl hq
  -- only the own temporary file goes
  stays q e hq _ htemporary := by
    rw [entry?_erase hne, if_neg, hq]
    rintro rfl
    exact htemporary hown
  target := .inl (by rw [entry?_erase hne, if_neg (Ne.symm hother)])
  files q content hq := by
    rw [entry?_erase hne] at hq
    split at hq
    · cases hq
    next hne' =>
      exact .inl ⟨hq, fun htemporary => hne' (Option.some.inj (htemporary.symm.trans hown))⟩
  temporary q hq := by
    rw [hafter] at hq
    cases hq

/-- A step that puts the file at its place after that. -/
theorem Effect.placed {stage : Stage} (h : Effect t₀ t w t' stage) (hplain : w.IsPlain)
    (hparent : t'.entry? w.target.parent = some .directory)
    (hnot : t'.entry? w.target ≠ some .directory) (hfault : t₀.writeFault? w.target = none)
    (hafter : stage.temporary? = none) :
    Effect t₀ t w (t'.put w.target (.file w.content)) stage where
  wellFormed := h.wellFormed.put hplain.placed hparent fun hdir => absurd hdir hnot
  directories q hq := by
    have hdir := h.directories q hq
    rw [entry?_put hplain.placed, if_neg, hdir]
    rintro rfl
    exact hnot hdir
  made q hq := by
    rw [entry?_put hplain.placed] at hq
    split at hq
    · cases hq
    · exact h.made q hq
  stays q e hq hother htemporary := by
    rw [entry?_put hplain.placed, if_neg hother]
    exact h.stays q e hq hother htemporary
  -- from now on the content is at the target
  target := .inr ⟨hfault, by rw [entry?_put hplain.placed, if_pos rfl]⟩
  files q content hq := by
    rw [entry?_put hplain.placed] at hq
    split at hq
    next heq =>
      cases hq
      exact .inr (.inr ⟨heq, hfault, rfl⟩)
    next => exact h.files q content hq
  temporary q hq := by
    rw [hafter] at hq
    cases hq

/-! ### Steps -/

/-- A step has an effect of its own, and keeps the writer sound. -/
def Advances (t₀ t : FileTree) (w : Writer) (r : FileTree × Stage) : Prop :=
  Effect t₀ t w r.1 r.2 ∧ Sound t₀ r.1 { w with stage := r.2 }

theorem IsPlain.temporary_ne (hplain : w.IsPlain) {temporary : Place}
    (h : ∃ k, temporary = w.target.parent ++ [temporaryName w.target.name k]) :
    temporary ≠ [] ∧ temporary.parent = w.target.parent ∧ temporary ≠ w.target := by
  obtain ⟨k, rfl⟩ := h
  refine ⟨by simp, List.dropLast_concat, fun heq => temporaryName_ne w.target.name k ?_⟩
  have hnames := heq.trans (Place.parent_append_name hplain.placed).symm
  simpa using hnames

section steps

variable (hwell : t.WellFormed) (hseen : Seen t₀ t w.target) (hplain : w.IsPlain)

include hwell hplain

include hseen in
/-- An attempt to make a directory on the way makes it or finds it there, unless the one above it
is missing. -/
theorem attempt (hfree : t₀.wayFault? w.target.parent = none) {p : Place}
    (hway : p <+: w.target.parent) (hp : p ≠ []) (hbefore : w.stage.temporary? = none) :
    (∃ t', t.ensureDirectory none p = .ok t' ∧ t'.entry? p = some .directory
        ∧ ∀ stage : Stage, stage.temporary? = none → Effect t₀ t w t' stage)
      ∨ t.ensureDirectory none p = .error .notFound ∧ t.entry? p.parent ≠ some .directory := by
  have hshort := hplain.way.of_prefix hway
  have hclear := wayFault?_of_prefix hplain.way (hseen.wayFault?_eq.trans hfree) hway
  rw [ensureDirectory_eq_of_free hwell hshort hp hclear]
  -- another writer may have made the directory meanwhile, or the one above it
  by_cases hdir : t.entry? p = some .directory
  · rw [if_pos hdir]
    exact .inl ⟨t, rfl, hdir, fun stage hafter => .quiet hwell (hafter.trans hbefore.symm)⟩
  · rw [if_neg hdir]
    by_cases hparent : t.entry? p.parent = some .directory
    · have hnone : t.entry? p = none := by
        have hfile := isBlocked_eq_false_iff.mp ((wayFault?_eq_none_iff hshort).mp hclear).2 p
          (List.prefix_refl p)
        cases hentry : t.entry? p with
        | none => rfl
        | some e =>
          cases e with
          | directory => exact absurd hentry hdir
          | file content =>
            rw [hasFile_iff.mpr ⟨content, hentry⟩] at hfile
            cases hfile
      rw [if_pos hparent]
      refine .inl ⟨_, rfl, by rw [entry?_put hp, if_pos rfl], fun stage hafter => ?_⟩
      exact .directory hwell hp hway hplain.placed hfree hnone hparent hbefore hafter
    · rw [if_neg hparent]
      exact .inr ⟨rfl, hparent⟩

include hseen in
theorem advances_climbing {names below : List String} (hstage : w.stage = .climbing names below)
    (hsound : w.Sound t₀ t) : Advances t₀ t w (w.step t) := by
  have hbefore : w.stage.temporary? = none := by rw [hstage]; rfl
  rw [Sound, hstage] at hsound
  obtain ⟨hway, hbelow⟩ := hsound
  cases names with
  | nil =>
    rw [step, hstage]
    refine ⟨.quiet hwell hbefore.symm, hway, ?_, entry?_nil t⟩
    dsimp only
    by_cases hnil : below = []
    · subst hnil
      rw [← hway]
      exact wayFault?_nil t₀
    · exact hbelow hnil
  | cons name above =>
    have hp : (name :: above).reverse ≠ [] := by simp
    have hprefix : (name :: above).reverse <+: w.target.parent := ⟨below, hway⟩
    cases hfault : t₀.wayFault? w.target.parent with
    | none =>
      rw [step, hstage]
      rcases attempt hwell hseen hplain hfault hprefix hp hbefore with
        ⟨t', hensure, hdir, heffect⟩ | ⟨hensure, -⟩
      · simp only [hensure]
        exact ⟨heffect _ rfl, hway, hfault, hdir⟩
      · simp only [hensure]
        refine ⟨.quiet hwell hbefore.symm, ?_, fun _ => hfault⟩
        rw [← hway, List.reverse_cons, List.append_assoc]
        rfl
    | some e =>
      -- the way is not free, so that this is the first attempt
      have hnil : below = [] := by
        by_contra hnil
        rw [hbelow hnil] at hfault
        cases hfault
      rw [hnil, List.append_nil] at hway
      obtain ⟨hensure, hne⟩ :=
        ensureDirectory_eq_error hwell hplain.way (hseen.wayFault?_eq.trans hfault)
      have hstep : w.step t = (t, .ended (some e)) := by
        rw [step, hstage]
        dsimp only
        rw [hway, hensure]
        cases e <;> first | rfl | exact absurd rfl hne
      rw [hstep]
      refine ⟨.quiet hwell hbefore.symm, (writeFault?_of_wayFault? hfault).symm, fun hfree => ?_,
        nofun⟩
      rw [hfault] at hfree
      cases hfree

include hseen in
theorem advances_descending {here : Place} {below : List String}
    (hstage : w.stage = .descending here below) (hsound : w.Sound t₀ t) :
    Advances t₀ t w (w.step t) := by
  have hbefore : w.stage.temporary? = none := by rw [hstage]; rfl
  rw [Sound, hstage] at hsound
  obtain ⟨hway, hfree, hdir⟩ := hsound
  cases below with
  | nil =>
    rw [step, hstage]
    rw [List.append_nil] at hway
    exact ⟨.quiet hwell hbefore.symm, hfree, hway ▸ hdir⟩
  | cons name below =>
    have hprefix : here ++ [name] <+: w.target.parent := ⟨below, by rw [← hway]; simp⟩
    have hparent : Place.parent (here ++ [name]) = here := List.dropLast_concat
    rw [step, hstage]
    rcases attempt hwell hseen hplain hfree hprefix (by simp) hbefore with
      ⟨t', hensure, hmade, heffect⟩ | ⟨-, hmissing⟩
    · simp only [hensure]
      exact ⟨heffect _ rfl, by rw [← hway]; simp, hfree, hmade⟩
    · rw [hparent] at hmissing
      exact absurd hdir hmissing

theorem advances_opening (hpersists : ∀ q, t.entry? q = none → t₀.entry? q = none)
    (hstage : w.stage = .opening) (hsound : w.Sound t₀ t) : Advances t₀ t w (w.step t) := by
  have hbefore : w.stage.temporary? = none := by rw [hstage]; rfl
  rw [Sound, hstage] at hsound
  obtain ⟨hfree, hdir⟩ := hsound
  have hempty : w.target.isEmpty = false := by simpa using hplain.placed
  rw [step, hstage]
  dsimp only
  rw [openTemporary, walk_eq_ok_of_directory hwell hplain.way hdir]
  simp only [hempty, Bool.false_eq_true, if_false]
  -- whether a temporary file can be opened does not depend on the other writers
  cases hfault : temporaryFault? w.target.parent w.target.name with
  | some e =>
    rw [freshPlace_eq_error hfault]
    exact ⟨.quiet hwell hbefore.symm, (writeFault?_of_temporaryFault? hfree hfault).symm,
      fun _ => hdir, nofun⟩
  | none =>
    obtain ⟨temporary, hfrom⟩ := exists_freshFrom t w.target.parent w.target.name
    have hfresh := freshPlace_eq_ok.mpr ⟨hfault, hfrom⟩
    rw [hfresh]
    obtain ⟨-, hnone⟩ := entry?_freshPlace hfresh
    have hplace := exists_eq_of_freshFrom hfrom
    obtain ⟨hne, hparent, hother⟩ := hplain.temporary_ne hplace
    have heffect : Effect t₀ t w (t.put temporary (.file .empty)) (.filling temporary) :=
      .filled hwell hne hother (hparent ▸ hdir) (by rw [hnone]; nofun) (.inr ⟨hbefore, hnone⟩) rfl
    refine ⟨heffect, hfree, hfault, heffect.directories _ hdir, hplace, hpersists _ hnone, ?_⟩
    exact hasFile_iff.mpr ⟨_, by rw [entry?_put hne, if_pos rfl]⟩

theorem advances_filling {temporary : Place} (hstage : w.stage = .filling temporary)
    (hsound : w.Sound t₀ t) : Advances t₀ t w (w.step t) := by
  rw [Sound, hstage] at hsound
  obtain ⟨hne, hparent, hother⟩ := hplain.temporary_ne hsound.place
  obtain ⟨written, hwritten⟩ := hasFile_iff.mp hsound.file
  have hnot : t.entry? temporary ≠ some .directory := by simp [hwritten]
  rw [step, hstage]
  have heffect : Effect t₀ t w (t.put temporary (.file w.content)) (.placing temporary) :=
    .filled hwell hne hother (hparent ▸ hsound.directory) hnot (.inl (by rw [hstage]; rfl)) rfl
  have hfull : entry? (t.put temporary (.file w.content)) temporary = some (.file w.content) := by
    rw [entry?_put hne, if_pos rfl]
  exact ⟨heffect, ⟨hsound.free, hsound.named, heffect.directories _ hsound.directory, hsound.place,
    hsound.new, hasFile_iff.mpr ⟨_, hfull⟩⟩, hfull⟩

include hseen in
theorem advances_placing {temporary : Place} (hstage : w.stage = .placing temporary)
    (hsound : w.Sound t₀ t) : Advances t₀ t w (w.step t) := by
  rw [Sound, hstage] at hsound
  obtain ⟨hholds, hfull⟩ := hsound
  obtain ⟨hne, -, hother⟩ := hplain.temporary_ne hholds.place
  have hbefore : w.stage.temporary? = some temporary := by rw [hstage]; rfl
  have hname := Place.name_ne_dots hplain.dots hplain.placed
  have hfault := writeFault?_of_free hholds.free hholds.named
  have hwalk := walk_eq_ok_of_directory hwell hplain.way hholds.directory
  -- a directory at the target has been there from the start, which foretells the fault
  by_cases hdir : t.entry? w.target = some .directory
  · rw [if_pos (hseen.directory.mp hdir)] at hfault
    have hstep : w.step t = (t, .discarding temporary .isDirectory) := by
      simp [step, hstage, hwalk, renameTo, hname, Place.parent_append_name hplain.placed, hdir]
    rw [hstep]
    exact ⟨.quiet hwell hbefore.symm, hholds, hfault⟩
  · rw [if_neg fun h => hdir (hseen.directory.mpr h)] at hfault
    have hstep : w.step t
        = ((t.erase temporary).put w.target (.file w.content), .ended none) := by
      simp only [step, hstage, hwalk, renameTo, hname, Place.parent_append_name hplain.placed, hdir,
        if_false]
    rw [hstep]
    have hnot : t.entry? temporary ≠ some .directory := by simp [hfull]
    have herased : Effect t₀ t w (t.erase temporary) (.ended none) :=
      .discarded hwell hne hother hnot hbefore rfl
    have htarget : entry? (t.erase temporary) w.target = t.entry? w.target := by
      rw [entry?_erase hne, if_neg (Ne.symm hother)]
    have heffect := herased.placed hplain (herased.directories _ hholds.directory)
      (by rwa [htarget]) hfault rfl
    refine ⟨heffect, hfault.symm, fun _ => heffect.directories _ hholds.directory, fun _ => ?_⟩
    rw [entry?_put hplain.placed, if_pos rfl]

theorem advances_discarding {temporary : Place} {e : FileError}
    (hstage : w.stage = .discarding temporary e) (hsound : w.Sound t₀ t) :
    Advances t₀ t w (w.step t) := by
  rw [Sound, hstage] at hsound
  obtain ⟨hholds, hfault⟩ := hsound
  obtain ⟨hne, -, hother⟩ := hplain.temporary_ne hholds.place
  obtain ⟨written, hwritten⟩ := hasFile_iff.mp hholds.file
  have hnot : t.entry? temporary ≠ some .directory := by simp [hwritten]
  rw [step, hstage]
  have heffect : Effect t₀ t w (t.erase temporary) (.ended (some e)) :=
    .discarded hwell hne hother hnot (by rw [hstage]; rfl) rfl
  exact ⟨heffect, hfault.symm, fun _ => heffect.directories _ hholds.directory, nofun⟩

include hseen in
/-- Every step of a sound writer has the effect of one, and keeps it sound. -/
theorem advances_step (hpersists : ∀ q, t.entry? q = none → t₀.entry? q = none)
    (hsound : w.Sound t₀ t) : Advances t₀ t w (w.step t) := by
  cases hstage : w.stage with
  | climbing names below => exact advances_climbing hwell hseen hplain hstage hsound
  | descending here below => exact advances_descending hwell hseen hplain hstage hsound
  | opening => exact advances_opening hwell hplain hpersists hstage hsound
  | filling temporary => exact advances_filling hwell hplain hstage hsound
  | placing temporary => exact advances_placing hwell hseen hplain hstage hsound
  | discarding temporary e => exact advances_discarding hwell hplain hstage hsound
  | ended error =>
    have hstep : w.step t = (t, w.stage) := by rw [step, hstage]
    rw [hstep]
    exact ⟨.quiet hwell rfl, hsound⟩

end steps

end Writer

end Scaffold
