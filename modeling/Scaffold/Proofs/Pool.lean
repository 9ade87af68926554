import Scaffold.Proofs.Writer

/-!
# Writers that share a tree

Writers can work on one tree at the same time when their places are a `Territory`: none is above
another, and no temporary file is on the way to a place. `Pool` says how the tree then differs from
the one that they all began on. It is an invariant of every step of every writer (`Pool.step`), and
when all writers are done it leaves only one tree (`Pool.eq_of_ended`), so that the order of the
steps does not matter.
-/

namespace Scaffold

open FileTree

/-- Places at which files can be written at the same time. -/
structure Territory (places : List Place) : Prop where
  placed : ∀ p ∈ places, p ≠ []
  dots : ∀ p ∈ places, ".." ∉ p
  way : ∀ p ∈ places, p.parent.IsShort
  apart : ∀ p ∈ places, ∀ q ∈ places, p <+: q → p = q
  temporaries : ∀ p ∈ places, ∀ q ∈ places, ∀ k, ¬p.parent ++ [temporaryName p.name k] <+: q

/-- Two writers have different places, and different temporary files. -/
def Writer.ApartFrom (w v : Writer) : Prop :=
  w.target ≠ v.target ∧ ∀ q, w.stage.temporary? = some q → v.stage.temporary? ≠ some q

/-- What a tree has become while writers work on it. -/
structure Pool (places : List Place) (t₀ t : FileTree) (writers : List Writer) : Prop where
  wellFormed : t.WellFormed
  directories : ∀ q, t₀.entry? q = some .directory → t.entry? q = some .directory
  made : ∀ q, t.entry? q = some .directory → t₀.entry? q = some .directory
    ∨ t₀.entry? q = none
      ∧ ∃ w ∈ writers, t₀.wayFault? w.target.parent = none ∧ q <+: w.target.parent
  kept : ∀ q content, t₀.entry? q = some (.file content) → t.entry? q = some (.file content)
    ∨ ∃ w ∈ writers, w.target = q ∧ t₀.writeFault? q = none ∧ t.entry? q = some (.file w.content)
  files : ∀ q content, t.entry? q = some (.file content) → t₀.entry? q = some (.file content)
    ∨ (∃ w ∈ writers, w.target = q ∧ t₀.writeFault? q = none ∧ content = w.content)
    ∨ ∃ w ∈ writers, w.stage.temporary? = some q
  within : ∀ w ∈ writers, w.target ∈ places
  sound : ∀ w ∈ writers, w.Sound t₀ t
  apart : writers.Pairwise Writer.ApartFrom

variable {places : List Place} {t₀ t t' : FileTree} {w : Writer} {writers writers' : List Writer}

namespace Writer

theorem ApartFrom.symm {w v : Writer} (h : w.ApartFrom v) : v.ApartFrom w :=
  ⟨h.1.symm, fun q hv hw => h.2 q hw hv⟩

theorem isPlain_of_mem (hplaces : Territory places) (h : w.target ∈ places) : w.IsPlain :=
  ⟨hplaces.placed _ h, hplaces.dots _ h, hplaces.way _ h⟩

/-- A sound writer has its temporary file. -/
theorem Sound.holds (h : w.Sound t₀ t) {q : Place} (htemporary : w.stage.temporary? = some q) :
    Holds t₀ t w.target q := by
  unfold Sound at h
  cases hstage : w.stage with
  | filling temporary =>
    rw [hstage] at h htemporary
    cases htemporary
    exact h
  | placing temporary =>
    rw [hstage] at h htemporary
    cases htemporary
    exact h.1
  | discarding temporary e =>
    rw [hstage] at h htemporary
    cases htemporary
    exact h.1
  | _ =>
    rw [hstage] at htemporary
    cases htemporary

theorem Holds.mono {target temporary : Place} (h : Holds t₀ t target temporary)
    (hdirectories : ∀ q, t.entry? q = some .directory → t'.entry? q = some .directory)
    (hstays : ∀ e, t.entry? temporary = some e → t'.entry? temporary = some e) :
    Holds t₀ t' target temporary := by
  obtain ⟨content, hfile⟩ := hasFile_iff.mp h.file
  exact ⟨h.free, h.named, hdirectories _ h.directory, h.place, h.new,
    hasFile_iff.mpr ⟨content, hstays _ hfile⟩⟩

/-- A writer stays sound as long as directories and what it has written stay. -/
theorem Sound.mono (h : w.Sound t₀ t)
    (hdirectories : ∀ q, t.entry? q = some .directory → t'.entry? q = some .directory)
    (htemporary : ∀ q e, w.stage.temporary? = some q → t.entry? q = some e → t'.entry? q = some e)
    (htarget : ∀ e, t.entry? w.target = some e → t'.entry? w.target = some e) :
    w.Sound t₀ t' := by
  unfold Sound at h ⊢
  -- a stage speaks of directories, the target and the own temporary file only
  cases hstage : w.stage with
  | climbing names below =>
    rw [hstage] at h
    exact h
  | descending here below =>
    rw [hstage] at h
    exact ⟨h.1, h.2.1, hdirectories _ h.2.2⟩
  | opening =>
    rw [hstage] at h
    exact ⟨h.1, hdirectories _ h.2⟩
  | filling temporary =>
    rw [hstage] at h htemporary
    exact h.mono hdirectories fun e => htemporary temporary e rfl
  | placing temporary =>
    rw [hstage] at h htemporary
    exact ⟨h.1.mono hdirectories fun e => htemporary temporary e rfl, htemporary _ _ rfl h.2⟩
  | discarding temporary e =>
    rw [hstage] at h htemporary
    exact ⟨h.1.mono hdirectories fun e => htemporary temporary e rfl, h.2⟩
  | ended error =>
    rw [hstage] at h
    exact ⟨h.1, fun hfree => hdirectories _ (h.2.1 hfree), fun hnone => htarget _ (h.2.2 hnone)⟩

theorem sound_start (t₀ t : FileTree) (target : Place) (content : ByteArray) :
    (start target content).Sound t₀ t := by
  refine ⟨?_, fun h => absurd rfl h⟩
  rw [List.reverse_reverse, List.append_nil]
  rfl

end Writer

namespace Pool

/-- Nothing has been written yet. -/
theorem initial (hwell : t₀.WellFormed) : Pool places t₀ t₀ [] :=
  ⟨hwell, fun _ h => h, fun _ h => .inl h, fun _ _ h => .inl h, fun _ _ h => .inl h, nofun, nofun,
    .nil⟩

theorem perm (h : Pool places t₀ t writers) (hperm : writers.Perm writers') :
    Pool places t₀ t writers' where
  wellFormed := h.wellFormed
  directories := h.directories
  made q hq := by simpa only [hperm.mem_iff] using h.made q hq
  kept q content hq := by simpa only [hperm.mem_iff] using h.kept q content hq
  files q content hq := by simpa only [hperm.mem_iff] using h.files q content hq
  within w hw := h.within w (hperm.mem_iff.mpr hw)
  sound w hw := h.sound w (hperm.mem_iff.mpr hw)
  apart := hperm.pairwise h.apart Writer.ApartFrom.symm

/-- What was there at the beginning is still something. -/
theorem persists (h : Pool places t₀ t writers) {q : Place} (hq : t.entry? q = none) :
    t₀.entry? q = none := by
  cases hentry : t₀.entry? q with
  | none => rfl
  | some e =>
    cases e with
    | directory =>
      rw [h.directories q hentry] at hq
      cases hq
    | file content =>
      rcases h.kept q content hentry with hkept | ⟨w, -, -, -, hwritten⟩
      · rw [hkept] at hq
        cases hq
      · rw [hwritten] at hq
        cases hq

/-- A temporary file is not on the way to any place. -/
theorem not_prefix_of_temporary (h : Pool places t₀ t writers) (hplaces : Territory places)
    (hw : w ∈ writers) {q p : Place} (htemporary : w.stage.temporary? = some q) (hp : p ∈ places) :
    ¬q <+: p := by
  obtain ⟨k, rfl⟩ := ((h.sound w hw).holds htemporary).place
  exact hplaces.temporaries _ (h.within w hw) p hp k

/-- The way to a place looks as it did at the beginning. -/
theorem seen (h : Pool places t₀ t writers) (hplaces : Territory places) {p : Place}
    (hp : p ∈ places) : Seen t₀ t p where
  files q hq := by
    have hqp := hq.trans p.parent_prefix
    rw [Bool.eq_iff_iff, hasFile_iff, hasFile_iff]
    constructor
    · rintro ⟨content, hfile⟩
      rcases h.files q content hfile with hold | ⟨w, hw, rfl, -⟩ | ⟨w, hw, htemporary⟩
      · exact ⟨content, hold⟩
      · obtain heq := hplaces.apart _ (h.within w hw) p hp hqp
        exact absurd (heq ▸ hq) (Place.not_prefix_parent (hplaces.placed p hp))
      · exact absurd hqp (h.not_prefix_of_temporary hplaces hw htemporary hp)
    · rintro ⟨content, hfile⟩
      rcases h.kept q content hfile with hkept | ⟨w, -, -, -, hwritten⟩
      · exact ⟨content, hkept⟩
      · exact ⟨_, hwritten⟩
  directory := by
    refine ⟨fun hdir => ?_, h.directories p⟩
    rcases h.made p hdir with hold | ⟨-, w, hw, -, hway⟩
    · exact hold
    · obtain rfl := hplaces.apart p hp _ (h.within w hw) (hway.trans (Place.parent_prefix _))
      exact absurd hway (Place.not_prefix_parent (hplaces.placed _ hp))

/-! ### What others see -/

/-- A file that is at no place of a writer is found as it was. -/
theorem find_file (h : Pool places t₀ t writers) {p : Place} {content : ByteArray}
    (hfile : t₀.find p = .ok (.file content)) (hp : p.settled ∉ places) :
    t.find p = .ok (.file content) := by
  refine find_file_mono hfile h.directories fun hentry => ?_
  rcases h.kept _ _ hentry with hkept | ⟨w, hw, heq, -⟩
  · exact hkept
  · exact absurd (heq ▸ h.within w hw) hp

/-- At a place that no writer works at, above or below, there is something if there was. -/
theorem entry?_eq_none_iff (h : Pool places t₀ t writers) {p : Place}
    (haside : ∀ w ∈ writers, ¬p <+: w.target ∧ ¬w.target.parent <+: p) :
    t.entry? p = none ↔ t₀.entry? p = none := by
  refine ⟨h.persists, fun hnone => ?_⟩
  cases hentry : t.entry? p with
  | none => rfl
  | some e =>
    cases e with
    | directory =>
      rcases h.made p hentry with hold | ⟨-, w, hw, -, hway⟩
      · rw [hold] at hnone
        cases hnone
      · exact absurd (hway.trans (Place.parent_prefix _)) (haside w hw).1
    | file content =>
      rcases h.files p content hentry with hold | ⟨w, hw, rfl, -⟩ | ⟨w, hw, htemporary⟩
      · rw [hold] at hnone
        cases hnone
      · exact absurd (List.prefix_refl _) (haside w hw).1
      · -- a temporary file is in the directory of its writer
        obtain ⟨k, rfl⟩ := ((h.sound w hw).holds htemporary).place
        exact absurd (List.prefix_append _ _) (haside w hw).2

/-- So the system sees such a place as it did. -/
theorem contains_eq (h : Pool places t₀ t writers) (hwell : t₀.WellFormed) {p : Place}
    (hp : p.IsShort) (haside : ∀ w ∈ writers, ¬p <+: w.target ∧ ¬w.target.parent <+: p) :
    t.contains p = t₀.contains p ∧ t.isUnreachable p = t₀.isUnreachable p := by
  constructor
  · rw [Bool.eq_iff_iff, contains_iff_of_isShort h.wellFormed hp, contains_iff_of_isShort hwell hp,
      Ne, Ne, h.entry?_eq_none_iff haside]
  · rw [isUnreachable_eq_of_isShort h.wellFormed hp, isUnreachable_eq_of_isShort hwell hp]

/-! ### Steps -/

/-- What is at a place stays there, unless a writer works on that place or has its temporary file
there. -/
theorem stays_of_other (h : Pool places t₀ t (w :: writers)) (hplaces : Territory places)
    {stage : Writer.Stage} (heffect : w.Effect t₀ t t' stage) {v : Writer} (hv : v ∈ writers)
    {q : Place} (hq : v.target = q ∨ v.stage.temporary? = some q) {e : Entry}
    (hentry : t.entry? q = some e) : t'.entry? q = some e := by
  obtain ⟨htarget, htemporary⟩ := (List.pairwise_cons.mp h.apart).1 v hv
  have hw : w.target ∈ places := h.within w List.mem_cons_self
  have hv' : v.target ∈ places := h.within v (List.mem_cons_of_mem _ hv)
  rcases hq with rfl | hq
  · refine heffect.stays _ e hentry (Ne.symm htarget) fun hown => ?_
    exact h.not_prefix_of_temporary hplaces List.mem_cons_self hown hv' (List.prefix_refl _)
  · refine heffect.stays _ e hentry ?_ fun hown => htemporary q hown hq
    rintro rfl
    exact h.not_prefix_of_temporary hplaces (List.mem_cons_of_mem _ hv) hq hw (List.prefix_refl _)

/-- A step of a writer keeps the invariant. -/
theorem step (h : Pool places t₀ t (w :: writers)) (hplaces : Territory places) :
    Pool places t₀ (w.step t).1 ({ w with stage := (w.step t).2 } :: writers) := by
  have hw : w.target ∈ places := h.within w List.mem_cons_self
  obtain ⟨heffect, hsound⟩ := Writer.advances_step h.wellFormed (h.seen hplaces hw)
    (Writer.isPlain_of_mem hplaces hw) (fun _ => h.persists) (h.sound w List.mem_cons_self)
  have hstays {v : Writer} (hv : v ∈ writers) {q : Place}
      (hq : v.target = q ∨ v.stage.temporary? = some q) {e : Entry} (hentry : t.entry? q = some e) :
      entry? (w.step t).1 q = some e := h.stays_of_other hplaces heffect hv hq hentry
  refine ⟨heffect.wellFormed, fun q hq => heffect.directories q (h.directories q hq),
    fun q hq => ?_, fun q content hq => ?_, fun q content hq => ?_, ?_, ?_, ?_⟩
  · simp only [List.exists_mem_cons_iff]
    rcases heffect.made q hq with hold | ⟨hnone, hfree, hway⟩
    · simpa only [List.exists_mem_cons_iff] using h.made q hold
    · exact .inr ⟨h.persists hnone, .inl ⟨hfree, hway⟩⟩
  · simp only [List.exists_mem_cons_iff]
    rcases h.kept q content hq with hkept | ⟨v, hv, rfl, hfault, hwritten⟩
    · by_cases htarget : q = w.target
      · subst htarget
        rcases heffect.target with hsame | ⟨hfault, hwritten⟩
        · exact .inl (hsame.trans hkept)
        · exact .inr (.inl ⟨rfl, hfault, hwritten⟩)
      · refine .inl (heffect.stays q _ hkept htarget fun hown => ?_)
        -- nothing was at the place of the temporary file at the beginning
        have hnew := ((h.sound w List.mem_cons_self).holds hown).new
        rw [hq] at hnew
        cases hnew
    · rcases List.mem_cons.mp hv with rfl | hv
      · rcases heffect.target with hsame | ⟨-, hwritten'⟩
        · exact .inr (.inl ⟨rfl, hfault, hsame.trans hwritten⟩)
        · exact .inr (.inl ⟨rfl, hfault, hwritten'⟩)
      · exact .inr (.inr ⟨v, hv, rfl, hfault, hstays hv (.inl rfl) hwritten⟩)
  · simp only [List.exists_mem_cons_iff]
    rcases heffect.files q content hq with ⟨hold, hother⟩ | htemporary | ⟨rfl, hfault, hwritten⟩
    · have hfiles := h.files q content hold
      simp only [List.exists_mem_cons_iff, hother, false_or] at hfiles
      exact hfiles.imp id (Or.imp id .inr)
    · exact .inr (.inr (.inl htemporary))
    · exact .inr (.inl (.inl ⟨rfl, hfault, hwritten⟩))
  · exact List.forall_mem_cons.mpr ⟨hw, fun v hv => h.within v (List.mem_cons_of_mem _ hv)⟩
  · refine List.forall_mem_cons.mpr ⟨hsound, fun v hv => ?_⟩
    exact (h.sound v (List.mem_cons_of_mem _ hv)).mono heffect.directories
      (fun q e htemporary => hstays hv (.inr htemporary)) fun e => hstays hv (.inl rfl)
  · obtain ⟨hfirst, hrest⟩ := List.pairwise_cons.mp h.apart
    refine List.pairwise_cons.mpr ⟨fun v hv => ⟨(hfirst v hv).1, fun q hq hv' => ?_⟩, hrest⟩
    rcases heffect.temporary q hq with hown | hnone
    · exact (hfirst v hv).2 q hown hv'
    · -- a temporary file is only made where none is
      have hfile := ((h.sound v (List.mem_cons_of_mem _ hv)).holds hv').file
      rw [hasFile, hnone] at hfile
      cases hfile

/-- Writers that have not begun join the others. -/
theorem join (h : Pool places t₀ t writers) {starting : List (Place × ByteArray)}
    (hwithin : ∀ s ∈ starting, s.1 ∈ places) (hnodup : (starting.map (·.1)).Nodup)
    (hother : ∀ s ∈ starting, ∀ w ∈ writers, w.target ≠ s.1) :
    Pool places t₀ t (starting.map (fun s => Writer.start s.1 s.2) ++ writers) where
  wellFormed := h.wellFormed
  directories := h.directories
  made q hq := by
    refine (h.made q hq).imp id fun ⟨hnone, w, hw, hway⟩ => ⟨hnone, w, ?_, hway⟩
    exact List.mem_append_right _ hw
  kept q content hq := by
    refine (h.kept q content hq).imp id fun ⟨w, hw, hwritten⟩ => ⟨w, ?_, hwritten⟩
    exact List.mem_append_right _ hw
  files q content hq := by
    refine (h.files q content hq).imp id (Or.imp ?_ ?_)
    · exact fun ⟨w, hw, hwritten⟩ => ⟨w, List.mem_append_right _ hw, hwritten⟩
    · exact fun ⟨w, hw, htemporary⟩ => ⟨w, List.mem_append_right _ hw, htemporary⟩
  within := List.forall_mem_append.mpr ⟨List.forall_mem_map.mpr hwithin, h.within⟩
  sound := List.forall_mem_append.mpr
    ⟨List.forall_mem_map.mpr fun s _ => Writer.sound_start t₀ t s.1 s.2, h.sound⟩
  apart := by
    refine List.pairwise_append.mpr ⟨?_, h.apart, List.forall_mem_map.mpr fun s hs w hw => ?_⟩
    · exact List.pairwise_map.mpr ((List.pairwise_map.mp hnodup).imp fun hne => ⟨hne, nofun⟩)
    · exact ⟨Ne.symm (hother s hs w hw), nofun⟩

/-! ### The end -/

/-- Writers with the same places and contents. -/
def Covers (writers writers' : List Writer) : Prop :=
  ∀ w ∈ writers, ∃ v ∈ writers', v.target = w.target ∧ v.content = w.content

/-- A writer that is done has done what could be done. -/
theorem sound_ended (h : Pool places t₀ t writers) (hw : w ∈ writers) (hended : w.ended?.isSome) :
    w.ended? = some (t₀.writeFault? w.target)
      ∧ (t₀.wayFault? w.target.parent = none → t.entry? w.target.parent = some .directory)
      ∧ (t₀.writeFault? w.target = none → t.entry? w.target = some (.file w.content)) := by
  have hsound := h.sound w hw
  unfold Writer.Sound at hsound
  unfold Writer.ended? at hended ⊢
  cases hstage : w.stage with
  | ended error =>
    rw [hstage] at hsound
    obtain ⟨rfl, hdir, hfile⟩ := hsound
    exact ⟨rfl, hdir, hfile⟩
  | _ =>
    rw [hstage] at hended
    cases hended

theorem temporary?_of_ended (hended : w.ended?.isSome) : w.stage.temporary? = none := by
  unfold Writer.ended? at hended
  cases hstage : w.stage with
  | ended error => rfl
  | _ =>
    rw [hstage] at hended
    cases hended

/-- What is there when all writers are done is also there when they are done elsewhere. -/
theorem entry?_of_ended (h : Pool places t₀ t writers) (h' : Pool places t₀ t' writers')
    (hended : ∀ w ∈ writers, w.ended?.isSome) (hended' : ∀ w ∈ writers', w.ended?.isSome)
    (hcovers : Covers writers writers') (hcovers' : Covers writers' writers) {q : Place} {e : Entry}
    (hq : t.entry? q = some e) : t'.entry? q = some e := by
  cases e with
  | directory =>
    rcases h.made q hq with hold | ⟨-, w, hw, hfree, hway⟩
    · exact h'.directories q hold
    · -- the writer of the same place has made the directory as well
      obtain ⟨v, hv, htarget, -⟩ := hcovers w hw
      rw [← htarget] at hfree hway
      obtain ⟨-, hdir, -⟩ := h'.sound_ended hv (hended' v hv)
      exact h'.wellFormed.directory_above (hdir hfree) hway
  | file content =>
    rcases h.files q content hq with hold | ⟨w, hw, rfl, hfault, rfl⟩ | ⟨w, hw, htemporary⟩
    · rcases h'.kept q content hold with hkept | ⟨v, hv, rfl, hfault, hwritten⟩
      · exact hkept
      · -- a file that was replaced there was replaced by the same file here
        obtain ⟨w, hw, htarget, hcontent⟩ := hcovers' v hv
        obtain ⟨-, -, hfile⟩ := h.sound_ended hw (hended w hw)
        rw [htarget, hcontent] at hfile
        rw [hwritten, ← hfile hfault, hq]
    · obtain ⟨v, hv, htarget, hcontent⟩ := hcovers w hw
      obtain ⟨-, -, hfile⟩ := h'.sound_ended hv (hended' v hv)
      rw [htarget, hcontent] at hfile
      exact hfile hfault
    · rw [temporary?_of_ended (hended w hw)] at htemporary
      cases htemporary

/-- However the steps were interleaved, writers that are done leave the same tree. -/
theorem eq_of_ended (h : Pool places t₀ t writers) (h' : Pool places t₀ t' writers')
    (hended : ∀ w ∈ writers, w.ended?.isSome) (hended' : ∀ w ∈ writers', w.ended?.isSome)
    (hcovers : Covers writers writers') (hcovers' : Covers writers' writers) : t = t' := by
  refine h.wellFormed.ext h'.wellFormed fun q => Option.ext fun e => ⟨fun hq => ?_, fun hq => ?_⟩
  · exact h.entry?_of_ended h' hended hended' hcovers hcovers' hq
  · exact h'.entry?_of_ended h hended' hended hcovers' hcovers hq

end Pool

end Scaffold
