import Mathlib.Data.List.Infix
import Scaffold.Proofs.FileTree.Way

/-!
# Whether a directory can be made

In a well-formed tree, a file on the way is all that keeps a directory with short names from being
made (`wayFault?`). The first attempt to make it meets that file already
(`ensureDirectory_eq_error`); without one, every attempt makes a directory, finds it there or finds
the one above it missing (`ensureDirectory_eq_of_free`).
-/

namespace Scaffold

/-- A place that goes up nowhere, and on which no name is too long. -/
structure Place.IsShort (p : Place) : Prop where
  dots : ".." ∉ p
  names : ∀ name ∈ p, FileTree.isTooLong name = false

theorem Place.IsShort.of_prefix {p q : Place} (hp : p.IsShort) (h : q <+: p) : q.IsShort :=
  ⟨fun hmem => hp.dots (h.subset hmem), fun name hname => hp.names name (h.subset hname)⟩

theorem Place.IsShort.parent {p : Place} (hp : p.IsShort) : p.parent.IsShort :=
  hp.of_prefix p.parent_prefix

namespace FileTree

variable {t t' : FileTree} {p q : Place}

/-! ### Files on the way -/

def hasFile (t : FileTree) (p : Place) : Bool :=
  match t.entry? p with
  | some (.file _) => true
  | _ => false

/-- Whether a file is at a place or above it. -/
def isBlocked (t : FileTree) (p : Place) : Bool := p.inits.any t.hasFile

/-- Why a directory cannot be made, if so. -/
def wayFault? (t : FileTree) (p : Place) : Option FileError :=
  if p.hasNull then some .nullCharacter
  else if isTooLongPlace p then some .refused
  else if t.isBlocked p.parent then some .notDirectory
  else if t.hasFile p then some .exists
  else none

theorem hasFile_iff : t.hasFile p = true ↔ ∃ content, t.entry? p = some (.file content) := by
  unfold hasFile
  cases t.entry? p with
  | none => simp
  | some e => cases e <;> simp

theorem isBlocked_iff : t.isBlocked p = true ↔ ∃ q, q <+: p ∧ t.hasFile q = true := by
  simp [isBlocked]

@[simp]
theorem isBlocked_eq_false_iff : t.isBlocked p = false ↔ ∀ q, q <+: p → t.hasFile q = false := by
  simp [isBlocked]

theorem hasFile_eq_false_of_directory (h : t.entry? p = some .directory) : t.hasFile p = false := by
  rw [hasFile, h]

@[simp] theorem wayFault?_nil (t : FileTree) : t.wayFault? [] = none := by
  simp [wayFault?, Place.allowed_nil.noNull, Place.allowed_nil.short, Place.parent, isBlocked,
    hasFile]

theorem isBlocked_eq_or : t.isBlocked p = (t.isBlocked p.parent || t.hasFile p) := by
  by_cases hp : p = []
  · simp [hp, isBlocked, Place.parent]
  · rw [Bool.eq_iff_iff, Bool.or_eq_true, isBlocked_iff, isBlocked_iff]
    constructor
    · rintro ⟨q, hq, hfile⟩
      by_cases hqp : q = p
      · exact .inr (hqp ▸ hfile)
      · exact .inl ⟨q, (Place.prefix_parent_iff hp).mpr ⟨hq, hqp⟩, hfile⟩
    · rintro (⟨q, hq, hfile⟩ | hfile)
      · exact ⟨q, hq.trans p.parent_prefix, hfile⟩
      · exact ⟨p, List.prefix_refl p, hfile⟩

theorem wayFault?_eq_none_iff (hp : p.IsShort) :
    t.wayFault? p = none ↔ p.Allowed ∧ t.isBlocked p = false := by
  have hallowed : p.Allowed ↔ p.hasNull = false ∧ isTooLongPlace p = false :=
    ⟨fun h => ⟨h.noNull, h.short⟩, fun h => ⟨h.1, h.2, hp.names⟩⟩
  rw [hallowed, isBlocked_eq_or, wayFault?]
  grind

theorem wayFault?_congr (h : ∀ q, q <+: p → t.hasFile q = t'.hasFile q) :
    t.wayFault? p = t'.wayFault? p := by
  have hparent : t.isBlocked p.parent = t'.isBlocked p.parent := by
    rw [Bool.eq_iff_iff, isBlocked_iff, isBlocked_iff]
    refine exists_congr fun q => and_congr_right fun hq => ?_
    rw [h q (hq.trans p.parent_prefix)]
  rw [wayFault?, wayFault?, hparent, h p (List.prefix_refl p)]

theorem wayFault?_of_prefix (hp : p.IsShort) (h : t.wayFault? p = none) (hq : q <+: p) :
    t.wayFault? q = none := by
  obtain ⟨hallowed, hblocked⟩ := (wayFault?_eq_none_iff hp).mp h
  refine (wayFault?_eq_none_iff (hp.of_prefix hq)).mpr ⟨hallowed.of_prefix hq, ?_⟩
  exact isBlocked_eq_false_iff.mpr fun r hr => isBlocked_eq_false_iff.mp hblocked r (hr.trans hq)

theorem isBlocked_of_directory (hwell : t.WellFormed) (hdir : t.entry? p = some .directory) :
    t.isBlocked p = false :=
  isBlocked_eq_false_iff.mpr fun _ hq =>
    hasFile_eq_false_of_directory (hwell.directory_above hdir hq)

/-! ### Walking to a directory that is missing -/

/-- A walk to a place that is no directory ends at a file or at a step that is missing. -/
theorem walkFrom_eq_error (hwell : t.WellFormed) {here : Place} {names : List String}
    (hnames : Place.IsShort names) (hhere : t.entry? here = some .directory)
    (hmissing : t.entry? (here ++ names) ≠ some .directory) :
    t.walkFrom here names
      = .error (if t.isBlocked (here ++ names) then .notDirectory else .notFound) := by
  induction names generalizing here with
  | nil => exact absurd (by simpa using hhere) hmissing
  | cons name rest ih =>
    have hdots : name ≠ ".." := fun heq => hnames.dots (heq ▸ List.mem_cons_self)
    have hshort := hnames.names name List.mem_cons_self
    have hrest : Place.IsShort rest :=
      ⟨fun h => hnames.dots (List.mem_cons_of_mem _ h),
        fun n hn => hnames.names n (List.mem_cons_of_mem _ hn)⟩
    have hwhole : here ++ name :: rest = here ++ [name] ++ rest := by simp
    rw [hwhole] at hmissing ⊢
    rw [walkFrom, if_neg hdots, hshort]
    cases hentry : t.entry? (here ++ [name]) with
    | none =>
      -- the way is clear up to a place where nothing is, and nothing is below it
      have hclear : t.isBlocked (here ++ [name] ++ rest) = false := by
        refine isBlocked_eq_false_iff.mpr fun q hq => ?_
        rcases List.prefix_or_prefix_of_prefix hq (List.prefix_append (here ++ [name]) rest) with
          habove | hbelow
        · rcases List.prefix_concat_iff.mp habove with rfl | habove
          · rw [hasFile, hentry]
          · exact hasFile_eq_false_of_directory (hwell.directory_above hhere habove)
        · rw [hasFile, hwell.entry?_below hentry hbelow]
      rw [hclear]
      rfl
    | some e =>
      cases e with
      | file content =>
        have hblocked : t.isBlocked (here ++ [name] ++ rest) = true :=
          isBlocked_iff.mpr ⟨_, List.prefix_append _ _, hasFile_iff.mpr ⟨content, hentry⟩⟩
        rw [hblocked]
        rfl
      | directory => simpa using ih hrest hentry hmissing

theorem walk_eq_error (hwell : t.WellFormed) (hp : p.IsShort)
    (hmissing : t.entry? p ≠ some .directory) :
    t.walk p = .error (if t.isBlocked p then .notDirectory else .notFound) :=
  walkFrom_eq_error hwell hp (entry?_nil t) hmissing

theorem walk_eq_ok_of_directory (hwell : t.WellFormed) (hp : p.IsShort)
    (hdir : t.entry? p = some .directory) : t.walk p = .ok p :=
  (walk_eq_ok_iff hp.dots).mpr ⟨hp.names, fun _ hq => hwell.directory_above hdir hq⟩

/-! ### Looking -/

/-- In a well-formed tree, a place with short names is found when something is there. -/
theorem find_eq_of_isShort (hwell : t.WellFormed) (hp : p.IsShort) :
    t.find p =
      if p.hasNull then .error .nullCharacter
      else if isTooLongPlace p then .error .refused
      else match t.entry? p with
        | some e => .ok e
        | none => .error (if t.isBlocked p.parent then .notDirectory else .notFound) := by
  by_cases hne : p = []
  · subst hne
    rw [find_nil, Place.allowed_nil.noNull, Place.allowed_nil.short]
    rfl
  · rw [find_eq hp.dots hne]
    by_cases hparent : t.entry? p.parent = some .directory
    · rw [walk_eq_ok_of_directory hwell hp.parent hparent, hp.names _ (Place.name_mem hne),
        isBlocked_of_directory hwell hparent]
      rfl
    · have hnone : t.entry? p = none := by
        by_contra hsome
        exact hparent (hwell.above p hsome)
      rw [walk_eq_error hwell hp.parent hparent, hnone]

theorem contains_iff_of_isShort (hwell : t.WellFormed) (hp : p.IsShort) :
    t.contains p = true
      ↔ p.hasNull = false ∧ isTooLongPlace p = false ∧ t.entry? p ≠ none := by
  rw [contains, stat?, find_eq_of_isShort hwell hp]
  cases p.hasNull <;> cases isTooLongPlace p <;> cases t.entry? p <;> simp [Except.toOption]

/-- Only the length of the whole place keeps the system from looking at it. -/
theorem isUnreachable_eq_of_isShort (hwell : t.WellFormed) (hp : p.IsShort) :
    t.isUnreachable p = (!p.hasNull && isTooLongPlace p) := by
  rw [isUnreachable, find_eq_of_isShort hwell hp]
  cases p.hasNull <;> cases isTooLongPlace p <;> cases t.entry? p <;>
    cases t.isBlocked p.parent <;> rfl

/-! ### Attempts -/

/-- A directory that can be looked at is where a directory is. -/
theorem hasDirectory_of_entry? (hwell : t.WellFormed) (hdots : ".." ∉ p) (hp : p.Allowed)
    (hdir : t.entry? p = some .directory) : t.HasDirectory p :=
  (hasDirectory_iff hdots).mpr ⟨hp, fun _ hq => hwell.directory_above hdir hq⟩

theorem makeDirectory_none_eq (hdots : ".." ∉ p) (hp : p ≠ []) :
    makeDirectory none t p =
      if p.hasNull then .error .nullCharacter
      else if isTooLongPlace p then .error .refused
      else match t.walk p.parent with
        | .error e => .error e
        | .ok _ =>
          if isTooLong p.name then .error .refused
          else match t.entry? p with
            | some _ => .error .exists
            | none => .ok (t.put p .directory) := by
  rw [makeDirectory]
  cases hwalk : t.walk p.parent with
  | error e => rfl
  | ok dir =>
    cases walk_eq_ok (notMem_parent hdots) hwalk
    have hnamed : (p.isEmpty || decide (p.name = "..")) = false := by
      simpa [hp] using Place.name_ne_dots hdots hp
    simp only [hnamed, Place.parent_append_name hp]
    rfl

/-- Where a directory cannot be made, the first attempt says why. -/
theorem makeDirectory_eq_error (hwell : t.WellFormed) (hp : p.IsShort) (hne : p ≠ [])
    {e : FileError} (h : t.wayFault? p = some e) :
    makeDirectory none t p = .error e ∧ e ≠ .notFound := by
  rw [makeDirectory_none_eq hp.dots hne]
  -- the faults in the order in which the system looks for them
  unfold wayFault? at h
  split at h
  next hnull =>
    cases h
    rw [if_pos hnull]
    exact ⟨rfl, nofun⟩
  next hnull =>
    rw [if_neg hnull]
    split at h
    next hlong =>
      cases h
      rw [if_pos hlong]
      exact ⟨rfl, nofun⟩
    next hlong =>
      rw [if_neg hlong]
      split at h
      next hblocked =>
        cases h
        have hmissing : t.entry? p.parent ≠ some .directory := fun hdir => by
          rw [isBlocked_of_directory hwell hdir] at hblocked
          cases hblocked
        rw [walk_eq_error hwell hp.parent hmissing, hblocked]
        exact ⟨rfl, nofun⟩
      · split at h <;> cases h
        next hfile =>
          obtain ⟨content, hentry⟩ := hasFile_iff.mp hfile
          have hparent := hwell.above p (by rw [hentry]; nofun)
          have hname := hp.names _ (Place.name_mem hne)
          rw [walk_eq_ok_of_directory hwell hp.parent hparent, hname, hentry]
          exact ⟨rfl, nofun⟩

theorem ensureDirectory_eq_error (hwell : t.WellFormed) (hp : p.IsShort) {e : FileError}
    (h : t.wayFault? p = some e) : ensureDirectory none t p = .error e ∧ e ≠ .notFound := by
  have hne : p ≠ [] := by
    rintro rfl
    rw [wayFault?_nil] at h
    cases h
  have hnot : t.stat? p ≠ some .directory := by
    intro hstat
    obtain ⟨hallowed, hdirs⟩ := (hasDirectory_iff hp.dots).mp (stat?_eq_some.mp hstat)
    have hclear := isBlocked_of_directory hwell (hdirs p (List.prefix_refl p))
    rw [(wayFault?_eq_none_iff hp).mpr ⟨hallowed, hclear⟩] at h
    cases h
  obtain ⟨hmake, he⟩ := makeDirectory_eq_error hwell hp hne h
  exact ⟨by rw [ensureDirectory, hmake]; exact if_neg hnot, he⟩

/-- Where a directory can be made, an attempt makes it, finds it there, or finds the one above it
missing. -/
theorem ensureDirectory_eq_of_free (hwell : t.WellFormed) (hp : p.IsShort) (hne : p ≠ [])
    (h : t.wayFault? p = none) :
    ensureDirectory none t p =
      if t.entry? p = some .directory then .ok t
      else if t.entry? p.parent = some .directory then .ok (t.put p .directory)
      else .error .notFound := by
  obtain ⟨hallowed, hclear⟩ := (wayFault?_eq_none_iff hp).mp h
  by_cases hdir : t.entry? p = some .directory
  · rw [if_pos hdir]
    have hfound := hasDirectory_of_entry? hwell hp.dots hallowed hdir
    exact ensureDirectory_of_hasDirectory hp.dots hfound
  · rw [if_neg hdir, ensureDirectory, makeDirectory_none_eq hp.dots hne, hallowed.noNull,
      hallowed.short, hp.names _ (Place.name_mem hne)]
    rw [isBlocked_eq_or, Bool.or_eq_false_iff] at hclear
    -- nothing is in the way, so only a missing parent keeps the directory from being made
    by_cases hparent : t.entry? p.parent = some .directory
    · have hnone : t.entry? p = none := by
        cases hentry : t.entry? p with
        | none => rfl
        | some e =>
          cases e with
          | directory => exact absurd hentry hdir
          | file content =>
            rw [hasFile, hentry] at hclear
            cases hclear.2
      rw [if_pos hparent, walk_eq_ok_of_directory hwell hp.parent hparent, hnone]
      rfl
    · have hnot : t.stat? p ≠ some .directory := fun hstat =>
        hdir (((hasDirectory_iff hp.dots).mp (stat?_eq_some.mp hstat)).2 p (List.prefix_refl p))
      rw [if_neg hparent, walk_eq_error hwell hp.parent hparent, hclear.1]
      exact if_neg hnot

end FileTree

end Scaffold
