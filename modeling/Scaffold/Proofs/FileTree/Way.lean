import Scaffold.Proofs.FileTree

/-!
# The way to a place

A place without two dots is reached when there is a directory at every step of the way, and no name
on it is too long (`walk_eq_ok_iff`). `HasDirectory` says that the place itself is a directory that
the system can look at; what is true of a place is then true of those above it, and stays true as
long as directories stay (`HasDirectory.mono`).

In a well-formed tree, everything is in a directory. There the system finds whatever is at a place,
unless it refuses to look at it (`contains_of_entry?`).
-/

namespace Scaffold

namespace Place

variable {p q : Place}

theorem parent_prefix (p : Place) : p.parent <+: p := List.dropLast_prefix p

theorem not_prefix_parent (hp : p ≠ []) : ¬p <+: p.parent := by
  intro h
  have hlength := h.length_le
  rw [parent, List.length_dropLast] at hlength
  exact hp (List.length_eq_zero_iff.mp (by omega))

/-- What is above a place is above its parent. -/
theorem prefix_parent_iff (hp : p ≠ []) : q <+: p.parent ↔ q <+: p ∧ q ≠ p := by
  constructor
  · intro h
    refine ⟨h.trans p.parent_prefix, ?_⟩
    rintro rfl
    exact not_prefix_parent hp h
  · rintro ⟨h, hne⟩
    rw [← parent_append_name hp, List.prefix_concat_iff, parent_append_name hp] at h
    exact h.resolve_left hne

theorem name_mem (hp : p ≠ []) : p.name ∈ p := by
  rw [name, List.getLastD_eq_getLast?, List.getLast?_eq_some_getLast hp]
  exact List.getLast_mem hp

theorem name_ne_dots (hdots : ".." ∉ p) (hp : p ≠ []) : p.name ≠ ".." :=
  fun heq => hdots (heq ▸ name_mem hp)

/-! ### Places that the system allows -/

/-- Nothing about a place itself keeps the system from looking at it. -/
structure Allowed (p : Place) : Prop where
  noNull : p.hasNull = false
  short : FileTree.isTooLongPlace p = false
  names : ∀ name ∈ p, FileTree.isTooLong name = false

theorem hasNull_of_prefix (h : q <+: p) (hp : p.hasNull = false) : q.hasNull = false := by
  obtain ⟨rest, rfl⟩ := h
  rw [hasNull, List.any_append, Bool.or_eq_false_iff] at hp
  exact hp.1

/-- A place is written with at least as many bytes as those above it. -/
theorem utf8ByteSize_text_le (h : q <+: p) : q.text.utf8ByteSize ≤ p.text.utf8ByteSize := by
  obtain ⟨rest, rfl⟩ := h
  have hintercalate : ("/".intercalate q).utf8ByteSize
      ≤ ("/".intercalate (q ++ rest)).utf8ByteSize := by
    induction q with
    | nil => simp
    | cons first others ih =>
      cases others with
      | nil =>
        cases rest with
        | nil => simp
        | cons second last =>
          simp only [List.cons_append, List.nil_append, String.intercalate_cons_cons,
            String.intercalate_singleton, String.utf8ByteSize_append]
          omega
      | cons second last =>
        simp only [List.cons_append, String.intercalate_cons_cons, String.utf8ByteSize_append]
          at ih ⊢
        omega
  simp only [text, String.utf8ByteSize_append]
  omega

theorem Allowed.of_prefix (hp : p.Allowed) (h : q <+: p) : q.Allowed where
  noNull := hasNull_of_prefix h hp.noNull
  short := by
    have hle := utf8ByteSize_text_le h
    have hshort := hp.short
    simp only [FileTree.isTooLongPlace, decide_eq_false_iff_not, Nat.not_lt] at hshort ⊢
    omega
  names name hname := hp.names name (h.subset hname)

theorem allowed_nil : Allowed [] := by
  refine ⟨by simp [hasNull], ?_, nofun⟩
  decide

theorem allowed_iff (hp : p ≠ []) :
    p.Allowed ↔ p.hasNull = false ∧ FileTree.isTooLongPlace p = false
      ∧ (∀ name ∈ p.parent, FileTree.isTooLong name = false)
      ∧ FileTree.isTooLong p.name = false := by
  have hnames : (∀ name ∈ p, FileTree.isTooLong name = false)
      ↔ (∀ name ∈ p.parent, FileTree.isTooLong name = false)
        ∧ FileTree.isTooLong p.name = false := by
    conv_lhs => rw [← parent_append_name hp]
    rw [List.forall_mem_append, List.forall_mem_singleton]
  constructor
  · intro h
    exact ⟨h.noNull, h.short, hnames.mp h.names⟩
  · rintro ⟨hnull, hshort, h⟩
    exact ⟨hnull, hshort, hnames.mpr h⟩

end Place

namespace FileTree

variable {fault : Option Fault} {t t' : FileTree} {p q : Place}

@[simp] theorem entry?_nil (t : FileTree) : t.entry? [] = some .directory := rfl

@[simp] theorem stat?_eq_some {e : Entry} : t.stat? p = some e ↔ t.find p = .ok e := by
  unfold stat?
  cases t.find p <;> simp [Except.toOption]

@[simp] theorem find_nil (t : FileTree) : t.find [] = .ok .directory := rfl

/-! ### Walking -/

theorem walkFrom_eq_ok_iff {here : Place} {names : List String} (hnames : ".." ∉ names) :
    t.walkFrom here names = .ok (here ++ names)
      ↔ (∀ name ∈ names, isTooLong name = false)
        ∧ ∀ q, q <+: names → q ≠ [] → t.entry? (here ++ q) = some .directory := by
  induction names generalizing here with
  | nil => simp [walkFrom]
  | cons name rest ih =>
    rw [List.mem_cons, not_or] at hnames
    have ih' := @ih (here ++ [name]) hnames.2
    rw [List.append_assoc, List.singleton_append] at ih'
    -- the steps of the way are the first one and those that begin with it
    have hsteps : (∀ q, q <+: name :: rest → q ≠ [] → t.entry? (here ++ q) = some .directory)
        ↔ t.entry? (here ++ [name]) = some .directory
          ∧ ∀ q, q <+: rest → q ≠ [] → t.entry? (here ++ [name] ++ q) = some .directory := by
      constructor
      · intro h
        refine ⟨h [name] (by simp) (by simp), fun q hq _ => ?_⟩
        rw [List.append_assoc]
        exact h (name :: q) (List.cons_prefix_cons.mpr ⟨rfl, hq⟩) (by simp)
      · rintro ⟨hfirst, hrest⟩ q hq hne
        obtain rfl | ⟨q', rfl, hq'⟩ := List.prefix_cons_iff.mp hq
        · exact absurd rfl hne
        · by_cases hnil : q' = []
          · rw [hnil]
            exact hfirst
          · simpa using hrest q' hq' hnil
    rw [walkFrom, if_neg (Ne.symm hnames.1), hsteps, List.forall_mem_cons]
    cases hlong : isTooLong name with
    | true => simp
    | false =>
      cases hentry : t.entry? (here ++ [name]) with
      | none => simp
      | some e =>
        cases e with
        | file content => simp
        | directory => simpa using ih'

/-- A place is reached when there are directories all the way and no name is too long. -/
theorem walk_eq_ok_iff (hp : ".." ∉ p) :
    t.walk p = .ok p ↔ (∀ name ∈ p, isTooLong name = false)
      ∧ ∀ q, q <+: p → t.entry? q = some .directory := by
  have hwalk := @walkFrom_eq_ok_iff t [] p hp
  simp only [List.nil_append] at hwalk
  rw [walk, hwalk]
  refine and_congr_right fun _ => ⟨fun h q hq => ?_, fun h q hq _ => h q hq⟩
  by_cases hnil : q = []
  · rw [hnil]
    exact entry?_nil t
  · exact h q hq hnil

/-- With directories all the way, only a name that is too long keeps a place from being reached. -/
theorem walkFrom_of_directories {here : Place} {names : List String} (hnames : ".." ∉ names)
    (h : ∀ q, q <+: names → q ≠ [] → t.entry? (here ++ q) = some .directory) :
    t.walkFrom here names = .ok (here ++ names) ∨ t.walkFrom here names = .error .refused := by
  induction names generalizing here with
  | nil => simp [walkFrom]
  | cons name rest ih =>
    rw [List.mem_cons, not_or] at hnames
    rw [walkFrom, if_neg (Ne.symm hnames.1), h [name] (by simp) (by simp)]
    have hrest := @ih (here ++ [name]) hnames.2 fun q hq _ => by
      simpa using h (name :: q) (List.cons_prefix_cons.mpr ⟨rfl, hq⟩) (by simp)
    rw [List.append_assoc, List.singleton_append] at hrest
    cases isTooLong name with
    | true => exact .inr rfl
    | false => exact hrest

/-- A walk through directories meets them again where they have stayed. -/
theorem walkFrom_mono {here : Place} {names : List String} {dir : Place}
    (hstay : ∀ q, t.entry? q = some .directory → t'.entry? q = some .directory)
    (h : t.walkFrom here names = .ok dir) : t'.walkFrom here names = .ok dir := by
  induction names generalizing here with
  | nil => exact h
  | cons name rest ih =>
    rw [walkFrom] at h ⊢
    split
    next hdots =>
      rw [if_pos hdots] at h
      exact ih h
    next hdots =>
      rw [if_neg hdots] at h
      split at h
      · cases h
      next hlong =>
        rw [if_neg hlong]
        split at h
        next hdir =>
          rw [hstay _ hdir]
          exact ih h
        · cases h
        · cases h

/-- A walk follows two dots as `Place.settled` does. -/
theorem eq_foldl_of_walkFrom {here : Place} {names : List String} {dir : Place}
    (h : t.walkFrom here names = .ok dir) :
    names.foldl (fun acc name => if name = ".." then acc.dropLast else acc ++ [name]) here
      = dir := by
  induction names generalizing here with
  | nil =>
    cases h
    rfl
  | cons name rest ih =>
    rw [walkFrom] at h
    rw [List.foldl_cons]
    split at h
    next hdots =>
      rw [if_pos hdots]
      exact ih h
    next hdots =>
      rw [if_neg hdots]
      split at h
      · cases h
      · split at h
        · exact ih h
        · cases h
        · cases h

/-! ### Finding -/

/-- A file that is found, with two dots on the way or without, is found where it and the directories
have stayed. -/
theorem find_file_mono {content : ByteArray} (h : t.find p = .ok (.file content))
    (hstay : ∀ q, t.entry? q = some .directory → t'.entry? q = some .directory)
    (hfile : t.entry? p.settled = some (.file content) →
      t'.entry? p.settled = some (.file content)) : t'.find p = .ok (.file content) := by
  unfold find at h ⊢
  split at h
  · cases h
  next hnull =>
    rw [if_neg hnull]
    split at h
    · cases h
    next hlong =>
      rw [if_neg hlong]
      split at h
      · cases h
      next dir hwalk =>
        split at h
        · cases h
        next hnamed =>
          have hne : p ≠ [] := fun hnil => hnamed (by simp [hnil])
          have hdots : p.name ≠ ".." := fun hname => hnamed (by simp [hname])
          -- the way is walked again in the other tree and ends at the same place
          have hsettled : p.settled = dir ++ [p.name] := by
            conv_lhs => rw [← Place.parent_append_name hne]
            rw [Place.settled, List.foldl_append, eq_foldl_of_walkFrom hwalk, List.foldl_cons,
              List.foldl_nil, if_neg hdots]
          have hwalk' : t'.walk p.parent = .ok dir := walkFrom_mono hstay hwalk
          rw [hwalk']
          dsimp only
          rw [if_neg hnamed]
          rw [hsettled] at hfile
          split at h
          · cases h
          next hname =>
            rw [if_neg hname]
            split at h <;> cases h
            next hentry => rw [hfile hentry]

theorem find_eq (hdots : ".." ∉ p) (hp : p ≠ []) :
    t.find p =
      if p.hasNull then .error .nullCharacter
      else if isTooLongPlace p then .error .refused
      else match t.walk p.parent with
        | .error e => .error e
        | .ok _ =>
          if isTooLong p.name then .error .refused
          else match t.entry? p with
            | some e => .ok e
            | none => .error .notFound := by
  rw [find]
  cases hwalk : t.walk p.parent with
  | error e => rfl
  | ok dir =>
    cases walk_eq_ok (notMem_parent hdots) hwalk
    have hnamed : (p.isEmpty || decide (p.name = "..")) = false := by
      simpa [hp] using Place.name_ne_dots hdots hp
    simp only [hnamed, Place.parent_append_name hp]
    rfl

/-- What the system finds at a place is there, with directories all the way. -/
theorem find_eq_ok_iff (hdots : ".." ∉ p) {e : Entry} :
    t.find p = .ok e ↔ p.Allowed ∧ (∀ q, q <+: p → q ≠ p → t.entry? q = some .directory)
      ∧ t.entry? p = some e := by
  by_cases hp : p = []
  · subst hp
    simp [Place.allowed_nil]
  · have hway : (∀ q, q <+: p → q ≠ p → t.entry? q = some .directory)
        ↔ ∀ q, q <+: p.parent → t.entry? q = some .directory := by
      simp only [Place.prefix_parent_iff hp, and_imp]
    rw [find_eq hdots hp, Place.allowed_iff hp, hway]
    cases hwalk : t.walk p.parent with
    | error e' =>
      -- some step of the way is missing, or has a name that is too long
      have hnot : ¬((∀ name ∈ p.parent, isTooLong name = false)
          ∧ ∀ q, q <+: p.parent → t.entry? q = some .directory) := by
        rw [← walk_eq_ok_iff (notMem_parent hdots), hwalk]
        nofun
      grind
    | ok dir =>
      cases walk_eq_ok (notMem_parent hdots) hwalk
      obtain ⟨hnames, hdirs⟩ := (walk_eq_ok_iff (notMem_parent hdots)).mp hwalk
      cases t.entry? p <;> grind

/-- A place is a directory that the system finds. -/
def HasDirectory (t : FileTree) (p : Place) : Prop := t.find p = .ok .directory

theorem hasDirectory_iff (hdots : ".." ∉ p) :
    t.HasDirectory p ↔ p.Allowed ∧ ∀ q, q <+: p → t.entry? q = some .directory := by
  rw [HasDirectory, find_eq_ok_iff hdots]
  refine and_congr_right fun _ => ⟨fun ⟨hway, hentry⟩ q hq => ?_,
    fun h => ⟨fun q hq _ => h q hq, ?_⟩⟩
  · by_cases hqp : q = p
    · rw [hqp, hentry]
    · exact hway q hq hqp
  · exact h p (List.prefix_refl p)

theorem HasDirectory.walk (hdots : ".." ∉ p) (h : t.HasDirectory p) : t.walk p = .ok p := by
  obtain ⟨hallowed, hdirs⟩ := (hasDirectory_iff hdots).mp h
  exact (walk_eq_ok_iff hdots).mpr ⟨hallowed.names, hdirs⟩

theorem HasDirectory.of_prefix (hdots : ".." ∉ p) (h : t.HasDirectory p) (hq : q <+: p) :
    t.HasDirectory q := by
  obtain ⟨hallowed, hdirs⟩ := (hasDirectory_iff hdots).mp h
  have hdots' : ".." ∉ q := fun hmem => hdots (hq.subset hmem)
  exact (hasDirectory_iff hdots').mpr ⟨hallowed.of_prefix hq, fun r hr => hdirs r (hr.trans hq)⟩

/-- A directory is still found where all directories have stayed. -/
theorem HasDirectory.mono (hdots : ".." ∉ p) (h : t.HasDirectory p)
    (hstay : ∀ q, t.entry? q = some .directory → t'.entry? q = some .directory) :
    t'.HasDirectory p := by
  obtain ⟨hallowed, hdirs⟩ := (hasDirectory_iff hdots).mp h
  exact (hasDirectory_iff hdots).mpr ⟨hallowed, fun q hq => hstay q (hdirs q hq)⟩

/-! ### Directories that are made -/

/-- A directory that was made, or was there, is found. -/
theorem hasDirectory_of_ensureDirectory (hdots : ".." ∉ p)
    (h : ensureDirectory fault t p = .ok t') : t'.HasDirectory p := by
  unfold ensureDirectory at h
  split at h
  next hmake =>
    cases h
    obtain ⟨hp, ⟨hnull, hshort, hname⟩, hwalk, -, rfl⟩ := makeDirectory_eq_ok hdots hmake
    obtain ⟨hnames, hdirs⟩ := (walk_eq_ok_iff (notMem_parent hdots)).mp hwalk
    refine (hasDirectory_iff hdots).mpr ⟨(Place.allowed_iff hp).mpr ⟨hnull, hshort, hnames, hname⟩,
      fun q hq => ?_⟩
    rw [entry?_put hp]
    split
    · rfl
    next hne => exact hdirs q ((Place.prefix_parent_iff hp).mpr ⟨hq, hne⟩)
  · split at h
    next hstat =>
      cases h
      exact stat?_eq_some.mp hstat
    · cases h

theorem hasDirectory_of_makeDirectories (hdots : ".." ∉ p)
    (h : makeDirectories fault t p = (t', none)) : t'.HasDirectory p := by
  unfold makeDirectories at h
  cases hnames : p.reverse with
  | nil =>
    obtain rfl : p = [] := by simpa using hnames
    exact find_nil t'
  | cons name above =>
    have hp : (name :: above).reverse = p := by rw [← hnames, List.reverse_reverse]
    rw [hnames, makeUp, hp] at h
    -- the directory itself is the last one to be made, on both ways
    split at h
    next hensure =>
      cases h
      exact hasDirectory_of_ensureDirectory hdots hensure
    · split at h
      · cases h
      · split at h <;> cases h
        next hensure => exact hasDirectory_of_ensureDirectory hdots hensure
    · cases h

theorem ensureDirectory_of_hasDirectory (hdots : ".." ∉ p) (h : t.HasDirectory p) :
    ensureDirectory fault t p = .ok t := by
  unfold ensureDirectory
  split
  next t₁ hmake =>
    -- a directory is not made where one is
    obtain ⟨-, -, -, hnone, -⟩ := makeDirectory_eq_ok hdots hmake
    rw [((hasDirectory_iff hdots).mp h).2 p (List.prefix_refl p)] at hnone
    cases hnone
  · rw [if_pos (stat?_eq_some.mpr h)]

theorem makeDirectories_of_hasDirectory (hdots : ".." ∉ p) (h : t.HasDirectory p) :
    makeDirectories fault t p = (t, none) := by
  unfold makeDirectories
  cases hnames : p.reverse with
  | nil => rfl
  | cons name above =>
    have hp : (name :: above).reverse = p := by rw [← hnames, List.reverse_reverse]
    rw [makeUp, hp, ensureDirectory_of_hasDirectory hdots h]

/-! ### Well-formed trees -/

/-- Whatever is in a tree is in a directory of it, and the root is in none. -/
structure WellFormed (t : FileTree) : Prop where
  above : ∀ p, t.entry? p ≠ none → t.entry? p.parent = some .directory
  root : t.entries[([] : Place)]? = none

theorem wellFormed_empty : WellFormed empty := by
  refine ⟨fun p hp => ?_, by simp [empty]⟩
  cases p with
  | nil => rfl
  | cons name rest => simp [empty, entry?] at hp

theorem WellFormed.put (h : t.WellFormed) (hp : p ≠ []) {e : Entry}
    (hparent : t.entry? p.parent = some .directory)
    (hkeeps : t.entry? p = some .directory → e = .directory) : (t.put p e).WellFormed where
  above q hq := by
    have habove : p.parent ≠ p := fun heq =>
      Place.not_prefix_parent hp (heq.symm ▸ List.prefix_refl p)
    rw [entry?_put hp] at hq
    rw [entry?_put hp]
    by_cases hqp : q = p
    · rw [hqp, if_neg habove]
      exact hparent
    · rw [if_neg hqp] at hq
      split
      next heq => rw [hkeeps (heq ▸ h.above q hq)]
      next => exact h.above q hq
  root := by
    rw [FileTree.put, Std.ExtTreeMap.getElem?_insert, if_neg (by simpa using hp), h.root]

/-- Anything but a directory can be taken away. -/
theorem WellFormed.erase (h : t.WellFormed) (hp : p ≠ [])
    (hfile : t.entry? p ≠ some .directory) : (t.erase p).WellFormed where
  above q hq := by
    rw [entry?_erase hp] at hq
    split at hq
    · exact absurd rfl hq
    · have habove := h.above q hq
      have hne : q.parent ≠ p := fun heq => hfile (heq ▸ habove)
      rw [entry?_erase hp, if_neg hne, habove]
  root := by
    rw [FileTree.erase, Std.ExtTreeMap.getElem?_erase, h.root, ite_self]

/-- What is in a well-formed tree has directories all the way. -/
theorem WellFormed.directory_of_prefix (h : t.WellFormed) (hp : t.entry? p ≠ none) (hq : q <+: p)
    (hne : q ≠ p) : t.entry? q = some .directory := by
  obtain ⟨rest, rfl⟩ := hq
  induction rest using List.reverseRecOn with
  | nil => simp at hne
  | append_singleton others name ih =>
    have hparent := h.above _ hp
    rw [← List.append_assoc, Place.parent, List.dropLast_concat] at hparent
    by_cases hothers : others = []
    · rwa [hothers, List.append_nil] at hparent
    · exact ih (by simp [hparent]) (by simpa using hothers)

theorem WellFormed.directory_above (h : t.WellFormed) (hp : t.entry? p = some .directory)
    (hq : q <+: p) : t.entry? q = some .directory := by
  by_cases hne : q = p
  · rw [hne, hp]
  · exact h.directory_of_prefix (by rw [hp]; nofun) hq hne

/-- Nothing is below a place where nothing is. -/
theorem WellFormed.entry?_below (h : t.WellFormed) (hq : t.entry? q = none) (hp : q <+: p) :
    t.entry? p = none := by
  by_contra hsome
  by_cases hne : q = p
  · exact hsome (hne ▸ hq)
  · rw [h.directory_of_prefix hsome hp hne] at hq
    cases hq

/-- Nothing is hidden in a well-formed tree: the system finds what is there, or refuses to look. -/
theorem contains_of_entry? (h : t.WellFormed) (hp : ".." ∉ p) (hnull : p.hasNull = false)
    (hreach : t.isUnreachable p = false) {e : Entry} (hentry : t.entry? p = some e) :
    t.contains p = true := by
  by_cases hnil : p = []
  · subst hnil
    have hroot : t.find [] = .ok .directory := rfl
    rw [contains, stat?, hroot]
    rfl
  · have hdirs : ∀ q, q <+: p.parent → q ≠ [] → t.entry? ([] ++ q) = some .directory := by
      intro q hq _
      refine h.directory_of_prefix (by rw [hentry]; nofun) (hq.trans p.parent_prefix) ?_
      exact fun heq => Place.not_prefix_parent hnil (heq ▸ hq)
    have hwalk := walkFrom_of_directories (notMem_parent hp) hdirs
    rw [List.nil_append] at hwalk
    unfold isUnreachable at hreach
    rw [contains, stat?]
    rw [find, hnull] at hreach ⊢
    have hdots : p.name ≠ ".." := by
      intro heq
      exact hp (Place.parent_append_name hnil ▸ List.mem_append_right _ (by simp [heq]))
    -- wherever the system refuses, the place cannot be looked at
    cases hlong : isTooLongPlace p with
    | true => simp [hlong] at hreach
    | false =>
      rcases hwalk with hok | hrefused
      · cases hname : isTooLong p.name with
        | true => simp [hlong, walk, hok, hnil, hdots, hname] at hreach
        | false =>
          simp [walk, hok, hnil, hdots, Place.parent_append_name hnil, hentry, Except.toOption]
      · simp [hlong, walk, hrefused] at hreach

end FileTree

end Scaffold
