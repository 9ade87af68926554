import Mathlib.Data.List.Infix
import Scaffold.FileTree

/-!
# What a write changes

A write makes directories on the way to a place (`Deepens`), fills a temporary file where nothing
was, and renames it. Whichever of these steps fails, it touches nothing but that place and the way
to it (`touches_write`): the temporary file is erased from the tree that it was put into.
-/

namespace Scaffold

theorem Place.parent_append_name {p : Place} (hp : p ≠ []) : p.parent ++ [p.name] = p := by
  rw [parent, name, List.getLastD_eq_getLast?, List.getLast?_eq_some_getLast hp]
  exact List.dropLast_concat_getLast hp

namespace FileTree

variable {fault : Option Fault} {t t' t'' : FileTree} {p : Place} {content : ByteArray}
  {e : FileError}

/-- Trees that differ at some places and by directories on the way to them. No file is at another
place that was not there before. -/
structure Touches (places : List Place) (t t' : FileTree) : Prop where
  elsewhere : ∀ q, (∀ p ∈ places, ¬ q <+: p) → t'.entry? q = t.entry? q
  files : ∀ q content, q ∉ places →
    (t'.entry? q = some (.file content) ↔ t.entry? q = some (.file content))
  directories : ∀ q, t.entry? q = some .directory → t'.entry? q = some .directory

/-! ### Looking up -/

theorem entry?_put (hp : p ≠ []) (entry : Entry) (q : Place) :
    entry? (t.put p entry) q = if q = p then some entry else t.entry? q := by
  unfold entry? put
  cases q with
  | nil => simp [hp.symm]
  | cons name rest =>
    simp only [List.isEmpty_cons, Bool.false_eq_true, if_false, Std.ExtTreeMap.getElem?_insert,
      Std.compare_eq_iff_eq, eq_comm (a := p)]

theorem entry?_erase (hp : p ≠ []) (q : Place) :
    entry? (t.erase p) q = if q = p then none else t.entry? q := by
  unfold entry? erase
  cases q with
  | nil => simp [hp.symm]
  | cons name rest =>
    simp only [List.isEmpty_cons, Bool.false_eq_true, if_false, Std.ExtTreeMap.getElem?_erase,
      Std.compare_eq_iff_eq, eq_comm (a := p)]

theorem walkFrom_eq_ok {here dir : Place} {names : List String} (hnames : ".." ∉ names)
    (h : t.walkFrom here names = .ok dir) : dir = here ++ names := by
  induction names generalizing here with
  | nil =>
    cases h
    simp
  | cons name rest ih =>
    rw [List.mem_cons, not_or] at hnames
    rw [walkFrom, if_neg (Ne.symm hnames.1)] at h
    split at h
    · cases h
    · split at h
      · simpa using ih hnames.2 h
      all_goals cases h

/-- Without two dots on the way, a place leads to itself. -/
theorem walk_eq_ok {dir : Place} (hp : ".." ∉ p) (h : t.walk p = .ok dir) : dir = p := by
  simpa using walkFrom_eq_ok hp h

theorem notMem_parent (hp : ".." ∉ p) : ".." ∉ p.parent := fun h => hp (List.mem_of_mem_dropLast h)

/-! ### Making directories -/

/-- A tree with more directories, all of them on the way to a place. -/
def Deepens (p : Place) (t t' : FileTree) : Prop :=
  ∀ q, t'.entry? q = t.entry? q
    ∨ t.entry? q = none ∧ t'.entry? q = some .directory ∧ q <+: p

theorem Deepens.refl (p : Place) (t : FileTree) : Deepens p t t := fun _ => .inl rfl

theorem Deepens.trans (h : Deepens p t t') (h' : Deepens p t' t'') : Deepens p t t'' := by
  intro q
  rcases h q with hq | ⟨hnone, hdir, hway⟩ <;> rcases h' q with hq' | ⟨hnone', hdir', hway'⟩
  · exact .inl (hq'.trans hq)
  · exact .inr ⟨hq ▸ hnone', hdir', hway'⟩
  · exact .inr ⟨hnone, hq' ▸ hdir, hway⟩
  · -- what is there now was not free
    rw [hdir] at hnone'
    cases hnone'

theorem Deepens.mono {above : Place} (h : Deepens above t t') (habove : above <+: p) :
    Deepens p t t' := by
  intro q
  rcases h q with hq | ⟨hnone, hdir, hway⟩
  · exact .inl hq
  · exact .inr ⟨hnone, hdir, hway.trans habove⟩

/-- A directory is only made in a directory, and where nothing was. -/
theorem makeDirectory_eq_ok (hp : ".." ∉ p) (h : makeDirectory fault t p = .ok t') :
    p ≠ [] ∧ (p.hasNull = false ∧ isTooLongPlace p = false ∧ isTooLong p.name = false)
      ∧ t.walk p.parent = .ok p.parent ∧ t.entry? p = none ∧ t' = t.put p .directory := by
  unfold makeDirectory at h
  split at h
  · cases h
  next hnull =>
    split at h
    · cases h
    next hlong =>
      split at h
      · cases h
      next dir hwalk =>
        cases walk_eq_ok (notMem_parent hp) hwalk
        split at h
        · cases h
        next hempty =>
          have hne : p ≠ [] := by
            rintro rfl
            exact hempty rfl
          rw [Place.parent_append_name hne] at h
          split at h
          · cases h
          next hname =>
            split at h
            · cases h
            next hnone =>
              have hmade : t' = t.put p .directory := by
                -- the fault may be meant for another directory
                split at h
                · split at h <;> cases h
                  rfl
                · cases h
                  rfl
              exact ⟨hne, ⟨by simpa using hnull, by simpa using hlong, by simpa using hname⟩, hwalk,
                hnone, hmade⟩

theorem deepens_of_makeDirectory (hp : ".." ∉ p) (h : makeDirectory fault t p = .ok t') :
    Deepens p t t' := by
  obtain ⟨hne, -, -, hnone, rfl⟩ := makeDirectory_eq_ok hp h
  intro q
  rw [entry?_put hne]
  by_cases hq : q = p
  · subst hq
    exact .inr ⟨hnone, if_pos rfl, List.prefix_refl q⟩
  · exact .inl (if_neg hq)

theorem deepens_of_ensureDirectory (hp : ".." ∉ p) (h : ensureDirectory fault t p = .ok t') :
    Deepens p t t' := by
  unfold ensureDirectory at h
  split at h
  next hmake =>
    cases h
    exact deepens_of_makeDirectory hp hmake
  · split at h
    · cases h
      exact .refl p _
    · cases h

/-- Whatever fails, the directories that have been made are on the way. -/
theorem deepens_makeUp (names : List String) (hnames : ".." ∉ names) :
    Deepens names.reverse t (makeUp fault t names).1 := by
  induction names with
  | nil => exact .refl _ t
  | cons name above ih =>
    have hplain : ".." ∉ (name :: above).reverse := by rwa [List.mem_reverse]
    have habove : Deepens (name :: above).reverse t (makeUp fault t above).1 :=
      (ih fun h => hnames (List.mem_cons_of_mem _ h)).mono (by simp)
    rw [makeUp]
    split
    next hensure => exact deepens_of_ensureDirectory hplain hensure
    · split
      next hup =>
        rw [hup] at habove
        exact habove
      next hup =>
        rw [hup] at habove
        split
        next hensure => exact habove.trans (deepens_of_ensureDirectory hplain hensure)
        · exact habove
    · exact .refl _ t

theorem deepens_makeDirectories (hp : ".." ∉ p) :
    Deepens p t (makeDirectories fault t p).1 := by
  have hup : Deepens p.reverse.reverse t (makeUp fault t p.reverse).1 :=
    deepens_makeUp p.reverse (by simpa using hp)
  rwa [List.reverse_reverse] at hup

/-! ### Writing a file -/

theorem entry?_freshFrom {dir temporary : Place} {name : String} {k tries : Nat}
    (h : t.freshFrom dir name k tries = some temporary) :
    temporary ≠ [] ∧ t.entry? temporary = none := by
  induction tries generalizing k with
  | zero => cases h
  | succ tries ih =>
    rw [freshFrom] at h
    split at h
    next hnone =>
      cases h
      exact ⟨by simp, by simpa using hnone⟩
    · exact ih h

/-- The place of a temporary file is free. -/
theorem entry?_freshPlace {dir temporary : Place} {name : String}
    (h : t.freshPlace dir name = .ok temporary) :
    temporary ≠ [] ∧ t.entry? temporary = none := by
  unfold freshPlace at h
  split at h
  · cases h
  · split at h
    · cases h
    · split at h
      · cases h
      · split at h
        next hfresh =>
          cases h
          exact entry?_freshFrom hfresh
        · cases h

/-- A temporary file that is erased has never been there. -/
theorem entry?_erase_put {temporary : Place} (hne : temporary ≠ [])
    (hfree : t.entry? temporary = none) (entry : Entry) (q : Place) :
    entry? ((t.put temporary entry).erase temporary) q = t.entry? q := by
  rw [entry?_erase hne, entry?_put hne]
  by_cases hq : q = temporary
  · rw [if_pos hq, hq, hfree]
  · rw [if_neg hq, if_neg hq]

theorem exists_fillTemporary {temporary : Place} {failure : Option FileError}
    (h : fillTemporary fault t temporary content = (t', failure)) :
    ∃ written, t' = t.put temporary (.file written) := by
  unfold fillTemporary at h
  split at h <;> cases h <;> exact ⟨_, rfl⟩

theorem fillTemporary_ok {temporary : Place}
    (h : fillTemporary fault t temporary content = (t', none)) :
    t' = t.put temporary (.file content) := by
  unfold fillTemporary at h
  split at h <;> cases h
  rfl

/-- A file is never renamed to the place of a directory. -/
theorem renameTo_ok {temporary dir : Place} {name : String}
    (h : renameTo fault t temporary dir name content = .ok t') :
    t.entry? (dir ++ [name]) ≠ some .directory
      ∧ t' = (t.erase temporary).put (dir ++ [name]) (.file content) := by
  unfold renameTo at h
  split at h
  · cases h
  · split at h
    · cases h
    · split at h
      · cases h
      next hnot =>
        cases h
        exact ⟨hnot, rfl⟩

/-- A file that is not replaced leaves the tree as it was, whichever step has failed. -/
theorem entry?_replaceFile_error {dir : Place} {name : String}
    (h : replaceFile fault t dir name content = (t', some e)) (q : Place) :
    t'.entry? q = t.entry? q := by
  unfold replaceFile at h
  split at h
  · cases h
    rfl
  · split at h
    · cases h
      rfl
    next temporary hfresh =>
      obtain ⟨hne, hfree⟩ := entry?_freshPlace hfresh
      -- what has been written under the temporary name does not matter
      split at h
      next hfill =>
        obtain ⟨written, rfl⟩ := exists_fillTemporary hfill
        cases h
        exact entry?_erase_put hne hfree _ q
      next hfill =>
        obtain ⟨written, rfl⟩ := exists_fillTemporary hfill
        split at h <;> cases h
        exact entry?_erase_put hne hfree _ q

/-- A file that is replaced has the content, and all else is as it was. -/
theorem entry?_replaceFile_ok {dir : Place} {name : String}
    (h : replaceFile fault t dir name content = (t', none)) :
    t.entry? (dir ++ [name]) ≠ some .directory
      ∧ ∀ q, t'.entry? q = if q = dir ++ [name] then some (.file content) else t.entry? q := by
  unfold replaceFile at h
  split at h
  · cases h
  · split at h
    · cases h
    next temporary hfresh =>
      obtain ⟨hne, hfree⟩ := entry?_freshPlace hfresh
      split at h
      · cases h
      next hfill =>
        cases fillTemporary_ok hfill
        split at h <;> cases h
        next hrename =>
          obtain ⟨hnot, rfl⟩ := renameTo_ok hrename
          refine ⟨fun hdir => hnot ?_, fun q => ?_⟩
          · -- the temporary file is not at the place of a directory either
            rw [entry?_put hne, if_neg, hdir]
            intro heq
            rw [← heq, hdir] at hfree
            cases hfree
          · rw [entry?_put (by simp), entry?_erase_put hne hfree]

/-! ### What is left as it was -/

theorem Touches.refl (places : List Place) (t : FileTree) : Touches places t t :=
  ⟨fun _ _ => rfl, fun _ _ _ => Iff.rfl, fun _ h => h⟩

theorem Touches.append {places places' : List Place} (h : Touches places t t')
    (h' : Touches places' t' t'') : Touches (places ++ places') t t'' where
  elsewhere q hq := by
    rw [List.forall_mem_append] at hq
    rw [h'.elsewhere q hq.2, h.elsewhere q hq.1]
  files q content hq := by
    rw [List.mem_append, not_or] at hq
    rw [h'.files q content hq.2, h.files q content hq.1]
  directories q hq := h'.directories q (h.directories q hq)

theorem Deepens.touches {above : Place} (h : Deepens above t t') (habove : above <+: p) :
    Touches [p] t t' where
  elsewhere q hq := by
    rcases h q with heq | ⟨-, -, hway⟩
    · exact heq
    · exact absurd (hway.trans habove) (hq p List.mem_cons_self)
  files q content _ := by
    rcases h q with heq | ⟨hnone, hdir, -⟩
    · rw [heq]
    · simp [hnone, hdir]
  directories q hq := by
    rcases h q with heq | ⟨hnone, -, -⟩
    · rw [heq, hq]
    · rw [hnone] at hq
      cases hq

/-- What is at a place stays there when directories are made above it. -/
theorem Deepens.entry?_self (h : Deepens p.parent t t') : t'.entry? p = t.entry? p := by
  rcases h p with heq | ⟨hnone, -, hway⟩
  · exact heq
  · have hlength := hway.length_le
    rw [Place.parent, List.length_dropLast] at hlength
    -- only the root is not longer than the place above it, and it is never free
    obtain rfl : p = [] := List.length_eq_zero_iff.mp (by omega)
    cases hnone

/-- A file that takes its place behind new directories touches no other place. -/
theorem Touches.of_replaced (h : Deepens p.parent t t') (hnot : t'.entry? p ≠ some .directory)
    (hentry : ∀ q, t''.entry? q = if q = p then some (.file content) else t'.entry? q) :
    Touches [p] t t'' := by
  have htouches : Touches [p] t t' := h.touches (List.dropLast_prefix p)
  refine ⟨fun q hq => ?_, fun q content' hq => ?_, fun q hq => ?_⟩
  · have hother : q ≠ p := by
      rintro rfl
      exact hq q List.mem_cons_self (List.prefix_refl q)
    rw [hentry, if_neg hother, htouches.elsewhere q hq]
  · rw [hentry, if_neg (by simpa using hq), htouches.files q content' hq]
  · -- a directory is still there, as the file has not taken its place
    have hdir := htouches.directories q hq
    rw [hentry, if_neg, hdir]
    rintro rfl
    exact hnot hdir

/-- A write touches one place, which has the content or what was there before. -/
theorem touches_write (hp : ".." ∉ p) {failure : Option FileError}
    (h : t.write fault p content = (t', failure)) :
    Touches [p] t t'
      ∧ t'.entry? p = if failure = none then some (.file content) else t.entry? p := by
  have hdeepens : Deepens p.parent t (makeDirectories fault t p.parent).1 :=
    deepens_makeDirectories (notMem_parent hp)
  -- a write that fails leaves a tree with more directories on the way to the place
  have hfails : ∀ t₁ e, Deepens p.parent t t₁ → Touches [p] t t₁
      ∧ t₁.entry? p = if some e = (none : Option FileError) then some (.file content)
        else t.entry? p :=
    fun t₁ e h₁ => ⟨h₁.touches (List.dropLast_prefix p), by rw [if_neg nofun, h₁.entry?_self]⟩
  unfold write at h
  split at h
  next hmake =>
    cases h
    rw [hmake] at hdeepens
    exact hfails _ _ hdeepens
  next t₁ hmake =>
    rw [hmake] at hdeepens
    split at h
    · cases h
      exact hfails _ _ hdeepens
    next dir hwalk =>
      cases walk_eq_ok (notMem_parent hp) hwalk
      split at h
      · cases h
        exact hfails _ _ hdeepens
      next hempty =>
        have hne : p ≠ [] := by
          rintro rfl
          exact hempty rfl
        cases failure with
        | some e =>
          refine hfails _ _ fun q => ?_
          rw [entry?_replaceFile_error h q]
          exact hdeepens q
        | none =>
          obtain ⟨hnot, hentry⟩ := entry?_replaceFile_ok h
          rw [Place.parent_append_name hne] at hnot hentry
          refine ⟨.of_replaced hdeepens hnot hentry, ?_⟩
          rw [hentry, if_pos rfl, if_pos rfl]

end FileTree

end Scaffold
