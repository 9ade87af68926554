import Scaffold.Proofs.Parsing
import Scaffold.Proofs.RelativePath
import Scaffold.Settings

/-!
# Settings and their rules

A setting is changed by a rule that reads the new value, and a rule that has read a value reads the
result to the same result (`Setting.update_get_change`). So the rules of all settings accept what is
there when settings are read, and after every change (`Settings.Accepted`). What settings are read
from is known setting by setting (`Settings.ofValue_map_eq_ok`), which makes their own values a map
that they are read from again. The settings that name variables and parts of the project have passed
the test for such names, in every run (`Settings.Valid.wellFormed`).
-/

namespace Scaffold

/-- The names among the settings are names. -/
structure Settings.WellFormed (s : Settings) : Prop where
  apiUrlVariable : Identifier.isVariable s.apiUrlVariable = true
  frameworkVariable : Identifier.isVariable s.frameworkVariable = true
  dashboardLayout : Identifier.isIdentifier s.dashboardLayout = true
  adminRole : Identifier.isIdentifier s.adminRole = true
  authMiddleware : Identifier.isIdentifier s.authMiddleware = true
  roleGuard : Identifier.isIdentifier s.roleGuard = true

/-- Settings that a run can have: they are read, and then changed one at a time. -/
inductive Settings.Valid : Settings → Prop
  | read {s : Settings} (v : Value) (h : ofValue v = .ok s) : Valid s
  | assign {s t : Settings} (hs : Valid s) (name : String) (v : Value)
      (h : s.assign name v = .ok t) : Valid t

open Shape

/-! ### One setting of others -/

/-- Settings with one setting of others. -/
def Settings.adopt (s t : Settings) : Setting → Settings
  | .frontendRoot => { s with frontendRoot := t.frontendRoot }
  | .backendRoot => { s with backendRoot := t.backendRoot }
  | .generateFrontend => { s with generateFrontend := t.generateFrontend }
  | .generateBackend => { s with generateBackend := t.generateBackend }
  | .apiUrlVariable => { s with apiUrlVariable := t.apiUrlVariable }
  | .frameworkVariable => { s with frameworkVariable := t.frameworkVariable }
  | .defaultTheme => { s with defaultTheme := t.defaultTheme }
  | .tokenKey => { s with tokenKey := t.tokenKey }
  | .dashboardLayout => { s with dashboardLayout := t.dashboardLayout }
  | .navOrder => { s with navOrder := t.navOrder }
  | .navIcon => { s with navIcon := t.navIcon }
  | .adminRole => { s with adminRole := t.adminRole }
  | .authMiddleware => { s with authMiddleware := t.authMiddleware }
  | .roleGuard => { s with roleGuard := t.roleGuard }
  | .overwriteExisting => { s with overwriteExisting := t.overwriteExisting }
  | .maxWorkers => { s with maxWorkers := t.maxWorkers }

theorem ThemeName.word_injective {a b : ThemeName} (h : a.word = b.word) : a = b := by
  cases a <;> cases b <;> first | rfl | exact absurd h (by decide)

namespace Settings

@[simp] theorem get_adopt_self (s t : Settings) (setting : Setting) :
    (s.adopt t setting).get setting = t.get setting := by
  cases setting <;> rfl

@[simp] theorem get_adopt_of_ne (s t : Settings) {setting other : Setting} (h : other ≠ setting) :
    (s.adopt t setting).get other = s.get other := by
  cases setting <;> cases other <;> first | rfl | exact absurd rfl h

/-- Settings are known by their values. -/
theorem eq_of_get {s t : Settings} (h : ∀ setting, s.get setting = t.get setting) : s = t := by
  have htext : ∀ {a b : String}, Value.text a = .text b → a = b := fun h => Value.text.inj h
  have hflag : ∀ {a b : Bool}, Value.bool a = .bool b → a = b := fun h => Value.bool.inj h
  have hnumber : ∀ {a b : Nat}, Value.int a = .int b → a = b := fun h =>
    Int.ofNat.inj (Value.int.inj h)
  cases s
  cases t
  congr 1
  · exact RelativePath.text_injective (htext (h .frontendRoot))
  · exact RelativePath.text_injective (htext (h .backendRoot))
  · exact hflag (h .generateFrontend)
  · exact hflag (h .generateBackend)
  · exact htext (h .apiUrlVariable)
  · exact htext (h .frameworkVariable)
  · exact ThemeName.word_injective (htext (h .defaultTheme))
  · exact htext (h .tokenKey)
  · exact htext (h .dashboardLayout)
  · exact hnumber (h .navOrder)
  · exact htext (h .navIcon)
  · exact htext (h .adminRole)
  · exact htext (h .authMiddleware)
  · exact htext (h .roleGuard)
  · exact hflag (h .overwriteExisting)
  · exact hnumber (h .maxWorkers)

/-- Only the value of that setting counts. -/
theorem adopt_congr {t u : Settings} {setting : Setting} (h : t.get setting = u.get setting)
    (s : Settings) : s.adopt t setting = s.adopt u setting := by
  apply eq_of_get
  intro other
  by_cases hother : other = setting
  · rw [hother, get_adopt_self, get_adopt_self, h]
  · rw [get_adopt_of_ne s t hother, get_adopt_of_ne s u hother]

end Settings

/-! ### Rules that read their results -/

theorem Setting.of_checkedText {accepts : String → Bool} {complaint : String → String} {v : Value}
    {t : String} (h : checkedText accepts complaint v = .ok t) : accepts t = true := by
  unfold checkedText at h
  cases htext : text v with
  | error cause => rw [htext] at h; cases h
  | ok s =>
    rw [htext] at h
    change (if accepts s = true then Except.ok s else _) = .ok t at h
    split at h
    next haccepts =>
      cases h
      exact haccepts
    next => cases h

namespace Setting

/-- The rule of a setting reads a value, to what the setting is in some settings. -/
def Gives (setting : Setting) (v : Value) (t : Settings) : Prop :=
  ∃ change, setting.update v = .ok change ∧ ∀ s, change s = s.adopt t setting

theorem Gives.congr {setting : Setting} {v : Value} {t u : Settings} (h : setting.Gives v t)
    (heq : t.get setting = u.get setting) : setting.Gives v u := by
  obtain ⟨change, hupdate, hchange⟩ := h
  refine ⟨change, hupdate, fun s => ?_⟩
  rw [hchange, Settings.adopt_congr heq]

theorem root_of_ofText? {path : String} {p : RelativePath}
    (h : RelativePath.ofText? path = some p) : root (.text path) = .ok p := by
  have htext : text (.text path) = .ok path := rfl
  rw [root, htext]
  simp only [bind, Except.bind, h]

@[simp]
theorem root_text (p : RelativePath) : root (.text p.text) = .ok p := root_of_ofText? p.ofText?_text

theorem checkedText_text {accepts : String → Bool} {complaint : String → String} {t : String}
    (h : accepts t = true) : checkedText accepts complaint (.text t) = .ok t :=
  if_pos h

@[simp] theorem choice_word (t : ThemeName) : choice ThemeName.words (.text t.word) = .ok t := by
  cases t <;> rfl

theorem le_of_integerFrom {least n : Int} {v : Value} (h : integerFrom least v = .ok n) :
    least ≤ n := by
  unfold integerFrom at h
  split at h
  · cases h
  · split at h
    next hle =>
      cases h
      exact hle
    next => cases h

theorem bounds_of_integerBetween {least greatest n : Int} {v : Value}
    (h : integerBetween least greatest v = .ok n) : least ≤ n ∧ n ≤ greatest := by
  unfold integerBetween at h
  split at h
  · cases h
  next m hfrom =>
    split at h
    next hle =>
      cases h
      exact ⟨le_of_integerFrom hfrom, hle⟩
    next => cases h

@[simp] theorem integerFrom_int_eq_ok {least m n : Int} :
    integerFrom least (.int m) = .ok n ↔ least ≤ m ∧ m = n := by
  unfold integerFrom integer
  by_cases hleast : least ≤ m <;> simp [hleast]

/-- A whole number is read between two bounds when it is there. -/
@[simp] theorem integerBetween_int_eq_ok {least greatest m n : Int} :
    integerBetween least greatest (.int m) = .ok n ↔ least ≤ m ∧ m ≤ greatest ∧ m = n := by
  unfold integerBetween integerFrom integer
  by_cases hleast : least ≤ m
  · by_cases hgreatest : m ≤ greatest <;> simp [hleast, hgreatest]
  · simp [hleast]

section

variable {setting : Setting} {v : Value} {change : Settings → Settings}
  (h : setting.update v = .ok change)

include h

/-- A rule changes its setting, the same way in all settings, and no other one. -/
theorem change_eq_adopt (s t : Settings) : change s = s.adopt (change t) setting := by
  cases setting
  all_goals
    obtain ⟨a, -, rfl⟩ := map_eq_ok.mp h
    rfl

/-- A rule reads its result, to the same result. -/
theorem update_get_change (s : Settings) :
    setting.update ((change s).get setting) = .ok change := by
  cases setting
  all_goals obtain ⟨a, ha, rfl⟩ := map_eq_ok.mp h
  case frontendRoot => exact congrArg (Except.map _) (root_text a)
  case backendRoot => exact congrArg (Except.map _) (root_text a)
  case apiUrlVariable => exact congrArg (Except.map _) (checkedText_text (of_checkedText ha))
  case frameworkVariable => exact congrArg (Except.map _) (checkedText_text (of_checkedText ha))
  case defaultTheme => exact congrArg (Except.map _) (choice_word a)
  case dashboardLayout => exact congrArg (Except.map _) (checkedText_text (of_checkedText ha))
  case adminRole => exact congrArg (Except.map _) (checkedText_text (of_checkedText ha))
  case authMiddleware => exact congrArg (Except.map _) (checkedText_text (of_checkedText ha))
  case roleGuard => exact congrArg (Except.map _) (checkedText_text (of_checkedText ha))
  case navOrder =>
    have hleast := le_of_integerFrom ha
    have hagain := integerFrom_int_eq_ok.mpr ⟨hleast, rfl⟩
    have hnumber : ((a.toNat : Nat) : Int) = a := Int.toNat_of_nonneg hleast
    simp only [update, Settings.get, hnumber, hagain, Except.map]
  case maxWorkers =>
    obtain ⟨hleast, hgreatest⟩ := bounds_of_integerBetween ha
    have hagain := integerBetween_int_eq_ok.mpr ⟨hleast, hgreatest, rfl⟩
    have hnumber : ((a.toNat : Nat) : Int) = a := Int.toNat_of_nonneg (by omega)
    simp only [update, Settings.get, hnumber, hagain, Except.map]
  -- the other rules take every text, and every truth value
  all_goals rfl

theorem gives_change (s : Settings) : setting.Gives v (change s) :=
  ⟨change, h, fun s' => change_eq_adopt h s' s⟩

theorem gives_get_change (s : Settings) : setting.Gives ((change s).get setting) (change s) :=
  gives_change (update_get_change h s) s

end

/-- What a rule reads, it reads again. -/
theorem Gives.get {setting : Setting} {v : Value} {t : Settings} (h : setting.Gives v t) :
    setting.Gives (t.get setting) t := by
  obtain ⟨change, hupdate, hchange⟩ := h
  have hvalue : (change t).get setting = t.get setting := by
    rw [hchange, Settings.get_adopt_self]
  rw [← hvalue]
  exact (gives_get_change hupdate t).congr hvalue

end Setting

/-! ### Reading all settings -/

namespace Setting

/-- A setting is as its entry says; without one it is as it was before. -/
def ReadFrom (entries : Entries) (base s : Settings) (setting : Setting) : Prop :=
  match entries.get? setting.name with
  | some v => setting.Gives v s
  | none => s.get setting = base.get setting

section

variable {entries : Entries} {base s t : Settings} {setting : Setting}

theorem ReadFrom.congr (h : setting.ReadFrom entries base s) (heq : s.get setting = t.get setting) :
    setting.ReadFrom entries base t := by
  unfold ReadFrom at h ⊢
  split at h
  · exact h.congr heq
  · exact heq.symm.trans h

theorem ReadFrom.rebase {base' : Settings} (h : setting.ReadFrom entries base' s)
    (heq : base'.get setting = base.get setting) : setting.ReadFrom entries base s := by
  unfold ReadFrom at h ⊢
  split at h
  · exact h
  · exact h.trans heq

/-- An entry leaves one way to be. -/
theorem ReadFrom.get_eq (hs : setting.ReadFrom entries base s)
    (ht : setting.ReadFrom entries base t) : s.get setting = t.get setting := by
  unfold ReadFrom at hs ht
  cases hentry : entries.get? setting.name with
  | some v =>
    rw [hentry] at hs ht
    obtain ⟨change, hupdate, hchange⟩ := hs
    obtain ⟨change', hupdate', hchange'⟩ := ht
    obtain rfl : change = change' := Except.ok.inj (hupdate.symm.trans hupdate')
    rw [← Settings.get_adopt_self base s, ← hchange, hchange', Settings.get_adopt_self]
  | none =>
    rw [hentry] at hs ht
    exact hs.trans ht.symm

theorem readEntry_eq_ok {change : Settings → Settings} :
    setting.readEntry entries = .ok change ↔
      (∃ v, entries.get? setting.name = some v ∧ setting.update v = .ok change)
        ∨ entries.get? setting.name = none ∧ change = id := by
  unfold readEntry Slot.optional Slot.find? slot Slot.plain
  cases entries.get? setting.name with
  | none => simp [eq_comm]
  | some v => simp

/-- Reading an entry changes its setting, and no other one. -/
theorem readFrom_of_readEntry {change : Settings → Settings}
    (h : setting.readEntry entries = .ok change) (base : Settings) :
    setting.ReadFrom entries base (change base)
      ∧ ∀ other, other ≠ setting → (change base).get other = base.get other := by
  unfold ReadFrom
  rcases readEntry_eq_ok.mp h with ⟨v, hentry, hupdate⟩ | ⟨hentry, rfl⟩
  · rw [hentry]
    refine ⟨gives_change hupdate base, fun other hother => ?_⟩
    rw [change_eq_adopt hupdate base base, Settings.get_adopt_of_ne _ _ hother]
  · rw [hentry]
    exact ⟨rfl, fun _ _ => rfl⟩

theorem ReadFrom.exists_readEntry (h : setting.ReadFrom entries base s) :
    ∃ change, setting.readEntry entries = .ok change := by
  unfold ReadFrom at h
  split at h
  next v hentry =>
    obtain ⟨change, hupdate, -⟩ := h
    exact ⟨change, readEntry_eq_ok.mpr (.inl ⟨v, hentry, hupdate⟩)⟩
  next hentry => exact ⟨id, readEntry_eq_ok.mpr (.inr ⟨hentry, rfl⟩)⟩

end

theorem nodup_all : all.Nodup := by decide

theorem mem_all (setting : Setting) : setting ∈ all := by
  cases setting <;> decide

theorem name_injective {setting other : Setting} (h : setting.name = other.name) :
    setting = other := by
  have hall : ∀ a ∈ all, ∀ b ∈ all, a.name = b.name → a = b := by decide
  exact hall _ (mem_all setting) _ (mem_all other) h

end Setting

namespace Entries

theorem isSome_get?_of_mem {entries : Entries} {key : String} {v : Value}
    (h : (.text key, v) ∈ entries) : (entries.get? key).isSome = true := by
  fun_induction get? entries key with
  | case1 => cases h
  | case2 => rfl
  | case3 k w rest hne ih =>
    rcases List.mem_cons.mp h with heq | h
    · cases heq
      exact absurd rfl hne
    · exact ih h
  | case4 first rest hother ih =>
    rcases List.mem_cons.mp h with heq | h
    · exact absurd heq.symm (hother key v)
    · exact ih h

end Entries

namespace Settings

variable {entries : Entries}

/-- Settings that are read one after another are as their entries say, and the others as before. -/
theorem readFrom_of_readUpdates {settings : List Setting} {change : Settings → Settings}
    (hnodup : settings.Nodup) (h : readUpdates entries settings = .ok change) (base : Settings) :
    (∀ setting ∈ settings, setting.ReadFrom entries base (change base))
      ∧ ∀ setting ∉ settings, (change base).get setting = base.get setting := by
  induction settings generalizing change base with
  | nil =>
    cases h
    exact ⟨List.forall_mem_nil _, fun _ _ => rfl⟩
  | cons first rest ih =>
    obtain ⟨hfirst, hrest⟩ := List.nodup_cons.mp hnodup
    simp only [readUpdates, Checked.seq_eq_ok, Checked.map_eq_ok] at h
    obtain ⟨_, others, ⟨before, hbefore, rfl⟩, hothers, rfl⟩ := h
    obtain ⟨hread, hkept⟩ := Setting.readFrom_of_readEntry hbefore base
    obtain ⟨hreads, hothersKept⟩ := ih hrest hothers (before base)
    refine ⟨List.forall_mem_cons.mpr ⟨hread.congr (hothersKept first hfirst).symm, ?_⟩, ?_⟩
    · intro setting hsetting
      have hne : setting ≠ first := fun heq => hfirst (heq ▸ hsetting)
      exact (hreads setting hsetting).rebase (hkept setting hne)
    · intro setting hsetting
      rw [List.mem_cons, not_or] at hsetting
      exact (hothersKept setting hsetting.2).trans (hkept setting hsetting.1)

/-- Settings can be read one after another when the entry of each can be read. -/
theorem exists_readUpdates {settings : List Setting}
    (h : ∀ setting ∈ settings, ∃ change, setting.readEntry entries = .ok change) :
    ∃ change, readUpdates entries settings = .ok change := by
  induction settings with
  | nil => exact ⟨id, rfl⟩
  | cons first rest ih =>
    obtain ⟨⟨before, hbefore⟩, hrest⟩ := List.forall_mem_cons.mp h
    obtain ⟨others, hothers⟩ := ih hrest
    refine ⟨fun s => others (before s), ?_⟩
    simp only [readUpdates, Checked.seq_eq_ok, Checked.map_eq_ok]
    exact ⟨_, others, ⟨before, hbefore, rfl⟩, hothers, rfl⟩

/-- The keys of some entries are names of settings. -/
def AreNamed (entries : Entries) : Prop :=
  ∀ entry ∈ entries, ∃ setting : Setting, entry.1 = .text setting.name

theorem mem_usedNames {key : String} :
    key ∈ usedNames (Setting.all.map Setting.slot) entries
      ↔ ∃ setting : Setting, setting.name = key ∧ (entries.get? key).isSome = true := by
  have hfind : ∀ setting : Setting, (setting.slot.find? entries).map (·.1)
      = if (entries.get? setting.name).isSome then some setting.name else none := by
    intro setting
    unfold Setting.slot Slot.plain Slot.find?
    cases entries.get? setting.name <;> rfl
  simp only [usedNames, List.filterMap_map, List.mem_filterMap, Function.comp_def, hfind]
  constructor
  · rintro ⟨setting, -, hsome⟩
    split at hsome
    next hentry =>
      cases hsome
      exact ⟨setting, rfl, hentry⟩
    next => cases hsome
  · rintro ⟨setting, rfl, hentry⟩
    exact ⟨setting, setting.mem_all, if_pos hentry⟩

/-- Entries have no others among them when all keys are names of settings. -/
theorem noExtras_eq_ok :
    noExtras (Setting.all.map Setting.slot) entries = .ok () ↔ AreNamed entries := by
  have hproblem : ∀ entry ∈ entries,
      extraProblem? (usedNames (Setting.all.map Setting.slot) entries) entry.1 = none
        ↔ ∃ setting : Setting, entry.1 = .text setting.name := by
    rintro ⟨key, v⟩ hentry
    cases key with
    | text k =>
      have hsome := Entries.isSome_get?_of_mem hentry
      simp only [extraProblem?, List.contains_eq_mem, decide_eq_true_eq, ite_eq_left_iff,
        mem_usedNames, hsome, and_true, reduceCtorEq, imp_false, not_not, Value.text.injEq]
      exact exists_congr fun setting => eq_comm
    | _ => simp [extraProblem?]
  have hnone : (entries.filterMap fun entry =>
      extraProblem? (usedNames (Setting.all.map Setting.slot) entries) entry.1) = []
        ↔ AreNamed entries := by
    rw [List.filterMap_eq_nil_iff]
    exact forall₂_congr hproblem
  rw [← hnone, noExtras]
  split
  next hnil => simp [hnil]
  next hproblems => exact iff_of_false (by simp) hproblems

/-- What settings are read from, setting by setting. -/
theorem ofValue_map_eq_ok {s : Settings} :
    ofValue (.map entries) = .ok s
      ↔ AreNamed entries ∧ ∀ setting : Setting, setting.ReadFrom entries {} s := by
  -- reading collects a change for each setting before it looks for entries that name none
  have hread : ofValue (.map entries) = .ok s ↔ ∃ change,
      readUpdates entries Setting.all = .ok change ∧ AreNamed entries ∧ change {} = s := by
    have hnamed : ∀ {x : Checked Settings}, x.named recordName = .ok s ↔ x = .ok s := by
      intro x
      cases x <;> simp [Checked.named]
    rw [ofValue, hnamed]
    show read entries = .ok s ↔ _
    simp only [read, Checked.seq_eq_ok, Checked.map_eq_ok]
    constructor
    · rintro ⟨_, u, ⟨change, hchange, rfl⟩, hextras, heq⟩
      exact ⟨change, hchange, noExtras_eq_ok.mp hextras, heq⟩
    · rintro ⟨change, hchange, hnamed, heq⟩
      exact ⟨_, (), ⟨change, hchange, rfl⟩, noExtras_eq_ok.mpr hnamed, heq⟩
  rw [hread]
  constructor
  · rintro ⟨change, hchange, hnamed, rfl⟩
    refine ⟨hnamed, fun setting => ?_⟩
    exact (readFrom_of_readUpdates Setting.nodup_all hchange {}).1 setting setting.mem_all
  · rintro ⟨hnamed, hs⟩
    obtain ⟨change, hchange⟩ :=
      exists_readUpdates fun setting _ => (hs setting).exists_readEntry
    refine ⟨change, hchange, hnamed, eq_of_get fun setting => ?_⟩
    exact ((readFrom_of_readUpdates Setting.nodup_all hchange {}).1 setting setting.mem_all).get_eq
      (hs setting)

/-! ### The values of settings -/

/-- The rules of all settings accept what the settings are. -/
def Accepted (s : Settings) : Prop := ∀ setting : Setting, setting.Gives (s.get setting) s

theorem accepted_default : ({} : Settings).Accepted := by
  intro setting
  cases setting
  case frontendRoot => exact ⟨_, congrArg (Except.map _) (Setting.root_text _), fun _ => rfl⟩
  case backendRoot => exact ⟨_, congrArg (Except.map _) (Setting.root_text _), fun _ => rfl⟩
  all_goals exact ⟨_, rfl, fun _ => rfl⟩

/-- Settings are read from entries. -/
theorem exists_entries_of_ofValue {v : Value} {s : Settings} (h : ofValue v = .ok s) :
    ∃ entries, v.opened = .map entries ∧ ofValue (.map entries) = .ok s := by
  unfold ofValue record at h
  split at h
  next entries hopened => exact ⟨entries, hopened, h⟩
  next => cases h

/-- The rules accept settings that are read. -/
theorem accepted_of_ofValue {v : Value} {s : Settings} (h : ofValue v = .ok s) : s.Accepted := by
  obtain ⟨entries, -, hentries⟩ := exists_entries_of_ofValue h
  intro setting
  have hread := (ofValue_map_eq_ok.mp hentries).2 setting
  unfold Setting.ReadFrom at hread
  split at hread
  · exact hread.get
  · rw [hread]
    exact (accepted_default setting).congr hread.symm

/-- The rules accept what a rule has changed. -/
theorem Accepted.change {s : Settings} (hs : s.Accepted) {setting : Setting} {v : Value}
    {change : Settings → Settings} (h : setting.update v = .ok change) : (change s).Accepted := by
  intro other
  by_cases hother : other = setting
  · rw [hother]
    exact Setting.gives_get_change h s
  · have hsame : (change s).get other = s.get other := by
      rw [Setting.change_eq_adopt h s s, get_adopt_of_ne _ _ hother]
    rw [hsame]
    exact (hs other).congr hsame.symm

theorem get?_valueEntries (s : Settings) {settings : List Setting} {setting : Setting}
    (h : setting ∈ settings) :
    Entries.get? (settings.map fun setting => (.text setting.name, s.get setting)) setting.name
      = some (s.get setting) := by
  induction settings with
  | nil => cases h
  | cons first rest ih =>
    rw [List.map_cons, Entries.get?]
    split
    next hname => rw [Setting.name_injective hname]
    next hname =>
      refine ih ((List.mem_cons.mp h).resolve_left fun heq => hname ?_)
      rw [heq]

/-- Accepted settings are read from their own values. -/
theorem Accepted.ofValue_toValue {s : Settings} (hs : s.Accepted) : ofValue s.toValue = .ok s := by
  rw [toValue, ofValue_map_eq_ok]
  refine ⟨List.forall_mem_map.mpr fun setting _ => ⟨setting, rfl⟩, fun setting => ?_⟩
  rw [Setting.ReadFrom, get?_valueEntries s setting.mem_all]
  exact hs setting

/-- An assignment changes the setting of its name by the rule for that, or it has no setting. -/
theorem assign_eq_ok {s t : Settings} {name : String} {v : Value} (h : s.assign name v = .ok t) :
    (∃ setting : Setting, setting.name = name
        ∧ ∃ change, setting.update v = .ok change ∧ change s = t)
      ∨ (∀ setting : Setting, setting.name ≠ name) ∧ s = t := by
  unfold assign at h
  cases hsetting : setting? name with
  | some setting =>
    have hname : setting.name = name := by simpa using List.find?_some hsetting
    simp only [hsetting] at h
    split at h
    next change hupdate => exact .inl ⟨setting, hname, change, hupdate, Except.ok.inj h⟩
    next => cases h
  | none =>
    have hname : ∀ setting : Setting, setting.name ≠ name := fun setting => by
      simpa using List.find?_eq_none.mp hsetting setting setting.mem_all
    simp only [hsetting] at h
    split at h
    next => exact .inr ⟨hname, Except.ok.inj h⟩
    next => cases h

theorem Accepted.assign {s t : Settings} (hs : s.Accepted) {name : String} {v : Value}
    (h : s.assign name v = .ok t) : t.Accepted := by
  rcases assign_eq_ok h with ⟨setting, -, change, hupdate, rfl⟩ | ⟨-, rfl⟩
  · exact hs.change hupdate
  · exact hs

/-- The rules accept the settings of a run. -/
theorem Valid.accepted {s : Settings} (hs : s.Valid) : s.Accepted := by
  induction hs with
  | read _ h => exact accepted_of_ofValue h
  | assign _ _ _ h ih => exact ih.assign h

/-! ### Names among the settings -/

theorem Accepted.wellFormed {s : Settings} (hs : s.Accepted) : s.WellFormed := by
  have hname : ∀ {accepts : String → Bool} {complaint : String → String} {t : String}
      {f : String → Settings → Settings} {change : Settings → Settings},
      (Setting.checkedText accepts complaint (.text t)).map f = .ok change → accepts t = true := by
    intro accepts complaint t f change h
    obtain ⟨t', ht, -⟩ := map_eq_ok.mp h
    change (if accepts t = true then Except.ok t else _) = .ok t' at ht
    split at ht
    next haccepts => exact haccepts
    next => cases ht
  constructor
  · obtain ⟨change, h, -⟩ := hs .apiUrlVariable
    exact hname h
  · obtain ⟨change, h, -⟩ := hs .frameworkVariable
    exact hname h
  · obtain ⟨change, h, -⟩ := hs .dashboardLayout
    exact hname h
  · obtain ⟨change, h, -⟩ := hs .adminRole
    exact hname h
  · obtain ⟨change, h, -⟩ := hs .authMiddleware
    exact hname h
  · obtain ⟨change, h, -⟩ := hs .roleGuard
    exact hname h

theorem wellFormed_default : ({} : Settings).WellFormed := accepted_default.wellFormed

/-- The names among the settings of a run are names. -/
theorem Valid.wellFormed {s : Settings} (hs : s.Valid) : s.WellFormed := hs.accepted.wellFormed

end Settings

end Scaffold
