import Scaffold.Proofs.Settings

/-!
# Entries that win over others

Entries can be put among those of a file, one after another, and win over what is there
(`Entries.get?_put`). Settings that are read from such entries are known from what the entries say
of each setting: where they say something else of one setting, only that one is different
(`Settings.ofValue_of_get?`).
-/

namespace Scaffold

theorem Value.sameKey_text_iff {key : Value} {name : String} :
    key.sameKey (.text name) = true ↔ key = .text name := by
  cases key with
  | text s => exact beq_iff_eq.trans ⟨fun h => h ▸ rfl, Value.text.inj⟩
  | float x =>
    -- a number may equal a number, but no text does
    refine iff_of_false (fun h => ?_) fun h => Value.noConfusion h
    unfold sameKey at h
    dsimp only at h
    split at h
    next heq => cases heq
    next => cases h
    next => cases h
  | _ => exact iff_of_false (fun h => Bool.noConfusion h) fun h => Value.noConfusion h

namespace Entries

theorem get?_put (entries : Entries) (name key : String) (v : Value) :
    (entries.put (.text name) v).get? key = if name = key then some v else entries.get? key := by
  induction entries with
  | nil => rfl
  | cons first rest ih =>
    obtain ⟨k, w⟩ := first
    rw [put]
    split
    next hsame =>
      obtain rfl := Value.sameKey_text_iff.mp hsame
      simp only [get?]
      split <;> rfl
    next hsame =>
      have hne : k ≠ .text name := fun heq => hsame (Value.sameKey_text_iff.mpr heq)
      cases k with
      | text s =>
        have hname : s ≠ name := fun heq => hne (heq ▸ rfl)
        simp only [get?, ih]
        by_cases hkey : s = key
        · subst hkey
          simp [hname.symm]
        · simp [hkey]
      | _ => exact ih

/-- An entry that is put adds its key. -/
theorem mem_keys_put {entries : Entries} {key : Value} {name : String} {v : Value} :
    key ∈ (entries.put (.text name) v).map (·.1) ↔ key ∈ entries.map (·.1) ∨ key = .text name := by
  induction entries with
  | nil => simp [put]
  | cons first rest ih =>
    obtain ⟨k, w⟩ := first
    rw [put]
    split
    next hsame =>
      obtain rfl := Value.sameKey_text_iff.mp hsame
      simp only [List.map_cons, List.mem_cons]
      tauto
    next =>
      simp only [List.map_cons, List.mem_cons, ih]
      tauto

end Entries

namespace Settings

variable {entries entries' more : Entries}

theorem areNamed_put {setting : Setting} {v : Value} :
    AreNamed (entries.put (.text setting.name) v) ↔ AreNamed entries := by
  have hkeys : ∀ {entries : Entries}, AreNamed entries
      ↔ ∀ key ∈ entries.map (·.1), ∃ setting : Setting, key = .text setting.name := by
    intro entries
    rw [List.forall_mem_map]
    rfl
  rw [hkeys, hkeys]
  simp only [Entries.mem_keys_put, or_imp, forall_and, forall_eq]
  exact and_iff_left ⟨setting, rfl⟩

/-- Entries with the names of settings can be added one by one. -/
theorem areNamed_putAll (hmore : AreNamed more) :
    AreNamed (entries.putAll more) ↔ AreNamed entries := by
  induction more generalizing entries with
  | nil => rfl
  | cons first rest ih =>
    obtain ⟨⟨setting, hkey⟩, hrest⟩ := List.forall_mem_cons.mp hmore
    have hstep : entries.putAll (first :: rest) = (entries.put first.1 first.2).putAll rest := rfl
    rw [hstep, ih hrest, hkey, areNamed_put]

/-- What is added later wins over what is there, whatever that is. -/
theorem get?_putAll_congr (hmore : AreNamed more) {name : String}
    (h : entries.get? name = entries'.get? name) :
    (entries.putAll more).get? name = (entries'.putAll more).get? name := by
  induction more generalizing entries entries' with
  | nil => exact h
  | cons first rest ih =>
    obtain ⟨⟨setting, hkey⟩, hrest⟩ := List.forall_mem_cons.mp hmore
    show ((entries.put first.1 first.2).putAll rest).get? name
      = ((entries'.put first.1 first.2).putAll rest).get? name
    apply ih hrest
    rw [hkey, Entries.get?_put, Entries.get?_put, h]

theorem get?_putAll_of_notMem (hmore : AreNamed more) {name : String}
    (hname : ∀ entry ∈ more, entry.1 ≠ .text name) :
    (entries.putAll more).get? name = entries.get? name := by
  induction more generalizing entries with
  | nil => rfl
  | cons first rest ih =>
    obtain ⟨⟨setting, hkey⟩, hrest⟩ := List.forall_mem_cons.mp hmore
    obtain ⟨hfirst, hothers⟩ := List.forall_mem_cons.mp hname
    have hne : setting.name ≠ name := fun heq => hfirst (heq ▸ hkey)
    show ((entries.put first.1 first.2).putAll rest).get? name = _
    rw [ih hrest hothers, hkey, Entries.get?_put, if_neg hne]

/-- Entries that say something else of one setting give the same settings but for that. -/
theorem ofValue_of_get? {setting : Setting} {v : Value} {change : Settings → Settings}
    {base : Settings} (hupdate : setting.update v = .ok change) (hnamed : AreNamed entries')
    (hentry : entries'.get? setting.name = some v)
    (hothers : ∀ other ≠ setting, entries'.get? other.name = entries.get? other.name)
    (hbase : ofValue (.map entries) = .ok base) : ofValue (.map entries') = .ok (change base) := by
  obtain ⟨-, hread⟩ := ofValue_map_eq_ok.mp hbase
  refine ofValue_map_eq_ok.mpr ⟨hnamed, fun other => ?_⟩
  by_cases hother : other = setting
  · rw [hother, Setting.ReadFrom, hentry]
    exact Setting.gives_change hupdate base
  · have hsame : base.get other = (change base).get other := by
      rw [Setting.change_eq_adopt hupdate base base, get_adopt_of_ne _ _ hother]
    rw [Setting.ReadFrom, hothers other hother]
    exact (hread other).congr hsame

end Settings

end Scaffold
