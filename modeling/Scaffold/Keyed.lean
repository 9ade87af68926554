/-!
# Keyed lists

A `Keyed` list holds a value under each of its keys and keeps the keys in the order in which they
came; no key occurs twice. `put` gives an old key a new value where it stands, and puts a new key at
the end.
-/

namespace Scaffold

/-- Values under distinct keys, in order. -/
structure Keyed (α : Type) where
  entries : List (String × α)
  distinct : (entries.map (·.1)).Nodup
deriving DecidableEq

namespace Keyed

variable {α : Type}

/-- The list without entries. -/
def empty : Keyed α := ⟨[], List.nodup_nil⟩

instance : Inhabited (Keyed α) := ⟨empty⟩

instance : EmptyCollection (Keyed α) := ⟨empty⟩

def keys (m : Keyed α) : List String := m.entries.map (·.1)

/-- The number of entries. -/
def size (m : Keyed α) : Nat := m.entries.length

/-- The value under a key of a list of pairs, the first if there are several. -/
def find? (key : String) : List (String × α) → Option α
  | [] => none
  | (k, v) :: rest => if k = key then some v else find? key rest

def get? (m : Keyed α) (key : String) : Option α := find? key m.entries

/-- Whether there is a value under a key. -/
def has (m : Keyed α) (key : String) : Bool := m.keys.contains key

/-- Replaces the value under a key, or adds the key at the end. -/
def putEntry (key : String) (value : α) : List (String × α) → List (String × α)
  | [] => [(key, value)]
  | (k, v) :: rest => if k = key then (k, value) :: rest else (k, v) :: putEntry key value rest

theorem mem_keys_putEntry {key : String} {value : α} {entries : List (String × α)} {k : String} :
    k ∈ (putEntry key value entries).map (·.1) ↔ k = key ∨ k ∈ entries.map (·.1) := by
  induction entries with
  | nil => simp [putEntry]
  | cons e rest ih =>
    obtain ⟨k', v'⟩ := e
    unfold putEntry
    by_cases h : k' = key
    · simp [h]
    · simp only [h, if_false, List.map_cons, List.mem_cons, ih]
      grind

theorem nodup_putEntry {key : String} {value : α} {entries : List (String × α)}
    (h : (entries.map (·.1)).Nodup) : ((putEntry key value entries).map (·.1)).Nodup := by
  induction entries with
  | nil => simp [putEntry]
  | cons e rest ih =>
    obtain ⟨k', v'⟩ := e
    simp only [List.map_cons, List.nodup_cons] at h
    unfold putEntry
    by_cases hk : k' = key
    · simpa [hk] using ⟨by rw [← hk]; simpa using h.1, h.2⟩
    · rw [if_neg hk, List.map_cons, List.nodup_cons, mem_keys_putEntry, not_or]
      exact ⟨⟨hk, h.1⟩, ih h.2⟩

def put (m : Keyed α) (key : String) (value : α) : Keyed α :=
  ⟨putEntry key value m.entries, nodup_putEntry m.distinct⟩

/-- Puts pairs one after another. -/
def ofList (entries : List (String × α)) : Keyed α :=
  entries.foldl (fun m e => m.put e.1 e.2) empty

/-- Changes every value, given its key. -/
def mapValues {β : Type} (f : String → α → β) (m : Keyed α) : Keyed β :=
  ⟨m.entries.map fun e => (e.1, f e.1 e.2), by
    simpa [List.map_map, Function.comp_def] using m.distinct⟩

/-! ### Looking values up -/

theorem mem_of_find? {key : String} {value : α} {entries : List (String × α)}
    (h : find? key entries = some value) : (key, value) ∈ entries := by
  induction entries with
  | nil => cases h
  | cons e rest ih =>
    unfold find? at h
    split at h
    next hkey =>
      cases h
      rw [← hkey]
      exact List.mem_cons_self
    next => exact List.mem_cons_of_mem _ (ih h)

theorem find?_eq_none {key : String} {entries : List (String × α)} :
    find? key entries = none ↔ key ∉ entries.map (·.1) := by
  induction entries with
  | nil => simp [find?]
  | cons e rest ih =>
    unfold find?
    by_cases hkey : e.1 = key
    · simp [hkey]
    · rw [if_neg hkey, ih, List.map_cons, List.mem_cons, not_or]
      exact ⟨fun h => ⟨fun heq => hkey heq.symm, h⟩, And.right⟩

/-- A key leads to the only value that is under it. -/
theorem get?_eq_some {m : Keyed α} {key : String} {value : α} :
    m.get? key = some value ↔ (key, value) ∈ m.entries := by
  constructor
  · exact mem_of_find?
  · obtain ⟨entries, distinct⟩ := m
    unfold get?
    dsimp only
    intro h
    induction entries with
    | nil => cases h
    | cons e rest ih =>
      simp only [List.map_cons, List.nodup_cons] at distinct
      unfold find?
      rcases List.mem_cons.mp h with rfl | h
      · rw [if_pos rfl]
      · have hkey : e.1 ≠ key := fun heq =>
          distinct.1 (heq ▸ List.mem_map_of_mem (f := (·.1)) h)
        rw [if_neg hkey]
        exact ih distinct.2 h

/-- The keys are those that lead to a value. -/
theorem mem_keys {m : Keyed α} {key : String} :
    key ∈ m.keys ↔ ∃ value, m.get? key = some value := by
  have hnone : m.get? key = none ↔ key ∉ m.keys := find?_eq_none
  cases hget : m.get? key with
  | none => simpa using hnone.mp hget
  | some value => simpa [hget] using hnone

/-- The order of the entries does not decide which value is under a key. -/
theorem get?_eq_of_perm {m m' : Keyed α} (h : m'.entries.Perm m.entries) (key : String) :
    m'.get? key = m.get? key := by
  apply Option.ext
  intro value
  rw [get?_eq_some, get?_eq_some]
  exact h.mem_iff

@[simp] theorem keys_mapValues {β : Type} (f : String → α → β) (m : Keyed α) :
    (m.mapValues f).keys = m.keys := by
  rw [keys, mapValues, List.map_map]
  rfl

theorem get?_mapValues {β : Type} (f : String → α → β) (m : Keyed α) (key : String) :
    (m.mapValues f).get? key = (m.get? key).map (f key) := by
  obtain ⟨entries, distinct⟩ := m
  unfold get? mapValues
  dsimp only
  clear distinct
  induction entries with
  | nil => rfl
  | cons e rest ih =>
    rw [List.map_cons, find?, find?, ih]
    split
    next hkey => rw [hkey, Option.map_some]
    next => rfl

end Keyed

end Scaffold
