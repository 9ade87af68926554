import Mathlib.Data.List.Forall2

/-!
# Lists that go together

Facts about lists whose items are related one by one.
-/

namespace Scaffold

variable {α β : Type} {R : α → β → Prop}

theorem exists_of_forall₂ {l : List α} {l' : List β} {a : α} (h : List.Forall₂ R l l')
    (ha : a ∈ l) : ∃ b ∈ l', R a b := by
  induction h with
  | nil => cases ha
  | cons hfirst _ ih =>
    rcases List.mem_cons.mp ha with rfl | ha
    · exact ⟨_, List.mem_cons_self, hfirst⟩
    · obtain ⟨b, hb, hR⟩ := ih ha
      exact ⟨b, List.mem_cons_of_mem _ hb, hR⟩

/-- What items are related by may depend on where the first comes from. -/
theorem forall₂_imp_of_mem {S : α → β → Prop} {l : List α} {l' : List β} (h : List.Forall₂ R l l')
    (hS : ∀ a ∈ l, ∀ b, R a b → S a b) : List.Forall₂ S l l' := by
  have hmem := (List.forall₂_and_left (p := (· ∈ l)) _ _).mpr ⟨fun _ ha => ha, h⟩
  exact hmem.imp fun a b hab => hS a hab.1 b hab.2

/-- What is read off related items is read off their list. -/
theorem filterMap_of_forall₂ {f : β → Option α} {l : List α} {l' : List β}
    (h : List.Forall₂ (fun a b => f b = some a) l l') : l'.filterMap f = l := by
  induction h with
  | nil => rfl
  | cons hfirst _ ih => rw [List.filterMap_cons_some hfirst, ih]

/-- A list around one of its items. -/
theorem exists_split_of_getElem? {l : List α} {n : Nat} {a : α} (h : l[n]? = some a) :
    ∃ before behind, l = before ++ a :: behind ∧ before.length = n := by
  obtain ⟨hlt, rfl⟩ := List.getElem?_eq_some_iff.mp h
  refine ⟨l.take n, l.drop (n + 1), ?_, by simp [Nat.le_of_lt hlt]⟩
  rw [List.getElem_cons_drop, List.take_append_drop]

/-- All items have results exactly when the list of them has. -/
theorem isSome_mapM_iff {f : α → Option β} {l : List α} :
    (l.mapM f).isSome ↔ ∀ a ∈ l, (f a).isSome := by
  induction l with
  | nil => simp
  | cons a rest ih =>
    rw [List.mapM_cons, List.forall_mem_cons, ← ih]
    cases f a with
    | none => simp
    | some b => cases rest.mapM f <;> simp

/-- The list of results is known when each result is. -/
theorem eq_map_of_mapM {f : α → Option β} {k : α → β} {l : List α} {results : List β}
    (hf : ∀ a ∈ l, ∀ b, f a = some b → b = k a) (h : l.mapM f = some results) :
    results = l.map k := by
  induction l generalizing results with
  | nil =>
    cases h
    rfl
  | cons a rest ih =>
    obtain ⟨ha, hrest⟩ := List.forall_mem_cons.mp hf
    rw [List.mapM_cons] at h
    simp only [Option.bind_eq_bind, Option.bind_eq_some_iff, Option.pure_def,
      Option.some.injEq] at h
    obtain ⟨b, hb, others, hothers, rfl⟩ := h
    rw [List.map_cons, ← ha b hb, ← ih hrest hothers]

/-- One result has a property when only one item of the list leads to it. -/
theorem filter_filterMap_eq_singleton {f : α → Option β} {p : β → Bool} {l : List α} {a : α} {b : β}
    (hnodup : l.Nodup) (ha : a ∈ l) (hb : f a = some b) (hp : p b = true)
    (hother : ∀ a' ∈ l, ∀ b', f a' = some b' → p b' = true → a' = a) :
    (l.filterMap f).filter p = [b] := by
  obtain ⟨before, behind, rfl⟩ := List.append_of_mem ha
  have hnil : ∀ part, part ⊆ before ++ a :: behind → a ∉ part →
      (part.filterMap f).filter p = [] := by
    intro part hsub hnot
    rw [List.filter_eq_nil_iff]
    intro b' hb' hp'
    obtain ⟨a', ha', hf⟩ := List.mem_filterMap.mp hb'
    exact hnot (hother a' (hsub ha') b' hf hp' ▸ ha')
  obtain ⟨-, htail, hapart⟩ := List.nodup_append.mp hnodup
  rw [List.filterMap_append, List.filterMap_cons_some hb, List.filter_append,
    List.filter_cons_of_pos hp, hnil before (by simp) fun h => hapart a h a (by simp) rfl,
    hnil behind (by simp) (List.nodup_cons.mp htail).1, List.nil_append]

end Scaffold
