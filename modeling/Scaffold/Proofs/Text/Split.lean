import Mathlib.Data.List.Basic
import Scaffold.Text.Lines

/-!
# Splitting texts

The parts of a text are those that its separators make up the text of again (`splitOn_eq_iff`). A
part ends where the text ends or where a separator follows (`mem_splitOn`). The first part and the
last are known from where the first and the last separator stand (`eq_of_append_cons_eq`,
`eq_of_suffix_of_notMem`).
-/

namespace Scaffold.Text

theorem splitOn_of_notMem {sep : Char} {s : String} (h : sep ∉ s.toList) : splitOn sep s = [s] := by
  rw [splitOn, List.splitOn_eq_singleton h, List.map_singleton, String.ofList_toList]

/-- A text with a separator in it splits there. -/
theorem splitOn_append {sep : Char} {a b : String} :
    splitOn sep (a ++ String.singleton sep ++ b) = splitOn sep a ++ splitOn sep b := by
  simp [splitOn, List.splitOn_append_cons_self]

/-- A text that is put together is taken apart into what its parts are taken apart into. -/
theorem splitOn_intercalate {sep : Char} {parts : List String} (h : parts ≠ []) :
    splitOn sep ((String.singleton sep).intercalate parts) = parts.flatMap (splitOn sep) := by
  induction parts with
  | nil => exact absurd rfl h
  | cons first rest ih =>
    cases rest with
    | nil => simp
    | cons second others =>
      rw [String.intercalate_cons_cons, splitOn_append, List.flatMap_cons,
        ← ih (List.cons_ne_nil _ _)]

/-- Parts without a separator stay whole. -/
theorem flatMap_splitOn_of_notMem {sep : Char} {parts : List String}
    (h : ∀ part ∈ parts, sep ∉ part.toList) : parts.flatMap (splitOn sep) = parts := by
  induction parts with
  | nil => rfl
  | cons first rest ih =>
    rw [List.flatMap_cons, splitOn_of_notMem (h first List.mem_cons_self),
      ih fun part hpart => h part (List.mem_cons_of_mem _ hpart), List.singleton_append]

/-- Between the parts of a split text, the separators make up the text again. -/
theorem intercalate_splitOn (sep : Char) (s : String) :
    (String.singleton sep).intercalate (splitOn sep s) = s := by
  have hparts : (splitOn sep s).map String.toList = s.toList.splitOn sep := by
    rw [splitOn, List.map_map]
    exact List.map_id'' (fun _ => String.toList_ofList) _
  rw [← String.toList_inj, String.toList_intercalate, hparts, String.toList_singleton,
    List.intercalate_splitOn]

/-- A text splits into parts without separators of which the separators make it up. -/
theorem splitOn_eq_iff {sep : Char} {s : String} {parts : List String} :
    splitOn sep s = parts
      ↔ parts ≠ [] ∧ (∀ part ∈ parts, sep ∉ part.toList)
        ∧ (String.singleton sep).intercalate parts = s := by
  constructor
  · rintro rfl
    refine ⟨?_, fun part => notMem_of_mem_splitOn, intercalate_splitOn sep s⟩
    rw [splitOn]
    simp
  · rintro ⟨hne, hparts, rfl⟩
    rw [splitOn_intercalate hne, flatMap_splitOn_of_notMem hparts]

/-! ### Where parts end -/

/-- Behind a part that is put between separators the text ends, or a separator follows. -/
theorem mem_intercalate (sep : Char) {parts : List (List Char)} {part : List Char}
    (h : part ∈ parts) :
    ∃ before after, [sep].intercalate parts = before ++ part ++ after
      ∧ ∀ c rest, after = c :: rest → c = sep := by
  induction parts with
  | nil => cases h
  | cons first others ih =>
    -- a separator follows the first part when there are others
    cases others with
    | nil =>
      rw [List.mem_singleton] at h
      exact ⟨[], [], by simp [h], by simp⟩
    | cons second rest =>
      rw [List.intercalate_cons_cons]
      rcases List.mem_cons.mp h with rfl | h
      · exact ⟨[], [sep] ++ [sep].intercalate (second :: rest), by simp,
          fun c rest e => by simpa using (List.cons.inj e).1.symm⟩
      · obtain ⟨before, after, hsplit, hafter⟩ := ih h
        exact ⟨first ++ [sep] ++ before, after, by simp [hsplit], hafter⟩

/-- Behind a part of a split text the text ends, or a separator follows. -/
theorem mem_splitOn {sep : Char} {cs part : List Char} (h : part ∈ cs.splitOn sep) :
    ∃ before after, cs = before ++ part ++ after ∧ ∀ c rest, after = c :: rest → c = sep := by
  have := mem_intercalate sep h
  rwa [List.intercalate_splitOn] at this

/-- A part of a split text stands in it. -/
theorem infix_of_mem_splitOn {sep : Char} {text part : String} (h : part ∈ splitOn sep text) :
    part.toList <:+: text.toList := by
  rw [splitOn] at h
  obtain ⟨cs, hcs, rfl⟩ := List.mem_map.mp h
  obtain ⟨before, after, htext, -⟩ := mem_splitOn hcs
  rw [htext, String.toList_ofList]
  exact List.infix_append before cs after

/-! ### The first part and the last -/

/-- What stands before the first separator is read up to it. -/
theorem takeWhile_ne_append_cons {sep : Char} {front rest : List Char} (h : sep ∉ front) :
    (front ++ sep :: rest).takeWhile (· != sep) = front := by
  have hfront : ∀ c ∈ front, (c != sep) = true := fun c hc =>
    bne_iff_ne.mpr fun heq => h (heq ▸ hc)
  rw [List.takeWhile_append_of_pos hfront]
  simp

/-- What stands before the first separator is known, and what behind it. -/
theorem eq_of_append_cons_eq {sep : Char} {a b x y : List Char} (ha : sep ∉ a) (hb : sep ∉ b)
    (h : a ++ sep :: x = b ++ sep :: y) : a = b ∧ x = y := by
  induction a generalizing b with
  | nil =>
    cases b with
    | nil => exact ⟨rfl, (List.cons.inj h).2⟩
    | cons c b => exact absurd ((List.cons.inj h).1 ▸ List.mem_cons_self) hb
  | cons c a ih =>
    cases b with
    | nil => exact absurd ((List.cons.inj h).1 ▸ List.mem_cons_self) ha
    | cons c' b =>
      obtain ⟨rfl, htail⟩ := List.cons.inj h
      obtain ⟨rfl, rfl⟩ := ih (fun hc => ha (List.mem_cons_of_mem _ hc))
        (fun hc => hb (List.mem_cons_of_mem _ hc)) htail
      exact ⟨rfl, rfl⟩

/-- Of two texts one of which ends the other, the same stands behind the last separator. -/
theorem eq_of_suffix_of_notMem {sep : Char} {a b x y : List Char} (ha : sep ∉ a) (hb : sep ∉ b)
    (h : x ++ sep :: a <:+ y ++ sep :: b) : a = b := by
  obtain ⟨front, h⟩ := h
  have hrev : a.reverse ++ sep :: (front ++ x).reverse = b.reverse ++ sep :: y.reverse := by
    simpa using congrArg List.reverse h
  exact List.reverse_injective
    (eq_of_append_cons_eq (by simpa using ha) (by simpa using hb) hrev).1

/-- What has no separator in it belongs to the first part. -/
theorem splitOn_append_of_notMem {sep : Char} {front : List Char} (h : sep ∉ front)
    (back : List Char) :
    (front ++ back).splitOn sep = (back.splitOn sep).modifyHead (front ++ ·) := by
  induction front with
  | nil =>
    cases hs : back.splitOn sep with
    | nil => exact absurd hs (List.splitOn_ne_nil sep back)
    | cons first others => simp [hs]
  | cons c front ih =>
    rw [List.mem_cons, not_or] at h
    rw [List.cons_append, List.splitOn_cons_eq_if_modifyHead, if_neg (by simpa using Ne.symm h.1),
      ih h.2]
    cases back.splitOn sep with
    | nil => rfl
    | cons first others => rfl

end Scaffold.Text
