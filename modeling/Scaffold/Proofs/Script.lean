import Scaffold.Proofs.ListLemmas
import Scaffold.Proofs.Text.Unbroken
import Scaffold.Script
import Scaffold.Text.Lines

/-!
# Lines in files

Entries that stand one on a line have a comma behind each but the last: separating them changes
nothing but that (`forall₂_commaSeparated`, `exists_commaSeparatedBlocks`). `HasLines` says that a
file has some rendered lines one behind another; what is put together of parts has each of them.
-/

namespace Scaffold

/-- A line that is an entry, perhaps with a comma behind it. -/
def IsEntry (entry line : String) : Prop := line = entry ∨ line = entry ++ ","

/-! ### Lines inside blocks -/

/-- A line that begins with some blanks, and does not break. -/
structure IsInner (blanks line : String) : Prop where
  indented : blanks.toList <+: line.toList
  unbroken : Text.Unbroken line

/-- A line of a block goes on with texts that do not break. -/
theorem IsInner.append {blanks line text : String} (h : IsInner blanks line)
    (ht : Text.Unbroken text) :
    IsInner blanks (line ++ text) := by
  refine ⟨?_, h.unbroken.append ht⟩
  rw [String.toList_append]
  exact h.indented.trans (List.prefix_append _ _)

theorem isInner_enclosed {blanks front text back : String}
    (hblanks : blanks.toList <+: front.toList)
    (hfront : Text.Unbroken front) (htext : Text.Unbroken text) (hback : Text.Unbroken back) :
    IsInner blanks (front ++ text ++ back) :=
  (IsInner.append ⟨hblanks, hfront⟩ htext).append hback

/-! ### Entries between commas -/

theorem mem_commaSeparated {line : String} {lines : List String} (h : line ∈ commaSeparated lines) :
    ∃ l ∈ lines, IsEntry l line := by
  fun_induction commaSeparated lines with
  | case1 => cases h
  | case2 last => exact ⟨last, List.mem_cons_self, .inl (List.mem_singleton.mp h)⟩
  | case3 first next rest ih =>
    rcases List.mem_cons.mp h with rfl | h
    · exact ⟨first, List.mem_cons_self, .inr rfl⟩
    · obtain ⟨l, hl, heq⟩ := ih h
      exact ⟨l, List.mem_cons_of_mem _ hl, heq⟩

/-- What does not depend on commas holds of as many lines behind them. -/
theorem countP_commaSeparated {p : String → Bool} {lines : List String}
    (h : ∀ line ∈ lines, p (line ++ ",") = p line) :
    (commaSeparated lines).countP p = lines.countP p := by
  fun_induction commaSeparated lines with
  | case1 => rfl
  | case2 last => rfl
  | case3 first next rest ih =>
    rw [List.countP_cons, List.countP_cons, h first List.mem_cons_self,
      ih fun line hline => h line (List.mem_cons_of_mem _ hline)]

/-- Entries that are separated by commas are the same entries, in the same order. -/
theorem forall₂_commaSeparated (entries : List String) :
    List.Forall₂ IsEntry entries (commaSeparated entries) := by
  fun_induction commaSeparated entries with
  | case1 => exact .nil
  | case2 last => exact .cons (.inl rfl) .nil
  | case3 first next rest ih => exact .cons (.inr rfl) ih

/-- So are blocks that are separated by commas. -/
theorem exists_commaSeparatedBlocks (entries : List (List String × String)) :
    ∃ blocks, commaSeparatedBlocks entries = blocks.flatten
      ∧ List.Forall₂ (fun entry block => ∃ last, IsEntry entry.2 last ∧ block = entry.1 ++ [last])
        entries blocks := by
  fun_induction commaSeparatedBlocks entries with
  | case1 => exact ⟨[], rfl, .nil⟩
  | case2 body last =>
    refine ⟨[body ++ [last]], ?_, .cons ⟨last, .inl rfl, rfl⟩ .nil⟩
    rw [List.flatten_cons, List.flatten_nil, List.append_nil]
  | case3 body last next rest ih =>
    obtain ⟨blocks, heq, hblocks⟩ := ih
    refine ⟨(body ++ [last ++ ","]) :: blocks, ?_, .cons ⟨_, .inr rfl, rfl⟩ hblocks⟩
    rw [List.flatten_cons, heq, List.append_assoc, List.singleton_append]

section

variable {α : Type} {items : List α} {key : α → String}

/-- What is made of items one by one stands for their keys. -/
theorem forall₂_map_key {β : Type} {f : α → β} {shape : String → β → Prop}
    (h : ∀ item ∈ items, shape (key item) (f item)) :
    List.Forall₂ shape (items.map key) (items.map f) := by
  rw [List.forall₂_map_left_iff, List.forall₂_map_right_iff, List.forall₂_same]
  exact h

/-- So does what is made of each of them by a relation. -/
theorem forall₂_map_key_of {β γ : Type} {f : α → β} {made : β → γ → Prop} {parts : List γ}
    (hparts : List.Forall₂ made (items.map f) parts) {shape : String → γ → Prop}
    (h : ∀ item ∈ items, ∀ part, made (f item) part → shape (key item) part) :
    List.Forall₂ shape (items.map key) parts := by
  rw [List.forall₂_map_left_iff] at hparts ⊢
  exact forall₂_imp_of_mem hparts h

end

/-! ### Lines that a file has -/

/-- A content with these rendered lines one behind another. -/
def HasLines (content : String) (lines : List String) : Prop :=
  ∃ all, content = Text.joinLines all ∧ lines <:+: all

theorem hasLines_joinLines {all lines : List String} (h : lines <:+: all) :
    HasLines (Text.joinLines all) lines := ⟨all, rfl, h⟩

/-- Some of the lines stand one behind another, too. -/
theorem HasLines.part {content : String} {lines part : List String} (h : HasLines content lines)
    (hpart : part <:+: lines) : HasLines content part := by
  obtain ⟨all, rfl, hlines⟩ := h
  exact ⟨all, rfl, hpart.trans hlines⟩

/-- Lines stand between what the lines in front end in and what the lines behind begin with. -/
theorem infix_around {α : Type} {opening front closing back : List α} (lines : List α)
    (ho : opening <:+ front) (hc : closing <+: back) :
    opening ++ (lines ++ closing) <:+: front ++ (lines ++ back) := by
  obtain ⟨before, rfl⟩ := ho
  obtain ⟨behind, rfl⟩ := hc
  refine ⟨before, behind, ?_⟩
  simp only [List.append_assoc]

/-- A part is somewhere in what is put together of it and others. -/
theorem infix_intercalate {α : Type} {sep part : List α} {parts : List (List α)}
    (h : part ∈ parts) :
    part <:+: sep.intercalate parts := by
  induction parts with
  | nil => cases h
  | cons first rest ih =>
    cases rest with
    | nil =>
      obtain rfl := List.mem_singleton.mp h
      simp
    | cons second others =>
      rw [List.intercalate_cons_cons]
      rcases List.mem_cons.mp h with rfl | h
      · rw [List.append_assoc]
        exact (List.prefix_append _ _).isInfix
      · exact (ih h).trans (List.suffix_append _ _).isInfix

/-- What is in lists with others between them is in one of those. -/
theorem exists_of_mem_intercalate {α : Type} {a : α} {sep : List α} {parts : List (List α)}
    (h : a ∈ sep.intercalate parts) : a ∈ sep ∨ ∃ part ∈ parts, a ∈ part := by
  induction parts with
  | nil => cases h
  | cons first rest ih =>
    cases rest with
    | nil =>
      rw [List.intercalate_singleton] at h
      exact .inr ⟨first, List.mem_cons_self, h⟩
    | cons second others =>
      rw [List.intercalate_cons_cons, List.mem_append, List.mem_append] at h
      rcases h with (h | h) | h
      · exact .inr ⟨first, List.mem_cons_self, h⟩
      · exact .inl h
      · exact (ih h).imp_right fun ⟨part, hpart, ha⟩ => ⟨part, List.mem_cons_of_mem _ hpart, ha⟩

theorem map_intercalate {α β : Type} (f : α → β) (sep : List α) (parts : List (List α)) :
    (sep.intercalate parts).map f = (sep.map f).intercalate (parts.map (List.map f)) := by
  induction parts with
  | nil => rfl
  | cons first rest ih =>
    cases rest with
    | nil => simp
    | cons second others =>
      rw [List.intercalate_cons_cons, List.map_append, List.map_append, ih]
      simp

end Scaffold
