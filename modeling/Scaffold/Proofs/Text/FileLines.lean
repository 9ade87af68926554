import Mathlib.Data.List.Nodup
import Scaffold.Proofs.Identifier
import Scaffold.Proofs.Text.Parts
import Scaffold.Proofs.Text.Split
import Scaffold.Text.Literal

/-!
# Lines of files

A file is made of rendered lines, but a rendered line need not be one line of the file: an
overriding name may have a line feed at its end, and the line breaks there. Such a break stands
behind a part of an identifier. A text of which this holds for every line feed is tame (`IsTame`):
what literals and identifiers make is tame, and a line of the file that does not end like an
identifier is the end of a rendered line (`suffix_of_mem_splitOn`). So a line can be kept out of a
file by looking at how the rendered lines end (`HasEnding.notMem`).
-/

namespace Scaffold.Text

open Identifier

/-! ### Files of lines -/

theorem trimBreaks_of_getLast? {cs : List Char} (h : cs.getLast? ≠ some '\n') :
    trimBreaks cs = cs := by
  have hhead : cs.reverse.dropWhile (· == '\n') = cs.reverse := by
    rw [← List.head?_reverse] at h
    cases hrev : cs.reverse with
    | nil => rfl
    | cons c rest =>
      rw [hrev] at h
      exact List.dropWhile_cons_of_neg (by simpa using h)
  rw [trimBreaks, hhead, List.reverse_reverse]

/-- Joined texts end as the last one does. -/
theorem getLast?_intercalate {sep last : List Char} {c : Char} (hlast : last.getLast? = some c)
    (texts : List (List Char)) : (sep.intercalate (texts ++ [last])).getLast? = some c := by
  induction texts with
  | nil => simpa using hlast
  | cons first rest ih =>
    rw [List.cons_append, List.intercalate_cons_of_ne_nil (by simp), List.getLast?_append, ih,
      Option.some_or]

/-- A file whose last rendered line is not empty has its lines with line feeds behind them. -/
theorem joinLines_eq {lines : List String} {last : String} {c : Char}
    (hlast : last.toList.getLast? = some c) (hc : c ≠ '\n') :
    joinLines (lines ++ [last]) = "\n".intercalate (lines ++ [last]) ++ "\n" := by
  rw [joinLines, trimBreaks_of_getLast?]
  · simp [← String.toList_inj]
  · rw [List.map_append, List.map_singleton, getLast?_intercalate hlast]
    simpa using hc

/-- The lines of a file whose last rendered line is not empty: those that the rendered lines break
into, and nothing behind the last line feed. -/
theorem splitOn_joinLines {lines : List String} {last : String} {c : Char}
    (hlast : last.toList.getLast? = some c) (hc : c ≠ '\n') :
    splitOn '\n' (joinLines (lines ++ [last]))
      = lines.flatMap (splitOn '\n') ++ splitOn '\n' last ++ [""] := by
  have hjoin : joinLines (lines ++ [last])
      = (String.singleton '\n').intercalate (lines ++ [last]) ++ String.singleton '\n' ++ "" := by
    rw [joinLines_eq hlast hc, String.append_empty]
    rfl
  rw [hjoin, splitOn_append, splitOn_intercalate (by simp), List.flatMap_append]
  simp [splitOn_of_notMem]

/-! ### Tame texts -/

/-- Every line feed stands behind a part of an identifier. -/
def IsTame (s : String) : Prop :=
  ∀ before after, s.toList = before ++ '\n' :: after →
    ∃ c, before.getLast? = some c ∧ isPart c = true

theorem isTame_of_notMem {s : String} (h : '\n' ∉ s.toList) : IsTame s := by
  intro before after heq
  exact absurd (heq ▸ List.mem_append_right _ List.mem_cons_self) h

/-- Whether there is no line feed. -/
def lacksBreak (cs : List Char) : Bool := !cs.contains '\n'

theorem notMem_of_lacksBreak {cs : List Char} (h : lacksBreak cs = true) : '\n' ∉ cs := by
  simpa [lacksBreak] using h

/-- The characters of a literal are known, so that the line feed is looked for in a list. -/
theorem IsTame.literal {cs : List Char} (h : lacksBreak cs = true) : IsTame (String.ofList cs) := by
  apply isTame_of_notMem
  rw [String.toList_ofList]
  exact notMem_of_lacksBreak h

theorem IsTame.append {s t : String} (hs : IsTame s) (ht : IsTame t) : IsTame (s ++ t) := by
  intro before after heq
  rw [String.toList_append] at heq
  rcases List.append_eq_append_iff.mp heq with ⟨front, hbefore, hrest⟩ | ⟨front, hsplit, hafter⟩
  · obtain ⟨c, hlast, hc⟩ := ht front after hrest
    exact ⟨c, by rw [hbefore, List.getLast?_append, hlast, Option.some_or], hc⟩
  · cases front with
    | nil =>
      obtain ⟨c, hlast, -⟩ := ht [] after hafter.symm
      cases hlast
    | cons c front =>
      obtain ⟨rfl, -⟩ := List.cons.inj hafter
      exact hs before front hsplit

theorem IsTame.of_isIdentifier {s : String} (h : isIdentifier s = true) : IsTame s := by
  obtain ⟨name, hne, hparts, heq⟩ := exists_of_isIdentifier h
  have hbreak : '\n' ∉ name := fun hmem => absurd (hparts _ hmem) (by decide)
  -- the only line feed is the last character, with the whole name in front of it
  intro before after hsplit
  rcases heq with heq | heq
  · exact absurd (heq ▸ hsplit ▸ List.mem_append_right _ List.mem_cons_self) hbreak
  · have hbefore : before = name := by
      rcases List.append_eq_append_iff.mp (heq.symm.trans hsplit) with
        ⟨front, hbefore, hrest⟩ | ⟨front, hname, hafter⟩
      · cases front with
        | nil => simpa using hbefore
        | cons c front => simp at hrest
      · cases front with
        | nil => simpa using hname.symm
        | cons c front =>
          obtain ⟨rfl, -⟩ := List.cons.inj hafter
          exact absurd (hname ▸ List.mem_append_right _ List.mem_cons_self) hbreak
    rw [hbefore]
    exact ⟨name.getLast hne, List.getLast?_eq_some_getLast hne, hparts _ (List.getLast_mem hne)⟩

theorem isPiecewise_tame : IsPiecewise lacksBreak IsTame where
  empty := .literal rfl
  append := .append
  literal := .literal

/-- Whether a text ends with a character that no identifier ends with. -/
def endsOutside (cs : List Char) : Bool :=
  cs.getLast?.any fun c => !isPart c && c != '\n'

theorem endsOutside_iff {cs : List Char} :
    endsOutside cs = true ↔ ∃ c, cs.getLast? = some c ∧ isPart c = false ∧ c ≠ '\n' := by
  simp [endsOutside, Option.any_eq_true]

theorem endsOutside_append (front : List Char) {back : List Char} (h : endsOutside back = true) :
    endsOutside (front ++ back) = true := by
  obtain ⟨c, hlast, hc⟩ := endsOutside_iff.mp h
  refine endsOutside_iff.mpr ⟨c, ?_, hc⟩
  rw [List.getLast?_append, hlast, Option.some_or]

/-- A line of a tame text that does not end like an identifier is the end of the text. -/
theorem suffix_of_mem_splitOn {s line : String} (hs : IsTame s)
    (hline : endsOutside line.toList = true) (h : line ∈ splitOn '\n' s) :
    line.toList <:+ s.toList := by
  obtain ⟨c, hlast, hc, -⟩ := endsOutside_iff.mp hline
  rw [splitOn] at h
  obtain ⟨part, hpart, rfl⟩ := List.mem_map.mp h
  rw [String.toList_ofList] at hlast ⊢
  obtain ⟨before, after, heq, hafter⟩ := mem_splitOn hpart
  -- a line feed behind the line would stand behind a part of an identifier
  cases after with
  | nil => exact ⟨before, by rw [heq, List.append_nil]⟩
  | cons sep rest =>
    obtain rfl := hafter sep rest rfl
    obtain ⟨c', hlast', hc'⟩ := hs _ rest heq
    rw [List.getLast?_append, hlast, Option.some_or] at hlast'
    rw [Option.some.inj hlast', hc'] at hc
    cases hc

theorem mem_encodeChar {cs : List Char} {x c : Char} (hx : x ∈ cs)
    (h : c ∈ Literal.encodeChar x) : c ≠ '\n' ∧ (c ∈ cs ∨ c ∈ ['\'', '\\', 'n']) := by
  unfold Literal.encodeChar at h
  split at h
  next =>
    obtain rfl : c = '\\' := by simpa using h
    exact ⟨by decide, .inr (by decide)⟩
  next =>
    split at h
    next =>
      obtain rfl | rfl : c = '\\' ∨ c = '\'' := by simpa using h
      · exact ⟨by decide, .inr (by decide)⟩
      · exact ⟨by decide, .inr (by decide)⟩
    next =>
      split at h
      next =>
        obtain rfl | rfl : c = '\\' ∨ c = 'n' := by simpa using h
        · exact ⟨by decide, .inr (by decide)⟩
        · exact ⟨by decide, .inr (by decide)⟩
      next hbreak =>
        obtain rfl := List.mem_singleton.mp h
        exact ⟨hbreak, .inl hx⟩

/-- What stands in a literal are the characters of its text, and those that escape and enclose. -/
theorem mem_of_mem_literal {s : String} {c : Char} (h : c ∈ (literal s).toList) :
    c ≠ '\n' ∧ (c ∈ s.toList ∨ c ∈ ['\'', '\\', 'n']) := by
  simp only [literal, String.toList_append, String.toList_ofList, List.mem_append] at h
  rcases h with (h | h) | h
  · obtain rfl : c = '\'' := by simpa using h
    exact ⟨by decide, .inr (by decide)⟩
  · obtain ⟨x, hx, hc⟩ := List.mem_flatMap.mp h
    exact mem_encodeChar hx hc
  · obtain rfl : c = '\'' := by simpa using h
    exact ⟨by decide, .inr (by decide)⟩

/-- A character that needs no escape stands in the literal. -/
theorem mem_literal {s : String} {c : Char} (h : c ∈ s.toList)
    (hc : Literal.encodeChar c = [c]) : c ∈ (literal s).toList := by
  have hencode : c ∈ Literal.encode s.toList :=
    List.mem_flatMap.mpr ⟨c, h, by rw [hc]; exact List.mem_singleton_self c⟩
  simp [literal, hencode]

/-! ### Lines that a file has once for each item -/

/-- A line that one item makes once, and no other item makes, is there as often as the item. -/
theorem count_flatMap {α : Type} [DecidableEq α] {items : List α} {lines : α → List String}
    (item : α) {line : String}
    (h : ∀ a ∈ items, (lines a).count line = if a = item then 1 else 0) :
    (items.flatMap lines).count line = items.count item := by
  induction items with
  | nil => rfl
  | cons a rest ih =>
    rw [List.flatMap_cons, List.count_append, h a List.mem_cons_self, List.count_cons,
      ih fun b hb => h b (List.mem_cons_of_mem _ hb)]
    by_cases ha : a = item <;> simp [ha, Nat.add_comm]

/-- Where each item makes a line, the lines of one item are there as often as the item. -/
theorem countP_map {α : Type} [DecidableEq α] {items : List α} {f : α → String} {p : String → Bool}
    (item : α) (h : ∀ a ∈ items, p (f a) = true ↔ a = item) :
    (items.map f).countP p = items.count item := by
  rw [List.countP_map, List.count]
  exact List.countP_congr (by simpa using h)

/-- Where different items make different lines, there is one line for each. -/
theorem count_map_eq_one {α : Type} [DecidableEq α] {items : List α} {f : α → String} {item : α}
    (hnodup : items.Nodup) (hitem : item ∈ items) (h : ∀ a ∈ items, f a = f item → a = item) :
    (items.map f).count (f item) = 1 := by
  have hcount : (items.map f).count (f item) = items.count item :=
    countP_map item fun a ha => beq_iff_eq.trans ⟨h a ha, fun heq => by rw [heq]⟩
  rw [hcount, List.count_eq_one_of_mem hnodup hitem]

/-! ### Lines that a file does not have -/

/-- A tame text that has none of some endings. -/
structure Avoids (endings : List (List Char)) (s : String) : Prop where
  tame : IsTame s
  not_suffix : ∀ ending ∈ endings, ¬ ending <:+ s.toList

/-- Two texts neither of which ends the other. -/
def EndApart (s t : List Char) : Prop := ¬ s <:+ t ∧ ¬ t <:+ s

instance (s t : List Char) : Decidable (EndApart s t) := inferInstanceAs (Decidable (_ ∧ _))

/-- Of two endings of a text one is an ending of the other. -/
theorem EndApart.not_suffix_append {ending back : List Char} (h : EndApart ending back)
    (front : List Char) : ¬ ending <:+ front ++ back := by
  intro hsuffix
  rcases List.suffix_or_suffix_of_suffix hsuffix (List.suffix_append front back) with h' | h'
  · exact h.1 h'
  · exact h.2 h'

/-- Neither of two texts ends the other when each has a character that the other has not. -/
theorem EndApart.of_mem {s t : List Char} {c c' : Char} (hc : c ∈ s) (hct : c ∉ t) (hc' : c' ∈ t)
    (hcs : c' ∉ s) : EndApart s t :=
  ⟨fun h => hct (h.subset hc), fun h => hcs (h.subset hc')⟩

/-- A literal whose characters show that it has none of the endings. -/
theorem Avoids.literal {endings : List (List Char)} {cs : List Char}
    (h : (lacksBreak cs && endings.all fun ending => decide (¬ ending <:+ cs)) = true) :
    Avoids endings (String.ofList cs) := by
  rw [Bool.and_eq_true, List.all_eq_true] at h
  refine ⟨.literal h.1, fun ending hending => ?_⟩
  rw [String.toList_ofList]
  exact of_decide_eq_true (h.2 ending hending)

/-- A text that ends in a literal. -/
theorem Avoids.append_literal {endings : List (List Char)} {front : String} {back : List Char}
    (hfront : IsTame front)
    (h : (lacksBreak back && endings.all fun ending => decide (EndApart ending back)) = true) :
    Avoids endings (front ++ String.ofList back) := by
  rw [Bool.and_eq_true, List.all_eq_true] at h
  refine ⟨hfront.append (.literal h.1), fun ending hending => ?_⟩
  rw [String.toList_append, String.toList_ofList]
  exact (of_decide_eq_true (h.2 ending hending)).not_suffix_append _

/-! ### Lines with identifiers in them -/

/-- Whether parts, from the last one on, show that their text does not end in some way, if what is
given in it are identifiers. -/
def lacksEnding (ending : List Char) : List TextPart → Bool
  | [] => !ending.isEmpty
  | .fixed cs :: rest =>
    if cs.isSuffixOf ending then lacksEnding (ending.take (ending.length - cs.length)) rest
    else !ending.isSuffixOf cs
  | .given _ :: _ => endsOutside ending

/-- A text that ends in an identifier ends in nothing that no identifier ends in. -/
theorem not_suffix_append_identifier {name : String} (hname : isIdentifier name = true)
    {ending : List Char} (h : endsOutside ending = true) (front : List Char) :
    ¬ ending <:+ front ++ name.toList := by
  rintro ⟨before, heq⟩
  obtain ⟨c, hlast, hc, hbreak⟩ := endsOutside_iff.mp h
  have hne : name.toList ≠ [] :=
    fun hnil => ne_empty_of_isIdentifier hname (String.toList_eq_nil_iff.mp hnil)
  have hends := congrArg List.getLast? heq
  rw [List.getLast?_append, hlast, Option.some_or, List.getLast?_append_of_ne_nil _ hne] at hends
  exact notMem_of_isIdentifier hname hc hbreak (List.mem_of_getLast? hends.symm)

theorem not_suffix_of_lacksEnding {parts : List TextPart}
    (hgiven : ∀ s, .given s ∈ parts → isIdentifier s = true) {ending : List Char}
    (h : lacksEnding ending parts = true) : ¬ ending <:+ (ofParts parts.reverse).toList := by
  induction parts generalizing ending with
  | nil =>
    intro hsuffix
    have hnil : ending = [] := List.suffix_nil.mp hsuffix
    simp [lacksEnding, hnil] at h
  | cons part rest ih =>
    rw [List.reverse_cons, ofParts_append, ofParts_singleton, String.toList_append]
    cases part with
    | fixed cs =>
      rw [TextPart.text, String.toList_ofList]
      rw [lacksEnding] at h
      split at h
      next hcs =>
        -- what the ending has in front of the part is looked for in front of it
        obtain ⟨before, rfl⟩ := List.isSuffixOf_iff_suffix.mp hcs
        rw [List.length_append, Nat.add_sub_cancel, List.take_left] at h
        rintro ⟨front, heq⟩
        rw [← List.append_assoc] at heq
        exact ih (fun s hs => hgiven s (.tail _ hs)) h ⟨front, List.append_cancel_right heq⟩
      next hcs =>
        rw [Bool.not_eq_true', ← Bool.not_eq_true, List.isSuffixOf_iff_suffix] at h
        rw [List.isSuffixOf_iff_suffix] at hcs
        exact EndApart.not_suffix_append ⟨h, hcs⟩ _
    | given name => exact not_suffix_append_identifier (hgiven name List.mem_cons_self) h _

/-- Lines with identifiers in them have none of some endings when their parts show it. -/
theorem avoids_lines {endings : List (List Char)} {lines : List String}
    {parts : List (List TextPart)} [hlines : AreMadeOf lines parts]
    (hfixed : (parts.all fun ps => ps.all (TextPart.passes lacksBreak)
      && endings.all fun ending => lacksEnding ending ps.reverse) = true)
    (hgiven : ∀ s ∈ givenTexts parts, isIdentifier s = true) :
    ∀ line ∈ lines, Avoids endings line := by
  rw [hlines.eq_map_ofParts]
  refine List.forall_mem_map.mpr fun ps hps => ?_
  have hidentifiers : ∀ s, .given s ∈ ps → isIdentifier s = true :=
    fun s hs => hgiven s (mem_givenTexts hps hs)
  obtain ⟨htame, hends⟩ := Bool.and_eq_true_iff.mp (List.all_eq_true.mp hfixed ps hps)
  constructor
  · exact isPiecewise_tame.holds_ofParts htame fun s hs => .of_isIdentifier (hidentifiers s hs)
  · intro ending hending
    have hend := not_suffix_of_lacksEnding (fun s hs => hidentifiers s (List.mem_reverse.mp hs))
      (List.all_eq_true.mp hends ending hending)
    rwa [List.reverse_reverse] at hend

/-! ### Lines that are kept out of a file -/

/-- A line that ends with one of some endings, and not like an identifier. -/
structure HasEnding (endings : List (List Char)) (line : String) : Prop where
  outside : endsOutside line.toList = true
  exists_suffix : ∃ ending ∈ endings, ending <:+ line.toList

/-- A line that ends in such a literal. -/
theorem HasEnding.append {endings : List (List Char)} {back : List Char} (front : String)
    (h : (endsOutside back && endings.contains back) = true) :
    HasEnding endings (front ++ String.ofList back) := by
  rw [Bool.and_eq_true, List.contains_iff_mem] at h
  constructor
  · rw [String.toList_append, String.toList_ofList]
    exact endsOutside_append _ h.1
  · exact ⟨back, h.2, by simp⟩

theorem HasEnding.mono {endings others : List (List Char)} {line : String}
    (h : HasEnding endings line) (hsubset : endings ⊆ others) : HasEnding others line := by
  obtain ⟨ending, hending, hsuffix⟩ := h.exists_suffix
  exact ⟨h.outside, ending, hsubset hending, hsuffix⟩

/-- A line with one of the endings that all rendered lines avoid is not in the file. -/
theorem HasEnding.notMem {endings : List (List Char)} {line : String}
    (hline : HasEnding endings line) {lines : List String} (h : ∀ s ∈ lines, Avoids endings s) :
    line ∉ lines.flatMap (splitOn '\n') := by
  intro hmem
  obtain ⟨s, hs, hsplit⟩ := List.mem_flatMap.mp hmem
  obtain ⟨ending, hending, hsuffix⟩ := hline.exists_suffix
  have hend := suffix_of_mem_splitOn (h s hs).tame hline.outside hsplit
  exact (h s hs).not_suffix ending hending (hsuffix.trans hend)

end Scaffold.Text
