import Mathlib.Data.List.TakeWhile
import Scaffold.Proofs.Text.FileLines
import Scaffold.Proofs.Text.Occurrences

/-!
# Constants in exported functions

A generated file may export a function that is made of constants. Their declarations are the lines
with two blanks and `const` in front of a name (`constants`); what inner functions declare stands
further in. A rendered line declares one of them or none (`Declares`, `Silent`), although the names
in it may break it: no text in its middle begins with two blanks (`IsInline`).
-/

namespace Scaffold.Text

open Identifier

/-! ### Reading -/

/-- The identifier that a text begins with. -/
def word (s : String) : String := String.ofList (s.toList.takeWhile isPart)

/-- What stands in front of the name of a constant at the top level of an exported function. -/
def constStart : List Char := [' ', ' ', 'c', 'o', 'n', 's', 't', ' ']

/-- The constant that a line declares there. -/
def constant? (line : String) : Option String :=
  if constStart <+: line.toList then
    some (String.ofList ((line.toList.drop constStart.length).takeWhile isPart))
  else none

/-- The constants at the top level of the function that a file exports. -/
def constants (content : String) : List String :=
  (splitOn '\n' content).filterMap constant?

/-- The constants that rendered lines declare there. -/
def declared (lines : List String) : List String :=
  (lines.flatMap (splitOn '\n')).filterMap constant?

@[simp] theorem declared_nil : declared [] = [] := rfl

theorem declared_cons (line : String) (lines : List String) :
    declared (line :: lines) = (splitOn '\n' line).filterMap constant? ++ declared lines := by
  rw [declared, List.flatMap_cons, List.filterMap_append, declared]

@[simp] theorem declared_append (lines others : List String) :
    declared (lines ++ others) = declared lines ++ declared others := by
  rw [declared, List.flatMap_append, List.filterMap_append, declared, declared]

/-! ### Texts within a line -/

/-- Two blanks begin neither the text nor a line in it, even if another blank follows. -/
def IsInline (s : String) : Prop :=
  ∀ after, '\n' :: after <:+ '\n' :: s.toList → ¬ [' ', ' '] <+: after ++ [' ']

theorem IsInline.append {s t : String} (hs : IsInline s) (ht : IsInline t) : IsInline (s ++ t) := by
  rintro after ⟨before, heq⟩ hblanks
  rw [String.toList_append, ← List.cons_append] at heq
  rcases List.append_eq_append_iff.mp heq with ⟨front, hs', hafter⟩ | ⟨front, -, ht'⟩
  · cases front with
    | nil => exact ht after (hafter ▸ List.suffix_cons _ _) hblanks
    | cons c front =>
      -- the line begins in the first text and goes on in the second
      obtain ⟨rfl, rfl⟩ := List.cons.inj hafter
      have hfirst := hs front ⟨before, hs'.symm⟩
      have hsecond := ht t.toList (List.suffix_refl _)
      match front with
      | [] => exact hsecond hblanks
      | [x] => simp_all
      | x :: y :: rest =>
        rw [List.append_eq, List.append_assoc] at hblanks
        simp only [List.cons_append, List.cons_prefix_cons, List.nil_prefix, and_true]
          at hfirst hblanks
        exact hfirst hblanks
  · have hsuffix : '\n' :: after <:+ t.toList := ht' ▸ List.suffix_append _ _
    exact ht after (hsuffix.trans (List.suffix_cons _ _)) hblanks

theorem isInline_of_unbroken {s : String} (hbreak : '\n' ∉ s.toList)
    (hblanks : ¬ [' ', ' '] <+: s.toList ++ [' ']) : IsInline s := by
  intro after hafter
  rcases List.suffix_cons_iff.mp hafter with heq | hafter
  · rwa [(List.cons.inj heq).2]
  · exact absurd (hafter.subset List.mem_cons_self) hbreak

/-- Whether there is no line feed, and two blanks do not begin the text. -/
def staysInline (cs : List Char) : Bool := lacksBreak cs && !([' ', ' '].isPrefixOf (cs ++ [' ']))

/-- The characters of a literal are known, so that blanks are looked for in a list. -/
theorem IsInline.literal {cs : List Char} (h : staysInline cs = true) :
    IsInline (String.ofList cs) := by
  rw [staysInline, Bool.and_eq_true, Bool.not_eq_true'] at h
  apply isInline_of_unbroken <;> rw [String.toList_ofList]
  · exact notMem_of_lacksBreak h.1
  · exact fun hblanks => by simp [List.isPrefixOf_iff_prefix.mpr hblanks] at h

theorem isPiecewise_inline : IsPiecewise staysInline IsInline where
  empty := .literal rfl
  append := .append
  literal := .literal

/-- A text without blanks. -/
theorem isInline_of_notMem {s : String} (h : ' ' ∉ s.toList) : IsInline s := by
  intro after hafter hblanks
  cases after with
  | nil => simp at hblanks
  | cons c rest =>
    obtain ⟨rfl, -⟩ := List.cons_prefix_cons.mp hblanks
    have hmem := hafter.subset (List.mem_cons_of_mem _ List.mem_cons_self)
    exact h ((List.mem_cons.mp hmem).resolve_left (by decide))

theorem IsInline.of_isIdentifier {s : String} (h : isIdentifier s = true) : IsInline s :=
  isInline_of_notMem (notMem_of_isIdentifier h (by decide) (by decide))

theorem isInline_quoted (s : String) : IsInline (literal s) := by
  apply isInline_of_unbroken
  · exact fun h => (mem_of_mem_literal h).1 rfl
  · simp [literal]

/-! ### What rendered lines declare -/

/-- A text splits into its first line, and lines that stand behind a line feed. -/
theorem exists_splitOn (sep : Char) (cs : List Char) :
    ∃ others, cs.splitOn sep = cs.takeWhile (· != sep) :: others
      ∧ ∀ part ∈ others, ∃ after, sep :: after <:+ cs ∧ part <+: after := by
  induction cs with
  | nil => exact ⟨[], rfl, by simp⟩
  | cons c rest ih =>
    obtain ⟨others, hsplit, hothers⟩ := ih
    have hbehind : ∀ part ∈ others, ∃ after, sep :: after <:+ c :: rest ∧ part <+: after := by
      intro part hpart
      obtain ⟨after, hafter, hbegin⟩ := hothers part hpart
      exact ⟨after, hafter.trans (List.suffix_cons _ _), hbegin⟩
    rw [List.splitOn_cons_eq_if_modifyHead]
    by_cases hc : c = sep
    · subst hc
      refine ⟨rest.splitOn c, by simp, ?_⟩
      rw [hsplit]
      exact List.forall_mem_cons.mpr
        ⟨⟨rest, List.suffix_refl _, List.takeWhile_prefix _⟩, hbehind⟩
    · exact ⟨others, by simp [hc, hsplit], hbehind⟩

/-- What a rendered line declares is declared by its first line. -/
theorem filterMap_splitOn {front rest : String} (hfront : '\n' ∉ front.toList)
    (hrest : IsInline rest) :
    (splitOn '\n' (front ++ rest)).filterMap constant?
      = (constant? (front ++ String.ofList (rest.toList.takeWhile (· != '\n')))).toList := by
  obtain ⟨others, hsplit, hothers⟩ := exists_splitOn '\n' (front ++ rest).toList
  have hfirst : String.ofList ((front ++ rest).toList.takeWhile (· != '\n'))
      = front ++ String.ofList (rest.toList.takeWhile (· != '\n')) := by
    have hchars : ∀ c ∈ front.toList, (c != '\n') = true := fun c hc =>
      bne_iff_ne.mpr fun heq => hfront (heq ▸ hc)
    rw [String.toList_append, List.takeWhile_append_of_pos hchars, String.ofList_append,
      String.ofList_toList]
  have hnone : (others.map String.ofList).filterMap constant? = [] := by
    rw [List.filterMap_eq_nil_iff]
    refine List.forall_mem_map.mpr fun part hpart => ?_
    obtain ⟨after, ⟨before, heq⟩, hbegin⟩ := hothers part hpart
    -- the line stands behind a line feed of the rest, and is not indented
    have hsuffix : '\n' :: after <:+ rest.toList := by
      rw [String.toList_append] at heq
      rcases List.append_eq_append_iff.mp heq with ⟨between, hfront', hafter⟩ | ⟨between, -, h⟩
      · cases between with
        | nil => exact ⟨[], hafter⟩
        | cons c between =>
          obtain ⟨rfl, -⟩ := List.cons.inj hafter
          exact absurd (hfront' ▸ List.mem_append_right _ List.mem_cons_self) hfront
      · exact ⟨between, h.symm⟩
    have hindent : ¬ constStart <+: part := by
      intro hconst
      have hblanks : [' ', ' '] <+: constStart := by decide
      exact hrest after (hsuffix.trans (List.suffix_cons _ _))
        ((hblanks.trans (hconst.trans hbegin)).trans (List.prefix_append _ _))
    simp [constant?, hindent]
  rw [splitOn, hsplit, List.map_cons, hfirst, List.filterMap_cons, hnone]
  cases constant? (front ++ String.ofList (rest.toList.takeWhile (· != '\n'))) <;> rfl

/-- A rendered line that declares nothing: it begins in another way, and no line in it is
indented. -/
def Silent (line : String) : Prop :=
  ∃ front rest, line = front ++ rest ∧ '\n' ∉ front.toList
    ∧ (front = "" ∨ differs constStart front.toList = true) ∧ IsInline rest

theorem Silent.literal {cs : List Char}
    (h : (lacksBreak cs && (cs.isEmpty || differs constStart cs)) = true) :
    Silent (String.ofList cs) := by
  rw [Bool.and_eq_true, Bool.or_eq_true, List.isEmpty_iff] at h
  refine ⟨String.ofList cs, "", by simp, ?_, ?_, .literal rfl⟩
  · rw [String.toList_ofList]
    exact notMem_of_lacksBreak h.1
  · rw [String.toList_ofList]
    exact h.2.imp (fun h => by simp [h]) id

theorem Silent.append {s t : String} (hs : Silent s) (ht : IsInline t) : Silent (s ++ t) := by
  obtain ⟨front, rest, rfl, hbreak, hfront, hrest⟩ := hs
  exact ⟨front, rest ++ t, String.append_assoc, hbreak, hfront, hrest.append ht⟩

/-- Whether parts show that their text declares nothing, if what is given in it is inline. -/
def declaresNothing : List TextPart → Bool
  | .fixed cs :: rest =>
    (lacksBreak cs && (cs.isEmpty || differs constStart cs))
      && rest.all (TextPart.passes staysInline)
  | _ => false

theorem silent_ofParts {parts : List TextPart} (hfixed : declaresNothing parts = true)
    (hgiven : ∀ s, .given s ∈ parts → IsInline s) : Silent (ofParts parts) := by
  unfold declaresNothing at hfixed
  split at hfixed
  next cs rest =>
    obtain ⟨hfirst, hrest⟩ := Bool.and_eq_true_iff.mp hfixed
    rw [ofParts_cons]
    refine Silent.append (.literal hfirst) (isPiecewise_inline.holds_ofParts hrest fun s hs => ?_)
    exact hgiven s (.tail _ hs)
  next => cases hfixed

theorem Silent.of_parts {line : String} {parts : List TextPart} [hline : IsMadeOf line parts]
    (hfixed : declaresNothing parts = true) (hgiven : ∀ s ∈ givenTexts [parts], IsInline s) :
    Silent line := by
  rw [hline.eq_ofParts]
  exact silent_ofParts hfixed fun s hs => hgiven s (mem_givenTexts List.mem_cons_self hs)

theorem silent_lines {lines : List String} {parts : List (List TextPart)}
    [hlines : AreMadeOf lines parts] (hfixed : parts.all declaresNothing = true)
    (hgiven : ∀ s ∈ givenTexts parts, IsInline s) : ∀ line ∈ lines, Silent line := by
  rw [hlines.eq_map_ofParts]
  refine List.forall_mem_map.mpr fun ps hps => ?_
  exact silent_ofParts (List.all_eq_true.mp hfixed ps hps) fun s hs =>
    hgiven s (mem_givenTexts hps hs)

theorem Silent.filterMap_eq_nil {line : String} (h : Silent line) :
    (splitOn '\n' line).filterMap constant? = [] := by
  obtain ⟨front, rest, rfl, hbreak, hfront, hrest⟩ := h
  have hindent :
      ¬ constStart <+: (front ++ String.ofList (rest.toList.takeWhile (· != '\n'))).toList := by
    rw [String.toList_append, String.toList_ofList]
    intro hconst
    rcases hfront with rfl | hfront
    · have hblanks : [' ', ' '] <+: constStart := by decide
      exact hrest rest.toList (List.suffix_refl _) (((hblanks.trans hconst).trans
        (List.takeWhile_prefix _)).trans (List.prefix_append _ _))
    · obtain ⟨hfront, hfront'⟩ := not_prefix_of_differs hfront
      rcases List.prefix_or_prefix_of_prefix hconst (List.prefix_append _ _) with h | h
      · exact hfront h
      · exact hfront' h
  rw [filterMap_splitOn hbreak hrest, constant?, if_neg hindent]
  rfl

theorem declared_of_silent {lines : List String} (h : ∀ line ∈ lines, Silent line) :
    declared lines = [] := by
  induction lines with
  | nil => rfl
  | cons first rest ih =>
    obtain ⟨hfirst, hrest⟩ := List.forall_mem_cons.mp h
    rw [declared_cons, hfirst.filterMap_eq_nil, ih hrest]
    rfl

/-- What no identifier has in it ends the identifier at the beginning of a text. -/
theorem takeWhile_append_cons {p : Char → Bool} {c : Char} (hc : p c = false)
    (name rest : List Char) : (name ++ c :: rest).takeWhile p = name.takeWhile p := by
  induction name with
  | nil => simp [hc]
  | cons x name ih =>
    rw [List.cons_append, List.takeWhile_cons, List.takeWhile_cons, ih]

/-- A rendered line that declares a constant. -/
def Declares (name line : String) : Prop :=
  ∃ rest, line = "  const " ++ rest ∧ IsInline rest
    ∧ ∃ c cs, rest.toList = name.toList ++ c :: cs ∧ isPart c = false

theorem Declares.literal {name : String} {c : Char} {cs : List Char} (hname : IsInline name)
    (h : (!isPart c && staysInline (c :: cs)) = true) :
    Declares name ("  const " ++ name ++ String.ofList (c :: cs)) := by
  rw [Bool.and_eq_true, Bool.not_eq_true'] at h
  exact ⟨_, String.append_assoc, hname.append (.literal h.2), c, cs, by simp, h.1⟩

theorem Declares.append {name s t : String} (hs : Declares name s) (ht : IsInline t) :
    Declares name (s ++ t) := by
  obtain ⟨rest, rfl, hrest, c, cs, heq, hc⟩ := hs
  exact ⟨rest ++ t, String.append_assoc, hrest.append ht, c, cs ++ t.toList, by simp [heq], hc⟩

theorem Declares.filterMap_eq {name line : String} (h : Declares name line) :
    (splitOn '\n' line).filterMap constant? = [word name] := by
  obtain ⟨rest, rfl, hrest, c, cs, heq, hc⟩ := h
  -- a line feed is no part of an identifier either
  have hparts : (fun x => decide (isPart x = true ∧ (x != '\n') = true)) = isPart := by
    funext x
    by_cases hx : x = '\n'
    · subst hx
      decide
    · simp [hx]
  have hword : (rest.toList.takeWhile (· != '\n')).takeWhile isPart
      = name.toList.takeWhile isPart := by
    rw [List.takeWhile_takeWhile, hparts, heq, takeWhile_append_cons hc]
  rw [filterMap_splitOn (by decide) hrest, constant?, if_pos]
  · simp [constStart, word, hword]
  · simp [constStart]

theorem Declares.declared_eq {name line : String} (h : Declares name line) :
    declared [line] = [word name] := by
  rw [declared_cons, h.filterMap_eq, declared_nil, List.append_nil]

/-! ### Several constants -/

/-- Items whose lines declare their names. -/
theorem declared_flatMap {α : Type} {items : List α} {name : α → String} {lines : α → List String}
    (h : ∀ item ∈ items, declared (lines item) = [word (name item)]) :
    declared (items.flatMap lines) = (items.map name).map word := by
  induction items with
  | nil => rfl
  | cons item rest ih =>
    obtain ⟨hitem, hrest⟩ := List.forall_mem_cons.mp h
    rw [List.flatMap_cons, declared_append, hitem, ih hrest]
    rfl

/-- A file declares what its rendered lines declare. -/
theorem constants_joinLines {lines : List String} {last : String} {c : Char}
    (hlast : last.toList.getLast? = some c) (hc : c ≠ '\n') :
    constants (joinLines (lines ++ [last])) = declared (lines ++ [last]) := by
  have hempty : [""].filterMap constant? = [] := by decide
  rw [constants, splitOn_joinLines hlast hc, List.filterMap_append, hempty, List.append_nil,
    declared, List.flatMap_append, List.flatMap_singleton]

end Scaffold.Text
