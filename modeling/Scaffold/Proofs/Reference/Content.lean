import Scaffold.Proofs.ListLemmas
import Scaffold.Proofs.Reference.Closed
import Scaffold.Proofs.Script

/-!
# What files have

A script has the lines that its rendered lines break into (`Artifact.IsScript.codeLines_eq`). So
what it imports and uses is bounded when each rendered line is, and it exports and returns what
single lines say (`export?_tokens`, `Artifact.IsScript.mem_returned`).
-/

namespace Scaffold

open Text Reading

/-- A file with code that is made of rendered lines. -/
structure Artifact.IsScript (a : Artifact) (lines : List String) : Prop where
  path : ∃ stem, a.path = stem ++ ".ts"
  content : a.content = joinLines lines
  ending : ∃ last c, lines.getLast? = some last ∧ last.toList.getLast? = some c ∧ c ≠ '\n'

/-! ### Lines of code -/

namespace Artifact

theorem IsScript.isComponent {a : Artifact} {lines : List String} (h : a.IsScript lines) :
    a.isComponent = false := by
  obtain ⟨stem, hstem⟩ := h.path
  refine decide_eq_false fun hsuffix => ?_
  obtain ⟨front, hfront⟩ := hsuffix
  rw [hstem, String.toList_append] at hfront
  have hend := congrArg List.getLast? hfront
  simp at hend

theorem IsScript.codeLines_eq {a : Artifact} {lines : List String} (h : a.IsScript lines) :
    a.codeLines = lines.flatMap (splitOn '\n') ++ [""] := by
  obtain ⟨last, c, hlines, hlast, hc⟩ := h.ending
  have hlines : lines = lines.dropLast ++ [last] := (List.dropLast_append_getLast? last hlines).symm
  rw [codeLines, h.isComponent, h.content, hlines, splitOn_joinLines hlast hc, List.flatMap_append,
    List.flatMap_singleton]
  rfl

theorem IsScript.mem_codeLines {a : Artifact} {lines : List String} (h : a.IsScript lines)
    {s line : String} (hs : s ∈ lines) (hline : line ∈ splitOn '\n' s) : line ∈ a.codeLines := by
  rw [h.codeLines_eq]
  exact List.mem_append_left _ (List.mem_flatMap.mpr ⟨s, hs, hline⟩)

/-- What holds of an empty line, and of every line that a rendered one breaks into, holds of every
line of code. -/
theorem IsScript.forall_codeLines {a : Artifact} {lines : List String} (h : a.IsScript lines)
    {p : String → Prop} (hempty : p "") (hlines : ∀ s ∈ lines, ∀ line ∈ splitOn '\n' s, p line) :
    ∀ line ∈ a.codeLines, p line := by
  intro line hline
  rw [h.codeLines_eq, List.mem_append, List.mem_singleton] at hline
  rcases hline with hline | rfl
  · obtain ⟨s, hs, hline⟩ := List.mem_flatMap.mp hline
    exact hlines s hs line hline
  · exact hempty

/-! ### Bounds -/

section

variable {a : Artifact} {imports : List Import} {sources : List String}
  {made taken : List (String × String)}

theorem mem_of_mem_imports (h : ∀ line ∈ a.codeLines, Cites imports sources (tokens line))
    {i : Import} (hi : i ∈ a.imports) : i ∈ imports := by
  obtain ⟨line, hline, hread⟩ := List.mem_filterMap.mp hi
  exact (h line hline).mem_imports i hread

theorem mem_of_mem_lazySources (h : ∀ line ∈ a.codeLines, Cites imports sources (tokens line))
    {source : String} (hsource : source ∈ a.lazySources) : source ∈ sources := by
  obtain ⟨line, hline, hread⟩ := List.mem_flatMap.mp hsource
  exact (h line hline).mem_sources source hread

theorem mem_of_mem_made (h : ∀ line ∈ a.codeLines, Uses made taken (tokens line))
    {p : String × String} (hp : p ∈ a.made) : p ∈ made := by
  obtain ⟨line, hline, hread⟩ := List.mem_flatMap.mp hp
  exact (h line hline).mem_made p hread

theorem mem_of_mem_taken (h : ∀ line ∈ a.codeLines, Uses made taken (tokens line))
    {p : String × String} (hp : p ∈ a.taken) : p ∈ taken := by
  obtain ⟨line, hline, hread⟩ := List.mem_flatMap.mp hp
  exact (h line hline).mem_taken p hread

theorem IsScript.cites {lines : List String} (h : a.IsScript lines)
    (hlines : ∀ s ∈ lines, CitesText imports sources s) :
    ∀ line ∈ a.codeLines, Cites imports sources (tokens line) := by
  have hempty : Cites [] [] (tokens "") := .of_literal_notMem fun _ => List.not_mem_nil
  exact h.forall_codeLines (hempty.mono (List.nil_subset _) (List.nil_subset _)) hlines

theorem IsScript.uses {lines : List String} (h : a.IsScript lines)
    (hlines : ∀ s ∈ lines, UsesText made taken s) :
    ∀ line ∈ a.codeLines, Uses made taken (tokens line) := by
  have hempty : Uses [] [] (tokens "") := ⟨fun _ h => absurd h List.not_mem_nil,
    fun _ h => absurd h List.not_mem_nil⟩
  exact h.forall_codeLines (hempty.mono (List.nil_subset _) (List.nil_subset _)) hlines

end

end Artifact

/-! ### Names on lines -/

/-- A name that is declared behind the word for exports is exported. -/
theorem export?_tokens {kind name : String} (hkind : kind ∈ ["const", "interface", "class"])
    (hname : IsWord name) (rest : String) :
    export? (tokens ("export " ++ kind ++ " " ++ name ++ " " ++ rest)) = some name := by
  have hlex : ∀ k, k ∈ ["const", "interface", "class"] →
      ∀ back, lex .between (("export " ++ k ++ " ").toList ++ back)
        = .word "export" :: .word k :: lex .between back := by
    intro k hk back
    simp only [List.mem_cons, List.not_mem_nil, or_false] at hk
    rcases hk with rfl | rfl | rfl
    all_goals rfl
  have hline : ("export " ++ kind ++ " " ++ name ++ " " ++ rest).toList
      = ("export " ++ kind ++ " ").toList ++ (name.toList ++ (' ' :: rest.toList)) := by
    simp
  rw [tokens, hline, lineTokens, hlex kind hkind, lex_isWord hname, lex]
  show export? (.word "export" :: .word kind :: .word (String.ofList name.toList) :: _) = _
  rw [export?, if_pos hkind, String.ofList_toList]

/-- A name on a line of its own, perhaps with a comma, is a member. -/
theorem member?_tokens {name line : String} (hname : IsWord name)
    (hline : IsEntry ("    " ++ name) line) : member? (tokens line) = some name := by
  have hblanks : ∀ back, lex .between ("    ".toList ++ back) = lex .between back := fun _ => rfl
  rcases hline with rfl | rfl
  · have htoList : ("    " ++ name).toList = "    ".toList ++ (name.toList ++ []) := by simp
    rw [tokens, htoList, lineTokens, hblanks, lex_isWord hname]
    show some (String.ofList name.toList) = _
    rw [String.ofList_toList]
  · have htoList : ("    " ++ name ++ ",").toList = "    ".toList ++ (name.toList ++ [',']) := by
      simp
    rw [tokens, htoList, lineTokens, hblanks, lex_isWord hname]
    show some (String.ofList name.toList) = _
    rw [String.ofList_toList]

/-! ### What is exported and returned -/

/-- What is not there later stands behind its only line. -/
theorem behindLast_append {line : String} (front : List String) {back : List String}
    (h : line ∉ back) : behindLast line (front ++ line :: back) = back := by
  have hne : ∀ x ∈ back.reverse, decide (x ≠ line) = true := fun x hx =>
    decide_eq_true fun heq => h (heq ▸ List.mem_reverse.mp hx)
  rw [behindLast, if_pos (by simp), List.reverse_append, List.reverse_cons, List.append_assoc,
    List.takeWhile_append_of_pos hne]
  simp

namespace Artifact

variable {a : Artifact} {lines : List String}

/-- What a rendered line exports, its file exports. -/
theorem IsScript.mem_exports (h : a.IsScript lines) {kind name rest : String}
    (hkind : kind ∈ ["const", "interface", "class"]) (hname : IsWord name)
    (hrest : '\n' ∉ rest.toList)
    (hmem : "export " ++ kind ++ " " ++ name ++ " " ++ rest ∈ lines) : name ∈ a.exports := by
  have hbreak : '\n' ∉ ("export " ++ kind ++ " " ++ name ++ " " ++ rest).toList := by
    have hparts : '\n' ∉ name.toList := hname.notMem (by decide)
    simp only [List.mem_cons, List.not_mem_nil, or_false] at hkind
    rcases hkind with rfl | rfl | rfl
    all_goals simp [hparts, hrest]
  refine List.mem_filterMap.mpr ⟨_, h.mem_codeLines hmem ?_, export?_tokens hkind hname rest⟩
  rw [splitOn_of_notMem hbreak]
  exact List.mem_singleton_self _

section

variable {σ : Filling} {closed : String} (h : a.IsScript lines) (hmem : σ.text closed ∈ lines)

include h hmem

/-- What a rendered line imports, makes and takes, its file does. -/
theorem IsScript.mem_imports {i : Import} (hline : holdsOf (importsAs i) [closed] = true) :
    fillImport σ i ∈ a.imports := by
  obtain ⟨line, hsplit, ts, hts, htokens⟩ := exists_line_of_holdsOf (σ := σ) hline
  refine List.mem_filterMap.mpr ⟨line, h.mem_codeLines hmem hsplit, ?_⟩
  rw [htokens]
  exact imported?_map_of_importsAs hts

theorem IsScript.mem_made {p : String × String} (hline : holdsOf (makes p) [closed] = true) :
    fillPair σ p ∈ a.made := by
  obtain ⟨line, hsplit, ts, hts, htokens⟩ := exists_line_of_holdsOf (σ := σ) hline
  refine List.mem_flatMap.mpr ⟨line, h.mem_codeLines hmem hsplit, ?_⟩
  rw [htokens, instances_map]
  exact List.mem_map_of_mem (List.contains_iff_mem.mp hts)

theorem IsScript.mem_taken {p : String × String} (hline : holdsOf (takes p) [closed] = true) :
    fillPair σ p ∈ a.taken := by
  obtain ⟨line, hsplit, ts, hts, htokens⟩ := exists_line_of_holdsOf (σ := σ) hline
  refine List.mem_flatMap.mpr ⟨line, h.mem_codeLines hmem hsplit, ?_⟩
  rw [htokens, accesses_map]
  exact List.mem_map_of_mem (List.contains_iff_mem.mp hts)

end

/-- The members at the end of a function that returns an object. -/
def returnLines (members : List String) (last : String) : List String :=
  ["  return \x7b"] ++ commaSeparated (members.map ("    " ++ ·)) ++ ["  \x7d", last]

/-- The members are what is returned. -/
theorem IsScript.returned_eq {front members : List String} {last : String}
    (h : a.IsScript (front ++ returnLines members last)) (hmembers : ∀ m ∈ members, IsWord m)
    (hlast : '\n' ∉ last.toList) (hne : last ≠ "  return \x7b") : a.returned = members := by
  have hentries : List.Forall₂ (fun m line => IsEntry ("    " ++ m) line) members
      (commaSeparated (members.map ("    " ++ ·))) :=
    List.forall₂_map_left_iff.mp (forall₂_commaSeparated _)
  have hunbroken : (commaSeparated (members.map ("    " ++ ·))).flatMap (splitOn '\n')
      = commaSeparated (members.map ("    " ++ ·)) := by
    refine flatMap_splitOn_of_notMem fun line hline => ?_
    obtain ⟨m, hm, hline⟩ := exists_of_forall₂ hentries.flip hline
    have hbreak : '\n' ∉ m.toList := (hmembers m hm).notMem (by decide)
    rcases hline with rfl | rfl
    all_goals simp [hbreak]
  -- the lines with members are indented deeper than those around them
  have hdeep : ∀ line ∈ commaSeparated (members.map ("    " ++ ·)),
      line ≠ "  return \x7b" ∧ line ≠ "  \x7d" := by
    intro line hline
    obtain ⟨m, -, hline⟩ := exists_of_forall₂ hentries.flip hline
    rcases hline with rfl | rfl
    all_goals simp [← String.toList_inj]
  have hlines : a.codeLines = front.flatMap (splitOn '\n') ++ "  return \x7b"
      :: (commaSeparated (members.map ("    " ++ ·)) ++ ["  \x7d", last, ""]) := by
    have hopen : splitOn '\n' "  return \x7b" = ["  return \x7b"] := by decide
    have hclose : splitOn '\n' "  \x7d" = ["  \x7d"] := by decide
    rw [h.codeLines_eq]
    simp [returnLines, hopen, hclose, hunbroken, splitOn_of_notMem hlast]
  have hbehind : "  return \x7b"
      ∉ commaSeparated (members.map ("    " ++ ·)) ++ ["  \x7d", last, ""] := by
    rw [List.mem_append, not_or]
    exact ⟨fun hmem => (hdeep _ hmem).1 rfl, by simpa using Ne.symm hne⟩
  have hread : List.Forall₂ (fun m line => member? (tokens line) = some m) members
      (commaSeparated (members.map ("    " ++ ·))) :=
    forall₂_imp_of_mem hentries fun m hm _ hline => member?_tokens (hmembers m hm) hline
  rw [returned, hlines, behindLast_append _ hbehind, List.takeWhile_append_of_pos fun line hline =>
    decide_eq_true (hdeep line hline).2, List.takeWhile_cons_of_neg (by simp), List.append_nil]
  exact filterMap_of_forall₂ hread

end Artifact

end Scaffold
