import Scaffold.Proofs.Reference.Content
import Scaffold.Proofs.Reference.Script

/-!
# The code of a view

The code of a view is its script and, in its markup, the expressions that options go through.
Nothing in the markup begins like an element that lists the entities of a store, but those elements
(`Chooses`). So what a view refers to is bounded when its script is.
-/

namespace Scaffold.View

open Text Reading Client

/-! ### Expressions in the markup -/

/-- A part of a markup in which options go through the entities of some stores. -/
def Chooses (related : List Names) (s : String) : Prop :=
  ∃ items, Contributes choices items s ∧ ∀ item ∈ items, ∃ r ∈ related, item = choiceExpression r

section

variable {related : List Names}

theorem chooses_of_adds {s : String} (h : Adds choiceOpening 0 s) : Chooses related s :=
  ⟨[], contributes_nil_of_adds (List.forall_mem_singleton.mpr h), List.forall_mem_nil _⟩

theorem isTagwise_chooses : IsTagwise watchedTags (Chooses related) := by
  refine .of_adds head?_of_mem_watchedTags
    (fun h => chooses_of_adds (h choiceOpening List.mem_cons_self)) ?_
  rintro s t ⟨items, hitems, hfrom⟩ ⟨others, hothers, hfrom'⟩
  exact ⟨_, hitems.append hothers, List.forall_mem_append.mpr ⟨hfrom, hfrom'⟩⟩

/-- The element for the entities of a store begins with an expression. -/
theorem chooses_opening {r : Names} (hr : r.AreWords) (hmem : r ∈ related) :
    Chooses related (String.ofList (choiceOpening ++ (choiceExpression r).toList ++ ['"'])) := by
  have hname : '"' ∉ r.name.toList ∧ '<' ∉ r.name.toList :=
    ⟨hr.name.notMem (by decide), hr.name.notMem (by decide)⟩
  have hplural : '"' ∉ r.plural.toList ∧ '<' ∉ r.plural.toList :=
    ⟨hr.plural.notMem (by decide), hr.plural.notMem (by decide)⟩
  have hquote : '"' ∉ (choiceExpression r).toList := by
    simp [choiceExpression, storeConst, hname, hplural]
  have htail :
      Bare (String.ofList (choiceOpening.tail ++ (choiceExpression r).toList ++ ['"'])) := by
    simp [Bare, choiceOpening, choiceExpression, storeConst, hname, hplural]
  refine ⟨[choiceExpression r], ?_, List.forall_mem_singleton.mpr ⟨r, hmem, rfl⟩⟩
  refine contributes_of_begins (List.mem_singleton_self choiceOpening) ?_ (fun rest => ?_) ?_
  · show choiceOpening <+: choiceOpening ++ (choiceExpression r).toList ++ ['"']
    rw [List.append_assoc]
    exact List.prefix_append _ _
  · have hdrop : (choiceOpening ++ (choiceExpression r).toList ++ ['"'] ++ rest).drop
        choiceOpening.length = (choiceExpression r).toList ++ '"' :: rest := by
      simp
    show String.ofList ((List.drop choiceOpening.length
      (choiceOpening ++ (choiceExpression r).toList ++ ['"'] ++ rest)).takeWhile (· != '"')) = _
    rw [hdrop, takeWhile_ne_append_cons hquote, String.ofList_toList]
  · exact contributes_nil_of_adds (List.forall_mem_singleton.mpr
      ⟨isClosed_of_notMem rfl htail, occurrences_of_notMem rfl htail⟩)

/-- The element that lists the entities of a store. -/
theorem chooses_entityOptions {r : Names} (hr : r.AreWords) (hmem : r ∈ related) :
    LinesHave (Chooses related) [entityOptions r] := by
  have h : IsTagwise watchedTags (Chooses related) := isTagwise_chooses
  have hname : Chooses related r.name := h.bare (hr.name.notMem (by decide))
  have hopening := chooses_opening hr hmem
  have hblanks : Chooses related "    " := h.literal rfl
  have hrest : Chooses related (" :key=\"" ++ r.name ++ "._id\" :value=\"" ++ r.name
      ++ "\">\x7b\x7b " ++ r.name ++ ".name \x7d\x7d</option>") :=
    h.text rfl (by simp [hname])
  refine List.forall_mem_singleton.mpr (List.forall_mem_singleton.mpr ?_)
  have hline := h.append (h.append hblanks hopening) hrest
  have htext : ∀ {s t}, s = t → Chooses related s → Chooses related t := fun heq hs => heq ▸ hs
  refine htext ?_ hline
  simp [← String.toList_inj, choiceOpening, choiceExpression]

end

section

variable {t : Theme} (ht : t ∈ Theme.builtIn) {spec : Spec} (hform : BareForm spec)

include ht hform

/-- The options in the markup go through the entities of related stores. -/
theorem mem_choices_markup (hwords : ∀ r ∈ spec.related, r.AreWords)
    (hrelated : ∀ node ∈ spec.form, ∀ r ∈ node.input.related?, r ∈ spec.related) :
    ∀ item ∈ choices (markupText t spec ++ "\n").toList,
      ∃ r ∈ spec.related, item = choiceExpression r := by
  have h : IsTagwise watchedTags (Chooses spec.related) := isTagwise_chooses
  have hlines :=
    h.lines_of_theme (isBareTheme_of_mem_builtIn ht) <| h.templateBody hform fun node hnode r hr =>
    chooses_entityOptions (hwords r (hrelated node hnode r hr)) (hrelated node hnode r hr)
  have hbreak : Chooses spec.related "\n" := h.literal rfl
  have hempty : Chooses spec.related "" := h.bare (by decide)
  have hjoined : Chooses spec.related (markupText t spec) :=
    intercalate_of_append hempty h.append hbreak hlines
  obtain ⟨items, hitems, hfrom⟩ := h.append hjoined hbreak
  rwa [hitems.read_eq rfl]

end

/-! ### The script -/

theorem map_line_scriptBody (t : Theme) (spec : Spec) :
    (scriptBody spec).map t.line = scriptOpening :: innerLines t spec := by
  unfold scriptBody innerLines
  rw [List.map_append, List.map_append, map_line_plain, List.append_assoc]
  rfl

/-- The script is read behind the markup. -/
theorem mem_scriptIn {t : Theme} {spec : Spec} {rest line : String}
    (hline : line ∈ scriptIn ("</template>\n\n" ++ scriptText t spec ++ "\n</script>\n" ++ rest)) :
    ∃ s ∈ innerLines t spec, line ∈ splitOn '\n' s := by
  have hscript : splitOn '\n' (scriptText t spec)
      = scriptOpening :: (innerLines t spec).flatMap (splitOn '\n') := by
    have hopening : splitOn '\n' scriptOpening = [scriptOpening] := by decide
    rw [scriptText, map_line_scriptBody, show "\n" = String.singleton '\n' from rfl,
      splitOn_intercalate (List.cons_ne_nil _ _), List.flatMap_cons, hopening,
      List.singleton_append]
  have hlines : splitOn '\n' ("</template>\n\n" ++ scriptText t spec ++ "\n</script>\n" ++ rest)
      = "</template>" :: "" :: scriptOpening :: ((innerLines t spec).flatMap (splitOn '\n')
        ++ scriptClosing :: splitOn '\n' rest) := by
    have hfront : splitOn '\n' "</template>\n" = ["</template>", ""] := by decide
    have hclosing : splitOn '\n' scriptClosing = [scriptClosing] := by decide
    have htext : "</template>\n\n" ++ scriptText t spec ++ "\n</script>\n" ++ rest
        = "</template>\n" ++ String.singleton '\n' ++ (scriptText t spec ++ String.singleton '\n'
          ++ (scriptClosing ++ String.singleton '\n' ++ rest)) := by
      simp [← String.toList_inj, scriptClosing]
    rw [htext, splitOn_append, splitOn_append, splitOn_append, hfront, hclosing, hscript]
    rfl
  have hinner : line ∈ ((innerLines t spec).flatMap (splitOn '\n')
      ++ scriptClosing :: splitOn '\n' rest).takeWhile (· != scriptClosing) := by
    rwa [scriptIn, hlines, List.dropWhile_cons_of_pos (by decide),
      List.dropWhile_cons_of_pos (by decide), List.dropWhile_cons_of_neg (by decide)] at hline
  -- the line that closes the script ends what is taken
  have hbounded : line ∈ (innerLines t spec).flatMap (splitOn '\n') := by
    rw [List.takeWhile_append] at hinner
    split at hinner
    · rwa [List.takeWhile_cons_of_neg (by simp), List.append_nil] at hinner
    · exact (List.takeWhile_prefix _).subset hinner
  exact List.mem_flatMap.mp hbounded

/-! ### The code -/

@[simp]
theorem isComponent_artifact (t : Theme) (spec : Spec) : (artifact t spec).isComponent = true := by
  refine decide_eq_true ?_
  show ".vue".toList <:+ (viewPath t.name spec.names).toList
  rw [viewPath, String.toList_append]
  exact List.suffix_append _ _

/-- The code of a view is bounded when the lines of its script are, and the expressions in its
markup. -/
theorem forall_codeLines {t : Theme} (ht : t ∈ Theme.builtIn) {spec : Spec} (hform : BareForm spec)
    (hwords : ∀ r ∈ spec.related, r.AreWords)
    (hrelated : ∀ node ∈ spec.form, ∀ r ∈ node.input.related?, r ∈ spec.related)
    {p : String → Prop} (hscript : ∀ s ∈ innerLines t spec, ∀ line ∈ splitOn '\n' s, p line)
    (hchoices : ∀ r ∈ spec.related, p (choiceExpression r)) :
    ∀ line ∈ (artifact t spec).codeLines, p line := by
  intro line hline
  have hmarkup := textBefore_content (isBareTheme_of_mem_builtIn ht) hform
  have hrest : (artifact t spec).content.toList.drop (markupText t spec ++ "\n").toList.length
      = ("</template>\n\n" ++ scriptText t spec ++ "\n</script>\n"
        ++ ("\n" ++ "\n".intercalate styleLines ++ "\n")).toList := by
    rw [content_eq_blocks]
    simp
  rw [Artifact.codeLines, if_pos (isComponent_artifact t spec), componentCode] at hline
  simp only [hmarkup, hrest, String.ofList_toList] at hline
  rcases List.mem_append.mp hline with hline | hline
  · obtain ⟨s, hs, hline⟩ := mem_scriptIn hline
    exact hscript s hs line hline
  · obtain ⟨r, hr, rfl⟩ := mem_choices_markup ht hform hwords hrelated line hline
    exact hchoices r hr

/-- What a view refers to. -/
theorem refers_artifact {e : Entity} (he : e.WellNamed) {t : Theme} (ht : t ∈ Theme.builtIn)
    (hform : BareForm (.ofEntity e))
    (hinputs : ∀ node ∈ (Spec.ofEntity e).form, ∀ r ∈ node.input.related?, r ∈ e.related) :
    (∀ line ∈ (artifact t (.ofEntity e)).codeLines,
        Cites (scriptImports t (.ofEntity e)) [] (tokens line))
      ∧ ∀ line ∈ (artifact t (.ofEntity e)).codeLines,
        Uses (scriptMade (.ofEntity e)) (scriptTaken (.ofEntity e)) (tokens line) := by
  have hwords := areWords_related he
  have hscript := refersIn_innerLines he ht
  have hchoices : ∀ r ∈ e.related, RefersIn t (.ofEntity e) (choiceExpression r)
      ∧ splitOn '\n' (choiceExpression r) = [choiceExpression r] := by
    intro r hr
    have hname : '\n' ∉ r.name.toList := (hwords r hr).name.notMem (by decide)
    have hplural : '\n' ∉ r.plural.toList := (hwords r hr).plural.notMem (by decide)
    refine ⟨refersIn_of_mem_relatedViewLines (hwords r hr) hr (by simp [relatedViewLines]),
      splitOn_of_notMem ?_⟩
    simp [choiceExpression, storeConst, hname, hplural]
  -- code stands in the script and in the choices of related entities
  have hall : ∀ line ∈ (artifact t (.ofEntity e)).codeLines,
      Cites (scriptImports t (.ofEntity e)) [] (tokens line)
        ∧ Uses (scriptMade (.ofEntity e)) (scriptTaken (.ofEntity e)) (tokens line) := by
    refine forall_codeLines ht hform hwords hinputs (fun s hs line hline => ?_) fun r hr => ?_
    · exact ⟨(hscript s hs).1 line hline, (hscript s hs).2 line hline⟩
    · obtain ⟨⟨hcites, huses⟩, hline⟩ := hchoices r hr
      have hmem : choiceExpression r ∈ splitOn '\n' (choiceExpression r) := by simp [hline]
      exact ⟨hcites _ hmem, huses _ hmem⟩
  exact ⟨fun line hline => (hall line hline).1, fun line hline => (hall line hline).2⟩

end Scaffold.View
