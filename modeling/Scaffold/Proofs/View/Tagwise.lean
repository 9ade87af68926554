import Scaffold.Proofs.Text.Openings
import Scaffold.Proofs.Text.Parts
import Scaffold.Proofs.View.Fields

/-!
# Tags in a view

What a document and a theme say has no angle bracket where a view shows it (`Bare`), so that the
tags of a view are those in its literals. A property of texts that is about some tags holds of
joined texts when each of them has it, of texts without angle brackets, and of literals that lack
the tags (`IsTagwise`). Then it holds of the lines of a view when it holds of what is given in them
(`IsTagwise.linesHave`, `IsTagwise.lines_of_theme`). That no block ends in a text is such a property
(`Quiet`).
-/

namespace Scaffold.View

open Text

/-- A text without tags. -/
def Bare (s : String) : Prop := '<' ∉ s.toList

instance (s : String) : Decidable (Bare s) := inferInstanceAs (Decidable ('<' ∉ s.toList))

theorem Bare.append {s t : String} (hs : Bare s) (ht : Bare t) : Bare (s ++ t) :=
  notMem_append hs ht

theorem bare_of_isIdentifier {s : String} (h : Identifier.isIdentifier s = true) : Bare s :=
  Identifier.notMem_of_isIdentifier h (by decide) (by decide)

/-! ### Properties about tags -/

/-- A property that joined texts have when each of them has it, texts without tags, and literals
that lack some tags. -/
structure IsTagwise (tags : List (List Char)) (holds : String → Prop) : Prop
    extends IsPiecewise (lacksTags tags) holds where
  bare : ∀ {s : String}, Bare s → holds s

namespace IsTagwise

variable {tags : List (List Char)} {holds : String → Prop}

/-- A property that closed parts have when none of the tags is in them. -/
theorem of_adds (hhead : ∀ tag ∈ tags, tag.head? = some '<')
    (hadds : ∀ {s : String}, (∀ tag ∈ tags, Adds tag 0 s) → holds s)
    (happend : ∀ {s t : String}, holds s → holds t → holds (s ++ t)) : IsTagwise tags holds := by
  have hbare : ∀ {s : String}, Bare s → holds s := fun h => hadds fun tag htag =>
    ⟨isClosed_of_notMem (hhead tag htag) h, occurrences_of_notMem (hhead tag htag) h⟩
  exact
    { empty := hbare (by decide)
      append := happend
      literal := fun h => hadds fun tag htag => .literal (hhead tag htag) htag h
      bare := hbare }

end IsTagwise

/-! ### Texts that end no block -/

/-- The end tag `</script>`. -/
def scriptEnd : List Char := ['<', '/', 's', 'c', 'r', 'i', 'p', 't', '>']

/-- The end tag `</template>`. -/
def templateEnd : List Char := ['<', '/', 't', 'e', 'm', 'p', 'l', 'a', 't', 'e', '>']

/-- The end tags of the blocks with texts of the document. -/
def blockEnds : List (List Char) := [scriptEnd, templateEnd]

theorem head?_of_mem_blockEnds : ∀ tag ∈ blockEnds, tag.head? = some '<' := by
  simp [blockEnds, scriptEnd, templateEnd]

/-- A closed part in which no block ends. -/
def Quiet (s : String) : Prop := ∀ tag ∈ blockEnds, Adds tag 0 s

theorem isTagwise_quiet : IsTagwise blockEnds Quiet :=
  .of_adds head?_of_mem_blockEnds id fun hs ht tag htag => (hs tag htag).append (ht tag htag)

theorem Bare.quiet {s : String} (h : Bare s) : Quiet s := isTagwise_quiet.bare h

theorem Quiet.append {s t : String} (hs : Quiet s) (ht : Quiet t) : Quiet (s ++ t) :=
  isTagwise_quiet.append hs ht

theorem Quiet.intercalate {sep : String} (hsep : Quiet sep) {parts : List String}
    (h : ∀ part ∈ parts, Quiet part) : Quiet (sep.intercalate parts) :=
  intercalate_of_append isTagwise_quiet.empty Quiet.append hsep h

theorem Quiet.literal {cs : List Char} (h : lacksTags blockEnds cs = true) :
    Quiet (String.ofList cs) :=
  isTagwise_quiet.literal h

/-! ### Escaped texts -/

/-- An attribute value has neither quotation marks nor brackets in it. -/
theorem notMem_encodeAttribute {c : Char} (hc : c ∈ ['"', '<', '>']) (cs : List Char) :
    c ∉ Markup.encodeAttribute cs := by
  intro h
  rw [Markup.encodeAttribute_eq] at h
  obtain ⟨x, -, hx⟩ := List.mem_flatMap.mp h
  simp only [List.mem_cons, List.not_mem_nil, or_false] at hc
  unfold Markup.attributeChar at hx
  rcases hc with rfl | rfl | rfl <;> split_ifs at hx with _ hquote hopening hclosing <;> simp at hx
  · exact hquote hx.symm
  · exact hopening hx.symm
  · exact hclosing hx.symm

theorem bare_attributeText (s : String) : Bare (attributeText s) := by
  rw [Bare, attributeText, String.toList_ofList]
  exact notMem_encodeAttribute (by decide) _

theorem bare_contentText (s : String) : Bare (contentText s) := (notMem_contentText s).1

theorem bare_requiredAttribute (node : FormNode) : Bare (requiredAttribute node) := by
  unfold requiredAttribute
  split <;> decide

/-! ### Themes -/

/-- What a theme adds to a view is without tags. -/
structure IsBareTheme (t : Theme) : Prop where
  classes : ∀ token, Bare (t.classAttribute token)
  componentDir : Bare t.componentDir
  modalModule : Bare t.modalModule

/-- The classes of a theme are those of an entry of its table, or none. -/
theorem classes_themeOf {table : ThemeTable} {holds : String → Prop} (hempty : holds "")
    (hclasses : ∀ entry ∈ table.classes, holds entry.2) (token : ClassToken) :
    holds (table.themeOf.classes token) := by
  show holds ((table.classes? token).getD "")
  cases hfind : table.classes? token with
  | none => exact hempty
  | some classes => exact hclasses _ (mem_of_wordMeaning? hfind)

/-- A class table without tags makes such a theme. -/
theorem isBareTheme_themeOf {table : ThemeTable} (hclasses : ∀ entry ∈ table.classes, Bare entry.2)
    (hdirectory : Bare table.componentDir) (hmodule : Bare table.modalModule) :
    IsBareTheme table.themeOf := by
  refine ⟨fun token => ?_, hdirectory, hmodule⟩
  have htoken := classes_themeOf (by decide) hclasses token
  rw [Theme.classAttribute]
  split
  · decide
  · exact (Bare.append (by decide) htoken).append (by decide)

theorem mem_builtIn {t : Theme} (h : t ∈ Theme.builtIn) :
    ∃ table ∈ ThemeTable.builtIn, t = table.themeOf := by
  rcases List.mem_cons.mp h with rfl | h
  · exact ⟨_, List.mem_cons_self, rfl⟩
  · exact ⟨_, .tail _ List.mem_cons_self, List.mem_singleton.mp h⟩

theorem isBareTheme_of_mem_builtIn {t : Theme} (h : t ∈ Theme.builtIn) : IsBareTheme t := by
  obtain ⟨table, htable, rfl⟩ := mem_builtIn h
  have hbare : ∀ table ∈ ThemeTable.builtIn, (∀ entry ∈ table.classes, Bare entry.2)
      ∧ Bare table.componentDir ∧ Bare table.modalModule := by decide
  obtain ⟨hclasses, hdirectory, hmodule⟩ := hbare table htable
  exact isBareTheme_themeOf hclasses hdirectory hmodule

/-! ### Lines of views -/

/-- A piece has a property, if the theme's pieces have it. -/
def PieceHas (holds : String → Prop) : Piece → Prop
  | .text s => holds s
  | _ => True

/-- The pieces of lines have a property. -/
def LinesHave (holds : String → Prop) (lines : List Line) : Prop :=
  ∀ line ∈ lines, ∀ piece ∈ line, PieceHas holds piece

/-- The texts of lines, without what a theme adds. -/
def texts (lines : List Line) : List String :=
  lines.flatten.filterMap fun
    | .text s => some s
    | _ => none

section

variable {holds : String → Prop}

theorem linesHave_iff {lines : List Line} :
    LinesHave holds lines ↔ ∀ s ∈ texts lines, holds s := by
  rw [texts, List.forall_mem_filterMap, List.forall_mem_flatten]
  refine forall₂_congr fun line _ => forall₂_congr fun piece _ => ?_
  cases piece <;> simp [PieceHas]

theorem linesHave_plain {lines : List String} (h : ∀ line ∈ lines, holds line) :
    LinesHave holds (plain lines) := by
  simpa [LinesHave, PieceHas, plain] using h

theorem LinesHave.append {front back : List Line} (hfront : LinesHave holds front)
    (hback : LinesHave holds back) : LinesHave holds (front ++ back) :=
  List.forall_mem_append.mpr ⟨hfront, hback⟩

theorem LinesHave.indented {lines : List Line} (h : LinesHave holds lines) {blanks : String}
    (hblanks : holds blanks) : LinesHave holds (indented blanks lines) :=
  List.forall_mem_map.mpr fun line hline => List.forall_mem_cons.mpr ⟨hblanks, h line hline⟩

theorem LinesHave.intercalate {sep : List Line} (hsep : LinesHave holds sep)
    {parts : List (List Line)} (h : ∀ part ∈ parts, LinesHave holds part) :
    LinesHave holds (sep.intercalate parts) := by
  intro line hline
  rcases exists_of_mem_intercalate hline with hline | ⟨part, hpart, hline⟩
  · exact hsep line hline
  · exact h part hpart line hline

end

/-! The texts of lines are read piece by piece. -/

section

variable {s : String} {ps : List TextPart} {line : Line} {lines others : List Line}
  {parts qs : List (List TextPart)}

instance areMadeOf_texts_nil : AreMadeOf (texts []) [] where
  eq_map_ofParts := rfl

instance areMadeOf_texts_line [h : AreMadeOf (texts lines) parts] :
    AreMadeOf (texts ([] :: lines)) parts where
  eq_map_ofParts := h.eq_map_ofParts

instance areMadeOf_texts_text [hs : IsMadeOf s ps] [h : AreMadeOf (texts (line :: lines)) parts] :
    AreMadeOf (texts ((.text s :: line) :: lines)) (ps :: parts) where
  eq_map_ofParts := by
    rw [List.map_cons, ← hs.eq_ofParts, ← h.eq_map_ofParts]
    rfl

instance areMadeOf_texts_classes (token : ClassToken)
    [h : AreMadeOf (texts (line :: lines)) parts] :
    AreMadeOf (texts ((.classes token :: line) :: lines)) parts where
  eq_map_ofParts := h.eq_map_ofParts

instance areMadeOf_texts_componentDir [h : AreMadeOf (texts (line :: lines)) parts] :
    AreMadeOf (texts ((.componentDir :: line) :: lines)) parts where
  eq_map_ofParts := h.eq_map_ofParts

instance areMadeOf_texts_modalModule [h : AreMadeOf (texts (line :: lines)) parts] :
    AreMadeOf (texts ((.modalModule :: line) :: lines)) parts where
  eq_map_ofParts := h.eq_map_ofParts

instance areMadeOf_texts_append [h : AreMadeOf (texts lines) parts]
    [h' : AreMadeOf (texts others) qs] :
    AreMadeOf (texts (lines ++ others)) (parts ++ qs) where
  eq_map_ofParts := by
    rw [List.map_append, ← h.eq_map_ofParts, ← h'.eq_map_ofParts]
    simp [texts]

instance areMadeOf_texts_plain {ss : List String} [h : AreMadeOf ss parts] :
    AreMadeOf (texts (plain ss)) parts where
  eq_map_ofParts := by
    rw [← h.eq_map_ofParts, texts, plain, ← List.flatMap_def, List.filterMap_flatMap]
    exact List.flatMap_singleton' ss

end

namespace IsTagwise

variable {tags : List (List Char)} {holds : String → Prop} (h : IsTagwise tags holds)

include h

/-- The texts of lines have the property when what is given in them has. -/
theorem linesHave {lines : List Line} {parts : List (List TextPart)}
    [hlines : AreMadeOf (texts lines) parts]
    (hfixed : (parts.all fun ps => ps.all (TextPart.passes (lacksTags tags))) = true)
    (hgiven : ∀ g ∈ givenTexts parts, holds g) : LinesHave holds lines :=
  linesHave_iff.mpr (h.lines hfixed hgiven)

/-- A line has the property when its pieces have. -/
theorem line_of_theme {t : Theme} (ht : IsBareTheme t) {line : Line}
    (hline : ∀ piece ∈ line, PieceHas holds piece) : holds (t.line line) := by
  refine line_of_pieces h.empty h.append fun piece hpiece => ?_
  have hpiece := hline piece hpiece
  cases piece with
  | text s => exact hpiece
  | classes token => exact h.bare (ht.classes token)
  | componentDir => exact h.bare ht.componentDir
  | modalModule => exact h.bare ht.modalModule

theorem text_line {t : Theme} (ht : IsBareTheme t) {line : Line} {parts : List (List TextPart)}
    [hline : AreMadeOf (texts [line]) parts]
    (hfixed : (parts.all fun ps => ps.all (TextPart.passes (lacksTags tags))) = true)
    (hgiven : ∀ g ∈ givenTexts parts, holds g) : holds (t.line line) :=
  h.line_of_theme ht (List.forall_mem_singleton.mp (h.linesHave hfixed hgiven))

theorem lines_of_theme {t : Theme} (ht : IsBareTheme t) {lines : List Line}
    (hlines : LinesHave holds lines) : ∀ line ∈ lines.map t.line, holds line :=
  List.forall_mem_map.mpr fun line hline => h.line_of_theme ht (hlines line hline)

end IsTagwise

end Scaffold.View
