import Scaffold.Proofs.Assembly
import Scaffold.Proofs.Text.FileLines
import Scaffold.Proofs.View.Fields

/-!
# Views without a theme

A view is a sequence of pieces, which its specification gives alone; a theme says what stands for
each piece. A class table that lacks no token has a text for every piece, so that every theme
renders every view (`renders_pieces`), and themes differ in what stands for tokens and modules only.
-/

namespace Scaffold

namespace ThemeTable

variable {t : ThemeTable} {theme : Theme}

/-- The text that stands for a piece. A token that the table lacks has none. -/
def text? (t : ThemeTable) : View.Piece → Option String
  | .text s => some s
  | .classes token =>
    (t.classes? token).map fun classes =>
      if classes.isEmpty then "" else " class=\"" ++ classes ++ "\""
  | .componentDir => some t.componentDir
  | .modalModule => some t.modalModule

theorem theme_eq_ok_iff : t.theme = .ok theme ↔ t.lacking = [] ∧ theme = t.themeOf := by
  constructor
  · intro h
    unfold ThemeTable.theme at h
    split at h
    next hlacking =>
      cases h
      exact ⟨hlacking, rfl⟩
    next => cases h
  · rintro ⟨hlacking, rfl⟩
    exact theme_eq_ok hlacking

/-- A table makes a theme when it has classes for every token. -/
theorem exists_theme_iff :
    (∃ theme, t.theme = .ok theme) ↔ ∀ token, ∃ classes, t.classes? token = some classes := by
  simp only [theme_eq_ok_iff, exists_and_left, exists_eq, and_true, lacking,
    List.filter_eq_nil_iff, Option.isNone_iff_eq_none, ← ne_eq, Option.ne_none_iff_exists']
  exact ⟨fun h token => h token token.mem_all, fun h token _ => h token⟩

/-- A theme renders a piece as the text that stands for it in its table. -/
theorem text?_eq (h : t.theme = .ok theme) (piece : View.Piece) :
    t.text? piece = some (theme.piece piece) := by
  obtain ⟨-, rfl⟩ := theme_eq_ok_iff.mp h
  cases piece with
  | text s => rfl
  | componentDir => rfl
  | modalModule => rfl
  | classes token =>
    obtain ⟨classes, hclasses⟩ := exists_theme_iff.mp ⟨_, h⟩ token
    simp [text?, Theme.piece, Theme.classAttribute, themeOf, hclasses]

end ThemeTable

namespace View

/-- The pieces of a view in their order, with a line feed behind each line. -/
def pieces (spec : Spec) : List Piece :=
  [.text "\n"].intercalate (componentLines spec) ++ [.text "\n"]

theorem join_intercalate (sep : String) (parts : List (List String)) :
    String.join ([sep].intercalate parts) = sep.intercalate (parts.map String.join) := by
  induction parts with
  | nil => rfl
  | cons first rest ih =>
    cases rest with
    | nil => simp
    | cons second others =>
      rw [List.intercalate_cons_cons, String.join_append, String.join_append, ih]
      simp [String.append_assoc, String.join]

/-- The last line is not blank, so that joining the lines trims no break at the end. -/
theorem content_eq (t : Theme) (spec : Spec) : (artifact t spec).content
    = "\n".intercalate ((componentLines spec).map t.line) ++ "\n" := by
  have hlines : ∃ lines, (componentLines spec).map t.line = lines ++ ["</style>"] := by
    refine ⟨(templateLines spec ++ plain [""] ++ scriptLines spec
      ++ plain ([""] ++ styleLines.dropLast)).map t.line, ?_⟩
    simp only [componentLines, List.map_append, map_line_plain, List.append_assoc]
    rfl
  obtain ⟨lines, hlines⟩ := hlines
  have hclose : "</style>".toList.getLast? = some '>' := by decide
  rw [artifact, Theme.render, hlines, Text.joinLines_eq hclose (by decide)]

theorem content_eq_join (t : Theme) (spec : Spec) :
    (artifact t spec).content = String.join ((pieces spec).map t.piece) := by
  have hend : String.join ["\n"] = "\n" := by decide
  have hbetween : ([Piece.text "\n"]).map t.piece = ["\n"] := rfl
  calc (artifact t spec).content
      = "\n".intercalate ((componentLines spec).map t.line) ++ "\n" := content_eq t spec
    _ = "\n".intercalate (((componentLines spec).map (List.map t.piece)).map String.join)
      ++ "\n" := by
        rw [List.map_map]
        rfl
    _ = String.join ((pieces spec).map t.piece) := by
        rw [pieces, List.map_append, String.join_append, map_intercalate, hbetween,
          join_intercalate, hend]

/-- Every view has pieces of its own, and there is a text for each of them in every class table that
makes a theme: the theme renders the view as these texts one behind the other. Two themes differ at
most in what stands for tokens, for the directory of components and for the module of modal
windows. -/
theorem renders_pieces (spec : Spec) :
    ∃ pieces : List Piece, (∀ token, .classes token ∈ pieces → token ∈ ClassToken.all)
      ∧ (∀ (t : ThemeTable) (theme : Theme), t.theme = .ok theme →
        ∃ texts, pieces.map t.text? = texts.map some
          ∧ (artifact theme spec).content = String.join texts)
      ∧ ∀ (t t' : ThemeTable), ∀ piece ∈ pieces, t.text? piece ≠ t'.text? piece →
        (∃ token, piece = .classes token) ∨ piece = .componentDir ∨ piece = .modalModule := by
  refine ⟨pieces spec, fun token _ => token.mem_all, ?_, ?_⟩
  · intro t theme h
    refine ⟨(pieces spec).map theme.piece, ?_, content_eq_join theme spec⟩
    rw [List.map_map]
    exact List.map_congr_left fun piece _ => ThemeTable.text?_eq h piece
  · intro t t' piece _ hdiffer
    cases piece with
    | text s => exact absurd rfl hdiffer
    | classes token => exact .inl ⟨token, rfl⟩
    | componentDir => exact .inr (.inl rfl)
    | modalModule => exact .inr (.inr rfl)

/-- The view of orders is made of the same pieces in both themes. -/
theorem orders_in_both_themes :
    ThemeTable.bootstrap.theme = .ok Theme.bootstrap
      ∧ ThemeTable.fomantic.theme = .ok Theme.fomantic
      ∧ ∃ e, Entity.ofAccepted orderDocument = .ok e
        ∧ ∃ (pieces : List Piece) (texts texts' : List String),
          (artifact Theme.bootstrap (.ofEntity e)).content = String.join texts
            ∧ (artifact Theme.fomantic (.ofEntity e)).content = String.join texts'
            ∧ pieces.map ThemeTable.bootstrap.text? = texts.map some
            ∧ pieces.map ThemeTable.fomantic.text? = texts'.map some := by
  have hbootstrap : ThemeTable.bootstrap.theme = .ok Theme.bootstrap :=
    ThemeTable.theme_eq_ok (by decide)
  have hfomantic : ThemeTable.fomantic.theme = .ok Theme.fomantic :=
    ThemeTable.theme_eq_ok (by decide)
  obtain ⟨hd, fields, hfields, he, -⟩ :=
    exists_assemble_eq_ok parse_orderValue isValid_orderDocument
  obtain ⟨pieces, -, hpieces, -⟩ :=
    renders_pieces (.ofEntity (Entity.ofFields orderDocument fields))
  obtain ⟨texts, htexts, hcontent⟩ := hpieces _ _ hbootstrap
  obtain ⟨texts', htexts', hcontent'⟩ := hpieces _ _ hfomantic
  exact ⟨hbootstrap, hfomantic, _, he, pieces, texts, texts', hcontent, hcontent', htexts, htexts'⟩

end View

end Scaffold
