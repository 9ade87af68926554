import Scaffold.Proofs.ListLemmas
import Scaffold.Proofs.Reference.Content
import Scaffold.Proofs.Reference.Quoted
import Scaffold.Proofs.Reference.Templates
import Scaffold.Proofs.Settings

/-!
# What the registration of an entity refers to

The file that registers an entity imports the view of each framework when it is needed. Four of its
lines depend on settings, and none of them refers to anything: the names among the settings are
words, perhaps with a line feed behind them, and the icon is a quoted text.
-/

namespace Scaffold.Client

open Text Reading

/-- The line with the position in the navigation. -/
def orderLine (order : String) : String := "        order: " ++ order ++ ","

/-- The line with the icon. -/
def iconLine (icon : String) : String := "        icon: " ++ Text.literal icon

/-- The lines with settings. -/
def settingLines (st : Settings) (order : String) : List String :=
  [frameworkLine st.defaultTheme st.frameworkVariable, layoutLine st.dashboardLayout,
    orderLine order, iconLine st.navIcon]

/-- Other lines do not depend on settings. -/
theorem mem_routeLines {st : Settings} {order : String} {n : Names} {s : String}
    (h : s ∈ routeLines st order n) : s ∈ routeLines default "1" n ∨ s ∈ settingLines st order := by
  have hlines : List.Forall₂ (fun a b => a = b ∨ a ∈ settingLines st order) (routeLines st order n)
      (routeLines default "1" n) := by
    unfold routeLines
    refine List.rel_append (List.rel_append ?_ ?_) ?_
    · refine .cons (.inl rfl) (.cons (.inl rfl) (.cons (.inr ?_) (.cons (.inl rfl) .nil)))
      exact List.mem_cons_self
    · exact List.forall₂_same.mpr fun _ _ => .inl rfl
    · repeat' first
        | exact List.Forall₂.nil
        | refine List.Forall₂.cons (.inl (by with_reducible rfl)) ?_
        | refine List.Forall₂.cons (.inr ?_) ?_
      · exact .tail _ List.mem_cons_self
      · exact .tail _ (.tail _ List.mem_cons_self)
      · exact .tail _ (.tail _ (.tail _ List.mem_cons_self))
  obtain ⟨b, hb, hs⟩ := exists_of_forall₂ hlines h
  rcases hs with rfl | hs
  · exact .inl hb
  · exact .inr hs

/-- The lines with names among the settings cite nothing. -/
theorem cites_identifierLines {name : String} (h : Identifier.isIdentifier name = true) :
    CitesText [] [] (layoutLine name) ∧ ∀ theme, CitesText [] [] (frameworkLine theme name) := by
  obtain ⟨word, hword, back, hback, rfl⟩ := exists_isWord_of_isIdentifier h
  obtain ⟨σ, hσ⟩ := Filling.exists_text_other hword
  have hsame : σ.text back = back := by
    have hascii : ∀ back ∈ ["", "\n"], isAscii back = true := by decide
    exact σ.text_ascii (hascii back hback)
  have hcites := citesText_of_holdsOf (σ := σ) (templates_refer.2.1.2 back hback)
  unfold layoutLine frameworkLine ThemeName.word at hcites
  simp (disch := decide) only [List.map_cons, List.map_nil, Filling.text_append, Filling.text_ascii,
    hσ, hsame, List.forall_mem_cons, List.not_mem_nil, false_imp_iff, implies_true, and_true]
    at hcites
  obtain ⟨hlayout, hbootstrap, hfomantic⟩ := hcites
  refine ⟨hlayout, fun theme => ?_⟩
  cases theme
  · exact hbootstrap
  · exact hfomantic

/-- The lines with settings cite nothing. -/
theorem cites_settingLines {st : Settings} (hst : st.WellFormed) :
    ∀ s ∈ settingLines st (toString st.navOrder), CitesText [] [] s := by
  simp only [settingLines, List.forall_mem_cons, List.not_mem_nil, false_imp_iff, implies_true,
    and_true]
  refine ⟨?framework, ?layout, ?order, ?icon⟩
  case framework =>
    exact (cites_identifierLines (Identifier.isIdentifier_of_isVariable hst.frameworkVariable)).2 _
  case layout => exact (cites_identifierLines hst.dashboardLayout).1
  case order =>
    have hdigits : ∀ c ∈ (toString st.navOrder).toList, c.isDigit = true := by
      intro c hc
      change c ∈ (String.ofList (Nat.toDigits 10 st.navOrder)).toList at hc
      rw [String.toList_ofList] at hc
      exact Nat.isDigit_of_mem_toDigits (by decide) (by decide) hc
    have hunquoted : Unquoted (toString st.navOrder) :=
      ⟨fun h => absurd (hdigits _ h) (by decide), fun h => absurd (hdigits _ h) (by decide)⟩
    exact .of_unquoted (.append (.append (.literal rfl) hunquoted) (.literal rfl))
  case icon =>
    have hicon : CitesText [] [] ("        icon: " ++ Text.literal st.navIcon ++ "") :=
      .quoted rfl _
    rwa [String.append_empty] at hicon

/-! ### The registration -/

/-- The registration imports the views of the entity. -/
theorem cites_routeLines {st : Settings} (hst : st.WellFormed) {n : Names} (hn : n.AreWords) :
    ∀ s ∈ routeLines st (toString st.navOrder) n, CitesText routeLibraries (viewSources n) s := by
  have hfomantic : Text.capitalize ThemeName.fomantic.word = "Fomantic" := by decide
  have hbootstrap : Text.capitalize ThemeName.bootstrap.word = "Bootstrap" := by decide
  intro s hs
  rcases mem_routeLines hs with hs | hs
  · obtain ⟨σ, hσ, -⟩ := hn.exists_filling_other hn.name
    have hlines : (routeLines default "1" .placeholders).map σ.text = routeLines default "1" n := by
      unfold routeLines registrationInterface lazyView viewPath
      rw [hfomantic, hbootstrap]
      simp (disch := decide) [Filling.text_ascii, hσ.capitalized, hσ.plural, hσ.capitalizedPlural]
    have himports : routeLibraries.map (fillImport σ) = routeLibraries := by
      simp (disch := decide) [routeLibraries, fillImport, Filling.text_ascii]
    have hsources : (viewSources .placeholders).map σ.text = viewSources n := by
      unfold viewSources viewSource viewPath
      rw [hfomantic, hbootstrap]
      simp (disch := decide) [Filling.text_ascii, hσ.capitalized]
    have hcites := citesText_of_holdsOf (σ := σ) templates_refer.2.1.1
    rw [hlines, himports, hsources] at hcites
    exact hcites s hs
  · exact (cites_settingLines hst s hs).mono (List.nil_subset _) (List.nil_subset _)

theorem isScript_route {st : Settings} {n : Names} :
    (⟨.frontend, routePath, routeText st n⟩ : Artifact).IsScript
      (routeLines st (toString st.navOrder) n) where
  path := ⟨"config", rfl⟩
  content := rfl
  ending := ⟨"\x7d", '\x7d', by rw [routeLines, List.getLast?_append]; rfl, rfl, by decide⟩

end Scaffold.Client
