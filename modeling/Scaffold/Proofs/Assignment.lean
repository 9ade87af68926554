import Scaffold.Proofs.Settings

/-!
# Assignments to settings

Settings that have been read may be assigned one at a time, any setting and any value, and an
assignment may fail. What the rules ask for holds before the first assignment and is kept by each,
so that it holds after any number of them (`settings_stay_sound`): the settings could have been read
as they are.
-/

namespace Scaffold

namespace Settings

/-- What the rules of all settings ask for. -/
structure Sound (s : Settings) : Prop where
  accepted : s.Accepted
  wellFormed : s.WellFormed
  frontendRoot : RelativePath.IsNormal s.frontendRoot.text
  backendRoot : RelativePath.IsNormal s.backendRoot.text
  navOrder : ∃ n : Int, s.get .navOrder = .int n ∧ 0 ≤ n
  maxWorkers : ∃ n : Int, s.get .maxWorkers = .int n ∧ 1 ≤ n ∧ n ≤ 64
  reread : ofValue s.toValue = .ok s

/-- The settings after an assignment; when it fails, those from before. -/
def after (s : Settings) (assignment : String × Value) : Settings :=
  match s.assign assignment.1 assignment.2 with
  | .ok t => t
  | .error _ => s

/-- Settings that were assigned some value under a name: what has that name is what its rule makes
of the value, and everything else is as before. -/
structure Differ (s t : Settings) (name : String) (v : Value) : Prop where
  assigned : ∀ setting : Setting, setting.name = name → setting.Gives v t
  others : ∀ setting : Setting, setting.name ≠ name → t.get setting = s.get setting

/-- What the rules accept is all that they ask for. -/
theorem Accepted.sound {s : Settings} (hs : s.Accepted) : s.Sound where
  accepted := hs
  wellFormed := hs.wellFormed
  frontendRoot := s.frontendRoot.isNormal_text
  backendRoot := s.backendRoot.isNormal_text
  navOrder := ⟨s.navOrder, rfl, Int.natCast_nonneg _⟩
  maxWorkers := by
    obtain ⟨change, hupdate, -⟩ := hs .maxWorkers
    change (Shape.integerBetween 1 64 (.int s.maxWorkers)).map _ = _ at hupdate
    obtain ⟨n, hn, -⟩ := map_eq_ok.mp hupdate
    obtain ⟨hleast, hgreatest, -⟩ := Setting.integerBetween_int_eq_ok.mp hn
    exact ⟨s.maxWorkers, rfl, hleast, hgreatest⟩
  reread := hs.ofValue_toValue

theorem Accepted.after {s : Settings} (hs : s.Accepted) (assignment : String × Value) :
    (s.after assignment).Accepted := by
  unfold Settings.after
  split
  next t hassign => exact hs.assign hassign
  next => exact hs

/-- Whatever is assigned, the rules still accept what the settings are. -/
theorem Accepted.foldl_after {s : Settings} (hs : s.Accepted)
    (assignments : List (String × Value)) : (assignments.foldl Settings.after s).Accepted := by
  induction assignments generalizing s with
  | nil => exact hs
  | cons first rest ih => exact ih (hs.after first)

/-- An assignment that succeeds changes nothing but the setting of its name. -/
theorem differ_of_assign {s t : Settings} {name : String} {v : Value}
    (h : s.assign name v = .ok t) : Differ s t name v := by
  rcases assign_eq_ok h with ⟨setting, rfl, change, hupdate, rfl⟩ | ⟨hname, rfl⟩
  · constructor
    · intro other hother
      rw [Setting.name_injective hother]
      exact Setting.gives_change hupdate s
    · intro other hother
      have hne : other ≠ setting := fun heq => hother (heq ▸ rfl)
      rw [Setting.change_eq_adopt hupdate s s, get_adopt_of_ne _ _ hne]
  · exact ⟨fun setting heq => absurd heq (hname setting), fun _ _ => rfl⟩

end Settings

/-- Settings that are read and then assigned, any number of times, are what their rules ask for, and
could be read as they are. The next assignment to them either fails, and leaves them as they are, or
changes the setting of its name alone. -/
theorem settings_stay_sound {v : Value} {s : Settings} (h : Settings.ofValue v = .ok s)
    (assignments : List (String × Value)) :
    (assignments.foldl Settings.after s).Sound ∧ ∀ name w,
      (∃ m, (assignments.foldl Settings.after s).assign name w = .error m
          ∧ (assignments ++ [(name, w)]).foldl Settings.after s
            = assignments.foldl Settings.after s)
        ∨ ∃ t, (assignments.foldl Settings.after s).assign name w = .ok t
          ∧ (assignments ++ [(name, w)]).foldl Settings.after s = t
          ∧ Settings.Differ (assignments.foldl Settings.after s) t name w := by
  have haccepted := (Settings.accepted_of_ofValue h).foldl_after assignments
  refine ⟨haccepted.sound, fun name w => ?_⟩
  rw [List.foldl_append, List.foldl_cons, List.foldl_nil]
  cases hassign : (assignments.foldl Settings.after s).assign name w with
  | error m =>
    refine .inl ⟨m, rfl, ?_⟩
    rw [Settings.after, hassign]
  | ok t =>
    refine .inr ⟨t, rfl, ?_, Settings.differ_of_assign hassign⟩
    rw [Settings.after, hassign]

/-- Settings that are read with a number as a text, and then get a path in another form, a number
that is refused, and one that is not. -/
theorem assigned_settings_sound :
    Settings.ofValue (.map [(.text "max_workers", .text "8")]) = .ok { maxWorkers := 8 }
      ∧ [("frontend_root", Value.text "web//./app/"), ("max_workers", .int 65),
          ("nav_order", .text "7")].foldl Settings.after { maxWorkers := 8 }
        = { frontendRoot := ⟨["web", "app"], by decide⟩, maxWorkers := 8, navOrder := 7 }
      ∧ Settings.Sound
        { frontendRoot := ⟨["web", "app"], by decide⟩, maxWorkers := 8, navOrder := 7 } := by
  have hread : Settings.ofValue (.map [(.text "max_workers", .text "8")])
      = .ok { maxWorkers := 8 } := rfl
  have hpath : RelativePath.ofText? "web//./app/" = some ⟨["web", "app"], by decide⟩ := by
    have hrelative : "web//./app/".startsWith "/" = false := by
      rw [String.startsWith_string_eq_false_iff]
      decide
    have hnames : RelativePath.namesOf "web//./app/" = ["web", "app"] := by decide
    rw [RelativePath.ofText?, if_neg (by rw [hrelative]; decide), dif_neg (by rw [hnames]; decide)]
    simp only [hnames]
  have hsetting : Settings.setting? "frontend_root" = some .frontendRoot := by decide
  have hfirst : Settings.after { maxWorkers := 8 } ("frontend_root", .text "web//./app/")
      = { frontendRoot := ⟨["web", "app"], by decide⟩, maxWorkers := 8 } := by
    simp only [Settings.after, Settings.assign, hsetting, Setting.update,
      Setting.root_of_ofText? hpath, Except.map]
  have hassigned : [("frontend_root", Value.text "web//./app/"), ("max_workers", .int 65),
        ("nav_order", .text "7")].foldl Settings.after { maxWorkers := 8 }
      = { frontendRoot := ⟨["web", "app"], by decide⟩, maxWorkers := 8, navOrder := 7 } := by
    rw [List.foldl_cons, hfirst]
    rfl
  have hsound := (settings_stay_sound hread [("frontend_root", .text "web//./app/"),
    ("max_workers", .int 65), ("nav_order", .text "7")]).1
  rw [hassigned] at hsound
  exact ⟨hread, hassigned, hsound⟩

end Scaffold
