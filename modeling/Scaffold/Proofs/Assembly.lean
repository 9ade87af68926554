import Mathlib.Algebra.Group.Nat.Defs
import Scaffold.Generation
import Scaffold.Proofs.Entity

/-!
# Assembling

Two things keep a value from its artifacts: validation, and settings that cannot be written because
the position in the navigation has too many digits (`Settings.IsWritable`). Nothing else does: the
class tables of the built-in themes lack no token, and the entity of an accepted document exists. So
`assemble` fails as validation does, with the same rejection, and for all accepted documents where
the settings cannot be written (`assemble_fails_iff`).
-/

namespace Scaffold

/-! ### Settings that can be written -/

theorem Text.isWritable_iff {n : Int} : isWritable n = true ↔ n.natAbs < 10 ^ maxDigits := by
  rw [isWritable, decide_eq_true_iff, Nat.length_toDigits_le_iff (by decide) (by decide)]

/-- Settings can be written into the files that they ask for: with a client side, the position in
the navigation does not have too many digits. -/
def Settings.IsWritable (s : Settings) : Prop :=
  s.generateFrontend = true → Text.isWritable s.navOrder = true

instance Settings.decidableIsWritable (s : Settings) : Decidable s.IsWritable :=
  inferInstanceAs (Decidable (_ → _))

theorem Settings.isWritable_default : ({} : Settings).IsWritable := by decide

theorem Settings.isWritable_of_generateFrontend {s : Settings} (h : s.generateFrontend = false) :
    s.IsWritable := by
  intro hfrontend
  rw [h] at hfrontend
  cases hfrontend

theorem Settings.not_isWritable_iff {s : Settings} :
    ¬s.IsWritable ↔ s.generateFrontend = true ∧ Text.isWritable s.navOrder = false := by
  simp [IsWritable]

/-- The first position in the navigation that cannot be written. -/
def Settings.overlong : Settings := { (default : Settings) with navOrder := 10 ^ Text.maxDigits }

theorem Settings.not_isWritable_overlong : ¬overlong.IsWritable := by
  refine not_isWritable_iff.mpr ⟨rfl, Bool.eq_false_iff.mpr fun h => ?_⟩
  rw [Text.isWritable_iff, Int.natAbs_natCast] at h
  exact Nat.lt_irrefl (10 ^ Text.maxDigits) h

namespace Client

/-- The content of the file that registers an entity, where it can be written. -/
def routeText (s : Settings) (n : Names) : String :=
  Text.joinLines (routeLines s (toString s.navOrder) n)

theorem routeText?_eq_some {s : Settings} (h : Text.isWritable s.navOrder = true) (n : Names) :
    routeText? s n = some (routeText s n) := by
  simp only [routeText?, Text.decimal?, h, if_true]
  rfl

theorem routeText?_eq_none {s : Settings} (h : Text.isWritable s.navOrder = false) (n : Names) :
    routeText? s n = none := by
  simp [routeText?, Text.decimal?, h]

end Client

/-! ### Themes -/

theorem ThemeTable.theme_eq_ok {t : ThemeTable} (h : t.lacking = []) :
    t.theme = .ok t.themeOf := by
  simp [theme, h]

/-- The built-in class tables lack no token. -/
theorem ThemeTable.builtIn_theme : builtIn.map theme = Theme.builtIn.map .ok := by
  have hbootstrap : bootstrap.lacking = [] := by decide
  have hfomantic : fomantic.lacking = [] := by decide
  simp [builtIn, Theme.builtIn, Theme.bootstrap, Theme.fomantic, theme_eq_ok hbootstrap,
    theme_eq_ok hfomantic]

namespace Entity

/-- The files of the client side, views and related entities apart, where they can be written. -/
def clientFiles (e : Entity) (s : Settings) : List Artifact :=
  e.clientFilesWith s (Client.routeText s e.names)

/-- All artifacts of an entity, where they can be written. -/
def artifacts (e : Entity) (s : Settings) : List Artifact :=
  (if s.generateFrontend then e.clientFiles s ++ e.views Theme.builtIn else [])
    ++ (if s.generateBackend then e.serverFiles s else [])
    ++ (if s.generateFrontend then e.related.flatMap (e.relatedFiles s) else [])

/-- With the built-in themes there is a client side. -/
theorem clientSide_builtIn (e : Entity) {s : Settings} (h : Text.isWritable s.navOrder = true) :
    e.clientSide (ThemeTable.builtIn.map ThemeTable.theme) s
      = .ok (e.clientFiles s ++ e.views Theme.builtIn) := by
  have hfiles : e.clientFiles? s = some (e.clientFiles s) := by
    rw [clientFiles?, Client.routeText?_eq_some h]
    rfl
  have hthemes : ((Theme.builtIn.map .ok).mapM id : Except ThemeFault (List Theme))
      = .ok Theme.builtIn := by
    rw [List.mapM_map]
    exact List.mapM_pure.trans (congrArg Except.ok Theme.builtIn.map_id)
  simp only [clientSide, hfiles, ThemeTable.builtIn_theme, hthemes]

/-- With the built-in themes and settings that can be written there are artifacts. -/
theorem render_builtIn (e : Entity) {s : Settings} (h : s.IsWritable) :
    e.render (ThemeTable.builtIn.map ThemeTable.theme) s = .ok (e.artifacts s) := by
  have hclient : (if s.generateFrontend then
        e.clientSide (ThemeTable.builtIn.map ThemeTable.theme) s else .ok [])
      = .ok (if s.generateFrontend then e.clientFiles s ++ e.views Theme.builtIn else []) := by
    split
    next hfrontend => exact clientSide_builtIn e (h hfrontend)
    next => rfl
  rw [render, hclient]
  rfl

/-- With settings that cannot be written there are none, whatever the themes. -/
theorem render_of_not_isWritable (e : Entity) {s : Settings} (h : ¬s.IsWritable)
    (themes : List (Except ThemeFault Theme)) : e.render themes s = .error .overlong := by
  obtain ⟨hfrontend, hlong⟩ := Settings.not_isWritable_iff.mp h
  have hfiles : e.clientFiles? s = none := by
    rw [clientFiles?, Client.routeText?_eq_none hlong]
    rfl
  have hclient : (if s.generateFrontend then e.clientSide themes s else .ok [])
      = .error .overlong := by
    rw [if_pos hfrontend, clientSide, hfiles]
  rw [render, hclient]
  rfl

/-- With the built-in themes, what is rendered is all artifacts. -/
theorem render_builtIn_eq_ok {e : Entity} {s : Settings} {files : List Artifact} :
    e.render (ThemeTable.builtIn.map ThemeTable.theme) s = .ok files
      ↔ s.IsWritable ∧ e.artifacts s = files := by
  by_cases hs : s.IsWritable
  · simp [render_builtIn e hs, hs]
  · simp [render_of_not_isWritable e hs, hs]

/-! ### Files -/

section

variable {s : Settings}

/-- The files of related entities are the last ones. -/
theorem exists_artifacts_eq (hfrontend : s.generateFrontend = true) (e : Entity) :
    ∃ others, e.artifacts s = others ++ e.related.flatMap (e.relatedFiles s) := by
  unfold artifacts
  simp only [hfrontend, if_true]
  exact ⟨_, rfl⟩

variable {e : Entity} {a : Artifact}

theorem mem_artifacts_of_mem_clientFiles (hfrontend : s.generateFrontend = true)
    (ha : a ∈ e.clientFiles s) : a ∈ e.artifacts s := by
  unfold artifacts
  simp only [hfrontend, if_true]
  exact List.mem_append_left _ (List.mem_append_left _ (List.mem_append_left _ ha))

theorem mem_artifacts_of_mem_views (hfrontend : s.generateFrontend = true)
    (ha : a ∈ e.views Theme.builtIn) : a ∈ e.artifacts s := by
  unfold artifacts
  simp only [hfrontend, if_true]
  exact List.mem_append_left _ (List.mem_append_left _ (List.mem_append_right _ ha))

/-- There is a view for each built-in theme. -/
theorem exists_view (hfrontend : s.generateFrontend = true) (e : Entity) {theme : String}
    (htheme : theme ∈ ["Bootstrap", "Fomantic"]) :
    ∃ t ∈ Theme.builtIn, ⟨.frontend, "views/" ++ e.names.capitalized ++ theme ++ ".vue",
      (View.artifact t (.ofEntity e)).content⟩ ∈ e.artifacts s := by
  -- the words are those of the built-in themes
  have hwords : Theme.builtIn.map (fun t => Text.capitalize t.name.word)
      = ["Bootstrap", "Fomantic"] := by decide
  rw [← hwords] at htheme
  obtain ⟨t, ht, rfl⟩ := List.mem_map.mp htheme
  exact ⟨t, ht, mem_artifacts_of_mem_views hfrontend (List.mem_map.mpr ⟨t, ht, rfl⟩)⟩

theorem mem_artifacts_of_mem_serverFiles (hbackend : s.generateBackend = true)
    (ha : a ∈ e.serverFiles s) : a ∈ e.artifacts s := by
  unfold artifacts
  simp only [hbackend, if_true]
  exact List.mem_append_left _ (List.mem_append_right _ ha)

theorem mem_artifacts_of_mem_relatedFiles (hfrontend : s.generateFrontend = true) {n : Names}
    (hn : n ∈ e.related) (ha : a ∈ e.relatedFiles s n) : a ∈ e.artifacts s := by
  obtain ⟨others, hothers⟩ := exists_artifacts_eq hfrontend e
  rw [hothers]
  exact List.mem_append_right _ (List.mem_flatMap.mpr ⟨n, hn, ha⟩)

end

end Entity

/-! ### Values -/

/-- An entity is made of a value wherever validation passes. -/
theorem ofValue_eq_error {v : Value} {r : Rejection} :
    Entity.ofValue v = .error r ↔ Document.validate v = .error r := by
  unfold Entity.ofValue Document.validate
  split
  next => simp
  next d _ =>
    unfold Entity.ofAccepted
    split
    next r' hvalid => simp [hvalid]
    next fs hvalid =>
      have hd := Document.isAccepted_iff.mp (Document.ensureValid_eq_ok.mp hvalid).1
      obtain ⟨fields, -, hof⟩ := Entity.exists_ofDocument hd
      simp [hof, hvalid]

theorem exists_ofValue_eq_ok {v : Value} :
    (∃ e, Entity.ofValue v = .ok e) ↔ ∃ fs, Document.validate v = .ok fs := by
  have hfails : ∀ {r}, Entity.ofValue v = .error r ↔ Document.validate v = .error r :=
    ofValue_eq_error
  cases hvalue : Entity.ofValue v with
  | error r => simp [hfails.mp hvalue]
  | ok e =>
    cases hvalidate : Document.validate v with
    | error r => rw [hfails.mpr hvalidate] at hvalue; cases hvalue
    | ok fs => simp

/-- Assembling has two faults: the rejection of the value, and settings that cannot be written for
the entity of a value that is not rejected. -/
theorem assemble_eq_error {v : Value} {s : Settings} {fault : AssemblyFault} :
    assemble v s = .error fault
      ↔ (∃ r, fault = .rejected r ∧ Document.validate v = .error r)
        ∨ fault = .unrendered .overlong ∧ ¬s.IsWritable ∧ ∃ fs, Document.validate v = .ok fs := by
  unfold assemble
  rw [← exists_ofValue_eq_ok]
  cases hvalue : Entity.ofValue v with
  | error r =>
    rw [ofValue_eq_error] at hvalue
    simp [renderAccepted, hvalue, eq_comm]
  | ok e =>
    have hvalid : ∀ r, Document.validate v ≠ .error r := by
      intro r hr
      rw [ofValue_eq_error.mpr hr] at hvalue
      cases hvalue
    by_cases hs : s.IsWritable
    · simp [renderAccepted, Entity.render_builtIn e hs, hvalid, hs]
    · simp [renderAccepted, Entity.render_of_not_isWritable e hs, hvalid, hs,
        eq_comm]

/-- A well-formed document is accepted as the entity that its schema says. -/
theorem Entity.ofAccepted_of_reads {d : Document} (hd : d.WellFormed) {fields : List FieldSpec}
    (hfields : List.Forall₂ (Entity.Reads d) d.schema.entries fields) :
    Entity.ofAccepted d = .ok (Entity.ofFields d fields) := by
  have hensure := Document.ensureValid_eq_ok.mpr ⟨Document.isAccepted_iff.mpr hd, rfl⟩
  simp only [Entity.ofAccepted, hensure, Entity.ofDocument_of_reads hfields]

/-- A well-formed document has the artifacts of the entity that its schema says. -/
theorem Document.assembled_of_reads {d : Document} (hd : d.WellFormed) {fields : List FieldSpec}
    (hfields : List.Forall₂ (Entity.Reads d) d.schema.entries fields) {s : Settings}
    (hs : s.IsWritable) : d.assembled s = .ok ((Entity.ofFields d fields).artifacts s) := by
  rw [Document.assembled, Entity.ofAccepted_of_reads hd hfields, renderAccepted,
    Entity.render_builtIn _ hs]
  rfl

/-- A value that is a document has what the document has. -/
theorem assemble_eq_assembled {v : Value} {d : Document} (hparse : Document.parse v = .ok d)
    (s : Settings) : assemble v s = d.assembled s := by
  simp only [assemble, Entity.ofValue, hparse, Document.assembled]

/-- The value of an accepted document has the artifacts of the entity that its schema says, under
all settings that can be written. -/
theorem exists_assemble_eq_ok {v : Value} {d : Document} (hparse : Document.parse v = .ok d)
    (hvalid : d.findings.isValid = true) :
    d.WellFormed ∧ ∃ fields, List.Forall₂ (Entity.Reads d) d.schema.entries fields
      ∧ Entity.ofAccepted d = .ok (Entity.ofFields d fields)
      ∧ ∀ s : Settings, s.IsWritable →
        assemble v s = .ok ((Entity.ofFields d fields).artifacts s) := by
  rw [Document.isValid_findings] at hvalid
  have hd := Document.isAccepted_iff.mp hvalid
  obtain ⟨fields, hfields⟩ := Entity.exists_forall₂_reads hd.readable
  refine ⟨hd, fields, hfields, Entity.ofAccepted_of_reads hd hfields, fun s hs => ?_⟩
  rw [assemble_eq_assembled hparse, Document.assembled_of_reads hd hfields hs]

/-- The value of an accepted document has no artifacts under settings that cannot be written. -/
theorem assemble_of_not_isWritable {v : Value} {d : Document} (hparse : Document.parse v = .ok d)
    (hvalid : d.findings.isValid = true) {s : Settings} (hs : ¬s.IsWritable) :
    assemble v s = .error (.unrendered .overlong) := by
  rw [Document.isValid_findings] at hvalid
  refine assemble_eq_error.mpr (.inr ⟨rfl, hs, d.findings, ?_⟩)
  rw [Document.validate, hparse]
  exact Document.ensureValid_eq_ok.mpr ⟨hvalid, rfl⟩

/-- A value is rejected when it is no document or the document has an error. -/
theorem exists_validate_eq_error {v : Value} :
    (∃ r, Document.validate v = .error r)
      ↔ (∃ r, Document.parse v = .error r)
        ∨ ∃ d, Document.parse v = .ok d ∧ ∃ f ∈ d.findings, f.isError = true := by
  unfold Document.validate
  cases hparse : Document.parse v with
  | error r => simp
  | ok d => simp [Document.exists_ensureValid_eq_error]

/-! ### Generators -/

/-- With the built-in themes, the step that assembles fails just for entities whose settings cannot
be written. -/
theorem Generator.generationErrors_generateWith (g : Generator)
    (hthemes : g.themes = ThemeTable.builtIn.map ThemeTable.theme) (faults : Nat → Option Fault)
    (t : FileTree) (source : String) (v : Value) :
    (g.generateWith faults t source v).result.generationErrors
      = if g.settings.IsWritable ∨ (g.validate v).entity.isNone = true then []
        else ["ValueError: " ++ Text.overlongMessage] := by
  unfold generateWith
  dsimp only
  split
  next hnone => simp [hnone, concluded, validationReport]
  next e hsome =>
    by_cases hs : g.settings.IsWritable
    · have hassemble : g.assemble e = .ok (e.artifacts g.settings) := by
        rw [assemble, hthemes, Entity.render_builtIn e hs]
      rw [if_pos (.inl hs), finish, hassemble]
      dsimp only
      split
      next => rfl
      next => split <;> rfl
    · have hassemble : g.assemble e = .error .overlong := Entity.render_of_not_isWritable e hs _
      rw [if_neg (by simp [hs, hsome]), finish, hassemble]
      rfl

/-! ### The whole way -/

/-- Assembling fails for values that are no documents, for documents with an error, and under
settings that cannot be written, and it fails for nothing else. A value that is rejected is rejected
as by validation; the settings are the fault where it is not. Of what follows validation nothing
else fails: the entity of an accepted document exists and has artifacts under all settings that can
be written, and the settings are all that a generator can report as an error of assembling. -/
theorem assemble_fails_iff (v : Value) (s : Settings) :
    ((∃ fault, assemble v s = .error fault)
        ↔ (∃ r, Document.parse v = .error r)
          ∨ (∃ d, Document.parse v = .ok d ∧ ∃ f ∈ d.findings, f.isError = true)
          ∨ ¬s.IsWritable)
      ∧ (∀ fault, assemble v s = .error fault
        ↔ (∃ r, fault = .rejected r ∧ Document.validate v = .error r)
          ∨ fault = .unrendered .overlong ∧ ¬s.IsWritable ∧ ∃ fs, Document.validate v = .ok fs)
      ∧ (∀ d fs, d.ensureValid = .ok fs → ∃ e, Entity.ofDocument d = .ok e ∧ ∀ s' : Settings,
        (s'.IsWritable →
            ∃ files, e.render (ThemeTable.builtIn.map ThemeTable.theme) s' = .ok files)
          ∧ (¬s'.IsWritable →
            e.render (ThemeTable.builtIn.map ThemeTable.theme) s' = .error .overlong))
      ∧ ∀ output dryRun failOnWarnings faults t source,
        let g : Generator :=
          ⟨s, output, dryRun, failOnWarnings, ThemeTable.builtIn.map ThemeTable.theme⟩
        (g.generateWith faults t source v).result.generationErrors
          = if s.IsWritable ∨ (g.validate v).entity.isNone = true then []
            else ["ValueError: " ++ Text.overlongMessage] := by
  refine ⟨?_, fun fault => assemble_eq_error, ?_, ?_⟩
  · rw [← or_assoc, ← exists_validate_eq_error]
    simp only [assemble_eq_error]
    constructor
    · rintro ⟨fault, ⟨r, -, hr⟩ | ⟨-, hs, -⟩⟩
      · exact .inl ⟨r, hr⟩
      · exact .inr hs
    · intro h
      cases hvalidate : Document.validate v with
      | error r => exact ⟨.rejected r, .inl ⟨r, rfl, rfl⟩⟩
      | ok fs =>
        have hs : ¬s.IsWritable := by simpa [hvalidate] using h
        exact ⟨.unrendered .overlong, .inr ⟨rfl, hs, fs, rfl⟩⟩
  · -- an accepted document has an entity, whose rendering fails at the settings alone
    intro d fs hvalid
    have hd := Document.isAccepted_iff.mp (Document.ensureValid_eq_ok.mp hvalid).1
    obtain ⟨fields, -, hof⟩ := Entity.exists_ofDocument hd
    exact ⟨_, hof, fun s' => ⟨fun hs => ⟨_, Entity.render_builtIn _ hs⟩,
      fun hs => Entity.render_of_not_isWritable _ hs _⟩⟩
  · intro output dryRun failOnWarnings faults t source
    exact Generator.generationErrors_generateWith _ rfl faults t source v

/-! ### A document with relationships

An order refers to its buyer and, in two ways, to products.
-/

/-- The value that describes orders. -/
def orderValue : Value :=
  .map [(.text "name", .text "order"),
    (.text "schema", .map [(.text "buyer", .text "relationship:customer"),
      (.text "items", .text "relationship: product :array"),
      (.text "gift", .text "relationship:product")]),
    (.text "ui", .map [(.text "buyer", .map []), (.text "items", .map []),
      (.text "gift", .map [])])]

/-- The document about orders. -/
def orderDocument : Document where
  version := none
  name := "order"
  overrides := {}
  schema := .ofList [("buyer", "relationship:customer"), ("items", "relationship: product :array"),
    ("gift", "relationship:product")]
  ui := .ofList [("buyer", {}), ("items", {}), ("gift", {})]

theorem orderValue_accepted : Document.parse orderValue = .ok orderDocument
    ∧ orderDocument.findings.isValid = true
    ∧ orderDocument.targets = ["customer", "product"] := by
  decide +kernel

theorem parse_orderValue : Document.parse orderValue = .ok orderDocument := orderValue_accepted.1

theorem isValid_orderDocument : orderDocument.findings.isValid = true := orderValue_accepted.2.1

theorem targets_orderDocument : orderDocument.targets = ["customer", "product"] :=
  orderValue_accepted.2.2

end Scaffold
