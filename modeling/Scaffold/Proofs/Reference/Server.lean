import Scaffold.Proofs.Reference.Content
import Scaffold.Proofs.Reference.Templates
import Scaffold.Proofs.Settings

/-!
# What the server side refers to

The controller imports the model, and the routes import both. They are written with the forms of one
name, the routes also with three settings. The model refers to nothing in its module: its lines
about fields have quoted texts in them, but no imports.
-/

namespace Scaffold.Server

open Text Reading

/-! ### Names that are declared -/

theorem isWord_controllerClass {n : Names} (hn : n.AreWords) : IsWord (controllerClass n) :=
  .append hn.capitalized (.literal rfl)

/-! ### The controller -/

/-- What the controller refers to. -/
theorem refers_controllerLines {n : Names} (hn : n.AreWords) :
    ∀ s ∈ controllerLines n, CitesText (controllerImports n) [] s ∧ UsesText [] [] s := by
  obtain ⟨σ, hσ, -⟩ := hn.exists_filling_other hn.name
  have hlines : (controllerLines .placeholders).map σ.text = controllerLines n := by
    simp (disch := decide) [controllerLines, modelConst, documentType, controllerClass, fillImport,
      Filling.text_ascii, hσ.capitalized]
  have himports : (controllerImports .placeholders).map (fillImport σ) = controllerImports n := by
    simp (disch := decide) [controllerImports, modelConst, documentType, fillImport,
      Filling.text_ascii, hσ.capitalized]
  rw [← hlines, ← himports]
  exact refersText_of_holdsOf templates_refer.2.2.2.2.2.1

theorem isScript_controller {n : Names} :
    (⟨.backend, controllerPath, controllerText n⟩ : Artifact).IsScript (controllerLines n) where
  path := ⟨"controller", rfl⟩
  content := rfl
  ending := ⟨"\x7d", '\x7d', rfl, rfl, by decide⟩

theorem controllerClass_mem_exports {n : Names} (hn : n.AreWords) {a : Artifact}
    (ha : a.IsScript (controllerLines n)) : controllerClass n ∈ a.exports := by
  have hkind : "class" ∈ ["const", "interface", "class"] := by decide
  refine ha.mem_exports hkind (isWord_controllerClass hn) (by decide : '\n' ∉ "\x7b".toList) ?_
  have hline : "export " ++ "class" ++ " " ++ controllerClass n ++ " " ++ "\x7b"
      = "export class " ++ controllerClass n ++ " \x7b" := by
    simp [← String.toList_inj]
  rw [hline]
  simp [controllerLines]

/-! ### The routes -/

/-- What the routes refer to. -/
theorem refers_routesLines {st : Settings} (hst : st.WellFormed) {n : Names} (hn : n.AreWords) :
    ∃ auth guard role, ∀ s ∈ routesLines st n,
      CitesText (routesImports auth guard n) [] s ∧ UsesText routesMade (routesTaken role) s := by
  obtain ⟨auth, hauth, auth', hauth', heqauth⟩ := exists_isWord_of_isIdentifier hst.authMiddleware
  obtain ⟨guard, hguard, guard', hguard', heqguard⟩ := exists_isWord_of_isIdentifier hst.roleGuard
  obtain ⟨role, hrole, role', hrole', heqrole⟩ := exists_isWord_of_isIdentifier hst.adminRole
  obtain ⟨σ, hσ, hother, hsecond, hthird⟩ := hn.exists_filling hauth hguard hrole
  have hback : ∀ s ∈ ["", "\n"], σ.text s = s := by
    simp (disch := decide) only [List.forall_mem_cons, List.not_mem_nil, false_imp_iff,
      implies_true, and_true, Filling.text_ascii]
  have hlines : (routesLines (closedSettings auth' guard' role') .placeholders).map σ.text
      = routesLines st n := by
    unfold routesLines adminGuard
    simp only [closedSettings, heqauth, heqguard, heqrole]
    simp (disch := decide) [modelConst, controllerClass, fillImport, Filling.text_ascii, hσ.name,
      hσ.capitalized, hother, hsecond, hthird, hback _ hauth', hback _ hguard', hback _ hrole']
  have himports :
      (routesImports otherPlaceholder secondPlaceholder .placeholders).map (fillImport σ)
      = routesImports auth guard n := by
    simp (disch := decide) [routesImports, modelConst, controllerClass, fillImport,
      Filling.text_ascii, hσ.capitalized, hother, hsecond]
  have hmade : routesMade.map (fillPair σ) = routesMade := by
    simp (disch := decide) [routesMade, fillPair, Filling.text_ascii]
  have htaken : (routesTaken thirdPlaceholder).map (fillPair σ) = routesTaken role := by
    simp (disch := decide) [routesTaken, fillPair, Filling.text_ascii, hthird]
  -- the routes are the checked template with the three names of the settings in it
  refine ⟨auth, guard, role, ?_⟩
  rw [← hlines, ← himports, ← hmade, ← htaken]
  exact refersText_of_holdsOf
    (templates_refer.2.2.2.2.2.2 _ hauth' _ hguard' _ hrole')

theorem isScript_routes {st : Settings} {n : Names} :
    (⟨.backend, routesPath, routesText st n⟩ : Artifact).IsScript (routesLines st n) where
  path := ⟨"routes", rfl⟩
  content := rfl
  ending := ⟨"export default router;", ';', rfl, rfl, by decide⟩

end Scaffold.Server
