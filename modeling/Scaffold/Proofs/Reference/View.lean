import Scaffold.Proofs.Client.Collisions
import Scaffold.Proofs.ListLemmas
import Scaffold.Proofs.Reference.Content
import Scaffold.Proofs.Reference.Quoted
import Scaffold.Proofs.Reference.Templates

/-!
# What the script of a view refers to

The script of a view is written with the forms of one name, with the stores of related entities, and
with members of objects: for the fields of the form, and for the columns of the table. A member has
a key in it, or a quoted text, or it is one of a few that are the same in all views.
-/

namespace Scaffold.View

open Text Reading Client

/-! ### Filled texts -/

@[simp] theorem line_componentDir (t : Theme) (front back : String) :
    t.line [.text front, .componentDir, .text back] = front ++ t.componentDir ++ back := by
  simp [Theme.line, Theme.piece, String.join]

@[simp] theorem line_modalModule (t : Theme) (front back : String) :
    t.line [.text front, .modalModule, .text back] = front ++ t.modalModule ++ back := by
  simp [Theme.line, Theme.piece, String.join]

/-- The modules of a theme are written in ASCII. -/
theorem isAscii_modules {t : Theme} (ht : t ∈ Theme.builtIn) :
    isAscii t.componentDir = true ∧ isAscii t.modalModule = true := by
  rcases List.mem_cons.mp ht with rfl | ht
  · decide
  · rw [List.mem_singleton.mp ht]
    decide

section

variable {σ : Filling} {n : Names} (hn : n.IsFilledBy σ)

include hn

theorem map_viewImports :
    (viewImports (.bare .placeholders)).map (fillImport σ) = viewImports (.bare n) := by
  simp (disch := decide) [viewImports, Spec.bare, interfaceImport, serviceImport, createType,
    updateType, useService, fillImport, Filling.text_ascii, hn.name, hn.capitalized]

theorem map_importLines {t : Theme} (ht : t ∈ Theme.builtIn) :
    ((importLines (.bare .placeholders)).map t.line).map σ.text
      = (importLines (.bare n)).map t.line := by
  obtain ⟨hdirectory, hmodule⟩ := isAscii_modules ht
  have himports : ((viewImports (.bare .placeholders)).map Import.line).map σ.text
      = (viewImports (.bare n)).map Import.line := by
    rw [← map_viewImports hn, List.map_map, List.map_map]
    exact List.map_congr_left fun i _ => text_line i
  simp (disch := first | assumption | decide) [importLines, untyped, ← himports,
    Filling.text_ascii]

theorem map_stateLines : (stateLines (.bare .placeholders)).map σ.text = stateLines (.bare n) := by
  simp (disch := decide) [stateLines, Spec.bare, defaultMembers, objectBody, commaSeparated,
    formConst, serviceConst, useService, createType, updateType, Filling.text_ascii, hn.name,
    hn.capitalized]

theorem map_openingLines :
    (openingLines (.bare .placeholders)).map σ.text = openingLines (.bare n) := by
  simp (disch := decide) [openingLines, Spec.bare, Filling.text_ascii, hn.name]

theorem map_submitLines :
    (submitLines (.bare .placeholders)).map σ.text = submitLines (.bare n) := by
  simp (disch := decide) [submitLines, Spec.bare, payloadMembers, objectBody, commaSeparated,
    serviceConst, createType, updateType, create, update, Filling.text_ascii, hn.name,
    hn.capitalized]

theorem map_editLines : (editLines (.bare .placeholders)).map σ.text = editLines (.bare n) := by
  simp (disch := decide) [editLines, Spec.bare, loadedMembers, objectBody, commaSeparated,
    formConst, serviceConst, getOne, Filling.text_ascii, hn.name, hn.capitalized]

theorem map_deleteLines : (deleteLines .placeholders).map σ.text = deleteLines n := by
  simp (disch := decide) [deleteLines, serviceConst, delete, Filling.text_ascii, hn.name,
    hn.capitalized]

theorem map_toggleLines : (toggleLines .placeholders).map σ.text = toggleLines n := by
  simp (disch := decide) [toggleLines, serviceConst, updateField, Filling.text_ascii, hn.name]

theorem map_scriptParts :
    (scriptParts (.bare .placeholders)).map (List.map σ.text) = scriptParts (.bare n) := by
  have hcolumns : (columnLines (.bare .placeholders)).map σ.text = columnLines (.bare n) := by
    simp (disch := decide) [columnLines, Spec.bare, commaSeparatedBlocks, Filling.text_ascii]
  simp [scriptParts, map_stateLines hn, map_openingLines hn, map_submitLines hn, map_editLines hn,
    map_deleteLines hn, map_toggleLines hn, hcolumns]

theorem map_ownViewLines {t : Theme} (ht : t ∈ Theme.builtIn) :
    (ownViewLines t .placeholders).map σ.text = ownViewLines t n := by
  simp (disch := decide) [ownViewLines, innerLines, map_importLines hn ht, map_intercalate,
    map_scriptParts hn, Filling.text_ascii]

omit hn in
theorem map_viewLibraries {t : Theme} (ht : t ∈ Theme.builtIn) :
    (viewLibraries t).map (fillImport σ) = viewLibraries t := by
  obtain ⟨hdirectory, hmodule⟩ := isAscii_modules ht
  simp (disch := first | assumption | decide) [viewLibraries, fillImport, Filling.text_ascii]

theorem map_viewMade : (viewMade .placeholders).map (fillPair σ) = viewMade n := by
  simp (disch := decide) [viewMade, serviceConst, useService, fillPair, Filling.text_ascii,
    hn.name, hn.capitalized]

theorem map_viewTaken : (viewTaken .placeholders).map (fillPair σ) = viewTaken n := by
  simp (disch := decide) [viewTaken, sharedTaken, serviceMembers, serviceConst, getAll, getOne,
    create, update, delete, updateField, formConst, fillPair, Filling.text_ascii, hn.name,
    hn.capitalized, hn.capitalizedPlural]

theorem map_relatedViewLines :
    (relatedViewLines .placeholders).map σ.text = relatedViewLines n := by
  simp (disch := decide) [relatedViewLines, choiceExpression, storeImport, storeConst, useStore,
    fetchAll, fillImport, Filling.text_ascii, hn.name, hn.capitalized, hn.plural,
    hn.capitalizedPlural]

theorem fill_storeChoice : fillPair σ (storeChoice .placeholders) = storeChoice n := by
  simp (disch := decide) [storeChoice, storeConst, fillPair, Filling.text_ascii, hn.name,
    hn.plural]

theorem map_keyTaken {key : String} (hkey : σ.text otherPlaceholder = key) :
    (keyTaken .placeholders otherPlaceholder).map (fillPair σ) = keyTaken n key := by
  simp (disch := decide) [keyTaken, formConst, fillPair, Filling.text_ascii, hn.name, hkey]

theorem map_keyMembers {key back : String} (hkey : σ.text otherPlaceholder = key)
    (hback : isAscii back = true) :
    (keyMembers .placeholders (otherPlaceholder ++ back)).map σ.text
      = keyMembers n (key ++ back) := by
  simp (disch := first | assumption | decide) [keyMembers, FieldSpec.fixedDefaults,
    FieldSpec.columnTypes, formConst, Filling.text_ascii, hn.name, hkey]

theorem map_keyLines {key back : String} (hkey : σ.text otherPlaceholder = key)
    (hback : isAscii back = true) :
    (keyLines .placeholders (otherPlaceholder ++ back)).map σ.text = keyLines n (key ++ back) := by
  have hindents : ∀ blanks ∈ indents, isAscii blanks = true := by decide
  have hcomma : σ.text "," = "," := σ.text_ascii (by decide)
  rw [keyLines, keyLines, List.map_flatMap, ← map_keyMembers hn hkey hback]
  refine List.flatMap_congr fun blanks hblanks => ?_
  have hsame : σ.text blanks = blanks := σ.text_ascii (hindents blanks hblanks)
  rw [List.map_flatMap, List.flatMap_map]
  simp [hsame, hcomma]

end

/-! ### References -/

/-- What the lines refer to that a script has whatever it shows. -/
theorem refers_ownViewLines {t : Theme} (ht : t ∈ Theme.builtIn) {n : Names} (hn : n.AreWords) :
    ∀ s ∈ ownViewLines t n, CitesText (viewLibraries t ++ viewImports (.bare n)) [] s
      ∧ UsesText (viewMade n) (viewTaken n) s := by
  obtain ⟨σ, hσ, -⟩ := hn.exists_filling_other hn.name
  have hrefers := refersText_of_holdsOf (σ := σ) (templates_refer.2.2.1.1 t ht)
  rwa [map_ownViewLines hσ ht, List.map_append, map_viewLibraries ht, map_viewImports hσ,
    map_viewMade hσ, map_viewTaken hσ] at hrefers

/-- What the code for a related entity refers to. -/
theorem refers_relatedViewLines {r : Names} (hr : r.AreWords) :
    ∀ s ∈ relatedViewLines r, CitesText [storeImport "../stores/" r] [] s
      ∧ UsesText [storeInstance r] [storeFetch r, storeChoice r] s := by
  obtain ⟨σ, hσ, -⟩ := hr.exists_filling_other hr.name
  have hrefers := refersText_of_holdsOf (σ := σ) templates_refer.2.2.1.2.1
  rwa [map_relatedViewLines hσ, List.map_singleton, fill_storeImport hσ (by decide),
    List.map_singleton, fill_storeInstance hσ, List.map_cons, List.map_singleton,
    fill_storeFetch hσ, fill_storeChoice hσ] at hrefers

/-- What the lines with members for a field refer to. -/
theorem refers_keyLines {n : Names} (hn : n.AreWords) {key : String}
    (hkey : Identifier.isIdentifier key = true) :
    ∀ s ∈ keyLines n key, CitesText [] [] s ∧ UsesText [] (keyTaken n (word key)) s := by
  obtain ⟨name, hname, back, hback, rfl⟩ := exists_isWord_of_isIdentifier hkey
  obtain ⟨σ, hσ, hfill⟩ := hn.exists_filling_other hname
  have hascii : ∀ back ∈ ["", "\n"], isAscii back = true ∧ word back = "" := by decide
  obtain ⟨hback', hword⟩ := hascii back hback
  have hrefers := refersText_of_holdsOf (σ := σ) (templates_refer.2.2.1.2.2 back hback)
  rw [map_keyLines hσ hfill hback', map_keyTaken hσ hfill] at hrefers
  rwa [word_append hname.isPart_of_mem, hword, String.append_empty]

/-! ### Lines of a script -/

/-- The members of objects in a script. -/
def members (spec : Spec) : List String :=
  defaultMembers spec ++ payloadMembers spec ++ loadedMembers spec
    ++ spec.columns.flatMap fun c => ("data: '" ++ c.key ++ "'") :: columnMembers c

theorem defaultMembers_subset (spec : Spec) : defaultMembers spec ⊆ members spec := fun _ h => by
  simp [members, h]

theorem payloadMembers_subset (spec : Spec) : payloadMembers spec ⊆ members spec := fun _ h => by
  simp [members, h]

theorem loadedMembers_subset (spec : Spec) : loadedMembers spec ⊆ members spec := fun _ h => by
  simp [members, h]

theorem columnMembers_subset {spec : Spec} {c : Column} (hc : c ∈ spec.columns) :
    ("data: '" ++ c.key ++ "'") :: columnMembers c ⊆ members spec := fun _ h =>
  List.mem_append_right _ (List.mem_flatMap.mpr ⟨c, hc, h⟩)

/-- What holds of the lines that are the same for all views of an entity, of the code for related
entities, and of the members of objects. -/
structure HoldsOfParts (p : String → Prop) (t : Theme) (spec : Spec) : Prop where
  own : ∀ s ∈ ownViewLines t spec.names, p s
  related : ∀ r ∈ spec.related, ∀ s ∈ relatedViewLines r, p s
  members : ∀ blanks ∈ indents, ∀ member ∈ members spec, ∀ line,
    IsEntry (blanks ++ member) line → p line

namespace HoldsOfParts

variable {p : String → Prop} {t : Theme} {spec : Spec} (h : HoldsOfParts p t spec)

include h

theorem inner : ∀ s ∈ innerLines t (.bare spec.names), p s := fun s hs =>
  h.own s (List.mem_append_left _ hs)

theorem part (lines : List String) (hlines : lines ∈ View.scriptParts (.bare spec.names)) :
    ∀ s ∈ lines, p s := fun s hs =>
  h.inner s (List.mem_append_right _ (List.mem_append_right _
    ((infix_intercalate hlines).subset hs)))

theorem map_related {f : Names → String} (hf : ∀ r, f r ∈ relatedViewLines r) :
    ∀ s ∈ spec.related.map f, p s :=
  List.forall_mem_map.mpr fun r hr => h.related r hr _ (hf r)

theorem objectBody (blanks : String) (hblanks : blanks ∈ indents) {lines : List String}
    (hlines : lines ⊆ View.members spec) : ∀ s ∈ objectBody blanks lines, p s := by
  intro s hs
  obtain ⟨entry, hentry, hs⟩ := mem_commaSeparated hs
  obtain ⟨member, hmember, rfl⟩ := List.mem_map.mp hentry
  exact h.members blanks hblanks member (hlines hmember) s hs

theorem stateLines : ∀ s ∈ stateLines spec, p s := by
  have hown := h.part (View.stateLines (.bare spec.names)) (by simp [View.scriptParts])
  have hrelated := h.map_related (f := fun r =>
    "const " ++ storeConst r ++ " = " ++ useStore r ++ "()") (by simp [relatedViewLines])
  have hdefaults := h.objectBody "  " (by decide) (defaultMembers_subset spec)
  have hreset := h.objectBody "    " (by decide) (defaultMembers_subset spec)
  unfold View.stateLines at hown ⊢
  simp only [Spec.bare, defaultMembers, View.objectBody, List.map_nil, commaSeparated,
    List.append_nil, List.forall_mem_append] at hown
  simp only [List.forall_mem_append]
  obtain ⟨⟨⟨hmodal, hediting⟩, hform⟩, hend⟩ := hown
  exact ⟨⟨⟨⟨⟨⟨hmodal, hrelated⟩, hediting⟩, hdefaults⟩, hform⟩, hreset⟩, hend⟩

theorem openingLines : ∀ s ∈ openingLines spec, p s := by
  have hown := h.part (View.openingLines (.bare spec.names)) (by simp [View.scriptParts])
  have hrelated := h.map_related (f := fun r =>
    "  " ++ storeConst r ++ "." ++ fetchAll r ++ "()") (by simp [relatedViewLines])
  unfold View.openingLines at hown ⊢
  simp only [Spec.bare, List.map_nil, List.append_nil, List.forall_mem_append] at hown
  simp only [List.forall_mem_append]
  exact ⟨⟨hown.1, hrelated⟩, hown.2⟩

theorem submitLines : ∀ s ∈ submitLines spec, p s := by
  have hown := h.part (View.submitLines (.bare spec.names)) (by simp [View.scriptParts])
  have hpayload := h.objectBody "        " (by decide) (payloadMembers_subset spec)
  unfold View.submitLines at hown ⊢
  simp only [Spec.bare, payloadMembers, View.objectBody, List.map_nil, commaSeparated,
    List.append_nil, List.forall_mem_append] at hown
  simp only [List.forall_mem_append]
  obtain ⟨⟨hupdate, hcreate⟩, hend⟩ := hown
  exact ⟨⟨⟨⟨hupdate, hpayload⟩, hcreate⟩, hpayload⟩, hend⟩

theorem editLines : ∀ s ∈ editLines spec, p s := by
  have hown := h.part (View.editLines (.bare spec.names)) (by simp [View.scriptParts])
  have hloaded := h.objectBody "      " (by decide) (loadedMembers_subset spec)
  unfold View.editLines at hown ⊢
  simp only [Spec.bare, loadedMembers, View.objectBody, List.map_nil, commaSeparated,
    List.append_nil, List.forall_mem_append] at hown
  simp only [List.forall_mem_append]
  exact ⟨⟨hown.1, hloaded⟩, hown.2⟩

theorem columnBlock {c : Column} (hc : c ∈ spec.columns) : ∀ s ∈ (columnBlock c).1, p s := by
  have hopening : p "  \x7b" := h.own _ (List.mem_append_right _ List.mem_cons_self)
  exact List.forall_mem_cons.mpr
    ⟨hopening, h.objectBody _ (by decide) (columnMembers_subset hc)⟩

theorem columnLines : ∀ s ∈ columnLines spec, p s := by
  have hown := h.part (View.columnLines (.bare spec.names)) (by simp [View.scriptParts])
  obtain ⟨blocks, heq, hblocks⟩ := exists_commaSeparatedBlocks (spec.columns.map View.columnBlock)
  unfold View.columnLines at hown ⊢
  simp only [Spec.bare, List.map_nil, commaSeparatedBlocks, List.append_nil,
    List.forall_mem_append] at hown
  rw [heq]
  simp only [List.forall_mem_append]
  refine ⟨⟨hown.1, fun s hs => ?_⟩, hown.2⟩
  obtain ⟨block, hblock, hs⟩ := List.mem_flatten.mp hs
  obtain ⟨entry, hentry, last, hlast, rfl⟩ := exists_of_forall₂ hblocks.flip hblock
  obtain ⟨c, hc, rfl⟩ := List.mem_map.mp hentry
  rcases List.mem_append.mp hs with hs | hs
  · exact h.columnBlock hc s hs
  · -- the last line of a block closes it, perhaps with a comma
    rw [List.mem_singleton.mp hs]
    rcases hlast with rfl | rfl
    · exact h.own _ (List.mem_append_right _ (.tail _ List.mem_cons_self))
    · exact h.own _ (List.mem_append_right _ (.tail _ (.tail _ List.mem_cons_self)))

theorem importLines : ∀ s ∈ (importLines spec).map t.line, p s := by
  have hown : ∀ s ∈ (View.importLines (.bare spec.names)).map t.line, p s := fun s hs =>
    h.inner s (List.mem_append_left _ hs)
  have hrelated := h.map_related (f := fun r => (storeImport "../stores/" r).line)
    (by simp [relatedViewLines])
  unfold View.importLines viewImports at hown ⊢
  simp only [Spec.bare, List.map_append, List.map_nil, List.append_nil, map_line_plain,
    List.map_cons, List.cons_append, List.nil_append, List.take_succ_cons, List.take_zero,
    List.drop_succ_cons, List.drop_zero, List.forall_mem_append, List.forall_mem_cons, List.map_map,
    Function.comp_def] at hown ⊢
  obtain ⟨href, hcolumn, hinterface, hdirectory, hservice, huntyped, hswal, -, hmodal, hnil⟩ := hown
  exact ⟨href, hcolumn, hinterface, hdirectory, hservice,
    ⟨hrelated, huntyped, hswal, huntyped, hnil⟩, hmodal, hnil⟩

theorem scriptParts : ∀ lines ∈ scriptParts spec, ∀ s ∈ lines, p s := by
  have hdelete := h.part (deleteLines spec.names) (by simp [View.scriptParts, Spec.bare])
  have htoggle := h.part (toggleLines spec.names) (by simp [View.scriptParts, Spec.bare])
  rw [View.scriptParts]
  simp only [List.forall_mem_cons, List.not_mem_nil, false_imp_iff, implies_true, and_true]
  exact ⟨h.stateLines, h.openingLines, h.submitLines, h.editLines, hdelete, htoggle, h.columnLines⟩

/-- What holds of the parts of a script holds of all its lines. -/
theorem innerLines : ∀ s ∈ innerLines t spec, p s := by
  have hblank : ∀ s ∈ [""], p s := by
    rw [List.forall_mem_singleton]
    exact h.inner "" (List.mem_append_right _ List.mem_cons_self)
  refine List.forall_mem_append.mpr ⟨h.importLines, List.forall_mem_append.mpr ⟨hblank, ?_⟩⟩
  intro s hs
  rcases exists_of_mem_intercalate hs with hs | ⟨lines, hlines, hs⟩
  · exact hblank s hs
  · exact h.scriptParts lines hlines s hs

end HoldsOfParts

end Scaffold.View
