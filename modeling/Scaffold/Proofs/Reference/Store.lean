import Scaffold.Proofs.Reference.Content
import Scaffold.Proofs.Reference.Templates

/-!
# What stores refer to

A store is written with the forms of one name and the types of its entity, so that its text with
placeholders tells what it refers to under all names. Only the lines for related entities are as
many as these: each has a placeholder text of its own.
-/

namespace Scaffold.Client

open Text Reading

/-! ### Filled texts -/

theorem fetchAllBody_nil (n : Names) :
    fetchAllBody n []
      = ["      " ++ n.plural ++ ".value = await " ++ serviceConst n ++ "." ++ getAll n ++ "()"] :=
  rfl

section

variable {σ : Filling} {n : Names} (hn : n.IsFilledBy σ)

include hn

theorem map_storeMembers :
    (commaSeparated ((storeMembers .placeholders).map ("    " ++ ·))).map σ.text
      = commaSeparated ((storeMembers n).map ("    " ++ ·)) := by
  simp (disch := decide) [commaSeparated_map, storeMembers, fetchAll, fetchOne, create, update,
    delete, current, Filling.text_ascii, hn.capitalized, hn.plural, hn.capitalizedPlural]

theorem map_ownRequest : (ownRequest .placeholders).map σ.text = ownRequest n := by
  simp (disch := decide) [ownRequest, serviceConst, getAll, Filling.text_ascii, hn.name, hn.plural,
    hn.capitalizedPlural]

section

variable {closed t : EntityTypes} (ht : closed.Fills σ t)

include ht

theorem map_storeImportLines :
    ((storeImports .placeholders closed []).map Import.line).map σ.text
      = (storeImports n t []).map Import.line := by
  simp (disch := decide) [storeImports, EntityTypes.typeImport, serviceImport, interfaceImport,
    useService, fillImport, Filling.text_ascii, hn.name, hn.capitalized, ht.imported, ht.owner]

theorem map_storeState :
    (storeState .placeholders closed []).map σ.text = storeState n t [] := by
  simp (disch := decide) [storeState, current, serviceConst, useService, Filling.text_ascii,
    hn.name, hn.capitalized, hn.plural, ht.received]

theorem map_storeActions :
    ((storeActions .placeholders closed []).flatMap fun a => a.lines ++ [""]).map σ.text
      = (storeActions n t []).flatMap fun a => a.lines ++ [""] := by
  simp (disch := decide) only [storeActions, StoreAction.lines, fetchAllBody_nil, rethrow, fetchAll,
    fetchOne, serviceConst, getAll, getOne, create, update, delete, current, List.flatMap_cons,
    List.flatMap_nil, List.map_append, List.map_cons, List.map_nil, Filling.text_append,
    Filling.text_ascii, Filling.text_literal, hn.name, hn.capitalized, hn.plural,
    hn.capitalizedPlural, ht.created, ht.updated]

theorem map_ownStoreLines :
    (ownStoreLines .placeholders closed).map σ.text = ownStoreLines n t := by
  simp (disch := decide) only [ownStoreLines, storeLines, joinLine, joinEnd, useStore,
    List.map_append, List.map_cons, List.map_nil, map_storeImportLines hn ht, map_storeState hn ht,
    map_storeActions hn ht, map_storeMembers hn, map_ownRequest hn, Filling.text_append,
    Filling.text_ascii, hn.name, hn.capitalized]

end

theorem map_storeImports {closed t : EntityTypes} (ht : closed.Fills σ t) :
    (storeLibraries ++ storeImports .placeholders closed []).map (fillImport σ)
      = storeLibraries ++ storeImports n t [] := by
  have hlibraries : storeLibraries.map (fillImport σ) = storeLibraries := by
    simp (disch := decide) [storeLibraries, fillImport, Filling.text_ascii]
  rw [List.map_append, hlibraries, storeImports, storeImports, List.map_nil, List.append_nil,
    List.append_nil, List.map_cons, List.map_singleton, ht.typeImport, fill_serviceImport hn]

theorem map_storeMade : (storeMade .placeholders).map (fillPair σ) = storeMade n := by
  simp (disch := decide) [storeMade, serviceConst, useService, fillPair, Filling.text_ascii,
    hn.name, hn.capitalized]

theorem map_storeTaken : (storeTaken .placeholders).map (fillPair σ) = storeTaken n := by
  simp (disch := decide) [storeTaken, commonTaken, serviceMembers, serviceConst, getAll, getOne,
    create, update, delete, updateField, current, fillPair, Filling.text_ascii, hn.name,
    hn.capitalized, hn.plural, hn.capitalizedPlural]

theorem map_relatedStoreLines :
    (relatedStoreLines .placeholders).map σ.text = relatedStoreLines n := by
  simp (disch := decide) [relatedStoreLines, importLine, instanceLine, relatedFetch, storeImport,
    storeConst, useStore, fetchAll, fillImport, Filling.text_ascii, hn.name, hn.capitalized,
    hn.capitalizedPlural]

/-- What the lines of a store refer to, whatever it relates to. -/
theorem refers_ownStoreLines {t : EntityTypes} (ht : t.IsFilledBy σ) :
    ∀ s ∈ ownStoreLines n t, CitesText (storeLibraries ++ storeImports n t []) [] s
      ∧ UsesText (storeMade n) (storeTaken n) s := by
  obtain ⟨closed, hclosed, hfill⟩ := ht
  rw [← map_ownStoreLines hn hfill, ← map_storeImports hn hfill, ← map_storeMade hn,
    ← map_storeTaken hn]
  exact refersText_of_holdsOf (templates_refer.1.1 closed hclosed).2

end

/-! ### All stores -/

/-- The lines of a store are its own and those for related entities. -/
theorem mem_storeLines {n : Names} {related : List Names} {s : String}
    (h : s ∈ storeLines n (.ofOwner n) related) :
    s ∈ ownStoreLines n (.ofOwner n) ∨ ∃ r ∈ related, s ∈ relatedStoreLines r := by
  have hown : ∀ s ∈ storeHead n ++ storeMiddle n ++ [""] ++ (fetchAction n).opening
      ++ fetchAllBody n [] ++ storeTail n ++ ["\x7d)"], s ∈ ownStoreLines n (.ofOwner n) := by
    intro s hs
    rw [ownStoreLines, storeLines_eq]
    simp only [List.map_nil, List.append_nil]
    exact List.mem_append_left _ (List.mem_append_left _ (List.mem_append_left _ hs))
  have hrelated : ∀ f : Names → String, (∀ r, f r ∈ relatedStoreLines r) → s ∈ related.map f →
      ∃ r ∈ related, s ∈ relatedStoreLines r := by
    intro f hf hs
    obtain ⟨r, hr, rfl⟩ := List.mem_map.mp hs
    exact ⟨r, hr, hf r⟩
  rw [storeLines_eq] at h
  simp only [List.mem_append, or_assoc] at h hown
  rcases h with h | h | h | h | h | h | h | h | h
  case inr.inl => exact .inr (hrelated importLine (by simp [relatedStoreLines]) h)
  case inr.inr.inr.inl => exact .inr (hrelated instanceLine (by simp [relatedStoreLines]) h)
  case inr.inr.inr.inr.inr.inr.inl =>
    -- only the body of the action that fetches everything depends on what is related
    by_cases hnil : related = []
    · subst hnil
      exact .inl (hown s (by simp [h]))
    · rw [fetchAllBody_of_ne_nil hnil] at h
      simp only [List.mem_append] at h
      rcases h with (h | h | h) | h
      · exact .inl (by simp [ownStoreLines, List.mem_singleton.mp h])
      · exact .inl (by simp [ownStoreLines, h])
      · obtain ⟨entry, hentry, hs⟩ := mem_commaSeparated h
        obtain ⟨r, hr, rfl⟩ := List.mem_map.mp hentry
        refine .inr ⟨r, hr, ?_⟩
        rcases hs with rfl | rfl
        all_goals simp [relatedStoreLines]
      · exact .inl (by simp [ownStoreLines, List.mem_singleton.mp h])
  all_goals exact .inl (hown s (by simp [h]))

/-- What the lines for a related entity refer to. -/
theorem refers_relatedStoreLines {r : Names} (hr : r.AreWords) :
    ∀ s ∈ relatedStoreLines r, CitesText [storeImport "./" r] [] s
      ∧ UsesText [storeInstance r] [storeFetch r] s := by
  obtain ⟨σ, hσ, -⟩ := hr.exists_filling_other hr.name
  have hdirectory : isAscii "./" = true := by decide
  rw [← map_relatedStoreLines hσ, ← fill_storeImport hσ hdirectory, ← fill_storeInstance hσ,
    ← fill_storeFetch hσ]
  exact refersText_of_holdsOf templates_refer.1.2.1

/-- What the store of an entity refers to. -/
theorem refers_storeLines {n : Names} (hn : n.AreWords) {related : List Names}
    (hrelated : ∀ r ∈ related, r.AreWords) :
    ∀ s ∈ storeLines n (.ofOwner n) related,
      CitesText (storeLibraries ++ storeImports n (.ofOwner n) related) [] s
        ∧ UsesText (storeMade n ++ related.map storeInstance)
          (storeTaken n ++ related.map storeFetch) s := by
  intro s hs
  have himports : storeImports n (.ofOwner n) related
      = storeImports n (.ofOwner n) [] ++ related.map (storeImport "./") := by
    rw [storeImports, storeImports, List.map_nil, List.append_nil]
  rw [himports, ← List.append_assoc]
  rcases mem_storeLines hs with hs | ⟨r, hr, hs⟩
  · obtain ⟨σ, hσ, -⟩ := hn.exists_filling_other hn.name
    obtain ⟨hcites, huses⟩ := refers_ownStoreLines hσ (isFilledBy_ofOwner hσ) s hs
    exact ⟨hcites.mono (List.subset_append_left ..) (List.Subset.refl _),
      huses.mono (List.subset_append_left ..) (List.subset_append_left ..)⟩
  · obtain ⟨hcites, huses⟩ := refers_relatedStoreLines (hrelated r hr) s hs
    have hmem : ∀ {β : Type} (f : Names → β) (front : List β),
        [f r] ⊆ front ++ related.map f := fun f front =>
      List.cons_subset.mpr ⟨List.mem_append_right _ (List.mem_map_of_mem hr), List.nil_subset _⟩
    exact ⟨hcites.mono (hmem ..) (List.Subset.refl _), huses.mono (hmem ..) (hmem ..)⟩

/-- What the store of a related entity refers to. -/
theorem refers_relatedStore {owner n : Names} (hn : n.AreWords) (howner : IsWord owner.name) :
    ∀ s ∈ storeLines n (.ofRelated owner n) [],
      CitesText (storeLibraries ++ storeImports n (.ofRelated owner n) []) [] s
        ∧ UsesText (storeMade n) (storeTaken n) s := by
  intro s hs
  obtain ⟨σ, hσ, hfill⟩ := hn.exists_filling_other howner
  refine refers_ownStoreLines hσ (isFilledBy_ofRelated hσ hfill) s ?_
  exact List.mem_append_left _ (List.mem_append_left _ (List.mem_append_left _ hs))

/-! ### What stores provide -/

section

variable {n : Names} {t : EntityTypes} {related : List Names}

theorem isScript_store :
    (⟨.frontend, storePath n, joinLines (storeLines n t related)⟩ : Artifact).IsScript
      (storeLines n t related) where
  path := ⟨"stores/" ++ n.name ++ ".store", by simp [storePath, ← String.toList_inj]⟩
  content := rfl
  ending := ⟨"\x7d)", ')', by rw [storeLines, List.getLast?_append]; rfl, rfl, by decide⟩

variable (hn : n.AreWords)

include hn

/-- A store exports the function that makes it. -/
theorem useStore_mem_exports {a : Artifact} (ha : a.IsScript (storeLines n t related)) :
    useStore n ∈ a.exports := by
  have hkind : "const" ∈ ["const", "interface", "class"] := by decide
  have hname : '\n' ∉ n.name.toList := hn.name.notMem (by decide)
  have hrest : '\n' ∉ ("= defineStore('" ++ n.name ++ "', () => \x7b").toList := by
    simp [hname]
  refine ha.mem_exports hkind (isWord_useStore hn) hrest ?_
  have hline : "export " ++ "const" ++ " " ++ useStore n ++ " "
        ++ ("= defineStore('" ++ n.name ++ "', () => \x7b")
      = "export const " ++ useStore n ++ " = defineStore('" ++ n.name ++ "', () => \x7b" := by
    simp [← String.toList_inj]
  rw [hline]
  simp [storeLines]

/-- It returns what a store offers. -/
theorem returned_store {a : Artifact} (ha : a.IsScript (storeLines n t related)) :
    a.returned = storeMembers n := by
  have hlines : ∃ front, storeLines n t related
      = front ++ Artifact.returnLines (storeMembers n) "\x7d)" := by
    unfold storeLines Artifact.returnLines
    rw [List.append_assoc, List.append_assoc, ← List.append_assoc ["  return \x7b"]]
    exact ⟨_, rfl⟩
  obtain ⟨front, hlines⟩ := hlines
  exact Artifact.IsScript.returned_eq (hlines ▸ ha) (isWord_of_mem_storeMembers hn) (by decide)
    (by decide)

end

/-! ### What stores refer to in any case -/

section

variable {n : Names} (hn : n.AreWords) {t : EntityTypes} {related : List Names} {a : Artifact}
  (ha : a.IsScript (storeLines n t related))

include hn ha

/-- A store makes its service, which it imports. -/
theorem service_mem_store :
    serviceImport n ∈ a.imports ∧ (serviceConst n, useService n) ∈ a.made := by
  obtain ⟨σ, hσ, -⟩ := hn.exists_filling_other hn.name
  obtain ⟨himports, hmade, -⟩ := templates_refer.1.2.2
  have himport : σ.text (serviceImport .placeholders).line = (serviceImport n).line := by
    rw [text_line, fill_serviceImport hσ]
  have hline : σ.text (serviceLine .placeholders) = serviceLine n := by
    simp (disch := decide) [serviceLine, serviceConst, useService, Filling.text_ascii, hσ.name,
      hσ.capitalized]
  have hpair : fillPair σ (serviceConst .placeholders, useService .placeholders)
      = (serviceConst n, useService n) := by
    simp (disch := decide) [serviceConst, useService, fillPair, Filling.text_ascii, hσ.name,
      hσ.capitalized]
  constructor
  · rw [← fill_serviceImport hσ]
    refine ha.mem_imports ?_ himports.1
    rw [himport]
    simp [storeLines, storeImports]
  · rw [← hpair]
    refine ha.mem_made ?_ hmade.1
    rw [hline]
    simp [storeLines, storeState, serviceLine]

/-- It takes the values of its own constants. -/
theorem value_mem_taken {c : String} (hc : c = n.plural ∨ c = current n) :
    (c, "value") ∈ a.taken := by
  obtain ⟨σ, hσ, -⟩ := hn.exists_filling_other hn.name
  obtain ⟨-, -, hplural, hcurrent⟩ := templates_refer.1.2.2
  have hpush : σ.text (pushLine .placeholders) = pushLine n := by
    simp (disch := decide) [pushLine, Filling.text_ascii, hσ.plural, hσ.capitalized]
  have hclear : σ.text (clearLine .placeholders) = clearLine n := by
    simp (disch := decide) [clearLine, current, Filling.text_ascii, hσ.capitalized]
  -- creating pushes to the list, and a failed fetch clears the current entry
  have hlines : pushLine n ∈ storeLines n t related ∧ clearLine n ∈ storeLines n t related := by
    have hactions : ∀ action ∈ storeActions n t related, ∀ s ∈ action.lines,
        s ∈ storeLines n t related := by
      intro action haction s hs
      have hmem : s ∈ (storeActions n t related).flatMap fun a => a.lines ++ [""] :=
        List.mem_flatMap.mpr ⟨action, haction, List.mem_append_left _ hs⟩
      simp [storeLines, hmem]
    have hcreate : ∃ action ∈ storeActions n t related, pushLine n ∈ action.body :=
      ⟨_, .tail _ (.tail _ List.mem_cons_self), .tail _ List.mem_cons_self⟩
    have hfetch : ∃ action ∈ storeActions n t related, clearLine n ∈ action.onError :=
      ⟨_, .tail _ List.mem_cons_self, List.mem_cons_self⟩
    obtain ⟨create, hmem, hbody⟩ := hcreate
    obtain ⟨fetch, hmem', herror⟩ := hfetch
    exact ⟨hactions create hmem _ (by simp [StoreAction.lines, hbody]),
      hactions fetch hmem' _ (by simp [StoreAction.lines, herror])⟩
  have hvalue : σ.text "value" = "value" := σ.text_ascii (by decide)
  rcases hc with rfl | rfl
  · have hpair : fillPair σ (Names.placeholders.plural, "value") = (n.plural, "value") := by
      rw [fillPair, hσ.plural, hvalue]
    rw [← hpair]
    exact ha.mem_taken (hpush ▸ hlines.1) hplural
  · have hpair : fillPair σ (current .placeholders, "value") = (current n, "value") := by
      simp (disch := decide) [fillPair, current, Filling.text_ascii, hσ.capitalized]
    rw [← hpair]
    exact ha.mem_taken (hclear ▸ hlines.2) hcurrent

omit hn in
/-- It makes the stores of related entities, which it imports. -/
theorem store_mem_store {r : Names} (hr : r.AreWords) (hmem : r ∈ related) :
    storeImport "./" r ∈ a.imports ∧ storeInstance r ∈ a.made := by
  obtain ⟨σ, hσ, -⟩ := hr.exists_filling_other hr.name
  obtain ⟨himports, hmade, -⟩ := templates_refer.1.2.2
  have hdirectory : isAscii "./" = true := by decide
  have himport : σ.text (importLine .placeholders) = importLine r := by
    rw [importLine, text_line, fill_storeImport hσ hdirectory, importLine]
  have hline : σ.text (instanceLine .placeholders) = instanceLine r := by
    simp (disch := decide) only [instanceLine, storeConst, useStore, Filling.text_append,
      Filling.text_ascii, hσ.name, hσ.capitalized]
  constructor
  · rw [← fill_storeImport hσ hdirectory]
    refine ha.mem_imports ?_ himports.2
    have hmap : importLine r ∈ (related.map (storeImport "./")).map Import.line :=
      List.mem_map_of_mem (List.mem_map_of_mem hmem)
    rw [himport, storeLines, storeImports, List.map_append]
    simp only [List.mem_append, hmap, or_true, true_or]
  · rw [← fill_storeInstance hσ]
    refine ha.mem_made ?_ hmade.2
    have hmap : instanceLine r ∈ storeState n t related :=
      List.mem_append_right _ (List.mem_map_of_mem hmem)
    rw [hline, storeLines]
    simp [hmap]

end

end Scaffold.Client
