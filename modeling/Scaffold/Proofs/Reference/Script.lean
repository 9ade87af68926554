import Scaffold.Proofs.Reference.View

/-!
# The script of an entity's view

What the script of a view refers to, for the entity that it is the view of: the imports, what is
made, and the members that are taken, of which some are the keys of fields.
-/

namespace Scaffold.View

open Text Reading Client Identifier

/-- What the view of an entity imports. -/
def scriptImports (t : Theme) (spec : Spec) : List Import := viewLibraries t ++ viewImports spec

/-- What is made in the view of an entity. -/
def scriptMade (spec : Spec) : List (String × String) :=
  viewMade spec.names ++ spec.related.map storeInstance

/-- The members that are taken in the view of an entity. -/
def scriptTaken (spec : Spec) : List (String × String) :=
  viewTaken spec.names ++ spec.related.map storeFetch ++ spec.related.map storeChoice
    ++ spec.keys.flatMap fun key => keyTaken spec.names (word key)

/-- A text in the view of an entity refers to nothing else. -/
def RefersIn (t : Theme) (spec : Spec) (s : String) : Prop :=
  CitesText (scriptImports t spec) [] s ∧ UsesText (scriptMade spec) (scriptTaken spec) s

section

variable {t : Theme} {spec : Spec} {s : String}

theorem RefersIn.of_nothing (h : CitesText [] [] s ∧ UsesText [] [] s) : RefersIn t spec s :=
  ⟨h.1.mono (List.nil_subset _) (List.Subset.refl _),
    h.2.mono (List.nil_subset _) (List.nil_subset _)⟩

theorem refersIn_of_mem_ownViewLines (ht : t ∈ Theme.builtIn) (hn : spec.names.AreWords)
    (hs : s ∈ ownViewLines t spec.names) : RefersIn t spec s := by
  obtain ⟨hcites, huses⟩ := refers_ownViewLines ht hn s hs
  have himports : viewImports (.bare spec.names) ⊆ viewImports spec := by
    unfold viewImports
    exact List.append_subset.mpr ⟨List.subset_append_left _ _, List.nil_subset _⟩
  have htaken : viewTaken spec.names ⊆ scriptTaken spec := fun _ h =>
    List.mem_append_left _ (List.mem_append_left _ (List.mem_append_left _ h))
  have hall : viewLibraries t ++ viewImports (.bare spec.names) ⊆ scriptImports t spec :=
    List.append_subset.mpr ⟨List.subset_append_left _ _,
      List.Subset.trans himports (List.subset_append_right _ _)⟩
  exact ⟨hcites.mono hall (List.Subset.refl _),
    huses.mono (List.subset_append_left _ _) htaken⟩

theorem refersIn_of_mem_relatedViewLines {r : Names} (hr : r.AreWords) (hmem : r ∈ spec.related)
    (hs : s ∈ relatedViewLines r) : RefersIn t spec s := by
  obtain ⟨hcites, huses⟩ := refers_relatedViewLines hr s hs
  have himport : storeImport "../stores/" r ∈ scriptImports t spec :=
    List.mem_append_right _ (List.mem_append_right _ (List.mem_map_of_mem hmem))
  have hmade : storeInstance r ∈ scriptMade spec :=
    List.mem_append_right _ (List.mem_map_of_mem hmem)
  have hfetch : storeFetch r ∈ scriptTaken spec :=
    List.mem_append_left _ (List.mem_append_left _ (List.mem_append_right _
      (List.mem_map_of_mem hmem)))
  have hchoice : storeChoice r ∈ scriptTaken spec :=
    List.mem_append_left _ (List.mem_append_right _ (List.mem_map_of_mem hmem))
  exact ⟨hcites.mono (by simpa using himport) (List.Subset.refl _),
    huses.mono (by simpa using hmade) (by simpa using ⟨hfetch, hchoice⟩)⟩

theorem refersIn_of_mem_keyLines (hn : spec.names.AreWords) {key : String}
    (hkey : isIdentifier key = true) (hmem : key ∈ spec.keys) (hs : s ∈ keyLines spec.names key) :
    RefersIn t spec s := by
  obtain ⟨hcites, huses⟩ := refers_keyLines hn hkey s hs
  have htaken : keyTaken spec.names (word key) ⊆ scriptTaken spec := fun _ h =>
    List.mem_append_right _ (List.mem_flatMap.mpr ⟨key, hmem, h⟩)
  exact ⟨hcites.mono (List.nil_subset _) (List.Subset.refl _),
    huses.mono (List.nil_subset _) htaken⟩

/-- A member with a quoted text. -/
theorem refersIn_of_literal {key : String} (hkey : isIdentifier key = true) {blanks line : String}
    (hblanks : blanks ∈ indents) (text : String)
    (hline : IsEntry (blanks ++ (key ++ ": " ++ Text.literal text)) line) :
    RefersIn t spec line := by
  have hempty : ∀ blanks ∈ indents, blanks.toList.all (· = ' ') = true := by decide
  have hspaces : ∀ c ∈ blanks.toList, c = ' ' := fun c hc =>
    of_decide_eq_true (List.all_eq_true.mp (hempty blanks hblanks) c hc)
  exact .of_nothing (refersText_quotedMember hkey hspaces text hline)

end

/-! ### The view of an entity -/

section

variable {e : Entity} (he : e.WellNamed) {t : Theme}

theorem mem_mappings_of_mem_presented {m : FieldMapping} (hm : m ∈ e.presented) :
    m ∈ e.mappings := by
  obtain ⟨key, -, hfind⟩ := List.mem_filterMap.mp hm
  exact List.mem_of_find?_eq_some hfind

include he

theorem isIdentifier_of_mem_keys : ∀ key ∈ (Spec.ofEntity e).keys, isIdentifier key = true := by
  have hpayload : ∀ m ∈ e.payload, isIdentifier m.key = true := fun m hm =>
    he.keys m (List.mem_filter.mp hm).1
  have hpresented : ∀ m ∈ e.presented, isIdentifier m.key = true := fun m hm =>
    he.keys m (mem_mappings_of_mem_presented hm)
  unfold Spec.keys Spec.ofEntity
  simp only [List.map_map, List.forall_mem_append, List.forall_mem_map]
  exact ⟨⟨hpayload, hpayload⟩, hpresented⟩

/-- A member with a key in it, or one that is the same in all views. -/
theorem refersIn_of_mem_keyMembers {key : String} (hmem : key ∈ (Spec.ofEntity e).keys)
    {blanks member line : String} (hblanks : blanks ∈ indents)
    (hmember : member ∈ keyMembers e.names key) (hline : IsEntry (blanks ++ member) line) :
    RefersIn t (.ofEntity e) line := by
  refine refersIn_of_mem_keyLines he.names (isIdentifier_of_mem_keys he key hmem) hmem ?_
  refine List.mem_flatMap.mpr ⟨blanks, hblanks, List.mem_flatMap.mpr ⟨member, hmember, ?_⟩⟩
  rcases hline with rfl | rfl
  · exact List.mem_cons_self
  · exact .tail _ List.mem_cons_self

/-- What describes a column. -/
theorem refersIn_columnMembers {blanks : String} (hblanks : blanks ∈ indents) {c : Column}
    (hc : c ∈ (Spec.ofEntity e).columns) :
    ∀ member ∈ ("data: '" ++ c.key ++ "'") :: columnMembers c, ∀ line,
      IsEntry (blanks ++ member) line → RefersIn t (.ofEntity e) line := by
  intro member hmember line hline
  have hkey : c.key ∈ (Spec.ofEntity e).keys := List.mem_append_right _ (List.mem_map_of_mem hc)
  have hmembers : ∀ {member}, member ∈ keyMembers e.names c.key →
      IsEntry (blanks ++ member) line → RefersIn t (.ofEntity e) line :=
    refersIn_of_mem_keyMembers he hkey hblanks
  obtain ⟨m, hm, rfl⟩ := List.mem_map.mp hc
  obtain ⟨field, hfield, -⟩ := he.mappings m (mem_mappings_of_mem_presented hm)
  have htype : m.columnType ∈ FieldSpec.columnTypes := by
    rw [hfield, field.columnType_mapping]
    exact field.columnType_mem
  rcases List.mem_cons.mp hmember with rfl | hmember
  · exact hmembers (by simp [keyMembers]) hline
  · simp only [columnMembers, Column.ofMapping, List.mem_append, List.mem_cons, List.not_mem_nil,
      or_false] at hmember
    rcases hmember with (rfl | rfl) | hmember
    · exact refersIn_of_literal (by decide : isIdentifier "title" = true) hblanks _ hline
    · exact hmembers (by simp [keyMembers, htype]) hline
    · split at hmember
      next name hname =>
        -- all that a column shows of what it refers to is the name
        have hsame : name = "name" := by
          split at hname
          · exact (Option.some.inj hname).symm
          · cases hname
        split at hmember
        · cases hmember
        · rw [List.mem_singleton.mp hmember, hsame] at hline
          exact hmembers (by simp [keyMembers]) hline
      next => cases hmember

/-- The members of objects refer to the form, and to nothing in the module. -/
theorem refersIn_members {blanks : String} (hblanks : blanks ∈ indents) :
    ∀ member ∈ members (.ofEntity e), ∀ line, IsEntry (blanks ++ member) line →
      RefersIn t (.ofEntity e) line := by
  have hpayload : ∀ m ∈ e.payload, m ∈ e.mappings := fun m hm => (List.mem_filter.mp hm).1
  have hkeys : ∀ m ∈ e.payload, m.key ∈ (Spec.ofEntity e).keys := fun m hm =>
    List.mem_append_left _ (List.mem_append_right _ (List.mem_map_of_mem hm))
  simp only [members, List.forall_mem_append]
  refine ⟨⟨⟨?defaults, ?payload⟩, ?loaded⟩, ?columns⟩
  case defaults =>
    intro member hmember line hline
    obtain ⟨entry, hentry, rfl⟩ := List.mem_map.mp hmember
    obtain ⟨m, hm, rfl⟩ := List.mem_map.mp hentry
    obtain ⟨field, hfield, -⟩ := he.mappings m (hpayload m hm)
    -- a default is a quoted option or one of a few literals
    rcases field.defaultLiteral_mapping with ⟨option, hdefault⟩ | hdefault
    · rw [← hfield] at hdefault
      refine refersIn_of_literal (he.keys m (hpayload m hm)) hblanks option ?_
      rwa [← hdefault]
    · rw [← hfield] at hdefault
      exact refersIn_of_mem_keyMembers he (hkeys m hm) hblanks (by simp [keyMembers, hdefault])
        hline
  case payload =>
    intro member hmember line hline
    obtain ⟨key, hkey, rfl⟩ := List.mem_map.mp hmember
    obtain ⟨m, hm, rfl⟩ := List.mem_map.mp hkey
    refine refersIn_of_mem_keyMembers he (hkeys m hm) hblanks ?_ hline
    exact List.mem_append_left _ (List.mem_append_left _
      (List.mem_append_left _ List.mem_cons_self))
  case loaded =>
    intro member hmember line hline
    obtain ⟨key, hkey, rfl⟩ := List.mem_map.mp hmember
    obtain ⟨m, hm, rfl⟩ := List.mem_map.mp hkey
    exact refersIn_of_mem_keyMembers he (hkeys m hm) hblanks (by simp [keyMembers]) hline
  case columns =>
    intro member hmember
    obtain ⟨c, hc, hmember⟩ := List.mem_flatMap.mp hmember
    exact refersIn_columnMembers he hblanks hc member hmember

/-- What the script of an entity's view refers to. -/
theorem refersIn_innerLines (ht : t ∈ Theme.builtIn) :
    ∀ s ∈ innerLines t (.ofEntity e), RefersIn t (.ofEntity e) s :=
  HoldsOfParts.innerLines {
    own := fun _ hs => refersIn_of_mem_ownViewLines ht he.names hs
    related := fun r hr _ hs => refersIn_of_mem_relatedViewLines (areWords_related he r hr) hr hs
    members := fun _ hblanks => refersIn_members he hblanks }

end

end Scaffold.View
