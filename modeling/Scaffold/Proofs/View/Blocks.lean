import Scaffold.Proofs.Related
import Scaffold.Proofs.View.Pieces
import Scaffold.Proofs.View.Markup

/-!
# Blocks of a view

A view has three blocks: the markup, the script and the style (`content_eq_blocks`). What the
document says stands in the first two. It never ends the markup, since it is escaped there. In the
script it stands as literals, which leave angle brackets as they are, so that the end tag is in the
view once for the block and again wherever a label, or the first option of an enumeration, has it
(`blocks_of_view`).
-/

namespace Scaffold.View

open Text

/-! ### Parts of the script that end no block -/

theorem quiet_importLine {i : Import} (hnames : ∀ name ∈ i.names, Quiet name)
    (hsource : Quiet i.source) : Quiet i.line := by
  unfold Import.line
  have htypes : Quiet (if i.typesOnly then "type " else "") := by
    split <;> exact .literal rfl
  have hlist : Quiet (", ".intercalate i.names) := .intercalate (.literal rfl) hnames
  exact isTagwise_quiet.text rfl (by simp [htypes, hlist, hsource])

theorem Bare.literal {s : String} (h : Bare s) : Bare (literal s) := by
  intro hmem
  rcases (mem_of_mem_literal hmem).2 with hmem | hmem
  · exact h hmem
  · exact absurd hmem (by decide)

/-- What the script of a view refers to is without tags. -/
structure BareScript (spec : Spec) : Prop where
  names : BareNames spec.names
  columns : ∀ c ∈ spec.columns, Bare c.key ∧ Bare c.type ∧ ∀ name ∈ c.referenceName, Bare name
  /-- No occurrence of the end tag goes on behind a default. -/
  defaults : ∀ d ∈ spec.defaults, Bare d.1 ∧ IsClosed scriptEnd d.2.toList
  payloadKeys : ∀ key ∈ spec.payloadKeys, Bare key
  related : ∀ r ∈ spec.related, BareNames r

/-- The block with the script, without the line that closes it. -/
def scriptBody (spec : Spec) : List Line :=
  markup [["<script setup lang=\"ts\">"]] ++ importLines spec
    ++ plain ([""] ++ [""].intercalate (scriptParts spec))

variable {spec : Spec} (h : BareScript spec)

include h

theorem quiet_of_mem_viewImports : ∀ i ∈ viewImports spec, Quiet i.line := by
  have hname := h.names.name.quiet
  have hcap := h.names.capitalized.quiet
  refine List.forall_mem_append.mpr
    ⟨List.forall_mem_cons.mpr ⟨?_, List.forall_mem_singleton.mpr ?_⟩, ?_⟩
  · unfold Client.interfaceImport Client.createType Client.updateType
    exact quiet_importLine (isTagwise_quiet.lines rfl (by simp [hcap]))
      (isTagwise_quiet.text rfl (by simp [hname]))
  · unfold Client.serviceImport Client.useService
    exact quiet_importLine (isTagwise_quiet.lines rfl (by simp [hcap]))
      (isTagwise_quiet.text rfl (by simp [hname]))
  · refine List.forall_mem_map.mpr fun r hr => ?_
    have hname := (h.related r hr).name.quiet
    have hcap := (h.related r hr).capitalized.quiet
    unfold Client.storeImport Client.useStore
    exact quiet_importLine (isTagwise_quiet.lines rfl (by simp [hcap]))
      (isTagwise_quiet.text rfl (by simp [hname]))

theorem quiet_importLines : LinesHave Quiet (importLines spec) := by
  have himports : ∀ line ∈ (viewImports spec).map Import.line, Quiet line :=
    List.forall_mem_map.mpr (quiet_of_mem_viewImports h)
  refine .append (.append (.append (linesHave_plain ?_) ?_) (linesHave_plain ?_)) ?_
  · exact List.forall_mem_append.mpr ⟨isTagwise_quiet.lines rfl (by simp),
      fun line hline => himports line (List.mem_of_mem_take hline)⟩
  · exact isTagwise_quiet.linesHave rfl (by simp)
  · unfold untyped
    exact List.forall_mem_append.mpr ⟨fun line hline => himports line (List.mem_of_mem_drop hline),
      isTagwise_quiet.lines rfl (by simp)⟩
  · exact isTagwise_quiet.linesHave rfl (by simp)

theorem quiet_of_mem_openingLines : ∀ line ∈ openingLines spec, Quiet line := by
  have hname := h.names.name.quiet
  have hrelated : ∀ line ∈ spec.related.map
      (fun r => "  " ++ Client.storeConst r ++ "." ++ Client.fetchAll r ++ "()"), Quiet line := by
    refine List.forall_mem_map.mpr fun r hr => ?_
    have hr := h.related r hr
    have hrname := hr.name.quiet
    have hrplurals := hr.capitalizedPlural.quiet
    unfold Client.storeConst Client.fetchAll
    exact isTagwise_quiet.text rfl (by simp [hrname, hrplurals])
  refine List.forall_mem_append.mpr ⟨List.forall_mem_append.mpr ⟨?_, hrelated⟩, ?_⟩
  all_goals exact isTagwise_quiet.lines rfl (by simp [hname])

omit h in
/-- Entries of an object that end no block make a body that does not either. -/
theorem quiet_of_mem_objectBody {blanks : String} (hblanks : Bare blanks) {members : List String}
    (hmembers : ∀ member ∈ members, Quiet member) :
    ∀ line ∈ objectBody blanks members, Quiet line := by
  intro line hline
  obtain ⟨entry, hentry, hline⟩ := mem_commaSeparated hline
  obtain ⟨member, hmember, rfl⟩ := List.mem_map.mp hentry
  have hquiet : Quiet (blanks ++ member) := hblanks.quiet.append (hmembers member hmember)
  rcases hline with rfl | rfl
  · exact hquiet
  · exact hquiet.append (.literal rfl)

theorem quiet_of_mem_payloadMembers : ∀ member ∈ payloadMembers spec, Quiet member := by
  have hname := h.names.name.quiet
  refine List.forall_mem_map.mpr fun key hkey => ?_
  have hkey := (h.payloadKeys key hkey).quiet
  unfold formConst
  exact isTagwise_quiet.text rfl (by simp [hname, hkey])

theorem quiet_of_mem_loadedMembers : ∀ member ∈ loadedMembers spec, Quiet member := by
  refine List.forall_mem_map.mpr fun key hkey => ?_
  have hkey := (h.payloadKeys key hkey).quiet
  exact (hkey.append (.literal rfl)).append hkey

theorem quiet_of_mem_submitLines : ∀ line ∈ submitLines spec, Quiet line := by
  have hname := h.names.name.quiet
  have hcap := h.names.capitalized.quiet
  have hbody :=
    quiet_of_mem_objectBody (by decide : Bare "        ") (quiet_of_mem_payloadMembers h)
  simp only [submitLines, Client.updateType, Client.createType, Client.serviceConst, Client.update,
    Client.create, List.forall_mem_append]
  refine ⟨⟨⟨⟨?_, hbody⟩, ?_⟩, hbody⟩, ?_⟩
  all_goals exact isTagwise_quiet.lines rfl (by simp [hname, hcap])

theorem quiet_of_mem_editLines : ∀ line ∈ editLines spec, Quiet line := by
  have hname := h.names.name.quiet
  have hcap := h.names.capitalized.quiet
  have hbody := quiet_of_mem_objectBody (by decide : Bare "      ") (quiet_of_mem_loadedMembers h)
  simp only [editLines, Client.serviceConst, Client.getOne, formConst, List.forall_mem_append]
  refine ⟨⟨?_, hbody⟩, ?_⟩
  all_goals exact isTagwise_quiet.lines rfl (by simp [hname, hcap])

omit h in
theorem quiet_of_mem_deleteLines {n : Names} (hn : BareNames n) :
    ∀ line ∈ deleteLines n, Quiet line := by
  have hname := hn.name.quiet
  have hcap := hn.capitalized.quiet
  have hquestion : Bare ("Delete this " ++ n.name ++ "?") :=
    (Bare.append (by decide) hn.name).append (by decide)
  have hliteral := hquestion.literal.quiet
  unfold deleteLines Client.serviceConst Client.delete
  exact isTagwise_quiet.lines rfl (by simp [hname, hcap, hliteral])

omit h in
theorem quiet_of_mem_toggleLines {n : Names} (hn : BareNames n) :
    ∀ line ∈ toggleLines n, Quiet line := by
  have hname := hn.name.quiet
  unfold toggleLines Client.serviceConst Client.updateField
  exact isTagwise_quiet.lines rfl (by simp [hname])

/-! ### Parts of the script with texts of the document -/

section

omit h

variable {lines others : List String} {k : Nat}

theorem addsAll_append_quiet (hlines : AddsAll scriptEnd k lines)
    (hothers : ∀ line ∈ others, Quiet line) : AddsAll scriptEnd k (lines ++ others) :=
  hlines.append (addsAll_zero fun line hline => hothers line hline scriptEnd List.mem_cons_self)

theorem addsAll_quiet_append (hlines : ∀ line ∈ lines, Quiet line)
    (hothers : AddsAll scriptEnd k others) : AddsAll scriptEnd k (lines ++ others) := by
  have hzero : AddsAll scriptEnd 0 lines :=
    addsAll_zero fun line hline => hlines line hline scriptEnd List.mem_cons_self
  have happend := hzero.append hothers
  rwa [Nat.zero_add] at happend

/-- Parts that end no block may stand in front, with blank lines between them. -/
theorem addsAll_intercalate {parts : List (List String)}
    (hparts : ∀ part ∈ parts, ∀ line ∈ part, Quiet line) (hlines : AddsAll scriptEnd k lines) :
    AddsAll scriptEnd k ([""].intercalate (parts ++ [lines])) := by
  induction parts with
  | nil => simpa using hlines
  | cons first rest ih =>
    obtain ⟨hfirst, hrest⟩ := List.forall_mem_cons.mp hparts
    rw [List.cons_append, List.intercalate_cons_of_ne_nil (by simp)]
    refine addsAll_quiet_append (List.forall_mem_append.mpr ⟨hfirst, ?_⟩) (ih hrest)
    exact List.forall_mem_singleton.mpr (.literal rfl)

end

omit h in
theorem Quiet.append_adds {s t : String} {k : Nat} (hs : Quiet s) (ht : Adds scriptEnd k t) :
    Adds scriptEnd k (s ++ t) := by
  have happend := (hs scriptEnd List.mem_cons_self).append ht
  rwa [Nat.zero_add] at happend

omit h in
theorem adds_comma : Adds scriptEnd 0 "," := (by decide : Bare ",").quiet _ List.mem_cons_self

/-- The defaults of a form end the script as often as they have its end tag in them. -/
def defaultEnds (spec : Spec) : Nat :=
  (spec.defaults.map fun d => occurrences scriptEnd d.2.toList).sum

/-- So do the titles of the columns. -/
def titleEnds (spec : Spec) : Nat :=
  (spec.columns.map fun c => occurrences scriptEnd c.title.toList).sum

theorem addsAll_defaults {blanks : String} (hblanks : Bare blanks) :
    AddsAll scriptEnd (defaultEnds spec) (objectBody blanks (defaultMembers spec)) := by
  rw [objectBody, defaultMembers, List.map_map]
  refine AddsAll.commaSeparated (AddsAll.map fun d hd => ?_) adds_comma
  obtain ⟨hkey, hclosed⟩ := h.defaults d hd
  have hfront : Quiet (d.1 ++ ": ") := hkey.quiet.append (.literal rfl)
  exact hblanks.quiet.append_adds (hfront.append_adds ⟨hclosed, rfl⟩)

theorem addsAll_stateLines :
    AddsAll scriptEnd (defaultEnds spec + defaultEnds spec) (stateLines spec) := by
  have hname := h.names.name.quiet
  have hcap := h.names.capitalized.quiet
  have hrelated : ∀ line ∈ spec.related.map
      (fun r => "const " ++ Client.storeConst r ++ " = " ++ Client.useStore r ++ "()"),
      Quiet line := by
    refine List.forall_mem_map.mpr fun r hr => ?_
    have hr := h.related r hr
    have hrname := hr.name.quiet
    have hrcap := hr.capitalized.quiet
    unfold Client.storeConst Client.useStore
    exact isTagwise_quiet.text rfl (by simp [hrname, hrcap])
  -- the bracket of the type stands in front of a name that is spelled out
  have hform : Quiet ("const " ++ formConst spec.names ++ " = ref<" ++ Client.createType spec.names
      ++ " & " ++ Client.updateType spec.names ++ ">(\x7b") := by
    have heq : "const " ++ formConst spec.names ++ " = ref<" ++ Client.createType spec.names
        ++ " & " ++ Client.updateType spec.names ++ ">(\x7b"
        = "const " ++ spec.names.name ++ "Form = ref<Create" ++ spec.names.capitalized
          ++ "Dto & Update" ++ spec.names.capitalized ++ "Dto>(\x7b" := by
      simp [formConst, Client.createType, Client.updateType, ← String.toList_inj]
    rw [heq]
    exact isTagwise_quiet.text rfl (by simp [hname, hcap])
  have hdefaults := addsAll_defaults h (by decide : Bare "  ")
  have hreset := addsAll_defaults h (by decide : Bare "    ")
  rw [stateLines]
  refine addsAll_append_quiet (.append (addsAll_append_quiet (addsAll_quiet_append ?_ hdefaults) ?_)
    hreset) ?_
  · unfold Client.serviceConst Client.useService
    refine List.forall_mem_append.mpr ⟨List.forall_mem_append.mpr
      ⟨isTagwise_quiet.lines rfl (by simp [hname, hcap]), hrelated⟩, ?_⟩
    simp only [List.forall_mem_cons, List.not_mem_nil, false_imp_iff, implies_true, and_true]
    exact ⟨.literal rfl, .literal rfl, .literal rfl, hform⟩
  · unfold formConst
    exact isTagwise_quiet.lines rfl (by simp [hname])
  · exact isTagwise_quiet.lines rfl (by simp)

omit h in
/-- A literal leaves the end tag as it is. -/
theorem adds_scriptEnd_literal (s : String) :
    Adds scriptEnd (occurrences scriptEnd s.toList) (literal s) := by
  have hkept : scriptEnd.all (fun c => decide (Literal.encodeChar c = [c])) = true := by decide
  exact adds_literal (fun c hc => of_decide_eq_true (List.all_eq_true.mp hkept c hc)) rfl s

/-- A column ends the script as often as its title has the end tag in it. -/
theorem addsAll_columnBlock {c : Column} (hc : c ∈ spec.columns) :
    AddsAll scriptEnd (occurrences scriptEnd c.title.toList) (columnBlock c).1
      ∧ Adds scriptEnd 0 (columnBlock c).2 := by
  obtain ⟨hkey, htype, hreference⟩ := h.columns c hc
  have hindent : Quiet "    " := .literal rfl
  have hdata : Quiet ("data: '" ++ c.key ++ "'") :=
    (Quiet.append (.literal rfl) hkey.quiet).append (.literal rfl)
  have htype : Quiet ("type: '" ++ c.type ++ "'") :=
    (Quiet.append (.literal rfl) htype.quiet).append (.literal rfl)
  -- the title is free text: all ends that the block adds are in it
  have htitle : Adds scriptEnd (occurrences scriptEnd c.title.toList)
      ("title: " ++ literal c.title) :=
    Quiet.append_adds (.literal rfl) (adds_scriptEnd_literal c.title)
  have hmember : ∀ {k : Nat} {member : String}, Adds scriptEnd k member →
      Adds scriptEnd k ("    " ++ member) := hindent.append_adds
  have hmembers := AddsAll.cons (hmember (hdata scriptEnd List.mem_cons_self))
    (.cons (hmember htitle) (.cons (hmember (htype scriptEnd List.mem_cons_self)) .nil))
  rw [Nat.add_zero, Nat.zero_add] at hmembers
  refine ⟨addsAll_quiet_append (List.forall_mem_singleton.mpr ?_)
    (.commaSeparated ?_ adds_comma), ?_⟩
  · exact .literal rfl
  · rw [List.map_append]
    refine addsAll_append_quiet hmembers (List.forall_mem_map.mpr fun member hmember => ?_)
    refine hindent.append ?_
    split at hmember
    next name hname =>
      have hquiet := (hreference name hname).quiet
      split at hmember
      · cases hmember
      · obtain rfl := List.mem_singleton.mp hmember
        exact (Quiet.append (.literal rfl) hquiet).append (.literal rfl)
    next => cases hmember
  · exact (Quiet.literal rfl : Quiet "  \x7d") scriptEnd List.mem_cons_self

theorem addsAll_columnLines : AddsAll scriptEnd (titleEnds spec) (columnLines spec) := by
  unfold columnLines
  refine addsAll_append_quiet (addsAll_quiet_append ?_ ?_) ?_
  · exact List.forall_mem_singleton.mpr (.literal rfl)
  · exact .commaSeparatedBlocks adds_comma fun c hc => addsAll_columnBlock h hc
  · exact List.forall_mem_singleton.mpr (.literal rfl)

/-- The script block has the end tag as often as the texts in its literals have it: the titles once,
the defaults twice. -/
theorem addsAll_scriptBody {t : Theme} (ht : IsBareTheme t) :
    AddsAll scriptEnd (defaultEnds spec + defaultEnds spec + titleEnds spec)
      ((scriptBody spec).map t.line) := by
  have himports := isTagwise_quiet.lines_of_theme ht (quiet_importLines h)
  have hblank : ∀ line ∈ [""], Quiet line := List.forall_mem_singleton.mpr (.literal rfl)
  have hparts : AddsAll scriptEnd (defaultEnds spec + defaultEnds spec + titleEnds spec)
      ([""].intercalate (scriptParts spec)) := by
    have hquiet : ∀ part ∈ [openingLines spec, submitLines spec, editLines spec,
        deleteLines spec.names, toggleLines spec.names], ∀ line ∈ part, Quiet line := by
      simp only [List.forall_mem_cons, List.not_mem_nil, false_imp_iff, implies_true, and_true]
      exact ⟨quiet_of_mem_openingLines h, quiet_of_mem_submitLines h, quiet_of_mem_editLines h,
        quiet_of_mem_deleteLines h.names, quiet_of_mem_toggleLines h.names⟩
    have hbehind := addsAll_intercalate hquiet (addsAll_columnLines h)
    rw [scriptParts, List.intercalate_cons_cons]
    exact .append (addsAll_append_quiet (addsAll_stateLines h) hblank) hbehind
  unfold scriptBody
  simp only [List.map_append, map_line_plain, List.map_cons, List.map_nil, line_text]
  refine addsAll_quiet_append (List.forall_mem_append.mpr ⟨?_, himports⟩)
    (addsAll_quiet_append hblank hparts)
  exact List.forall_mem_singleton.mpr (.literal rfl)

/-! ### Views and their blocks -/

omit h

/-- The text of the markup in a view. -/
def markupText (t : Theme) (spec : Spec) : String :=
  "\n".intercalate ((templateBody spec).map t.line)

/-- The text of the script in a view. -/
def scriptText (t : Theme) (spec : Spec) : String :=
  "\n".intercalate ((scriptBody spec).map t.line)

/-- A view is made of three blocks, each with a line that closes it. -/
theorem content_eq_blocks (t : Theme) (spec : Spec) : (artifact t spec).content
    = markupText t spec ++ "\n</template>\n\n" ++ scriptText t spec ++ "\n</script>\n\n"
      ++ "\n".intercalate styleLines ++ "\n" := by
  have hlines : (componentLines spec).map t.line = (templateBody spec).map t.line
      ++ (["</template>", ""] ++ ((scriptBody spec).map t.line
        ++ (["</script>", ""] ++ styleLines))) := by
    have hscript : (scriptLines spec).map t.line
        = (scriptBody spec).map t.line ++ ["</script>"] := by
      rw [scriptLines, ← map_line_plain t ["</script>"], ← List.map_append]
      rfl
    simp [componentLines, templateLines_eq, hscript]
  have hbreaks : ∀ closing : String, "\n".intercalate [closing, ""] = closing ++ "\n" := by
    intro closing
    simp
  rw [content_eq, hlines, intercalate_append (by simp [templateBody]) (by simp),
    intercalate_append (by simp) (by simp [scriptBody]),
    intercalate_append (by simp [scriptBody]) (by simp), intercalate_append (by simp) (by decide),
    hbreaks, hbreaks, ← markupText, ← scriptText]
  simp [← String.toList_inj]

/-- Joined lines that end no block do not either. -/
theorem quiet_intercalate {lines : List String} (hlines : ∀ line ∈ lines, Quiet line) :
    Quiet ("\n".intercalate lines) :=
  Quiet.intercalate (.literal rfl) hlines

theorem quiet_markupText (hform : BareForm spec) {t : Theme} (ht : IsBareTheme t) :
    Quiet (markupText t spec) :=
  quiet_intercalate (quiet_of_mem_templateBody hform ht)

theorem adds_scriptText (h : BareScript spec) {t : Theme} (ht : IsBareTheme t) :
    Adds scriptEnd (defaultEnds spec + defaultEnds spec + titleEnds spec) (scriptText t spec) :=
  (addsAll_scriptBody h ht).joined ((by decide : Bare "").quiet scriptEnd List.mem_cons_self)
    ((by decide : Bare "\n").quiet scriptEnd List.mem_cons_self)

/-- A view has the end tag of its script in the line that closes it, and in the script. -/
theorem occurrences_content (hform : BareForm spec) (h : BareScript spec) {t : Theme}
    (ht : IsBareTheme t) :
    occurrences scriptEnd (artifact t spec).content.toList
      = 1 + (titleEnds spec + 2 * defaultEnds spec) := by
  have hmarkup := quiet_markupText hform ht scriptEnd List.mem_cons_self
  have htemplate : Adds scriptEnd 0 "\n</template>\n\n" := ⟨by decide, by decide⟩
  have hclose : Adds scriptEnd 1 "\n</script>\n\n" := ⟨by decide, by decide⟩
  have hstyle : Quiet ("\n".intercalate styleLines) := by
    apply quiet_intercalate
    unfold styleLines
    exact isTagwise_quiet.lines rfl (by simp)
  have hbreak : Quiet "\n" := .literal rfl
  have hall := ((((hmarkup.append htemplate).append (adds_scriptText h ht)).append hclose).append
    (hstyle scriptEnd List.mem_cons_self)).append (hbreak scriptEnd List.mem_cons_self)
  rw [content_eq_blocks, hall.count]
  omega

/-! ### Views of accepted documents -/

section

variable {d : Document} {fields : List FieldSpec} (hd : d.WellFormed)
  (hname : Identifier.isExactEntityName d.name = true)
  (hfields : List.Forall₂ (Entity.Reads d) d.schema.entries fields)

theorem bareNames_of_areIdentifiers {n : Names} (hn : n.AreIdentifiers) (hpath : Bare n.path) :
    BareNames n :=
  ⟨bare_of_isIdentifier hn.name, bare_of_isIdentifier hn.capitalized,
    bare_of_isIdentifier hn.plural, bare_of_isIdentifier hn.capitalizedPlural, hpath⟩

theorem bare_of_isResourcePath {s : String} (h : Identifier.isResourcePath s = true) : Bare s :=
  Identifier.notMem_of_matchesLine h (by decide) (by decide) (by decide)

include hd hname in
theorem bareNames_names : BareNames d.names := by
  have hn := Document.areIdentifiers_names hd hname
  refine bareNames_of_areIdentifiers hn ?_
  rcases Document.path_names hd with ⟨path, -, heq, hpath⟩ | ⟨-, heq⟩
  · rw [heq]
    exact bare_of_isResourcePath hpath
  · rw [heq]
    exact bare_of_isIdentifier hn.plural

include hd in
theorem bareNames_of_mem_related {n : Names} (hn : n ∈ (Entity.ofFields d fields).related) :
    BareNames n := by
  have hidentifiers := Entity.areIdentifiers_related hd fields n hn
  obtain ⟨target, -, rfl⟩ := List.mem_map.mp hn
  exact bareNames_of_areIdentifiers hidentifiers (bare_of_isIdentifier hidentifiers.plural)

include hd hfields in
theorem bare_key {m : FieldMapping} (hm : m ∈ (Entity.ofFields d fields).mappings) :
    Bare m.key := bare_of_isIdentifier (Entity.isIdentifier_key hd hfields hm)

include hd hfields in
/-- A control chooses from the store of an entity that the entity of the view refers to. -/
theorem mem_related_of_input {m : FieldMapping} {r : Names}
    (hm : m ∈ (Entity.ofFields d fields).presented.filter FieldMapping.inPayload)
    (hr : r ∈ (FormNode.ofMapping m).input.related?) :
    r ∈ (Entity.ofFields d fields).related := by
  have hmapping := (Entity.presented_eq hfields hd).1 m (List.mem_of_mem_filter hm)
  have hrelated : m.related = some r := by
    unfold FormNode.input FormNode.ofMapping at hr
    dsimp only at hr
    split at hr
    · cases hr
    · split at hr
      next related hsome => rw [hsome, ← hr]; rfl
      next => cases hr
    all_goals cases hr
  exact (Entity.mem_related_of_mem_mappings hfields hmapping).2 r hrelated

include hd hname hfields in
theorem bareForm_ofEntity : BareForm (.ofEntity (Entity.ofFields d fields)) := by
  refine ⟨bareNames_names hd hname, List.forall_mem_map.mpr fun m hm => ?_⟩
  have hmapping := (Entity.presented_eq hfields hd).1 m (List.mem_of_mem_filter hm)
  refine ⟨bare_key hd hfields hmapping, fun r hr => ?_⟩
  exact bareNames_of_mem_related hd (mem_related_of_input hd hfields hm hr)

theorem bare_columnType (field : FieldSpec) : Bare field.mapping.columnType := by
  have hall : ∀ t ∈ FieldSpec.columnTypes, Bare t := by decide
  rw [field.columnType_mapping]
  exact hall _ field.columnType_mem

/-- No occurrence of the end tag goes on behind a default. -/
theorem isClosed_defaultLiteral (field : FieldSpec) :
    IsClosed scriptEnd field.mapping.defaultLiteral.toList := by
  rcases field.defaultLiteral_mapping with ⟨option, hdefault⟩ | hdefault
  · rw [hdefault]
    exact (adds_scriptEnd_literal option).closed
  · have hall : ∀ t ∈ FieldSpec.fixedDefaults, Bare t := by decide
    exact ((hall _ hdefault).quiet scriptEnd List.mem_cons_self).closed

include hd hname hfields in
theorem bareScript_ofEntity : BareScript (.ofEntity (Entity.ofFields d fields)) where
  names := bareNames_names hd hname
  columns := by
    refine List.forall_mem_map.mpr fun m hm => ?_
    have hmapping := (Entity.presented_eq hfields hd).1 m hm
    obtain ⟨field, -, rfl⟩ := List.mem_map.mp hmapping
    refine ⟨bare_key hd hfields hmapping, bare_columnType field, fun name hreference => ?_⟩
    have hname : name = "name" := by
      simp only [Column.ofMapping] at hreference
      split at hreference
      · exact (Option.some.inj hreference).symm
      · cases hreference
    rw [hname]
    decide
  defaults := by
    refine List.forall_mem_map.mpr fun m hm => ?_
    have hmapping := List.mem_of_mem_filter hm
    obtain ⟨field, -, rfl⟩ := List.mem_map.mp hmapping
    exact ⟨bare_key hd hfields hmapping, isClosed_defaultLiteral field⟩
  payloadKeys := List.forall_mem_map.mpr fun m hm => bare_key hd hfields (List.mem_of_mem_filter hm)
  related := by
    intro r hr
    have hrelated : r ∈ (Entity.ofFields d fields).related := hr
    exact bareNames_of_mem_related hd hrelated

end

/-- How often the end tag stands in the text that a form starts with. -/
def startEnds (m : FieldMapping) : Nat :=
  (m.enumValues.head?.map fun option => occurrences scriptEnd option.toList).getD 0

/-- A default is the first option of an enumeration, or has no tag in it. -/
theorem occurrences_defaultLiteral (field : FieldSpec) :
    occurrences scriptEnd field.mapping.defaultLiteral.toList = startEnds field.mapping := by
  have hbare : ∀ t ∈ FieldSpec.fixedDefaults, occurrences scriptEnd t.toList = 0 := by decide
  unfold FieldSpec.mapping
  split
  next entity cardinality _ =>
    refine hbare _ ?_
    show (if _ then _ else _ : String) ∈ FieldSpec.fixedDefaults
    split <;> decide
  next options _ => exact (adds_scriptEnd_literal options.first).count
  next kind _ =>
    split
    next => exact hbare _ (by decide : "\"\"" ∈ FieldSpec.fixedDefaults)
    next =>
      refine hbare _ ?_
      show FieldSpec.emptyLiteral kind ∈ FieldSpec.fixedDefaults
      cases kind <;> decide

theorem titleEnds_ofEntity (e : Entity) : titleEnds (.ofEntity e)
    = (e.presented.map fun m => occurrences scriptEnd m.label.toList).sum := by
  show ((e.presented.map Column.ofMapping).map _).sum = _
  rw [List.map_map]
  rfl

theorem defaultEnds_ofEntity (d : Document) (fields : List FieldSpec) :
    defaultEnds (.ofEntity (Entity.ofFields d fields))
      = ((Entity.ofFields d fields).payload.map startEnds).sum := by
  show ((((Entity.ofFields d fields).payload.map fun m => (m.key, m.defaultLiteral)).map _)).sum = _
  rw [List.map_map]
  refine congrArg List.sum (List.map_congr_left fun m hm => ?_)
  obtain ⟨field, -, rfl⟩ := List.mem_map.mp (List.mem_of_mem_filter hm)
  exact occurrences_defaultLiteral field

theorem sum_labels_eq_zero_iff {mappings : List FieldMapping} :
    (mappings.map fun m => occurrences scriptEnd m.label.toList).sum = 0
      ↔ ∀ m ∈ mappings, ¬ scriptEnd <:+: m.label.toList := by
  rw [List.sum_eq_zero_iff_forall_eq_nat, List.forall_mem_map]
  simp only [occurrences_eq_zero_iff (show scriptEnd ≠ [] by decide)]

theorem sum_startEnds_eq_zero_iff {mappings : List FieldMapping} :
    (mappings.map startEnds).sum = 0
      ↔ ∀ m ∈ mappings, ∀ option ∈ m.enumValues.head?, ¬ scriptEnd <:+: option.toList := by
  rw [List.sum_eq_zero_iff_forall_eq_nat, List.forall_mem_map]
  refine forall₂_congr fun m _ => ?_
  unfold startEnds
  cases m.enumValues.head? with
  | none => simp
  | some option => simp [occurrences_eq_zero_iff (show scriptEnd ≠ [] by decide)]

/-- In the view of an accepted document, nothing in the markup closes it before the line that does,
whatever its labels, placeholders and options are. The script closes where its text is done, but it
also has the end tag wherever a label has it, and twice for each enumeration whose first option has
it. So the tag is there once just when none of these texts has it. -/
theorem blocks_of_view {v : Value} {d : Document} (hparse : Document.parse v = .ok d)
    (hvalid : d.findings.isValid = true) :
    ∃ e, Entity.ofAccepted d = .ok e ∧ ∀ t ∈ Theme.builtIn, ∃ markup script style,
      (artifact t (.ofEntity e)).content
          = markup ++ "\n</template>\n" ++ script ++ "\n</script>\n" ++ style
        ∧ ¬ templateEnd <:+: (markup ++ "\n").toList
        ∧ occurrences scriptEnd (artifact t (.ofEntity e)).content.toList
          = 1 + ((e.presented.map fun m => occurrences scriptEnd m.label.toList).sum
            + 2 * (e.payload.map startEnds).sum)
        ∧ (occurrences scriptEnd (artifact t (.ofEntity e)).content.toList = 1
          ↔ (∀ m ∈ e.presented, ¬ scriptEnd <:+: m.label.toList)
            ∧ ∀ m ∈ e.payload, ∀ option ∈ m.enumValues.head?,
              ¬ scriptEnd <:+: option.toList) := by
  obtain ⟨hd, fields, hfields, he, -⟩ := exists_assemble_eq_ok hparse hvalid
  have hname := Document.isExactEntityName_of_parse hparse
  have hform := bareForm_ofEntity hd hname hfields
  have hscript := bareScript_ofEntity hd hname hfields
  refine ⟨_, he, fun t ht => ?_⟩
  have htheme := isBareTheme_of_mem_builtIn ht
  -- the script alone adds to the tag that ends it
  have hcount := occurrences_content hform hscript htheme
  rw [titleEnds_ofEntity, defaultEnds_ofEntity] at hcount
  refine ⟨markupText t (.ofEntity (Entity.ofFields d fields)),
    "\n" ++ scriptText t (.ofEntity (Entity.ofFields d fields)),
    "\n" ++ "\n".intercalate styleLines ++ "\n", ?_, ?_, hcount, ?_⟩
  · rw [content_eq_blocks]
    simp [← String.toList_inj]
  · have hquiet := (quiet_markupText hform htheme).append (.literal rfl : Quiet "\n")
    have hzero := (hquiet templateEnd (by decide)).count
    rwa [occurrences_eq_zero_iff (by decide)] at hzero
  · rw [hcount, ← sum_labels_eq_zero_iff, ← sum_startEnds_eq_zero_iff]
    omega

/-! The script of a view with an end tag for a label. -/

def closingValue : Value :=
  .map [(.text "name", .text "order"), (.text "schema", .map [(.text "title", .text "string")]),
    (.text "ui", .map [(.text "title", .map [(.text "label", .text "</script>")])])]

def closingDocument : Document where
  version := none
  name := "order"
  overrides := {}
  schema := .ofList [("title", "string")]
  ui := .ofList [("title", { label := "</script>" })]

/-- The document is accepted, and its label has the tag. -/
theorem closingValue_accepted : Document.parse closingValue = .ok closingDocument
    ∧ closingDocument.findings.isValid = true
    ∧ (Entity.ofAccepted closingDocument).toOption.all (fun e =>
      (e.presented.map fun m => occurrences scriptEnd m.label.toList) = [1]
        ∧ e.payload.map startEnds = [0]) = true := by
  decide +kernel

theorem closing_blocks : ∃ e, Entity.ofAccepted closingDocument = .ok e ∧ ∀ t ∈ Theme.builtIn,
    occurrences scriptEnd (artifact t (.ofEntity e)).content.toList = 2 := by
  obtain ⟨hparse, hvalid, hends⟩ := closingValue_accepted
  obtain ⟨e, he, hblocks⟩ := blocks_of_view hparse hvalid
  rw [he] at hends
  obtain ⟨hlabels, hstarts⟩ := of_decide_eq_true hends
  refine ⟨e, he, fun t ht => ?_⟩
  obtain ⟨markup, script, style, -, -, hcount, -⟩ := hblocks t ht
  rw [hcount, hlabels, hstarts]
  rfl

end Scaffold.View
