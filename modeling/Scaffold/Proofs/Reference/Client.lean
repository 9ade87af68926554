import Scaffold.Client.Service
import Scaffold.Proofs.Client.Interface
import Scaffold.Proofs.Reference.Content
import Scaffold.Proofs.Reference.Quoted
import Scaffold.Proofs.Reference.Templates

/-!
# Interfaces and services

Interfaces refer to nothing, and declare what other files import of them. A service imports its
types alone: what else depends on names and settings in it is not quoted, but for one text.
-/

namespace Scaffold.Client

open Text Reading

/-! ### Services -/

/-- The types that are written in a service are not quoted. -/
structure EntityTypes.AreUnquoted (t : EntityTypes) : Prop where
  received : Unquoted t.received
  created : Unquoted t.created
  updated : Unquoted t.updated

theorem areUnquoted_ofOwner {n : Names} (hn : n.AreWords) : (EntityTypes.ofOwner n).AreUnquoted :=
  ⟨hn.capitalized.unquoted, (isWord_createType hn).unquoted, (isWord_updateType hn).unquoted⟩

theorem areUnquoted_ofRelated (owner : Names) {r : Names} (hr : r.AreWords) :
    (EntityTypes.ofRelated owner r).AreUnquoted := by
  have hpartial : Unquoted ("Partial<" ++ r.capitalized ++ ">") :=
    isPiecewise_unquoted.text rfl (by simp [hr.capitalized.unquoted])
  exact ⟨hr.capitalized.unquoted, hpartial, hpartial⟩

theorem unquoted_of_mem_lines {f : ServiceFunction} (hname : Unquoted f.name)
    (hparameters : Unquoted f.parameters) (hresult : Unquoted f.result)
    (hbody : ∀ s ∈ f.body, Unquoted s) : ∀ s ∈ f.lines, Unquoted s := by
  refine List.forall_mem_append.mpr ⟨List.forall_mem_append.mpr ⟨?_, hbody⟩, ?_⟩
  · exact isPiecewise_unquoted.lines rfl (by simp [hname, hparameters, hresult])
  · exact isPiecewise_unquoted.lines rfl (by simp)

theorem unquoted_of_mem_requestBody {request : String} (h : Unquoted request) :
    ∀ s ∈ requestBody request, Unquoted s := by
  unfold requestBody
  exact isPiecewise_unquoted.lines rfl (by simp [h])

/-- The functions of a service have no quoted texts in them. -/
theorem unquoted_of_mem_serviceFunctions {n : Names} (hn : n.AreWords) (hpath : Unquoted n.path)
    {t : EntityTypes} (ht : t.AreUnquoted) :
    ∀ f ∈ serviceFunctions n t, ∀ s ∈ f.lines, Unquoted s := by
  have hmembers : ∀ m ∈ serviceMembers n, Unquoted m := fun m hm =>
    (isWord_of_mem_serviceMembers hn m hm).unquoted
  simp only [serviceMembers, List.forall_mem_cons, List.not_mem_nil, false_imp_iff, implies_true,
    and_true] at hmembers
  obtain ⟨hgetAll, hgetOne, hcreate, hupdate, hdelete, hupdateField⟩ := hmembers
  have hendpoint : Unquoted (endpoint n) := .append (.literal rfl) hpath
  have hitem : Unquoted (itemEndpoint n) := .append (.append (.literal rfl) hpath) (.literal rfl)
  have hcall : ∀ {front address back : String}, Unquoted front → Unquoted address → Unquoted back →
      ∀ s ∈ requestBody (front ++ address ++ back), Unquoted s := fun hfront haddress hback =>
    unquoted_of_mem_requestBody (.append (.append hfront haddress) hback)
  simp only [serviceFunctions, List.forall_mem_cons, List.not_mem_nil, false_imp_iff, implies_true,
    and_true]
  refine ⟨?getAll, ?getOne, ?create, ?update, ?delete, ?updateField⟩
  case getAll =>
    exact unquoted_of_mem_lines hgetAll (.literal rfl) (.append ht.received (.literal rfl))
      (hcall (.literal rfl) hendpoint (.literal rfl))
  case getOne =>
    exact unquoted_of_mem_lines hgetOne (.literal rfl) ht.received
      (hcall (.literal rfl) hitem (.literal rfl))
  case create =>
    exact unquoted_of_mem_lines hcreate (.append (.literal rfl) ht.created) ht.received
      (hcall (.literal rfl) hendpoint (.literal rfl))
  case update =>
    exact unquoted_of_mem_lines hupdate (.append (.literal rfl) ht.updated) ht.received
      (hcall (.literal rfl) hitem (.literal rfl))
  case delete =>
    exact unquoted_of_mem_lines hdelete (.literal rfl) (.literal rfl)
      (isPiecewise_unquoted.lines rfl (by simp [hitem]))
  case updateField =>
    refine unquoted_of_mem_lines hupdateField (.literal rfl) ht.received
      (List.forall_mem_append.mpr ⟨?_, hcall (.literal rfl) hitem (.literal rfl)⟩)
    exact isPiecewise_unquoted.lines rfl (by simp)

/-- A service imports its types and a library. -/
theorem cites_serviceLines {st : Settings} {n : Names} (hn : n.AreWords) (hpath : Unquoted n.path)
    (hvariable : Unquoted st.apiUrlVariable) {t : EntityTypes} (ht : t.AreUnquoted) {σ : Filling}
    (hfills : t.IsFilledBy σ) :
    ∀ s ∈ serviceLines st n t, CitesText [t.typeImport, serviceLibrary] [] s := by
  have hunquoted : ∀ {s}, Unquoted s → CitesText [t.typeImport, serviceLibrary] [] s := fun h =>
    (CitesText.of_unquoted h).mono (List.nil_subset _) (List.nil_subset _)
  have hlibrary : fillImport σ serviceLibrary = serviceLibrary := by
    simp (disch := decide) [serviceLibrary, fillImport, Filling.text_ascii]
  have haxios : σ.text "import axios from 'axios'" = "import axios from 'axios'" :=
    σ.text_ascii (by decide)
  obtain ⟨closed, hclosed, hfill⟩ := hfills
  have himports := citesText_of_holdsOf (σ := σ) (templates_refer.1.1 closed hclosed).1
  simp only [serviceImportLines, List.map_cons, List.map_nil, text_line, hfill.typeImport, hlibrary,
    haxios, List.forall_mem_cons, List.not_mem_nil, false_imp_iff, implies_true, and_true]
    at himports
  -- behind the imports only the line of the token has a quote, and it quotes no source
  simp only [serviceLines, serviceHead, List.forall_mem_append, List.forall_mem_cons,
    List.not_mem_nil, false_imp_iff, implies_true, and_true]
  refine ⟨⟨⟨⟨⟨⟨himports.1, himports.2, hunquoted (.literal rfl),
    hunquoted (.append (.literal rfl) hvariable), hunquoted (.literal rfl),
    hunquoted (.literal rfl), hunquoted (.literal rfl), ?token, hunquoted (.literal rfl),
    hunquoted (.literal rfl), hunquoted (.literal rfl)⟩, ?function⟩, ?functions⟩,
    hunquoted (.literal rfl)⟩, ?members⟩, hunquoted (.literal rfl), hunquoted (.literal rfl)⟩
  case token =>
    exact (CitesText.quoted rfl st.tokenKey).mono (List.nil_subset _) (List.nil_subset _)
  case function =>
    exact hunquoted (.append (.append (.literal rfl) (isWord_useService hn).unquoted)
      (.literal rfl))
  case functions =>
    intro s hs
    obtain ⟨f, hf, hs⟩ := List.mem_flatMap.mp hs
    rcases List.mem_append.mp hs with hs | hs
    · exact hunquoted (unquoted_of_mem_serviceFunctions hn hpath ht f hf s hs)
    · rw [List.mem_singleton.mp hs]
      exact hunquoted (.literal rfl)
  case members =>
    intro s hs
    obtain ⟨entry, hentry, hs⟩ := mem_commaSeparated hs
    obtain ⟨m, hm, rfl⟩ := List.mem_map.mp hentry
    have hmember : Unquoted ("    " ++ m) :=
      .append (.literal rfl) (isWord_of_mem_serviceMembers hn m hm).unquoted
    rcases hs with rfl | rfl
    · exact hunquoted hmember
    · exact hunquoted (hmember.append (.literal rfl))

/-- The service of an entity imports its types from the interfaces of the entity. -/
theorem cites_service {st : Settings} {n : Names} (hn : n.AreWords) (hpath : Unquoted n.path)
    (hvariable : Unquoted st.apiUrlVariable) :
    ∀ s ∈ serviceLines st n (.ofOwner n),
      CitesText [(EntityTypes.ofOwner n).typeImport, serviceLibrary] [] s := by
  obtain ⟨σ, hσ, -⟩ := hn.exists_filling_other hn.name
  exact cites_serviceLines hn hpath hvariable (areUnquoted_ofOwner hn) (isFilledBy_ofOwner hσ)

/-- The service of a related entity imports its type from the interfaces of the other one. -/
theorem cites_relatedService {st : Settings} {owner r : Names} (howner : IsWord owner.name)
    (hr : r.AreWords) (hpath : Unquoted r.path) (hvariable : Unquoted st.apiUrlVariable) :
    ∀ s ∈ serviceLines st r (.ofRelated owner r),
      CitesText [(EntityTypes.ofRelated owner r).typeImport, serviceLibrary] [] s := by
  obtain ⟨σ, hσ, hfill⟩ := hr.exists_filling_other howner
  exact cites_serviceLines hr hpath hvariable (areUnquoted_ofRelated owner hr)
    (isFilledBy_ofRelated hσ hfill)

section

variable {st : Settings} {n : Names} (hn : n.AreWords) {t : EntityTypes}

theorem isScript_service :
    (⟨.frontend, servicePath n, joinLines (serviceLines st n t)⟩ : Artifact).IsScript
      (serviceLines st n t) where
  path := ⟨"services/" ++ n.name ++ ".service", by simp [servicePath, ← String.toList_inj]⟩
  content := rfl
  ending := ⟨"\x7d", '\x7d', by rw [serviceLines, List.getLast?_append]; rfl, rfl, by decide⟩

include hn

/-- A service exports the function that makes it. -/
theorem useService_mem_exports {a : Artifact} (ha : a.IsScript (serviceLines st n t)) :
    useService n ∈ a.exports := by
  have hkind : "const" ∈ ["const", "interface", "class"] := by decide
  refine ha.mem_exports hkind (isWord_useService hn) (by decide : '\n' ∉ "= () => \x7b".toList) ?_
  have hline : "export " ++ "const" ++ " " ++ useService n ++ " " ++ "= () => \x7b"
      = "export const " ++ useService n ++ " = () => \x7b" := by
    simp [← String.toList_inj]
  rw [hline]
  simp [serviceLines]

/-- It returns what a service offers. -/
theorem returned_service {a : Artifact} (ha : a.IsScript (serviceLines st n t)) :
    a.returned = serviceMembers n := by
  have hlines : serviceLines st n t
      = (serviceHead st t ++ ["export const " ++ useService n ++ " = () => \x7b"]
        ++ (serviceFunctions n t).flatMap (fun f => f.lines ++ [""]))
        ++ Artifact.returnLines (serviceMembers n) "\x7d" := by
    simp only [serviceLines, Artifact.returnLines, List.append_assoc]
  exact Artifact.IsScript.returned_eq (hlines ▸ ha) (isWord_of_mem_serviceMembers hn) (by decide)
    (by decide)

end

/-! ### Interfaces -/

section

variable {e : Entity} (he : e.WellNamed)

include he

theorem unquoted_clientType : ∀ m ∈ e.mappings, Unquoted m.clientType := by
  intro m hm
  obtain ⟨field, rfl, htarget⟩ := he.mappings m hm
  rcases field.clientType_mapping with ⟨target, htype, hclient⟩ | hclient
  · have hcap := (areWords_related he _ (htarget target htype)).capitalized.unquoted
    rcases hclient with hclient | hclient
    · rwa [hclient]
    · rw [hclient]
      exact hcap.append (.literal rfl)
  · simp only [List.mem_cons, List.not_mem_nil, or_false] at hclient
    rcases hclient with hclient | hclient | hclient
    all_goals
      rw [hclient]
      exact .literal rfl

theorem unquoted_member {m : FieldMapping} (hm : m ∈ e.mappings) :
    Unquoted (requiredMember m) ∧ Unquoted (optionalMember m) := by
  have hkey := unquoted_of_isIdentifier (he.keys m hm)
  have htype := unquoted_clientType he m hm
  unfold requiredMember optionalMember
  exact ⟨isPiecewise_unquoted.text rfl (by simp [hkey, htype]),
    isPiecewise_unquoted.text rfl (by simp [hkey, htype])⟩

omit he in
theorem unquoted_of_mem_interfaceBlock {name : String} {members : List String}
    (hname : Unquoted name)
    (hmembers : ∀ s ∈ members, Unquoted s) : ∀ s ∈ interfaceBlock name members, Unquoted s := by
  refine List.forall_mem_append.mpr ⟨List.forall_mem_append.mpr ⟨?_, hmembers⟩, ?_⟩
  · exact isPiecewise_unquoted.lines rfl (by simp [hname])
  · exact isPiecewise_unquoted.lines rfl (by simp)

/-- There are no quoted texts among the interfaces. -/
theorem unquoted_of_mem_interfaceLines : ∀ s ∈ interfaceLines e, Unquoted s := by
  have hempty : Unquoted "" := .literal rfl
  have hpayload : ∀ m ∈ e.payload, m ∈ e.mappings := fun m hm => (List.mem_filter.mp hm).1
  simp only [interfaceLines, List.forall_mem_append, List.forall_mem_singleton]
  refine ⟨⟨⟨⟨⟨?related, ?read⟩, hempty⟩, ?create⟩, hempty⟩, ?update⟩
  case related =>
    intro s hs
    obtain ⟨r, hr, hs⟩ := List.mem_flatMap.mp hs
    rcases List.mem_append.mp hs with hs | hs
    · have hcap := (areWords_related he r hr).capitalized.unquoted
      exact unquoted_of_mem_interfaceBlock hcap (isPiecewise_unquoted.lines rfl (by simp)) s hs
    · rwa [List.mem_singleton.mp hs]
  case read =>
    refine unquoted_of_mem_interfaceBlock he.names.capitalized.unquoted
      (List.forall_mem_cons.mpr ⟨.literal rfl, List.forall_mem_map.mpr fun m hm => ?_⟩)
    exact (unquoted_member he hm).1
  case create =>
    refine unquoted_of_mem_interfaceBlock (isWord_createType he.names).unquoted
      (List.forall_mem_map.mpr fun m hm => ?_)
    unfold createMember
    split
    next => exact (unquoted_member he (hpayload m hm)).1
    next => exact (unquoted_member he (hpayload m hm)).2
  case update =>
    refine unquoted_of_mem_interfaceBlock (isWord_updateType he.names).unquoted
      (List.forall_mem_map.mpr fun m hm => ?_)
    exact (unquoted_member he (hpayload m hm)).2

omit he in
theorem isScript_interface :
    (⟨.frontend, interfacePath e.names, interfaceText e⟩ : Artifact).IsScript
      (interfaceLines e) where
  path := ⟨"interfaces/" ++ e.names.name ++ ".interface",
    by simp [interfacePath, ← String.toList_inj]⟩
  content := rfl
  ending := ⟨"\x7d", '\x7d', by simp [interfaceLines_eq], rfl, by decide⟩

omit he in
/-- A file exports the interface whose header it has. -/
theorem mem_exports_of_interfaceHeader {a : Artifact} {lines : List String} (ha : a.IsScript lines)
    {name : String} (hname : IsWord name) (hheader : interfaceHeader name ∈ lines) :
    name ∈ a.exports := by
  have hkind : "interface" ∈ ["const", "interface", "class"] := by decide
  have hline : "export " ++ "interface" ++ " " ++ name ++ " " ++ "\x7b" = interfaceHeader name := by
    unfold interfaceHeader
    simp [← String.toList_inj]
  exact ha.mem_exports hkind hname (by decide) (hline ▸ hheader)

/-- Every type that is imported from the interfaces is exported there. -/
theorem mem_exports_interface {a : Artifact} (ha : a.IsScript (interfaceLines e)) :
    e.names.capitalized ∈ a.exports ∧ createType e.names ∈ a.exports
      ∧ updateType e.names ∈ a.exports ∧ ∀ r ∈ e.related, r.capitalized ∈ a.exports := by
  have hblock : ∀ name members, interfaceHeader name ∈ interfaceBlock name members := by
    intro name members
    rw [interfaceBlock_eq, interfaceBody]
    exact List.mem_append_left _ List.mem_cons_self
  refine ⟨?_, ?_, ?_, fun r hr => ?_⟩
  · refine mem_exports_of_interfaceHeader ha he.names.capitalized ?_
    simp [interfaceLines, readInterface, hblock]
  · refine mem_exports_of_interfaceHeader ha (isWord_createType he.names) ?_
    simp [interfaceLines, createInterface, hblock]
  · refine mem_exports_of_interfaceHeader ha (isWord_updateType he.names) ?_
    simp [interfaceLines, updateInterface, hblock]
  · refine mem_exports_of_interfaceHeader ha (areWords_related he r hr).capitalized ?_
    have hmem : interfaceHeader r.capitalized
        ∈ e.related.flatMap fun n => relatedInterface n ++ [""] :=
      List.mem_flatMap.mpr ⟨r, hr, List.mem_append_left _ (hblock _ _)⟩
    simp [interfaceLines, hmem]

/-- The types of the fields are declared among the interfaces. -/
theorem declaresTypes {files : List Artifact}
    (hfile : ⟨.frontend, interfacePath e.names, interfaceText e⟩ ∈ files) :
    e.DeclaresTypes files := by
  intro m hm name hname
  obtain ⟨field, rfl, htarget⟩ := he.mappings m hm
  -- a type is a target, alone or as a list, or a built-in type
  rcases field.clientType_mapping with ⟨target, htype, hclient⟩ | hclient
  · have hr := htarget target htype
    have hcap := (areWords_related he _ hr).capitalized
    have hnames : words (tokens field.mapping.clientType)
        = [(Names.ofName target).capitalized] := by
      rcases hclient with hclient | hclient
      · rw [hclient, tokens_isWord hcap]
        rfl
      · rw [hclient, tokens_isWord_append hcap]
        rfl
    rw [hnames, List.mem_singleton] at hname
    subst hname
    exact .inr ⟨_, hfile, rfl, (mem_exports_interface he isScript_interface).2.2.2 _ hr⟩
  · refine .inl ?_
    simp only [List.mem_cons, List.not_mem_nil, or_false] at hclient
    have hsame : words (tokens field.mapping.clientType) = [field.mapping.clientType] := by
      rcases hclient with hclient | hclient | hclient
      all_goals
        rw [hclient]
        decide
    rw [hsame, List.mem_singleton] at hname
    rw [hname, builtInTypes]
    simpa using hclient

end

end Scaffold.Client
