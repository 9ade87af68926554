import Scaffold.Proofs.Reference.Provision

/-!
# Self-contained modules

The module of an accepted document refers to nothing in it that is not there: each import names a
file and what that exports, each type of a field is declared among the interfaces, and of services
and stores only those members are taken that these return.

Overriding names may break this. A name with a line feed behind it, which validation accepts, breaks
the lines that it stands on (`Names.IsUnbroken`). And the constants of a store that hold its plural
and the current entity may be named like those that hold its service and other stores: then members
of one are taken of the other (`Client.OwnApart`). There is no other way to break it, and without
overrides only a store of stores beside one of current entities does (`module_self_contained`).
-/

namespace Scaffold

open Text Client Identifier

/-- The own constants of a store are named like none that hold its service and other stores. -/
structure Client.OwnApart (n : Names) (related : List Names) : Prop where
  plural : n.plural ∉ usedConstants n related
  current : current n ∉ usedConstants n related

/-- The forms of a name break no line. -/
def Names.IsUnbroken (n : Names) : Prop := ∀ form ∈ n.forms, '\n' ∉ form.toList

/-! ### Derived names -/

/-- Of derived names, only two make the constants the same. -/
theorem Client.ownApart_ofName {name : String} (hname : isExactEntityName name = true)
    {targets : List String} (htargets : ∀ r ∈ targets, isExactEntityName r = true) :
    OwnApart (.ofName name) (targets.map .ofName) ↔ ¬ (name = "store" ∧ "current" ∈ targets) := by
  have hcurrent : isExactEntityName "current" = true := by decide
  have hrest : "Store".toList = 'S' :: "tore".toList := rfl
  have hstore : ∀ r, Client.current (.ofName name) = storeConst (.ofName r) ↔
      "current" ++ Text.capitalize name = r ++ "Store" := fun _ => Iff.rfl
  constructor
  · rintro ⟨-, happart⟩ ⟨rfl, hmem⟩
    refine happart (List.mem_cons_of_mem _ (List.mem_map.mpr ⟨_, List.mem_map_of_mem hmem, ?_⟩))
    decide
  · intro hnot
    refine ⟨fun hmem => ?_, fun hmem => ?_⟩
    · -- a plural has no capital, and every used constant has one
      rcases List.mem_cons.mp hmem with heq | hmem
      · exact pluralize_ne_append hname (by decide) name heq
      · obtain ⟨n, hn, heq⟩ := List.mem_map.mp hmem
        obtain ⟨r, -, rfl⟩ := List.mem_map.mp hn
        exact pluralize_ne_append hname (by decide) r heq.symm
    · rcases List.mem_cons.mp hmem with heq | hmem
      · exact current_ne_serviceConst hname heq
      · obtain ⟨n, hn, heq⟩ := List.mem_map.mp hmem
        obtain ⟨r, hr, rfl⟩ := List.mem_map.mp hn
        rw [eq_comm, hstore, append_capitalize_eq_iff hcurrent hname (htargets r hr) hrest
          (by decide)] at heq
        obtain ⟨rfl, hcap⟩ := heq
        have hname' : isExactEntityName "store" = true := by decide
        have hcap' : Text.capitalize "store" = "Store" := by decide
        exact hnot ⟨capitalize_injective hname hname' (hcap.trans hcap'.symm), hr⟩

theorem Names.isUnbroken_ofName {name : String} (h : isExactEntityName name = true) :
    (Names.ofName name).IsUnbroken := by
  have hwords := Names.areWords_ofName h
  unfold IsUnbroken forms
  simp only [List.forall_mem_cons, List.not_mem_nil, false_imp_iff, implies_true, and_true]
  exact ⟨hwords.name.notMem (by decide), hwords.plural.notMem (by decide),
    hwords.capitalized.notMem (by decide), hwords.capitalizedPlural.notMem (by decide)⟩

/-! ### Where constants are not apart -/

section

variable {n : Names}

theorem isInModule_service (n : Names) : IsInModule (serviceImport n).source := by
  simp [IsInModule, serviceImport]

theorem isInModule_otherStore (n : Names) : IsInModule (storeImport "./" n).source := by
  simp [IsInModule, storeImport]

theorem append_ne_value {front : String} (h : ¬ front.toList <+: "value".toList) (back : String) :
    front ++ back ≠ "value" := by
  intro heq
  rw [← heq, String.toList_append] at h
  exact h (List.prefix_append _ _)

/-- A service offers no member with this name. -/
theorem value_notMem_serviceMembers (n : Names) : "value" ∉ serviceMembers n := by
  have hall : ∀ m ∈ serviceMembers n, m ≠ "value" := by
    simp only [serviceMembers, List.forall_mem_cons, List.not_mem_nil, false_imp_iff, implies_true,
      and_true]
    exact ⟨append_ne_value (by decide) _, (ne_append (by decide) ("get" ++ n.capitalized)).symm,
      append_ne_value (by decide) _, append_ne_value (by decide) _, append_ne_value (by decide) _,
      by decide⟩
  exact fun hmem => hall _ hmem rfl

/-- Neither does a store, unless it is that of values. -/
theorem value_notMem_storeMembers {n : Names} (h : n.plural ≠ "value") :
    "value" ∉ storeMembers n := by
  have hall : ∀ m ∈ storeMembers n, m ≠ "value" := by
    simp only [storeMembers, List.forall_mem_cons, List.not_mem_nil, false_imp_iff, implies_true,
      and_true]
    exact ⟨h, append_ne_value (by decide) _, by decide, by decide, append_ne_value (by decide) _,
      (ne_append (by decide) ("fetch" ++ n.capitalized)).symm, append_ne_value (by decide) _,
      append_ne_value (by decide) _, append_ne_value (by decide) _⟩
  exact fun hmem => hall _ hmem rfl

theorem plural_ofName_ne_value {name : String} (h : isExactEntityName name = true) :
    (Names.ofName name).plural ≠ "value" := by
  intro heq
  have hlast := getLast?_pluralize h
  have hsame : pluralize name = "value" := heq
  rw [hsame] at hlast
  exact absurd hlast (by decide)

end

/-- In a self-contained module, the constants of the store are apart: what it takes of its own is
not returned by services and stores. -/
theorem Entity.ownApart_of_isSelfContained {e : Entity} (he : e.WellNamed)
    (hnames : e.names.AreIdentifiers) {s : Settings} (hfrontend : s.generateFrontend = true)
    (hnodup : ((e.artifacts s).map (·.path)).Nodup) (h : IsSelfContained (e.artifacts s)) :
    OwnApart e.names e.related := by
  have hmem : ⟨.frontend, storePath e.names, storeText e.names e.related⟩ ∈ e.artifacts s :=
    mem_artifacts_of_mem_clientFiles hfrontend (.tail _ (.tail _ List.mem_cons_self))
  have hscript : (⟨.frontend, storePath e.names, storeText e.names e.related⟩ : Artifact).IsScript
      (storeLines e.names (.ofOwner e.names) e.related) := isScript_store
  have hstands := standsAt_store hnames (storeText e.names e.related)
  have hfile : ∀ {b b' : Artifact}, b ∈ e.artifacts s → b' ∈ e.artifacts s → b.path = b'.path →
      b = b' := fun hb hb' => List.inj_on_of_nodup_map hnodup hb hb'
  -- the value of a clashing constant would be read, and no service or store returns one
  have hused : ∀ c ∈ usedConstants e.names e.related, (c, "value") ∉ (⟨.frontend,
      storePath e.names, storeText e.names e.related⟩ : Artifact).taken := by
    intro c hc htaken
    rcases List.mem_cons.mp hc with rfl | hc
    · obtain ⟨himport, hmade⟩ := service_mem_store he.names hscript
      obtain ⟨b, hb, hsatisfies⟩ := (h _ hmem).imports _ himport (isInModule_service _)
      obtain ⟨t, hservice⟩ := exists_service hfrontend (.inl rfl)
      have htarget := target?_service hstands.isPlain hnames hstands.directory
      obtain rfl := hfile hb.mem hservice
        (Option.some.inj ((hstands.path ▸ hb.path).symm.trans htarget))
      have hreturned :=
        hsatisfies.returned rfl _ hmade (List.mem_singleton_self _) _ htaken rfl
      rw [returned_service he.names isScript_service] at hreturned
      exact value_notMem_serviceMembers _ hreturned
    · obtain ⟨r, hr, rfl⟩ := List.mem_map.mp hc
      have hwords := areWords_related he r hr
      obtain ⟨himport, hmade⟩ := store_mem_store hscript hwords hr
      obtain ⟨b, hb, hsatisfies⟩ := (h _ hmem).imports _ himport (isInModule_otherStore _)
      have htarget := target?_otherStore hstands.isPlain (areIdentifiers_of_mem_related he hr) rfl
      obtain rfl := hfile hb.mem (mem_relatedStore hfrontend hr)
        (Option.some.inj ((hstands.path ▸ hb.path).symm.trans htarget))
      have hreturned :=
        hsatisfies.returned rfl _ hmade (List.mem_singleton_self _) _ htaken rfl
      rw [returned_store hwords isScript_store] at hreturned
      obtain ⟨target, hexact, rfl⟩ := he.related r hr
      exact value_notMem_storeMembers (plural_ofName_ne_value hexact) hreturned
  exact ⟨fun hplural => hused _ hplural (value_mem_taken he.names hscript (.inl rfl)),
    fun hcurrent => hused _ hcurrent (value_mem_taken he.names hscript (.inr rfl))⟩

/-! ### Accepted documents -/

section

variable {d : Document} (hd : d.WellFormed) (hname : isExactEntityName d.name = true)

include hd hname

theorem Document.areWords_names (hbreak : d.names.IsUnbroken) : d.names.AreWords := by
  have hn := Document.areIdentifiers_names hd hname
  unfold Names.IsUnbroken Names.forms at hbreak
  simp only [List.forall_mem_cons, List.not_mem_nil, false_imp_iff, implies_true, and_true]
    at hbreak
  obtain ⟨hone, hplural, hcap, hplurals⟩ := hbreak
  exact ⟨isWord_of_isIdentifier hn.name hone, isWord_of_isIdentifier hn.capitalized hcap,
    isWord_of_isIdentifier hn.plural hplural, isWord_of_isIdentifier hn.capitalizedPlural hplurals⟩

theorem Document.unquoted_path : Unquoted d.names.path := by
  rcases Document.path_names hd with ⟨path, -, heq, hpath⟩ | ⟨-, heq⟩
  · rw [heq]
    exact ⟨notMem_of_matchesLine hpath (by decide) (by decide) (by decide),
      notMem_of_matchesLine hpath (by decide) (by decide) (by decide)⟩
  · rw [heq]
    exact unquoted_of_isIdentifier (Document.areIdentifiers_names hd hname).plural

/-- The entity of a well-formed document whose names break no lines. -/
theorem Entity.wellNamed_ofFields {fields : List FieldSpec}
    (hfields : List.Forall₂ (Reads d) d.schema.entries fields) (hbreak : d.names.IsUnbroken) :
    (ofFields d fields).WellNamed where
  names := Document.areWords_names hd hname hbreak
  path := Document.unquoted_path hd hname
  related := by
    refine List.forall_mem_map.mpr fun target htarget => ?_
    exact ⟨target, Document.isExactEntityName_of_mem_targets hd htarget, rfl⟩
  keys m hm := isIdentifier_key hd hfields hm
  mappings m hm := by
    obtain ⟨field, hfield, rfl⟩ := List.mem_map.mp hm
    exact ⟨field, rfl, fun target htarget =>
      List.mem_map_of_mem (mem_targets_of_mem hfields hfield htarget)⟩

end

/-- The module of an accepted document, with both sides, declares the types of its fields if the
forms of its name break no line. Then it refers to nothing in it that is not there just when the
constants of its store are apart. Where the document overrides nothing they are, but for the name
`store` beside a related entity `current`. -/
theorem module_self_contained {v : Value} {d : Document} {s : Settings}
    (hparse : Document.parse v = .ok d) (hvalid : d.findings.isValid = true) (hs : s.WellFormed)
    (hwritable : s.IsWritable) (hfrontend : s.generateFrontend = true)
    (hbackend : s.generateBackend = true) :
    ∃ e files, Entity.ofAccepted d = .ok e ∧ assemble v s = .ok files
      ∧ (d.names.IsUnbroken → e.DeclaresTypes files
        ∧ (IsSelfContained files ↔ OwnApart d.names (d.targets.map .ofName)))
      ∧ (d.names = .ofName d.name → e.DeclaresTypes files
        ∧ (IsSelfContained files ↔ ¬ (d.name = "store" ∧ "current" ∈ d.targets))) := by
  obtain ⟨hd, fields, hfields, he, hfiles⟩ := exists_assemble_eq_ok hparse hvalid
  have hname := Document.isExactEntityName_of_parse hparse
  have hnames := Document.areIdentifiers_names hd hname
  have hrelated := Entity.areIdentifiers_related hd fields
  have hform := View.bareForm_ofEntity hd hname hfields
  have hinputs : ∀ node ∈ (View.Spec.ofEntity (Entity.ofFields d fields)).form,
      ∀ r ∈ node.input.related?, r ∈ (Entity.ofFields d fields).related :=
    List.forall_mem_map.mpr fun m hm r hr => View.mem_related_of_input hd hfields hm hr
  have hpaths : (((Entity.ofFields d fields).artifacts s).map (·.path)).Nodup := by
    rw [Entity.map_path_artifacts]
    exact Address.nodup_path (Entity.isPlain_of_mem_addresses hnames hrelated)
      (Entity.nodup_fileNames_ofFields hd hname fields s)
  -- names without a line break let the lines of the files be read back
  have hmodule : d.names.IsUnbroken →
      (Entity.ofFields d fields).DeclaresTypes ((Entity.ofFields d fields).artifacts s)
        ∧ (IsSelfContained ((Entity.ofFields d fields).artifacts s)
          ↔ OwnApart d.names (d.targets.map .ofName)) := by
    intro hbreak
    have hwell := Entity.wellNamed_ofFields hd hname hfields hbreak
    refine ⟨declaresTypes hwell (Entity.mem_interface hfrontend), fun hcontained => ?_,
      fun happart => ?_⟩
    · exact Entity.ownApart_of_isSelfContained hwell hnames hfrontend hpaths hcontained
    · exact Entity.isSelfContained_artifacts hwell hnames hs hfrontend hbackend hform hinputs
        happart.plural happart.current
  refine ⟨_, _, he, hfiles s hwritable, hmodule, fun hderived => ?_⟩
  have htargets : ∀ r ∈ d.targets, isExactEntityName r = true := fun r =>
    Document.isExactEntityName_of_mem_targets hd
  have hbreak : d.names.IsUnbroken := hderived ▸ Names.isUnbroken_ofName hname
  obtain ⟨hdeclares, hiff⟩ := hmodule hbreak
  rw [hderived, ownApart_ofName hname htargets] at hiff
  exact ⟨hdeclares, hiff⟩

/-- The module about orders is self-contained. -/
theorem orders_self_contained :
    ∃ (e : Entity) (files : List Artifact), assemble orderValue {} = .ok files
      ∧ e.DeclaresTypes files ∧ IsSelfContained files := by
  obtain ⟨e, files, -, hfiles, -, hderived⟩ := module_self_contained (s := {}) parse_orderValue
    isValid_orderDocument Settings.wellFormed_default Settings.isWritable_default rfl rfl
  have hname : orderDocument.name ≠ "store" := by decide
  obtain ⟨hdeclares, hcontained⟩ := hderived rfl
  exact ⟨e, files, hfiles, hdeclares, hcontained.mpr fun h => hname h.1⟩

/-- A plural may be named like the service. -/
example : ¬ OwnApart { Names.ofName "order" with plural := "orderService" } [] :=
  fun h => h.plural (by decide)

end Scaffold
