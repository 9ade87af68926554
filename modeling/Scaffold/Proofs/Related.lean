import Scaffold.Proofs.Client.Interface
import Scaffold.Proofs.Client.RelatedStores
import Scaffold.Proofs.Placement

/-!
# Related entities

The entities that a document refers to are listed by two readings of its schema: their names come
from the descriptors themselves, the mappings from the types of the fields. The listings agree, and
so do the files: `assemble_relates` follows the distinct targets of the fields through the entity,
its interfaces, its store, and the services and stores of its related entities.
-/

namespace Scaffold

open Text

/-- An entity and its files have these related entities, in this order. -/
structure Entity.Relates (e : Entity) (files : List Artifact) (targets : List String) : Prop where
  related : e.related = targets.map Names.ofName
  /-- A mapping has a related entity when its type has a target, and it is one of them. -/
  mappings : ∀ m ∈ e.mappings, m.related = m.type.target?.map Names.ofName
    ∧ ∀ n ∈ m.related, n ∈ e.related
  /-- Behind all other files there are a service and a store for each. -/
  behind : ∃ others later, files = others ++ later
    ∧ later.map (fun a => (a.side, a.path)) = targets.flatMap fun r =>
      [(.frontend, "services/" ++ r ++ ".service.ts"), (.frontend, "stores/" ++ r ++ ".store.ts")]
  /-- No path is there twice. -/
  paths : (files.map (·.path)).Nodup
  /-- The interfaces of the entity declare each of them on one line. -/
  interfaces : ∃ content,
    ⟨.frontend, "interfaces/" ++ e.names.name ++ ".interface.ts", content⟩ ∈ files
      ∧ ∀ r ∈ targets, (splitOn '\n' content).count
        ("export interface " ++ Text.capitalize r ++ " \x7b") = 1
  /-- The store of the entity imports, makes and fetches each of them once. -/
  store : ∃ content, ⟨.frontend, "stores/" ++ e.names.name ++ ".store.ts", content⟩ ∈ files
    ∧ Client.UsesStores targets content

namespace Entity

section

variable {d : Document} {fields : List FieldSpec} {s : Settings}

/-- The related entity of a mapping is one of the entity's. -/
theorem mem_related_of_mem_mappings
    (hfields : List.Forall₂ (Reads d) d.schema.entries fields) {m : FieldMapping}
    (hm : m ∈ (ofFields d fields).mappings) :
    m.related = m.type.target?.map Names.ofName
      ∧ ∀ n ∈ m.related, n ∈ (ofFields d fields).related := by
  obtain ⟨field, hfield, rfl⟩ := List.mem_map.mp hm
  rw [FieldSpec.related_mapping, FieldSpec.type_mapping]
  refine ⟨rfl, fun n hn => ?_⟩
  obtain ⟨target, htarget, rfl⟩ := Option.map_eq_some_iff.mp hn
  exact List.mem_map.mpr ⟨target, mem_targets_of_mem hfields hfield htarget, rfl⟩

/-- The entity of a well-formed document and its files have the targets of its fields. -/
theorem relates_ofFields (hd : d.WellFormed) (hname : Identifier.isExactEntityName d.name = true)
    (hfields : List.Forall₂ (Reads d) d.schema.entries fields)
    (hfrontend : s.generateFrontend = true) :
    (ofFields d fields).Relates ((ofFields d fields).artifacts s) d.targets where
  related := rfl
  mappings _ hm := mem_related_of_mem_mappings hfields hm
  behind := by
    obtain ⟨others, hothers⟩ := exists_artifacts_eq hfrontend (ofFields d fields)
    refine ⟨others, _, hothers, ?_⟩
    rw [List.map_flatMap, ofFields, List.flatMap_map]
    rfl
  paths := by
    have hplain := isPlain_of_mem_addresses (s := s) (Document.areIdentifiers_names hd hname)
      (areIdentifiers_related hd fields)
    rw [map_path_artifacts]
    exact Address.nodup_path hplain (nodup_fileNames_ofFields hd hname fields s)
  interfaces := by
    refine ⟨Client.interfaceText (ofFields d fields), ?_, fun r hr => ?_⟩
    · exact mem_artifacts_of_mem_clientFiles hfrontend
        (by simp [clientFiles, clientFilesWith, Client.interfacePath])
    · exact Client.count_interfaceHeader hd hname hfields hr
  store := by
    refine ⟨Client.storeText d.names (d.targets.map Names.ofName), ?_, ?_⟩
    · exact mem_artifacts_of_mem_clientFiles hfrontend
        (by simp [clientFiles, clientFilesWith, Client.storePath, ofFields])
    · exact Client.usesStores_storeText (Document.areIdentifiers_names hd hname)
        (fun r hr => Document.isExactEntityName_of_mem_targets hd hr) d.nodup_targets

end

end Entity

/-- With a client side, the entity of an accepted document and its files have the distinct targets
of its fields, in the order in which the schema first refers to them. -/
theorem assemble_relates {v : Value} {d : Document} {s : Settings}
    (hparse : Document.parse v = .ok d) (hvalid : d.findings.isValid = true)
    (hwritable : s.IsWritable) (hfrontend : s.generateFrontend = true) :
    ∃ e files, Entity.ofAccepted d = .ok e ∧ assemble v s = .ok files
      ∧ List.Forall₂ (Entity.Reads d) d.schema.entries e.fields
      ∧ e.Relates files (e.fields.filterMap (·.type.target?)).eraseDups := by
  obtain ⟨hd, fields, hfields, he, hfiles⟩ := exists_assemble_eq_ok hparse hvalid
  refine ⟨_, _, he, hfiles s hwritable, hfields, ?_⟩
  show (Entity.ofFields d fields).Relates _ (fields.filterMap (·.type.target?)).eraseDups
  rw [← Entity.filterMap_target? hfields]
  exact Entity.relates_ofFields hd (Document.isExactEntityName_of_parse hparse) hfields hfrontend

/-- Orders relate to customers and products, although products are written in two ways. -/
theorem orders_relate :
    ∃ (e : Entity) (files : List Artifact),
      assemble orderValue {} = .ok files ∧ e.Relates files ["customer", "product"] := by
  obtain ⟨e, files, -, hfiles, hfields, hrelates⟩ :=
    assemble_relates (s := {}) parse_orderValue isValid_orderDocument Settings.isWritable_default
      rfl
  have htargets : (e.fields.filterMap (·.type.target?)).eraseDups = ["customer", "product"] := by
    rw [← Entity.filterMap_target? hfields]
    exact targets_orderDocument
  exact ⟨e, files, hfiles, htargets ▸ hrelates⟩

end Scaffold
