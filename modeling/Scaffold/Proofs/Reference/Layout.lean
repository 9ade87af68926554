import Scaffold.Client.Layout
import Scaffold.Proofs.Field
import Scaffold.Proofs.Reference.Reading

/-!
# The layout with placeholders

What files declare is made of the forms of a name, and so are the imports of it: words make words
(`isWord_useService` and the like), and placeholders are filled with the layout of the name that
they stand for.
-/

namespace Scaffold

/-- What the files of an entity are written with: words for its own name, exact names for what it
relates to, and fields with identifiers for keys. -/
structure Entity.WellNamed (e : Entity) : Prop where
  names : e.names.AreWords
  path : Text.Unquoted e.names.path
  related : ∀ r ∈ e.related, ∃ target, Identifier.isExactEntityName target = true
    ∧ r = Names.ofName target
  keys : ∀ m ∈ e.mappings, Identifier.isIdentifier m.key = true
  mappings : ∀ m ∈ e.mappings, ∃ field : FieldSpec, m = field.mapping
    ∧ ∀ target, field.type.target? = some target → Names.ofName target ∈ e.related

/-- A related entity has an exact name. -/
theorem Entity.WellNamed.isExactEntityName_of_mem {e : Entity} (he : e.WellNamed) {target : String}
    (h : Names.ofName target ∈ e.related) : Identifier.isExactEntityName target = true := by
  obtain ⟨exact', hexact, heq⟩ := he.related _ h
  have hname : target = exact' := congrArg Names.name heq
  rwa [hname]

end Scaffold

namespace Scaffold.Client

open Text Reading

/-- The types with placeholders for some types. -/
structure EntityTypes.Fills (σ : Filling) (closed t : EntityTypes) : Prop where
  imported : closed.imported.map σ.text = t.imported
  received : σ.text closed.received = t.received
  created : σ.text closed.created = t.created
  updated : σ.text closed.updated = t.updated
  owner : σ.text closed.owner.name = t.owner.name

/-- The store of a related entity, as it is made in another file. -/
def storeInstance (r : Names) : String × String := (storeConst r, useStore r)

/-- What another file takes of the store of a related entity. -/
def storeFetch (r : Names) : String × String := (storeConst r, fetchAll r)

/-! ### Names that are declared -/

theorem areWords_related {e : Entity} (he : e.WellNamed) : ∀ r ∈ e.related, r.AreWords := by
  intro r hr
  obtain ⟨target, htarget, rfl⟩ := he.related r hr
  exact Names.areWords_ofName htarget

section

variable {n : Names} (hn : n.AreWords)

include hn

theorem isWord_createType : IsWord (createType n) :=
  .append (.append (.literal rfl) hn.capitalized) (.literal rfl)

theorem isWord_updateType : IsWord (updateType n) :=
  .append (.append (.literal rfl) hn.capitalized) (.literal rfl)

theorem isWord_useService : IsWord (useService n) :=
  .append (.append (.literal rfl) hn.capitalized) (.literal rfl)

theorem isWord_useStore : IsWord (useStore n) :=
  .append (.append (.literal rfl) hn.capitalized) (.literal rfl)

theorem isWord_of_mem_serviceMembers : ∀ m ∈ serviceMembers n, IsWord m := by
  unfold serviceMembers getAll getOne create update delete updateField
  simp only [List.forall_mem_cons, List.not_mem_nil, false_imp_iff, implies_true, and_true]
  exact ⟨.append (.literal rfl) hn.capitalizedPlural,
    .append (.append (.literal rfl) hn.capitalized) (.literal rfl),
    .append (.literal rfl) hn.capitalized, .append (.literal rfl) hn.capitalized,
    .append (.literal rfl) hn.capitalized, .literal rfl⟩

theorem isWord_of_mem_storeMembers : ∀ m ∈ storeMembers n, IsWord m := by
  unfold storeMembers current fetchAll fetchOne create update delete
  simp only [List.forall_mem_cons, List.not_mem_nil, false_imp_iff, implies_true, and_true]
  exact ⟨hn.plural, .append (.literal rfl) hn.capitalized, .literal rfl, .literal rfl,
    .append (.literal rfl) hn.capitalizedPlural,
    .append (.append (.literal rfl) hn.capitalized) (.literal rfl),
    .append (.literal rfl) hn.capitalized, .append (.literal rfl) hn.capitalized,
    .append (.literal rfl) hn.capitalized⟩

end

/-! ### Imports with placeholders -/

/-- A name in place of which another word is put. -/
def otherNames : Names := { Names.placeholders with name := otherPlaceholder }

/-- The types that services and stores are written against, with placeholders. -/
def closedTypes : List EntityTypes :=
  [.ofOwner .placeholders, .ofRelated otherNames .placeholders]

/-- A filling makes these types of some with placeholders. -/
def EntityTypes.IsFilledBy (t : EntityTypes) (σ : Filling) : Prop :=
  ∃ closed ∈ closedTypes, closed.Fills σ t

section

variable {σ : Filling} {n : Names} (hn : n.IsFilledBy σ)

include hn

theorem isFilledBy_ofOwner : (EntityTypes.ofOwner n).IsFilledBy σ := by
  refine ⟨_, List.mem_cons_self, ?_⟩
  constructor
  all_goals
    simp (disch := decide) [EntityTypes.ofOwner, createType, updateType, Filling.text_ascii,
      hn.name, hn.capitalized]

theorem isFilledBy_ofRelated {owner : Names} (howner : σ.text otherPlaceholder = owner.name) :
    (EntityTypes.ofRelated owner n).IsFilledBy σ := by
  refine ⟨_, .tail _ List.mem_cons_self, ?_⟩
  constructor
  all_goals
    simp (disch := decide) [EntityTypes.ofRelated, otherNames, Filling.text_ascii, hn.capitalized,
      howner]

theorem fill_storeImport {directory : String} (hdirectory : isAscii directory = true) :
    fillImport σ (storeImport directory .placeholders) = storeImport directory n := by
  simp (disch := first | assumption | decide) [storeImport, useStore, fillImport,
    Filling.text_ascii, hn.name, hn.capitalized]

theorem fill_serviceImport : fillImport σ (serviceImport .placeholders) = serviceImport n := by
  simp (disch := decide) [serviceImport, useService, fillImport, Filling.text_ascii, hn.name,
    hn.capitalized]

theorem fill_storeInstance : fillPair σ (storeInstance .placeholders) = storeInstance n := by
  simp (disch := decide) [storeInstance, storeConst, useStore, fillPair, Filling.text_ascii,
    hn.name, hn.capitalized]

theorem fill_storeFetch : fillPair σ (storeFetch .placeholders) = storeFetch n := by
  simp (disch := decide) [storeFetch, storeConst, fetchAll, fillPair, Filling.text_ascii, hn.name,
    hn.capitalizedPlural]

omit hn in
theorem EntityTypes.Fills.typeImport {closed t : EntityTypes} (ht : closed.Fills σ t) :
    fillImport σ closed.typeImport = t.typeImport := by
  simp (disch := decide) [EntityTypes.typeImport, interfaceImport, fillImport, Filling.text_ascii,
    ht.imported, ht.owner]

end

end Scaffold.Client
