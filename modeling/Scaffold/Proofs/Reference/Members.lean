import Scaffold.Proofs.Reference.Content
import Scaffold.Proofs.Reference.Script

/-!
# Members that are taken

A store and a view take members of services and of stores: only those that these return, if the
constants of the store that hold its plural and the current entity are named like none of them. All
other names in front of members end differently.
-/

namespace Scaffold

open Text Reading Client

/-! ### Names that end differently -/

theorem append_ne_append {ending ending' : String} (h : EndApart ending.toList ending'.toList)
    (front front' : String) : front ++ ending ≠ front' ++ ending' := by
  intro heq
  have hsuffix : ending.toList <:+ (front' ++ ending').toList := by
    rw [← heq, String.toList_append]
    exact List.suffix_append _ _
  rw [String.toList_append] at hsuffix
  exact h.not_suffix_append _ hsuffix

theorem ne_append {word ending : String} (h : ¬ ending.toList <:+ word.toList) (front : String) :
    word ≠ front ++ ending := by
  rintro rfl
  rw [String.toList_append] at h
  exact h (List.suffix_append _ _)

/-- Services are not named like stores. -/
theorem serviceConst_ne_storeConst (n r : Names) : serviceConst n ≠ storeConst r :=
  append_ne_append (by decide) n.name r.name

/-- Neither are the functions that make them. -/
theorem useService_ne_useStore (n r : Names) : useService n ≠ useStore r :=
  append_ne_append (by decide) ("use" ++ n.capitalized) ("use" ++ r.capitalized)

/-! ### Bounds -/

/-- A file is provided for when everything is that it may refer to. -/
theorem Artifact.IsProvidedFor.of_cites {files : List Artifact} {a : Artifact}
    {imports : List Import} {sources : List String}
    (hcites : ∀ line ∈ a.codeLines, Cites imports sources (tokens line))
    (himports : ∀ i ∈ imports, IsInModule i.source →
      ∃ b, Provides files a i.source b ∧ Satisfies a i b)
    (hsources : ∀ source ∈ sources, IsInModule source → ∃ b, Provides files a source b) :
    a.IsProvidedFor files where
  imports _ hi := himports _ (mem_of_mem_imports hcites hi)
  lazySources _ hsource := hsources _ (mem_of_mem_lazySources hcites hsource)

/-- Of what an imported function makes, only what is returned is taken. -/
theorem Satisfies.of_uses {a b : Artifact} {i : Import} {made taken : List (String × String)}
    (huses : ∀ line ∈ a.codeLines, Uses made taken (tokens line))
    (hexports : ∀ name ∈ i.names, name ∈ b.exports)
    (hreturned : ∀ p ∈ made, p.2 ∈ i.names → ∀ q ∈ taken, q.1 = p.1 → q.2 ∈ b.returned) :
    Satisfies a i b where
  exports := hexports
  returned _ p hp hname q hq := hreturned p (Artifact.mem_of_mem_made huses hp) hname q
    (Artifact.mem_of_mem_taken huses hq)

/-- Types are only exported. -/
theorem Satisfies.of_typesOnly {a b : Artifact} {i : Import} (htypes : i.typesOnly = true)
    (hexports : ∀ name ∈ i.names, name ∈ b.exports) : Satisfies a i b where
  exports := hexports
  returned h := by
    rw [htypes] at h
    cases h

/-! ### Members of services and stores -/

/-- All pairs with a name in front are pairs of the name and a member. -/
def OnlyMembers (name : String) (members : List String) (taken : List (String × String)) : Prop :=
  ∀ q ∈ taken, q.1 = name → q.2 ∈ members

section

variable {name : String} {members : List String}

theorem onlyMembers_append {taken others : List (String × String)} :
    OnlyMembers name members (taken ++ others)
      ↔ OnlyMembers name members taken ∧ OnlyMembers name members others :=
  List.forall_mem_append

theorem onlyMembers_map_members (other : String) (members' : List String)
    (h : other = name → members' = members) :
    OnlyMembers name members (members'.map (other, ·)) := by
  refine List.forall_mem_map.mpr fun m hm heq => ?_
  rwa [← h heq]

theorem onlyMembers_of_ne {taken : List (String × String)} (h : ∀ q ∈ taken, q.1 ≠ name) :
    OnlyMembers name members taken :=
  fun q hq heq => absurd heq (h q hq)

end

section

variable {n : Names} {front ending : String} (hending : ending ∈ ["Service", "Store"])
  {members : List String} (hmembers : serviceConst n = front ++ ending → serviceMembers n = members)

include hending hmembers

/-- What a store takes of its service, that returns, and it takes nothing of the stores that it
makes, if its own constants are not named like these. -/
theorem onlyMembers_storeTaken (hplural : n.plural ≠ front ++ ending)
    (hcurrent : current n ≠ front ++ ending) :
    OnlyMembers (front ++ ending) members (storeTaken n) := by
  have hcommon : ∀ ending ∈ ["Service", "Store"], ∀ q ∈ commonTaken,
      ¬ ending.toList <:+ q.1.toList := by decide
  unfold storeTaken
  rw [onlyMembers_append, onlyMembers_append]
  refine ⟨⟨onlyMembers_map_members _ _ hmembers, onlyMembers_of_ne ?_⟩,
    onlyMembers_of_ne fun q hq => ne_append (hcommon ending hending q hq) front⟩
  simp only [List.forall_mem_cons, List.not_mem_nil, false_imp_iff, implies_true, and_true]
  exact ⟨hplural, hcurrent⟩

/-- So does a view. -/
theorem onlyMembers_viewTaken : OnlyMembers (front ++ ending) members (View.viewTaken n) := by
  have hshared : ∀ ending ∈ ["Service", "Store"], ∀ q ∈ View.sharedTaken,
      ¬ ending.toList <:+ q.1.toList := by decide
  have hown : ∀ ending ∈ ["Service", "Store"], EndApart "Modal".toList ending.toList
      ∧ EndApart "Form".toList ending.toList := by decide
  unfold View.viewTaken
  rw [onlyMembers_append, onlyMembers_append]
  refine ⟨⟨onlyMembers_map_members _ _ hmembers, onlyMembers_of_ne ?_⟩,
    onlyMembers_of_ne fun q hq => ne_append (hshared ending hending q hq) front⟩
  simp only [List.forall_mem_cons, List.not_mem_nil, false_imp_iff, implies_true, and_true]
  exact ⟨append_ne_append (hown ending hending).1 n.name front,
    append_ne_append (hown ending hending).2 n.name front⟩

omit hmembers in
/-- What is taken for fields is taken of other things. -/
theorem onlyMembers_keyTaken (n : Names) (keys : List String) :
    OnlyMembers (front ++ ending) members (keys.flatMap fun key => View.keyTaken n (word key)) := by
  have hown : ∀ ending ∈ ["Service", "Store"], EndApart "Form".toList ending.toList
      ∧ ¬ ending.toList <:+ "value".toList ∧ ¬ ending.toList <:+ "data".toList := by decide
  obtain ⟨hform, hvalue, hdata⟩ := hown ending hending
  refine onlyMembers_of_ne fun q hq => ?_
  obtain ⟨key, -, hq⟩ := List.mem_flatMap.mp hq
  simp only [View.keyTaken, List.mem_cons, List.not_mem_nil, or_false] at hq
  rcases hq with rfl | rfl | rfl
  · exact append_ne_append hform n.name front
  · exact ne_append hvalue front
  · exact ne_append hdata front

end

/-- A derived plural is named like no service and no store: it has no capital letter. -/
theorem pluralize_ne_append {name ending : String} (h : Identifier.isExactEntityName name = true)
    (hending : 'S' ∈ ending.toList) (front : String) : pluralize name ≠ front ++ ending := by
  intro heq
  have hmem : 'S' ∈ (pluralize name).toList := by simp [heq, hending]
  exact absurd (Identifier.isNamePart_of_mem (isExactEntityName_pluralize h) hmem)
    (by decide)

theorem current_ne_serviceConst {name : String} (h : Identifier.isExactEntityName name = true) :
    current (.ofName name) ≠ serviceConst (.ofName name) := by
  intro heq
  have hcurrent : Identifier.isExactEntityName "current" = true := by decide
  have hparts : "current" ++ Text.capitalize name = name ++ "Service" := heq
  have hrest : "Service".toList = 'S' :: "ervice".toList := rfl
  rw [append_capitalize_eq_iff hcurrent h h hrest (by decide)] at hparts
  obtain ⟨rfl, hcap⟩ := hparts
  exact absurd hcap (by decide)

/-! ### Stores of related entities -/

section

variable {e : Entity} (he : e.WellNamed)

/-- Of the stores of related entities nothing is taken that is named like a service. -/
theorem onlyMembers_stores_service (n : Names) (related : List Names) {members : List String}
    (f : Names → String) :
    OnlyMembers (serviceConst n) members (related.map fun r => (storeConst r, f r)) :=
  onlyMembers_of_ne <| List.forall_mem_map.mpr fun r _ => (serviceConst_ne_storeConst n r).symm

include he

theorem eq_of_name_eq {r r' : Names} (hr : r ∈ e.related) (hr' : r' ∈ e.related)
    (h : r.name = r'.name) : r = r' := by
  obtain ⟨target, -, rfl⟩ := he.related r hr
  obtain ⟨target', -, rfl⟩ := he.related r' hr'
  exact congrArg Names.ofName h

theorem eq_of_capitalized_eq {r r' : Names} (hr : r ∈ e.related) (hr' : r' ∈ e.related)
    (h : r.capitalized = r'.capitalized) : r = r' := by
  obtain ⟨target, htarget, rfl⟩ := he.related r hr
  obtain ⟨target', htarget', rfl⟩ := he.related r' hr'
  exact congrArg Names.ofName (capitalize_injective htarget htarget' h)

variable {related : List Names} (hsubset : related ⊆ e.related) {r : Names} (hr : r ∈ related)

include hsubset hr

/-- Of the store of a related entity, the members are taken that it returns. -/
theorem onlyMembers_stores {f : Names → String} (hf : f r ∈ storeMembers r) :
    OnlyMembers (storeConst r) (storeMembers r) (related.map fun r => (storeConst r, f r)) := by
  refine List.forall_mem_map.mpr fun r' hr' heq => ?_
  have hname : r'.name = r.name := (String.append_left_inj _).mp heq
  rwa [eq_of_name_eq he (hsubset hr') (hsubset hr) hname]

/-- The function of a related store makes only the constant for that. -/
theorem eq_storeConst_of_mem {p : String × String} (hp : p ∈ related.map storeInstance)
    (h : p.2 = useStore r) : p.1 = storeConst r := by
  obtain ⟨r', hr', rfl⟩ := List.mem_map.mp hp
  have hcap : "use" ++ r'.capitalized = "use" ++ r.capitalized := (String.append_left_inj _).mp h
  rw [eq_of_capitalized_eq he (hsubset hr') (hsubset hr) ((String.append_right_inj _).mp hcap)]
  rfl

end

end Scaffold
