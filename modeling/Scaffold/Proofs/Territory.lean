import Scaffold.Proofs.Modules
import Scaffold.Proofs.Pool

/-!
# Where documents are written at the same time

Modules of different entities are apart, as long as the two roots are equal or apart themselves
(`Exporter.eq_of_modulePlace_above`). So the artifacts of documents with different entities have a
`Territory` of places (`Exporter.territory_targets`): file names have dots in them and directories
have none, so that no artifact is above another one, and no name begins with a dot but those of
temporary files.
-/

namespace Scaffold

open FileTree

/-- The roots of the two sides are equal, or neither is above the other. -/
def Settings.HasApartRoots (s : Settings) : Prop :=
  (s.root .frontend).names = (s.root .backend).names
    ∨ Place.Apart (s.root .frontend).names (s.root .backend).names

instance (s : Settings) : Decidable s.HasApartRoots := inferInstanceAs (Decidable (_ ∨ _))

theorem Settings.HasApartRoots.eq_of_prefix {s : Settings} (h : s.HasApartRoots) {side side' : Side}
    {below : Place} (habove : (s.root side).names <+: below)
    (habove' : (s.root side').names <+: below) : (s.root side).names = (s.root side').names := by
  rcases h with heq | ⟨hfirst, hsecond⟩
  · cases side <;> cases side' <;> simp [heq]
  · have hrelated := List.prefix_or_prefix_of_prefix habove habove'
    cases side <;> cases side' <;> first | rfl | exact absurd hrelated (by simp [hfirst, hsecond])

namespace Address

variable {a b : Address}

theorem dot_mem_fileName (a : Address) : '.' ∈ a.fileName.toList := by
  simp

theorem dot_notMem_of_mem_directories {name : String} (h : name ∈ directories) :
    '.' ∉ name.toList := by
  revert name
  decide

theorem isTooLong_of_mem_directories {name : String} (h : name ∈ directories) :
    isTooLong name = false := by
  revert name
  decide

/-- The name of a temporary file begins with a dot. -/
theorem temporaryName_notMem_names (ha : a.IsPlain) (hknown : a.HasKnownDirectory) (name : String)
    (k : Nat) : temporaryName name k ∉ a.names := by
  have hdot : ∃ rest, (temporaryName name k).toList = '.' :: rest := by
    simp [temporaryName]
  obtain ⟨rest, hrest⟩ := hdot
  intro hmem
  rcases List.mem_append.mp hmem with hdirectory | hfile
  · have hknown' := hknown _ (by simpa using hdirectory)
    exact dot_notMem_of_mem_directories hknown' (by simp [hrest])
  · rw [List.mem_singleton] at hfile
    rw [hfile] at hrest
    have hstem := (eq_of_toList_fileName ha List.not_mem_nil hrest).1
    exact ha.stem_ne (String.toList_eq_nil_iff.mp hstem)

/-- No address leads through a file. -/
theorem names_eq_of_prefix (hknown : b.HasKnownDirectory) (h : a.names <+: b.names) :
    a.names = b.names := by
  refine h.eq_of_length ?_
  have hlength := h.length_le
  cases ha : a.directory with
  | some name =>
    have hlength' : a.names.length = 2 := by simp [names, ha]
    have hb := b.length_names
    omega
  | none =>
    cases hb : b.directory with
    | none => simp [names, ha, hb]
    | some name =>
      -- the file would have the name of the directory
      simp only [names, ha, hb] at h
      obtain ⟨rfl, -⟩ : a.fileName = name ∧ _ := List.cons_prefix_cons.mp h
      exact absurd a.dot_mem_fileName (dot_notMem_of_mem_directories (hknown _ hb))

end Address

namespace Exporter

variable {x : Exporter} {entity entity' : String} {artifacts artifacts' : List Artifact}

/-- No module is in another one, or in one of another entity. -/
theorem eq_of_modulePlace_above (hroots : x.settings.HasApartRoots)
    (hentity : isPlainName entity = true) (hentity' : isPlainName entity' = true)
    {side side' : Side} {p : Place} (h : x.modulePlace entity side <+: p)
    (h' : x.modulePlace entity' side' <+: p) :
    entity = entity' ∧ x.modulePlace entity side = x.modulePlace entity' side' := by
  rw [modulePlace_eq hentity] at h ⊢
  rw [modulePlace_eq hentity'] at h' ⊢
  rw [List.append_assoc] at h h' ⊢
  rw [List.append_assoc]
  obtain ⟨rest, rfl⟩ := (List.prefix_append x.output _).trans h
  rw [List.prefix_append_right_inj] at h h'
  have hroot := hroots.eq_of_prefix ((List.prefix_append _ _).trans h)
    ((List.prefix_append _ _).trans h')
  rw [hroot] at h ⊢
  have hmodule := List.prefix_of_prefix_length_le h h' (by simp)
  rw [List.prefix_append_right_inj, List.cons_prefix_cons] at hmodule
  obtain ⟨rfl, -⟩ := hmodule
  exact ⟨rfl, rfl⟩

/-- One place is not above that of another artifact, whatever document that one is of. -/
theorem InModules.target_eq_of_above (hroots : x.settings.HasApartRoots)
    (h : x.InModules entity artifacts) (h' : x.InModules entity' artifacts') {a b : Artifact}
    (ha : a ∈ artifacts) (hb : b ∈ artifacts') (hab : x.target entity a <+: x.target entity' b) :
    x.target entity a = x.target entity' b := by
  obtain ⟨address, -, -, htarget⟩ := h.addressed a ha
  obtain ⟨address', -, hknown, htarget'⟩ := h'.addressed b hb
  rw [htarget, htarget'] at hab ⊢
  obtain ⟨-, hmodule⟩ := eq_of_modulePlace_above hroots h.named h'.named
    ((List.prefix_append _ _).trans hab) (List.prefix_append _ _)
  rw [hmodule, List.prefix_append_right_inj] at hab
  rw [hmodule, Address.names_eq_of_prefix hknown hab]

/-- No temporary file is on the way to an artifact, whatever document that one is of. -/
theorem InModules.not_prefix_of_temporary (hroots : x.settings.HasApartRoots)
    (h : x.InModules entity artifacts) (h' : x.InModules entity' artifacts') {a b : Artifact}
    (ha : a ∈ artifacts) (hb : b ∈ artifacts') (name : String) (k : Nat) :
    ¬(x.target entity a).parent ++ [temporaryName name k] <+: x.target entity' b := by
  obtain ⟨address', hplain, hknown, htarget'⟩ := h'.addressed b hb
  obtain ⟨rest, hrest⟩ := h.modulePlace_prefix_parent ha
  rw [htarget', ← hrest, List.append_assoc]
  intro habove
  obtain ⟨-, hmodule⟩ := eq_of_modulePlace_above hroots h.named h'.named
    ((List.prefix_append _ _).trans habove) (List.prefix_append _ _)
  rw [hmodule, List.prefix_append_right_inj] at habove
  exact Address.temporaryName_notMem_names hplain hknown name k (habove.subset (by simp))

/-- Artifacts go up nowhere, and their directories have short names, where that is so of the
modules. -/
theorem InModules.isShort_parent (h : x.InModules entity artifacts) {a : Artifact}
    (ha : a ∈ artifacts) (hshort : (x.modulePlace entity a.side).IsShort) :
    ".." ∉ x.target entity a ∧ (x.target entity a).parent.IsShort := by
  obtain ⟨address, hplain, hknown, htarget⟩ := h.addressed a ha
  have hdots : ".." ∉ x.target entity a := by
    rw [htarget, List.mem_append, not_or]
    exact ⟨hshort.dots, fun hname =>
      ne_dots_of_isPlainName (Address.isPlainName_of_mem_names hplain _ hname) rfl⟩
  have hparent : (x.target entity a).parent
      = x.modulePlace entity a.side ++ address.directory.toList := by
    rw [htarget, Address.names, ← List.append_assoc, Place.parent, List.dropLast_concat]
  refine ⟨hdots, notMem_parent hdots, ?_⟩
  rw [hparent]
  refine List.forall_mem_append.mpr ⟨hshort.names, fun name hname => ?_⟩
  exact Address.isTooLong_of_mem_directories (hknown name (by simpa using hname))

/-- The artifacts of other entities are written neither at a module, nor above or below it. -/
theorem InModules.aside (hroots : x.settings.HasApartRoots) (hentity : isPlainName entity = true)
    (h' : x.InModules entity' artifacts') (hne : entity ≠ entity') {b : Artifact}
    (hb : b ∈ artifacts') (side : Side) : ¬x.modulePlace entity side <+: x.target entity' b
      ∧ ¬(x.target entity' b).parent <+: x.modulePlace entity side := by
  have hmodule := h'.modulePlace_prefix_parent hb
  constructor
  · intro h
    exact hne (eq_of_modulePlace_above hroots hentity h'.named h
      (hmodule.trans (Place.parent_prefix _))).1
  · intro h
    exact hne (eq_of_modulePlace_above hroots hentity h'.named (List.prefix_refl _)
      (hmodule.trans h)).1

/-- The artifacts of documents can be written at the same time. -/
theorem territory_targets (documents : List (String × List Artifact))
    (hroots : x.settings.HasApartRoots) (hmodules : ∀ d ∈ documents, x.InModules d.1 d.2)
    (hshort : ∀ d ∈ documents, ∀ side, (x.modulePlace d.1 side).IsShort) :
    Territory (documents.flatMap fun d => d.2.map (x.target d.1)) := by
  have htargets : ∀ q ∈ documents.flatMap fun d => d.2.map (x.target d.1),
      ∃ d ∈ documents, ∃ a ∈ d.2, x.target d.1 a = q := fun q hq => by
    obtain ⟨d, hd, hq⟩ := List.mem_flatMap.mp hq
    exact ⟨d, hd, List.mem_map.mp hq⟩
  refine ⟨fun p hp => ?_, fun p hp => ?_, fun p hp => ?_, fun p hp q hq => ?_, fun p hp q hq => ?_⟩
    <;> obtain ⟨d, hd, a, ha, rfl⟩ := htargets p hp
  · intro hnil
    have hmodule := ((hmodules d hd).modulePlace_prefix_parent ha).length_le
    rw [hnil, modulePlace_eq (hmodules d hd).named] at hmodule
    simp [Place.parent] at hmodule
  · exact ((hmodules d hd).isShort_parent ha (hshort d hd _)).1
  · exact ((hmodules d hd).isShort_parent ha (hshort d hd _)).2
  · obtain ⟨d', hd', b, hb, rfl⟩ := htargets q hq
    exact (hmodules d hd).target_eq_of_above hroots (hmodules d' hd') ha hb
  · obtain ⟨d', hd', b, hb, rfl⟩ := htargets q hq
    exact fun k => (hmodules d hd).not_prefix_of_temporary hroots (hmodules d' hd') ha hb _ k

end Exporter

end Scaffold
