import Scaffold.Proofs.Placement
import Scaffold.Proofs.Reference.Closed

/-!
# Where sources lead

A source in a file of a module goes along plain names, after it has gone up once or stayed where it
is. So it leads to the file of the address that it is written for (`target?_beside`, `target?_here`,
`target?_below`).
-/

namespace Scaffold

open Text

/-! ### Along a path -/

/-- Plain names lead down. -/
theorem follow_plain {names : List String} (h : ∀ name ∈ names, isPlainName name = true)
    (directory : List String) : follow directory names = some (directory ++ names) := by
  induction names generalizing directory with
  | nil => rw [follow, List.append_nil]
  | cons name rest ih =>
    obtain ⟨-, hdot, hup, -⟩ := isPlainName_iff.mp (h name List.mem_cons_self)
    rw [follow, if_neg hdot, if_neg hup, ih fun n hn => h n (List.mem_cons_of_mem _ hn),
      List.append_assoc, List.singleton_append]

/-- The extension is left out of a source that ends in anything but that of a component. -/
theorem completed_append (front : String) {back : String}
    (h : EndApart ".vue".toList back.toList) :
    completed (front ++ back) = front ++ back ++ ".ts" := by
  refine if_neg ?_
  rw [String.toList_append]
  exact h.not_suffix_append _

/-! ### Addresses -/

namespace Address

theorem splitOn_path {a : Address} (h : a.IsPlain) : splitOn '/' a.path = a.names := by
  refine (splitOn_intercalate a.names_ne_nil).trans (flatMap_splitOn_of_notMem fun name hname => ?_)
  exact (isPlainName_iff.mp (isPlainName_of_mem_names h name hname)).2.2.2

/-- What stands in front of a path with a slash leads its names. -/
theorem splitOn_append_path {a : Address} (h : a.IsPlain) {front : String}
    (hfront : '/' ∉ front.toList) : splitOn '/' (front ++ "/" ++ a.path) = front :: a.names := by
  rw [show "/" = String.singleton '/' from rfl, splitOn_append, splitOn_of_notMem hfront,
    splitOn_path h, List.singleton_append]

/-- The directory that a file is in. -/
@[simp] theorem dropLast_names (a : Address) : a.names.dropLast = a.directory.toList := by
  rw [names, List.dropLast_concat]

end Address

section

variable {a b : Address} (ha : a.IsPlain) (hb : b.IsPlain) {source : String}

include ha hb

/-- From a directory, a source that goes up once leads to the file of any address. -/
theorem target?_beside (hdirectory : a.directory ≠ none)
    (hsource : completed source = ".." ++ "/" ++ b.path) :
    target? a.path source = some b.path := by
  obtain ⟨directory, hdirectory⟩ := Option.ne_none_iff_exists'.mp hdirectory
  have hfollow : follow a.directory.toList (".." :: b.names) = some b.names := by
    rw [hdirectory, Option.toList_some, follow, if_neg (by decide), if_pos rfl,
      if_neg (List.cons_ne_nil directory [])]
    exact follow_plain (Address.isPlainName_of_mem_names hb) []
  rw [target?, Address.splitOn_path ha, Address.dropLast_names, hsource,
    Address.splitOn_append_path hb (by decide), hfollow]
  rfl

/-- Without a directory, a source that stays leads to the file of any address. -/
theorem target?_below (hdirectory : a.directory = none)
    (hsource : completed source = "." ++ "/" ++ b.path) :
    target? a.path source = some b.path := by
  have hfollow : follow a.directory.toList ("." :: b.names) = some b.names := by
    rw [hdirectory, follow, if_pos rfl]
    exact follow_plain (Address.isPlainName_of_mem_names hb) []
  rw [target?, Address.splitOn_path ha, Address.dropLast_names, hsource,
    Address.splitOn_append_path hb (by decide), hfollow]
  rfl

/-- A source that stays leads to the files of the same directory. -/
theorem target?_here (hdirectory : a.directory = b.directory)
    (hsource : completed source = "." ++ "/" ++ b.fileName) :
    target? a.path source = some b.path := by
  have hname := Address.isPlainName_fileName hb
  have hsplit : splitOn '/' (completed source) = [".", b.fileName] := by
    have hslash := (isPlainName_iff.mp hname).2.2.2
    rw [hsource, show "/" = String.singleton '/' from rfl, splitOn_append,
      splitOn_of_notMem hslash, splitOn_of_notMem (by decide), List.singleton_append]
  have hfollow : follow a.directory.toList [".", b.fileName] = some b.names := by
    rw [follow, if_pos rfl, follow_plain (by simpa using hname), hdirectory]
    rfl
  rw [target?, Address.splitOn_path ha, Address.dropLast_names, hsplit, hfollow]
  rfl

end

/-! ### Sources of a module -/

namespace Client

section

variable {a : Address} (ha : a.IsPlain) {n : Names} (hn : n.AreIdentifiers)

include ha hn

/-- From a directory, the types of an entity are found among the interfaces. -/
theorem target?_interface (hdirectory : a.directory ≠ none) (types : List String) :
    target? a.path (interfaceImport n types).source = some (interfacePath n) := by
  rw [← Entity.path_interfacePath]
  refine target?_beside ha (Entity.isPlain_of_stem (by decide) hn.name (by decide)) hdirectory ?_
  rw [Entity.path_interfacePath, interfaceImport, interfacePath, completed_append _ (by decide)]
  simp [← String.toList_inj]

/-- The service is found among the services. -/
theorem target?_service (hdirectory : a.directory ≠ none) :
    target? a.path (serviceImport n).source = some (servicePath n) := by
  rw [← Entity.path_servicePath]
  refine target?_beside ha (Entity.isPlain_of_stem (by decide) hn.name (by decide)) hdirectory ?_
  rw [Entity.path_servicePath, serviceImport, servicePath, completed_append _ (by decide)]
  simp [← String.toList_inj]

/-- The store is found among the stores. -/
theorem target?_store (hdirectory : a.directory ≠ none) :
    target? a.path (storeImport "../stores/" n).source = some (storePath n) := by
  rw [← Entity.path_storePath]
  refine target?_beside ha (Entity.isPlain_of_stem (by decide) hn.name (by decide)) hdirectory ?_
  rw [Entity.path_storePath, storeImport, storePath, completed_append _ (by decide)]
  simp [← String.toList_inj]

/-- One store is found beside another. -/
theorem target?_otherStore (hdirectory : a.directory = some "stores") :
    target? a.path (storeImport "./" n).source = some (storePath n) := by
  rw [← Entity.path_storePath]
  refine target?_here ha (Entity.isPlain_of_stem (by decide) hn.name (by decide)) hdirectory ?_
  rw [storeImport, completed_append _ (by decide)]
  simp [← String.toList_inj, Address.fileName]

/-- A view is found below the file that registers it. -/
theorem target?_view (hdirectory : a.directory = none) (theme : ThemeName) :
    target? a.path ("./" ++ viewPath theme n) = some (viewPath theme n) := by
  have hcompleted : completed ("./" ++ viewPath theme n) = "./" ++ viewPath theme n := by
    refine if_pos ?_
    simp only [viewPath, String.toList_append, ← List.append_assoc]
    exact List.suffix_append _ _
  rw [← Entity.path_viewPath] at hcompleted ⊢
  refine target?_below ha (Entity.isPlain_viewAddress hn theme) hdirectory ?_
  rw [hcompleted, show "./" = "." ++ "/" from rfl]

end

end Client

end Scaffold
