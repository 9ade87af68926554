import Mathlib.Data.List.Nodup
import Scaffold.Client.Store
import Scaffold.Proofs.Names
import Scaffold.Proofs.Text.FileLines

/-!
# Related entities in the store

The store of an entity imports the store of every related entity, makes an instance of it, and
fetches its entities together with its own. `storeLines_eq` takes the file apart at these three
places.
-/

namespace Scaffold.Client

open Identifier Text

/-! ### The parts of the file -/

/-- The import of the store of a related entity. -/
def importLine (r : Names) : String := (storeImport "./" r).line

/-- The instance of the store of a related entity. -/
def instanceLine (r : Names) : String := "  const " ++ storeConst r ++ " = " ++ useStore r ++ "()"

/-- What stands in front of the imports of related stores. -/
def storeHead (n : Names) : List String :=
  ["import \x7b defineStore \x7d from 'pinia'", "import \x7b ref \x7d from 'vue'",
    (EntityTypes.ofOwner n).typeImport.line, (serviceImport n).line]

/-- What stands between the imports and the instances of related stores. -/
def storeMiddle (n : Names) : List String :=
  ["", "export const " ++ useStore n ++ " = defineStore('" ++ n.name ++ "', () => \x7b"]
    ++ storeState n (.ofOwner n) []

/-- The lines of an action in front of its body. -/
def StoreAction.opening (a : StoreAction) : List String :=
  ["  const " ++ a.name ++ " = async (" ++ a.parameters ++ ") => \x7b",
    "    loading.value = true",
    "    error.value = null",
    "    try \x7b"]

/-- The lines of an action behind its body. -/
def StoreAction.closing (a : StoreAction) : List String :=
  ["    \x7d catch (e) \x7b",
      "      error.value = e instanceof Error ? e.message : " ++ a.fallback]
    ++ a.onError
    ++ ["    \x7d finally \x7b",
      "      loading.value = false",
      "    \x7d",
      "  \x7d"]

theorem StoreAction.lines_eq (a : StoreAction) : a.lines = a.opening ++ a.body ++ a.closing := by
  simp only [StoreAction.lines, opening, closing, List.append_assoc]

/-- The action that fetches everything, without its body. -/
def fetchAction (n : Names) : StoreAction where
  name := fetchAll n
  parameters := ""
  body := []
  fallback := Text.literal ("Failed to fetch " ++ n.plural)
  onError := []

/-- The other actions. -/
def otherActions (n : Names) : List StoreAction :=
  (storeActions n (.ofOwner n) []).tail

/-- What stands behind the body of the action that fetches everything, but the last line. -/
def storeTail (n : Names) : List String :=
  (fetchAction n).closing ++ [""] ++ (otherActions n).flatMap (fun a => a.lines ++ [""])
    ++ ["  return \x7b"] ++ commaSeparated ((storeMembers n).map ("    " ++ ·)) ++ ["  \x7d"]

theorem storeActions_eq (n : Names) (related : List Names) :
    storeActions n (.ofOwner n) related
      = { fetchAction n with body := fetchAllBody n related } :: otherActions n := by
  rfl

theorem storeLines_eq (n : Names) (related : List Names) :
    storeLines n (.ofOwner n) related
      = (storeHead n ++ related.map importLine ++ storeMiddle n ++ related.map instanceLine ++ [""]
        ++ (fetchAction n).opening ++ fetchAllBody n related ++ storeTail n) ++ ["\x7d)"] := by
  simp only [storeLines, storeActions_eq, storeImports, storeState, storeHead, storeMiddle,
    storeTail, List.flatMap_cons, StoreAction.lines_eq, List.map_cons, List.map_map,
    List.map_nil, List.append_assoc, List.cons_append, List.nil_append]
  rfl

/-! ### How the other lines end -/

/-- The endings `.store'` and `Store()` of the lines that the store of an entity has for related
entities, and the ending `Promise.all([` of the line that joins their requests. -/
def relatedEndings : List (List Char) :=
  [['.', 's', 't', 'o', 'r', 'e', '\''], ['S', 't', 'o', 'r', 'e', '(', ')'],
    ['P', 'r', 'o', 'm', 'i', 's', 'e', '.', 'a', 'l', 'l', '(', '[']]

/-- A line that ends in a message. -/
theorem avoids_message {front message : String} (hfront : IsTame front) (htame : IsTame message)
    (hdot : '.' ∉ message.toList) (hparen : '(' ∉ message.toList) (hblank : ' ' ∈ message.toList) :
    Avoids relatedEndings (front ++ message) where
  tame := hfront.append htame
  not_suffix ending hending := by
    -- an ending has a dot or a parenthesis in it, which the message has not, and no blank
    have hending : ('.' ∈ ending ∨ '(' ∈ ending) ∧ ' ' ∉ ending := by
      revert ending
      decide
    rw [String.toList_append]
    apply EndApart.not_suffix_append
    rcases hending.1 with hmem | hmem
    · exact .of_mem hmem hdot hblank hending.2
    · exact .of_mem hmem hparen hblank hending.2

/-- What stands neither in a text nor in an identifier stands not in the literal of the two. -/
theorem notMem_literal {text name : String} {c : Char} (hname : isIdentifier name = true)
    (htext : c ∉ text.toList) (hpart : isPart c = false) (hescape : c ∉ ['\n', '\'', '\\', 'n']) :
    c ∉ (Text.literal (text ++ name)).toList := by
  intro hmem
  rw [List.mem_cons, not_or] at hescape
  rcases (mem_of_mem_literal hmem).2 with h | h
  · rw [String.toList_append] at h
    rcases List.mem_append.mp h with h | h
    · exact htext h
    · exact notMem_of_isIdentifier hname hpart hescape.1 h
  · exact hescape.2 h

/-- The literal of a message with an identifier in it. -/
theorem avoids_literal {front text name : String} (hfront : IsTame front)
    (hname : isIdentifier name = true)
    (h : (!text.toList.contains '.' && !text.toList.contains '('
      && text.toList.contains ' ') = true) :
    Avoids relatedEndings (front ++ Text.literal (text ++ name)) := by
  have htext : ('.' ∉ text.toList ∧ '(' ∉ text.toList) ∧ ' ' ∈ text.toList := by
    simpa using h
  have htame : IsTame (Text.literal (text ++ name)) :=
    isTame_of_notMem fun h => (mem_of_mem_literal h).1 rfl
  have hblank' : ' ' ∈ (text ++ name).toList := by
    rw [String.toList_append]
    exact List.mem_append_left _ htext.2
  exact avoids_message hfront htame (notMem_literal hname htext.1.1 rfl (by decide))
    (notMem_literal hname htext.1.2 rfl (by decide)) (mem_literal hblank' (by decide))

section Actions

variable {a : StoreAction}

theorem avoids_opening (hname : IsTame a.name) (hparameters : IsTame a.parameters) :
    ∀ line ∈ a.opening, Avoids relatedEndings line := by
  simp only [StoreAction.opening, List.forall_mem_cons, List.not_mem_nil,
    false_imp_iff, implies_true, and_true]
  refine ⟨.append_literal ?_ rfl, .literal rfl, .literal rfl, .literal rfl⟩
  exact .append (.append (.append (.literal rfl) hname) (.literal rfl)) hparameters

theorem avoids_closing (hfallback : Avoids relatedEndings
      ("      error.value = e instanceof Error ? e.message : " ++ a.fallback))
    (honError : ∀ line ∈ a.onError, Avoids relatedEndings line) :
    ∀ line ∈ a.closing, Avoids relatedEndings line := by
  simp only [StoreAction.closing, List.forall_mem_append, List.forall_mem_cons, List.not_mem_nil,
    false_imp_iff, implies_true, and_true]
  exact ⟨⟨⟨.literal rfl, hfallback⟩, honError⟩, .literal rfl, .literal rfl, .literal rfl,
    .literal rfl⟩

theorem avoids_actionLines (hname : IsTame a.name) (hparameters : IsTame a.parameters)
    (hbody : ∀ line ∈ a.body, Avoids relatedEndings line)
    (hfallback : Avoids relatedEndings
      ("      error.value = e instanceof Error ? e.message : " ++ a.fallback))
    (honError : ∀ line ∈ a.onError, Avoids relatedEndings line) :
    ∀ line ∈ a.lines, Avoids relatedEndings line := by
  rw [StoreAction.lines_eq]
  exact List.forall_mem_append.mpr ⟨List.forall_mem_append.mpr
    ⟨avoids_opening hname hparameters, hbody⟩, avoids_closing hfallback honError⟩

end Actions

section

variable {n : Names}

theorem avoids_rethrow : ∀ line ∈ rethrow, Avoids relatedEndings line := by
  rw [rethrow, List.forall_mem_singleton]
  exact .literal rfl

/-- No line of the other actions is one for related entities. -/
theorem avoids_otherActions (hn : n.AreIdentifiers) :
    ∀ a ∈ otherActions n, ∀ line ∈ a.lines, Avoids relatedEndings line := by
  have hname := IsTame.of_isIdentifier hn.name
  have hcap := IsTame.of_isIdentifier hn.capitalized
  -- an identifier has no mark in it, and each of the endings has one
  simp only [otherActions, storeActions, List.tail_cons, List.forall_mem_cons, List.not_mem_nil,
    false_imp_iff, implies_true, and_true]
  refine ⟨?fetchOne, ?create, ?update, ?delete⟩
  case fetchOne =>
    have hdot : '.' ∉ n.name.toList := notMem_of_isIdentifier hn.name (by decide) (by decide)
    have hparen : '(' ∉ n.name.toList := notMem_of_isIdentifier hn.name (by decide) (by decide)
    apply avoids_actionLines
    case hbody =>
      unfold current serviceConst getOne
      exact avoids_lines rfl (by simp [hn.name, hn.capitalized])
    case hfallback =>
      refine avoids_message (.literal rfl) ?_ (by simp [hdot]) (by simp [hparen]) (by simp)
      exact .append (.append (.literal rfl) hname) (.literal rfl)
    case honError =>
      rw [List.forall_mem_singleton]
      exact .append_literal (.append (.literal rfl) (.append (.literal rfl) hcap)) rfl
    case hname => exact .append (.append (.literal rfl) hcap) (.literal rfl)
    case hparameters => exact .literal rfl
  case create =>
    apply avoids_actionLines
    case hbody =>
      unfold serviceConst create
      exact avoids_lines rfl (by simp [hn.name, hn.capitalized, hn.plural])
    case hfallback => exact avoids_literal (.literal rfl) hn.name rfl
    case honError => exact avoids_rethrow
    case hname => exact .append (.literal rfl) hcap
    case hparameters =>
      exact .append (.literal rfl) (.append (.append (.literal rfl) hcap) (.literal rfl))
  case update =>
    apply avoids_actionLines
    case hbody =>
      unfold serviceConst current update
      exact avoids_lines rfl (by simp [hn.name, hn.capitalized, hn.plural])
    case hfallback => exact avoids_literal (.literal rfl) hn.name rfl
    case honError => exact avoids_rethrow
    case hname => exact .append (.literal rfl) hcap
    case hparameters =>
      exact .append (.literal rfl) (.append (.append (.literal rfl) hcap) (.literal rfl))
  case delete =>
    apply avoids_actionLines
    case hbody =>
      unfold serviceConst current delete
      exact avoids_lines rfl (by simp [hn.name, hn.capitalized, hn.plural])
    case hfallback => exact avoids_literal (.literal rfl) hn.name rfl
    case honError => exact avoids_rethrow
    case hname => exact .append (.literal rfl) hcap
    case hparameters => exact .literal rfl

theorem typeImport_line_eq (n : Names) :
    (EntityTypes.ofOwner n).typeImport.line
      = "import type \x7b " ++ n.capitalized ++ ", " ++ createType n ++ ", " ++ updateType n
        ++ " \x7d from '../interfaces/" ++ n.name ++ ".interface'" := by
  simp [EntityTypes.typeImport, EntityTypes.ofOwner, interfaceImport, Import.line,
    ← String.toList_inj]

theorem serviceImport_line_eq (n : Names) :
    (serviceImport n).line
      = "import \x7b " ++ useService n ++ " \x7d from '../services/" ++ n.name ++ ".service'" := by
  simp [serviceImport, Import.line, ← String.toList_inj]

theorem avoids_storeHead (hn : n.AreIdentifiers) :
    ∀ line ∈ storeHead n, Avoids relatedEndings line := by
  rw [storeHead, typeImport_line_eq, serviceImport_line_eq]
  unfold createType updateType useService
  exact avoids_lines rfl (by simp [hn.name, hn.capitalized])

theorem avoids_storeMiddle (hn : n.AreIdentifiers) :
    ∀ line ∈ storeMiddle n, Avoids relatedEndings line := by
  rw [storeMiddle, storeState, List.map_nil, List.append_nil]
  unfold EntityTypes.ofOwner current serviceConst useStore useService
  exact avoids_lines rfl (by simp [hn.name, hn.capitalized, hn.plural])

theorem avoids_fetchOpening (hn : n.AreIdentifiers) :
    ∀ line ∈ (fetchAction n).opening, Avoids relatedEndings line := by
  refine avoids_opening (.append (.literal rfl) (.of_isIdentifier hn.capitalizedPlural)) ?_
  show IsTame ""
  exact .literal rfl

theorem avoids_storeMembers (hn : n.AreIdentifiers) :
    ∀ line ∈ commaSeparated ((storeMembers n).map ("    " ++ ·)), Avoids relatedEndings line := by
  unfold storeMembers current fetchAll fetchOne create update delete
  simp only [List.map_cons, List.map_nil, commaSeparated]
  exact avoids_lines rfl (by simp [hn.capitalized, hn.plural, hn.capitalizedPlural])

theorem avoids_storeTail (hn : n.AreIdentifiers) :
    ∀ line ∈ storeTail n, Avoids relatedEndings line := by
  unfold storeTail
  simp only [List.forall_mem_append, List.forall_mem_singleton]
  refine ⟨⟨⟨⟨⟨?_, .literal rfl⟩, ?_⟩, .literal rfl⟩, avoids_storeMembers hn⟩, .literal rfl⟩
  · exact avoids_closing (avoids_literal (.literal rfl) hn.plural rfl) (by simp [fetchAction])
  · intro line hline
    obtain ⟨a, ha, hline⟩ := List.mem_flatMap.mp hline
    rcases List.mem_append.mp hline with hline | hline
    · exact avoids_otherActions hn a ha line hline
    · rw [List.mem_singleton.mp hline]
      exact .literal rfl

/-! ### The body of the action that fetches everything -/

/-- The line that joins the requests of all stores. -/
def joinLine : String := "      await Promise.all(["

/-- The line behind the joined requests. -/
def joinEnd : String := "      ])"

/-- The request of the entity itself among the joined ones. -/
def ownRequest (n : Names) : List String :=
  ["        " ++ serviceConst n ++ "." ++ getAll n ++ "().then(data => \x7b",
    "          " ++ n.plural ++ ".value = data",
    "        \x7d),"]

theorem fetchAllBody_of_ne_nil {related : List Names} (h : related ≠ []) :
    fetchAllBody n related
      = [joinLine] ++ (ownRequest n ++ commaSeparated (related.map relatedFetch)) ++ [joinEnd] := by
  unfold fetchAllBody
  rw [if_neg (by simpa using h)]
  rfl

/-- The endings of requests, `()` and `(),`, and of the line behind them, `])`. -/
def requestEndings : List (List Char) := [['(', ')'], ['(', ')', ','], [']', ')']]

theorem avoids_ownRequest (hn : n.AreIdentifiers) :
    ∀ line ∈ ownRequest n, Avoids (relatedEndings ++ requestEndings) line := by
  unfold ownRequest serviceConst getAll
  exact avoids_lines rfl (by simp [hn.name, hn.plural, hn.capitalizedPlural])

/-- Without related entities nothing is joined. -/
theorem avoids_fetchAllBody_nil (hn : n.AreIdentifiers) :
    ∀ line ∈ fetchAllBody n [],
      Avoids [['P', 'r', 'o', 'm', 'i', 's', 'e', '.', 'a', 'l', 'l', '(', '[']] line := by
  unfold fetchAllBody serviceConst getAll
  rw [if_pos List.isEmpty_nil]
  exact avoids_lines rfl (by simp [hn.name, hn.plural, hn.capitalizedPlural])

end

end Scaffold.Client
