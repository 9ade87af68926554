import Scaffold.Client.Service
import Scaffold.Proofs.Client.RelatedStores
import Scaffold.Proofs.Settings
import Scaffold.Proofs.Text.Constants

/-!
# Constants of stores and services

A store and a service are functions. The constants of a store are its state, its service, the stores
of related entities and its actions (`constants_storeText`); those of a service are the functions
that it consists of (`constants_serviceText`).
-/

namespace Scaffold.Client

open Identifier Text

/-! ### The constants of a store -/

/-- An action of which no more is declared than its name. -/
structure StoreAction.IsPlain (a : StoreAction) : Prop where
  name : IsInline a.name
  parameters : IsInline a.parameters
  body : ∀ line ∈ a.body, Silent line
  fallback : IsInline a.fallback
  onError : ∀ line ∈ a.onError, Silent line

theorem StoreAction.IsPlain.declared_lines {a : StoreAction} (h : a.IsPlain) :
    declared a.lines = [word a.name] := by
  have hopening : Declares a.name
      ("  const " ++ a.name ++ " = async (" ++ a.parameters ++ ") => \x7b") :=
    ((Declares.literal h.name rfl).append h.parameters).append (.literal rfl)
  have hbefore : ∀ line ∈ ["    loading.value = true", "    error.value = null", "    try \x7b"],
      Silent line := by
    simp only [List.forall_mem_cons, List.not_mem_nil, false_imp_iff, implies_true, and_true]
    exact ⟨.literal rfl, .literal rfl, .literal rfl⟩
  have hclosing : ∀ line ∈ a.closing, Silent line := by
    simp only [StoreAction.closing, List.forall_mem_append, List.forall_mem_cons, List.not_mem_nil,
      false_imp_iff, implies_true, and_true]
    exact ⟨⟨⟨.literal rfl, .append (.literal rfl) h.fallback⟩, h.onError⟩, .literal rfl,
      .literal rfl, .literal rfl, .literal rfl⟩
  rw [StoreAction.lines_eq, StoreAction.opening, declared_append, declared_append, declared_cons,
    hopening.filterMap_eq, declared_of_silent hbefore, declared_of_silent h.body,
    declared_of_silent hclosing]
  rfl

/-- Actions declare their names. -/
theorem declared_actions {actions : List StoreAction} (h : ∀ a ∈ actions, a.IsPlain) :
    declared (actions.flatMap fun a => a.lines ++ [""]) = (actions.map (·.name)).map word := by
  have hempty : declared [""] = [] := by decide
  refine declared_flatMap fun a ha => ?_
  rw [declared_append, (h a ha).declared_lines, hempty, List.append_nil]

section

variable {n : Names} {targets : List String}

/-- The constants that the function of a store is made of. -/
def storeConstants (n : Names) (related : List Names) : List String :=
  [n.plural, current n, "loading", "error", serviceConst n] ++ related.map storeConst
    ++ [fetchAll n, fetchOne n, create n, update n, delete n]

theorem silent_commaSeparated {lines : List String} (h : ∀ line ∈ lines, Silent line) :
    ∀ line ∈ commaSeparated lines, Silent line := by
  intro line hline
  obtain ⟨l, hl, rfl | rfl⟩ := mem_commaSeparated hline
  · exact h _ hl
  · exact (h l hl).append (.literal rfl)

theorem silent_fetchAllBody (hn : n.AreIdentifiers) {related : List Names}
    (hrelated : ∀ r ∈ related, r.AreIdentifiers) :
    ∀ line ∈ fetchAllBody n related, Silent line := by
  have hname := IsInline.of_isIdentifier hn.name
  have hplural := IsInline.of_isIdentifier hn.plural
  have hplurals := IsInline.of_isIdentifier hn.capitalizedPlural
  have hfetches : ∀ line ∈ related.map relatedFetch, Silent line := by
    refine List.forall_mem_map.mpr fun r hr => ?_
    have hname := IsInline.of_isIdentifier (hrelated r hr).name
    have hplurals := IsInline.of_isIdentifier (hrelated r hr).capitalizedPlural
    unfold relatedFetch storeConst fetchAll
    exact .of_parts rfl (by simp [hname, hplurals])
  unfold fetchAllBody serviceConst getAll
  split
  · exact silent_lines rfl (by simp [hname, hplural, hplurals])
  · refine List.forall_mem_append.mpr ⟨List.forall_mem_append.mpr
      ⟨silent_lines rfl (by simp [hname, hplural, hplurals]), silent_commaSeparated hfetches⟩, ?_⟩
    exact List.forall_mem_singleton.mpr (.literal rfl)

theorem silent_rethrow : ∀ line ∈ rethrow, Silent line := by
  rw [rethrow, List.forall_mem_singleton]
  exact .literal rfl

theorem silent_body_of_mem_storeActions (hn : n.AreIdentifiers) {related : List Names}
    (hrelated : ∀ r ∈ related, r.AreIdentifiers) :
    ∀ a ∈ storeActions n (.ofOwner n) related, ∀ line ∈ a.body, Silent line := by
  have hname := IsInline.of_isIdentifier hn.name
  have hcap := IsInline.of_isIdentifier hn.capitalized
  have hplural := IsInline.of_isIdentifier hn.plural
  rw [storeActions_eq, otherActions, storeActions, List.tail_cons]
  unfold current serviceConst getOne create update delete
  simp only [List.forall_mem_cons (a := StoreAction.mk ..), List.not_mem_nil, false_imp_iff,
    implies_true, and_true]
  refine ⟨silent_fetchAllBody hn hrelated, ?fetchOne, ?create, ?update, ?delete⟩
  all_goals exact silent_lines rfl (by simp [hname, hcap, hplural])

/-- The texts that the actions of a store are made of. -/
theorem isPlain_of_mem_storeActions (hn : n.AreIdentifiers) {related : List Names}
    (hrelated : ∀ r ∈ related, r.AreIdentifiers) :
    ∀ a ∈ storeActions n (.ofOwner n) related, a.IsPlain := by
  have hcap := IsInline.of_isIdentifier hn.capitalized
  have hname := IsInline.of_isIdentifier hn.name
  have hplurals := IsInline.of_isIdentifier hn.capitalizedPlural
  have hcurrent : IsInline (current n) := .append (.literal rfl) hcap
  have hfallback (text : String) : IsInline (Text.literal text) := isInline_quoted text
  have hcreated : IsInline (createType n) := .append (.append (.literal rfl) hcap) (.literal rfl)
  have hupdated : IsInline (updateType n) := .append (.append (.literal rfl) hcap) (.literal rfl)
  intro a ha
  have hbody := silent_body_of_mem_storeActions hn hrelated a ha
  rw [storeActions_eq, otherActions, storeActions, List.tail_cons] at ha
  simp only [List.mem_cons, List.not_mem_nil, or_false] at ha
  rcases ha with rfl | rfl | rfl | rfl | rfl
  · exact ⟨.append (.literal rfl) hplurals, .literal rfl, hbody, hfallback _, by simp [fetchAction]⟩
  · refine ⟨.append (.append (.literal rfl) hcap) (.literal rfl), .literal rfl, hbody,
      .append (.append (.literal rfl) hname) (.literal rfl), ?_⟩
    rw [List.forall_mem_singleton]
    exact .append (.append (.literal rfl) hcurrent) (.literal rfl)
  · exact ⟨.append (.literal rfl) hcap, .append (.literal rfl) hcreated, hbody, hfallback _,
      silent_rethrow⟩
  · exact ⟨.append (.literal rfl) hcap, .append (.literal rfl) hupdated, hbody, hfallback _,
      silent_rethrow⟩
  · exact ⟨.append (.literal rfl) hcap, .literal rfl, hbody, hfallback _, silent_rethrow⟩

theorem silent_storeHead (hn : n.AreIdentifiers) : ∀ line ∈ storeHead n, Silent line := by
  have hname := IsInline.of_isIdentifier hn.name
  have hcap := IsInline.of_isIdentifier hn.capitalized
  rw [storeHead, typeImport_line_eq, serviceImport_line_eq]
  unfold createType updateType useService
  exact silent_lines rfl (by simp [hname, hcap])

theorem silent_importLine {r : Names} (hr : r.AreIdentifiers) : Silent (importLine r) := by
  have hname := IsInline.of_isIdentifier hr.name
  have hcap := IsInline.of_isIdentifier hr.capitalized
  rw [importLine_eq]
  exact .of_parts rfl (by simp [hname, hcap])

theorem declares_instanceLine {r : Names} (hr : r.AreIdentifiers) :
    Declares (storeConst r) (instanceLine r) := by
  have hname : IsInline (storeConst r) :=
    .append (.of_isIdentifier hr.name) (.literal rfl)
  have hcap := IsInline.of_isIdentifier hr.capitalized
  exact ((Declares.literal hname rfl).append
    (.append (.append (.literal rfl) hcap) (.literal rfl))).append (.literal rfl)

/-- The state of a store, and what it uses. -/
theorem declared_storeState (hn : n.AreIdentifiers) {related : List Names}
    (hrelated : ∀ r ∈ related, r.AreIdentifiers) :
    declared (storeState n (.ofOwner n) related)
      = ([n.plural, current n, "loading", "error", serviceConst n] ++ related.map storeConst).map
        word := by
  have hplural := IsInline.of_isIdentifier hn.plural
  have hcap := IsInline.of_isIdentifier hn.capitalized
  have hcurrent : IsInline (current n) := .append (.literal rfl) hcap
  have hservice : IsInline (serviceConst n) :=
    .append (.of_isIdentifier hn.name) (.literal rfl)
  have huse : IsInline (useService n) := .append (.append (.literal rfl) hcap) (.literal rfl)
  have hentities : Declares n.plural
      ("  const " ++ n.plural ++ " = ref<" ++ n.capitalized ++ "[]>([])") :=
    ((Declares.literal hplural rfl).append hcap).append (.literal rfl)
  have hone : Declares (current n)
      ("  const " ++ current n ++ " = ref<" ++ n.capitalized ++ " | null>(null)") :=
    ((Declares.literal hcurrent rfl).append hcap).append (.literal rfl)
  have hfixed : declared ["  const loading = ref(false)",
      "  const error = ref<string | null>(null)", ""] = ["loading", "error"] := by decide
  have hinstance : Declares (serviceConst n)
      ("  const " ++ serviceConst n ++ " = " ++ useService n ++ "()") :=
    ((Declares.literal hservice rfl).append huse).append (.literal rfl)
  have hstores : declared (related.map instanceLine) = (related.map storeConst).map word := by
    rw [List.map_eq_flatMap]
    exact declared_flatMap fun r hr => (declares_instanceLine (hrelated r hr)).declared_eq
  -- every line of the state declares the constant before its equals sign
  have hsplit : storeState n (.ofOwner n) related
      = ["  const " ++ n.plural ++ " = ref<" ++ n.capitalized ++ "[]>([])"]
        ++ ["  const " ++ current n ++ " = ref<" ++ n.capitalized ++ " | null>(null)"]
        ++ ["  const loading = ref(false)", "  const error = ref<string | null>(null)", ""]
        ++ ["  const " ++ serviceConst n ++ " = " ++ useService n ++ "()"]
        ++ related.map instanceLine := rfl
  have hloading : word "loading" = "loading" ∧ word "error" = "error" := by decide
  simp only [hsplit, declared_append, hentities.declared_eq, hone.declared_eq, hfixed,
    hinstance.declared_eq, hstores]
  simp [hloading]

theorem silent_members {members : List String} (h : ∀ m ∈ members, IsInline m) :
    ∀ line ∈ commaSeparated (members.map ("    " ++ ·)), Silent line :=
  silent_commaSeparated (List.forall_mem_map.mpr fun m hm => .append (.literal rfl) (h m hm))

theorem isInline_of_mem_storeMembers (hn : n.AreIdentifiers) :
    ∀ m ∈ storeMembers n, IsInline m := by
  have hplural := IsInline.of_isIdentifier hn.plural
  have hcap := IsInline.of_isIdentifier hn.capitalized
  have hplurals := IsInline.of_isIdentifier hn.capitalizedPlural
  unfold storeMembers current fetchAll fetchOne create update delete
  exact isPiecewise_inline.lines rfl (by simp [hcap, hplural, hplurals])

/-- What the file with a store declares. -/
theorem constants_storeText (hn : n.AreIdentifiers) {related : List Names}
    (hrelated : ∀ r ∈ related, r.AreIdentifiers) :
    constants (storeText n related) = (storeConstants n related).map word := by
  have hname := IsInline.of_isIdentifier hn.name
  have hcap := IsInline.of_isIdentifier hn.capitalized
  have hlast : "\x7d)".toList.getLast? = some ')' := by decide
  have hclose : declared ["  \x7d", "\x7d)"] = [] := by decide
  have hreturn : declared ["  return \x7b"] = [] := by decide
  have hempty : declared [""] = [] := by decide
  have himports : ∀ line ∈ related.map importLine, Silent line :=
    List.forall_mem_map.mpr fun r hr => silent_importLine (hrelated r hr)
  have hopening : ∀ line ∈ ["", "export const " ++ useStore n ++ " = defineStore('" ++ n.name
      ++ "', () => \x7b"], Silent line := by
    unfold useStore
    exact silent_lines rfl (by simp [hname, hcap])
  -- the state and the heads of the actions declare; all other parts are silent
  have hsplit : storeLines n (.ofOwner n) related
      = (storeHead n ++ related.map importLine
        ++ ["", "export const " ++ useStore n ++ " = defineStore('" ++ n.name ++ "', () => \x7b"]
        ++ storeState n (.ofOwner n) related ++ [""]
        ++ (storeActions n (.ofOwner n) related).flatMap (fun a => a.lines ++ [""])
        ++ ["  return \x7b"] ++ commaSeparated ((storeMembers n).map ("    " ++ ·)) ++ ["  \x7d"])
        ++ ["\x7d)"] := by
    simp only [storeLines, storeImports, storeHead, List.map_cons, List.map_map, List.append_assoc,
      List.cons_append, List.nil_append]
    rfl
  rw [storeText, hsplit, constants_joinLines hlast (by decide), List.append_assoc _ ["  \x7d"]]
  simp only [declared_append, declared_of_silent (silent_storeHead hn),
    declared_of_silent himports, declared_of_silent hopening, declared_storeState hn hrelated,
    hempty, declared_actions (isPlain_of_mem_storeActions hn hrelated), hreturn,
    declared_of_silent (silent_members (isInline_of_mem_storeMembers hn)), List.singleton_append,
    hclose]
  simp [storeConstants, storeActions]

/-! ### The functions of a service -/

/-- A function of which no more is declared than its name. -/
structure ServiceFunction.IsPlain (f : ServiceFunction) : Prop where
  name : IsInline f.name
  parameters : IsInline f.parameters
  result : IsInline f.result
  body : ∀ line ∈ f.body, Silent line

theorem ServiceFunction.IsPlain.declared_lines {f : ServiceFunction} (h : f.IsPlain) :
    declared f.lines = [word f.name] := by
  have hopening : Declares f.name ("  const " ++ f.name ++ " = async (" ++ f.parameters
      ++ "): Promise<" ++ f.result ++ "> => \x7b") :=
    ((((Declares.literal h.name rfl).append h.parameters).append (.literal rfl)).append
      h.result).append (.literal rfl)
  have hclosing : declared ["  \x7d"] = [] := by decide
  rw [ServiceFunction.lines, declared_append, declared_append, hopening.declared_eq,
    declared_of_silent h.body, hclosing]
  rfl

/-- Functions declare their names. -/
theorem declared_functions {functions : List ServiceFunction} (h : ∀ f ∈ functions, f.IsPlain) :
    declared (functions.flatMap fun f => f.lines ++ [""]) = (functions.map (·.name)).map word := by
  have hempty : declared [""] = [] := by decide
  refine declared_flatMap fun f hf => ?_
  rw [declared_append, (h f hf).declared_lines, hempty, List.append_nil]

theorem silent_requestBody {request : String} (h : IsInline request) :
    ∀ line ∈ requestBody request, Silent line := by
  simp only [requestBody, List.forall_mem_cons, List.not_mem_nil, false_imp_iff, implies_true,
    and_true]
  exact ⟨.append (.literal rfl) h, .literal rfl⟩

theorem isPlain_of_mem_serviceFunctions (hn : n.AreIdentifiers) (hpath : IsInline n.path) :
    ∀ f ∈ serviceFunctions n (.ofOwner n), f.IsPlain := by
  have hcap := IsInline.of_isIdentifier hn.capitalized
  have hplurals := IsInline.of_isIdentifier hn.capitalizedPlural
  have hcreated : IsInline (createType n) := .append (.append (.literal rfl) hcap) (.literal rfl)
  have hupdated : IsInline (updateType n) := .append (.append (.literal rfl) hcap) (.literal rfl)
  have hrequest (front back : String) (hfront : IsInline front) (hback : IsInline back) :
      ∀ line ∈ requestBody (front ++ endpoint n ++ back), Silent line :=
    silent_requestBody (.append (.append hfront (.append (.literal rfl) hpath)) hback)
  have hitem (front back : String) (hfront : IsInline front) (hback : IsInline back) :
      ∀ line ∈ requestBody (front ++ itemEndpoint n ++ back), Silent line :=
    silent_requestBody (.append (.append hfront
      (.append (.append (.literal rfl) hpath) (.literal rfl))) hback)
  simp only [serviceFunctions, List.forall_mem_cons, List.not_mem_nil, false_imp_iff,
    implies_true, and_true]
  refine ⟨?getAll, ?getOne, ?create, ?update, ?delete, ?updateField⟩
  case getAll =>
    exact ⟨.append (.literal rfl) hplurals, .literal rfl, .append hcap (.literal rfl),
      hrequest _ _ (.literal rfl) (.literal rfl)⟩
  case getOne =>
    exact ⟨.append (.append (.literal rfl) hcap) (.literal rfl), .literal rfl, hcap,
      hitem _ _ (.literal rfl) (.literal rfl)⟩
  case create =>
    exact ⟨.append (.literal rfl) hcap, .append (.literal rfl) hcreated, hcap,
      hrequest _ _ (.literal rfl) (.literal rfl)⟩
  case update =>
    exact ⟨.append (.literal rfl) hcap, .append (.literal rfl) hupdated, hcap,
      hitem _ _ (.literal rfl) (.literal rfl)⟩
  case delete =>
    refine ⟨.append (.literal rfl) hcap, .literal rfl, .literal rfl, ?_⟩
    rw [List.forall_mem_singleton]
    exact .append (.append (.literal rfl) (.append (.append (.literal rfl) hpath) (.literal rfl)))
      (.literal rfl)
  case updateField =>
    refine ⟨.literal rfl, .literal rfl, hcap, ?_⟩
    simp only [List.forall_mem_append, List.forall_mem_cons, List.not_mem_nil, false_imp_iff,
      implies_true, and_true]
    exact ⟨⟨.literal rfl, .literal rfl, .literal rfl⟩, hitem _ _ (.literal rfl) (.literal rfl)⟩

theorem silent_serviceHead {s : Settings} (hs : s.WellFormed) (hn : n.AreIdentifiers) :
    ∀ line ∈ serviceHead s (.ofOwner n), Silent line := by
  have hname := IsInline.of_isIdentifier hn.name
  have hcap := IsInline.of_isIdentifier hn.capitalized
  have hvariable : IsInline s.apiUrlVariable :=
    isInline_of_notMem (notMem_of_matchesLine hs.apiUrlVariable (by decide) (by decide) (by decide))
  have hkey := isInline_quoted s.tokenKey
  rw [serviceHead, typeImport_line_eq]
  unfold createType updateType
  exact silent_lines rfl (by simp [hname, hcap, hvariable, hkey])

theorem isInline_of_mem_serviceMembers (hn : n.AreIdentifiers) :
    ∀ m ∈ serviceMembers n, IsInline m := by
  have hcap := IsInline.of_isIdentifier hn.capitalized
  have hplurals := IsInline.of_isIdentifier hn.capitalizedPlural
  unfold serviceMembers getAll getOne create update delete updateField
  exact isPiecewise_inline.lines rfl (by simp [hcap, hplurals])

/-- What the file with a service declares. -/
theorem constants_serviceText {s : Settings} (hs : s.WellFormed) (hn : n.AreIdentifiers)
    (hpath : IsInline n.path) :
    constants (serviceText s n) = (serviceMembers n).map word := by
  have hcap := IsInline.of_isIdentifier hn.capitalized
  have hlast : "\x7d".toList.getLast? = some '\x7d' := by decide
  have hclose : declared ["  \x7d", "\x7d"] = [] := by decide
  have hreturn : declared ["  return \x7b"] = [] := by decide
  have hopening : Silent ("export const " ++ useService n ++ " = () => \x7b") :=
    .append (.append (.literal rfl) (.append (.append (.literal rfl) hcap) (.literal rfl)))
      (.literal rfl)
  have hsplit : serviceLines s n (.ofOwner n)
      = (serviceHead s (.ofOwner n) ++ ["export const " ++ useService n ++ " = () => \x7b"]
        ++ (serviceFunctions n (.ofOwner n)).flatMap (fun f => f.lines ++ [""])
        ++ ["  return \x7b"] ++ commaSeparated ((serviceMembers n).map ("    " ++ ·))
        ++ ["  \x7d"]) ++ ["\x7d"] := by
    simp [serviceLines]
  rw [serviceText, hsplit, constants_joinLines hlast (by decide), List.append_assoc _ ["  \x7d"]]
  simp only [declared_append, declared_of_silent (silent_serviceHead hs hn),
    declared_of_silent (List.forall_mem_singleton.mpr hopening),
    declared_functions (isPlain_of_mem_serviceFunctions hn hpath), hreturn,
    declared_of_silent (silent_members (isInline_of_mem_serviceMembers hn)),
    List.singleton_append, hclose]
  simp [serviceMembers, serviceFunctions]

end

end Scaffold.Client
