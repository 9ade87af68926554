import Scaffold.Client.Service
import Scaffold.Proofs.Client.RelatedStores
import Scaffold.Proofs.Settings
import Scaffold.Proofs.Text.Unbroken

/-!
# The requests of a service

A service sends all its requests to one resource: `requests` reads the addresses out of the file
again. An address is the first template of its line. A path may end in a line feed; then the address
is read up to it.
-/

namespace Scaffold.Client

open Identifier Text

/-! ### Reading -/

/-- The character that stands around a template. -/
def tick : Char := '\x60'

/-- What an address begins with. -/
def addressStart : List Char :=
  ['$', '\x7b', 'A', 'P', 'I', '_', 'U', 'R', 'L', '\x7d', '/']

/-- What the address of one entity ends with. -/
def addressEnd : List Char := ['/', '$', '\x7b', 'i', 'd', '\x7d']

/-- The path of a resource without what leads on to one entity. -/
def resourceOf (path : List Char) : List Char :=
  if addressEnd <:+ path then path.take (path.length - addressEnd.length) else path

/-- The path of the resource to which a line sends a request. -/
def request? (line : String) : Option String :=
  match line.toList.splitOn tick with
  | _ :: address :: _ =>
    if addressStart <+: address then
      some (String.ofList (resourceOf (address.drop addressStart.length)))
    else none
  | _ => none

/-- The paths to which the functions of a service send their requests. -/
def requests (content : String) : List String :=
  (splitOn '\n' content).filterMap request?

/-- The paths to which rendered lines send requests. -/
def requested (lines : List String) : List String :=
  (lines.flatMap (splitOn '\n')).filterMap request?

@[simp] theorem requested_append (lines others : List String) :
    requested (lines ++ others) = requested lines ++ requested others := by
  rw [requested, List.flatMap_append, List.filterMap_append, requested, requested]

/-! ### Lines without templates -/

/-- A text that no template begins in. -/
def Unticked (s : String) : Prop := tick ∉ s.toList

instance (s : String) : Decidable (Unticked s) :=
  inferInstanceAs (Decidable (tick ∉ s.toList))

theorem isPiecewise_unticked : IsPiecewise (fun cs => !cs.contains tick) Unticked :=
  isPiecewise_notMem tick

theorem Unticked.append {s t : String} (hs : Unticked s) (ht : Unticked t) : Unticked (s ++ t) :=
  isPiecewise_unticked.append hs ht

theorem Unticked.literal {cs : List Char} (h : (!cs.contains tick) = true) :
    Unticked (String.ofList cs) :=
  isPiecewise_unticked.literal h

theorem unticked_empty : Unticked "" := by decide

theorem Unticked.of_isIdentifier {s : String} (h : isIdentifier s = true) : Unticked s :=
  notMem_of_isIdentifier h (by decide) (by decide)

theorem Unticked.intercalate {sep : String} (hsep : Unticked sep) {parts : List String}
    (h : ∀ part ∈ parts, Unticked part) : Unticked (sep.intercalate parts) :=
  intercalate_of_append unticked_empty Unticked.append hsep h

theorem request?_of_notMem {line : String} (h : tick ∉ line.toList) : request? line = none := by
  rw [request?, List.splitOn_eq_singleton h]

/-- A template that begins with another character is no address. -/
theorem request?_of_append {line : String} {front rest : List Char} {c : Char}
    (hline : line.toList = front ++ tick :: c :: rest) (hfront : tick ∉ front) (hc : c ≠ tick)
    (hdollar : c ≠ '$') : request? line = none := by
  have hstart : ∀ tail, ¬ addressStart <+: c :: tail :=
    fun tail h => hdollar (List.cons_prefix_cons.mp h).1.symm
  rw [request?, hline, List.splitOn_append_cons_self, List.splitOn_eq_singleton hfront,
    List.splitOn_cons_eq_if_modifyHead, if_neg (by simpa using hc)]
  cases rest.splitOn tick with
  | nil => rfl
  | cons first others => simp [hstart]

/-- Lines without templates send no requests. -/
theorem requested_of_unticked {lines : List String} (h : ∀ line ∈ lines, Unticked line) :
    requested lines = [] := by
  rw [requested, List.filterMap_eq_nil_iff]
  intro part hpart
  obtain ⟨line, hline, hpart⟩ := List.mem_flatMap.mp hpart
  rw [splitOn] at hpart
  obtain ⟨cs, hcs, rfl⟩ := List.mem_map.mp hpart
  apply request?_of_notMem
  rw [String.toList_ofList]
  intro htick
  obtain ⟨before, after, hsplit, -⟩ := mem_splitOn hcs
  refine h line hline ?_
  rw [hsplit]
  exact List.mem_append_left _ (List.mem_append_right _ htick)

/-- A file sends the requests that its rendered lines send. -/
theorem requests_joinLines {lines : List String} {last : String} {c : Char}
    (hlast : last.toList.getLast? = some c) (hc : c ≠ '\n') :
    requests (joinLines (lines ++ [last])) = requested (lines ++ [last]) := by
  have hempty : [""].filterMap request? = [] := by decide
  rw [requests, splitOn_joinLines hlast hc, List.filterMap_append, hempty, List.append_nil,
    requested, List.flatMap_append, List.flatMap_singleton]

/-! ### Lines that send requests -/

/-- The path that an address is read as: what stands in front of a line feed. -/
def firstLine (s : String) : String := String.ofList (s.toList.takeWhile (· != '\n'))

/-- A path that can be read out of an address. -/
def IsAddressable (path : String) : Prop :=
  ∃ name : List Char, tick ∉ name ∧ '\x7b' ∉ name ∧ '\n' ∉ name
    ∧ (path.toList = name ∨ path.toList = name ++ ['\n'])

/-- A rendered line that sends a request to a path. -/
def Sends (path line : String) : Prop :=
  ∃ front item back, line.toList = front ++ tick :: (addressStart ++ path.toList ++ item
      ++ tick :: back)
    ∧ tick ∉ front ∧ '\n' ∉ front ∧ (item = [] ∨ item = addressEnd)
    ∧ tick ∉ back ∧ '\n' ∉ back ∧ '$' ∉ back

theorem resourceOf_append {name item : List Char} (hname : '\x7b' ∉ name)
    (hitem : item = [] ∨ item = addressEnd) : resourceOf (name ++ item) = name := by
  rcases hitem with rfl | rfl
  · have hend : ¬ addressEnd <:+ name := fun h => hname (h.subset (by decide))
    rw [List.append_nil, resourceOf, if_neg hend]
  · rw [resourceOf, if_pos (List.suffix_append _ _)]
    simp

theorem request?_of_address {line : String} {front name item back : List Char}
    (hline : line.toList = front ++ tick :: (addressStart ++ name ++ item ++ back))
    (hfront : tick ∉ front) (htick : tick ∉ name) (hbrace : '\x7b' ∉ name)
    (hitem : item = [] ∨ item = addressEnd) (hback : back = [] ∨ ∃ rest, back = tick :: rest) :
    request? line = some (String.ofList name) := by
  have haddress : tick ∉ addressStart ++ name ++ item := by
    have hstart : tick ∉ addressStart := by decide
    have hend : tick ∉ item := by
      rcases hitem with rfl | rfl
      · exact List.not_mem_nil
      · decide
    simp only [List.mem_append, not_or]
    exact ⟨⟨hstart, htick⟩, hend⟩
  have hsplit : ∃ others, (addressStart ++ name ++ item ++ back).splitOn tick
      = (addressStart ++ name ++ item) :: others := by
    rcases hback with rfl | ⟨rest, rfl⟩
    · exact ⟨[], by rw [List.append_nil, List.splitOn_eq_singleton haddress]⟩
    · refine ⟨rest.splitOn tick, ?_⟩
      rw [List.splitOn_append_cons_self, List.splitOn_eq_singleton haddress, List.singleton_append]
  -- the second part between ticks is the address, whatever stands behind it
  obtain ⟨others, hothers⟩ := hsplit
  have hparts : line.toList.splitOn tick = front :: (addressStart ++ name ++ item) :: others := by
    rw [hline, List.splitOn_append_cons_self, List.splitOn_eq_singleton hfront, hothers,
      List.singleton_append]
  have hstart : addressStart <+: addressStart ++ name ++ item := by
    rw [List.append_assoc]
    exact List.prefix_append _ _
  rw [request?, hparts]
  simp only [if_pos hstart]
  rw [List.append_assoc, List.drop_left, resourceOf_append hbrace hitem]

theorem firstLine_eq {path : String} {name : List Char} (hbreak : '\n' ∉ name)
    (hpath : path.toList = name ∨ path.toList = name ++ ['\n']) :
    firstLine path = String.ofList name := by
  have hchars : ∀ c ∈ name, (c != '\n') = true := fun c hc =>
    bne_iff_ne.mpr fun heq => hbreak (heq ▸ hc)
  have hrest : ∃ rest, path.toList = name ++ rest ∧ rest.takeWhile (· != '\n') = [] := by
    rcases hpath with h | h
    · exact ⟨[], by rw [h, List.append_nil], rfl⟩
    · exact ⟨['\n'], h, rfl⟩
  obtain ⟨rest, hrest, hempty⟩ := hrest
  rw [firstLine, hrest, List.takeWhile_append_of_pos hchars, hempty, List.append_nil]

/-- A rendered line that sends a request sends it to its path, wherever the path breaks it. -/
theorem Sends.requested_eq {path line : String} (hpath : IsAddressable path)
    (h : Sends path line) : requested [line] = [firstLine path] := by
  obtain ⟨name, htick, hbrace, hbreak, hname⟩ := hpath
  obtain ⟨front, item, back, hline, hfront, hfrontBreak, hitem, hback, hbackBreak, hdollar⟩ := h
  have hitemBreak : '\n' ∉ item := by
    rcases hitem with rfl | rfl
    · exact List.not_mem_nil
    · decide
  have hstartBreak : '\n' ∉ addressStart := by decide
  have htickBreak : '\n' ≠ tick := by decide
  rw [requested, List.flatMap_singleton, firstLine_eq hbreak hname]
  rcases hname with hname | hname <;> rw [hname] at hline
  · have hwhole : '\n' ∉ line.toList := by
      rw [hline]
      simp [hfrontBreak, hstartBreak, hbreak, hitemBreak, hbackBreak, htickBreak]
    rw [splitOn_of_notMem hwhole, List.filterMap_cons,
      request?_of_address hline hfront htick hbrace hitem (.inr ⟨back, rfl⟩)]
    rfl
  · -- the address ends with the line, and the next line begins in its template
    have hsplit : line = String.ofList (front ++ tick :: (addressStart ++ name))
        ++ String.singleton '\n' ++ String.ofList (item ++ tick :: back) := by
      rw [← String.toList_inj, hline]
      simp
    have hfirst : '\n' ∉ front ++ tick :: (addressStart ++ name) := by
      simp [hfrontBreak, hstartBreak, hbreak, htickBreak]
    have hsecond : '\n' ∉ item ++ tick :: back := by
      simp [hitemBreak, hbackBreak, htickBreak]
    have hrequest : request? (String.ofList (front ++ tick :: (addressStart ++ name)))
        = some (String.ofList name) := by
      have hline' : (String.ofList (front ++ tick :: (addressStart ++ name))).toList
          = front ++ tick :: (addressStart ++ name ++ [] ++ []) := by simp
      exact request?_of_address hline' hfront htick hbrace (.inl rfl) (.inl rfl)
    have hnone : request? (String.ofList (item ++ tick :: back)) = none := by
      have hitemTick : tick ∉ item := by
        rcases hitem with rfl | rfl
        · exact List.not_mem_nil
        · decide
      have hstart : ¬ addressStart <+: back := fun h => hdollar (h.subset (by decide))
      rw [request?, String.toList_ofList, List.splitOn_append_cons_self,
        List.splitOn_eq_singleton hitemTick, List.splitOn_eq_singleton hback]
      simp [hstart]
    rw [hsplit, splitOn_append, splitOn_of_notMem (by simpa using hfirst),
      splitOn_of_notMem (by simpa using hsecond), List.singleton_append, List.filterMap_cons,
      hrequest, List.filterMap_cons, hnone]
    rfl

theorem Sends.intro {path line : String} (front back : List Char) {item : List Char}
    (hline : line.toList = front ++ tick :: (addressStart ++ path.toList ++ item ++ tick :: back))
    (hitem : item = [] ∨ item = addressEnd)
    (h : (!front.contains tick && !front.contains '\n'
      && (!back.contains tick && !back.contains '\n' && !back.contains '$')) = true) :
    Sends path line := by
  simp only [Bool.and_eq_true, Bool.not_eq_true', List.contains_eq_mem, decide_eq_false_iff_not]
    at h
  exact ⟨front, item, back, hline, h.1.1, h.1.2, hitem, h.2.1.1, h.2.1.2, h.2.2⟩

/-! ### Services -/

/-- The texts that a service is written against begin no template. -/
structure EntityTypes.IsUnticked (t : EntityTypes) : Prop where
  imported : ∀ type ∈ t.imported, Unticked type
  received : Unticked t.received
  created : Unticked t.created
  updated : Unticked t.updated
  owner : Unticked t.owner.name

section

variable {s : Settings} {n : Names} {t : EntityTypes}

theorem unticked_ofOwner (hn : n.AreIdentifiers) : (EntityTypes.ofOwner n).IsUnticked := by
  have hcap := Unticked.of_isIdentifier hn.capitalized
  have hcreate : Unticked (createType n) := .append (.append (.literal rfl) hcap) (.literal rfl)
  have hupdate : Unticked (updateType n) := .append (.append (.literal rfl) hcap) (.literal rfl)
  refine ⟨?_, hcap, hcreate, hupdate, .of_isIdentifier hn.name⟩
  simp only [EntityTypes.ofOwner, List.forall_mem_cons, List.not_mem_nil, false_imp_iff,
    implies_true, and_true]
  exact ⟨hcap, hcreate, hupdate⟩

theorem unticked_ofRelated {owner : Names} (howner : owner.AreIdentifiers)
    (hn : n.AreIdentifiers) : (EntityTypes.ofRelated owner n).IsUnticked := by
  have hcap := Unticked.of_isIdentifier hn.capitalized
  have hpartial : Unticked ("Partial<" ++ n.capitalized ++ ">") :=
    .append (.append (.literal rfl) hcap) (.literal rfl)
  refine ⟨?_, hcap, hpartial, hpartial, .of_isIdentifier howner.name⟩
  simp only [EntityTypes.ofRelated, List.forall_mem_singleton]
  exact hcap

/-- A function sends the requests that its body sends. -/
theorem ServiceFunction.requested_lines {f : ServiceFunction} {paths : List String}
    (hname : Unticked f.name) (hparameters : Unticked f.parameters) (hresult : Unticked f.result)
    (hbody : requested f.body = paths) : requested f.lines = paths := by
  have hopening : Unticked ("  const " ++ f.name ++ " = async (" ++ f.parameters
      ++ "): Promise<" ++ f.result ++ "> => \x7b") :=
    isPiecewise_unticked.text rfl (by simp [hname, hparameters, hresult])
  have hclosing : Unticked "  \x7d" := .literal rfl
  rw [ServiceFunction.lines, requested_append, requested_append,
    requested_of_unticked (List.forall_mem_singleton.mpr hopening),
    requested_of_unticked (List.forall_mem_singleton.mpr hclosing), hbody, List.nil_append,
    List.append_nil]

theorem requested_requestBody {path request : String} (hpath : IsAddressable path)
    (h : Sends path ("    const response = await axios." ++ request)) :
    requested (requestBody request) = [firstLine path] := by
  have hreturn : Unticked "    return response.data.data" := .literal rfl
  rw [requestBody, ← List.singleton_append, requested_append, h.requested_eq hpath,
    requested_of_unticked (List.forall_mem_singleton.mpr hreturn), List.append_nil]

/-- Each function of a service sends one request, to the path of the entity. -/
theorem requested_lines_of_mem_serviceFunctions (hn : n.AreIdentifiers) (ht : t.IsUnticked)
    (hpath : IsAddressable n.path) :
    ∀ f ∈ serviceFunctions n t, requested f.lines = [firstLine n.path] := by
  have hcap := Unticked.of_isIdentifier hn.capitalized
  have hgetAll : Unticked (getAll n) :=
    .append (.literal rfl) (.of_isIdentifier hn.capitalizedPlural)
  have hgetOne : Unticked (getOne n) := .append (.append (.literal rfl) hcap) (.literal rfl)
  have hcreate : Unticked (create n) := .append (.literal rfl) hcap
  have hupdate : Unticked (update n) := .append (.literal rfl) hcap
  have hdelete : Unticked (delete n) := .append (.literal rfl) hcap
  have hid : Unticked "id: string" := .literal rfl
  have hvoid : Unticked "void" := .literal rfl
  have hfield : Unticked updateField := .literal rfl
  have hvalue : Unticked "id: string, field: string, value: unknown" := .literal rfl
  have hall : Unticked (t.received ++ "[]") := .append ht.received (.literal rfl)
  have hcreated : Unticked ("data: " ++ t.created) := .append (.literal rfl) ht.created
  have hupdated : Unticked ("id: string, data: " ++ t.updated) :=
    .append (.literal rfl) ht.updated
  -- no template begins in a head, so the one request of a function is found in its body
  simp only [serviceFunctions, List.forall_mem_cons, List.not_mem_nil, false_imp_iff,
    implies_true, and_true]
  refine ⟨?getAll, ?getOne, ?create, ?update, ?delete, ?updateField⟩
  case getAll =>
    refine ServiceFunction.requested_lines hgetAll unticked_empty hall ?_
    refine requested_requestBody hpath (.intro "    const response = await axios.get(".toList
      ", authHeaders())".toList ?_ (.inl rfl) rfl)
    simp [endpoint, addressStart, tick]
  case getOne =>
    refine ServiceFunction.requested_lines hgetOne hid ht.received ?_
    refine requested_requestBody hpath (.intro "    const response = await axios.get(".toList
      ", authHeaders())".toList ?_ (.inr rfl) rfl)
    simp [itemEndpoint, addressStart, addressEnd, tick]
  case create =>
    refine ServiceFunction.requested_lines hcreate hcreated ht.received ?_
    refine requested_requestBody hpath (.intro "    const response = await axios.post(".toList
      ", data, authHeaders())".toList ?_ (.inl rfl) rfl)
    simp [endpoint, addressStart, tick]
  case update =>
    refine ServiceFunction.requested_lines hupdate hupdated ht.received ?_
    refine requested_requestBody hpath (.intro "    const response = await axios.put(".toList
      ", data, authHeaders())".toList ?_ (.inr rfl) rfl)
    simp [itemEndpoint, addressStart, addressEnd, tick]
  case delete =>
    refine ServiceFunction.requested_lines hdelete hid hvoid ?_
    refine Sends.requested_eq hpath (.intro "    await axios.delete(".toList
      ", authHeaders())".toList ?_ (.inr rfl) rfl)
    simp [itemEndpoint, addressStart, addressEnd, tick]
  case updateField =>
    have hdata : ∀ line ∈ ["    const updateData = \x7b", "      [field]: value", "    \x7d"],
        Unticked line :=
      isPiecewise_unticked.lines rfl (by simp)
    refine ServiceFunction.requested_lines hfield hvalue ht.received ?_
    rw [requested_append, requested_of_unticked hdata, List.nil_append]
    refine requested_requestBody hpath (.intro "    const response = await axios.put(".toList
      ", updateData, authHeaders())".toList ?_ (.inr rfl) rfl)
    simp [itemEndpoint, addressStart, addressEnd, tick]

/-- The functions of a service send as many requests as there are functions. -/
theorem requested_functions {functions : List ServiceFunction} {path : String}
    (h : ∀ f ∈ functions, requested f.lines = [path]) :
    requested (functions.flatMap fun f => f.lines ++ [""])
      = List.replicate functions.length path := by
  induction functions with
  | nil => rfl
  | cons f rest ih =>
    obtain ⟨hf, hrest⟩ := List.forall_mem_cons.mp h
    rw [List.flatMap_cons, requested_append, requested_append, hf, ih hrest,
      requested_of_unticked (List.forall_mem_singleton.mpr unticked_empty), List.append_nil,
      List.length_cons, List.replicate_succ, List.singleton_append]

/-- The line with the token of the user has a template too, but no address. -/
theorem requested_authorization (key : String) :
    requested ["    Authorization: `Bearer $\x7blocalStorage.getItem(" ++ literal key ++ ")\x7d`"]
      = [] := by
  have hbreak : Unbroken ("    Authorization: `Bearer $\x7blocalStorage.getItem(" ++ literal key
      ++ ")\x7d`") :=
    .append (.append (by decide) (unbroken_literal key)) (by decide)
  have hfront : tick ∉ "    Authorization: ".toList := by decide
  have hline : ("    Authorization: `Bearer $\x7blocalStorage.getItem(" ++ literal key
      ++ ")\x7d`").toList = "    Authorization: ".toList ++ tick :: 'B'
        :: ("earer $\x7blocalStorage.getItem(".toList ++ (literal key).toList
          ++ ")\x7d`".toList) := by
    simp [tick]
  rw [requested, List.flatMap_singleton, splitOn_of_notMem hbreak, List.filterMap_cons,
    request?_of_append hline hfront (by decide) (by decide)]
  rfl

theorem unticked_typeImport (ht : t.IsUnticked) : Unticked t.typeImport.line := by
  have himported : Unticked (", ".intercalate t.imported) :=
    .intercalate (.literal rfl) ht.imported
  have howner := ht.owner
  have htypes : Unticked "type " := .literal rfl
  unfold EntityTypes.typeImport interfaceImport Import.line
  exact isPiecewise_unticked.text rfl (by simp [htypes, himported, howner])

theorem requested_serviceHead (hs : s.WellFormed) (ht : t.IsUnticked) :
    requested (serviceHead s t) = [] := by
  have hvariable : Unticked s.apiUrlVariable :=
    notMem_of_matchesLine hs.apiUrlVariable (by decide) (by decide) (by decide)
  have hbefore : ∀ line ∈ [t.typeImport.line, "import axios from 'axios'", "",
      "const API_URL = import.meta.env." ++ s.apiUrlVariable, "", "const authHeaders = () => (\x7b",
      "  headers: \x7b"], Unticked line := by
    exact isPiecewise_unticked.lines rfl (by simp [unticked_typeImport ht, hvariable])
  have hbehind : ∀ line ∈ ["  \x7d", "\x7d)", ""], Unticked line :=
    isPiecewise_unticked.lines rfl (by simp)
  have hsplit : serviceHead s t = [t.typeImport.line, "import axios from 'axios'", "",
        "const API_URL = import.meta.env." ++ s.apiUrlVariable, "",
        "const authHeaders = () => (\x7b", "  headers: \x7b"]
      ++ ["    Authorization: `Bearer $\x7blocalStorage.getItem(" ++ literal s.tokenKey ++ ")\x7d`"]
      ++ ["  \x7d", "\x7d)", ""] := rfl
  rw [hsplit, requested_append, requested_append, requested_of_unticked hbefore,
    requested_authorization, requested_of_unticked hbehind]
  rfl

theorem unticked_of_mem_serviceMembers (hn : n.AreIdentifiers) :
    ∀ m ∈ serviceMembers n, Unticked m := by
  have hcap := Unticked.of_isIdentifier hn.capitalized
  have hplurals := Unticked.of_isIdentifier hn.capitalizedPlural
  unfold serviceMembers getAll getOne create update delete updateField
  exact isPiecewise_unticked.lines rfl (by simp [hcap, hplurals])

/-- A service sends six requests, all to the path of its entity. -/
theorem requests_serviceLines (hs : s.WellFormed) (hn : n.AreIdentifiers) (ht : t.IsUnticked)
    (hpath : IsAddressable n.path) :
    requests (joinLines (serviceLines s n t)) = List.replicate 6 (firstLine n.path) := by
  have hopening : Unticked ("export const " ++ useService n ++ " = () => \x7b") :=
    .append (.append (.literal rfl) (.append (.append (.literal rfl)
      (.of_isIdentifier hn.capitalized)) (.literal rfl))) (.literal rfl)
  have hreturn : Unticked "  return \x7b" := .literal rfl
  have hmembers : ∀ line ∈ commaSeparated ((serviceMembers n).map ("    " ++ ·)),
      Unticked line := by
    intro line hline
    obtain ⟨member, hmember, hentry⟩ := mem_commaSeparated hline
    obtain ⟨m, hm, rfl⟩ := List.mem_map.mp hmember
    have hindented : Unticked ("    " ++ m) :=
      .append (.literal rfl) (unticked_of_mem_serviceMembers hn m hm)
    rcases hentry with rfl | rfl
    · exact hindented
    · exact hindented.append (.literal rfl)
  have hclosing : ∀ line ∈ ["  \x7d"] ++ ["\x7d"], Unticked line :=
    isPiecewise_unticked.lines rfl (by simp)
  have hlast : "\x7d".toList.getLast? = some '\x7d' := by decide
  have hsplit : serviceLines s n t
      = (serviceHead s t ++ ["export const " ++ useService n ++ " = () => \x7b"]
        ++ (serviceFunctions n t).flatMap (fun f => f.lines ++ [""])
        ++ ["  return \x7b"] ++ commaSeparated ((serviceMembers n).map ("    " ++ ·))
        ++ ["  \x7d"]) ++ ["\x7d"] := by
    simp only [serviceLines, List.append_assoc, List.cons_append, List.nil_append]
  have hcount : (serviceFunctions n t).length = 6 := rfl
  -- only the functions hold requests, one each
  rw [hsplit, requests_joinLines hlast (by decide), List.append_assoc _ ["  \x7d"]]
  simp only [requested_append, requested_serviceHead hs ht,
    requested_of_unticked (List.forall_mem_singleton.mpr hopening),
    requested_functions (requested_lines_of_mem_serviceFunctions hn ht hpath), hcount,
    requested_of_unticked (List.forall_mem_singleton.mpr hreturn), requested_of_unticked hmembers,
    requested_of_unticked hclosing, List.nil_append, List.append_nil]

end

end Scaffold.Client
