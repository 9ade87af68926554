import Mathlib.Data.List.Nodup
import Scaffold.Proofs.Client.Store
import Scaffold.Proofs.Script

/-!
# Related stores in a store

For every related entity the store of an entity has one import, one instance and one request
(`usesStores_storeText`). They are told apart by how they begin (`lineHead`), and from each other
by the names in them, which are those of different entities.
-/

namespace Scaffold.Client

open Identifier Text

/-- The content of a store has one import, one instance and one request for each of these entities,
and joins requests only if there are any. -/
structure UsesStores (targets : List String) (content : String) : Prop where
  imports : ∀ r ∈ targets, (splitOn '\n' content).count
    ("import \x7b use" ++ Text.capitalize r ++ "Store \x7d from './" ++ r ++ ".store'") = 1
  instances : ∀ r ∈ targets, (splitOn '\n' content).count
    ("  const " ++ r ++ "Store = use" ++ Text.capitalize r ++ "Store()") = 1
  joined : (splitOn '\n' content).count "      await Promise.all([" = if targets = [] then 0 else 1
  /-- The requests are the lines from the one that joins them to the next one that closes it; behind
  all but the last there is a comma. -/
  requests : targets ≠ [] → ∃ before requests after,
    splitOn '\n' content
        = before ++ ["      await Promise.all(["] ++ requests ++ ["      ])"] ++ after
      ∧ "      ])" ∉ requests
      ∧ ∀ r ∈ targets, requests.countP (fun line =>
        line = "        " ++ r ++ "Store.fetch" ++ (Names.ofName r).capitalizedPlural ++ "()"
          ∨ line = "        " ++ r ++ "Store.fetch" ++ (Names.ofName r).capitalizedPlural ++ "()"
            ++ ",") = 1

/-! ### The lines for related entities -/

theorem importLine_eq (r : Names) :
    importLine r
      = "import \x7b use" ++ r.capitalized ++ "Store \x7d from './" ++ r.name ++ ".store'" := by
  simp [importLine, storeImport, Import.line, useStore, ← String.toList_inj]

theorem instanceLine_eq (r : Names) :
    instanceLine r = "  const " ++ r.name ++ "Store = use" ++ r.capitalized ++ "Store()" := by
  simp [instanceLine, storeConst, useStore, ← String.toList_inj]

theorem relatedFetch_eq (r : Names) :
    relatedFetch r = "        " ++ r.name ++ "Store.fetch" ++ r.capitalizedPlural ++ "()" := by
  simp [relatedFetch, storeConst, fetchAll, ← String.toList_inj]

/-- The first characters of a line. -/
def lineHead (line : String) : List Char := line.toList.take 7

@[simp] theorem lineHead_importLine (r : Names) : lineHead (importLine r) = "import ".toList := by
  simp [importLine_eq, lineHead]

@[simp]
theorem lineHead_instanceLine (r : Names) : lineHead (instanceLine r) = "  const".toList := by
  simp [instanceLine_eq, lineHead]

@[simp]
theorem lineHead_relatedFetch (r : Names) : lineHead (relatedFetch r) = "       ".toList := by
  simp [relatedFetch_eq, lineHead]

@[simp] theorem lineHead_relatedFetch_comma (r : Names) :
    lineHead (relatedFetch r ++ ",") = "       ".toList := by
  simp [relatedFetch_eq, lineHead]

/-- Lines that begin in different ways are different. -/
theorem ne_of_lineHead {a b : String} {p q : List Char} (ha : lineHead a = p) (hb : lineHead b = q)
    (h : p ≠ q) : a ≠ b := by
  rintro rfl
  exact h (ha.symm.trans hb)

theorem notMem_map_of_lineHead {f : Names → String} {head : List Char}
    (hf : ∀ r, lineHead (f r) = head) {line : String} (hline : lineHead line ≠ head)
    {targets : List String} : line ∉ targets.map fun r => f (.ofName r) := by
  intro hmem
  obtain ⟨r, -, heq⟩ := List.mem_map.mp hmem
  exact ne_of_lineHead (hf _) rfl hline.symm heq

/-- The forms of a related entity's name are made of parts of identifiers alone. -/
theorem isPart_of_mem_form {r form : String} (hr : isExactEntityName r = true)
    (hform : form ∈ (Names.ofName r).forms) {c : Char} (hc : c ∈ form.toList) :
    isPart c = true := by
  have hplural := isExactEntityName_pluralize hr
  change form ∈ [r, pluralize r, Text.capitalize r, Text.capitalize (pluralize r)] at hform
  simp only [List.mem_cons, List.not_mem_nil, or_false] at hform
  rcases hform with rfl | rfl | rfl | rfl
  · exact isPart_of_isNamePart (isNamePart_of_mem hr hc)
  · exact isPart_of_isNamePart (isNamePart_of_mem hplural hc)
  · exact isPart_of_mem_capitalize hr hc
  · exact isPart_of_mem_capitalize hplural hc

/-- No line for a related entity breaks. -/
theorem break_notMem {r : String} (hr : isExactEntityName r = true) :
    '\n' ∉ (importLine (.ofName r)).toList ∧ '\n' ∉ (instanceLine (.ofName r)).toList
      ∧ '\n' ∉ (relatedFetch (.ofName r)).toList := by
  have hforms : ∀ form ∈ (Names.ofName r).forms, '\n' ∉ form.toList :=
    fun form hform hmem => absurd (isPart_of_mem_form hr hform hmem) (by decide)
  simp only [Names.forms, List.forall_mem_cons] at hforms
  obtain ⟨hname, -, hcap, hplurals, -⟩ := hforms
  rw [importLine_eq, instanceLine_eq, relatedFetch_eq]
  simp [hname, hcap, hplurals]

/-! ### One line for each entity -/

theorem toList_importLine (r : Names) :
    (importLine r).toList = ("import \x7b use" ++ r.capitalized ++ "Store \x7d from '.").toList
      ++ '/' :: (r.name ++ ".store'").toList := by
  simp [importLine_eq]

theorem toList_instanceLine (r : Names) :
    (instanceLine r).toList = "  const ".toList
      ++ (r.name.toList ++ 'S' :: ("tore = use" ++ r.capitalized ++ "Store()").toList) := by
  simp [instanceLine_eq]

theorem toList_relatedFetch (r : Names) :
    (relatedFetch r).toList = "        ".toList
      ++ (r.name.toList ++ 'S' :: ("tore.fetch" ++ r.capitalizedPlural ++ "()").toList) := by
  simp [relatedFetch_eq]

section

variable {r r' : String} (hr : isExactEntityName r = true) (hr' : isExactEntityName r' = true)

include hr hr'

/-- A capital letter ends an entity name. -/
theorem eq_of_capital_behind {x y : List Char} (h : r.toList ++ 'S' :: x = r'.toList ++ 'S' :: y) :
    r = r' := by
  have hcapital : ∀ {s : String}, isExactEntityName s = true → 'S' ∉ s.toList :=
    fun hs hmem => absurd (isNamePart_of_mem hs hmem) (by decide)
  exact String.toList_inj.mp (eq_of_append_cons_eq (hcapital hr) (hcapital hr') h).1

theorem importLine_injective (h : importLine (.ofName r) = importLine (.ofName r')) : r = r' := by
  have hslash : ∀ {s : String}, isExactEntityName s = true → '/' ∉ (s ++ ".store'").toList := by
    intro s hs hmem
    rw [String.toList_append] at hmem
    rcases List.mem_append.mp hmem with hmem | hmem
    · exact absurd (isNamePart_of_mem hs hmem) (by decide)
    · exact absurd hmem (by decide)
  have hlists := congrArg String.toList h
  rw [toList_importLine, toList_importLine] at hlists
  have hnames := eq_of_suffix_of_notMem (hslash hr) (hslash hr') ⟨[], hlists⟩
  exact (String.append_left_inj _).mp (String.toList_inj.mp hnames)

theorem instanceLine_injective (h : instanceLine (.ofName r) = instanceLine (.ofName r')) :
    r = r' := by
  have hlists := congrArg String.toList h
  rw [toList_instanceLine, toList_instanceLine] at hlists
  exact eq_of_capital_behind hr hr' (List.append_cancel_left hlists)

theorem relatedFetch_injective (h : relatedFetch (.ofName r) = relatedFetch (.ofName r')) :
    r = r' := by
  have hlists := congrArg String.toList h
  rw [toList_relatedFetch, toList_relatedFetch] at hlists
  exact eq_of_capital_behind hr hr' (List.append_cancel_left hlists)

end

/-! ### The file -/

@[simp] theorem lineHead_joinLine : lineHead joinLine = "      a".toList := by
  decide

@[simp] theorem lineHead_joinEnd : lineHead joinEnd = "      ]".toList := by
  decide

theorem hasEnding_importLine (r : Names) : HasEnding relatedEndings (importLine r) := by
  rw [importLine_eq]
  exact .append _ rfl

theorem hasEnding_instanceLine (r : Names) : HasEnding relatedEndings (instanceLine r) := by
  rw [instanceLine_eq]
  exact .append _ rfl

theorem hasEnding_joinLine : HasEnding relatedEndings joinLine := by
  show HasEnding relatedEndings ("      await " ++ "Promise.all([")
  exact .append _ rfl

theorem hasEnding_joinEnd : HasEnding requestEndings joinEnd := by
  show HasEnding requestEndings ("      " ++ "])")
  exact .append _ rfl

theorem hasEnding_relatedFetch (r : Names) :
    HasEnding requestEndings (relatedFetch r)
      ∧ HasEnding requestEndings (relatedFetch r ++ ",") := by
  have hcomma : relatedFetch r ++ ","
      = "        " ++ r.name ++ "Store.fetch" ++ r.capitalizedPlural ++ "()," := by
    simp [relatedFetch_eq, ← String.toList_inj]
  rw [hcomma, relatedFetch_eq]
  exact ⟨.append _ rfl, .append _ rfl⟩

theorem relatedFetch_ne_comma (r r' : Names) : relatedFetch r ≠ relatedFetch r' ++ "," := by
  intro heq
  have hplain : (relatedFetch r).toList.getLast? = some ')' := by
    rw [relatedFetch_eq, String.toList_append, List.getLast?_append]
    rfl
  have hcomma : (relatedFetch r' ++ ",").toList.getLast? = some ',' := by
    rw [String.toList_append, List.getLast?_append]
    rfl
  rw [← heq, hplain] at hcomma
  exact absurd hcomma (by decide)

/-- The lines of the joined requests. -/
def requestLines (n : Names) (targets : List String) : List String :=
  (ownRequest n).flatMap (splitOn '\n')
    ++ commaSeparated (targets.map fun r => relatedFetch (.ofName r))

/-- The lines in front of the body of the action that fetches everything. -/
def linesBefore (n : Names) (targets : List String) : List String :=
  (storeHead n).flatMap (splitOn '\n') ++ targets.map (fun r => importLine (.ofName r))
    ++ (storeMiddle n).flatMap (splitOn '\n') ++ targets.map (fun r => instanceLine (.ofName r))
    ++ ("" :: (fetchAction n).opening).flatMap (splitOn '\n')

/-- The lines behind it. -/
def linesAfter (n : Names) : List String :=
  (storeTail n).flatMap (splitOn '\n') ++ ["\x7d)", ""]

section

variable {n : Names} {targets : List String}

/-- A line that is not one of the requests is kept out of them by its ending and its beginning. -/
theorem notMem_requestLines (hn : n.AreIdentifiers) {line : String}
    (hending : HasEnding (relatedEndings ++ requestEndings) line)
    (hhead : lineHead line ≠ "       ".toList) : line ∉ requestLines n targets := by
  intro hmem
  rcases List.mem_append.mp hmem with hmem | hmem
  · exact hending.notMem (avoids_ownRequest hn) hmem
  · obtain ⟨l, hl, heq⟩ := mem_commaSeparated hmem
    obtain ⟨r, -, rfl⟩ := List.mem_map.mp hl
    rcases heq with rfl | rfl
    · exact hhead (lineHead_relatedFetch _)
    · exact hhead (lineHead_relatedFetch_comma _)

/-- The line behind the requests is none of them. -/
theorem joinEnd_notMem (hn : n.AreIdentifiers) : joinEnd ∉ requestLines n targets :=
  notMem_requestLines hn (hasEnding_joinEnd.mono (List.subset_append_right _ _))
    (by rw [lineHead_joinEnd]; decide)

variable (htargets : ∀ r ∈ targets, isExactEntityName r = true)

include htargets

/-- The lines of the file with a store. -/
theorem splitOn_storeText :
    splitOn '\n' (storeText n (targets.map Names.ofName))
      = linesBefore n targets
        ++ (fetchAllBody n (targets.map Names.ofName)).flatMap (splitOn '\n') ++ linesAfter n := by
  have hlast : "\x7d)".toList.getLast? = some ')' := by decide
  have hclose : splitOn '\n' "\x7d)" = ["\x7d)"] := by decide
  have hempty : splitOn '\n' "" = [""] := by decide
  -- the lines for related entities do not break
  have himports : (targets.map fun r => importLine (.ofName r)).flatMap (splitOn '\n')
      = targets.map fun r => importLine (.ofName r) :=
    flatMap_splitOn_of_notMem (List.forall_mem_map.mpr fun r hr => (break_notMem (htargets r hr)).1)
  have hinstances : (targets.map fun r => instanceLine (.ofName r)).flatMap (splitOn '\n')
      = targets.map fun r => instanceLine (.ofName r) :=
    flatMap_splitOn_of_notMem
      (List.forall_mem_map.mpr fun r hr => (break_notMem (htargets r hr)).2.1)
  unfold storeText
  rw [storeLines_eq, splitOn_joinLines hlast (by decide), hclose]
  simp [Function.comp_def, himports, hinstances, linesBefore, linesAfter, hempty]

/-- The body of the action that fetches everything, when something is joined. -/
theorem flatMap_fetchAllBody (hne : targets ≠ []) :
    (fetchAllBody n (targets.map Names.ofName)).flatMap (splitOn '\n')
      = [joinLine] ++ requestLines n targets ++ [joinEnd] := by
  have hjoin : splitOn '\n' joinLine = [joinLine] := splitOn_of_notMem (by decide)
  have hend : splitOn '\n' joinEnd = [joinEnd] := splitOn_of_notMem (by decide)
  have hfetches : (commaSeparated (targets.map fun r => relatedFetch (.ofName r))).flatMap
      (splitOn '\n') = commaSeparated (targets.map fun r => relatedFetch (.ofName r)) := by
    refine flatMap_splitOn_of_notMem fun line hline => ?_
    obtain ⟨l, hl, heq⟩ := mem_commaSeparated hline
    obtain ⟨r, hr, rfl⟩ := List.mem_map.mp hl
    have hbreak := (break_notMem (htargets r hr)).2.2
    rcases heq with rfl | rfl
    · exact hbreak
    · simp [hbreak]
  rw [fetchAllBody_of_ne_nil (by simpa using hne)]
  simp only [List.map_map, Function.comp_def, List.flatMap_append, List.flatMap_singleton, hjoin,
    hend, hfetches, requestLines]

/-- Every related entity has one request. -/
theorem countP_requestLines (hn : n.AreIdentifiers) {target : String} (htarget : target ∈ targets)
    (hnodup : targets.Nodup) :
    (requestLines n targets).countP (fun line => line = relatedFetch (.ofName target)
      ∨ line = relatedFetch (.ofName target) ++ ",") = 1 := by
  -- the request of the entity itself ends otherwise
  have hown : ((ownRequest n).flatMap (splitOn '\n')).countP (fun line =>
      line = relatedFetch (.ofName target) ∨ line = relatedFetch (.ofName target) ++ ",") = 0 := by
    rw [List.countP_eq_zero]
    intro line hline heq
    obtain ⟨hplain, hcomma⟩ := hasEnding_relatedFetch (.ofName target)
    rcases of_decide_eq_true heq with rfl | rfl
    · exact (hplain.mono (List.subset_append_right _ _)).notMem (avoids_ownRequest hn) hline
    · exact (hcomma.mono (List.subset_append_right _ _)).notMem (avoids_ownRequest hn) hline
  rw [requestLines, List.countP_append, hown, Nat.zero_add, countP_commaSeparated,
    countP_map target]
  · exact List.count_eq_one_of_mem hnodup htarget
  · intro r hr
    rw [decide_eq_true_iff]
    constructor
    · rintro (heq | heq)
      · exact relatedFetch_injective (htargets r hr) (htargets target htarget) heq
      · exact absurd heq (relatedFetch_ne_comma _ _)
    · rintro rfl
      exact .inl rfl
  · refine List.forall_mem_map.mpr fun r _ => ?_
    have hcomma := relatedFetch_ne_comma (.ofName r) (.ofName target)
    have hcomma' := (relatedFetch_ne_comma (.ofName target) (.ofName r)).symm
    simp only [hcomma, hcomma', String.append_left_inj, or_false, false_or]

/-! ### How often a line is in the file -/

/-- A line with an ending that no other line of the store has is in the file as often as among the
imports, the instances and the body of the action that fetches everything. -/
theorem count_splitOn_storeText (hn : n.AreIdentifiers) {line : String}
    (hending : HasEnding relatedEndings line) :
    (splitOn '\n' (storeText n (targets.map Names.ofName))).count line
      = (targets.map fun r => importLine (.ofName r)).count line
        + (targets.map fun r => instanceLine (.ofName r)).count line
        + ((fetchAllBody n (targets.map Names.ofName)).flatMap (splitOn '\n')).count line := by
  have hopening : ∀ l ∈ "" :: (fetchAction n).opening, Avoids relatedEndings l :=
    List.forall_mem_cons.mpr ⟨.literal rfl, avoids_fetchOpening hn⟩
  have hclose : ∀ l ∈ ["\x7d)", ""], Avoids relatedEndings l := by
    simp only [List.forall_mem_cons, List.not_mem_nil, false_imp_iff, implies_true, and_true]
    exact ⟨.literal rfl, .literal rfl⟩
  have hafter : line ∉ linesAfter n := by
    intro hmem
    rcases List.mem_append.mp hmem with hmem | hmem
    · exact hending.notMem (avoids_storeTail hn) hmem
    · have hsplit : ["\x7d)", ""].flatMap (splitOn '\n') = ["\x7d)", ""] := by decide
      exact hending.notMem hclose (hsplit ▸ hmem)
  rw [splitOn_storeText htargets, linesBefore]
  simp only [List.count_append, List.count_eq_zero.mpr hafter,
    List.count_eq_zero.mpr (hending.notMem (avoids_storeHead hn)),
    List.count_eq_zero.mpr (hending.notMem (avoids_storeMiddle hn)),
    List.count_eq_zero.mpr (hending.notMem hopening), Nat.zero_add, Nat.add_zero]

/-- The body of the action that fetches everything has neither imports nor instances. -/
theorem notMem_fetchAllBody (hn : n.AreIdentifiers) (hne : targets ≠ []) {line : String}
    (hending : HasEnding relatedEndings line)
    (hhead : lineHead line ∈ ["import ".toList, "  const".toList]) :
    line ∉ (fetchAllBody n (targets.map Names.ofName)).flatMap (splitOn '\n') := by
  have hother : ∀ head ∈ ["       ".toList, "      a".toList, "      ]".toList],
      lineHead line ≠ head := by
    intro head hmem heq
    have hapart : ∀ head' ∈ ["import ".toList, "  const".toList],
        ∀ head ∈ ["       ".toList, "      a".toList, "      ]".toList], head' ≠ head := by
      decide
    exact hapart _ hhead head hmem heq
  simp only [List.forall_mem_cons, List.not_mem_nil, false_imp_iff, implies_true, and_true]
    at hother
  obtain ⟨hfetch, hjoin, hend⟩ := hother
  -- the requests, and the lines around them, begin in other ways
  have hrequests : line ∉ requestLines n targets :=
    notMem_requestLines hn (hending.mono (List.subset_append_left _ _)) hfetch
  rw [flatMap_fetchAllBody htargets hne]
  simp only [List.mem_append, List.mem_singleton, hrequests, or_false, not_or]
  exact ⟨ne_of_lineHead rfl lineHead_joinLine hjoin, ne_of_lineHead rfl lineHead_joinEnd hend⟩

/-- Every related entity has one import. -/
theorem count_importLine (hn : n.AreIdentifiers) (hnodup : targets.Nodup) {target : String}
    (htarget : target ∈ targets) :
    (splitOn '\n' (storeText n (targets.map Names.ofName))).count (importLine (.ofName target))
      = 1 := by
  have hhead := lineHead_importLine (.ofName target)
  have himports := count_map_eq_one (f := fun r => importLine (.ofName r)) hnodup htarget
    fun r hr => importLine_injective (htargets r hr) (htargets target htarget)
  have hinstances : importLine (.ofName target) ∉ targets.map fun r => instanceLine (.ofName r) :=
    notMem_map_of_lineHead lineHead_instanceLine (by rw [hhead]; decide)
  have hbody := notMem_fetchAllBody htargets hn (List.ne_nil_of_mem htarget)
    (hasEnding_importLine _) (by rw [hhead]; decide)
  rw [count_splitOn_storeText htargets hn (hasEnding_importLine _), himports,
    List.count_eq_zero.mpr hinstances, List.count_eq_zero.mpr hbody]

/-- Every related entity has one instance. -/
theorem count_instanceLine (hn : n.AreIdentifiers) (hnodup : targets.Nodup) {target : String}
    (htarget : target ∈ targets) :
    (splitOn '\n' (storeText n (targets.map Names.ofName))).count (instanceLine (.ofName target))
      = 1 := by
  have hhead := lineHead_instanceLine (.ofName target)
  have hinstances := count_map_eq_one (f := fun r => instanceLine (.ofName r)) hnodup htarget
    fun r hr => instanceLine_injective (htargets r hr) (htargets target htarget)
  have himports : instanceLine (.ofName target) ∉ targets.map fun r => importLine (.ofName r) :=
    notMem_map_of_lineHead lineHead_importLine (by rw [hhead]; decide)
  have hbody := notMem_fetchAllBody htargets hn (List.ne_nil_of_mem htarget)
    (hasEnding_instanceLine _) (by rw [hhead]; decide)
  rw [count_splitOn_storeText htargets hn (hasEnding_instanceLine _), hinstances,
    List.count_eq_zero.mpr himports, List.count_eq_zero.mpr hbody]

/-- Requests are joined in one place when there are related entities, and else in none. -/
theorem count_joinLine (hn : n.AreIdentifiers) :
    (splitOn '\n' (storeText n (targets.map Names.ofName))).count joinLine
      = if targets = [] then 0 else 1 := by
  have himports : joinLine ∉ targets.map fun r => importLine (.ofName r) :=
    notMem_map_of_lineHead lineHead_importLine (by rw [lineHead_joinLine]; decide)
  have hinstances : joinLine ∉ targets.map fun r => instanceLine (.ofName r) :=
    notMem_map_of_lineHead lineHead_instanceLine (by rw [lineHead_joinLine]; decide)
  rw [count_splitOn_storeText htargets hn hasEnding_joinLine, List.count_eq_zero.mpr himports,
    List.count_eq_zero.mpr hinstances, Nat.zero_add]
  split
  -- the line stands in the action that fetches all, if anything is fetched with it
  next hnil =>
    subst hnil
    have hending : HasEnding [['P', 'r', 'o', 'm', 'i', 's', 'e', '.', 'a', 'l', 'l', '(', '[']]
        joinLine := by
      show HasEnding _ ("      await " ++ "Promise.all([")
      exact .append _ rfl
    exact List.count_eq_zero.mpr (hending.notMem (avoids_fetchAllBody_nil hn))
  next hne =>
    have hrequests : joinLine ∉ requestLines n targets :=
      notMem_requestLines hn (hasEnding_joinLine.mono (List.subset_append_left _ _))
        (by rw [lineHead_joinLine]; decide)
    have hend : joinLine ∉ [joinEnd] := by decide
    rw [flatMap_fetchAllBody htargets hne, List.count_append, List.count_append,
      List.count_eq_zero.mpr hrequests, List.count_eq_zero.mpr hend, List.count_singleton_self]

end

/-- The store of an entity has them for its related entities. -/
theorem usesStores_storeText {n : Names} (hn : n.AreIdentifiers) {targets : List String}
    (htargets : ∀ r ∈ targets, isExactEntityName r = true) (hnodup : targets.Nodup) :
    UsesStores targets (storeText n (targets.map Names.ofName)) where
  imports r hr := by
    have hcount := count_importLine htargets hn hnodup hr
    rwa [importLine_eq] at hcount
  instances r hr := by
    have hcount := count_instanceLine htargets hn hnodup hr
    rwa [instanceLine_eq] at hcount
  joined := count_joinLine htargets hn
  requests hne := by
    refine ⟨linesBefore n targets, requestLines n targets, linesAfter n, ?_, joinEnd_notMem hn, ?_⟩
    · rw [splitOn_storeText htargets, flatMap_fetchAllBody htargets hne]
      simp only [List.append_assoc, joinLine, joinEnd]
    · intro r hr
      have hcount := countP_requestLines htargets hn hr hnodup
      rwa [relatedFetch_eq] at hcount

end Scaffold.Client
