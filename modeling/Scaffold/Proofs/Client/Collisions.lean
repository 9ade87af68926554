import Scaffold.Proofs.Client.Constants
import Scaffold.Proofs.Related

/-!
# Constants that collide

The constants of a store and of a service are put together from several forms of a name, most of
which a document may override. Which of them may be the same is said by `StoreApart` and
`ServiceApart`: the plural may be any other constant, a service or a related store may be named like
an action, and fetching all like fetching one. Everything else is apart by how it begins or ends.

Validation keeps a document from none of these collisions, except that it reserves words. Without
overrides two are left (`storeApart_ofName`, `serviceApart_ofName`): a store of stores beside one of
three related stores, and the service of fields.
-/

namespace Scaffold.Client

open Identifier Text

/-- The constants of a store that are functions or are named like them: a verb, or another word, and
a form of the name. -/
def verbConstants (n : Names) : List String :=
  [current n, fetchAll n, fetchOne n, create n, update n, delete n]

/-- The constants of a store that hold other stores and the service. -/
def usedConstants (n : Names) (related : List Names) : List String :=
  serviceConst n :: related.map storeConst

/-- The constants of a store are apart. -/
structure StoreApart (n : Names) (related : List Names) : Prop where
  plural : word n.plural ∉ (storeConstants n related).tail.map word
  used : ∀ c ∈ usedConstants n related, word c ∉ (verbConstants n).map word
  fetch : word (fetchAll n) ≠ word (fetchOne n)

/-- The functions of a service are apart. -/
structure ServiceApart (n : Names) : Prop where
  change : word n.capitalized ≠ "Field"
  get : word (getAll n) ≠ word (getOne n)

/-! ### Words -/

@[simp] theorem toList_word (s : String) : (word s).toList = s.toList.takeWhile isPart :=
  String.toList_ofList

/-- Parts of identifiers are read over. -/
theorem word_append {front : String} (h : ∀ c ∈ front.toList, isPart c = true) (s : String) :
    word (front ++ s) = front ++ word s := by
  rw [← String.toList_inj, toList_word, String.toList_append, String.toList_append, toList_word,
    List.takeWhile_append_of_pos h]

theorem word_eq_self {s : String} (h : ∀ c ∈ s.toList, isPart c = true) : word s = s := by
  rw [← String.toList_inj, toList_word, List.takeWhile_eq_self_iff]
  exact h

theorem word_literal_append {cs : List Char} (h : cs.all isPart = true) (s : String) :
    word (String.ofList cs ++ s) = String.ofList cs ++ word s := by
  apply word_append
  rw [String.toList_ofList]
  exact List.all_eq_true.mp h

section

variable (n : Names)

@[simp] theorem word_current : word (current n) = "current" ++ word n.capitalized :=
  word_literal_append rfl _

@[simp] theorem word_fetchAll : word (fetchAll n) = "fetch" ++ word n.capitalizedPlural :=
  word_literal_append rfl _

@[simp] theorem word_fetchOne : word (fetchOne n) = "fetch" ++ word (n.capitalized ++ "ById") := by
  rw [fetchOne, String.append_assoc]
  exact word_literal_append rfl _

@[simp] theorem word_getAll : word (getAll n) = "get" ++ word n.capitalizedPlural :=
  word_literal_append rfl _

@[simp] theorem word_getOne : word (getOne n) = "get" ++ word (n.capitalized ++ "ById") := by
  rw [getOne, String.append_assoc]
  exact word_literal_append rfl _

@[simp] theorem word_create : word (create n) = "create" ++ word n.capitalized :=
  word_literal_append rfl _

@[simp] theorem word_update : word (update n) = "update" ++ word n.capitalized :=
  word_literal_append rfl _

@[simp] theorem word_delete : word (delete n) = "delete" ++ word n.capitalized :=
  word_literal_append rfl _

theorem map_word_verbConstants : (verbConstants n).map word
    = ["current" ++ word n.capitalized, "fetch" ++ word n.capitalizedPlural,
      "fetch" ++ word (n.capitalized ++ "ById"), "create" ++ word n.capitalized,
      "update" ++ word n.capitalized, "delete" ++ word n.capitalized] := by
  simp [verbConstants]

/-- Only the two that fetch may be the same. -/
theorem nodup_verbConstants :
    ((verbConstants n).map word).Nodup ↔ word (fetchAll n) ≠ word (fetchOne n) := by
  rw [map_word_verbConstants, word_fetchAll, word_fetchOne]
  simp [← String.toList_inj]

end

/-! ### When the constants are apart -/

/-- A capital letter parts a name from the word behind it. -/
theorem eq_of_capital {a b : String} {x y : Char} {xs ys : List Char}
    (ha : ∀ c ∈ a.toList, isNamePart c = true) (hb : ∀ c ∈ b.toList, isNamePart c = true)
    (hx : isNamePart x = false) (hy : isNamePart y = false)
    (h : a.toList ++ x :: xs = b.toList ++ y :: ys) : a = b ∧ x :: xs = y :: ys := by
  have hwords := congrArg (List.takeWhile isNamePart) h
  rw [takeWhile_append_cons hx, takeWhile_append_cons hy, List.takeWhile_eq_self_iff.mpr ha,
    List.takeWhile_eq_self_iff.mpr hb] at hwords
  refine ⟨String.toList_inj.mp hwords, ?_⟩
  rw [hwords] at h
  exact List.append_cancel_left h

section

variable {n : Names} {related : List Names}

/-- The words behind a name are read with it. -/
theorem word_exactName_append {name back : String} (hname : isExactEntityName name = true)
    (hback : back.toList.all isPart = true) : word (name ++ back) = name ++ back := by
  apply word_eq_self
  rw [String.toList_append, List.forall_mem_append]
  exact ⟨fun c hc => isPart_of_isNamePart (isNamePart_of_mem hname hc), List.all_eq_true.mp hback⟩

theorem map_word_usedConstants (hname : isExactEntityName n.name = true)
    (hrelated : ∀ r ∈ related, isExactEntityName r.name = true) :
    (usedConstants n related).map word
      = (n.name ++ "Service") :: (related.map (·.name)).map (· ++ "Store") := by
  rw [usedConstants, List.map_cons, List.map_map, List.map_map]
  congr 1
  · exact word_exactName_append hname (by decide)
  · exact List.map_congr_left fun r hr => word_exactName_append (hrelated r hr) (by decide)

theorem capital_of_mem_usedConstants (hname : isExactEntityName n.name = true)
    (hrelated : ∀ r ∈ related, isExactEntityName r.name = true) :
    ∀ c ∈ (usedConstants n related).map word, 'S' ∈ c.toList := by
  rw [map_word_usedConstants hname hrelated, List.forall_mem_cons, List.forall_mem_map]
  constructor
  · simp
  · intro name _
    simp

/-- What a store uses is named apart from its state, and from each other. -/
theorem nodup_usedConstants (hname : isExactEntityName n.name = true)
    (hrelated : ∀ r ∈ related, isExactEntityName r.name = true)
    (hnodup : (related.map (·.name)).Nodup) :
    (["loading", "error"] ++ (usedConstants n related).map word).Nodup := by
  have hstores : ((related.map (·.name)).map (· ++ "Store")).Nodup :=
    hnodup.map fun a b h => (String.append_left_inj "Store").mp h
  have hservice : n.name ++ "Service" ∉ (related.map (·.name)).map (· ++ "Store") := by
    intro hmem
    obtain ⟨name, hname', heq⟩ := List.mem_map.mp hmem
    obtain ⟨r, hr, rfl⟩ := List.mem_map.mp hname'
    have hlist := congrArg String.toList heq
    rw [String.toList_append, String.toList_append] at hlist
    have hback := (eq_of_capital (fun c => isNamePart_of_mem (hrelated r hr))
      (fun c => isNamePart_of_mem hname) (by decide) (by decide) hlist).2
    exact absurd hback (by decide)
  rw [List.nodup_append]
  refine ⟨by decide, ?_, ?_⟩
  · rw [map_word_usedConstants hname hrelated]
    exact List.nodup_cons.mpr ⟨hservice, hstores⟩
  · intro a ha b hb heq
    have hsmall : ∀ a ∈ ["loading", "error"], 'S' ∉ a.toList := by decide
    exact hsmall a ha (heq ▸ capital_of_mem_usedConstants hname hrelated b hb)

/-- The state of a store is not named like what it does. -/
theorem notMem_verbConstants : ∀ c ∈ ["loading", "error"], c ∉ (verbConstants n).map word := by
  have hfirst : ∀ c ∈ (verbConstants n).map word,
      c.toList.head? ∈ ['c', 'f', 'u', 'd'].map some := by
    rw [map_word_verbConstants]
    simp
  have hother : ∀ c ∈ ["loading", "error"], c.toList.head? ∉ ['c', 'f', 'u', 'd'].map some := by
    decide
  intro c hc hmem
  exact hother c hc (hfirst c hmem)

/-- The constants of a store behind the plural: the value that holds one entity goes to the actions,
which begin with a verb as well. -/
theorem perm_storeConstants (n : Names) (related : List Names) :
    ((storeConstants n related).tail.map word).Perm
      (["loading", "error"] ++ (usedConstants n related).map word
        ++ (verbConstants n).map word) := by
  have hsmall : word "loading" = "loading" ∧ word "error" = "error" := by decide
  have hverbs : (verbConstants n).map word = word (current n)
      :: [fetchAll n, fetchOne n, create n, update n, delete n].map word := rfl
  rw [hverbs]
  refine List.Perm.trans ?_ List.perm_middle.symm
  simp [storeConstants, usedConstants, hsmall]

/-- The constants of a store are apart in just this case. -/
theorem nodup_storeConstants (hname : isExactEntityName n.name = true)
    (hrelated : ∀ r ∈ related, isExactEntityName r.name = true)
    (hnodup : (related.map (·.name)).Nodup) :
    ((storeConstants n related).map word).Nodup ↔ StoreApart n related := by
  have hfirst : (storeConstants n related).map word
      = word n.plural :: (storeConstants n related).tail.map word := rfl
  rw [hfirst, List.nodup_cons, (perm_storeConstants n related).nodup_iff, List.nodup_append,
    nodup_verbConstants]
  constructor
  · rintro ⟨hplural, -, hfetch, hapart⟩
    refine ⟨hplural, fun c hc hmem => ?_, hfetch⟩
    exact hapart _ (List.mem_append_right _ (List.mem_map_of_mem hc)) _ hmem rfl
  · intro h
    refine ⟨h.plural, nodup_usedConstants hname hrelated hnodup, h.fetch, ?_⟩
    intro a ha b hb heq
    rcases List.mem_append.mp ha with ha | ha
    · exact notMem_verbConstants a ha (heq ▸ hb)
    · obtain ⟨c, hc, rfl⟩ := List.mem_map.mp ha
      exact h.used c hc (heq ▸ hb)

/-- The functions of a service are apart in just this case. -/
theorem nodup_serviceMembers : ((serviceMembers n).map word).Nodup ↔ ServiceApart n := by
  have hfield : word updateField = "update" ++ "Field" := by decide
  have hiff : ((serviceMembers n).map word).Nodup
      ↔ word n.capitalized ≠ "Field" ∧ word (getAll n) ≠ word (getOne n) := by
    simp [serviceMembers, hfield, ← String.toList_inj, and_comm]
  rw [hiff]
  exact ⟨fun h => ⟨h.1, h.2⟩, fun h => ⟨h.change, h.get⟩⟩

end

/-! ### Derived names -/

theorem isNamePart_toUpper {c : Char} (h : isLower c = true) : isNamePart c.toUpper = false := by
  have := forall_isPart (p := fun c => !isLower c || !isNamePart c.toUpper) (by decide)
    (isPart_of_isLower h)
  simpa [h] using this

/-- A capitalized entity name has a capital letter, and then none. -/
theorem exists_capital {s : String} (hs : isExactEntityName s = true) :
    ∃ c tail, (Text.capitalize s).toList = c :: tail ∧ isNamePart c = false
      ∧ ∀ x ∈ tail, isNamePart x = true := by
  obtain ⟨c, tail, heq, hc, htail⟩ := isExactEntityName_iff.mp hs
  exact ⟨c.toUpper, tail, toList_capitalize heq (isPart_of_isLower hc), isNamePart_toUpper hc,
    htail⟩

theorem word_capitalize {s : String} (hs : isExactEntityName s = true) :
    word (Text.capitalize s) = Text.capitalize s :=
  word_eq_self fun _ => isPart_of_mem_capitalize hs

/-- A plural ends in `s`. -/
theorem getLast?_pluralize {s : String} (hs : isExactEntityName s = true) :
    (pluralize s).toList.getLast? = some 's' := by
  obtain ⟨c, tail, heq, -, -⟩ := isExactEntityName_iff.mp hs
  rw [pluralize, String.toList_ofList, heq]
  unfold pluralizeChars
  split
  next hrev => simp at hrev
  next stem _ => simp
  next => exact List.getLast?_concat

/-- A capitalized name is none with `ById` behind it. -/
theorem capitalize_ne_append_byId {a b : String} (ha : isExactEntityName a = true)
    (hb : isExactEntityName b = true) : Text.capitalize a ≠ Text.capitalize b ++ "ById" := by
  obtain ⟨x, xs, hacap, -, hxs⟩ := exists_capital ha
  obtain ⟨y, ys, hbcap, -, -⟩ := exists_capital hb
  intro heq
  have hlists := congrArg String.toList heq
  rw [String.toList_append, hacap, hbcap] at hlists
  have htail : xs = ys ++ "ById".toList := (List.cons.inj hlists).2
  have hmem : 'B' ∈ xs := htail ▸ List.mem_append_right _ (by decide)
  exact absurd (hxs _ hmem) (by decide)

/-- A capitalized name is no capitalized plural unless it ends like one. -/
theorem capitalize_ne_pluralize {a b : String} (ha : isExactEntityName a = true)
    (hb : isExactEntityName b = true) (hlast : b.toList.getLast? ≠ some 's') :
    Text.capitalize b ≠ Text.capitalize (pluralize a) := by
  intro heq
  rw [capitalize_injective hb (isExactEntityName_pluralize ha) heq] at hlast
  exact hlast (getLast?_pluralize ha)

/-- What a name and a capitalized word are put together to is known to the capital letter. -/
theorem append_capitalize_eq_iff {a b verb rest : String} (ha : isExactEntityName a = true)
    (hb : isExactEntityName b = true) (hverb : isExactEntityName verb = true) {y : Char}
    {ys : List Char} (hrest : rest.toList = y :: ys) (hy : isNamePart y = false) :
    a ++ Text.capitalize b = verb ++ rest ↔ a = verb ∧ Text.capitalize b = rest := by
  obtain ⟨x, xs, hcap, hx, -⟩ := exists_capital hb
  constructor
  · intro heq
    have hlists := congrArg String.toList heq
    rw [String.toList_append, String.toList_append, hcap, hrest] at hlists
    obtain ⟨hfirst, hbehind⟩ := eq_of_capital (fun c => isNamePart_of_mem ha)
      (fun c => isNamePart_of_mem hverb) hx hy hlists
    exact ⟨hfirst, String.toList_inj.mp (by rw [hcap, hrest, hbehind])⟩
  · rintro ⟨rfl, rfl⟩
    rfl

section

variable {name : String} (hname : isExactEntityName name = true)

include hname

theorem word_capitalizedPlural_ofName :
    word (Names.ofName name).capitalizedPlural = Text.capitalize (pluralize name) :=
  word_capitalize (isExactEntityName_pluralize hname)

theorem word_capitalized_append_ofName :
    word ((Names.ofName name).capitalized ++ "ById") = Text.capitalize name ++ "ById" := by
  rw [Names.capitalized_ofName]
  exact word_append (fun _ => isPart_of_mem_capitalize hname) _

theorem map_word_verbConstants_ofName : (verbConstants (.ofName name)).map word
    = ["current" ++ Text.capitalize name, "fetch" ++ Text.capitalize (pluralize name),
      "fetch" ++ (Text.capitalize name ++ "ById"), "create" ++ Text.capitalize name,
      "update" ++ Text.capitalize name, "delete" ++ Text.capitalize name] := by
  rw [map_word_verbConstants, word_capitalizedPlural_ofName hname,
    word_capitalized_append_ofName hname, Names.capitalized_ofName, word_capitalize hname]

/-- A name with a capitalized word behind it is one of these constants only where the word is the
name of the entity and a verb is in front of it. -/
theorem mem_verbConstants_ofName {a b : String} (ha : isExactEntityName a = true)
    (hb : isExactEntityName b = true) (hlast : b.toList.getLast? ≠ some 's') :
    a ++ Text.capitalize b ∈ (verbConstants (.ofName name)).map word
      ↔ name = b ∧ a ∈ ["current", "create", "update", "delete"] := by
  obtain ⟨y, ys, hcap, hy, -⟩ := exists_capital hname
  obtain ⟨z, zs, hplural, hz, -⟩ := exists_capital (isExactEntityName_pluralize hname)
  have hone : (Text.capitalize name ++ "ById").toList = y :: (ys ++ "ById".toList) := by
    rw [String.toList_append, hcap, List.cons_append]
  have hinj : Text.capitalize b = Text.capitalize name ↔ name = b :=
    ⟨fun h => (capitalize_injective hb hname h).symm, fun h => h ▸ rfl⟩
  rw [map_word_verbConstants_ofName hname]
  simp only [List.mem_cons, List.not_mem_nil, or_false]
  have hverbs : ∀ verb ∈ ["current", "fetch", "create", "update", "delete"],
      isExactEntityName verb = true := by decide
  simp only [List.forall_mem_cons, List.not_mem_nil, false_imp_iff, implies_true, and_true]
    at hverbs
  obtain ⟨hcurrent, hfetch, hcreate, hupdate, hdelete⟩ := hverbs
  -- what stands before the first capital is the verb, so constants are compared part by part
  rw [append_capitalize_eq_iff ha hb hcurrent hcap hy,
    append_capitalize_eq_iff ha hb hfetch hplural hz,
    append_capitalize_eq_iff ha hb hfetch hone hy,
    append_capitalize_eq_iff ha hb hcreate hcap hy,
    append_capitalize_eq_iff ha hb hupdate hcap hy,
    append_capitalize_eq_iff ha hb hdelete hcap hy, hinj]
  simp only [capitalize_ne_pluralize hname hb hlast, capitalize_ne_append_byId hb hname, and_false,
    false_or]
  rw [← or_and_right, ← or_and_right, ← or_and_right, and_comm]

/-- Where all forms are derived, the plural has no capital letter, and every constant but those that
are reserved words has one. -/
theorem plural_notMem_ofName (hplural : isReserved (pluralize name) = false)
    {related : List Names} (hrelated : ∀ r ∈ related, isExactEntityName r.name = true) :
    word (Names.ofName name).plural ∉ (storeConstants (.ofName name) related).tail.map word := by
  have hexact := isExactEntityName_pluralize hname
  have hword : word (Names.ofName name).plural = pluralize name :=
    word_eq_self fun c hc => isPart_of_isNamePart (isNamePart_of_mem hexact hc)
  -- the plural has no capital; of the others only two have none, and those are reserved
  have hsmall : ∀ c ∈ (pluralize name).toList, isNamePart c = true := fun c =>
    isNamePart_of_mem hexact
  have hverbs : ∀ c ∈ (verbConstants (.ofName name)).map word,
      ∃ x ∈ c.toList, isNamePart x = false := by
    obtain ⟨y, ys, hcap, hy, -⟩ := exists_capital hname
    obtain ⟨z, zs, hcaps, hz, -⟩ := exists_capital hexact
    rw [map_word_verbConstants_ofName hname]
    simp only [List.forall_mem_cons, List.not_mem_nil, false_imp_iff, implies_true, and_true]
    exact ⟨⟨y, by simp [hcap], hy⟩, ⟨z, by simp [hcaps], hz⟩, ⟨y, by simp [hcap], hy⟩,
      ⟨y, by simp [hcap], hy⟩, ⟨y, by simp [hcap], hy⟩, ⟨y, by simp [hcap], hy⟩⟩
  rw [(perm_storeConstants _ _).mem_iff, hword]
  intro hmem
  rcases List.mem_append.mp hmem with hmem | hmem
  · rcases List.mem_append.mp hmem with hmem | hmem
    · have hreserved : ∀ c ∈ ["loading", "error"], isReserved c = true := by decide
      rw [hreserved _ hmem] at hplural
      cases hplural
    · have hcapital := capital_of_mem_usedConstants hname hrelated _ hmem
      exact absurd (hsmall _ hcapital) (by decide)
  · obtain ⟨x, hx, hpart⟩ := hverbs _ hmem
    rw [hsmall x hx] at hpart
    cases hpart

/-- Without overrides, a store of stores may use another store that is named like one of its own
constants. -/
theorem storeApart_ofName (hplural : isReserved (pluralize name) = false) {targets : List String}
    (htargets : ∀ r ∈ targets, isExactEntityName r = true)
    (hfree : ∀ r ∈ targets, isReserved r = false) :
    StoreApart (.ofName name) (targets.map .ofName)
      ↔ ¬ (name = "store" ∧ ∃ r ∈ targets, r ∈ ["current", "create", "update"]) := by
  have hstore : isExactEntityName "store" = true ∧ "store".toList.getLast? ≠ some 's'
      ∧ Text.capitalize "store" = "Store" := by decide
  have hservice : isExactEntityName "service" = true ∧ "service".toList.getLast? ≠ some 's'
      ∧ Text.capitalize "service" = "Service" := by decide
  have hword : ∀ r ∈ targets, word (storeConst (.ofName r)) = r ++ Text.capitalize "store" := by
    intro r hr
    rw [hstore.2.2]
    exact word_exactName_append (htargets r hr) (by decide)
  constructor
  · rintro h ⟨heq, r, hr, hverb⟩
    have hapart := h.used (storeConst (.ofName r))
      (List.mem_cons_of_mem _ (List.mem_map_of_mem (List.mem_map_of_mem hr)))
    rw [hword r hr, mem_verbConstants_ofName hname (htargets r hr) hstore.1 hstore.2.1] at hapart
    have hsubset : ["current", "create", "update"] ⊆ ["current", "create", "update", "delete"] := by
      decide
    exact hapart ⟨heq, hsubset hverb⟩
  · intro h
    refine ⟨plural_notMem_ofName hname hplural (List.forall_mem_map.mpr htargets), ?_, ?_⟩
    · rw [usedConstants, List.forall_mem_cons, List.map_map, List.forall_mem_map]
      constructor
      · have hself : word (serviceConst (.ofName name)) = name ++ Text.capitalize "service" := by
          rw [hservice.2.2]
          exact word_exactName_append hname (by decide)
        rw [hself, mem_verbConstants_ofName hname hname hservice.1 hservice.2.1]
        rintro ⟨rfl, hmem⟩
        exact absurd hmem (by decide)
      · intro r hr
        show word (storeConst (.ofName r)) ∉ _
        rw [hword r hr, mem_verbConstants_ofName hname (htargets r hr) hstore.1 hstore.2.1]
        rintro ⟨heq, hmem⟩
        refine h ⟨heq, r, hr, ?_⟩
        -- a related entity is not named by the keyword among the verbs
        have hkeyword : r ≠ "delete" := by
          rintro rfl
          exact absurd (hfree _ hr) (by decide)
        simpa [hkeyword] using hmem
    · rw [word_fetchAll, word_fetchOne, word_capitalizedPlural_ofName hname,
        word_capitalized_append_ofName hname]
      intro heq
      exact capitalize_ne_append_byId (isExactEntityName_pluralize hname) hname
        ((String.append_right_inj _).mp heq)

/-- Without overrides, the service of fields has a function twice. -/
theorem serviceApart_ofName : ServiceApart (.ofName name) ↔ name ≠ "field" := by
  have hfield : isExactEntityName "field" = true ∧ Text.capitalize "field" = "Field" := by decide
  have hcap : word (Names.ofName name).capitalized = Text.capitalize name := word_capitalize hname
  constructor
  · rintro h rfl
    exact h.change (hcap.trans hfield.2)
  · intro h
    constructor
    · rw [hcap, ← hfield.2]
      exact fun heq => h (capitalize_injective hname hfield.1 heq)
    · rw [word_getAll, word_getOne, word_capitalizedPlural_ofName hname,
        word_capitalized_append_ofName hname]
      intro heq
      exact capitalize_ne_append_byId (isExactEntityName_pluralize hname) hname
        ((String.append_right_inj _).mp heq)

end

example : (serviceMembers (.ofName "field")).map word = ["getFields", "getFieldById", "createField",
    "updateField", "deleteField", "updateField"] := by
  decide

/-! ### Accepted documents -/

theorem isInline_path {d : Document} (hd : d.WellFormed)
    (hname : isExactEntityName d.name = true) : IsInline d.names.path := by
  rcases Document.path_names hd with ⟨path, -, heq, hpath⟩ | ⟨-, heq⟩
  · rw [heq]
    exact isInline_of_notMem (notMem_of_matchesLine hpath (by decide) (by decide) (by decide))
  · rw [heq]
    exact .of_isIdentifier (Document.areIdentifiers_names hd hname).plural

/-- The store and the service of an accepted entity are made of these constants, as they can be read
in the files. They are apart just where `StoreApart` and `ServiceApart` say so, which a document may
break by what it overrides. Where it overrides nothing, they are apart but for the name `field`, and
the name `store` beside one of three related entities. -/
theorem constants_apart_iff {v : Value} {d : Document} {s : Settings}
    (hparse : Document.parse v = .ok d) (hvalid : d.findings.isValid = true) (hs : s.WellFormed)
    (hwritable : s.IsWritable) (hfrontend : s.generateFrontend = true) :
    ∃ files store service, assemble v s = .ok files
      ∧ ⟨.frontend, "stores/" ++ d.name ++ ".store.ts", store⟩ ∈ files
      ∧ ⟨.frontend, "services/" ++ d.name ++ ".service.ts", service⟩ ∈ files
      ∧ constants store = (storeConstants d.names (d.targets.map .ofName)).map word
      ∧ constants service = (serviceMembers d.names).map word
      ∧ ((constants store).Nodup ↔ StoreApart d.names (d.targets.map .ofName))
      ∧ ((constants service).Nodup ↔ ServiceApart d.names)
      ∧ (d.names = .ofName d.name →
        ((constants store).Nodup
            ↔ ¬ (d.name = "store" ∧ ∃ r ∈ d.targets, r ∈ ["current", "create", "update"]))
          ∧ ((constants service).Nodup ↔ d.name ≠ "field")) := by
  obtain ⟨hd, fields, -, -, hfiles⟩ := exists_assemble_eq_ok hparse hvalid
  have hname := Document.isExactEntityName_of_parse hparse
  have hn := Document.areIdentifiers_names hd hname
  have htargets : ∀ r ∈ d.targets, isExactEntityName r = true := fun r =>
    Document.isExactEntityName_of_mem_targets hd
  have hstore : constants (storeText d.names (d.targets.map .ofName))
      = (storeConstants d.names (d.targets.map .ofName)).map word :=
    constants_storeText hn (Entity.areIdentifiers_related hd fields)
  have hservice := constants_serviceText hs hn (isInline_path hd hname)
  -- targets are listed once, so equal constants of a store differ in what they are for
  have hnodup : ((d.targets.map Names.ofName).map (·.name)).Nodup := by
    have hnames : (d.targets.map Names.ofName).map (·.name) = d.targets :=
      Entity.map_name_related d fields
    rw [hnames]
    exact d.nodup_targets
  have hstoreApart : (constants (storeText d.names (d.targets.map .ofName))).Nodup
      ↔ StoreApart d.names (d.targets.map .ofName) := by
    rw [hstore, nodup_storeConstants hname (List.forall_mem_map.mpr htargets) hnodup]
  have hserviceApart : (constants (serviceText s d.names)).Nodup ↔ ServiceApart d.names := by
    rw [hservice, nodup_serviceMembers]
  refine ⟨_, storeText d.names (d.targets.map .ofName), serviceText s d.names, hfiles s hwritable,
    ?_, ?_, hstore, hservice, hstoreApart, hserviceApart, fun hderived => ⟨?_, ?_⟩⟩
  · exact Entity.mem_artifacts_of_mem_clientFiles hfrontend
      (List.mem_cons_of_mem _ (List.mem_cons_of_mem _ List.mem_cons_self))
  · exact Entity.mem_artifacts_of_mem_clientFiles hfrontend
      (List.mem_cons_of_mem _ List.mem_cons_self)
  · -- reserved words exclude all other clashes of derived names
    have hplural : isReserved (pluralize d.name) = false := by
      have hfree := hd.pluralFree
      rwa [hderived] at hfree
    have hfree : ∀ r ∈ d.targets, isReserved r = false := fun r hr =>
      (Document.admitsTarget_of_mem_targets hd hr).nameFree
    rw [hstoreApart, hderived, storeApart_ofName hname hplural htargets hfree]
  · rw [hserviceApart, hderived, serviceApart_ofName hname]

/-- The constants that the files about orders declare are apart. -/
theorem orders_constants_apart :
    ∃ files store service, assemble orderValue {} = .ok files
      ∧ ⟨.frontend, "stores/order.store.ts", store⟩ ∈ files
      ∧ ⟨.frontend, "services/order.service.ts", service⟩ ∈ files
      ∧ (constants store).Nodup
      ∧ constants service = ["getOrders", "getOrderById", "createOrder", "updateOrder",
        "deleteOrder", "updateField"] ∧ (constants service).Nodup := by
  obtain ⟨files, store, service, hfiles, hstore, hservice, -, hconstants, -, -, hderived⟩ :=
    constants_apart_iff (s := {}) parse_orderValue isValid_orderDocument
      Settings.wellFormed_default Settings.isWritable_default rfl
  obtain ⟨hstoreApart, hserviceApart⟩ := hderived rfl
  have hname : orderDocument.name ≠ "store" ∧ orderDocument.name ≠ "field" := by decide
  refine ⟨files, store, service, hfiles, hstore, hservice, hstoreApart.mpr ?_, ?_,
    hserviceApart.mpr hname.2⟩
  · exact fun h => hname.1 h.1
  · rw [hconstants]
    decide

end Scaffold.Client
