import Mathlib.Data.List.Nodup
import Scaffold.Client.Interface
import Scaffold.Proofs.Field
import Scaffold.Proofs.Text.FileLines

/-!
# The interfaces of related entities

The file with the interfaces declares every related entity exactly once
(`Client.count_interfaceHeader`). Only the lines in front of interfaces end with an opening brace,
and the names in them are those of different entities, or those of payloads, which have a capital
letter that no name of a related entity has.
-/

namespace Scaffold.Client

open Identifier Text

/-- The first line of an interface. -/
def interfaceHeader (name : String) : String := "export interface " ++ name ++ " \x7b"

/-- The lines of an interface but the last one. -/
def interfaceBody (name : String) (members : List String) : List String :=
  interfaceHeader name :: members

theorem interfaceBlock_eq (name : String) (members : List String) :
    interfaceBlock name members = interfaceBody name members ++ ["\x7d"] := by
  rfl

theorem toList_interfaceHeader (name : String) :
    (interfaceHeader name).toList
      = ("export interface".toList ++ ' ' :: name.toList) ++ " \x7b".toList := by
  have hblank : "export interface ".toList = "export interface".toList ++ [' '] := by decide
  unfold interfaceHeader
  rw [String.toList_append, String.toList_append, hblank, List.append_assoc _ [' '],
    List.singleton_append]

theorem endsOutside_interfaceHeader (name : String) :
    endsOutside (interfaceHeader name).toList = true := by
  rw [toList_interfaceHeader]
  exact endsOutside_append _ (by decide)

/-- The names in two such lines are the same when one line ends the other. -/
theorem eq_of_interfaceHeader_suffix {a b : String} (ha : ' ' ∉ a.toList) (hb : ' ' ∉ b.toList)
    (h : (interfaceHeader a).toList <:+ (interfaceHeader b).toList) : a = b := by
  obtain ⟨front, heq⟩ := h
  rw [toList_interfaceHeader, toList_interfaceHeader, ← List.append_assoc] at heq
  have hsuffix := List.append_cancel_right heq
  exact String.toList_inj.mp (eq_of_suffix_of_notMem ha hb ⟨front, hsuffix⟩)

/-! ### Lines of other interfaces -/

/-- A line that begins no interface, or begins one of another name. -/
def IsOther (name line : String) : Prop :=
  Avoids [[' ', '\x7b']] line
    ∨ ∃ other, line = interfaceHeader other ∧ IsTame other ∧ ' ' ∉ other.toList ∧ other ≠ name

/-- Such lines do not begin the interface. -/
theorem interfaceHeader_notMem {name : String} {lines : List String} (hname : ' ' ∉ name.toList)
    (h : ∀ line ∈ lines, IsOther name line) :
    interfaceHeader name ∉ lines.flatMap (splitOn '\n') := by
  intro hmem
  obtain ⟨line, hline, hsplit⟩ := List.mem_flatMap.mp hmem
  rcases h line hline with havoids | ⟨other, rfl, htame, hblank, hne⟩
  · have hsuffix := suffix_of_mem_splitOn havoids.tame (endsOutside_interfaceHeader name) hsplit
    refine havoids.not_suffix [' ', '\x7b'] List.mem_cons_self (List.IsSuffix.trans ?_ hsuffix)
    rw [toList_interfaceHeader]
    exact List.suffix_append _ _
  · have htame' : IsTame (interfaceHeader other) :=
      .append (.append (.literal rfl) htame) (.literal rfl)
    have hsuffix := suffix_of_mem_splitOn htame' (endsOutside_interfaceHeader name) hsplit
    exact hne (eq_of_interfaceHeader_suffix hname hblank hsuffix).symm

/-- A member ends with a semicolon. -/
theorem isOther_member {name : String} {m : FieldMapping} (hkey : isIdentifier m.key = true)
    (htype : IsTame m.clientType) {line : String}
    (h : line = requiredMember m ∨ line = optionalMember m) : IsOther name line := by
  have hkey := IsTame.of_isIdentifier hkey
  left
  rcases h with rfl | rfl
  · exact .append_literal (.append (.append (.append (.literal rfl) hkey) (.literal rfl)) htype) rfl
  · exact .append_literal (.append (.append (.append (.literal rfl) hkey) (.literal rfl)) htype) rfl

/-- All lines of another interface with such members. -/
theorem isOther_of_mem_interfaceBody {name other : String} {members : List String}
    (htame : IsTame other) (hblank : ' ' ∉ other.toList) (hne : other ≠ name)
    (hmembers : ∀ line ∈ members, IsOther name line) :
    ∀ line ∈ interfaceBody other members, IsOther name line :=
  List.forall_mem_cons.mpr ⟨.inr ⟨other, rfl, htame, hblank, hne⟩, hmembers⟩

/-! ### The file -/

theorem isTame_clientType {s : FieldSpec}
    (h : ∀ target, s.type.target? = some target → isExactEntityName target = true) :
    IsTame s.mapping.clientType := by
  unfold FieldSpec.mapping
  split
  next entity cardinality htype =>
    have hentity := h entity (by rw [htype]; rfl)
    refine IsTame.append (.of_isIdentifier (Names.areIdentifiers_ofName hentity).capitalized) ?_
    split <;> exact .literal rfl
  next =>
    show IsTame "string"
    exact .literal rfl
  next kind _ =>
    split
    next =>
      show IsTame "string"
      exact .literal rfl
    next =>
      show IsTame kind.word
      cases kind <;> exact .literal rfl

/-- The names in these lines have no blank in them. -/
theorem blank_notMem {name : String} (h : isIdentifier name = true) : ' ' ∉ name.toList :=
  notMem_of_isIdentifier h (by decide) (by decide)

theorem isTame_payloadType {first cap : String} (hfirst : '\n' ∉ first.toList)
    (hcap : isIdentifier cap = true) : IsTame (first ++ cap ++ "Dto") :=
  .append (.append (isTame_of_notMem hfirst) (.of_isIdentifier hcap)) (.literal rfl)

theorem blank_notMem_payloadType {first cap : String} (hfirst : ' ' ∉ first.toList)
    (hcap : isIdentifier cap = true) : ' ' ∉ (first ++ cap ++ "Dto").toList := by
  simp [hfirst, blank_notMem hcap]

/-- The type of a payload has a capital letter behind its first character. -/
theorem payloadType_ne_capitalize {first cap target : String} (hfirst : first ≠ "")
    (htarget : isExactEntityName target = true) :
    first ++ cap ++ "Dto" ≠ Text.capitalize target := by
  intro heq
  cases hfirst' : first.toList with
  | nil => exact hfirst (String.toList_eq_nil_iff.mp hfirst')
  | cons c rest =>
    have hlist : (Text.capitalize target).toList = c :: (rest ++ cap.toList ++ "Dto".toList) := by
      rw [← heq, String.toList_append, String.toList_append, hfirst']
      rfl
    have hpart := isNamePart_of_capitalize htarget hlist 'D'
      (List.mem_append_right _ (by decide))
    exact absurd hpart (by decide)

/-- The lines of the interfaces of the entity itself, but the last one. -/
def ownInterfaces (e : Entity) : List String :=
  readInterface e ++ [""] ++ createInterface e ++ [""]
    ++ interfaceBody (updateType e.names) (e.payload.map optionalMember)

theorem interfaceLines_eq (e : Entity) :
    interfaceLines e
      = (e.related.flatMap (fun n => relatedInterface n ++ [""]) ++ ownInterfaces e)
        ++ ["\x7d"] := by
  simp only [interfaceLines, updateInterface, ownInterfaces, interfaceBlock_eq, List.append_assoc]

/-- The lines of the file, one for each line feed. -/
theorem splitOn_interfaceText (e : Entity) :
    splitOn '\n' (interfaceText e)
      = (e.related.flatMap fun n => (relatedInterface n ++ [""]).flatMap (splitOn '\n'))
        ++ (ownInterfaces e).flatMap (splitOn '\n') ++ ["\x7d", ""] := by
  have hlast : "\x7d".toList.getLast? = some '}' := by decide
  have hclose : splitOn '\n' "\x7d" = ["\x7d"] := by decide
  unfold interfaceText
  rw [interfaceLines_eq, splitOn_joinLines hlast (by decide), List.flatMap_append,
    List.flatMap_assoc, hclose, List.append_assoc _ ["\x7d"], List.singleton_append]

theorem isOther_empty (name : String) : IsOther name "" :=
  .inl (.literal rfl)

theorem isOther_close (name : String) : IsOther name "\x7d" :=
  .inl (.literal rfl)

/-- The interface of a related entity begins on the first line of its own block. -/
theorem count_relatedInterface {target other : String} (htarget : isExactEntityName target = true)
    (hother : isExactEntityName other = true) :
    ((relatedInterface (Names.ofName other) ++ [""]).flatMap (splitOn '\n')).count
      (interfaceHeader (Text.capitalize target)) = if other = target then 1 else 0 := by
  have hcap := isIdentifier_capitalize (isIdentifier_of_isExactEntityName htarget)
  have hblank := blank_notMem hcap
  -- only the first line of the block begins an interface
  have hrest : interfaceHeader (Text.capitalize target)
      ∉ ["  _id: string;", "  name: string;", "  description?: string;", "\x7d", ""].flatMap
        (splitOn '\n') := by
    refine interfaceHeader_notMem hblank ?_
    simp only [List.forall_mem_cons, List.not_mem_nil, false_imp_iff, implies_true, and_true]
    exact ⟨.inl (.literal rfl), .inl (.literal rfl), .inl (.literal rfl), isOther_close _,
      isOther_empty _⟩
  have hbreak : '\n' ∉ (interfaceHeader (Text.capitalize other)).toList := by
    have hname : '\n' ∉ (Text.capitalize other).toList :=
      fun h => absurd (isPart_of_mem_capitalize hother h) (by decide)
    unfold interfaceHeader
    simp [hname]
  show ((interfaceHeader (Text.capitalize other) :: ["  _id: string;", "  name: string;",
    "  description?: string;", "\x7d", ""]).flatMap (splitOn '\n')).count _ = _
  rw [List.flatMap_cons, splitOn_of_notMem hbreak, List.count_append, List.count_eq_zero.mpr hrest]
  by_cases heq : other = target
  · subst heq
    simp
  · have hne :
        interfaceHeader (Text.capitalize other) ≠ interfaceHeader (Text.capitalize target) := by
      intro h
      have hblank' := blank_notMem
        (isIdentifier_capitalize (isIdentifier_of_isExactEntityName hother))
      have hcapitalized := eq_of_interfaceHeader_suffix hblank' hblank (h ▸ List.suffix_refl _)
      exact heq (capitalize_injective hother htarget hcapitalized)
    simp [heq, hne]

section

variable {d : Document} {fields : List FieldSpec}

/-- The keys of mapped fields are identifiers, and their types are tame. -/
theorem member_of_mem_mappings (hd : d.WellFormed)
    (hfields : List.Forall₂ (Entity.Reads d) d.schema.entries fields) {m : FieldMapping}
    (hm : m ∈ (Entity.ofFields d fields).mappings) :
    isIdentifier m.key = true ∧ IsTame m.clientType := by
  refine ⟨Entity.isIdentifier_key hd hfields hm, ?_⟩
  obtain ⟨field, hfield, rfl⟩ := List.mem_map.mp hm
  exact isTame_clientType fun _ => Entity.isExactEntityName_of_target? hd hfields hfield

/-- No interface of the entity itself is that of a related entity. -/
theorem isOther_of_mem_ownInterfaces (hd : d.WellFormed) (hname : isExactEntityName d.name = true)
    (hfields : List.Forall₂ (Entity.Reads d) d.schema.entries fields) {target : String}
    (htarget : target ∈ d.targets) :
    ∀ line ∈ ownInterfaces (Entity.ofFields d fields), IsOther (Text.capitalize target) line := by
  have hexact := Document.isExactEntityName_of_mem_targets hd htarget
  have hcap := (Document.areIdentifiers_names hd hname).capitalized
  -- the capitalized name would be a form of both
  have hapart : d.names.capitalized ≠ Text.capitalize target := by
    have hforms := (Document.admitsTarget_of_mem_targets hd htarget).isApart d.names.capitalized
    intro heq
    exact hforms (by simp [Names.forms]) (by simp [heq, Names.forms, Names.capitalized_ofName])
  have hmember : ∀ m ∈ (Entity.ofFields d fields).mappings,
      IsOther (Text.capitalize target) (requiredMember m)
        ∧ IsOther (Text.capitalize target) (optionalMember m) := by
    intro m hm
    obtain ⟨hkey, htype⟩ := member_of_mem_mappings hd hfields hm
    exact ⟨isOther_member hkey htype (.inl rfl), isOther_member hkey htype (.inr rfl)⟩
  have hpayload : ∀ m ∈ (Entity.ofFields d fields).payload,
      m ∈ (Entity.ofFields d fields).mappings := fun m hm => (List.mem_filter.mp hm).1
  unfold ownInterfaces readInterface createInterface
  rw [interfaceBlock_eq, interfaceBlock_eq]
  simp only [List.forall_mem_append, List.forall_mem_singleton]
  refine ⟨⟨⟨⟨⟨?_, isOther_close _⟩, isOther_empty _⟩, ?_, isOther_close _⟩, isOther_empty _⟩, ?_⟩
  · refine isOther_of_mem_interfaceBody (.of_isIdentifier hcap) (blank_notMem hcap) hapart ?_
    refine List.forall_mem_cons.mpr ⟨.inl (.literal rfl), ?_⟩
    exact List.forall_mem_map.mpr fun m hm => (hmember m hm).1
  · refine isOther_of_mem_interfaceBody (isTame_payloadType (by decide) hcap)
      (blank_notMem_payloadType (by decide) hcap) (payloadType_ne_capitalize (by decide) hexact) ?_
    refine List.forall_mem_map.mpr fun m hm => ?_
    unfold createMember
    split
    next => exact (hmember m (hpayload m hm)).1
    next => exact (hmember m (hpayload m hm)).2
  · refine isOther_of_mem_interfaceBody (isTame_payloadType (by decide) hcap)
      (blank_notMem_payloadType (by decide) hcap) (payloadType_ne_capitalize (by decide) hexact) ?_
    exact List.forall_mem_map.mpr fun m hm => (hmember m (hpayload m hm)).2

/-- The interface of a related entity begins on one line of the file. -/
theorem count_interfaceHeader (hd : d.WellFormed) (hname : isExactEntityName d.name = true)
    (hfields : List.Forall₂ (Entity.Reads d) d.schema.entries fields) {target : String}
    (htarget : target ∈ d.targets) :
    (splitOn '\n' (interfaceText (Entity.ofFields d fields))).count
      (interfaceHeader (Text.capitalize target)) = 1 := by
  have hexact := Document.isExactEntityName_of_mem_targets hd htarget
  have hblank := blank_notMem (isIdentifier_capitalize (isIdentifier_of_isExactEntityName hexact))
  have hown := interfaceHeader_notMem hblank
    (isOther_of_mem_ownInterfaces hd hname hfields htarget)
  have hend : interfaceHeader (Text.capitalize target) ∉ ["\x7d", ""].flatMap (splitOn '\n') :=
    interfaceHeader_notMem hblank (by
      simpa using ⟨isOther_close _, isOther_empty _⟩)
  rw [splitOn_interfaceText, List.count_append, List.count_append, List.count_eq_zero.mpr hown,
    List.count_eq_zero.mpr (show _ ∉ ["\x7d", ""] from hend), Entity.ofFields, List.flatMap_map,
    count_flatMap target fun other hother => count_relatedInterface hexact
      (Document.isExactEntityName_of_mem_targets hd hother)]
  exact List.count_eq_one_of_mem d.nodup_targets htarget

end

end Scaffold.Client
