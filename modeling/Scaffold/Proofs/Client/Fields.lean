import Scaffold.Client.Interface
import Scaffold.Proofs.Field
import Scaffold.Proofs.Script

/-!
# Fields in interfaces

The file with the interfaces lists all fields in what is received, and the fields that are edited in
what is sent, both in schema order.
-/

namespace Scaffold.Client

/-- The line of an interface for a key, with a mark behind the key. -/
def IsMember (mark key line : String) : Prop :=
  ∃ type, ';' ∉ type.toList ∧ line = "  " ++ key ++ mark ++ ": " ++ type ++ ";"

/-- The file with the interfaces lists all keys in what is received, and the edited ones in what is
sent. -/
structure InterfacesShow (n : Names) (keys edited : List String) (content : String) : Prop where
  received : ∃ members, List.Forall₂ (IsMember "") keys members
    ∧ HasLines content (["export interface " ++ n.capitalized ++ " \x7b", "  _id: string;"]
      ++ members ++ ["\x7d"])
  created : ∃ members,
    List.Forall₂ (fun key line => IsMember "" key line ∨ IsMember "?" key line) edited members
      ∧ HasLines content (["export interface Create" ++ n.capitalized ++ "Dto \x7b"] ++ members
        ++ ["\x7d"])
  updated : ∃ members, List.Forall₂ (IsMember "?") edited members
    ∧ HasLines content (["export interface Update" ++ n.capitalized ++ "Dto \x7b"] ++ members
      ++ ["\x7d"])

/-! ### Where the members are -/

/-- The members of what is sent to make an entity. -/
theorem hasLines_created (e : Entity) :
    HasLines (interfaceText e) (["export interface Create" ++ e.names.capitalized ++ "Dto \x7b"]
      ++ e.payload.map createMember ++ ["\x7d"]) := by
  have hheader : "export interface Create" ++ e.names.capitalized ++ "Dto \x7b"
      = "export interface " ++ createType e.names ++ " \x7b" := by
    simp [createType, ← String.toList_inj]
  rw [hheader]
  apply hasLines_joinLines
  show createInterface e <:+: _
  rw [interfaceLines, List.append_assoc _ [""]]
  exact List.infix_append _ _ _

/-- The members of what is sent to change an entity. -/
theorem hasLines_updated (e : Entity) :
    HasLines (interfaceText e) (["export interface Update" ++ e.names.capitalized ++ "Dto \x7b"]
      ++ e.payload.map optionalMember ++ ["\x7d"]) := by
  have hheader : "export interface Update" ++ e.names.capitalized ++ "Dto \x7b"
      = "export interface " ++ updateType e.names ++ " \x7b" := by
    simp [updateType, ← String.toList_inj]
  rw [hheader]
  apply hasLines_joinLines
  show updateInterface e <:+: _
  exact (List.suffix_append _ _).isInfix

section

variable {d : Document} {fields : List FieldSpec} (hd : d.WellFormed)
  (hfields : List.Forall₂ (Entity.Reads d) d.schema.entries fields)

include hd hfields

theorem isMember_of_mem_mappings {m : FieldMapping} (hm : m ∈ (Entity.ofFields d fields).mappings) :
    IsMember "" m.key (requiredMember m) ∧ IsMember "?" m.key (optionalMember m) := by
  obtain ⟨field, hfield, rfl⟩ := List.mem_map.mp hm
  have htype : ';' ∉ field.mapping.clientType.toList :=
    FieldSpec.notMem_clientType (fun target htarget =>
      Entity.isExactEntityName_of_target? hd hfields hfield htarget)
      (by decide) (by decide) (by decide)
  refine ⟨⟨_, htype, ?_⟩, ⟨_, htype, ?_⟩⟩
  · simp [requiredMember]
  · simp [optionalMember, ← String.toList_inj]

/-- The interfaces list the fields. -/
theorem interfacesShow :
    InterfacesShow d.names d.schema.keys d.editedKeys
      (interfaceText (Entity.ofFields d fields)) where
  received := by
    refine ⟨(Entity.ofFields d fields).mappings.map requiredMember, ?_,
      hasLines_joinLines ?_⟩
    · rw [← Entity.map_key_mappings hfields]
      exact forall₂_map_key fun m hm => (isMember_of_mem_mappings hd hfields hm).1
    · show readInterface (Entity.ofFields d fields) <:+: _
      rw [interfaceLines, List.append_assoc, List.append_assoc, List.append_assoc]
      exact List.infix_append _ _ _
  created := by
    refine ⟨(Entity.ofFields d fields).payload.map createMember, ?_, hasLines_created _⟩
    rw [← Entity.map_key_payload hfields]
    refine forall₂_map_key fun m hm => ?_
    have hmember := isMember_of_mem_mappings hd hfields (List.mem_filter.mp hm).1
    unfold createMember
    split
    · exact .inl hmember.1
    · exact .inr hmember.2
  updated := by
    refine ⟨(Entity.ofFields d fields).payload.map optionalMember, ?_, hasLines_updated _⟩
    rw [← Entity.map_key_payload hfields]
    exact forall₂_map_key fun m hm =>
      (isMember_of_mem_mappings hd hfields (List.mem_filter.mp hm).1).2

end

end Scaffold.Client
