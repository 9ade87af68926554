import Mathlib.Data.List.Basic

/-!
# Texts and their parts

Generated code is put together with `++` out of texts that are written out and texts that are given.
`IsMadeOf` reads these parts off the way a text is put together, and `AreMadeOf` reads off those of
lines: its instances follow the constructors of the list and the operands of `++`. A property that a
text has when its parts have it (`IsPiecewise`) so comes to hold of many lines in one step
(`IsPiecewise.lines`): the parts that are written out are checked by evaluation, and the given ones
remain to be shown.
-/

namespace Scaffold.Text

/-- A part of a text. -/
inductive TextPart where
  /-- Characters that are written out. -/
  | fixed (cs : List Char)
  /-- A text that is given. -/
  | given (s : String)

namespace TextPart

def text : TextPart → String
  | fixed cs => String.ofList cs
  | given s => s

def given? : TextPart → Option String
  | fixed _ => none
  | given s => some s

/-- Whether a part passes a check that is made of what is written out. -/
def passes (check : List Char → Bool) : TextPart → Bool
  | fixed cs => check cs
  | given _ => true

end TextPart

/-- The text that some parts make. -/
def ofParts (parts : List TextPart) : String := String.join (parts.map TextPart.text)

theorem ofParts_cons (part : TextPart) (parts : List TextPart) :
    ofParts (part :: parts) = part.text ++ ofParts parts := by
  rw [ofParts, List.map_cons, String.join_cons, ofParts]

theorem ofParts_append (front back : List TextPart) :
    ofParts (front ++ back) = ofParts front ++ ofParts back := by
  rw [ofParts, List.map_append, String.join_append, ofParts, ofParts]

@[simp] theorem ofParts_singleton (part : TextPart) : ofParts [part] = part.text := by
  rw [ofParts_cons]
  exact String.append_empty

/-- The given texts among the parts of some lines. -/
def givenTexts (lines : List (List TextPart)) : List String :=
  lines.flatten.filterMap TextPart.given?

section

variable {ps : List TextPart} {lines : List (List TextPart)}

@[simp]
theorem givenTexts_nil : givenTexts [] = [] := rfl

@[simp]
theorem givenTexts_cons_nil : givenTexts ([] :: lines) = givenTexts lines := rfl

@[simp]
theorem givenTexts_cons_fixed (cs : List Char) :
    givenTexts ((.fixed cs :: ps) :: lines) = givenTexts (ps :: lines) := rfl

@[simp]
theorem givenTexts_cons_given (s : String) :
    givenTexts ((.given s :: ps) :: lines) = s :: givenTexts (ps :: lines) := rfl

theorem mem_givenTexts {s : String} (hps : ps ∈ lines) (hs : .given s ∈ ps) :
    s ∈ givenTexts lines :=
  List.mem_filterMap.mpr ⟨.given s, List.mem_flatten.mpr ⟨ps, hps, hs⟩, rfl⟩

end

/-! ### Reading parts -/

/-- A text is made of some parts. -/
class IsMadeOf (s : String) (parts : outParam (List TextPart)) : Prop where
  eq_ofParts : s = ofParts parts

/-- A text of which nothing else is known is given. -/
instance (priority := low) isMadeOf_given (s : String) : IsMadeOf s [.given s] where
  eq_ofParts := (ofParts_singleton (.given s)).symm

/-- The instance is tried on all texts, since a literal is not indexed by its characters. -/
instance isMadeOf_fixed (cs : List Char) : IsMadeOf (no_index (String.ofList cs)) [.fixed cs] where
  eq_ofParts := (ofParts_singleton (.fixed cs)).symm

instance isMadeOf_append (s t : String) (ps qs : List TextPart) [hs : IsMadeOf s ps]
    [ht : IsMadeOf t qs] : IsMadeOf (s ++ t) (ps ++ qs) where
  eq_ofParts := by rw [hs.eq_ofParts, ht.eq_ofParts, ofParts_append]

/-- Lines are made of some parts each. -/
class AreMadeOf (lines : List String) (parts : outParam (List (List TextPart))) : Prop where
  eq_map_ofParts : lines = parts.map ofParts

instance areMadeOf_nil : AreMadeOf [] [] where
  eq_map_ofParts := rfl

instance areMadeOf_cons (s : String) (lines : List String) (ps : List TextPart)
    (parts : List (List TextPart)) [hs : IsMadeOf s ps] [hlines : AreMadeOf lines parts] :
    AreMadeOf (s :: lines) (ps :: parts) where
  eq_map_ofParts := by rw [List.map_cons, ← hs.eq_ofParts, ← hlines.eq_map_ofParts]

instance areMadeOf_append (front back : List String) (ps qs : List (List TextPart))
    [hfront : AreMadeOf front ps] [hback : AreMadeOf back qs] :
    AreMadeOf (front ++ back) (ps ++ qs) where
  eq_map_ofParts := by rw [List.map_append, ← hfront.eq_map_ofParts, ← hback.eq_map_ofParts]

/-! ### Properties of parts -/

theorem notMem_append {c : Char} {s t : String} (hs : c ∉ s.toList) (ht : c ∉ t.toList) :
    c ∉ (s ++ t).toList := by
  rw [String.toList_append, List.mem_append, not_or]
  exact ⟨hs, ht⟩

/-- What holds of two texts put together holds of texts with a separator between them. -/
theorem intercalate_of_append {p : String → Prop} (hempty : p "")
    (happend : ∀ {s t}, p s → p t → p (s ++ t)) {sep : String} (hsep : p sep) {parts : List String}
    (h : ∀ part ∈ parts, p part) : p (sep.intercalate parts) := by
  induction parts with
  | nil => exact hempty
  | cons first rest ih =>
    obtain ⟨hfirst, hrest⟩ := List.forall_mem_cons.mp h
    cases rest with
    | nil => simpa using hfirst
    | cons second others =>
      rw [String.intercalate_cons_cons]
      exact happend (happend hfirst hsep) (ih hrest)

/-- A property that joined texts have when each of them has it, and a text that is written out when
it passes a check. -/
structure IsPiecewise (check : List Char → Bool) (holds : String → Prop) : Prop where
  empty : holds ""
  append : ∀ {s t : String}, holds s → holds t → holds (s ++ t)
  literal : ∀ {cs : List Char}, check cs = true → holds (String.ofList cs)

namespace IsPiecewise

variable {check : List Char → Bool} {holds : String → Prop} (h : IsPiecewise check holds)

include h

theorem holds_ofParts {parts : List TextPart} (hfixed : parts.all (TextPart.passes check) = true)
    (hgiven : ∀ s, .given s ∈ parts → holds s) : holds (ofParts parts) := by
  induction parts with
  | nil => exact h.empty
  | cons part rest ih =>
    rw [List.all_cons, Bool.and_eq_true] at hfixed
    have hrest := ih hfixed.2 fun s hs => hgiven s (.tail _ hs)
    rw [ofParts_cons]
    cases part with
    | fixed cs => exact h.append (h.literal hfixed.1) hrest
    | given s => exact h.append (hgiven s List.mem_cons_self) hrest

/-- A text has the property when what is given in it has. -/
theorem text {s : String} {parts : List TextPart} [hs : IsMadeOf s parts]
    (hfixed : parts.all (TextPart.passes check) = true)
    (hgiven : ∀ g ∈ givenTexts [parts], holds g) :
    holds s := by
  rw [hs.eq_ofParts]
  exact h.holds_ofParts hfixed fun g hg => hgiven g (mem_givenTexts List.mem_cons_self hg)

/-- Lines have the property when what is given in them has. -/
theorem lines {lines : List String} {parts : List (List TextPart)} [hlines : AreMadeOf lines parts]
    (hfixed : (parts.all fun ps => ps.all (TextPart.passes check)) = true)
    (hgiven : ∀ g ∈ givenTexts parts, holds g) : ∀ line ∈ lines, holds line := by
  rw [hlines.eq_map_ofParts]
  refine List.forall_mem_map.mpr fun ps hps => ?_
  exact h.holds_ofParts (List.all_eq_true.mp hfixed ps hps) fun g hg =>
    hgiven g (mem_givenTexts hps hg)

/-- Two properties of this kind are one. -/
theorem and {check' : List Char → Bool} {holds' : String → Prop} (h' : IsPiecewise check' holds') :
    IsPiecewise (fun cs => check cs && check' cs) fun s => holds s ∧ holds' s where
  empty := ⟨h.empty, h'.empty⟩
  append hs ht := ⟨h.append hs.1 ht.1, h'.append hs.2 ht.2⟩
  literal hcs := by
    rw [Bool.and_eq_true] at hcs
    exact ⟨h.literal hcs.1, h'.literal hcs.2⟩

end IsPiecewise

/-- That a character is in none of them is such a property. -/
theorem isPiecewise_notMem (c : Char) :
    IsPiecewise (fun cs => !cs.contains c) fun s => c ∉ s.toList where
  empty := List.not_mem_nil
  append := notMem_append
  literal hcs := by
    rw [String.toList_ofList]
    simpa using hcs

end Scaffold.Text
