import Scaffold.Proofs.Text.FileLines
import Scaffold.Text.DocText

/-!
# Texts without line feeds

Literals and the texts of documentation comments have no line feed, whatever they are made of, so
that a rendered line with nothing else in it is one line of a file. `Unbroken` is closed under what
puts lines together.
-/

namespace Scaffold.Text

/-- A text without line feeds. -/
def Unbroken (s : String) : Prop := '\n' ∉ s.toList

instance (s : String) : Decidable (Unbroken s) :=
  inferInstanceAs (Decidable ('\n' ∉ s.toList))

/-- Joined texts are those in front and those behind, with a separator between them. -/
theorem intercalate_append {sep : String} {front back : List String} (hfront : front ≠ [])
    (hback : back ≠ []) :
    sep.intercalate (front ++ back) = sep.intercalate front ++ sep ++ sep.intercalate back := by
  induction front with
  | nil => exact absurd rfl hfront
  | cons first rest ih =>
    cases rest with
    | nil =>
      obtain ⟨second, others, rfl⟩ := List.exists_cons_of_ne_nil hback
      simp
    | cons second others =>
      rw [List.cons_append, List.cons_append, String.intercalate_cons_cons, ← List.cons_append,
        ih (List.cons_ne_nil _ _), String.intercalate_cons_cons]
      simp only [String.append_assoc]

theorem Unbroken.append {s t : String} (hs : Unbroken s) (ht : Unbroken t) : Unbroken (s ++ t) :=
  notMem_append hs ht

theorem Unbroken.intercalate {sep : String} (hsep : Unbroken sep) {parts : List String}
    (h : ∀ part ∈ parts, Unbroken part) : Unbroken (sep.intercalate parts) :=
  intercalate_of_append (by decide) Unbroken.append hsep h

theorem unbroken_literal (s : String) : Unbroken (literal s) :=
  fun h => (mem_of_mem_literal h).1 rfl

theorem unbroken_literalList (items : List String) : Unbroken (literalList items) := by
  have hitems : ∀ part ∈ items.map literal, Unbroken part :=
    List.forall_mem_map.mpr fun item _ => unbroken_literal item
  exact ((show Unbroken "[" by decide).append (.intercalate (by decide) hitems)).append (by decide)

/-! ### Documentation comments -/

theorem hexDigit_ne_break {n : Nat} (h : n < 16) : hexDigit n ≠ '\n' := by
  have hall : ∀ m < 16, hexDigit m ≠ '\n' := by decide
  exact hall n h

theorem break_notMem_hexChars (width n : Nat) : '\n' ∉ hexChars width n := by
  intro h
  obtain ⟨i, -, hdigit⟩ := List.mem_map.mp h
  exact hexDigit_ne_break (Nat.mod_lt _ (by decide)) hdigit

theorem break_notMem_docChar (c : Char) : '\n' ∉ DocText.encodeChar c := by
  unfold DocText.encodeChar
  -- a line feed is one of the characters that become escapes
  by_cases hbreak : c = '\n'
  · subst hbreak
    decide
  · split_ifs
    all_goals first | decide | skip
    · simpa using break_notMem_hexChars 4 c.toNat
    · simpa using Ne.symm hbreak

/-- Guarding a text adds nothing to it but backslashes. -/
theorem mem_of_mem_guardClose {cs : List Char} {c : Char} (h : c ∈ DocText.guardClose cs) :
    c ∈ cs ∨ c = '\\' := by
  induction cs using DocText.guardClose.induct with
  | case1 rest ih =>
    rw [DocText.guardClose] at h
    simp only [List.mem_cons] at h ⊢
    rcases h with h | h | h | h
    · exact .inl (.inl h)
    · exact .inr h
    · exact .inl (.inr (.inl h))
    · exact (ih h).imp (fun h => .inr (.inr h)) id
  | case2 c' rest hne ih =>
    rw [DocText.guardClose.eq_2 _ _ hne] at h
    rcases List.mem_cons.mp h with rfl | h
    · exact .inl List.mem_cons_self
    · exact (ih h).imp (List.mem_cons_of_mem _) id
  | case3 => cases h

theorem unbroken_docText (s : String) : Unbroken (docText s) := by
  unfold Unbroken docText
  rw [String.toList_ofList]
  intro h
  rcases mem_of_mem_guardClose h with h | h
  · rw [List.mem_append, List.mem_cons] at h
    rcases h with (h | h) | h
    · cases h
    · obtain ⟨c, -, hc⟩ := List.mem_flatMap.mp h
      exact break_notMem_docChar c hc
    · exact absurd h (by decide)
  · cases h

end Scaffold.Text
