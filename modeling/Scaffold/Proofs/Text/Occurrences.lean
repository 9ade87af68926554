import Mathlib.Algebra.GroupWithZero.Nat
import Mathlib.Data.List.Infix
import Scaffold.Proofs.Script
import Scaffold.Text.Literal

/-!
# Occurrences of a word

How often a word occurs in a file is known from its parts, if no occurrence reaches from one part
into the next: a part that ends with no beginning of the word is closed against it (`IsClosed`).
`Adds word n s` says that a part is closed and has the word `n` times; `AddsAll` says so of lines,
which a file joins. A literal has a word as often as its text, if the word needs no escapes
(`adds_literal`).
-/

namespace Scaffold.Text

/-- The number of places at which a word begins. -/
def occurrences (word : List Char) : List Char → Nat
  | [] => 0
  | c :: rest => (if word <+: c :: rest then 1 else 0) + occurrences word rest

/-- No beginning of the word but the whole word ends the text. -/
def IsClosed (word cs : List Char) : Prop :=
  ∀ part ∈ word.inits, part <:+ cs → part = [] ∨ part = word

instance (word cs : List Char) : Decidable (IsClosed word cs) :=
  inferInstanceAs (Decidable (∀ part ∈ word.inits, part <:+ cs → part = [] ∨ part = word))

section

variable {word a b cs : List Char}

theorem occurrences_eq_zero_iff (hword : word ≠ []) :
    occurrences word cs = 0 ↔ ¬ word <:+: cs := by
  induction cs with
  | nil => simp [occurrences, hword]
  | cons c rest ih =>
    rw [occurrences, Nat.add_eq_zero_iff, ih, List.infix_cons_iff, not_or]
    simp

theorem IsClosed.tail {c : Char} (h : IsClosed word (c :: cs)) : IsClosed word cs :=
  fun part hpart hsuffix => h part hpart (hsuffix.trans (List.suffix_cons c cs))

/-- No occurrence begins in a closed text and ends behind it. -/
theorem IsClosed.prefix_append_iff (h : IsClosed word a) (ha : a ≠ []) :
    word <+: a ++ b ↔ word <+: a := by
  constructor
  · intro hstarts
    rcases List.prefix_or_prefix_of_prefix hstarts (List.prefix_append a b) with hword | hpart
    · exact hword
    · rcases h a ((List.mem_inits a word).mpr hpart) (List.suffix_refl a) with hnil | heq
      · exact absurd hnil ha
      · exact heq ▸ List.prefix_refl a
  · exact fun hstarts => hstarts.trans (List.prefix_append a b)

theorem IsClosed.occurrences_append (h : IsClosed word a) :
    occurrences word (a ++ b) = occurrences word a + occurrences word b := by
  induction a with
  | nil => simp [occurrences]
  | cons c rest ih =>
    have hbegins := h.prefix_append_iff (b := b) (List.cons_ne_nil c rest)
    rw [List.cons_append] at hbegins
    rw [List.cons_append, occurrences, occurrences, ih h.tail]
    simp only [hbegins, Nat.add_assoc]

theorem IsClosed.append (ha : IsClosed word a) (hb : IsClosed word b) : IsClosed word (a ++ b) := by
  rintro part hpart ⟨before, heq⟩
  have hbegin : part <+: word := (List.mem_inits _ _).mp hpart
  rcases List.append_eq_append_iff.mp heq with ⟨front, rfl, rfl⟩ | ⟨front, rfl, rfl⟩
  · -- the part begins in the first text, which leaves nothing or the whole word of it there
    have hfront : front ∈ word.inits :=
      (List.mem_inits _ _).mpr ((List.prefix_append front b).trans hbegin)
    rcases ha front hfront (List.suffix_append _ _) with rfl | rfl
    · exact hb b hpart (List.suffix_refl b)
    · exact .inr (hbegin.eq_of_length_le (by simp))
  · exact hb part hpart (List.suffix_append _ _)

theorem isClosed_of_notMem {c : Char} (hhead : word.head? = some c) (hc : c ∉ cs) :
    IsClosed word cs := by
  intro part hpart hsuffix
  cases part with
  | nil => exact .inl rfl
  | cons first rest =>
    obtain ⟨behind, rfl⟩ := (List.mem_inits _ _).mp hpart
    obtain rfl : first = c := Option.some.inj hhead
    exact absurd (hsuffix.subset List.mem_cons_self) hc

theorem occurrences_of_notMem {c : Char} (hhead : word.head? = some c) (hc : c ∉ cs) :
    occurrences word cs = 0 := by
  obtain ⟨tail, rfl⟩ := List.head?_eq_some_iff.mp hhead
  exact (occurrences_eq_zero_iff (List.cons_ne_nil _ _)).mpr
    fun hoccurs => hc (hoccurs.subset List.mem_cons_self)

/-- A character that the word has not adds nothing at the end. -/
theorem occurrences_concat {c : Char} (hword : word ≠ []) (hc : c ∉ word) :
    occurrences word (cs ++ [c]) = occurrences word cs := by
  have hstarts : ∀ text, word <+: text ++ [c] ↔ word <+: text := by
    intro text
    rw [List.prefix_concat_iff, or_iff_right]
    rintro rfl
    simp at hc
  induction cs with
  | nil =>
    have hbegin := hstarts []
    rw [List.nil_append, List.prefix_nil] at hbegin
    simp [occurrences, hbegin, hword]
  | cons x rest ih =>
    have hbegin := hstarts (x :: rest)
    rw [List.cons_append] at hbegin
    rw [List.cons_append, occurrences, occurrences, ih]
    simp only [hbegin]

theorem isClosed_concat {c : Char} (hc : c ∉ word) : IsClosed word (cs ++ [c]) := by
  intro part hpart hsuffix
  rcases List.eq_nil_or_concat part with rfl | ⟨front, last, rfl⟩
  · exact .inl rfl
  · obtain ⟨before, heq⟩ := hsuffix
    obtain rfl : last = c := by
      rw [List.concat_eq_append, ← List.append_assoc] at heq
      exact List.singleton_inj.mp (List.append_inj' heq rfl).2
    have hmem : last ∈ word := ((List.mem_inits _ _).mp hpart).subset (by simp)
    exact absurd hmem hc

/-- Whether two texts differ within the shorter one. -/
def differs : List Char → List Char → Bool
  | c :: cs, x :: xs => c != x || differs cs xs
  | _, _ => false

theorem not_prefix_of_differs (h : differs a b = true) : ¬ a <+: b ∧ ¬ b <+: a := by
  fun_induction differs a b with
  | case1 c cs x xs ih =>
    by_cases hc : c = x
    · have hrest : differs cs xs = true := by simpa [hc] using h
      simpa [hc, List.cons_prefix_cons] using ih hrest
    · simp [hc, Ne.symm hc]
  | case2 => cases h

/-- A text that begins in another way does not begin with a word. -/
theorem not_prefix_of_begins (h : differs a b = true) (hbegins : b <+: cs) : ¬ a <+: cs := by
  intro hword
  obtain ⟨hword', hbegins'⟩ := not_prefix_of_differs h
  exact (List.prefix_or_prefix_of_prefix hword hbegins).elim hword' hbegins'

/-- Whether a text has an angle bracket only where it differs from some tags. -/
def lacksTags (tags : List (List Char)) : List Char → Bool
  | [] => true
  | c :: rest => (c != '<' || tags.all fun tag => differs tag (c :: rest)) && lacksTags tags rest

/-- Where a tag is lacking, it stands at no place, nor does the text end with its beginning. -/
theorem not_prefix_of_lacksTags {tags : List (List Char)} {tag : List Char}
    (hhead : tag.head? = some '<') (htag : tag ∈ tags) (h : lacksTags tags cs = true)
    {part : List Char} (hpart : part ≠ []) (hsuffix : part <:+ cs) :
    ¬ tag <+: part ∧ ¬ part <+: tag := by
  induction cs with
  | nil => exact absurd (List.suffix_nil.mp hsuffix) hpart
  | cons c rest ih =>
    rw [lacksTags, Bool.and_eq_true, Bool.or_eq_true, List.all_eq_true] at h
    rcases List.suffix_cons_iff.mp hsuffix with rfl | hsuffix
    · rcases h.1 with hc | hdiffers
      · obtain ⟨tail, rfl⟩ := List.head?_eq_some_iff.mp hhead
        have hc : c ≠ '<' := by simpa using hc
        simp [hc, hc.symm]
      · exact not_prefix_of_differs (hdiffers tag htag)
    · exact ih h.2 hsuffix

end

/-- A closed part with as many occurrences of a word. -/
structure Adds (word : List Char) (n : Nat) (s : String) : Prop where
  closed : IsClosed word s.toList
  count : occurrences word s.toList = n

/-- Lines that are closed parts, with as many occurrences of a word in all. -/
inductive AddsAll (word : List Char) : Nat → List String → Prop
  | nil : AddsAll word 0 []
  | cons {m n : Nat} {line : String} {lines : List String} (first : Adds word m line)
    (others : AddsAll word n lines) : AddsAll word (m + n) (line :: lines)

section

variable {word : List Char} {m n : Nat} {s t : String} {lines others : List String}

theorem Adds.append (hs : Adds word m s) (ht : Adds word n t) : Adds word (m + n) (s ++ t) where
  closed := by
    rw [String.toList_append]
    exact hs.closed.append ht.closed
  count := by
    rw [String.toList_append, hs.closed.occurrences_append, hs.count, ht.count]

/-- The characters of a literal are known, so that tags are looked for in a list. -/
theorem Adds.literal {tags : List (List Char)} {tag cs : List Char}
    (hhead : tag.head? = some '<') (htag : tag ∈ tags) (h : lacksTags tags cs = true) :
    Adds tag 0 (String.ofList cs) := by
  have hne : tag ≠ [] := by
    rintro rfl
    cases hhead
  have hapart : ∀ part, part ≠ [] → part <:+ cs → ¬ tag <+: part ∧ ¬ part <+: tag :=
    fun part => not_prefix_of_lacksTags hhead htag h
  constructor <;> rw [String.toList_ofList]
  · intro part hpart hsuffix
    by_contra! hwhole
    exact (hapart part hwhole.1 hsuffix).2 ((List.mem_inits _ _).mp hpart)
  · rw [occurrences_eq_zero_iff hne, List.infix_iff_prefix_suffix]
    rintro ⟨part, hstarts, hsuffix⟩
    have hpart : part ≠ [] := fun hnil => hne (List.prefix_nil.mp (hnil ▸ hstarts))
    exact (hapart part hpart hsuffix).1 hstarts

theorem AddsAll.append (h : AddsAll word m lines) (h' : AddsAll word n others) :
    AddsAll word (m + n) (lines ++ others) := by
  induction h with
  | nil => rwa [Nat.zero_add]
  | cons hfirst _ ih =>
    rw [Nat.add_assoc]
    exact .cons hfirst ih

theorem addsAll_zero (h : ∀ line ∈ lines, Adds word 0 line) : AddsAll word 0 lines := by
  induction lines with
  | nil => exact .nil
  | cons line rest ih =>
    obtain ⟨hline, hrest⟩ := List.forall_mem_cons.mp h
    exact .cons hline (ih hrest)

theorem AddsAll.map {α : Type} {items : List α} {f : α → Nat} {g : α → String}
    (h : ∀ item ∈ items, Adds word (f item) (g item)) :
    AddsAll word (items.map f).sum (items.map g) := by
  induction items with
  | nil => exact .nil
  | cons item rest ih =>
    obtain ⟨hitem, hrest⟩ := List.forall_mem_cons.mp h
    rw [List.map_cons, List.map_cons, List.sum_cons]
    exact .cons hitem (ih hrest)

/-- Joined lines have as many occurrences as the lines. -/
theorem AddsAll.joined (h : AddsAll word n lines) (hempty : Adds word 0 "") {sep : String}
    (hsep : Adds word 0 sep) : Adds word n (sep.intercalate lines) := by
  induction h with
  | nil => simpa using hempty
  | @cons m n first rest hfirst hrest ih =>
    cases rest with
    | nil =>
      cases hrest
      simpa using hfirst
    | cons second others =>
      rw [String.intercalate_cons_cons]
      have hadds := (hfirst.append hsep).append ih
      rwa [Nat.add_zero] at hadds

/-! ### Entries between commas -/

theorem AddsAll.commaSeparated (h : AddsAll word n lines) (hcomma : Adds word 0 ",") :
    AddsAll word n (commaSeparated lines) := by
  induction h with
  | nil => exact .nil
  | @cons m n first rest hfirst hrest ih =>
    cases rest with
    | nil => exact .cons hfirst hrest
    | cons second others => exact .cons (hfirst.append hcomma) ih

theorem AddsAll.commaSeparatedBlocks {α : Type} {items : List α} {f : α → Nat}
    {block : α → List String × String} (hcomma : Adds word 0 ",")
    (h : ∀ item ∈ items, AddsAll word (f item) (block item).1 ∧ Adds word 0 (block item).2) :
    AddsAll word (items.map f).sum (commaSeparatedBlocks (items.map block)) := by
  induction items with
  | nil => exact .nil
  | cons item rest ih =>
    obtain ⟨⟨hbody, hlast⟩, hrest⟩ := List.forall_mem_cons.mp h
    rw [List.map_cons, List.sum_cons]
    cases rest with
    | nil => exact hbody.append (.cons hlast .nil)
    | cons next others =>
      have hbehind := AddsAll.cons (hlast.append hcomma) (ih hrest)
      rw [Nat.zero_add] at hbehind
      exact hbody.append hbehind

end

/-! ### Literals -/

section

variable {word cs : List Char}

/-- A character stands for itself, or is one of three that become a backslash and another one. -/
theorem encodeChar_eq_or (c : Char) :
    Literal.encodeChar c = [c]
      ∨ c ∈ ['\\', '\'', '\n'] ∧ ∃ x ∈ ['\\', '\'', 'n'], Literal.encodeChar c = ['\\', x] := by
  unfold Literal.encodeChar
  split_ifs <;> simp_all

theorem prefix_encode_iff {part : List Char} (hpart : ∀ c ∈ part, Literal.encodeChar c = [c]) :
    part <+: Literal.encode cs ↔ part <+: cs := by
  induction part generalizing cs with
  | nil => simp
  | cons first rest ih =>
    obtain ⟨hfirst, hrest⟩ := List.forall_mem_cons.mp hpart
    cases cs with
    | nil => simp [Literal.encode]
    | cons c cs =>
      rw [Literal.encode, List.flatMap_cons, ← Literal.encode]
      rcases encodeChar_eq_or c with hc | ⟨-, x, -, hc⟩
      · rw [hc, List.singleton_append, List.cons_prefix_cons, List.cons_prefix_cons, ih hrest]
      · have hne : first ≠ c := by
          rintro rfl
          rw [hfirst] at hc
          cases hc
        have hslash : first ≠ '\\' := by
          rintro rfl
          exact absurd hfirst (by decide)
        simp [hc, hne, hslash]

/-- Escapes neither make nor break an occurrence of a word without escaped characters. -/
theorem occurrences_encode (hword : ∀ c ∈ word, Literal.encodeChar c = [c])
    (hhead : word.head? = some '<') (cs : List Char) :
    occurrences word (Literal.encode cs) = occurrences word cs := by
  -- the word begins neither at an escaped character nor at what an escape is made of
  have hbegin : ∀ x, x ≠ '<' → ∀ rest, ¬ word <+: x :: rest := by
    rintro x hx rest hstarts
    obtain ⟨tail, rfl⟩ := List.head?_eq_some_iff.mp hhead
    exact hx (List.cons_prefix_cons.mp hstarts).1.symm
  induction cs with
  | nil => rfl
  | cons c rest ih =>
    have hencode : Literal.encode (c :: rest) = Literal.encodeChar c ++ Literal.encode rest :=
      List.flatMap_cons
    rcases encodeChar_eq_or c with hc | ⟨hspecial, x, hx, hc⟩
    · have hstarts : word <+: Literal.encode (c :: rest) ↔ word <+: c :: rest :=
        prefix_encode_iff hword
      rw [hencode, hc, List.singleton_append] at hstarts
      rw [hencode, hc, List.singleton_append, occurrences, occurrences, ih]
      simp only [hstarts]
    · have hc' : c ≠ '<' := by
        rintro rfl
        exact absurd hspecial (by decide)
      have hx' : x ≠ '<' := by
        rintro rfl
        exact absurd hx (by decide)
      simp [hencode, hc, occurrences, ih, if_neg (hbegin '\\' (by decide) _),
        if_neg (hbegin c hc' _), if_neg (hbegin x hx' _)]

/-- A literal has a word as often as its text. -/
theorem adds_literal (hword : ∀ c ∈ word, Literal.encodeChar c = [c])
    (hhead : word.head? = some '<') (s : String) :
    Adds word (occurrences word s.toList) (literal s) := by
  have hquote : '\'' ∉ word := fun hmem => absurd (hword _ hmem) (by decide)
  have hne : word ≠ [] := by
    rintro rfl
    cases hhead
  have hopen : IsClosed word "'".toList := isClosed_of_notMem hhead (by decide)
  constructor
  · rw [literal, String.toList_append]
    exact isClosed_concat hquote
  · have hzero : occurrences word "'".toList = 0 := occurrences_of_notMem hhead (by decide)
    rw [literal, String.append_assoc, String.toList_append, hopen.occurrences_append, hzero,
      String.toList_append, String.toList_ofList, show "'".toList = ['\''] from rfl,
      occurrences_concat hne hquote, occurrences_encode hword hhead, Nat.zero_add]

end

end Scaffold.Text
