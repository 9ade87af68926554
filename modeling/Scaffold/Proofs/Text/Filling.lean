import Scaffold.Proofs.Names
import Scaffold.Proofs.Text.Bytes
import Scaffold.Proofs.Text.Split
import Scaffold.Proofs.Text.Token

/-!
# Placeholders

Generated code is made of literals and names. With a placeholder in place of each name it is a
closed text, and a `Filling` puts the names back. A placeholder stands for some characters of a
word, so that a filled line has the lines and the tokens of the line with placeholders, filled
themselves (`Filling.splitOn_text`, `Filling.tokens_text`). What is known of a closed text so
becomes known of generated code with any names.
-/

namespace Scaffold.Text

open Identifier

/-- Words in place of some characters beyond ASCII. -/
structure Filling where
  fill : Char → List Char
  ascii : ∀ c, c.toNat < 0x80 → fill c = [c]
  ne_nil : ∀ c, isWordChar c = true → fill c ≠ []
  isWordChar_of_mem : ∀ c, isWordChar c = true → ∀ x ∈ fill c, isWordChar x = true

namespace Filling

variable (σ : Filling)

/-- Fills characters. -/
def chars (cs : List Char) : List Char := cs.flatMap σ.fill

/-- Fills a text. -/
def text (s : String) : String := String.ofList (σ.chars s.toList)

/-- Fills a token. -/
def token : Token → Token
  | .word s => .word (σ.text s)
  | .literal s => .literal (σ.text s)
  | .mark c => .mark c

/-- Fills what is being read. -/
def state : LexState → LexState
  | .between => .between
  | .word cs => .word (σ.chars cs)
  | .literal q cs => .literal q (σ.chars cs)
  | .escape q cs => .escape q (σ.chars cs)

@[simp] theorem state_between : σ.state .between = .between := rfl

@[simp] theorem state_word (cs : List Char) : σ.state (.word cs) = .word (σ.chars cs) := rfl

@[simp] theorem state_literal (q : QuotationMark) (cs : List Char) :
    σ.state (.literal q cs) = .literal q (σ.chars cs) := rfl

@[simp] theorem state_escape (q : QuotationMark) (cs : List Char) :
    σ.state (.escape q cs) = .escape q (σ.chars cs) := rfl

@[simp] theorem toList_text (s : String) : (σ.text s).toList = σ.chars s.toList := by
  rw [text, String.toList_ofList]

@[simp] theorem text_ofList (cs : List Char) :
    σ.text (String.ofList cs) = String.ofList (σ.chars cs) := by
  rw [text, String.toList_ofList]

@[simp] theorem chars_nil : σ.chars [] = [] := rfl

@[simp]
theorem chars_append (cs cs' : List Char) : σ.chars (cs ++ cs') = σ.chars cs ++ σ.chars cs' :=
  List.flatMap_append

@[simp]
theorem chars_cons (c : Char) (cs : List Char) : σ.chars (c :: cs) = σ.fill c ++ σ.chars cs :=
  List.flatMap_cons

theorem chars_singleton (c : Char) : σ.chars [c] = σ.fill c := List.flatMap_singleton _ _

/-- What is not part of a word stays. -/
theorem fill_of_not_isWordChar {c : Char} (h : isWordChar c = false) : σ.fill c = [c] := by
  apply σ.ascii
  have hnot : ¬ 127 < c.toNat := by
    intro hlt
    rw [isWordChar, decide_eq_true hlt, Bool.or_true] at h
    cases h
  omega

theorem chars_ascii {cs : List Char} (h : ∀ c ∈ cs, c.toNat < 0x80) : σ.chars cs = cs := by
  induction cs with
  | nil => rfl
  | cons c cs ih =>
    rw [chars_cons, σ.ascii c (h c List.mem_cons_self), List.singleton_append,
      ih fun x hx => h x (List.mem_cons_of_mem _ hx)]

/-! ### Texts -/

@[simp] theorem text_append (s t : String) : σ.text (s ++ t) = σ.text s ++ σ.text t := by
  rw [text, String.toList_append, chars_append, String.ofList_append]
  rfl

/-- A literal has no placeholders. -/
theorem text_ascii {s : String} (h : isAscii s = true) : σ.text s = s := by
  rw [text, chars_ascii _ (lt_of_isAscii h), String.ofList_toList]

theorem text_intercalate (sep : String) (parts : List String) :
    σ.text (sep.intercalate parts) = (σ.text sep).intercalate (parts.map σ.text) := by
  induction parts with
  | nil => rfl
  | cons first rest ih =>
    cases rest with
    | nil => simp
    | cons second others =>
      simp [ih]

/-- Nothing in a word needs an escape. -/
theorem encode_of_isWordChar {cs : List Char} (h : ∀ c ∈ cs, isWordChar c = true) :
    Literal.encode cs = cs := by
  induction cs with
  | nil => rfl
  | cons c cs ih =>
    have hc := h c List.mem_cons_self
    have hchar : Literal.encodeChar c = [c] := by
      unfold Literal.encodeChar
      rw [if_neg, if_neg, if_neg]
      all_goals rintro rfl; exact absurd hc (by decide)
    rw [Literal.encode, List.flatMap_cons, hchar, ← Literal.encode,
      ih fun x hx => h x (List.mem_cons_of_mem _ hx), List.singleton_append]

theorem encode_chars (cs : List Char) :
    Literal.encode (σ.chars cs) = σ.chars (Literal.encode cs) := by
  induction cs with
  | nil => rfl
  | cons c cs ih =>
    have hencode : ∀ front back, Literal.encode (front ++ back)
        = Literal.encode front ++ Literal.encode back := fun _ _ => List.flatMap_append
    -- neither a word character nor its placeholder is escaped, and other characters are kept
    have hchar : Literal.encode (σ.fill c) = σ.chars (Literal.encodeChar c) := by
      by_cases hc : isWordChar c = true
      · have hsame : Literal.encodeChar c = [c] := by
          have h : Literal.encode [c] = [c] := encode_of_isWordChar (by simpa using hc)
          rwa [Literal.encode, List.flatMap_singleton] at h
        rw [encode_of_isWordChar (σ.isWordChar_of_mem c hc), hsame, chars_singleton]
      · rw [σ.fill_of_not_isWordChar (by simpa using hc), Literal.encode, List.flatMap_singleton]
        refine (σ.chars_ascii fun x hx => ?_).symm
        unfold Literal.encodeChar at hx
        have hlow : c.toNat < 0x80 := by
          simp only [isWordChar, Bool.or_eq_true, decide_eq_true_eq, not_or] at hc
          omega
        split_ifs at hx
        all_goals simp only [List.mem_cons, List.not_mem_nil, or_false] at hx
        · rcases hx with rfl | rfl <;> decide
        · rcases hx with rfl | rfl <;> decide
        · rcases hx with rfl | rfl <;> decide
        · rwa [hx]
    have hcons : Literal.encode (c :: cs) = Literal.encodeChar c ++ Literal.encode cs :=
      List.flatMap_cons
    rw [chars_cons, hencode, hchar, ih, hcons, chars_append]

/-- Filling and quoting a text are one whichever comes first. -/
@[simp] theorem text_literal (s : String) : σ.text (literal s) = literal (σ.text s) := by
  have hmark : σ.text "'" = "'" := σ.text_ascii (by decide)
  unfold literal
  rw [text_append, text_append, hmark, text_ofList, toList_text, encode_chars]

/-! ### Lines -/

theorem break_notMem_fill {c : Char} (h : c ≠ '\n') : '\n' ∉ σ.fill c := by
  by_cases hc : isWordChar c = true
  · exact fun hmem => absurd (σ.isWordChar_of_mem c hc _ hmem) (by decide)
  · rw [σ.fill_of_not_isWordChar (by simpa using hc)]
    simpa using Ne.symm h

theorem splitOn_chars (cs : List Char) :
    (σ.chars cs).splitOn '\n' = (cs.splitOn '\n').map σ.chars := by
  induction cs with
  | nil => rfl
  | cons c cs ih =>
    rw [chars_cons]
    by_cases hc : c = '\n'
    · subst hc
      rw [σ.fill_of_not_isWordChar (by decide), List.singleton_append,
        List.splitOn_cons_eq_if_modifyHead, if_pos (by rfl), ih, List.splitOn_cons_eq_if_modifyHead,
        if_pos (by rfl), List.map_cons]
      rfl
    · rw [splitOn_append_of_notMem (σ.break_notMem_fill hc), ih, List.splitOn_cons_eq_if_modifyHead,
        if_neg (by simpa using hc)]
      cases cs.splitOn '\n' with
      | nil => rfl
      | cons first rest => simp

/-- A filled text has the filled lines. -/
theorem splitOn_text (s : String) : splitOn '\n' (σ.text s) = (splitOn '\n' s).map σ.text := by
  rw [splitOn, splitOn, toList_text, splitOn_chars, List.map_map, List.map_map]
  exact List.map_congr_left fun cs _ => (σ.text_ofList cs).symm

/-! ### Tokens -/

theorem separate_fill (c : Char) :
    σ.state (separate c).1 = (separate c).1 ∧ (separate c).2.map σ.token = (separate c).2 := by
  unfold separate
  split_ifs
  all_goals exact ⟨rfl, rfl⟩

theorem ne_of_isWordChar {c : Char} (hc : isWordChar c = true) (q : QuotationMark) :
    c ≠ q.char ∧ c ≠ '\\' := by
  constructor
  · rintro rfl
    cases q <;> exact absurd hc (by decide)
  · rintro rfl
    exact absurd hc (by decide)

theorem ne_of_mem_fill {c : Char} (hc : isWordChar c = true) (q : QuotationMark) :
    ∀ x ∈ σ.fill c, x ≠ q.char ∧ x ≠ '\\' := fun x hx =>
  ne_of_isWordChar (σ.isWordChar_of_mem c hc x hx) q

/-- Reading filled characters is filling what is read. -/
theorem lex_chars (state : LexState) (cs : List Char) :
    lex (σ.state state) (σ.chars cs) = (lex state cs).map σ.token := by
  induction cs generalizing state with
  | nil => cases state <;> simp [lex, finish, Filling.state, token, chars]
  | cons c cs ih =>
    rw [chars_cons]
    by_cases hc : isWordChar c = true
    · -- the placeholder of a word goes on with what is being read, and so do its characters
      have hname := σ.isWordChar_of_mem c hc
      cases state with
      | between =>
        rw [state_between, lex_between_word (σ.ne_nil c hc) hname, lex, advance, if_pos hc,
          List.nil_append, ← ih, state_word, chars_singleton]
      | word w =>
        rw [state_word, lex_word hname, lex, advance, if_pos hc, List.nil_append, ← ih,
          state_word, chars_append, chars_singleton]
      | literal q w =>
        obtain ⟨hquote, hescape⟩ := ne_of_isWordChar hc q
        rw [state_literal, lex_inLiteral (σ.ne_of_mem_fill hc q), lex, advance, if_neg hquote,
          if_neg hescape, List.nil_append, ← ih, state_literal, chars_append, chars_singleton]
      | escape q w =>
        obtain ⟨x, xs, hx⟩ := List.exists_cons_of_ne_nil (σ.ne_nil c hc)
        have hxs : ∀ y ∈ xs, y ≠ q.char ∧ y ≠ '\\' := fun y hy =>
          σ.ne_of_mem_fill hc q y (hx ▸ List.mem_cons_of_mem _ hy)
        rw [hx, List.cons_append, state_escape, lex, advance, List.nil_append, lex_inLiteral hxs,
          lex, advance, List.nil_append, ← ih, state_literal, chars_append, chars_singleton, hx,
          List.append_assoc, List.singleton_append]
    · obtain ⟨hstate, htokens⟩ := σ.separate_fill c
      have hfill := σ.fill_of_not_isWordChar (by simpa using hc)
      rw [hfill, List.singleton_append, lex, lex, List.map_append, ← ih]
      cases state with
      | between => simp only [state_between, advance, if_neg hc, hstate, htokens]
      | word w =>
        simp [advance, if_neg hc, hstate, htokens, token]
      | literal q w =>
        simp only [state_literal, advance]
        split_ifs
        · simp [token]
        · simp
        · simp [hfill]
      | escape q w => simp [advance, hfill]

theorem lineTokens_chars (cs : List Char) :
    lineTokens (σ.chars cs) = (lineTokens cs).map σ.token := by
  have hlex : lex .between (σ.chars cs) = (lex .between cs).map σ.token := σ.lex_chars .between cs
  unfold lineTokens
  rw [hlex]
  cases lex .between cs with
  | nil => rfl
  | cons t rest =>
    cases t with
    | word s => rfl
    | literal s => rfl
    | mark c =>
      by_cases hc : c = '*'
      · subst hc
        rfl
      · simp [token, hc]

/-- A filled line has the filled tokens. -/
theorem tokens_text (line : String) : tokens (σ.text line) = (tokens line).map σ.token := by
  rw [tokens, toList_text, lineTokens_chars, tokens]

/-! ### Words in place of placeholders -/

@[simp]
theorem text_singleton (c : Char) : σ.text (String.singleton c) = String.ofList (σ.fill c) := by
  rw [text, String.toList_singleton, chars_singleton]

end Filling

/-- A name that is one word. -/
structure IsWord (s : String) : Prop where
  ne_empty : s ≠ ""
  isPart_of_mem : ∀ c ∈ s.toList, isPart c = true

theorem IsWord.isWordChar {s : String} (h : IsWord s) : ∀ c ∈ s.toList, isWordChar c = true := by
  intro c hc
  simp [Text.isWordChar, h.isPart_of_mem c hc]

theorem IsWord.append {s t : String} (hs : IsWord s) (ht : IsWord t) : IsWord (s ++ t) where
  ne_empty := by simp [hs.ne_empty]
  isPart_of_mem := by
    rw [String.toList_append]
    exact List.forall_mem_append.mpr ⟨hs.isPart_of_mem, ht.isPart_of_mem⟩

/-- A word that is written out. -/
theorem IsWord.literal {cs : List Char} (h : (!cs.isEmpty && cs.all isPart) = true) :
    IsWord (String.ofList cs) := by
  rw [Bool.and_eq_true, List.all_eq_true] at h
  refine ⟨fun hempty => ?_, by simpa using h.2⟩
  rw [← String.toList_eq_nil_iff, String.toList_ofList] at hempty
  simp [hempty] at h

theorem IsWord.notMem {s : String} (h : IsWord s) {c : Char} (hc : isPart c = false) :
    c ∉ s.toList := by
  intro hmem
  rw [h.isPart_of_mem c hmem] at hc
  cases hc

/-- The tokens of a line that begins with a name. -/
theorem lex_isWord {name : String} (hname : IsWord name) (back : List Char) :
    lex .between (name.toList ++ back) = lex (.word name.toList) back :=
  lex_between_word (fun h => hname.ne_empty (String.toList_eq_nil_iff.mp h)) hname.isWordChar back

theorem tokens_isWord {name : String} (hname : IsWord name) : tokens name = [.word name] := by
  rw [tokens, lineTokens, ← List.append_nil name.toList, lex_isWord hname]
  show [Token.word (String.ofList name.toList)] = _
  rw [String.ofList_toList]

theorem tokens_isWord_append {name : String} (hname : IsWord name) :
    tokens (name ++ "[]") = [.word name, .mark '[', .mark ']'] := by
  rw [tokens, lineTokens, String.toList_append, lex_isWord hname]
  show [Token.word (String.ofList name.toList), .mark '[', .mark ']'] = _
  rw [String.ofList_toList]

/-- There are no quotation marks in identifiers. -/
theorem unquoted_of_isIdentifier {s : String} (h : isIdentifier s = true) : Unquoted s :=
  ⟨notMem_of_isIdentifier h (by decide) (by decide),
    notMem_of_isIdentifier h (by decide) (by decide)⟩

theorem IsWord.unquoted {s : String} (h : IsWord s) : Unquoted s :=
  ⟨h.notMem (by decide), h.notMem (by decide)⟩

/-- An identifier is a word, perhaps with a line feed behind it. -/
theorem exists_isWord_of_isIdentifier {s : String} (h : isIdentifier s = true) :
    ∃ word, IsWord word ∧ ∃ back ∈ ["", "\n"], s = word ++ back := by
  obtain ⟨name, hne, hparts, heq⟩ := exists_of_isIdentifier h
  refine ⟨String.ofList name, ⟨?_, ?_⟩, ?_⟩
  · intro hempty
    exact hne (by rw [← String.toList_ofList (l := name), hempty]; rfl)
  · rwa [String.toList_ofList]
  · rcases heq with heq | heq
    · refine ⟨"", List.mem_cons_self, ?_⟩
      rw [← heq, String.ofList_toList, String.append_empty]
    · refine ⟨"\n", .tail _ List.mem_cons_self, ?_⟩
      rw [← String.toList_inj, heq, String.toList_append, String.toList_ofList]
      rfl

/-- An identifier without a line feed is a word. -/
theorem isWord_of_isIdentifier {s : String} (h : isIdentifier s = true) (hbreak : '\n' ∉ s.toList) :
    IsWord s := by
  obtain ⟨word, hword, back, hback, rfl⟩ := exists_isWord_of_isIdentifier h
  simp only [List.mem_cons, List.not_mem_nil, or_false] at hback
  rcases hback with rfl | rfl
  · rwa [String.append_empty]
  · exact absurd (by simp) hbreak

namespace Filling

/-- The filling that puts words in place of some characters. -/
def ofWords (words : List (Char × String)) (h : ∀ p ∈ words, 0x80 ≤ p.1.toNat ∧ IsWord p.2) :
    Filling where
  fill c := match words.find? (·.1 == c) with
    | some p => p.2.toList
    | none => [c]
  ascii c hc := by
    cases hfind : words.find? (·.1 == c) with
    | none => rfl
    | some p =>
      have hlow := (h p (List.mem_of_find?_eq_some hfind)).1
      have heq : p.1 = c := by simpa using List.find?_some hfind
      rw [heq] at hlow
      omega
  ne_nil c hc := by
    cases hfind : words.find? (·.1 == c) with
    | none => exact List.cons_ne_nil _ _
    | some p =>
      have hword := (h p (List.mem_of_find?_eq_some hfind)).2
      exact fun hnil => hword.ne_empty (String.toList_eq_nil_iff.mp hnil)
  isWordChar_of_mem c hc := by
    cases hfind : words.find? (·.1 == c) with
    | none => simpa using hc
    | some p => exact (h p (List.mem_of_find?_eq_some hfind)).2.isWordChar

end Filling

/-- Placeholders for other words. -/
def otherPlaceholder : String := .singleton 'ο'

@[inherit_doc otherPlaceholder]
def secondPlaceholder : String := .singleton 'ρ'

@[inherit_doc otherPlaceholder]
def thirdPlaceholder : String := .singleton 'σ'

/-- There is a filling with a word. -/
theorem Filling.exists_text_other {word : String} (hword : IsWord word) :
    ∃ σ : Filling, σ.text otherPlaceholder = word := by
  refine ⟨.ofWords [('ο', word)] (by simpa using hword), ?_⟩
  exact (Filling.text_singleton _ _).trans String.ofList_toList

end Scaffold.Text

namespace Scaffold

open Text Identifier

/-- The forms that are declared in code are words. -/
structure Names.AreWords (n : Names) : Prop where
  name : IsWord n.name
  capitalized : IsWord n.capitalized
  plural : IsWord n.plural
  capitalizedPlural : IsWord n.capitalizedPlural

theorem isWord_of_isExactEntityName {name : String} (h : isExactEntityName name = true) :
    IsWord name :=
  ⟨ne_empty_of_isIdentifier (isIdentifier_of_isExactEntityName h), fun _ hc =>
    isPart_of_isNamePart (isNamePart_of_mem h hc)⟩

theorem isWord_capitalize {name : String} (h : isExactEntityName name = true) :
    IsWord (capitalize name) :=
  ⟨ne_empty_of_isIdentifier (isIdentifier_capitalize (isIdentifier_of_isExactEntityName h)),
    fun _ hc => isPart_of_mem_capitalize h hc⟩

/-- The forms that are derived from an exact name are words. -/
theorem Names.areWords_ofName {name : String} (h : isExactEntityName name = true) :
    (ofName name).AreWords :=
  ⟨isWord_of_isExactEntityName h, isWord_capitalize h,
    isWord_of_isExactEntityName (isExactEntityName_pluralize h),
    isWord_capitalize (isExactEntityName_pluralize h)⟩

/-- Names with placeholders for their forms. -/
def Names.placeholders : Names where
  name := .singleton 'ν'
  capitalized := .singleton 'κ'
  plural := .singleton 'π'
  capitalizedPlural := .singleton 'Π'
  path := ""

/-- A filling that puts the forms of a name in place of their placeholders. -/
structure Names.IsFilledBy (n : Names) (σ : Filling) : Prop where
  name : σ.text placeholders.name = n.name
  capitalized : σ.text placeholders.capitalized = n.capitalized
  plural : σ.text placeholders.plural = n.plural
  capitalizedPlural : σ.text placeholders.capitalizedPlural = n.capitalizedPlural

/-- There is a filling with the forms of a name and three other words. -/
theorem Names.AreWords.exists_filling {n : Names} (hn : n.AreWords) {other second third : String}
    (hother : IsWord other) (hsecond : IsWord second) (hthird : IsWord third) :
    ∃ σ : Filling, n.IsFilledBy σ ∧ σ.text otherPlaceholder = other
      ∧ σ.text secondPlaceholder = second ∧ σ.text thirdPlaceholder = third := by
  have hwords : ∀ p ∈ [('ν', n.name), ('κ', n.capitalized), ('π', n.plural),
      ('Π', n.capitalizedPlural), ('ο', other), ('ρ', second), ('σ', third)],
      0x80 ≤ p.1.toNat ∧ IsWord p.2 := by
    simp only [List.forall_mem_cons, List.not_mem_nil, false_imp_iff, implies_true, and_true]
    exact ⟨⟨by decide, hn.name⟩, ⟨by decide, hn.capitalized⟩, ⟨by decide, hn.plural⟩,
      ⟨by decide, hn.capitalizedPlural⟩, ⟨by decide, hother⟩, ⟨by decide, hsecond⟩,
      by decide, hthird⟩
  refine ⟨.ofWords _ hwords, ⟨?_, ?_, ?_, ?_⟩, ?_, ?_, ?_⟩
  all_goals
    refine (Filling.text_singleton _ _).trans ?_
    exact String.ofList_toList

/-- There is a filling with the forms of a name and another word. -/
theorem Names.AreWords.exists_filling_other {n : Names} (hn : n.AreWords) {other : String}
    (hother : IsWord other) : ∃ σ : Filling, n.IsFilledBy σ ∧ σ.text otherPlaceholder = other := by
  obtain ⟨σ, hσ, hfill, -⟩ := hn.exists_filling hother hother hother
  exact ⟨σ, hσ, hfill⟩

end Scaffold
