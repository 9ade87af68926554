import Scaffold.Proofs.Reference.Reading
import Scaffold.Proofs.Script
import Scaffold.Proofs.Text.Unbroken

/-!
# Lines with quoted texts

Whatever a quoted text says, a line reads it as one literal. So a line refers to nothing if the code
around the quoted texts in it lacks what a reference is told by (`Lacks`): a word for imports, a
dot, a sign of equality.
-/

namespace Scaffold.Reading

open Text

/-- None of some tokens is read. -/
def Lacks (bad : List Token) (cs : List Char) : Prop := ∀ t ∈ lex .between cs, t ∉ bad

/-- Whether a piece of code ends between two tokens, and has none of some tokens. -/
def isPiece (bad : List Token) (cs : List Char) : Bool :=
  reach .between cs == .between && (passed .between cs).all fun t => !bad.contains t

/-- Whether a token is none of a quoted text. -/
def isCode : Token → Bool
  | .literal _ => false
  | _ => true

/-- What the imports on a line are told by. -/
def citingTokens : List Token := [.word "import"]

/-- What the constants and the members on a line are told by. -/
def usingTokens : List Token := [.mark '=', .mark '.']

/-! ### Piece by piece -/

variable {bad : List Token}

theorem Lacks.nil : Lacks bad [] := by
  intro t ht
  cases ht

theorem Lacks.piece {front back : List Char} (hfront : isPiece bad front = true)
    (hback : Lacks bad back) : Lacks bad (front ++ back) := by
  rw [isPiece, Bool.and_eq_true, List.all_eq_true] at hfront
  obtain ⟨hreach, hpassed⟩ := hfront
  intro t ht
  rw [lex_append, LawfulBEq.eq_of_beq hreach] at ht
  rcases List.mem_append.mp ht with ht | ht
  · simpa using hpassed t ht
  · exact hback t ht

theorem Lacks.literal (hbad : bad.all isCode = true) (s : String) {back : List Char}
    (hback : Lacks bad back) : Lacks bad ((Text.literal s).toList ++ back) := by
  obtain ⟨s', hlex⟩ := lex_literal s back
  intro t ht
  rw [hlex, List.mem_cons] at ht
  rcases ht with rfl | ht
  · exact fun hmem => Bool.false_ne_true (List.all_eq_true.mp hbad _ hmem)
  · exact hback t ht

/-- Nor is any of them read in a list of quoted texts, unless it is one of the marks of the list. -/
theorem Lacks.literalList (hbad : bad.all isCode = true)
    (hmarks : ['[', ',', ']'].all (fun c => !bad.contains (.mark c)) = true) (items : List String)
    {back : List Char} (hback : Lacks bad back) :
    Lacks bad ((Text.literalList items).toList ++ back) := by
  have hmark : ∀ c ∈ ['[', ',', ']'], .mark c ∉ bad := fun c hc => by
    simpa using List.all_eq_true.mp hmarks c hc
  have hpiece : ∀ t cs back, t ∉ bad → lex .between (cs ++ back) = t :: lex .between back →
      Lacks bad back → Lacks bad (cs ++ back) := by
    intro t cs back ht hlex hback x hx
    rw [hlex, List.mem_cons] at hx
    rcases hx with rfl | hx
    · exact ht
    · exact hback x hx
  -- item by item, each with the mark behind it
  have hjoined : ∀ back, Lacks bad back →
      Lacks bad ((", ".intercalate (items.map Text.literal)).toList ++ back) := by
    induction items with
    | nil => exact fun back hback => by simpa using hback
    | cons first rest ih =>
      intro back hback
      cases rest with
      | nil => simpa using Lacks.literal hbad first hback
      | cons second others =>
        have hback := hpiece (.mark ',') [',', ' '] _ (hmark ',' (by simp)) rfl (ih back hback)
        simpa using Lacks.literal hbad first hback
  have hback := hpiece (.mark ']') [']'] _ (hmark ']' (by simp)) rfl hback
  have hback := hpiece (.mark '[') ['['] _ (hmark '[' (by simp)) rfl (hjoined _ hback)
  simpa [Text.literalList] using hback

/-! ### Lines -/

theorem mem_lex_of_mem_tokens {line : String} {t : Token} (h : t ∈ tokens line) :
    t ∈ lex .between line.toList := by
  rw [tokens, lineTokens] at h
  split at h
  next => cases h
  next => exact h

/-- A line without the word for imports cites nothing. -/
theorem Cites.of_lacks {line : String} (h : Lacks citingTokens line.toList) :
    Cites [] [] (tokens line) := by
  have hword : .word "import" ∉ tokens line := fun hmem =>
    h _ (mem_lex_of_mem_tokens hmem) (List.mem_singleton_self _)
  refine ⟨fun i hi => ?_, fun source hsource => ?_⟩
  · obtain ⟨c, hc, hi⟩ := Option.bind_eq_some_iff.mp hi
    split at hi
    next hverb => exact absurd (hverb.1 ▸ (mem_of_clause? hc).1) hword
    next => cases hi
  · obtain ⟨p, hp, rfl⟩ := List.mem_map.mp hsource
    obtain ⟨hp, himport⟩ := List.mem_filter.mp hp
    exact absurd (of_decide_eq_true himport ▸ (mem_of_mem_calls hp).1) hword

/-- A line without signs of equality and dots uses nothing. -/
theorem Uses.of_lacks {line : String} (h : Lacks usingTokens line.toList) :
    Uses [] [] (tokens line) := by
  have hmark : ∀ c ∈ ['=', '.'], .mark c ∉ tokens line := fun c hc hmem => by
    refine h _ (mem_lex_of_mem_tokens hmem) ?_
    simpa [usingTokens] using hc
  refine ⟨fun p hp => ?_, fun p hp => ?_⟩
  · exact absurd (equality_mem_of_mem_instances hp) (hmark '=' (by simp))
  · exact absurd (dot_mem_of_mem_accesses hp) (hmark '.' (by simp))

/-! ### Quoted texts between pieces of code -/

/-- Whether two pieces of code, neither of which breaks the line, have none of some tokens. -/
def encloses (bad : List Token) (front back : List Char) : Bool :=
  isPiece bad front && isPiece bad back && lacksBreak front && lacksBreak back

/-- Between such pieces, a text that adds none of these tokens makes one line without them. -/
theorem lacks_of_encloses {front back : List Char} (h : encloses bad front back = true)
    {text : String} (hunbroken : Unbroken text)
    (htext : ∀ back, Lacks bad back → Lacks bad (text.toList ++ back)) {line : String}
    (hline : line ∈ splitOn '\n' (String.ofList front ++ text ++ String.ofList back)) :
    Lacks bad line.toList := by
  simp only [encloses, Bool.and_eq_true] at h
  obtain ⟨⟨⟨hfront, hback⟩, hbreak⟩, hbreak'⟩ := h
  have hnone : '\n' ∉ (String.ofList front ++ text ++ String.ofList back).toList := by
    have hnone : '\n' ∉ text.toList := hunbroken
    simp [notMem_of_lacksBreak hbreak, notMem_of_lacksBreak hbreak', hnone]
  rw [splitOn_of_notMem hnone, List.mem_singleton] at hline
  have hrest := htext _ (Lacks.piece hback .nil)
  simpa [hline] using Lacks.piece hfront hrest

theorem CitesText.quoted {front back : List Char} (h : encloses citingTokens front back = true)
    (s : String) : CitesText [] [] (String.ofList front ++ Text.literal s ++ String.ofList back) :=
  fun _ hline => .of_lacks <| lacks_of_encloses h (unbroken_literal s)
    (fun _ hback => .literal rfl s hback) hline

theorem CitesText.quotedList {front back : List Char} (h : encloses citingTokens front back = true)
    (items : List String) :
    CitesText [] [] (String.ofList front ++ Text.literalList items ++ String.ofList back) :=
  fun _ hline => .of_lacks <| lacks_of_encloses h (unbroken_literalList items)
    (fun _ hback => .literalList rfl rfl items hback) hline

theorem UsesText.quoted {front back : List Char} (h : encloses usingTokens front back = true)
    (s : String) : UsesText [] [] (String.ofList front ++ Text.literal s ++ String.ofList back) :=
  fun _ hline => .of_lacks <| lacks_of_encloses h (unbroken_literal s)
    (fun _ hback => .literal rfl s hback) hline

/-! ### Quoted texts under a name -/

/-- Blanks are read over. -/
theorem lex_blanks {blanks : List Char} (h : ∀ c ∈ blanks, c = ' ') (back : List Char) :
    lex .between (blanks ++ back) = lex .between back := by
  induction blanks with
  | nil => rfl
  | cons c blanks ih =>
    obtain ⟨rfl, hrest⟩ := List.forall_mem_cons.mp h
    exact ih hrest

theorem tokens_quotedMember {name : String} (hname : IsWord name) {blanks : String}
    (hblanks : ∀ c ∈ blanks.toList, c = ' ') (s back : String) :
    ∃ s', tokens (blanks ++ (name ++ ": " ++ Text.literal s) ++ back)
      = .word name :: .mark ':' :: .literal s' :: lex .between back.toList := by
  obtain ⟨s', hlex⟩ := lex_literal s back.toList
  refine ⟨s', ?_⟩
  have hchars : (blanks ++ (name ++ ": " ++ Text.literal s) ++ back).toList
      = blanks.toList ++ (name.toList
        ++ (':' :: ' ' :: ((Text.literal s).toList ++ back.toList))) := by
    simp
  have hread : lex .between (blanks ++ (name ++ ": " ++ Text.literal s) ++ back).toList
      = .word name :: .mark ':' :: .literal s' :: lex .between back.toList := by
    have hcolon : ∀ rest, lex (.word name.toList) (':' :: ' ' :: rest)
        = .word (String.ofList name.toList) :: .mark ':' :: lex .between rest := fun _ => rfl
    rw [hchars, lex_blanks hblanks, lex_isWord hname, hcolon, String.ofList_toList, hlex]
  rw [tokens, lineTokens, hread]

/-- A quoted text under a name refers to nothing. -/
theorem refers_quotedMember {name : String} (hname : IsWord name) {blanks : String}
    (hblanks : ∀ c ∈ blanks.toList, c = ' ') (s : String) {line : String}
    (hline : IsEntry (blanks ++ (name ++ ": " ++ Text.literal s)) line) :
    Cites [] [] (tokens line) ∧ Uses [] [] (tokens line) := by
  have hread : ∀ s', ∀ back ∈ [[], [Token.mark ',']],
      Cites [] [] (.word name :: .mark ':' :: .literal s' :: back)
        ∧ Uses [] [] (.word name :: .mark ':' :: .literal s' :: back) := by
    intro s'
    simp only [List.forall_mem_cons, List.not_mem_nil, false_imp_iff, implies_true, and_true]
    exact ⟨⟨.of_eq_nil rfl rfl, .of_eq_nil rfl rfl⟩, .of_eq_nil rfl rfl, .of_eq_nil rfl rfl⟩
  rcases hline with rfl | rfl
  · obtain ⟨s', htokens⟩ := tokens_quotedMember hname hblanks s ""
    rw [String.append_empty] at htokens
    rw [htokens]
    exact hread s' _ List.mem_cons_self
  · obtain ⟨s', htokens⟩ := tokens_quotedMember hname hblanks s ","
    rw [htokens]
    exact hread s' _ (.tail _ List.mem_cons_self)

/-- What two lines refer to, the text of both refers to. -/
theorem CitesText.join {imports : List Import} {sources : List String} {s t : String}
    (hs : CitesText imports sources s) (ht : CitesText imports sources t) :
    CitesText imports sources (s ++ "\n" ++ t) := by
  intro line hline
  have hsplit : splitOn '\n' (s ++ "\n" ++ t) = splitOn '\n' s ++ splitOn '\n' t := splitOn_append
  rw [hsplit] at hline
  exact (List.mem_append.mp hline).elim (hs line) (ht line)

theorem UsesText.join {made taken : List (String × String)} {s t : String}
    (hs : UsesText made taken s) (ht : UsesText made taken t) :
    UsesText made taken (s ++ "\n" ++ t) := by
  intro line hline
  have hsplit : splitOn '\n' (s ++ "\n" ++ t) = splitOn '\n' s ++ splitOn '\n' t := splitOn_append
  rw [hsplit] at hline
  exact (List.mem_append.mp hline).elim (hs line) (ht line)

/-- A name on a line of its own refers to nothing. -/
theorem refersText_name {name : String} (hname : IsWord name) {blanks : String}
    (hblanks : ∀ c ∈ blanks.toList, c = ' ') :
    CitesText [] [] (blanks ++ name) ∧ UsesText [] [] (blanks ++ name) := by
  have hbreak : '\n' ∉ (blanks ++ name).toList := by
    have hblank : '\n' ∉ blanks.toList := fun hmem => absurd (hblanks _ hmem) (by decide)
    have hbreak : '\n' ∉ name.toList := hname.notMem (by decide)
    simp [hblank, hbreak]
  have htokens : tokens (blanks ++ name) = [.word name] := by
    rw [← tokens_isWord hname, tokens, tokens, lineTokens, lineTokens, String.toList_append,
      lex_blanks hblanks]
  refine ⟨.of_tokens hbreak ?_, .of_tokens hbreak ?_⟩
  all_goals
    rw [htokens]
    exact .of_eq_nil rfl rfl

/-- A quoted text behind a colon refers to nothing. -/
theorem refersText_quoted (s : String) {line : String}
    (hline : IsEntry (": " ++ Text.literal s) line) :
    CitesText [] [] line ∧ UsesText [] [] line := by
  rcases hline with rfl | rfl
  · have hquoted : ": " ++ Text.literal s = ": " ++ Text.literal s ++ "" := by simp
    rw [hquoted]
    exact ⟨.quoted rfl s, .quoted rfl s⟩
  · exact ⟨.quoted rfl s, .quoted rfl s⟩

/-- Neither does a quoted text under an identifier, which may break the line. -/
theorem refersText_quotedMember {key : String} (hkey : Identifier.isIdentifier key = true)
    {blanks : String} (hblanks : ∀ c ∈ blanks.toList, c = ' ') (s : String) {line : String}
    (hline : IsEntry (blanks ++ (key ++ ": " ++ Text.literal s)) line) :
    CitesText [] [] line ∧ UsesText [] [] line := by
  obtain ⟨word, hword, back, hback, rfl⟩ := exists_isWord_of_isIdentifier hkey
  simp only [List.mem_cons, List.not_mem_nil, or_false] at hback
  rcases hback with rfl | rfl
  · rw [String.append_empty] at hline
    have hbreak : '\n' ∉ line.toList := by
      have hblank : '\n' ∉ blanks.toList := fun hmem => absurd (hblanks _ hmem) (by decide)
      have hname : '\n' ∉ word.toList := hword.notMem (by decide)
      have htext : '\n' ∉ (Text.literal s).toList := unbroken_literal s
      rcases hline with rfl | rfl
      all_goals simp [hblank, hname, htext]
    obtain ⟨hcites, huses⟩ := refers_quotedMember hword hblanks s hline
    exact ⟨.of_tokens hbreak hcites, .of_tokens hbreak huses⟩
  · -- the name stands on a line of its own
    obtain ⟨hcites, huses⟩ := refersText_name hword hblanks
    have hparts : ∃ rest, IsEntry (": " ++ Text.literal s) rest
        ∧ line = blanks ++ word ++ "\n" ++ rest := by
      rcases hline with rfl | rfl
      · exact ⟨_, .inl rfl, by simp [← String.toList_inj]⟩
      · exact ⟨_, .inr rfl, by simp [← String.toList_inj]⟩
    obtain ⟨rest, hrest, rfl⟩ := hparts
    exact ⟨hcites.join (refersText_quoted s hrest).1, huses.join (refersText_quoted s hrest).2⟩

end Scaffold.Reading
