import Scaffold.Proofs.Text.FileLines

/-!
# Tokens

A line of generated code is read as words, literals between quotation marks, and single marks. What
stands between backquotes is read as code, since it may hold expressions. Reading goes from
character to character (`advance`), so that a line is read piece by piece (`lex_append`): a name
goes on with the word that it stands in (`lex_word`), and a quoted text is one literal
(`lex_literal`).
-/

namespace Scaffold.Text

open Identifier

/-- A token of a line of code. -/
inductive Token where
  | word (s : String)
  | literal (s : String)
  | mark (c : Char)
deriving Repr, DecidableEq

/-- The marks that enclose literals. -/
inductive QuotationMark where
  | single
  | double
deriving Repr, DecidableEq

def QuotationMark.char : QuotationMark → Char
  | single => '\''
  | double => '"'

/-- Where reading a line has come to, with the characters of the token that it is in. -/
inductive LexState where
  | between
  | word (cs : List Char)
  | literal (q : QuotationMark) (cs : List Char)
  /-- Behind a backslash in a literal. -/
  | escape (q : QuotationMark) (cs : List Char)
deriving Repr, DecidableEq

/-- A character of a word: a part of an identifier, or any character beyond ASCII. -/
def isWordChar (c : Char) : Bool := isPart c || 127 < c.toNat

/-- Reads a character that is not part of a word, outside literals. -/
def separate (c : Char) : LexState × List Token :=
  if c = ' ' || c = '\t' then (.between, [])
  else if c = '\'' then (.literal .single [], [])
  else if c = '"' then (.literal .double [], [])
  else (.between, [.mark c])

/-- Reads a character. -/
def advance : LexState → Char → LexState × List Token
  | .between, c => if isWordChar c then (.word [c], []) else separate c
  | .word cs, c =>
    if isWordChar c then (.word (cs ++ [c]), [])
    else ((separate c).1, .word (String.ofList cs) :: (separate c).2)
  | .literal q cs, c =>
    if c = q.char then (.between, [.literal (String.ofList cs)])
    else if c = '\\' then (.escape q cs, [])
    else (.literal q (cs ++ [c]), [])
  | .escape q cs, c => (.literal q (cs ++ [c]), [])

/-- The token that ends with the line. -/
def finish : LexState → List Token
  | .between => []
  | .word cs => [.word (String.ofList cs)]
  | .literal _ cs => [.literal (String.ofList cs)]
  | .escape _ cs => [.literal (String.ofList cs)]

/-- Reads the rest of a line. -/
def lex (state : LexState) : List Char → List Token
  | [] => finish state
  | c :: cs => (advance state c).2 ++ lex (advance state c).1 cs

/-- The tokens of the characters of a line. An asterisk begins a line that goes on with a comment.
-/
def lineTokens (cs : List Char) : List Token :=
  match lex .between cs with
  | .mark '*' :: _ => []
  | tokens => tokens

/-- The tokens of a line. -/
def tokens (line : String) : List Token := lineTokens line.toList

/-! ### Piece by piece -/

/-- Where reading some characters comes to. -/
def reach (state : LexState) : List Char → LexState
  | [] => state
  | c :: cs => reach (advance state c).1 cs

/-- The tokens that end while some characters are read. -/
def passed (state : LexState) : List Char → List Token
  | [] => []
  | c :: cs => (advance state c).2 ++ passed (advance state c).1 cs

theorem lex_append (state : LexState) (front back : List Char) :
    lex state (front ++ back) = passed state front ++ lex (reach state front) back := by
  induction front generalizing state with
  | nil => rfl
  | cons c front ih =>
    rw [List.cons_append, lex, ih, passed, reach, List.append_assoc]

/-- A name goes on with the word that it stands in. -/
theorem lex_word {name : List Char} (hname : ∀ c ∈ name, isWordChar c = true)
    (cs back : List Char) :
    lex (.word cs) (name ++ back) = lex (.word (cs ++ name)) back := by
  induction name generalizing cs with
  | nil => rw [List.nil_append, List.append_nil]
  | cons c name ih =>
    rw [List.cons_append, lex, advance, if_pos (hname c List.mem_cons_self), List.nil_append,
      ih fun x hx => hname x (List.mem_cons_of_mem _ hx), List.append_assoc, List.singleton_append]

/-- Between tokens, a name begins a word. -/
theorem lex_between_word {name : List Char} (hne : name ≠ [])
    (hname : ∀ c ∈ name, isWordChar c = true) (back : List Char) :
    lex .between (name ++ back) = lex (.word name) back := by
  cases name with
  | nil => exact absurd rfl hne
  | cons c name =>
    rw [List.cons_append, lex, advance, if_pos (hname c List.mem_cons_self), List.nil_append,
      lex_word fun x hx => hname x (List.mem_cons_of_mem _ hx), List.singleton_append]

/-- A literal goes on with what neither ends it nor escapes. -/
theorem lex_inLiteral {q : QuotationMark} {text : List Char}
    (htext : ∀ c ∈ text, c ≠ q.char ∧ c ≠ '\\') (cs back : List Char) :
    lex (.literal q cs) (text ++ back) = lex (.literal q (cs ++ text)) back := by
  induction text generalizing cs with
  | nil => rw [List.nil_append, List.append_nil]
  | cons c text ih =>
    obtain ⟨hquote, hescape⟩ := htext c List.mem_cons_self
    rw [List.cons_append, lex, advance, if_neg hquote, if_neg hescape, List.nil_append,
      ih fun x hx => htext x (List.mem_cons_of_mem _ hx), List.append_assoc, List.singleton_append]

/-! ### Literals -/

/-- What the tokens of a literal make of one escaped character. -/
theorem lex_encodeChar (c : Char) (cs back : List Char) :
    ∃ c', lex (.literal .single cs) (Literal.encodeChar c ++ back)
      = lex (.literal .single (cs ++ [c'])) back := by
  unfold Literal.encodeChar
  split
  next => exact ⟨'\\', rfl⟩
  next hescape =>
    split
    next => exact ⟨'\'', rfl⟩
    next hquote =>
      split
      next => exact ⟨'n', rfl⟩
      next =>
        refine ⟨c, lex_inLiteral (fun x hx => ?_) cs back⟩
        rw [List.mem_singleton.mp hx]
        exact ⟨hquote, hescape⟩

theorem lex_encode (text cs back : List Char) :
    ∃ text', lex (.literal .single cs) (Literal.encode text ++ back)
      = lex (.literal .single (cs ++ text')) back := by
  induction text generalizing cs with
  | nil => exact ⟨[], by rw [List.append_nil]; rfl⟩
  | cons c text ih =>
    obtain ⟨c', hc⟩ := lex_encodeChar c cs (Literal.encode text ++ back)
    obtain ⟨text', htext⟩ := ih (cs ++ [c'])
    refine ⟨c' :: text', ?_⟩
    rw [Literal.encode, List.flatMap_cons, List.append_assoc]
    exact hc.trans (htext.trans (by rw [List.append_assoc, List.singleton_append]))

/-- A quoted text is one literal. -/
theorem lex_literal (s : String) (back : List Char) :
    ∃ s', lex .between ((literal s).toList ++ back) = .literal s' :: lex .between back := by
  obtain ⟨text, htext⟩ := lex_encode s.toList [] ('\'' :: back)
  refine ⟨String.ofList text, ?_⟩
  have hopen : "'".toList = ['\''] := by decide
  simp only [literal, String.toList_append, String.toList_ofList, hopen, List.append_assoc,
    List.singleton_append]
  exact htext

/-! ### Lines without literals -/

/-- A text without quotation marks. -/
def Unquoted (s : String) : Prop := '\'' ∉ s.toList ∧ '"' ∉ s.toList

theorem isPiecewise_unquoted :
    IsPiecewise (fun cs => !cs.contains '\'' && !cs.contains '"') Unquoted :=
  (isPiecewise_notMem '\'').and (isPiecewise_notMem '"')

theorem Unquoted.append {s t : String} (hs : Unquoted s) (ht : Unquoted t) : Unquoted (s ++ t) :=
  isPiecewise_unquoted.append hs ht

/-- A text whose characters show that it has no quotation marks. -/
theorem Unquoted.literal {cs : List Char} (h : (!cs.contains '\'' && !cs.contains '"') = true) :
    Unquoted (String.ofList cs) :=
  isPiecewise_unquoted.literal h

theorem literal_notMem_separate {c : Char} (hsingle : c ≠ '\'') (hdouble : c ≠ '"') :
    (separate c).1 = .between ∧ ∀ s, .literal s ∉ (separate c).2 := by
  unfold separate
  rw [if_neg hsingle, if_neg hdouble]
  split
  next => exact ⟨rfl, by simp⟩
  next => exact ⟨rfl, by simp⟩

/-- Reading a line without quotation marks never comes into a literal. -/
theorem literal_notMem_lex {cs : List Char} (hsingle : '\'' ∉ cs) (hdouble : '"' ∉ cs)
    (s : String) :
    .literal s ∉ lex .between cs ∧ ∀ w, .literal s ∉ lex (.word w) cs := by
  induction cs with
  | nil => exact ⟨by simp [lex, finish], fun w => by simp [lex, finish]⟩
  | cons c cs ih =>
    rw [List.mem_cons, not_or] at hsingle hdouble
    obtain ⟨hbetween, hword⟩ := ih hsingle.2 hdouble.2
    obtain ⟨hstate, hseparate⟩ := literal_notMem_separate (Ne.symm hsingle.1) (Ne.symm hdouble.1)
    constructor
    · rw [lex, advance]
      split
      next => simpa using hword [c]
      next => simpa [hstate] using ⟨hseparate s, hbetween⟩
    · intro w
      rw [lex, advance]
      split
      next => simpa using hword (w ++ [c])
      next => simpa [hstate] using ⟨hseparate s, hbetween⟩

theorem Unquoted.notMem_tokens {s line : String} (h : Unquoted s) (hline : line ∈ splitOn '\n' s)
    (text : String) : .literal text ∉ tokens line := by
  rw [splitOn] at hline
  obtain ⟨part, hpart, rfl⟩ := List.mem_map.mp hline
  obtain ⟨before, after, heq, -⟩ := mem_splitOn hpart
  have hsub : ∀ c, c ∉ s.toList → c ∉ part := fun c hc hmem =>
    hc (heq ▸ List.mem_append_left _ (List.mem_append_right _ hmem))
  have hlex := (literal_notMem_lex (hsub _ h.1) (hsub _ h.2) text).1
  rw [tokens, String.toList_ofList, lineTokens]
  split
  next => exact List.not_mem_nil
  next => exact hlex

end Scaffold.Text
