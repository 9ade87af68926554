import Mathlib.Data.List.Infix
import Scaffold.Source.Json
import Scaffold.Text.DocText
import Scaffold.Text.Literal
import Scaffold.Text.Markup

/-!
# Reading lists of texts again

A list of texts is written in three ways: as an array of single-quoted literals in a script, as an
array of double-quoted scalars in a comment, and as values of attributes in markup. Each can be read
again, whatever the texts are: `literals?` reads the first, `jsonTexts?` the second, as JSON, and
`readAttribute` a value of the third.
-/

namespace Scaffold.Text

/-- Where the reader of an array literal is. -/
inductive ArrayPlace where
  /-- In front of a literal, or of the end. -/
  | between
  | inside
  /-- Behind a literal. -/
  | behind

/-! ### Texts in lines -/

/-- What stands in a line between its beginning and its end. -/
def between? (front back line : String) : Option String :=
  ((line.toList.dropPrefix? front.toList).bind (·.dropSuffix? back.toList)).map String.ofList

theorem between?_append (front s back : String) :
    between? front back (front ++ s ++ back) = some s := by
  have hfront : (front ++ s ++ back).toList.dropPrefix? front.toList = some (s ++ back).toList :=
    List.dropPrefix?_eq_some_iff.mpr ⟨front.toList, by simp, by simp⟩
  have hback : (s ++ back).toList.dropSuffix? back.toList = some s.toList :=
    List.dropSuffix?_eq_some_iff.mpr ⟨back.toList, by simp, by simp⟩
  rw [between?, hfront, Option.bind_some, hback, Option.map_some, String.ofList_toList]

theorem between?_of_not_prefix {front line : String} (h : ¬ front.toList <+: line.toList)
    (back : String) : between? front back line = none := by
  have hfront : line.toList.dropPrefix? front.toList = none := by
    rw [Option.eq_none_iff_forall_ne_some]
    intro rest hrest
    obtain ⟨start, hline, hstart⟩ := List.dropPrefix?_eq_some_iff.mp hrest
    rw [LawfulBEq.eq_of_beq hstart] at hline
    exact h ⟨rest, hline.symm⟩
  rw [between?, hfront]
  rfl

theorem between?_of_not_suffix {back line : String} (h : ¬ back.toList <:+ line.toList)
    (front : String) : between? front back line = none := by
  have hback : (line.toList.dropPrefix? front.toList).bind (·.dropSuffix? back.toList) = none := by
    rw [Option.eq_none_iff_forall_ne_some]
    intro middle hmiddle
    obtain ⟨rest, hrest, hsuffix⟩ := Option.bind_eq_some_iff.mp hmiddle
    obtain ⟨start, hline, -⟩ := List.dropPrefix?_eq_some_iff.mp hrest
    obtain ⟨ending, heq, hending⟩ := List.dropSuffix?_eq_some_iff.mp hsuffix
    rw [LawfulBEq.eq_of_beq hending] at heq
    exact h ((heq ▸ List.suffix_append middle _).trans (hline ▸ List.suffix_append start rest))
  rw [between?, hback]
  rfl

/-! ### Array literals -/

/-- The character that a letter stands for behind a backslash. -/
def escape? (c : Char) : Option Char :=
  if c = '\\' then some '\\'
  else if c = '\'' then some '\''
  else if c = 'n' then some '\n'
  else none

/-- Puts a character in front of the first text. -/
def pushFirst (c : Char) : List (List Char) → List (List Char)
  | [] => [[c]]
  | first :: others => (c :: first) :: others

/-- Reads an array of single-quoted literals from a place in it to its end. Inside of a literal, the
first text is what is left of that. -/
def readArray : ArrayPlace → List Char → Option (List (List Char))
  | .between, ' ' :: rest => readArray .between rest
  | .between, '\'' :: rest => readArray .inside rest
  | .between, [']'] => some []
  | .inside, '\'' :: rest => (readArray .behind rest).map ([] :: ·)
  | .inside, '\\' :: c :: rest =>
    match escape? c with
    | some e => (readArray .inside rest).map (pushFirst e)
    | none => none
  | .inside, c :: rest =>
    if c = '\\' || c = '\n' then none else (readArray .inside rest).map (pushFirst c)
  | .behind, ' ' :: rest => readArray .behind rest
  | .behind, ',' :: rest => readArray .between rest
  | .behind, [']'] => some []
  | _, _ => none

/-- The texts of an array of single-quoted literals. -/
def literals? (s : String) : Option (List String) :=
  match s.toList with
  | '[' :: rest => (readArray .between rest).map (·.map String.ofList)
  | _ => none

/-- The text of a single-quoted literal. -/
def literal? (s : String) : Option String :=
  match literals? ("[" ++ s ++ "]") with
  | some [text] => some text
  | _ => none

theorem readArray_encodeChar (c : Char) (rest : List Char) :
    readArray .inside (Literal.encodeChar c ++ rest)
      = (readArray .inside rest).map (pushFirst c) := by
  unfold Literal.encodeChar
  by_cases hb : c = '\\'
  · subst hb; simp [readArray, escape?]
  · by_cases hq : c = '\''
    · subst hq; simp [readArray, escape?]
    · by_cases hn : c = '\n'
      · subst hn; simp [readArray, escape?]
      · simp only [hb, hq, hn, if_false, List.cons_append, List.nil_append]
        rw [readArray]
        · simp [hb, hn]
        · exact fun h => hq h
        · exact fun _ _ h => absurd h hb

/-- What stands between two quotation marks is read as the text that it was made of. -/
theorem readArray_encode (cs rest : List Char) :
    readArray .inside (Literal.encode cs ++ '\'' :: rest)
      = (readArray .behind rest).map (cs :: ·) := by
  induction cs with
  | nil => rfl
  | cons c cs ih =>
    rw [Literal.encode, List.flatMap_cons, List.append_assoc, readArray_encodeChar,
      ← Literal.encode, ih, Option.map_map]
    rfl

theorem readArray_literal (s : String) (rest : List Char) :
    readArray .between ((literal s).toList ++ rest)
      = (readArray .behind rest).map (s.toList :: ·) := by
  have hchars : (literal s).toList ++ rest
      = '\'' :: (Literal.encode s.toList ++ '\'' :: rest) := by
    simp [literal]
  rw [hchars, readArray, readArray_encode]

theorem readArray_intercalate (items : List String) :
    readArray .between ((", ".intercalate (items.map literal)).toList ++ [']'])
      = some (items.map String.toList) := by
  induction items with
  | nil => rfl
  | cons first rest ih =>
    cases rest with
    | nil =>
      rw [List.map_singleton, String.intercalate_singleton, readArray_literal]
      rfl
    | cons second others =>
      have hsep : ", ".toList = [',', ' '] := rfl
      rw [List.map_cons, List.map_cons, String.intercalate_cons_cons, ← List.map_cons,
        String.toList_append, String.toList_append, List.append_assoc, List.append_assoc,
        readArray_literal, hsep, List.cons_append, List.cons_append, List.nil_append, readArray,
        readArray, ih]
      rfl

/-- An array of literals is read as the texts that it was made of. -/
@[simp]
theorem literals?_literalList (items : List String) :
    literals? (literalList items) = some items := by
  have hchars : (literalList items).toList
      = '[' :: ((", ".intercalate (items.map literal)).toList ++ [']']) := by
    simp [literalList]
  rw [literals?, hchars]
  simp only [readArray_intercalate, Option.map_some, List.map_map]
  simp [Function.comp_def]

@[simp] theorem literal?_literal (s : String) : literal? (literal s) = some s := by
  have hlist : "[" ++ literal s ++ "]" = literalList [s] := by simp [literalList]
  rw [literal?, hlist, literals?_literalList]

end Scaffold.Text

/-! ### Scalars of documentation comments -/

namespace Scaffold.Text.DocText

theorem guardClose_append {xs : List Char} (h : '*' ∉ xs) (ys : List Char) :
    guardClose (xs ++ ys) = xs ++ guardClose ys := by
  induction xs with
  | nil => rfl
  | cons x xs ih =>
    rw [List.mem_cons, not_or] at h
    rw [List.cons_append, guardClose, ih h.2, List.cons_append]
    intro _ hx
    exact absurd hx.symm h.1

theorem star_notMem_hexChars : ∀ n < 32, '*' ∉ hexChars 4 n := by decide

theorem star_notMem_encodeChar {c : Char} (h : c ≠ '*') : '*' ∉ encodeChar c := by
  unfold encodeChar
  repeat' split
  all_goals first
    | decide
    | simp [star_notMem_hexChars _ ‹_›]
    | simpa using h.symm

/-- Only a slash is written with a slash in front. -/
theorem encodeChar_append_ne {d : Char} (h : d ≠ '/') (rest : List Char) :
    ∀ xs, encodeChar d ++ rest ≠ '/' :: xs := by
  intro xs
  unfold encodeChar
  repeat' split
  all_goals simp [h]

theorem guardClose_ne_nil {cs : List Char} (h : cs ≠ []) : guardClose cs ≠ [] := by
  fun_cases guardClose cs <;> simp_all

/-- A guarded text is guarded character by character, but for a slash behind an asterisk. -/
theorem guardClose_encode_cons {c : Char} {cs : List Char}
    (h : ∀ rest, c = '*' → cs = '/' :: rest → False) :
    guardClose (encode (c :: cs) ++ ['"']) = encodeChar c ++ guardClose (encode cs ++ ['"']) := by
  rw [encode, List.flatMap_cons, ← encode, List.append_assoc]
  by_cases hc : c = '*'
  · subst hc
    show guardClose ('*' :: (encode cs ++ ['"'])) = _
    rw [guardClose]
    · rfl
    intro rest _ hrest
    cases cs with
    | nil => cases hrest
    | cons d cs =>
      rw [encode, List.flatMap_cons, List.append_assoc] at hrest
      have hd : d ≠ '/' := fun hd => h cs rfl (by rw [hd])
      exact encodeChar_append_ne hd _ _ hrest
  · exact guardClose_append (star_notMem_encodeChar hc) _

end Scaffold.Text.DocText

namespace Scaffold.Json

open Text DocText

theorem codeUnit?_hexChars : ∀ n < 32, natural? 16 (hexChars 4 n) = some n := by decide

theorem stringBody_plain {opening : Nat} {c : Char} (hq : c ≠ '"') (hb : c ≠ '\\')
    (hc : ¬ c.toNat ≤ 0x1F) (rest : List Char) :
    stringBody opening (c :: rest) = push c (stringBody opening rest) := by
  rw [stringBody]
  · rw [if_neg hc]
  all_goals simp_all

theorem stringBody_escape {opening : Nat} {c e : Char} (h : escaped? c = some e) (hc : c ≠ 'u')
    (rest : List Char) :
    stringBody opening ('\\' :: c :: rest) = push e (stringBody opening rest) := by
  rw [stringBody]
  · simp [hc, h]
  · intro _ _ _ _ _ hu
    exact absurd hu hc

/-- A code unit of a control character is no half of a pair. -/
theorem stringBody_unicode {opening n : Nat} (hn : n < 32) {rest : List Char} (hrest : rest ≠ []) :
    stringBody opening ('\\' :: 'u' :: (hexChars 4 n ++ rest))
      = push (Char.ofNat n) (stringBody opening rest) := by
  have hunit := codeUnit?_hexChars n hn
  obtain ⟨hhigh, hchar⟩ : isHighHalf n = false ∧ unitCharacter n = Char.ofNat n := by
    have hall : ∀ m < 32, isHighHalf m = false ∧ unitCharacter m = Char.ofNat m := by decide
    exact hall n hn
  obtain ⟨a, b, c, d, hhex⟩ : ∃ a b c d, hexChars 4 n = [a, b, c, d] := ⟨_, _, _, _, rfl⟩
  rw [hhex] at hunit ⊢
  simp only [List.cons_append, List.nil_append]
  rw [stringBody.eq_def]
  simp only [show codeUnit? a b c d = some n from hunit]
  split
  next => exact absurd rfl hrest
  next heq => cases heq
  next heq =>
    cases heq
    simp [hhigh, hchar]
  next heq =>
    cases heq
    rw [hchar]

/-- A string goes on behind the character that is encoded. -/
theorem stringBody_encodeChar (opening : Nat) (c : Char) {rest : List Char} (hrest : rest ≠ []) :
    stringBody opening (DocText.encodeChar c ++ rest) = push c (stringBody opening rest) := by
  unfold DocText.encodeChar
  -- the escapes in the order in which they are tried
  by_cases hq : c = '"'
  · subst hq; exact stringBody_escape (by decide) (by decide) rest
  by_cases hb : c = '\\'
  · subst hb; exact stringBody_escape (by decide) (by decide) rest
  by_cases hn : c = '\n'
  · subst hn; exact stringBody_escape (by decide) (by decide) rest
  by_cases hr : c = '\r'
  · subst hr; exact stringBody_escape (by decide) (by decide) rest
  by_cases ht : c = '\t'
  · subst ht; exact stringBody_escape (by decide) (by decide) rest
  by_cases h8 : c.toNat = 8
  · obtain rfl : c = '\x08' := Char.toNat_inj.mp h8
    exact stringBody_escape (by decide) (by decide) rest
  by_cases h12 : c.toNat = 12
  · obtain rfl : c = '\x0c' := Char.toNat_inj.mp h12
    exact stringBody_escape (by decide) (by decide) rest
  by_cases h32 : c.toNat < 32
  · simp only [hq, hb, hn, hr, ht, h8, h12, h32, if_false, if_true, List.cons_append]
    rw [stringBody_unicode h32 hrest, Char.ofNat_toNat]
  · simp only [hq, hb, hn, hr, ht, h8, h12, h32, if_false]
    exact stringBody_plain hq hb (by omega) rest

/-- The string of a guarded text is the text. -/
theorem stringBody_guardClose (opening : Nat) (cs rest : List Char) :
    stringBody opening (guardClose (encode cs ++ ['"']) ++ rest) = .ok (cs, rest) := by
  fun_induction guardClose cs with
  | case1 cs ih =>
    have hsplit : guardClose (encode ('*' :: '/' :: cs) ++ ['"'])
        = '*' :: '\\' :: '/' :: guardClose (encode cs ++ ['"']) := rfl
    rw [hsplit, List.cons_append, List.cons_append, List.cons_append,
      stringBody_plain (by decide) (by decide) (by decide),
      stringBody_escape (c := '/') rfl (by decide), ih]
    rfl
  | case2 c cs h ih =>
    have hne : guardClose (encode cs ++ ['"']) ++ rest ≠ [] :=
      List.append_ne_nil_of_left_ne_nil (guardClose_ne_nil (by simp)) rest
    rw [guardClose_encode_cons h, List.append_assoc, stringBody_encodeChar opening c hne, ih]
    rfl
  | case3 =>
    have hend : guardClose (encode [] ++ ['"']) = ['"'] := rfl
    rw [hend, List.singleton_append, stringBody]

/-- The scalar of a text, as characters. -/
theorem toList_docText (s : String) :
    (docText s).toList = '"' :: guardClose (encode s.toList ++ ['"']) := by
  rw [docText, String.toList_ofList, List.cons_append, guardClose]
  intro _ h
  exact absurd h (by decide)

theorem value_docText (fuel depth : Nat) (s : String) (rest : List Char) :
    value (fuel + 1) depth ((docText s).toList ++ rest) = .ok (.text s, rest) := by
  rw [toList_docText, List.cons_append, value, stringBody_guardClose, Except.map,
    String.ofList_toList]

/-- Scalars with commas between them begin with a quotation mark. -/
theorem exists_intercalate_docText (first : String) (rest : List String) :
    ∃ tail, (", ".intercalate ((first :: rest).map docText)).toList = '"' :: tail := by
  rw [List.map_cons]
  cases rest with
  | nil => exact ⟨_, by rw [List.map_nil, String.intercalate_singleton, toList_docText]⟩
  | cons second others =>
    rw [List.map_cons, String.intercalate_cons_cons, String.toList_append, String.toList_append,
      toList_docText, List.cons_append, List.cons_append]
    exact ⟨_, rfl⟩

/-- The items of an array of scalars are its texts. -/
theorem items_intercalate (depth : Nat) (rest : List String) (first : String) (fuel : Nat)
    (before : List Value)
    (hfuel : (", ".intercalate ((first :: rest).map docText)).toList.length < fuel) :
    items fuel depth before ((", ".intercalate ((first :: rest).map docText)).toList ++ [']'])
      = .ok (.list (before.reverse ++ (first :: rest).map .text), []) := by
  -- the length of what is left to read bounds the fuel
  induction rest generalizing first fuel before with
  | nil =>
    rw [List.map_singleton, String.intercalate_singleton] at hfuel ⊢
    obtain ⟨fuel, rfl⟩ : ∃ f, fuel = f + 2 := by
      rw [toList_docText, List.length_cons] at hfuel
      exact ⟨fuel - 2, by omega⟩
    rw [items, value_docText]
    simp [skipBlanks, isBlank]
  | cons second others ih =>
    obtain ⟨tail, htail⟩ := exists_intercalate_docText second others
    have hsep : ", ".toList = [',', ' '] := rfl
    rw [List.map_cons, List.map_cons, String.intercalate_cons_cons, ← List.map_cons,
      String.toList_append, String.toList_append, hsep] at hfuel ⊢
    simp only [List.length_append, List.length_cons, List.length_nil] at hfuel
    obtain ⟨fuel, rfl⟩ : ∃ f, fuel = f + 2 := ⟨fuel - 2, by omega⟩
    have hblank : skipBlanks (' ' :: '"' :: (tail ++ [']'])) = '"' :: (tail ++ [']']) := rfl
    have hcomma : ∀ cs, skipBlanks (',' :: cs) = ',' :: cs := fun _ => rfl
    rw [items, List.append_assoc, List.append_assoc, value_docText]
    simp only [List.cons_append, List.nil_append, hcomma]
    rw [htail, List.cons_append, hblank, ← List.cons_append, ← htail, ih]
    · simp
    · omega

/-- The array of the scalars of texts is the list of the texts. -/
theorem readChars_docTexts (texts : List String) :
    readChars ("[" ++ ", ".intercalate (texts.map docText) ++ "]").toList
      = .ok (.list (texts.map .text)) := by
  have hbrackets : ("[" ++ ", ".intercalate (texts.map docText) ++ "]").toList
      = '[' :: ((", ".intercalate (texts.map docText)).toList ++ [']']) := by simp
  rw [hbrackets]
  cases texts with
  | nil => rfl
  | cons first rest =>
    obtain ⟨tail, htail⟩ := exists_intercalate_docText first rest
    have hvalue : ∀ fuel, value (fuel + 1) 0 ('[' :: '"' :: (tail ++ [']']))
        = items fuel 1 [] ('"' :: (tail ++ [']'])) := fun _ => rfl
    have hopening : skipBlanks ('[' :: '"' :: (tail ++ [']'])) = '[' :: '"' :: (tail ++ [']']) :=
      rfl
    have hitems := fun fuel => items_intercalate 1 rest first fuel []
    rw [htail, List.cons_append] at hitems ⊢
    rw [readChars, hopening, hvalue, hitems]
    · rfl
    · simp only [List.length_cons, List.length_append, List.length_nil]
      omega
    · intro _ h
      cases h

end Scaffold.Json

namespace Scaffold.Text

/-- The texts of a JSON array of strings. -/
def jsonTexts? (s : String) : Option (List String) :=
  match Json.readChars s.toList with
  | .ok (.list items) => items.mapM fun
    | .text s => some s
    | _ => none
  | _ => none

@[simp] theorem jsonTexts?_docTexts (texts : List String) :
    jsonTexts? ("[" ++ ", ".intercalate (texts.map docText) ++ "]") = some texts := by
  rw [jsonTexts?, Json.readChars_docTexts]
  simp only [List.mapM_map]
  exact List.mapM_pure.trans (congrArg some texts.map_id)

/-! ### Values of attributes -/

/-- Reads a value of an attribute. Refuses an ampersand that no entity begins with. -/
def readAttribute : List Char → Option (List Char)
  | '&' :: 'a' :: 'm' :: 'p' :: ';' :: rest => (readAttribute rest).map ('&' :: ·)
  | '&' :: 'q' :: 'u' :: 'o' :: 't' :: ';' :: rest => (readAttribute rest).map ('"' :: ·)
  | '&' :: 'l' :: 't' :: ';' :: rest => (readAttribute rest).map ('<' :: ·)
  | '&' :: 'g' :: 't' :: ';' :: rest => (readAttribute rest).map ('>' :: ·)
  | c :: rest => if c = '&' then none else (readAttribute rest).map (c :: ·)
  | [] => some []

theorem readAttribute_encodeAttribute (cs : List Char) :
    readAttribute (Markup.encodeAttribute cs) = some cs := by
  induction cs with
  | nil => rfl
  | cons c cs ih =>
    rw [Markup.encodeAttribute_eq, List.flatMap_cons, ← Markup.encodeAttribute_eq,
      Markup.attributeChar]
    repeat' split
    all_goals simp [*, readAttribute]

end Scaffold.Text
