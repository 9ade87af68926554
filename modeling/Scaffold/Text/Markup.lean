/-!
# Text in markup

Two places of a template take text from the document. An attribute value stands between double
quotation marks: `encodeAttribute` writes four characters as entities, one after another, and
`decodeAttribute` reads them back in one pass. Element content escapes the tag characters, and puts
a blank into every pair of opening braces, from left to right, so that it does not open an
interpolation.
-/

namespace Scaffold.Text.Markup

/-- Writes an entity in place of a character, wherever it stands. -/
def replaceAll (c : Char) (entity : String) (cs : List Char) : List Char :=
  cs.flatMap fun x => if x = c then entity.toList else [x]

/-- The characters of an attribute value. Ampersands come first, since every other entity brings one
in. -/
def encodeAttribute (cs : List Char) : List Char :=
  replaceAll '>' "&gt;" (replaceAll '<' "&lt;" (replaceAll '"' "&quot;"
    (replaceAll '&' "&amp;" cs)))

/-- Reads the four entities, from left to right, and keeps every other character. -/
def decodeAttribute : List Char → List Char
  | '&' :: 'a' :: 'm' :: 'p' :: ';' :: rest => '&' :: decodeAttribute rest
  | '&' :: 'q' :: 'u' :: 'o' :: 't' :: ';' :: rest => '"' :: decodeAttribute rest
  | '&' :: 'l' :: 't' :: ';' :: rest => '<' :: decodeAttribute rest
  | '&' :: 'g' :: 't' :: ';' :: rest => '>' :: decodeAttribute rest
  | c :: rest => c :: decodeAttribute rest
  | [] => []

/-- Parts each pair of opening braces, from left to right. -/
def partBraces : List Char → List Char
  | '{' :: '{' :: rest => '{' :: ' ' :: '{' :: partBraces rest
  | c :: rest => c :: partBraces rest
  | [] => []

/-- The characters of element content. -/
def encodeContent (cs : List Char) : List Char :=
  partBraces (replaceAll '>' "&gt;" (replaceAll '<' "&lt;" (replaceAll '&' "&amp;" cs)))

/-! ### Character by character -/

/-- One character of an attribute value. -/
def attributeChar (c : Char) : List Char :=
  if c = '&' then "&amp;".toList
  else if c = '"' then "&quot;".toList
  else if c = '<' then "&lt;".toList
  else if c = '>' then "&gt;".toList
  else [c]

/-- One character of element content. -/
def contentChar (c : Char) : List Char :=
  if c = '&' then "&amp;".toList
  else if c = '<' then "&lt;".toList
  else if c = '>' then "&gt;".toList
  else [c]

/-- No entity has a character in it that is replaced after it. -/
theorem encodeAttribute_eq (cs : List Char) : encodeAttribute cs = cs.flatMap attributeChar := by
  simp only [encodeAttribute, replaceAll, List.flatMap_assoc]
  congr 1
  funext c
  unfold attributeChar
  by_cases ha : c = '&'
  · subst ha; rfl
  by_cases hq : c = '"'
  · subst hq; rfl
  by_cases hl : c = '<'
  · subst hl; rfl
  · simp [ha, hq, hl]

theorem encodeContent_eq (cs : List Char) :
    encodeContent cs = partBraces (cs.flatMap contentChar) := by
  simp only [encodeContent, replaceAll, List.flatMap_assoc]
  congr 2
  funext c
  unfold contentChar
  by_cases ha : c = '&'
  · subst ha; rfl
  by_cases hl : c = '<'
  · subst hl; rfl
  · simp [ha, hl]

theorem decodeAttribute_attributeChar_append (c : Char) (rest : List Char) :
    decodeAttribute (attributeChar c ++ rest) = c :: decodeAttribute rest := by
  unfold attributeChar
  by_cases ha : c = '&'
  · subst ha; simp [decodeAttribute]
  · by_cases hq : c = '"'
    · subst hq; simp [decodeAttribute]
    · by_cases hl : c = '<'
      · subst hl; simp [decodeAttribute]
      · by_cases hg : c = '>'
        · subst hg; simp [decodeAttribute]
        · simp [ha, hq, hl, hg, decodeAttribute]

@[simp] theorem decodeAttribute_encodeAttribute (cs : List Char) :
    decodeAttribute (encodeAttribute cs) = cs := by
  induction cs with
  | nil => rfl
  | cons c cs ih =>
    rw [encodeAttribute_eq, List.flatMap_cons, decodeAttribute_attributeChar_append,
      ← encodeAttribute_eq, ih]

end Scaffold.Text.Markup

namespace Scaffold.Text

/-- A text as the value of an attribute between double quotation marks. -/
def attributeText (s : String) : String :=
  String.ofList (Markup.encodeAttribute s.toList)

def contentText (s : String) : String :=
  String.ofList (Markup.encodeContent s.toList)

end Scaffold.Text
